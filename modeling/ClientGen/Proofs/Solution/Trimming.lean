import ClientGen.Proofs.Controller.Endpoints
import ClientGen.Proofs.Controller.Inheritance
import ClientGen.Proofs.Solution.Agreement

/-!
# Solutions without methods that are no endpoints

A method is out of sight when it is not public, or taken out of routing, or answers with a redirect.
Such methods can be left out of any classes of a solution. What the solution declares stays the same, so
every type is resolved as before, and a base type means the same class, or what is left of it. So every
controller, or what is left of it, has the services that it had, or the same error. Nothing is assumed
of the methods that are left out: they may lack documentation, or have no route that can be read.
-/

namespace ClientGen

/-- A list, and what is left when some members that have a property are left out. -/
inductive LeavesOut {α : Type} (P : α → Prop) : List α → List α → Prop
  /-- Nothing is left of nothing. -/
  | nil : LeavesOut P [] []
  /-- Any member may stay. -/
  | keep (a : α) {members left : List α} (rest : LeavesOut P members left) :
    LeavesOut P (a :: members) (a :: left)
  /-- A member with the property may go. -/
  | leave {a : α} {members left : List α} (out : P a) (rest : LeavesOut P members left) :
    LeavesOut P (a :: members) left

/-- The members that have the property do not matter for what is selected among the others. -/
theorem LeavesOut.filter_eq {α : Type} {P : α → Prop} {members left : List α}
    (h : LeavesOut P members left) {p : α → Bool} (hp : ∀ a, P a → p a = false) :
    left.filter p = members.filter p := by
  induction h with
  | nil => rfl
  | keep a _ ih => rw [List.filter_cons, List.filter_cons, ih]
  | leave out _ ih => rw [ih, List.filter_cons_of_neg (by simp [hp _ out])]

/-- A method is no endpoint of a client. -/
inductive Method.OutOfSight (solution : Solution) (method : Method) : Prop
  /-- It is not public. -/
  | hidden (h : "public" ∉ method.modifiers)
  /-- An attribute takes it out of routing. -/
  | optedOut {a : Attribute} (ha : a ∈ method.attributes)
    (h : a.shortName = "NonAction" ∨ a.shortName = "NonActionAttribute")
  /-- Its unwrapped answer has the word of a redirect in its name. -/
  | redirect (h : method.Redirects solution)

/-- A class, and what is left of it without some methods that are out of sight. -/
def ClassDecl.Trims (solution : Solution) (c left : ClassDecl) : Prop :=
  ∃ methods, LeavesOut (·.OutOfSight solution) c.methods methods ∧ left = { c with methods }

/-- A document, and what is left of it without some methods of its classes. -/
def Document.Trims (solution : Solution) (document left : Document) : Prop :=
  ∃ classes, List.Forall₂ (ClassDecl.Trims solution) document.classes classes ∧
    left = { document with classes }

/-- A project, and what is left of it without some methods of its classes. -/
def Project.Trims (solution : Solution) (project left : Project) : Prop :=
  ∃ documents, List.Forall₂ (Document.Trims solution) project.documents documents ∧
    left = { project with documents }

/-- A method out of sight is no endpoint. -/
theorem Method.OutOfSight.isEndpoint_eq {solution : Solution} {method : Method}
    (h : method.OutOfSight solution) : method.isEndpoint solution = false := by
  rw [isEndpoint, Bool.and_eq_false_iff]
  cases h with
  | hidden h =>
    left
    rw [isAction_eq, decide_eq_false_iff_not]
    exact fun hoffered => h hoffered.1
  | optedOut ha h =>
    left
    rw [isAction_eq, decide_eq_false_iff_not]
    exact fun hoffered => not_or.mpr (hoffered.2 _ ha) h
  | redirect h =>
    right
    rw [Bool.not_eq_false', isRedirect]
    exact Text.contains_iff.mpr h

/-! ### Looking symbols up -/

variable {projects rest : List Project}

/-- Searching two lists of related members by properties that agree on them finds related members, or
none in both. -/
theorem rel_find? {α β : Type} {R : α → β → Prop} {p : α → Bool} {q : β → Bool} {as : List α}
    {bs : List β} (hpq : ∀ a b, R a b → p a = q b) (h : List.Forall₂ R as bs) :
    Option.Rel R (as.find? p) (bs.find? q) := by
  induction h with
  | nil => exact .none
  | @cons a b _ _ hab _ ih =>
    rw [List.find?_cons, List.find?_cons, hpq a b hab]
    cases q b with
    | true => exact .some hab
    | false => exact ih

/-- What a document declares is what is left of it declares. -/
theorem Document.Trims.declarations_eq {solution : Solution} {document left : Document}
    (h : document.Trims solution left) : left.declarations = document.declarations := by
  obtain ⟨classes, hclasses, rfl⟩ := h
  have hnames : List.Forall₂ Eq (document.classes.map fun c => (c.name, c.scope))
      (classes.map fun c => (c.name, c.scope)) := by
    refine List.rel_map ?_ hclasses
    rintro c _ ⟨methods, -, rfl⟩
    rfl
  rw [List.forall₂_eq_eq_eq] at hnames
  rw [declarations, declarations, hnames]

/-- The scopes that are filed for some projects are those for what is left of them. -/
theorem scopeIndexOf_of_trims {solution : Solution}
    (h : List.Forall₂ (Project.Trims solution) projects rest) :
    scopeIndexOf rest = scopeIndexOf projects := by
  symm
  refine List.rel_foldl (P := Eq) ?_ rfl h
  rintro index _ rfl project left ⟨documents, hdocuments, rfl⟩
  refine List.rel_foldl (P := Eq) ?_ rfl hdocuments
  rintro index _ rfl document left hdocument
  simp only [hdocument.declarations_eq]

/-- The classes of some projects are left over one by one. -/
theorem classesOf_of_trims {solution : Solution}
    (h : List.Forall₂ (Project.Trims solution) projects rest) :
    List.Forall₂ (ClassDecl.Trims solution) (classesOf projects) (classesOf rest) := by
  refine List.rel_flatMap h ?_
  rintro project _ ⟨documents, hdocuments, rfl⟩
  refine List.rel_flatMap hdocuments ?_
  rintro document _ ⟨classes, hclasses, rfl⟩
  exact hclasses

section Trimmed

variable (h : List.Forall₂ (Project.Trims (.ofProjects projects)) projects rest)
include h

/-- Every reference is resolved as before. -/
theorem resolve_of_trims (ref : TypeRef) :
    (Solution.ofProjects rest).resolve ref = (Solution.ofProjects projects).resolve ref := by
  refine Solution.resolve_congr ref fun name _ => ?_
  change ((scopeIndexOf rest).find name).headD "" = ((scopeIndexOf projects).find name).headD ""
  rw [scopeIndexOf_of_trims h]

/-- A reference means what is left of the class that it meant. -/
theorem findClass_of_trims (ref : TypeRef) :
    Option.Rel (ClassDecl.Trims (.ofProjects projects)) ((Solution.ofProjects projects).findClass ref)
      ((Solution.ofProjects rest).findClass ref) := by
  rw [Solution.findClass_eq, Solution.findClass_eq, classAmong, classAmong,
    filterMap_class?_symbolsOf, filterMap_class?_symbolsOf]
  refine rel_find? ?_ (classesOf_of_trims h)
  rintro c _ ⟨methods, -, rfl⟩
  rfl

/-- A class keeps its endpoints. -/
theorem endpoints_of_trims {c left : ClassDecl} (hc : c.Trims (.ofProjects projects) left) :
    left.endpoints (.ofProjects rest) = c.endpoints (.ofProjects projects) := by
  obtain ⟨methods, hmethods, rfl⟩ := hc
  have hsame (method : Method) : method.isEndpoint (.ofProjects rest) =
      method.isEndpoint (.ofProjects projects) := by
    rw [Method.isEndpoint, Method.isEndpoint, Method.isRedirect, Method.isRedirect,
      Method.answerType_congr (resolve_of_trims h method.returnType)]
  simp only [ClassDecl.endpoints, hsame]
  exact hmethods.filter_eq fun method hout => hout.isEndpoint_eq

/-- The walk over base classes finds the same endpoints, or ends in the same error. -/
theorem ancestors_of_trims (name : String) (depth : Nat) {c left : ClassDecl}
    (hc : c.Trims (.ofProjects projects) left) :
    (left.ancestors (.ofProjects rest) name depth).map
        (fun above => above.flatMap (·.endpoints (.ofProjects rest))) =
      (c.ancestors (.ofProjects projects) name depth).map
        (fun above => above.flatMap (·.endpoints (.ofProjects projects))) := by
  -- one more class in front adds its endpoints in front
  have hcons (solution : Solution) (first : ClassDecl)
      (others : Except GenerationError (List ClassDecl)) :
      (others >>= fun above => pure (first :: above)).map
          (fun above => above.flatMap (·.endpoints solution)) =
        (others.map fun above => above.flatMap (·.endpoints solution)).map
          (first.endpoints solution ++ ·) := by
    cases others <;> rfl
  induction depth generalizing c left with
  | zero => simp only [ClassDecl.ancestors, Except.map, List.flatMap_nil]
  | succ depth ih =>
    have hnext : left.nextBase? = c.nextBase? := by
      obtain ⟨methods, -, rfl⟩ := hc
      rfl
    rw [ClassDecl.ancestors, ClassDecl.ancestors, hnext]
    cases c.nextBase? with
    | none => simp only [Except.map, List.flatMap_nil]
    | some base =>
      have hfound := findClass_of_trims h base
      dsimp only
      generalize (Solution.ofProjects projects).findClass base = found at hfound ⊢
      generalize (Solution.ofProjects rest).findClass base = found' at hfound ⊢
      cases hfound with
      | none => simp only [Except.map]
      | some habove =>
        dsimp only
        rw [hcons, hcons, ih habove, endpoints_of_trims h habove]

/-- A controller keeps its services, or its error. -/
theorem services_of_trims {controller left : ClassDecl}
    (hc : controller.Trims (.ofProjects projects) left) :
    left.services (.ofProjects rest) = controller.services (.ofProjects projects) := by
  have hname : left.name = controller.name := by
    obtain ⟨methods, -, rfl⟩ := hc
    rfl
  have hendpoint : (fun method : Method => method.toEndpoint (.ofProjects rest)) =
      fun method => method.toEndpoint (.ofProjects projects) :=
    funext fun method => Method.toEndpoint_congr fun ref _ => resolve_of_trims h ref
  rw [ClassDecl.services_eq_mapM_endpoints, ClassDecl.services_eq_mapM_endpoints, hname,
    ancestors_of_trims h _ _ hc, endpoints_of_trims h hc, hendpoint]

end Trimmed

end ClientGen
