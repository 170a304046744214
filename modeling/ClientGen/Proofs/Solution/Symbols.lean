import ClientGen.Proofs.Lookup
import ClientGen.Proofs.TypeRef
import ClientGen.Solution
import Mathlib.Data.List.Forall2

/-!
# Symbol lookup

A solution looks symbols up in two indexes that are filled once, one declaration after the other.
What an index holds under a name is said by an invariant of its filling: the class index holds the
classes of that name in order, and the scope index the scopes of that name in order and without
repetition. So a lookup finds what a scan of all declarations finds: the first declaration of the
name, project by project, document by document, and classes before the other types of a document.
-/

namespace ClientGen

/-- What a document declares under a short name. -/
inductive Symbol where
  /-- A class. -/
  | classDecl (c : ClassDecl)
  /-- Another type. -/
  | otherType (ref : TypeRef)

namespace Symbol

/-- The short name of a symbol. -/
def name : Symbol → String
  | classDecl c => c.name
  | otherType ref => ref.name

/-- The namespace that declares a symbol. -/
def scope : Symbol → String
  | classDecl c => c.scope
  | otherType ref => ref.scope

/-- The class that a symbol is, if it is one. -/
def class? : Symbol → Option ClassDecl
  | classDecl c => some c
  | otherType _ => none

end Symbol

/-- The symbols of a document: its classes, then its other types. -/
def Document.symbols (document : Document) : List Symbol :=
  document.classes.map .classDecl ++ document.types.map .otherType

/-- The symbols of some projects in order, project by project and document by document. -/
def symbolsOf (projects : List Project) : List Symbol :=
  projects.flatMap fun project => project.documents.flatMap (·.symbols)

/-- The scope of the first symbol of a name, or empty when there is no such symbol. -/
def scopeAmong (symbols : List Symbol) (name : String) : String :=
  match symbols.find? fun s => decide (s.name = name) with
  | some s => s.scope
  | none => ""

/-- The first class of the name of a reference, in its scope when it has one. -/
def classAmong (symbols : List Symbol) (ref : TypeRef) : Option ClassDecl :=
  (symbols.filterMap (·.class?)).find? fun c =>
    decide (c.name = ref.name ∧ (ref.scope ≠ "" → c.scope = ref.scope))

/-- A reference and what it becomes when the scopes it lacks are looked up among symbols, in its
arguments too. -/
inductive TypeRef.ScopedBy (symbols : List Symbol) : TypeRef → TypeRef → Prop
  /-- A scope that is given is kept. -/
  | given {name scope : String} {arguments inner : List TypeRef} {nullable array : Bool}
    (given : scope ≠ "") (each : List.Forall₂ (ScopedBy symbols) arguments inner) :
    ScopedBy symbols ⟨name, scope, arguments, nullable, array⟩
      ⟨name, scope, inner, nullable, array⟩
  /-- A scope that is not given is that of the first symbol of the name. -/
  | found {name : String} {arguments inner : List TypeRef} {nullable array : Bool}
    (each : List.Forall₂ (ScopedBy symbols) arguments inner) :
    ScopedBy symbols ⟨name, "", arguments, nullable, array⟩
      ⟨name, scopeAmong symbols name, inner, nullable, array⟩

/-! ### Filling an index -/

namespace Index

variable {α β : Type}

/-- An update changes what is under its name only. -/
theorem find_update (index : Index α) (name other : String) (change : List α → List α) :
    (index.update name change).find other =
      if other = name then change (index.find name) else index.find other := by
  induction index with
  | nil =>
    rw [update, find, lookup_cons_eq_ite]
    split <;> rfl
  | cons entry rest ih =>
    obtain ⟨key, values⟩ := entry
    simp only [find] at ih ⊢
    rw [update]
    by_cases hkey : key = name
    · rw [if_pos hkey, lookup_cons_eq_ite, lookup_cons_eq_ite, lookup_cons_eq_ite, if_pos hkey.symm]
      by_cases hother : other = key
      · rw [if_pos hother, if_pos (hother.trans hkey)]
        rfl
      · rw [if_neg hother, if_neg (hkey ▸ hother), if_neg hother]
    · rw [if_neg hkey, lookup_cons_eq_ite, lookup_cons_eq_ite, lookup_cons_eq_ite,
        if_neg (Ne.symm hkey)]
      by_cases hother : other = key
      · rw [if_pos hother, if_neg (hother ▸ hkey), if_pos hother]
      · rw [if_neg hother, if_neg hother, ih]

/-- An index that values were filed in has under a name the values of that name, in order. -/
theorem find_foldl_add (nameOf : β → String) (valueOf : β → α) (entries : List β) (name : String) :
    (entries.foldl (fun index entry => add index (nameOf entry) (valueOf entry)) []).find name =
      (entries.filter fun entry => decide (nameOf entry = name)).map valueOf := by
  induction entries using List.reverseRecOn with
  | nil => rfl
  | append_singleton entries entry ih =>
    rw [List.foldl_concat, add, find_update, List.filter_append, List.map_append]
    by_cases h : name = nameOf entry
    · have hlast : [entry].filter (fun entry => decide (nameOf entry = name)) = [entry] := by simp [h]
      rw [if_pos h, ← h, ih, hlast, List.map_singleton]
    · have hlast : [entry].filter (fun entry => decide (nameOf entry = name)) = [] := by
        simp [Ne.symm h]
      rw [if_neg h, ih, hlast, List.map_nil, List.append_nil]

/-- An index that only new values were filed in has under a name the values of that name, in the
order in which they first occurred. -/
theorem find_foldl_addNew [DecidableEq α] (nameOf : β → String) (valueOf : β → α)
    (entries : List β) (name : String) :
    (entries.foldl (fun index entry => addNew index (nameOf entry) (valueOf entry)) []).find name =
      ((entries.filter fun entry => decide (nameOf entry = name)).map valueOf).eraseDups := by
  induction entries using List.reverseRecOn with
  | nil => rfl
  | append_singleton entries entry ih =>
    rw [List.foldl_concat, addNew, find_update, List.filter_append, List.map_append]
    by_cases h : name = nameOf entry
    · have hlast : [entry].filter (fun entry => decide (nameOf entry = name)) = [entry] := by simp [h]
      rw [if_pos h, ← h, ih, hlast, List.map_singleton, eraseDups_append_singleton]
      simp only [List.mem_eraseDups]
    · have hlast : [entry].filter (fun entry => decide (nameOf entry = name)) = [] := by
        simp [Ne.symm h]
      rw [if_neg h, ih, hlast, List.map_nil, List.append_nil]

end Index

/-! ### The indexes of a solution -/

/-- The classes among the symbols of a document are its classes. -/
theorem Document.filterMap_class?_symbols (document : Document) :
    document.symbols.filterMap (·.class?) = document.classes := by
  simp [symbols, List.filterMap_map, Symbol.class?]

/-- The class index is filled with the classes among the symbols, in order. -/
theorem classIndexOf_eq (projects : List Project) :
    classIndexOf projects = ((symbolsOf projects).filterMap (·.class?)).foldl
      (fun (index : Index ClassDecl) c => index.add c.name c) [] := by
  simp only [classIndexOf, symbolsOf, List.filterMap_flatMap, Document.filterMap_class?_symbols,
    List.foldl_flatMap]

/-- The scope index is filled with the scopes of the symbols, in order. -/
theorem scopeIndexOf_eq (projects : List Project) :
    scopeIndexOf projects = (symbolsOf projects).foldl
      (fun (index : Index String) s => index.addNew s.name s.scope) [] := by
  have hindex : scopeIndexOf projects = projects.foldl (fun index project =>
      project.documents.foldl (fun index document =>
        document.declarations.foldl
          (fun (index : Index String) entry => index.addNew entry.1 entry.2) index) index) [] := rfl
  have hdocument (document : Document) (index : Index String) :
      document.declarations.foldl
        (fun (index : Index String) entry => index.addNew entry.1 entry.2) index =
        document.symbols.foldl (fun index s => index.addNew s.name s.scope) index := by
    simp only [Document.declarations, Document.symbols, List.foldl_append, List.foldl_map,
      Symbol.name, Symbol.scope]
  simp only [hindex, symbolsOf, List.foldl_flatMap, hdocument]

namespace Solution

variable (solution : Solution)

/-- A solution is made of its projects: they determine its indexes. -/
theorem eq_ofProjects : solution = ofProjects solution.projects := by
  obtain ⟨projects, _, _, rfl, rfl⟩ := solution
  rfl

/-- The scope of a short name is that of the first symbol of the name. -/
theorem scopeOf_eq (name : String) :
    solution.scopeOf name = scopeAmong (symbolsOf solution.projects) name := by
  rw [scopeOf, solution.scopeIndex_eq, scopeIndexOf_eq, Index.find_foldl_addNew, scopeAmong,
    ← List.head?_filter]
  cases (symbolsOf solution.projects).filter fun s => decide (s.name = name) with
  | nil => rfl
  | cons s rest =>
    rw [List.map_cons, List.eraseDups_cons]
    rfl

/-- The class that a reference means is the first one of its name, in its scope when it has one. -/
theorem findClass_eq (ref : TypeRef) :
    solution.findClass ref = classAmong (symbolsOf solution.projects) ref := by
  rw [findClass, solution.classIndex_eq, classIndexOf_eq,
    Index.find_foldl_add (fun c : ClassDecl => c.name) fun c => c, List.map_id', List.find?_filter,
    classAmong]
  congr 1
  funext c
  by_cases hname : c.name = ref.name <;> by_cases hscope : ref.scope = "" <;> simp [hname, hscope]

/-- A reference is resolved by looking up the scopes it lacks among the symbols of the solution. -/
theorem scopedBy_resolve (ref : TypeRef) :
    ref.ScopedBy (symbolsOf solution.projects) (solution.resolve ref) := by
  induction ref using TypeRef.induct with
  | step name scope arguments nullable array ih =>
    have hinner : List.Forall₂ (TypeRef.ScopedBy (symbolsOf solution.projects)) arguments
        (solution.resolveAll arguments) := by
      rw [resolveAll_eq_map, List.forall₂_map_right_iff]
      exact List.forall₂_same.mpr ih
    rw [resolve]
    by_cases hscope : scope = ""
    · rw [if_pos hscope, scopeOf_eq, hscope]
      exact .found hinner
    · rw [if_neg hscope]
      exact .given hscope hinner

end Solution

/-- Lists related to the same list are equal when every member has one related value at most. -/
theorem eq_of_forall₂ {α β : Type} {R : α → β → Prop} {values : List α} {first second : List β}
    (unique : ∀ value ∈ values, ∀ a b, R value a → R value b → a = b)
    (hfirst : List.Forall₂ R values first) (hsecond : List.Forall₂ R values second) :
    first = second := by
  induction hfirst generalizing second with
  | nil => exact (List.forall₂_nil_left_iff.mp hsecond).symm
  | cons ha _ ih =>
    obtain ⟨b, rest, hb, hrest, rfl⟩ := List.forall₂_cons_left_iff.mp hsecond
    rw [unique _ List.mem_cons_self _ _ ha hb,
      ih (fun value hvalue => unique value (List.mem_cons_of_mem _ hvalue)) hrest]

/-- There is only one way to look up the scopes that a reference lacks. -/
theorem TypeRef.ScopedBy.unique {symbols : List Symbol} {ref first second : TypeRef}
    (hfirst : ref.ScopedBy symbols first) (hsecond : ref.ScopedBy symbols second) :
    first = second := by
  induction ref using TypeRef.induct generalizing first second with
  | step name scope arguments nullable array ih =>
    have hinner {as bs : List TypeRef} (has : List.Forall₂ (ScopedBy symbols) arguments as)
        (hbs : List.Forall₂ (ScopedBy symbols) arguments bs) : as = bs :=
      eq_of_forall₂ (fun a ha _ _ => ih a ha) has hbs
    cases hfirst with
    | given hscope has =>
      cases hsecond with
      | given _ hbs => rw [hinner has hbs]
      | found _ => exact absurd rfl hscope
    | found has =>
      cases hsecond with
      | given hscope _ => exact absurd rfl hscope
      | found hbs => rw [hinner has hbs]

/-- Looking symbols up in the indexes of a solution is scanning all declarations of its projects:
resolving a reference gives it, and its arguments, the scope of the first symbol of the name where
a scope is lacking, and finding a class gives the first one of the name and the scope. -/
theorem Solution.lookup_eq_scan (projects : List Project) (ref : TypeRef) :
    (∀ other, (ofProjects projects).resolve ref = other ↔
        ref.ScopedBy (symbolsOf projects) other) ∧
      (ofProjects projects).findClass ref = classAmong (symbolsOf projects) ref := by
  have hresolve := (ofProjects projects).scopedBy_resolve ref
  refine ⟨fun other => ⟨?_, hresolve.unique⟩, (ofProjects projects).findClass_eq ref⟩
  rintro rfl
  exact hresolve

/-- A class and, before it, another type share a name: the type gives the name its scope, and the
reference that has that scope means no class. -/
example :
    let projects : List Project := [{
      name := "Shop"
      documents := [
        { name := "Dto.cs", types := [{ name := "Order", scope := "Shop.Dto" }] },
        { name := "Order.cs", classes := [{ name := "Order", scope := "Shop.Core" }] }] }]
    scopeAmong (symbolsOf projects) "Order" = "Shop.Dto" ∧
      (classAmong (symbolsOf projects) { name := "Order" }).map (·.scope) = some "Shop.Core" ∧
      classAmong (symbolsOf projects) { name := "Order", scope := "Shop.Dto" } = none := by
  decide

end ClientGen
