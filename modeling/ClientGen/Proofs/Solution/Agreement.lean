import ClientGen.Controller
import ClientGen.Proofs.Failure
import ClientGen.Proofs.Solution.Symbols

/-!
# What a controller reads of its solution

The services of a controller depend on a solution only through the names that its classes mention:
the scopes of the types in base classes and signatures, and the base classes themselves. Two
solutions that look these names up alike, for classes that are closed under base classes, give the
same services and the same errors to every controller among them. So does a solution and the same
solution with one more project, wherever that project stands, as long as it declares nothing that
the others mention.
-/

namespace ClientGen

/-! ### The names that are mentioned -/

mutual

/-- The short names in a reference, its own first, then those in its arguments. -/
def TypeRef.names : TypeRef → List String
  | ⟨name, _, arguments, _, _⟩ => name :: TypeRef.namesAll arguments

/-- The short names in a list of references. -/
def TypeRef.namesAll : List TypeRef → List String
  | [] => []
  | ref :: refs => ref.names ++ TypeRef.namesAll refs

end

/-- The names in a list of references are those in each member. -/
theorem TypeRef.namesAll_eq_flatMap (refs : List TypeRef) :
    namesAll refs = refs.flatMap names := by
  induction refs with
  | nil => rfl
  | cons ref refs ih => rw [namesAll, ih, List.flatMap_cons]

/-- The types in the signature of a method: what it answers, then its parameters. -/
def Method.types (method : Method) : List TypeRef :=
  method.returnType :: method.parameters.map (·.type)

/-- The types that a class mentions: its base class, and those in the signatures of its methods. -/
def ClassDecl.types (c : ClassDecl) : List TypeRef :=
  c.baseType.toList ++ c.methods.flatMap (·.types)

/-- The short names that a class mentions. -/
def ClassDecl.mentionedNames (c : ClassDecl) : List String :=
  c.types.flatMap (·.names)

/-- A type that a class mentions gives its names to the class. -/
theorem ClassDecl.mem_mentionedNames {c : ClassDecl} {ref : TypeRef} (href : ref ∈ c.types)
    {name : String} (hname : name ∈ ref.names) : name ∈ c.mentionedNames :=
  List.mem_flatMap.mpr ⟨ref, href, hname⟩

/-- The types in the signature of a method are mentioned by its class. -/
theorem ClassDecl.mem_types_of_method {c : ClassDecl} {method : Method} (hmethod : method ∈ c.methods)
    {ref : TypeRef} (href : ref ∈ method.types) : ref ∈ c.types :=
  List.mem_append_right _ (List.mem_flatMap.mpr ⟨method, hmethod, href⟩)

/-! ### Two solutions that agree -/

/-- Two solutions look up alike what some classes mention, and the base classes they find are among
these classes again. -/
structure Solution.AgreesOn (classes : List ClassDecl) (left right : Solution) : Prop where
  /-- A name that is mentioned has the same scope. -/
  scopeOf_eq : ∀ c ∈ classes, ∀ name ∈ c.mentionedNames, left.scopeOf name = right.scopeOf name
  /-- A base class is found alike, or not found in both. -/
  findClass_eq : ∀ c ∈ classes, ∀ base ∈ c.baseType, left.findClass base = right.findClass base
  /-- A base class that is found is one of the classes. -/
  closed : ∀ c ∈ classes, ∀ base ∈ c.baseType, ∀ above, right.findClass base = some above →
    above ∈ classes

variable {left right : Solution}

/-- A reference is resolved alike by solutions that give its names the same scopes. -/
theorem Solution.resolve_congr (ref : TypeRef)
    (h : ∀ name ∈ ref.names, left.scopeOf name = right.scopeOf name) :
    left.resolve ref = right.resolve ref := by
  induction ref using TypeRef.induct with
  | step name scope arguments nullable array ih =>
    rw [TypeRef.names, TypeRef.namesAll_eq_flatMap, List.forall_mem_cons] at h
    have harguments : arguments.map left.resolve = arguments.map right.resolve :=
      List.map_congr_left fun argument hargument =>
        ih argument hargument fun n hn => h.2 n (List.mem_flatMap.mpr ⟨argument, hargument, hn⟩)
    rw [resolve, resolve, resolveAll_eq_map, resolveAll_eq_map, h.1, harguments]

/-- A method answers with the same type when its declared one is resolved alike. -/
theorem Method.answerType_congr {method : Method}
    (h : left.resolve method.returnType = right.resolve method.returnType) :
    method.answerType left = method.answerType right := by
  rw [answerType, answerType, h]

/-- A method becomes the same endpoint, or fails alike, when its types are resolved alike. -/
theorem Method.toEndpoint_congr {method : Method}
    (h : ∀ ref ∈ method.types, left.resolve ref = right.resolve ref) :
    method.toEndpoint left = method.toEndpoint right := by
  rw [types, List.forall_mem_cons] at h
  have hparameters : method.parameters.map (·.toService left) =
      method.parameters.map (·.toService right) := by
    refine List.map_congr_left fun p hp => ?_
    rw [MethodParameter.toService, MethodParameter.toService,
      h.2 p.type (List.mem_map_of_mem hp)]
  rw [toEndpoint, toEndpoint, answerType_congr h.1, hparameters]

/-- A method becomes the same service, or fails alike, when its types are resolved alike. -/
theorem Method.toService_congr {method : Method}
    (h : ∀ ref ∈ method.types, left.resolve ref = right.resolve ref) :
    method.toService left = method.toService right := by
  have hanswer := answerType_congr (h method.returnType List.mem_cons_self)
  rw [toService, toService, isRedirect, isRedirect, hanswer, toEndpoint_congr h]

namespace Solution.AgreesOn

variable {classes : List ClassDecl}

/-- The types that one of the classes mentions are resolved alike. -/
theorem resolve_eq (agree : AgreesOn classes left right) {c : ClassDecl} (hc : c ∈ classes)
    {ref : TypeRef} (href : ref ∈ c.types) : left.resolve ref = right.resolve ref :=
  resolve_congr ref fun name hname =>
    agree.scopeOf_eq c hc name (ClassDecl.mem_mentionedNames href hname)

/-- The walk over base classes finds the same classes, or ends in the same error. -/
theorem ancestors_eq (agree : AgreesOn classes left right) (controller : String) (depth : Nat)
    {c : ClassDecl} (hc : c ∈ classes) :
    c.ancestors left controller depth = c.ancestors right controller depth := by
  induction depth generalizing c with
  | zero => rfl
  | succ depth ih =>
    rw [ClassDecl.ancestors, ClassDecl.ancestors]
    cases hbase : c.nextBase? with
    | none => rfl
    | some base =>
      have hbaseType : base ∈ c.baseType := (Option.filter_eq_some_iff.mp hbase).1
      simp only [agree.findClass_eq c hc base hbaseType]
      cases hfound : right.findClass base with
      | none => rfl
      | some above => simp only [ih (agree.closed c hc base hbaseType above hfound)]

/-- The walk over base classes stays among the classes. -/
theorem mem_of_ancestors (agree : AgreesOn classes left right) {controller : String} {depth : Nat}
    {c : ClassDecl} (hc : c ∈ classes) {above : List ClassDecl}
    (h : c.ancestors right controller depth = .ok above) : ∀ a ∈ above, a ∈ classes := by
  induction depth generalizing c above with
  | zero =>
    cases h
    simp
  | succ depth ih =>
    rw [ClassDecl.ancestors] at h
    cases hbase : c.nextBase? with
    | none =>
      rw [hbase] at h
      cases h
      simp
    | some base =>
      have hbaseType : base ∈ c.baseType := (Option.filter_eq_some_iff.mp hbase).1
      cases hfound : right.findClass base with
      | none => simp [hbase, hfound] at h
      | some first =>
        have hfirst := agree.closed c hc base hbaseType first hfound
        simp only [hbase, hfound] at h
        obtain ⟨rest, hrest, h⟩ := bind_eq_ok_iff.mp h
        rw [← Except.ok.inj h, List.forall_mem_cons]
        exact ⟨hfirst, ih hfirst hrest⟩

/-- A controller among the classes has the same services, or fails alike. -/
theorem services_eq (agree : AgreesOn classes left right) {controller : ClassDecl}
    (hcontroller : controller ∈ classes) :
    controller.services left = controller.services right := by
  have hactions : controller.actions left = controller.actions right := by
    rw [ClassDecl.actions, ClassDecl.actions, agree.ancestors_eq _ _ hcontroller]
  rw [ClassDecl.services, ClassDecl.services, hactions]
  cases hmethods : controller.actions right with
  | error e => rw [bind_error_of_first rfl, bind_error_of_first rfl]
  | ok methods =>
    obtain ⟨above, habove, hmade⟩ := bind_eq_ok_iff.mp hmethods
    have hmember : ∀ c ∈ controller :: above, c ∈ classes :=
      List.forall_mem_cons.mpr ⟨hcontroller, agree.mem_of_ancestors hcontroller habove⟩
    have hsame : ∀ method ∈ methods, method.toService left = method.toService right := by
      intro method hmethod
      rw [← Except.ok.inj hmade] at hmethod
      obtain ⟨c, hc, hmethod⟩ := List.mem_flatMap.mp (List.mem_filter.mp hmethod).1
      exact Method.toService_congr fun ref href =>
        agree.resolve_eq (hmember c hc) (ClassDecl.mem_types_of_method hmethod href)
    have hfound : methods.mapM (·.toService left) = methods.mapM (·.toService right) :=
      mapM_congr_left hsame
    simp only [bind, Except.bind, hfound]

end Solution.AgreesOn

/-! ### One more project -/

/-- The classes of some projects, in order. -/
def classesOf (projects : List Project) : List ClassDecl :=
  projects.flatMap fun project => project.documents.flatMap (·.classes)

/-- The short names that the classes of some projects mention. -/
def mentionedNames (projects : List Project) : List String :=
  (classesOf projects).flatMap (·.mentionedNames)

namespace Project

/-- The short names of the classes and the other types that a project declares. -/
def declaredNames (project : Project) : List String :=
  (symbolsOf [project]).map (·.name)

/-- A project is unrelated to others when it declares no name that their classes mention. -/
def UnrelatedTo (projects : List Project) (project : Project) : Prop :=
  ∀ name ∈ project.declaredNames, name ∉ mentionedNames projects

/-- It is decidable whether a project is unrelated to others. -/
instance (projects : List Project) (project : Project) : Decidable (project.UnrelatedTo projects) :=
  inferInstanceAs (Decidable (∀ name ∈ project.declaredNames, name ∉ mentionedNames projects))

end Project

/-- The classes among the symbols of some projects are the classes of the projects. -/
theorem filterMap_class?_symbolsOf (projects : List Project) :
    (symbolsOf projects).filterMap (·.class?) = classesOf projects := by
  simp only [symbolsOf, classesOf, List.filterMap_flatMap, Document.filterMap_class?_symbols]

/-- The symbols of one more project stand between those of the projects before and after it. -/
theorem symbolsOf_insert (before after : List Project) (project : Project) :
    symbolsOf (before ++ project :: after) =
      symbolsOf before ++ (symbolsOf [project] ++ symbolsOf after) := by
  simp [symbolsOf]

section Insert

variable {before between after : List Symbol}

/-- Symbols of other names do not change the scope of a name. -/
theorem scopeAmong_insert {name : String} (h : ∀ s ∈ between, s.name ≠ name) :
    scopeAmong (before ++ (between ++ after)) name = scopeAmong (before ++ after) name := by
  have hnone : between.find? (fun s => decide (s.name = name)) = none := by simpa using h
  rw [scopeAmong, scopeAmong, List.find?_append, List.find?_append, List.find?_append, hnone,
    Option.none_or]

/-- Symbols of other names do not change the class that a reference means. -/
theorem classAmong_insert {ref : TypeRef} (h : ∀ s ∈ between, s.name ≠ ref.name) :
    classAmong (before ++ (between ++ after)) ref = classAmong (before ++ after) ref := by
  have hclasses (c : ClassDecl) (hc : c ∈ between.filterMap (·.class?)) : c.name ≠ ref.name := by
    obtain ⟨s, hs, hclass⟩ := List.mem_filterMap.mp hc
    cases s with
    | classDecl d =>
      obtain rfl := Option.some.inj hclass
      exact h _ hs
    | otherType other => cases hclass
  have hnone : (between.filterMap (·.class?)).find? (fun c =>
      decide (c.name = ref.name ∧ (ref.scope ≠ "" → c.scope = ref.scope))) = none := by
    rw [List.find?_eq_none]
    intro c hc
    simp [hclasses c hc]
  simp only [classAmong, List.filterMap_append, List.find?_append, hnone, Option.none_or]

end Insert

/-- A class that is looked up is one of the classes of the projects. -/
theorem mem_classesOf_of_findClass {projects : List Project} {ref : TypeRef} {c : ClassDecl}
    (h : (Solution.ofProjects projects).findClass ref = some c) : c ∈ classesOf projects := by
  rw [Solution.findClass_eq, classAmong, filterMap_class?_symbolsOf] at h
  exact List.mem_of_find?_eq_some h

/-- A solution agrees with the same solution and one more project, which is unrelated to it, on all
of its classes. -/
theorem Solution.agreesOn_insert {before after : List Project} {project : Project}
    (unrelated : project.UnrelatedTo (before ++ after)) :
    AgreesOn (classesOf (before ++ after)) (ofProjects (before ++ project :: after))
      (ofProjects (before ++ after)) := by
  have hother {c : ClassDecl} (hc : c ∈ classesOf (before ++ after)) {name : String}
      (hname : name ∈ c.mentionedNames) : ∀ s ∈ symbolsOf [project], s.name ≠ name := by
    rintro s hs rfl
    exact unrelated s.name (List.mem_map_of_mem hs) (List.mem_flatMap.mpr ⟨c, hc, hname⟩)
  have happend : symbolsOf (before ++ after) = symbolsOf before ++ symbolsOf after := by
    simp [symbolsOf]
  refine ⟨fun c hc name hname => ?_, fun c hc base hbase => ?_, fun c hc base hbase above habove => ?_⟩
  · rw [scopeOf_eq, scopeOf_eq, ofProjects, ofProjects, symbolsOf_insert, happend,
      scopeAmong_insert (hother hc hname)]
  · have href : base ∈ c.types := List.mem_append_left _ (Option.mem_toList.mpr hbase)
    have hown : base.name ∈ base.names := by
      cases base
      exact List.mem_cons_self
    have hname := ClassDecl.mem_mentionedNames href hown
    rw [findClass_eq, findClass_eq, ofProjects, ofProjects, symbolsOf_insert, happend,
      classAmong_insert (hother hc hname)]
  · exact mem_classesOf_of_findClass habove

end ClientGen
