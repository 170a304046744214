import ClientGen.Project
import ClientGen.Text.Basic

/-!
# Solutions and symbol lookup

A solution is a list of projects with two indexes over their declarations: the classes by short
name, and the namespaces that declare a short name. Both list what they hold in the order of
declaration, project by project and document by document, so a name declared more than once means
its first declaration. The indexes are determined by the projects, and the type says so.
-/

namespace ClientGen

/-- Values filed under names; the values of one name stay in the order they were filed. -/
abbrev Index (α : Type) := List (String × List α)

namespace Index

variable {α : Type}

/-- The values filed under a name. -/
def find (index : Index α) (name : String) : List α :=
  (index.lookup name).getD []

/-- Change the values filed under a name; a new name goes to the end. -/
def update (name : String) (change : List α → List α) : Index α → Index α
  | [] => [(name, change [])]
  | (key, values) :: rest =>
    if key = name then (key, change values) :: rest else (key, values) :: update name change rest

/-- File a value behind the earlier values of the same name. -/
def add (index : Index α) (name : String) (value : α) : Index α :=
  index.update name (· ++ [value])

/-- File a value unless it is already filed under the name. -/
def addNew [DecidableEq α] (index : Index α) (name : String) (value : α) : Index α :=
  index.update name fun values => if value ∈ values then values else values ++ [value]

end Index

namespace Document

/-- The short names and scopes a document declares: its classes, then its other types. -/
def declarations (document : Document) : List (String × String) :=
  document.classes.map (fun c => (c.name, c.scope)) ++
    document.types.map (fun t => (t.name, t.scope))

end Document

/-- The classes of a list of projects by short name. -/
def classIndexOf (projects : List Project) : Index ClassDecl :=
  projects.foldl (fun index project =>
    project.documents.foldl (fun index document =>
      document.classes.foldl (fun index c => index.add c.name c) index) index) []

/-- The namespaces that declare each short name, without repetition. -/
def scopeIndexOf (projects : List Project) : Index String :=
  projects.foldl (fun index project =>
    project.documents.foldl (fun index document =>
      document.declarations.foldl (fun index (name, scope) => index.addNew name scope) index)
      index) []

/-- A solution: projects, indexed for symbol lookup. -/
structure Solution where
  /-- The projects in order. -/
  projects : List Project
  /-- The classes by short name. -/
  classIndex : Index ClassDecl := classIndexOf projects
  /-- The declaring namespaces by short name. -/
  scopeIndex : Index String := scopeIndexOf projects
  /-- The class index belongs to the projects. -/
  classIndex_eq : classIndex = classIndexOf projects := by rfl
  /-- The scope index belongs to the projects. -/
  scopeIndex_eq : scopeIndex = scopeIndexOf projects := by rfl

namespace Solution

/-- The solution made of a list of projects. -/
def ofProjects (projects : List Project) : Solution :=
  { projects }

/-- The ending of the assembly name of every front end. -/
def frontEndSuffix : String := "FrontEnd"

/-- The front ends of a product: the projects whose assembly name starts with the product's name
and ends like a front end. -/
def frontEnds (solution : Solution) (productName : String) : List Project :=
  solution.projects.filter fun project =>
    Text.hasStart productName project.assembly && Text.hasEnd frontEndSuffix project.assembly

/-- The scope of a short name: the first namespace that declares it, or empty. -/
def scopeOf (solution : Solution) (name : String) : String :=
  (solution.scopeIndex.find name).headD ""

mutual

/-- A reference with the scope of every type the solution declares, in its arguments too. A scope
that is already there is kept. -/
def resolve (solution : Solution) : TypeRef → TypeRef
  | ⟨name, scope, arguments, nullable, array⟩ =>
    ⟨name, if scope = "" then solution.scopeOf name else scope,
      solution.resolveAll arguments, nullable, array⟩

/-- Resolve every reference of a list. -/
def resolveAll (solution : Solution) : List TypeRef → List TypeRef
  | [] => []
  | ref :: refs => solution.resolve ref :: solution.resolveAll refs

end

/-- Resolving a list is resolving each member. -/
theorem resolveAll_eq_map (solution : Solution) (refs : List TypeRef) :
    solution.resolveAll refs = refs.map solution.resolve := by
  induction refs with
  | nil => rfl
  | cons ref refs ih => simp [resolveAll, ih]

/-- The class a reference means: the first of its short name, in its scope when it has one. -/
def findClass (solution : Solution) (ref : TypeRef) : Option ClassDecl :=
  (solution.classIndex.find ref.name).find? fun c => ref.scope = "" || c.scope = ref.scope

end Solution

end ClientGen
