import ClientGen.CSharp.Declaration

/-!
# Compilation units

The types a source declares, in source order, each in the namespace that encloses it: the names of
nested namespaces are joined by dots, outermost first, and a namespace without a block takes what
follows it.
-/

namespace ClientGen.CSharp

/-- A type that a compilation unit declares. -/
inductive Declared where
  /-- A class. -/
  | classDecl (decl : ClassDecl)
  /-- Another type, by its name and namespace. -/
  | otherType (ref : TypeRef)
deriving Repr

/-- The name of a namespace within an enclosing one. -/
def scopeWithin (outer name : String) : String :=
  if outer = "" then name else outer ++ "." ++ name

mutual

/-- The types of one declaration in the namespace `scope`. -/
def Declaration.types (scope : String) : Declaration → Except SourceFault (List Declared)
  | .classDecl written => return [.classDecl (← written.toClass scope)]
  | .otherType name => return [.otherType { name := ← name.read, scope }]
  | .scope name members => do declaredTypes (scopeWithin scope (← name.read)) members
  | .fileScope _ => return []

/-- The types of a list of declarations in the namespace `scope`. -/
def declaredTypes (scope : String) : List Declaration → Except SourceFault (List Declared)
  | [] => return []
  | .fileScope name :: rest => do declaredTypes (← name.read) rest
  | declaration :: rest => do
    let types ← declaration.types scope
    return types ++ (← declaredTypes scope rest)

end

/-- The document read from a source, placed under a name in some folders. -/
def readDocument (s : Source) (name : String) (folders : List String) :
    Except SourceFault Document := do
  let types ← declaredTypes "" (Declaration.ofSource s)
  let class? := fun (d : Declared) => match d with
    | .classDecl decl => some decl
    | .otherType _ => none
  let other? := fun (d : Declared) => match d with
    | .classDecl _ => none
    | .otherType ref => some ref
  return { name, folders, classes := types.filterMap class?, types := types.filterMap other? }

end ClientGen.CSharp
