import ClientGen.CSharp.Literal
import ClientGen.CSharp.TypeSyntax
import ClientGen.Project

/-!
# Attributes as they are written

The attributes in a bracketed list, with their arguments. Only an argument that is one regular or
verbatim string literal has a value; a name before an argument is passed over.
-/

namespace ClientGen.CSharp

/-- An argument of an attribute. -/
inductive ArgumentSyntax where
  /-- A regular string literal. -/
  | regular (text : Source)
  /-- A verbatim string literal. -/
  | verbatim (text : Source)
  /-- Any other expression. -/
  | other
deriving Repr, DecidableEq

namespace ArgumentSyntax

/-- What is left of an argument after its name, if it has one. -/
def withoutName : List Tree → List Tree
  | name :: mark :: rest =>
    if name.name?.isSome && (mark.isSymbol ':' || mark.isSymbol '=') &&
        !rest.head?.any (fun next => [':', '=', '>'].any next.isSymbol) then rest
    else name :: mark :: rest
  | trees => trees

/-- The argument written by some trees. -/
def ofTrees (trees : List Tree) : ArgumentSyntax :=
  match withoutName trees with
  | [.leaf ⟨_, .regularString, text⟩] => .regular text
  | [.leaf ⟨_, .verbatimString, text⟩] => .verbatim text
  | _ => .other

/-- The value of an argument: `none` when it is no string literal, and a fault at this place when
the literal holds half of a surrogate pair. -/
def value : ArgumentSyntax → Except SourceFault (Option (Option String))
  | .regular text => do
    match text.chars? with
    | some cs => return some (← Literal.regular cs)
    | none => .error .notUnicode
  | .verbatim text => do
    match text.chars? with
    | some cs => return some (some (Literal.verbatim cs))
    | none => .error .notUnicode
  | .other => return none

end ArgumentSyntax

/-- An attribute. -/
structure AttributeSyntax where
  /-- The name as it is written. -/
  name : Source
  /-- The arguments. -/
  arguments : List ArgumentSyntax
deriving Repr, DecidableEq

namespace AttributeSyntax

/-- The attribute written by some trees. -/
def ofTrees? (trees : List Tree) : Option AttributeSyntax := do
  let (_, left) ← TypeSyntax.nameOfTrees? trees
  let arguments := (left.head?.bind (·.items? '(')).getD []
  return {
    name := Tree.source (trees.take (trees.length - left.length))
    arguments := (TypeSyntax.expressions arguments).map ArgumentSyntax.ofTrees }

/-- What is left of a list of attributes after its target. -/
def withoutTarget : List Tree → List Tree
  | target :: mark :: rest =>
    if target.word?.isSome && mark.isSymbol ':' && !rest.head?.any (·.isSymbol ':') then rest
    else target :: mark :: rest
  | trees => trees

/-- The attributes in a bracketed list. -/
def ofList (items : List Tree) : List AttributeSyntax :=
  (TypeSyntax.expressions (withoutTarget items)).filterMap ofTrees?

/-- The bracketed lists that start a declaration, read as attributes, and what is left. -/
def ofDeclaration (trees : List Tree) : List AttributeSyntax × List Tree :=
  let lists := (trees.takeWhile (·.isGroup '[')).filterMap (·.items? '[')
  (lists.flatMap ofList, trees.dropWhile (·.isGroup '['))

/-- The attribute: its name is cut after the last dot of what is written. -/
def toAttribute (written : AttributeSyntax) : Except SourceFault Attribute := do
  let name ← written.name.read
  let values ← written.arguments.mapM ArgumentSyntax.value
  match (List.range values.length).filter fun i => values[i]? = some (some none) with
  | [] => return { name := Text.afterLast '.' name, arguments := values.map (·.join) }
  | positions => throw (.surrogate positions)

end AttributeSyntax

end ClientGen.CSharp
