import ClientGen.CSharp.AttributeSyntax
import ClientGen.DocComment.Element
import ClientGen.Text.Blank

/-!
# Methods as they are written

The members of a class that are methods: constructors, operators, properties, fields, events and
nested types are passed over. The documentation of a method is the run of comments directly
before it; in that run the lines that start with three slashes count.
-/

namespace ClientGen.CSharp

/-- A parameter of a method. -/
structure ParameterSyntax where
  /-- The attributes. -/
  attributes : List AttributeSyntax
  /-- The type, if one is written. -/
  type : Option TypeSyntax
  /-- The name. -/
  name : Source
  /-- Is there a default value? -/
  hasDefault : Bool
deriving Repr

namespace ParameterSyntax

/-- The modifiers of a parameter. -/
def modifiers : List String :=
  ["this", "ref", "out", "in", "readonly"]

/-- The parameter written by some trees. A list of further arguments is none. -/
def ofTrees? (trees : List Tree) : Option ParameterSyntax :=
  let (attributes, left) := AttributeSyntax.ofDeclaration trees
  let left := left.dropWhile (·.isOneOf modifiers)
  match left with
  | [] => none
  | tree :: _ =>
    if tree.isWord "params" then none
    else if tree.isWord "__arglist" then
      some { attributes, type := none, name := Source.ofText "__arglist", hasDefault := false }
    else do
      let (type, left) ← TypeSyntax.beforeName? left
      let name ← left.head? >>= Tree.name?
      return { attributes, type, name, hasDefault := left[1]?.any (·.isSymbol '=') }

/-- The parameter. -/
def toParameter (parameter : ParameterSyntax) : Except SourceFault MethodParameter := do
  let name ← parameter.name.read
  let type ← match parameter.type with
    | some type => type.toTypeRef
    | none => pure { name := "object" }
  let attributes ← parameter.attributes.mapM AttributeSyntax.toAttribute
  return { name, type, hasDefault := parameter.hasDefault, attributes := attributes.map (·.name) }

end ParameterSyntax

/-- A method. -/
structure MethodSyntax where
  /-- The comments directly before it. -/
  comments : List Source
  /-- The attributes. -/
  attributes : List AttributeSyntax
  /-- The modifiers. -/
  modifiers : List Source
  /-- The return type. -/
  returnType : TypeSyntax
  /-- The name. -/
  name : Source
  /-- The parameters. -/
  parameters : List ParameterSyntax
deriving Repr

namespace MethodSyntax

/-- The modifiers of members and of types. -/
def modifierWords : List String :=
  ["abstract", "async", "const", "extern", "file", "fixed", "internal", "new", "override",
   "partial", "private", "protected", "public", "readonly", "required", "sealed", "static",
   "unsafe", "virtual", "volatile"]

/-- The modifiers that start a declaration, and what is left. The word `file` is a type when a
name and parameters follow it. -/
def splitModifiers : List Tree → List Source × List Tree
  | [] => ([], [])
  | tree :: rest =>
    let isType := tree.isWord "file" && rest.head?.any (·.name?.isSome) &&
      (rest.drop 1).head?.any (·.isGroup '(')
    match tree.word? with
    | some word =>
      if tree.isOneOf modifierWords && !isType then
        let (words, left) := splitModifiers rest
        (word :: words, left)
      else ([], tree :: rest)
    | none => ([], tree :: rest)

/-- The last name before the parameters, and what is left: the names before it say which
interface is implemented. -/
def name? : (fuel : Nat) → List Tree → Option (Source × List Tree)
  | 0, _ => none
  | _, [] => none
  | fuel + 1, tree :: rest => do
    let name ← tree.name?
    let left := TypeSyntax.skipAngles rest
    match TypeSyntax.afterSeparator? left with
    | some after => name? fuel after
    | none => some (name, left)

/-- Is a declaration, after its modifiers, one of something other than a method, by its first
words? -/
def startsOtherMember : List Tree → Bool
  | [] => true
  | [_] => true
  | tree :: next :: _ =>
    tree.isOneOf ["class", "struct", "interface", "enum", "event", "implicit", "explicit"] ||
      (tree.isWord "record" && next.word?.isSome) ||
      (tree.isWord "delegate" && !next.isSymbol '*') ||
      (tree.isWord "ref" && next.isOneOf ["struct", "partial"]) ||
      tree.isSymbol '~' ||
      (tree.word?.isSome && next.isGroup '(')

/-- The method declared by some trees, if it is one. -/
def ofTrees? (trees : List Tree) : Option MethodSyntax := do
  let first ← trees.head?
  let (attributes, left) := AttributeSyntax.ofDeclaration trees
  let (modifiers, left) := splitModifiers left
  if startsOtherMember left then none
  else
    let (returnType, left) ← TypeSyntax.beforeName? left
    let (name, left) ← name? left.length left
    if name = Source.ofText "operator" then none
    else
      let items ← (← left.head?).items? '('
      return {
        comments := first.first.comments, attributes, modifiers, returnType, name
        parameters := (TypeSyntax.declarations items).filterMap ParameterSyntax.ofTrees? }

/-- The lines of a documentation comment among some comments. -/
def documentationLines (comments : List Source) : Except SourceFault (List String) := do
  let texts ← comments.mapM Source.read
  return (texts.map Text.trim).filter (Text.hasStart "///")

/-- The method. -/
def toMethod (method : MethodSyntax) : Except SourceFault Method := do
  let parameters ← method.parameters.mapM ParameterSyntax.toParameter
  let name ← method.name.read
  let returnType ← method.returnType.toTypeRef
  let attributes ← method.attributes.mapM AttributeSyntax.toAttribute
  let modifiers ← method.modifiers.mapM Source.read
  let documentation := DocComment.elements? (← documentationLines method.comments)
  return { name, returnType, parameters, attributes, modifiers, documentation }

end MethodSyntax

end ClientGen.CSharp
