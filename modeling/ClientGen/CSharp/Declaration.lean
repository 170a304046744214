import ClientGen.CSharp.MethodSyntax
import ClientGen.Text.Letter

/-!
# Declarations

The declarations of a compilation unit: namespaces, classes and other types. A list of trees is
first cut into spans, one for each member or statement; a span ends at a semicolon or at a block,
unless the block belongs to the value of a member. What is no declaration of a type or a
namespace is passed over, and the inside of a type is read only for the methods of a class.
-/

namespace ClientGen.CSharp

/-- A class. -/
structure ClassSyntax where
  /-- The name. -/
  name : Source
  /-- The types after the colon; a comment before the last of them counts as one. -/
  bases : List TypeSyntax
  /-- The methods. -/
  methods : List MethodSyntax
deriving Repr

/-- A declaration of a compilation unit. -/
inductive Declaration where
  /-- A class. -/
  | classDecl (written : ClassSyntax)
  /-- A record, structure, interface or enumeration. -/
  | otherType (name : Source)
  /-- A namespace with its members. -/
  | scope (name : Source) (members : List Declaration)
  /-- A namespace for all that follows. -/
  | fileScope (name : Source)
deriving Repr

/-- What a span has shown so far. -/
inductive SpanState where
  /-- Nothing of note. -/
  | head
  /-- The word `operator`, whose parameters are still to come. -/
  | operatorSign
  /-- An equals sign: a value or a body as an expression. -/
  | assigned
deriving Repr, DecidableEq

namespace SpanState

/-- What a span has shown after one more tree. -/
def next (state : SpanState) (tree : Tree) : SpanState :=
  match state with
  | .head =>
    if tree.isWord "operator" then .operatorSign else if tree.isSymbol '=' then .assigned else .head
  | .operatorSign => if tree.isGroup '(' then .head else .operatorSign
  | .assigned => .assigned

end SpanState

/-- The spans of a list of trees; `span` holds the trees of the current one in reverse. -/
def spansAfter (state : SpanState) (span : List Tree) : List Tree → List (List Tree)
  | [] => if span.isEmpty then [] else [span.reverse]
  | tree :: rest =>
    let endsHere := tree.isSymbol ';' ||
      (tree.isGroup '\x7b' && state ≠ .assigned && !rest.head?.any (·.isSymbol '='))
    if endsHere then (tree :: span).reverse :: spansAfter .head [] rest
    else spansAfter (state.next tree) (tree :: span) rest

/-- The spans of a list of trees. -/
def spans (trees : List Tree) : List (List Tree) :=
  spansAfter .head [] trees

namespace ClassSyntax

/-- The types of a base list. Comments wait in `comments` until a type follows them. -/
def baseList : (fuel : Nat) → (comments : List TypeSyntax) → List Tree → List TypeSyntax
  | 0, _, _ => []
  | _, _, [] => []
  | fuel + 1, comments, tree :: rest =>
    let comments := comments ++ TypeSyntax.commentsBefore tree
    match TypeSyntax.ofTrees? (tree :: rest) with
    | none => []
    | some (type, left) =>
      let left := if left.head?.any (·.isGroup '(') then left.drop 1 else left
      match left with
      | [] => comments ++ [type]
      | separator :: left =>
        if separator.isSymbol ',' then
          comments ++ type :: baseList fuel (TypeSyntax.commentsBefore separator) left
        else comments ++ [type]

/-- The class whose name starts the trees. -/
def ofTrees? : List Tree → Option ClassSyntax
  | [] => none
  | tree :: rest => do
    let name ← tree.name?
    let left := TypeSyntax.skipAngles rest
    let left := if left.head?.any (·.isGroup '(') then left.drop 1 else left
    let body := (rest.findSome? (·.items? '\x7b')).getD []
    return {
      name
      bases :=
        if left.head?.any (·.isSymbol ':') then baseList left.length [] (left.drop 1) else []
      methods := (spans body).filterMap MethodSyntax.ofTrees? }

/-- Is a short name the name of an interface: an `I` and another upper-case letter? -/
def isInterfaceName (name : String) : Bool :=
  match name.toList with
  | 'I' :: c :: _ => Text.isUpper c
  | _ => false

/-- The base class: the first base that is no interface by its name. -/
def baseType : List TypeSyntax → Except SourceFault (Option TypeRef)
  | [] => return none
  | base :: rest => do
    let ref ← base.toTypeRef
    if isInterfaceName ref.name then baseType rest else return some ref

/-- The class, declared in a namespace. -/
def toClass (scope : String) (written : ClassSyntax) : Except SourceFault ClassDecl := do
  let methods ← written.methods.mapM MethodSyntax.toMethod
  let name ← written.name.read
  let baseType ← baseType written.bases
  return { name, scope, baseType, methods }

end ClassSyntax

namespace Declaration

/-- The name of a namespace: its text up to the block or the semicolon. -/
def scopeName (trees : List Tree) : Source :=
  Tree.source (trees.takeWhile fun tree => !(tree.isGroup '\x7b' || tree.isSymbol ';'))

/-- Is a tree one of the words that introduce a type other than a class? -/
def isTypeWord (tree : Tree) : Bool :=
  tree.isOneOf ["struct", "interface", "enum"]

/-- The declaration in a span, if there is one; `members` reads the block of a namespace. -/
def ofSpan? (members : List Tree → List Declaration) (span : List Tree) : Option Declaration :=
  let (_, left) := AttributeSyntax.ofDeclaration span
  let (_, left) := MethodSyntax.splitModifiers left
  let left := (left.dropWhile (·.isWord "ref")).dropWhile (·.isWord "partial")
  match left with
  | [] => none
  | word :: rest =>
    if word.isWord "namespace" then
      match rest.findSome? (·.items? '\x7b') with
      | some body => some (.scope (scopeName rest) (members body))
      | none => some (.fileScope (scopeName rest))
    else if word.isWord "class" then (ClassSyntax.ofTrees? rest).map .classDecl
    else if isTypeWord word then (rest.head? >>= Tree.name?).map .otherType
    else if word.isWord "record" then
      let rest := if rest.head?.any (·.isOneOf ["class", "struct"]) then rest.drop 1 else rest
      (rest.head? >>= Tree.name?).map .otherType
    else none

/-- The declarations among some trees; `depth` bounds the nesting of namespaces. -/
def ofTrees : (depth : Nat) → List Tree → List Declaration
  | 0, _ => []
  | depth + 1, trees => (spans trees).filterMap (ofSpan? (ofTrees depth))

/-- The declarations of a source. -/
def ofSource (s : Source) : List Declaration :=
  let trees := Tree.ofSource s
  ofTrees (Tree.depthOf trees + 1) trees

end Declaration

end ClientGen.CSharp
