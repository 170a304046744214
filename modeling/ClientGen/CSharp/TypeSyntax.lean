import ClientGen.CSharp.Token
import ClientGen.TypeRef

/-!
# Types as they are written

The syntax of types, how it is read from a source, and the reference each type stands for. A
reference keeps the short name, the arguments and the two flags: qualifiers are dropped, arrays
of any rank and depth are one flag, and a tuple, a pointer or a type by reference is named by its
own text. A comment that stands directly in a list of type arguments counts as an argument.
-/

namespace ClientGen.CSharp

/-- A type as it is written. -/
inductive TypeSyntax where
  /-- A name, or a type that is named by its text. -/
  | plain (text : Source)
  /-- A generic name with its arguments. -/
  | generic (name : Source) (arguments : List TypeSyntax)
  /-- A name in a namespace, in a type or under an alias. -/
  | qualified (qualifier name : TypeSyntax)
  /-- `T?`. -/
  | nullable (inner : TypeSyntax)
  /-- `T[]`, of any rank. -/
  | array (inner : TypeSyntax)
deriving Repr

namespace TypeSyntax

mutual

/-- The reference a type stands for, before its namespace is looked up. -/
def toTypeRef : TypeSyntax → Except SourceFault TypeRef
  | .plain text => return { name := ← text.read }
  | .generic name arguments => do
    let arguments ← toTypeRefs arguments
    return { name := ← name.read, arguments }
  | .qualified _ name => name.toTypeRef
  | .nullable inner => return { ← inner.toTypeRef with nullable := true }
  | .array inner => return { ← inner.toTypeRef with array := true }

/-- The references of a list of types. -/
def toTypeRefs : List TypeSyntax → Except SourceFault (List TypeRef)
  | [] => return []
  | type :: types => return (← type.toTypeRef) :: (← toTypeRefs types)

end

/-- Is a tree the rank of an array: brackets with nothing but commas? -/
def isRank (tree : Tree) : Bool :=
  (tree.items? '[').any fun items => items.all (·.isSymbol ',')

/-- A type with the question marks, ranks and stars that follow it, and what is left. `start`
begins with the type, and its text names a pointer. -/
def withSuffixes (start : List Tree) (type : TypeSyntax) : List Tree → TypeSyntax × List Tree
  | [] => (type, [])
  | tree :: rest =>
    if tree.isSymbol '?' then withSuffixes start (.nullable type) rest
    else if isRank tree then withSuffixes start (.array type) rest
    else if tree.isSymbol '*' then
      withSuffixes start (.plain (Tree.source (start.take (start.length - rest.length)))) rest
    else (type, tree :: rest)

/-- What is left after the angle brackets that are open `depth` deep. -/
def afterAngles (depth : Nat) : List Tree → List Tree
  | [] => []
  | tree :: rest =>
    if tree.isSymbol '<' then afterAngles (depth + 1) rest
    else if tree.isSymbol '>' then if depth ≤ 1 then rest else afterAngles (depth - 1) rest
    else afterAngles depth rest

/-- What is left after a list in angle brackets, if one comes first. -/
def skipAngles : List Tree → List Tree
  | [] => []
  | tree :: rest => if tree.isSymbol '<' then afterAngles 1 rest else tree :: rest

/-- What is left after the separator of a qualified name, if one comes first. -/
def afterSeparator? : List Tree → Option (List Tree)
  | first :: second :: rest =>
    if first.isSymbol '.' then some (second :: rest)
    else if first.isSymbol ':' && second.isSymbol ':' then some rest
    else none
  | _ => none

/-- The comments before a tree, as types. -/
def commentsBefore (tree : Tree) : List TypeSyntax :=
  (tree.first.lead.filterMap Trivia.comment?).map .plain

mutual

/-- The type that starts a list of trees, and what is left; `fuel` bounds the steps. -/
def read? (fuel : Nat) (trees : List Tree) : Option (TypeSyntax × List Tree) :=
  match fuel, trees with
  | 0, _ => none
  | _, [] => none
  | fuel + 1, tree :: rest =>
    let upTo := fun (left : List Tree) =>
      TypeSyntax.plain (Tree.source (trees.take (trees.length - left.length)))
    if tree.isGroup '(' then some (withSuffixes trees (upTo rest) rest)
    else if tree.isWord "ref" then
      let inner := if rest.head?.any (·.isWord "readonly") then rest.drop 1 else rest
      (read? fuel inner).map fun (_, left) => (upTo left, left)
    else if tree.isWord "delegate" then
      let left := afterAngles 0 rest
      some (withSuffixes trees (upTo left) left)
    else
      (path? fuel trees).map fun (name, left) => withSuffixes trees name left

/-- The qualified name that starts a list of trees, and what is left. -/
def path? (fuel : Nat) (trees : List Tree) : Option (TypeSyntax × List Tree) :=
  match fuel with
  | 0 => none
  | fuel + 1 => do
    let (name, left) ← segment? fuel trees
    match afterSeparator? left with
    | some after =>
      match path? fuel after with
      | some (last, left) => some (.qualified name last, left)
      | none => some (name, left)
    | none => some (name, left)

/-- One name of a qualified name, with its arguments, and what is left. -/
def segment? (fuel : Nat) (trees : List Tree) : Option (TypeSyntax × List Tree) :=
  match fuel, trees with
  | 0, _ => none
  | _, [] => none
  | fuel + 1, tree :: rest => do
    let name ← tree.name?
    match rest with
    | bracket :: inner =>
      if bracket.isSymbol '<' then
        let (arguments, left) ← arguments? fuel inner
        some (.generic name arguments, left)
      else some (.plain name, rest)
    | [] => some (.plain name, [])

/-- Type arguments up to the closing angle bracket, and what is left. -/
def arguments? (fuel : Nat) (trees : List Tree) : Option (List TypeSyntax × List Tree) :=
  match fuel, trees with
  | 0, _ => none
  | _, [] => none
  | fuel + 1, tree :: rest =>
    let before := commentsBefore tree
    if tree.isSymbol '>' then some (before, rest)
    else if tree.isSymbol ',' then
      (arguments? fuel rest).map fun (more, left) => (before ++ more, left)
    else do
      let (type, left) ← read? fuel trees
      if left.head?.any fun next => next.isSymbol ',' || next.isSymbol '>' then
        let (more, left) ← arguments? fuel left
        some (before ++ type :: more, left)
      else none

end

/-- Steps that suffice for a type among so many trees: every step but a bounded few passes one. -/
def steps (trees : List Tree) : Nat :=
  4 * trees.length + 4

/-- The type that starts a list of trees, and what is left. -/
def ofTrees? (trees : List Tree) : Option (TypeSyntax × List Tree) :=
  read? (steps trees) trees

/-- A type marked `scoped`, named by its text, before a name, and what is left. -/
def scoped? : List Tree → Option (TypeSyntax × List Tree)
  | [] => none
  | word :: rest => do
    let (_, left) ← if word.isWord "scoped" then ofTrees? rest else none
    let _ ← left.head? >>= Tree.name?
    return (.plain (Tree.source (word :: rest.take (rest.length - left.length))), left)

/-- The type before a name, and what is left. -/
def beforeName? (trees : List Tree) : Option (TypeSyntax × List Tree) :=
  scoped? trees <|> ofTrees? trees

/-- The qualified name that starts a list of trees, and what is left. -/
def nameOfTrees? (trees : List Tree) : Option (TypeSyntax × List Tree) :=
  path? (steps trees) trees

/-- May the list of trees follow a generic name in an expression? Otherwise the angle bracket is
a comparison. -/
def mayFollowArguments : List Tree → Bool
  | [] => true
  | tree :: rest =>
    ['(', '[', '\x7b'].any tree.isGroup ||
      [',', '.', ';', ':', '?', '|', '^', '&', '>'].any tree.isSymbol ||
      (['=', '!'].any tree.isSymbol && rest.head?.any (·.isSymbol '='))

/-- How many trees belong to the operand that starts with `tree`, without it: a generic name goes
with its arguments, so that the commas in them separate nothing. -/
def operandLength (mayFollow : List Tree → Bool) (tree : Tree) : List Tree → Nat
  | [] => 0
  | next :: rest =>
    if tree.name?.isSome && next.isSymbol '<' then
      match arguments? (steps rest) rest with
      | some (_, left) => if mayFollow left then rest.length + 1 - left.length else 0
      | none => 0
    else 0

/-- The parts of a list between commas that stand in no type arguments, the first one continuing
`part`; a comma at the end starts no part. -/
def partsAfter (mayFollow : List Tree → Bool) (part : List Tree) : List Tree → List (List Tree)
  | [] => if part.isEmpty then [] else [part]
  | tree :: rest =>
    if tree.isSymbol ',' then part :: partsAfter mayFollow [] rest
    else
      let more := operandLength mayFollow tree rest
      partsAfter mayFollow (part ++ tree :: rest.take more) (rest.drop more)
termination_by trees => trees.length
decreasing_by
  all_goals simp only [List.length_cons, List.length_drop]; omega

/-- The expressions of a list of arguments. -/
def expressions (trees : List Tree) : List (List Tree) :=
  partsAfter mayFollowArguments [] trees

/-- The members of a list of declarations, where a name may follow any type. -/
def declarations (trees : List Tree) : List (List Tree) :=
  partsAfter (fun _ => true) [] trees

end TypeSyntax

end ClientGen.CSharp
