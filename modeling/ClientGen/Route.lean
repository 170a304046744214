import ClientGen.Text.Blank

/-!
# Route templates

A route template is plain text with placeholders between braces, `orders/{id:int}`. Reading it
from the left, an opening brace starts a placeholder when the next brace is a closing one. Every
other brace is left over, and a template with a brace left over has no meaning. The name a
placeholder binds is its body without the decorations: leading stars, a constraint after a colon,
a default after an equals sign, and question marks at the end.
-/

namespace ClientGen.Route

/-- A piece of a route template. -/
inductive Piece where
  /-- A character of the text around the placeholders. -/
  | plain (c : Char)
  /-- A placeholder with the text between its braces. -/
  | placeholder (body : List Char)
deriving Repr, DecidableEq, Inhabited

namespace Piece

/-- The text of a piece. -/
def chars : Piece → List Char
  | plain c => [c]
  | placeholder body => '\x7b' :: body ++ ['\x7d']

end Piece

/-- Is a character a brace? -/
def isBrace (c : Char) : Bool :=
  c == '\x7b' || c == '\x7d'

/-- The pieces of text that turned out not to be a placeholder: the opening brace,
if one is waiting, and what came after it. -/
def leftOver : Option (List Char) → List Piece
  | none => []
  | some body => .plain '\x7b' :: body.map .plain

/-- The pieces of the rest of a template. With `some body`, an opening brace and then `body` have
been read and the next brace decides what they are. -/
def piecesAfter : Option (List Char) → List Char → List Piece
  | pending, [] => leftOver pending
  | none, c :: rest =>
    if c = '\x7b' then piecesAfter (some []) rest else .plain c :: piecesAfter none rest
  | some body, c :: rest =>
    if c = '\x7d' then .placeholder body :: piecesAfter none rest
    else if c = '\x7b' then leftOver (some body) ++ piecesAfter (some []) rest
    else piecesAfter (some (body ++ [c])) rest

/-- The pieces of a route template. -/
def pieces (route : List Char) : List Piece :=
  piecesAfter none route

/-- The name a placeholder binds. -/
def placeholderChars (body : List Char) : List Char :=
  let bare := (body.dropWhile (· == '*')).takeWhile fun c => c != ':' && c != '='
  Text.trimChars Text.isBlank (Text.dropTrailing (· == '?') bare)

/-- The name that the text between two braces binds. -/
def placeholderName (body : String) : String :=
  String.ofList (placeholderChars body.toList)

/-- What is wrong with a route. -/
inductive Fault where
  /-- A brace is left over. -/
  | unbalancedBraces
  /-- The placeholder at this position binds no name. -/
  | emptyPlaceholder (position : Nat)
  /-- The attribute has no arguments to take a template from. -/
  | noTemplate (source : String)
  /-- The template of the attribute is not a string literal. -/
  | notLiteral (source : String)
deriving Repr, DecidableEq, Inhabited

namespace Fault

/-- The wording of a fault. -/
def message : Fault → String
  | unbalancedBraces => "unbalanced braces"
  | emptyPlaceholder position => "empty placeholder at position " ++ Nat.repr position
  | noTemplate source => "[" ++ source ++ "] has no route template"
  | notLiteral source => "[" ++ source ++ "] route is not a string literal"

end Fault

/-- Is a piece a brace left over? -/
def isStrayBrace : Piece → Bool
  | .plain c => isBrace c
  | .placeholder _ => false

/-- The names of the placeholders, left to right, when the first piece stands at `position`. -/
def namesFrom (position : Nat) : List Piece → Except Fault (List String)
  | [] => .ok []
  | .plain _ :: rest => namesFrom (position + 1) rest
  | .placeholder body :: rest =>
    match placeholderChars body with
    | [] => .error (.emptyPlaceholder position)
    | name => do
      let names ← namesFrom (position + body.length + 2) rest
      .ok (String.ofList name :: names)

/-- The names of the placeholders of a route template, left to right, repetitions included. -/
def placeholders (route : String) : Except Fault (List String) :=
  let parts := pieces route.toList
  if parts.any isStrayBrace then .error .unbalancedBraces else namesFrom 0 parts

end ClientGen.Route
