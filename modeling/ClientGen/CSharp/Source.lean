import ClientGen.Text.Blank
import ClientGen.Text.Utf8

/-!
# Source text

A C# source is cut into lexemes whatever its bytes are. A byte that is part of no character may
stand in a comment or a string; it matters only when the text it stands in is needed, and then
the whole document is refused.
-/

namespace ClientGen.CSharp

/-- Source text: characters, and `none` for a byte that is part of no character. -/
abbrev Source := List (Option Char)

namespace Source

/-- The source held in a sequence of bytes. -/
def ofBytes (bytes : List UInt8) : Source :=
  Text.Utf8.decode bytes

/-- The source with the given characters. -/
def ofText (s : String) : Source :=
  s.toList.map some

/-- The characters of a source, if every byte is part of one. -/
def chars? (s : Source) : Option (List Char) :=
  s.mapM id

/-- A source made of characters has those characters. -/
theorem chars?_map_some (cs : List Char) : chars? (cs.map some) = some cs := by
  induction cs with
  | nil => rfl
  | cons c cs ih => simp_all [chars?, List.mapM_cons]

/-- How often a character is repeated at the start of a source. -/
def runLength (c : Char) (s : Source) : Nat :=
  (s.takeWhile (· == some c)).length

/-- Does a source start with a text? -/
def hasStart (start : String) (s : Source) : Bool :=
  (ofText start).isPrefixOf s

end Source

/-- Why a source cannot be turned into a document. -/
inductive SourceFault where
  /-- A needed text holds a byte that is part of no character. -/
  | notUnicode
  /-- An escape sequence names a number above the last code point. -/
  | beyondUnicode
  /-- An escape sequence names a number that needs more than 31 bits. -/
  | beyondRange
  /-- The arguments of an attribute at these positions hold half of a surrogate pair. -/
  | surrogate (positions : List Nat)
deriving Repr, DecidableEq

/-- The text of a piece of source. -/
def Source.read (s : Source) : Except SourceFault String :=
  match s.chars? with
  | some cs => .ok (String.ofList cs)
  | none => .error .notUnicode

end ClientGen.CSharp
