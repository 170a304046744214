import ClientGen.Text.Basic
import ClientGen.Text.CodeRange

/-!
# White space

A character is blank when Unicode gives it the bidirectional type of white space or of a
separator, or the general category of a space separator. Words are the maximal runs of other
characters.
-/

namespace ClientGen.Text

/-- The blank code points. -/
def blankRanges : List (Nat × Nat) :=
  [(0x9, 0xd), (0x1c, 0x20), (0x85, 0x85), (0xa0, 0xa0), (0x1680, 0x1680), (0x2000, 0x200a),
   (0x2028, 0x2029), (0x202f, 0x202f), (0x205f, 0x205f), (0x3000, 0x3000)]

/-- Is a character white space? -/
def isBlank (c : Char) : Bool :=
  inRanges blankRanges c.toNat

/-- The words of a text: its maximal runs of characters that are not blank. -/
def words (s : String) : List String :=
  (runs isBlank s.toList).map String.ofList

/-- A text with every run of white space turned into one space, and none at either end. -/
def collapse (s : String) : String :=
  " ".intercalate (words s)

/-- A text without white space at either end. -/
def trim (s : String) : String :=
  String.ofList (trimChars isBlank s.toList)

end ClientGen.Text
