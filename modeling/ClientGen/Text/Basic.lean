/-!
# Cutting and joining text

The few operations on text that the generator is built from: splitting at a separator, the part
before or after a separator, stripping a known beginning or end, and containment. Each is a
function on lists of characters, lifted once to `String`, so that statements about it are
statements about lists.
-/

namespace ClientGen.Text

/-- The pieces of a list of characters between the separators; never empty. -/
def splitWhere (isSep : Char → Bool) : List Char → List (List Char)
  | [] => [[]]
  | c :: rest =>
    if isSep c then [] :: splitWhere isSep rest
    else
      match splitWhere isSep rest with
      | [] => [[c]]
      | piece :: pieces => (c :: piece) :: pieces

/-- The pieces of a text between the occurrences of `sep`, empty pieces included. -/
def split (sep : Char) (s : String) : List String :=
  (splitWhere (· == sep) s.toList).map String.ofList

/-- The part of a text before the first `sep`, or the whole text. -/
def beforeFirst (sep : Char) (s : String) : String :=
  String.ofList (s.toList.takeWhile (· != sep))

/-- The part of a list after the first `sep`, if `sep` occurs. -/
def afterFirstChars? (sep : Char) : List Char → Option (List Char)
  | [] => none
  | c :: rest => if c = sep then some rest else afterFirstChars? sep rest

/-- The part of a text after the first `sep`, or the whole text. -/
def afterFirst (sep : Char) (s : String) : String :=
  match afterFirstChars? sep s.toList with
  | some rest => String.ofList rest
  | none => s

/-- The part of a list after the last `sep`, or the whole list. -/
def afterLastChars (sep : Char) (cs : List Char) : List Char :=
  (cs.reverse.takeWhile (· != sep)).reverse

/-- The part of a text after the last `sep`, or the whole text. -/
def afterLast (sep : Char) (s : String) : String :=
  String.ofList (afterLastChars sep s.toList)

/-- What remains of a list after a known beginning. -/
def dropStart? (start : List Char) (cs : List Char) : Option (List Char) :=
  match start, cs with
  | [], rest => some rest
  | _ :: _, [] => none
  | a :: start, c :: rest => if a = c then dropStart? start rest else none

/-- Does a text begin with another? -/
def hasStart (start s : String) : Bool :=
  (dropStart? start.toList s.toList).isSome

/-- Does a text end with another? -/
def hasEnd (ending s : String) : Bool :=
  (dropStart? ending.toList.reverse s.toList.reverse).isSome

/-- A text without a known ending, if it has that ending. -/
def dropEnd? (ending s : String) : Option String :=
  (dropStart? ending.toList.reverse s.toList.reverse).map fun rest => String.ofList rest.reverse

/-- Does `part` occur in a list of characters as a contiguous block? -/
def occursIn (part : List Char) : List Char → Bool
  | [] => part.isEmpty
  | c :: rest => (dropStart? part (c :: rest)).isSome || occursIn part rest

/-- Does a text contain another? -/
def contains (part s : String) : Bool :=
  occursIn part.toList s.toList

/-- A text with every occurrence of one character replaced by another. -/
def replaceChar (old new : Char) (s : String) : String :=
  String.ofList (s.toList.map fun c => if c = old then new else c)

/-- A list without the characters of a class at its end. -/
def dropTrailing (drop : Char → Bool) (cs : List Char) : List Char :=
  (cs.reverse.dropWhile drop).reverse

/-- A list without the characters of a class at either end. -/
def trimChars (drop : Char → Bool) (cs : List Char) : List Char :=
  dropTrailing drop (cs.dropWhile drop)

/-- The maximal runs of characters outside a class, in order. -/
def runs (isGap : Char → Bool) (cs : List Char) : List (List Char) :=
  (splitWhere isGap cs).filter (!·.isEmpty)

/-- The order of texts by code points. -/
def le (a b : String) : Bool :=
  decide (a ≤ b)

end ClientGen.Text
