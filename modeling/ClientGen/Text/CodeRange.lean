/-!
# Ranges of code points

A character property of the Unicode standard (version 14) is stored as a list of ranges. A range
takes every code point from its first to its last, or every `step`-th of them, since upper and
lower case letters alternate in many alphabets.
-/

namespace ClientGen.Text

/-- Is a code point in one of the inclusive ranges? -/
def inRanges (ranges : List (Nat × Nat)) (code : Nat) : Bool :=
  ranges.any fun (first, last) => decide (first ≤ code) && decide (code ≤ last)

/-- Is a code point in one of the ranges `(first, last, step)`? -/
def inSteppedRanges (ranges : List (Nat × Nat × Nat)) (code : Nat) : Bool :=
  ranges.any fun (first, last, step) =>
    decide (first ≤ code) && decide (code ≤ last) && (code - first) % step == 0

end ClientGen.Text
