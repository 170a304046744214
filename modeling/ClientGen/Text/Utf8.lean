/-!
# UTF-8

The characters of a sequence of bytes. Where bytes form no character the reading goes on after
one byte, so that a text with a few damaged places can still be cut into its parts; only the
parts that are needed have to be free of damage.
-/

namespace ClientGen.Text.Utf8

/-- The value of a continuation byte, `10xxxxxx`. -/
def continuation? (byte : UInt8) : Option Nat :=
  if 0x80 ≤ byte && byte < 0xc0 then some (byte.toNat - 0x80) else none

/-- The character with a code point, when the code point is a scalar value of at least `least`:
no shorter form may exist. -/
def scalar? (least code : Nat) : Option Char :=
  if least ≤ code ∧ code.isValidChar then some (Char.ofNat code) else none

/-- The character that starts a sequence of bytes, and the number of bytes after its first. -/
def first? : List UInt8 → Option (Char × Nat)
  | [] => none
  | a :: rest =>
    if a < 0x80 then some (Char.ofNat a.toNat, 0)
    else if a < 0xc0 then none
    else if a < 0xe0 then do
      let b ← rest.head? >>= continuation?
      return (← scalar? 0x80 ((a.toNat - 0xc0) * 0x40 + b), 1)
    else if a < 0xf0 then do
      let b ← rest.head? >>= continuation?
      let c ← rest[1]? >>= continuation?
      return (← scalar? 0x800 ((a.toNat - 0xe0) * 0x1000 + b * 0x40 + c), 2)
    else if a < 0xf8 then do
      let b ← rest.head? >>= continuation?
      let c ← rest[1]? >>= continuation?
      let d ← rest[2]? >>= continuation?
      return (← scalar? 0x10000 ((a.toNat - 0xf0) * 0x40000 + b * 0x1000 + c * 0x40 + d), 3)
    else none

/-- The characters of a sequence of bytes, with `none` for each byte that is part of none. -/
def decode : List UInt8 → List (Option Char)
  | [] => []
  | a :: rest =>
    match first? (a :: rest) with
    | some (c, more) => some c :: decode (rest.drop more)
    | none => none :: decode rest
termination_by bytes => bytes.length
decreasing_by
  all_goals simp only [List.length_cons, List.length_drop]; omega

end ClientGen.Text.Utf8
