/-!
# Bytes written as text

The bytes that a text in base 64 stands for. Characters outside of the alphabet are passed over; the
text ends at its padding, and it must not end within a group of four characters.
-/

namespace ClientGen.Yaml.Base64

/-- The value of a character of the alphabet. -/
def digit? (c : Char) : Option Nat :=
  if c.isUpper then some (c.toNat - 'A'.toNat)
  else if c.isLower then some (c.toNat - 'a'.toNat + 26)
  else if c.isDigit then some (c.toNat - '0'.toNat + 52)
  else if c = '+' then some 62
  else if c = '/' then some 63
  else none

/-- The bytes of a text. `position` counts the characters of the current group, `left` holds the
bits that are not yet part of a byte, and `pads` counts the padding that comes directly before. -/
def decodeAfter? (position left pads : Nat) : List Char → Option (List UInt8)
  | [] => if position = 0 then some [] else none
  | c :: rest =>
    if c = '=' then
      if 2 ≤ position ∧ 4 ≤ position + pads + 1 then some []
      else decodeAfter? position left (if 2 ≤ position then pads + 1 else pads) rest
    else
      match digit? c with
      | none => decodeAfter? position left pads rest
      | some d =>
        match position with
        | 0 => decodeAfter? 1 d 0 rest
        | 1 => (decodeAfter? 2 (d % 16) 0 rest).map (UInt8.ofNat (left * 4 + d / 16) :: ·)
        | 2 => (decodeAfter? 3 (d % 4) 0 rest).map (UInt8.ofNat (left * 16 + d / 4) :: ·)
        | _ => (decodeAfter? 0 0 0 rest).map (UInt8.ofNat (left * 64 + d) :: ·)

/-- The bytes of a text; `none` when it is cut short. -/
def decode? (cs : List Char) : Option (List UInt8) :=
  decodeAfter? 0 0 0 cs

end ClientGen.Yaml.Base64
