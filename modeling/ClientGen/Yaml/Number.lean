import ClientGen.Yaml.Binary64
import ClientGen.Yaml.Cursor
import ClientGen.Yaml.Tag
import ClientGen.Yaml.Value

/-!
# Numbers in documents

The value of a scalar that is tagged as a number. Underscores are ignored; a number may be written
in parts of sixty, the greatest first. A scalar that was given its tag explicitly may hold anything,
so reading may fail.
-/

namespace ClientGen.Yaml

/-- A number in decimal notation. -/
inductive Decimal where
  /-- The number `mantissa * 10 ^ exponent`. -/
  | finite (mantissa : Int) (exponent : Int)
  /-- An infinity, or not a number. -/
  | special (number : Binary64)
deriving Repr, DecidableEq, Inhabited

namespace Decimal

/-- The decimal with the given mantissa at a smaller exponent. -/
def shifted (mantissa exponent low : Int) : Int :=
  mantissa * Int.ofNat (Nat.pow 10 (exponent - low).toNat)

/-- The sum of two decimals. -/
def add : Decimal → Decimal → Decimal
  | finite m e, finite n f =>
    let low := min e f
    finite (shifted m e low + shifted n f low) low
  | special number, _ => special number
  | _, special number => special number

/-- A decimal multiplied by a whole number. -/
def scale (k : Int) : Decimal → Decimal
  | finite m e => finite (k * m) e
  | special number => special number

/-- The number kept for a decimal. -/
def toBinary64 : Decimal → Binary64
  | finite m e => .ofDecimal (decide (m < 0)) m.natAbs e
  | special number => number

end Decimal

namespace Number

/-- A text without underscores. -/
def withoutUnderscores (cs : List Char) : List Char :=
  cs.filter (· != '_')

/-- The sign before a text, and what is left. -/
def sign : List Char → Int × List Char
  | '-' :: rest => (-1, rest)
  | '+' :: rest => (1, rest)
  | cs => (1, cs)

/-- The most digits that a whole number in base ten may have. -/
def maxDigits : Nat := 4300

/-- The whole number written in a base, perhaps with a sign. -/
def whole (base : Nat) (cs : List Char) : Except Fault Int :=
  let (sign, digits) := sign cs
  if base = 10 ∧ maxDigits < digits.length then .error .unreadable
  else
    match Text.number? base digits with
    | some n => .ok (sign * n)
    | none => .error .unreadable

/-- The whole number of a text in parts of sixty. -/
def ofSixtieths (parts : List Int) : Int :=
  parts.foldl (fun n part => n * 60 + part) 0

/-- The whole number a scalar stands for. -/
def toInt (cs : List Char) : Except Fault Int := do
  let cs := withoutUnderscores cs
  let (sign, digits) := sign cs
  match digits with
  | [] => throw .emptyNumber
  | '0' :: 'b' :: rest => return sign * (← whole 2 rest)
  | '0' :: 'x' :: rest => return sign * (← whole 16 rest)
  | '0' :: 'o' :: rest => return sign * (← whole 8 rest)
  | '0' :: rest => return sign * (← whole 8 ('0' :: rest))
  | _ =>
    if digits.contains ':' then
      return sign * ofSixtieths (← (Text.splitWhere (· == ':') digits).mapM (whole 10))
    else return sign * (← whole 10 digits)

/-- The decimal written by a text with perhaps a sign, a point and an exponent. -/
def plainDecimal (cs : List Char) : Except Fault Decimal := do
  let (sign, unsigned) := sign cs
  let name := String.ofList unsigned
  if name = "nan" then return .special .notANumber
  if name = "inf" ∨ name = "infinity" then return .special (.infinite (decide (sign < 0)))
  let mantissa := unsigned.takeWhile (· != 'e')
  let exponent ← match unsigned.dropWhile (· != 'e') with
    | _ :: digits => whole 10 digits
    | [] => pure 0
  let before := mantissa.takeWhile (· != '.')
  let after := (mantissa.dropWhile (· != '.')).drop 1
  match Text.number? 10 (before ++ after) with
  | some n => return .finite (sign * n) (exponent - after.length)
  | none => throw .unreadable

/-- The number of a text in parts of sixty, the last of them perhaps with a point. -/
def ofDecimalSixtieths (parts : List Decimal) : Decimal :=
  parts.foldl (fun n part => (n.scale 60).add part) (.finite 0 0)

/-- The number with a fraction that a scalar stands for. -/
def toBinary64 (cs : List Char) : Except Fault Binary64 := do
  let cs := (withoutUnderscores cs).map Char.toLower
  let (sign, digits) := sign cs
  if digits.isEmpty then throw .emptyNumber
  let number ←
    if digits = ".inf".toList then pure (.infinite false)
    else if digits = ".nan".toList then pure .notANumber
    else if digits.contains ':' then
      let parts ← (Text.splitWhere (· == ':') digits).mapM plainDecimal
      pure (ofDecimalSixtieths parts).toBinary64
    else pure (← plainDecimal digits).toBinary64
  return if sign < 0 then number.negated else number

end Number

end ClientGen.Yaml
