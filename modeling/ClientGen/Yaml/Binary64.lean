import ClientGen.Text.Basic

/-!
# Numbers of 53 binary digits

A number with a fraction or an exponent is kept with 53 binary digits: as a mantissa times a power
of two, no exponent below -1074, rounded to the nearest, a tie to the even mantissa. What is too
large counts as infinite.

The text of such a number has the fewest decimal digits that are read back as the same number, and
of these the nearest ones.
-/

namespace ClientGen.Yaml

/-- A number with 53 binary digits. -/
inductive Binary64 where
  /-- The number `mantissa * 2 ^ exponent` with a sign. -/
  | finite (isNegative : Bool) (mantissa : Nat) (exponent : Int)
  /-- A number beyond all others. -/
  | infinite (isNegative : Bool)
  /-- No number. -/
  | notANumber
deriving Repr, DecidableEq, Inhabited

namespace Binary64

/-- The mantissas are below this number. -/
def mantissaLimit : Nat := 9007199254740992

/-- The least and the greatest exponent. -/
def exponents : Int × Int := (-1074, 971)

/-- The number `mantissa * base ^ exponent` as a quotient. -/
def quotient (base mantissa : Nat) (exponent : Int) : Nat × Nat :=
  if 0 ≤ exponent then (mantissa * Nat.pow base exponent.toNat, 1)
  else (mantissa, Nat.pow base (-exponent).toNat)

/-- The quotient of two numbers, rounded to the nearest, a tie to the even number. -/
def roundQuotient (numerator denominator : Nat) : Nat :=
  let whole := numerator / denominator
  let twice := 2 * (numerator % denominator)
  if denominator < twice ∨ (twice = denominator ∧ whole % 2 = 1) then whole + 1 else whole

/-- A quotient divided by a power of two, as a quotient. -/
def scaledDown (numerator denominator : Nat) (exponent : Int) : Nat × Nat :=
  let (up, down) := quotient 2 1 exponent
  (numerator * down, denominator * up)

/-- The exponent at which a quotient has a whole part below the limit, but not below its half. -/
def exponentOf (numerator denominator : Nat) : Int :=
  let size : Int := Int.ofNat numerator.log2 - Int.ofNat denominator.log2
  let exponent := max (size - 53) exponents.1
  let (n, d) := scaledDown numerator denominator exponent
  if n / d < mantissaLimit then exponent else exponent + 1

/-- The number nearest to a quotient. -/
def ofQuotient (isNegative : Bool) (numerator denominator : Nat) : Binary64 :=
  if numerator = 0 then finite isNegative 0 0
  else
    let exponent := exponentOf numerator denominator
    let (n, d) := scaledDown numerator denominator exponent
    let mantissa := roundQuotient n d
    let (mantissa, exponent) :=
      if mantissa = mantissaLimit then (mantissa / 2, exponent + 1) else (mantissa, exponent)
    if exponents.2 < exponent then infinite isNegative else finite isNegative mantissa exponent

/-- The number of decimal digits of a number. -/
def digitCount (n : Nat) : Nat :=
  (Nat.toDigits 10 n).length

/-- The number nearest to `mantissa * 10 ^ exponent`. Numbers far too large or too small are not
computed. -/
def ofDecimal (isNegative : Bool) (mantissa : Nat) (exponent : Int) : Binary64 :=
  let place := Int.ofNat (digitCount mantissa) + exponent
  if mantissa = 0 ∨ place < -330 then finite isNegative 0 0
  else if 310 < place then infinite isNegative
  else
    let (n, d) := quotient 10 mantissa exponent
    ofQuotient isNegative n d

/-- A number with the other sign. -/
def negated : Binary64 → Binary64
  | finite isNegative mantissa exponent => finite (!isNegative) mantissa exponent
  | infinite isNegative => infinite (!isNegative)
  | notANumber => notANumber

/-- The whole number that a number is equal to, if there is one. -/
def toInt? : Binary64 → Option Int
  | finite isNegative mantissa exponent =>
    let (n, d) := quotient 2 mantissa exponent
    if n % d = 0 then some (if isNegative then -Int.ofNat (n / d) else Int.ofNat (n / d)) else none
  | _ => none

/-! ## The text of a number -/

/-- The place of the decimal point in a quotient: how many digits stand before it, or the negated
number of zeros after it. -/
def pointOf (numerator denominator : Nat) : Int :=
  let place : Int := Int.ofNat (digitCount numerator) - Int.ofNat (digitCount denominator)
  let (up, down) := quotient 10 1 place
  if numerator * down < denominator * up then place else place + 1

/-- The decimal of `count` digits nearest to a quotient among those that are read back as the
number, if there is one: its digits as a number, and its exponent. -/
def withDigits? (number : Binary64) (numerator denominator count : Nat) : Option (Nat × Int) :=
  let exponent := pointOf numerator denominator - Int.ofNat count
  let (up, down) := quotient 10 1 exponent
  let n := numerator * down
  let d := denominator * up
  let nearest := roundQuotient n d
  let other := if nearest = n / d then nearest + 1 else n / d
  [nearest, other].findSome? fun digits =>
    if ofDecimal false digits exponent = number then some (digits, exponent) else none

/-- The digits of the shortest decimal that is read back as a number, and its exponent. -/
def shortest (mantissa : Nat) (exponent : Int) : Nat × Int :=
  let (n, d) := quotient 2 mantissa exponent
  ((List.range 17).findSome? fun i =>
    withDigits? (finite false mantissa exponent) n d (i + 1)).getD (mantissa, 0)

/-- So many zeros. -/
def zeros (count : Int) : String :=
  String.ofList (List.replicate count.toNat '0')

/-- Digits with a point after the first `point` of them. -/
def positional (digits : String) (point : Int) : String :=
  let count := Int.ofNat digits.length
  if point ≤ 0 then "0." ++ zeros (-point) ++ digits
  else if count ≤ point then digits ++ zeros (point - count) ++ ".0"
  else
    String.ofList (digits.toList.take point.toNat) ++ "." ++
      String.ofList (digits.toList.drop point.toNat)

/-- Digits with a point after the first of them, and an exponent of at least two digits. -/
def scientific (digits : String) (point : Int) : String :=
  let power := point - 1
  let mantissa :=
    match digits.toList with
    | first :: second :: rest => String.ofList (first :: '.' :: second :: rest)
    | _ => digits
  let sign := if power < 0 then "-" else "+"
  let size := toString power.natAbs
  mantissa ++ "e" ++ sign ++ zeros (2 - Int.ofNat size.length) ++ size

/-- The text of a number; very large and very small ones have an exponent. -/
def text : Binary64 → String
  | notANumber => "nan"
  | infinite isNegative => if isNegative then "-inf" else "inf"
  | finite isNegative mantissa exponent =>
    let sign := if isNegative then "-" else ""
    if mantissa = 0 then sign ++ "0.0"
    else
      let (n, place) := shortest mantissa exponent
      let point := Int.ofNat (digitCount n) + place
      let digits := String.ofList (Text.dropTrailing (· == '0') (toString n).toList)
      sign ++ if -4 < point ∧ point ≤ 16 then positional digits point else scientific digits point

end Binary64

end ClientGen.Yaml
