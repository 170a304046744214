import ClientGen.Text.Digits

/-!
# Times in documents

A date, or a date with a time of day and perhaps its distance from universal time: how it is written
in a document, whether there is such a time, and the text it has as a step of a location.
-/

namespace ClientGen.Yaml

/-- A time of day. -/
structure Clock where
  /-- The hours. -/
  hours : Nat
  /-- The minutes. -/
  minutes : Nat
  /-- The seconds. -/
  seconds : Nat
  /-- The millionths of a second. -/
  fraction : Nat
deriving Repr, DecidableEq, Inhabited

/-- A date, perhaps with a time of day. -/
structure Time where
  /-- The year. -/
  year : Nat
  /-- The month. -/
  month : Nat
  /-- The day of the month. -/
  day : Nat
  /-- The time of day. -/
  clock : Option Clock := none
  /-- The distance from universal time in minutes, positive to the east. -/
  zone : Option Int := none
deriving Repr, DecidableEq, Inhabited

namespace Time

/-! ## Notation -/

/-- A number of as many digits as there are, but at least `least` and at most `most`, and what is
left. -/
def digitsBetween? (least most : Nat) (cs : List Char) : Option (Nat × List Char) := do
  let digits := (cs.take most).takeWhile Char.isDigit
  if digits.length < least then none
  else return (← Text.number? 10 digits, cs.drop digits.length)

/-- What is left after a character. -/
def after? (c : Char) : List Char → Option (List Char)
  | [] => none
  | d :: rest => if d = c then some rest else none

/-- White space within the notation of a time. -/
def isBlank (c : Char) : Bool :=
  c == ' ' || c == '\t'

/-- The distance from universal time at the end of the notation. -/
def zone? (cs : List Char) : Option (Option Int) := do
  match cs.dropWhile isBlank with
  | [] => if cs.isEmpty then some none else none
  | ['Z'] => some (some 0)
  | sign :: rest =>
    if sign = '+' ∨ sign = '-' then
      let (hours, rest) ← digitsBetween? 1 2 rest
      let minutes ← match rest with
        | [] => some 0
        | ':' :: rest => (digitsBetween? 2 2 rest).bind fun (minutes, rest) =>
          if rest.isEmpty then some minutes else none
        | _ => none
      let distance := Int.ofNat (hours * 60 + minutes)
      some (some (if sign = '-' then -distance else distance))
    else none

/-- The millionths of a second written by the digits after a point. -/
def fractionOf (digits : List Char) : Nat :=
  let padded := digits.take 6 ++ List.replicate (6 - digits.length) '0'
  (Text.number? 10 padded).getD 0

/-- The time of day and the zone at the end of the notation. -/
def clock? (cs : List Char) : Option (Clock × Option Int) := do
  let start ← match cs with
    | c :: rest =>
      if c = 'T' ∨ c = 't' then some rest
      else if isBlank c then some (rest.dropWhile isBlank)
      else none
    | [] => none
  let (hours, rest) ← digitsBetween? 1 2 start
  let (minutes, rest) ← digitsBetween? 2 2 (← after? ':' rest)
  let (seconds, rest) ← digitsBetween? 2 2 (← after? ':' rest)
  let (fraction, rest) := match rest with
    | '.' :: rest => (rest.takeWhile Char.isDigit, rest.dropWhile Char.isDigit)
    | rest => ([], rest)
  return (⟨hours, minutes, seconds, fractionOf fraction⟩, ← zone? rest)

/-- The time written by a text, and whether month and day have two digits each. There need not be
such a time. -/
def read? (cs : List Char) : Option (Time × Bool) := do
  let (year, rest) ← digitsBetween? 4 4 cs
  let afterYear ← after? '-' rest
  let (month, rest) ← digitsBetween? 1 2 afterYear
  let afterMonth ← after? '-' rest
  let (day, rest) ← digitsBetween? 1 2 afterMonth
  let isPadded := afterYear.length - afterMonth.length = 3 ∧ afterMonth.length - rest.length = 2
  if rest.isEmpty then return ({ year, month, day }, isPadded)
  else
    let (clock, zone) ← clock? rest
    return ({ year, month, day, clock := some clock, zone }, isPadded)

/-- Is a text a date with all its digits, or a date and a time of day? -/
def isPlain (cs : List Char) : Bool :=
  (read? cs).any fun (time, isPadded) => isPadded || time.clock.isSome

/-! ## Validity -/

/-- The number of days in a month. -/
def daysIn (year month : Nat) : Nat :=
  if month = 2 then
    if year % 4 = 0 ∧ (year % 100 ≠ 0 ∨ year % 400 = 0) then 29 else 28
  else if month = 4 ∨ month = 6 ∨ month = 9 ∨ month = 11 then 30
  else 31

/-- Is there such a time? -/
def isValid (time : Time) : Bool :=
  let isDate := 1 ≤ time.year ∧ 1 ≤ time.month ∧ time.month ≤ 12 ∧ 1 ≤ time.day ∧
    time.day ≤ daysIn time.year time.month
  let isClock := time.clock.all fun clock =>
    clock.hours < 24 ∧ clock.minutes < 60 ∧ clock.seconds < 60
  let isZone := time.zone.all fun distance => distance.natAbs < 1440
  isDate ∧ isClock ∧ isZone

/-! ## Text -/

/-- A name with arguments in parentheses. -/
def applied (name : String) (arguments : List String) : String :=
  "datetime." ++ name ++ "(" ++ ", ".intercalate arguments ++ ")"

/-- The text of a distance from universal time. It is given as days, which may be negative, and
seconds within a day. -/
def zoneText (distance : Int) : String :=
  if distance = 0 then "datetime.timezone.utc"
  else
    let days := if distance < 0 then ["days=-1"] else []
    let seconds := (if distance < 0 then distance + 1440 else distance) * 60
    applied "timezone" [applied "timedelta" (days ++ ["seconds=" ++ toString seconds])]

/-- The text of a time; seconds and their fraction are left out at the end when they are zero. -/
def text (time : Time) : String :=
  let date := [time.year, time.month, time.day].map toString
  match time.clock with
  | none => applied "date" date
  | some clock =>
    let seconds :=
      if clock.fraction ≠ 0 then [clock.seconds, clock.fraction]
      else if clock.seconds ≠ 0 then [clock.seconds]
      else []
    let zone := time.zone.toList.map fun distance => "tzinfo=" ++ zoneText distance
    applied "datetime" (date ++ (clock.hours :: clock.minutes :: seconds).map toString ++ zone)

end Time

end ClientGen.Yaml
