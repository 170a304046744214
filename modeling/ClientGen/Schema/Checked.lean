import ClientGen.Text.Lower
import ClientGen.Text.Quoted
import ClientGen.Yaml.Value

/-!
# Checking values against a schema

A value read from a document is checked against the shape that is expected at its place. Checking
does not stop at the first problem: all problems of a value are listed, the fields of an object in
the order of their declaration and what is inside a field with that field. A problem has a kind
and a location, the steps from the outermost value to the place.
-/

namespace ClientGen.Schema

open ClientGen.Yaml (Value)

/-- A step into a value. -/
inductive Step where
  /-- A field of an object, or a key that is a text. -/
  | key (name : String)
  /-- A position in a list, or a key that is a number. -/
  | index (n : Int)
deriving Repr, DecidableEq, Inhabited

/-- What is wrong at a place. -/
inductive Problem where
  /-- A field is required and not there. -/
  | missing
  /-- The value is no text. -/
  | notText
  /-- The value is a sequence of bytes that is no text. -/
  | notUnicode
  /-- The value is no list. -/
  | notList
  /-- The value is no mapping. -/
  | notMapping
  /-- The value is no object. -/
  | notObject
  /-- The value is nothing that could be a truth value. -/
  | notBool
  /-- The value is a text or a number that means no truth value. -/
  | unreadableBool
  /-- The value is not in the list of allowed ones. -/
  | notAllowed
  /-- The value is no pair. -/
  | notPair
  /-- The list holds more than a pair. -/
  | tooLong
deriving Repr, DecidableEq, Inhabited

/-- A problem with its location. -/
structure Issue where
  /-- The steps to the place. -/
  location : List Step
  /-- What is wrong there. -/
  problem : Problem
deriving Repr, DecidableEq, Inhabited

/-- A value that was checked, or everything that is wrong with it. -/
inductive Checked (α : Type) where
  /-- Nothing is wrong. -/
  | valid (a : α)
  /-- These are the problems, in order. -/
  | invalid (issues : List Issue)

namespace Checked

variable {α β γ : Type}

/-- Change a checked value. -/
def map (f : α → β) : Checked α → Checked β
  | valid a => valid (f a)
  | invalid issues => invalid issues

/-- Put two checked values together; the problems of both are listed. -/
def zip : Checked α → Checked β → Checked (α × β)
  | valid a, valid b => valid (a, b)
  | valid _, invalid issues => invalid issues
  | invalid issues, valid _ => invalid issues
  | invalid first, invalid second => invalid (first ++ second)

/-- Apply a checked function; the problems of function and argument are listed. -/
def apply (f : Checked (α → β)) (a : Checked α) : Checked β :=
  (f.zip a).map fun (f, a) => f a

/-- Put a list of checked values together. -/
def all : List (Checked α) → Checked (List α)
  | [] => valid []
  | a :: rest => (a.zip (all rest)).map fun (a, rest) => a :: rest

/-- The problems as seen from one step further out. -/
def under (step : Step) : Checked α → Checked α
  | valid a => valid a
  | invalid issues =>
    invalid (issues.map fun issue => { issue with location := step :: issue.location })

/-- One problem with the value itself. -/
def wrong (problem : Problem) : Checked α :=
  invalid [⟨[], problem⟩]

/-- A function applied to a checked value keeps its problems. -/
instance : Functor Checked where
  map := map

/-- Two checks one after the other list the problems of both. -/
instance : Seq Checked where
  seq f a := f.apply (a ())

/-- The value, or the list of its problems. -/
def toExcept : Checked α → Except (List Issue) α
  | valid a => .ok a
  | invalid issues => .error issues

end Checked

/-- A check of a value. -/
abbrev Check (α : Type) := Value → Checked α

variable {α β : Type}

/-- A text; bytes count when they are UTF-8. -/
def text : Check String
  | .text s => .valid s
  | .bytes content =>
    match String.fromUTF8? content with
    | some s => .valid s
    | none => .wrong .notUnicode
  | _ => .wrong .notText

/-- Texts that mean true. -/
def trueTexts : List String := ["1", "on", "t", "true", "y", "yes"]

/-- Texts that mean false. -/
def falseTexts : List String := ["0", "off", "f", "false", "n", "no"]

/-- Does a whole number fit in 64 bits? -/
def fits64 (n : Int) : Bool :=
  decide (-9223372036854775808 ≤ n) && decide (n ≤ 9223372036854775807)

/-- The truth value of a whole number. -/
def boolOfInt (n : Int) : Checked Bool :=
  if n = 0 then .valid false
  else if n = 1 then .valid true
  else if fits64 n then .wrong .unreadableBool
  else .wrong .notBool

/-- A truth value, or a number or text that means one. -/
def bool : Check Bool
  | .bool b => .valid b
  | .int n => boolOfInt n
  | .number x =>
    match x.toInt? with
    | some n => boolOfInt n
    | none => .wrong .notBool
  | .text s => boolOfText s
  | .bytes content =>
    match String.fromUTF8? content with
    | some s => boolOfText s
    | none => .wrong .unreadableBool
  | _ => .wrong .notBool
where
  /-- The truth value of a text, in any case. -/
  boolOfText (s : String) : Checked Bool :=
    if trueTexts.contains (Text.lower s) then .valid true
    else if falseTexts.contains (Text.lower s) then .valid false
    else .wrong .unreadableBool

/-- A value or nothing. -/
def nullable (check : Check α) : Check (Option α)
  | .null => .valid none
  | v => (check v).map some

/-- Check the items of a list from a position on. -/
def itemsFrom (check : Check α) (position : Nat) : List Value → List (Checked α)
  | [] => []
  | v :: vs => (check v).under (.index position) :: itemsFrom check (position + 1) vs

/-- A list. -/
def list (check : Check α) : Check (List α)
  | .list items => .all (itemsFrom check 0 items)
  | _ => .wrong .notList

/-- The step to a key of a mapping: a number is a position, and what is neither a text nor a whole
number that fits in 64 bits is named by its own text. -/
def keyStep : Value → Step
  | .text s => .key s
  | .int n => if fits64 n then .index n else .key (toString n)
  | .bool b => .index (if b then 1 else 0)
  | .number x => .key x.text
  | .time t => .key t.text
  | .bytes content => .key (bytesText content)
  | _ => .key "None"
where
  /-- The text of bytes: characters of ASCII between quotes, others by number. -/
  bytesText (content : ByteArray) : String :=
    let cs := content.toList.map fun byte => Char.ofNat byte.toNat
    let mark := Text.quoteMark cs
    "b" ++ String.ofList (mark :: cs.flatMap (byteChar mark) ++ [mark])
  /-- A byte between the given quotes. -/
  byteChar (mark c : Char) : List Char :=
    if c.toNat < 0x80 then Text.quoteChar mark c else '\\' :: 'x' :: Text.hexDigits 2 c.toNat

/-- A mapping from texts to texts. -/
def textMap : Check (List (String × String))
  | .map entries =>
    .all (entries.map fun (key, value) =>
      (((text key).under (.key "[key]")).zip (text value)).under (keyStep key))
  | _ => .wrong .notMapping

/-- A pair of texts, given as a list. -/
def textPair : Check (String × String)
  | .list (a :: b :: []) => ((text a).under (.index 0)).zip ((text b).under (.index 1))
  | .list (_ :: _ :: _ :: _) => .wrong .tooLong
  | .list [a] => ((text a).under (.index 0)).zip (.invalid [⟨[.index 1], .missing⟩])
  | .list [] => .invalid [⟨[.index 0], .missing⟩, ⟨[.index 1], .missing⟩]
  | _ => .wrong .notPair

/-- The fields of an object. -/
abbrev Fields := List (Value × Value)

/-- An object with fields. -/
def object (check : Fields → Checked α) : Check α
  | .map fields => check fields
  | _ => .wrong .notObject

/-- A field that has to be there. -/
def required (name : String) (check : Check α) (fields : Fields) : Checked α :=
  match Value.find? name fields with
  | some v => (check v).under (.key name)
  | none => .invalid [⟨[.key name], .missing⟩]

/-- A field that has a default. -/
def optional (name : String) (check : Check α) (default : α) (fields : Fields) : Checked α :=
  match Value.find? name fields with
  | some v => (check v).under (.key name)
  | none => .valid default

end ClientGen.Schema
