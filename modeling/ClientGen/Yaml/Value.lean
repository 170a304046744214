import ClientGen.Yaml.Binary64
import ClientGen.Yaml.Time

/-!
# Document values

What a YAML or JSON document holds once its scalars are read: the native values of YAML 1.1. A
mapping keeps the order in which its keys first occur.
-/

namespace ClientGen.Yaml

/-- A value in a document. -/
inductive Value where
  /-- No value. -/
  | null
  /-- A truth value. -/
  | bool (b : Bool)
  /-- A whole number. -/
  | int (n : Int)
  /-- A number with a fraction or an exponent. -/
  | number (x : Binary64)
  /-- A text. -/
  | text (s : String)
  /-- Bytes. -/
  | bytes (content : ByteArray)
  /-- A date or a point in time. -/
  | time (t : Time)
  /-- A list. -/
  | list (items : List Value)
  /-- A mapping. -/
  | map (entries : List (Value × Value))
deriving Inhabited

namespace Value

mutual

/-- How deep lists and mappings are nested in a value. -/
def depth : Value → Nat
  | list items => depthOfList items + 1
  | map entries => depthOfEntries entries + 1
  | _ => 0

/-- The greatest depth in a list. -/
def depthOfList : List Value → Nat
  | [] => 0
  | v :: vs => max v.depth (depthOfList vs)

/-- The greatest depth in the entries of a mapping. -/
def depthOfEntries : List (Value × Value) → Nat
  | [] => 0
  | (k, v) :: rest => max (max k.depth v.depth) (depthOfEntries rest)

end

/-- The whole number a value counts as when mapping keys are compared. -/
def asInt? : Value → Option Int
  | bool b => some (if b then 1 else 0)
  | int n => some n
  | number x => x.toInt?
  | _ => none

/-- Are two values the same mapping key? Numbers and truth values are compared as numbers; what is
no number is no key's equal. -/
def sameKey (a b : Value) : Bool :=
  match a.asInt?, b.asInt? with
  | some m, some n => m == n
  | none, none =>
    match a, b with
    | text s, text t => s == t
    | bytes s, bytes t => s == t
    | time s, time t => s == t
    | number x, number y => x == y && x != .notANumber
    | null, null => true
    | _, _ => false
  | _, _ => false

/-- Set the value under a key; a new key goes to the end. -/
def setEntry (key value : Value) : List (Value × Value) → List (Value × Value)
  | [] => [(key, value)]
  | (k, old) :: rest =>
    if sameKey k key then (k, value) :: rest else (k, old) :: setEntry key value rest

/-- The value under a text key. -/
def find? (name : String) : List (Value × Value) → Option Value
  | [] => none
  | (text key, value) :: rest => if key = name then some value else find? name rest
  | _ :: rest => find? name rest

end Value

end ClientGen.Yaml
