import ClientGen.Text.Basic
import ClientGen.Text.Digits
import ClientGen.Yaml.Time

/-!
# Tags

What a tag says about a node, and the tag a plain scalar has by its form: the types of YAML 1.1 with
their notations for truth values, numbers (with underscores, in several bases, or in parts of
sixty), times and the absence of a value. A scalar of no such form is a text.
-/

namespace ClientGen.Yaml

/-- The type of a node. -/
inductive Tag where
  /-- No value. -/
  | null
  /-- A truth value. -/
  | bool
  /-- A whole number. -/
  | int
  /-- A number with a fraction or an exponent. -/
  | float
  /-- Bytes. -/
  | binary
  /-- A date or a point in time. -/
  | timestamp
  /-- A list of pairs with distinct keys. -/
  | omap
  /-- A list of pairs. -/
  | pairs
  /-- A set. -/
  | set
  /-- A text. -/
  | str
  /-- A list. -/
  | seq
  /-- A mapping. -/
  | map
  /-- The key whose value is merged into a mapping. -/
  | merge
  /-- The key of a mapping's own value. -/
  | value
  /-- A type this library does not know. -/
  | unknown
deriving Repr, DecidableEq, Inhabited

namespace Tag

/-- What the URIs of the known tags start with. -/
def core : String := "tag:yaml.org,2002:"

/-- The known tags by what follows in their URIs. -/
def names : List (String × Tag) :=
  [("null", .null), ("bool", .bool), ("int", .int), ("float", .float), ("binary", .binary),
   ("timestamp", .timestamp), ("omap", .omap), ("pairs", .pairs), ("set", .set), ("str", .str),
   ("seq", .seq), ("map", .map), ("merge", .merge), ("value", .value)]

/-- The tag with a URI. -/
def ofUri (uri : String) : Tag :=
  match Text.dropStart? core.toList uri.toList with
  | some name => (names.lookup (String.ofList name)).getD .unknown
  | none => .unknown

/-! ## Forms of plain scalars -/

/-- A text without a sign before it. -/
def unsigned : List Char → List Char
  | '+' :: rest => rest
  | '-' :: rest => rest
  | cs => cs

/-- A decimal digit or an underscore. -/
def isDigitOrUnderscore (c : Char) : Bool :=
  c.isDigit || c == '_'

/-- One of the parts of sixty after a colon: one digit, or two of which the first is at most 5. -/
def isSixtieth : List Char → Bool
  | [c] => c.isDigit
  | [c, d] => decide ('0' ≤ c) && decide (c ≤ '5') && d.isDigit
  | _ => false

/-- One or more parts of sixty, each after a colon. -/
def areSixtieths : List Char → Bool
  | ':' :: rest => (Text.splitWhere (· == ':') rest).all isSixtieth
  | _ => false

/-- Is a text a truth value? -/
def isBool (cs : List Char) : Bool :=
  ["yes", "Yes", "YES", "no", "No", "NO", "true", "True", "TRUE", "false", "False", "FALSE",
   "on", "On", "ON", "off", "Off", "OFF"].contains (String.ofList cs)

/-- Is a text the absence of a value? -/
def isNull (cs : List Char) : Bool :=
  ["~", "null", "Null", "NULL", ""].contains (String.ofList cs)

/-- Is a text a whole number: binary, octal, decimal, hexadecimal or in parts of sixty? -/
def isInt (cs : List Char) : Bool :=
  match unsigned cs with
  | '0' :: 'b' :: digits => !digits.isEmpty && digits.all fun c => c == '0' || c == '1' || c == '_'
  | '0' :: 'x' :: digits =>
    !digits.isEmpty && digits.all fun c => (Text.digit? 16 c).isSome || c == '_'
  | '0' :: digits => digits.all fun c => (Text.digit? 8 c).isSome || c == '_'
  | c :: rest =>
    let after := rest.dropWhile isDigitOrUnderscore
    c.isDigit && (after.isEmpty || areSixtieths after)
  | [] => false

/-- Is a text empty or an exponent with its sign? -/
def isExponent : List Char → Bool
  | [] => true
  | e :: sign :: digits =>
    (e == 'e' || e == 'E') && (sign == '+' || sign == '-') && !digits.isEmpty &&
      digits.all Char.isDigit
  | _ => false

/-- Is a text a number with a point, an infinity or not a number? -/
def isFloat (cs : List Char) : Bool :=
  let text := String.ofList cs
  let isNamed := [".inf", ".Inf", ".INF"].contains (String.ofList (unsigned cs)) ||
    [".nan", ".NaN", ".NAN"].contains text
  let startsWithPoint := match cs with
    | '.' :: c :: rest => c.isDigit && isExponent (rest.dropWhile isDigitOrUnderscore)
    | _ => false
  let startsWithDigit := match unsigned cs with
    | c :: rest =>
      let whole := rest.takeWhile (· != '.')
      match rest.dropWhile (· != '.') with
      | _ :: fraction =>
        let after := fraction.dropWhile isDigitOrUnderscore
        c.isDigit && ((whole.all isDigitOrUnderscore && isExponent after) ||
          (areSixtieths (whole.dropWhile isDigitOrUnderscore) && after.isEmpty))
      | [] => false
    | [] => false
  isNamed || startsWithPoint || startsWithDigit

/-! ## The tag of a plain scalar -/

/-- The tag a plain scalar has by its form. -/
def ofPlain (cs : List Char) : Tag :=
  if isBool cs then .bool
  else if isFloat cs then .float
  else if isInt cs then .int
  else if cs = ['<', '<'] then .merge
  else if isNull cs then .null
  else if Time.isPlain cs then .timestamp
  else if cs = ['='] then .value
  else .str

end Tag

end ClientGen.Yaml
