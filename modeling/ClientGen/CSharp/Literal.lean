import ClientGen.CSharp.Source
import ClientGen.Text.Digits

/-!
# String literals

The value of a string literal. A regular literal is read as a list of code values: each escape
sequence stands for one value and every other character for itself, and what an escape stands
for is never read again. A value may exceed the code points, so turning the values into text is
a step of its own. A verbatim literal has no escapes but the doubled quote.
-/

namespace ClientGen.CSharp.Literal

/-- The hexadecimal digits, at most `most`, that start a text. -/
def hexDigits : (most : Nat) → List Char → List Nat
  | 0, _ => []
  | _, [] => []
  | most + 1, c :: rest =>
    match Text.digit? 16 c with
    | some d => d :: hexDigits most rest
    | none => []

/-- The number with the given hexadecimal digits. -/
def hexNumber (digits : List Nat) : Nat :=
  digits.foldl (fun n d => n * 16 + d) 0

/-- The fewest and the most hexadecimal digits after the letter of an escape sequence. -/
def hexWidth? : Char → Option (Nat × Nat)
  | 'x' => some (1, 4)
  | 'u' => some (4, 4)
  | 'U' => some (8, 8)
  | _ => none

/-- The character a backslash and a letter stand for; other characters stand for themselves. -/
def simpleEscape : Char → Char
  | '0' => '\x00'
  | 'a' => '\x07'
  | 'b' => '\x08'
  | 'f' => '\x0c'
  | 'n' => '\n'
  | 'r' => '\r'
  | 't' => '\t'
  | 'v' => '\x0b'
  | c => c

/-- The code value of an escape sequence, from the character after the backslash on, and the
number of digits that belong to it. -/
def escape (c : Char) (rest : List Char) : Nat × Nat :=
  match hexWidth? c with
  | some (fewest, most) =>
    let digits := hexDigits most rest
    if fewest ≤ digits.length then (hexNumber digits, digits.length) else (c.toNat, 0)
  | none => ((simpleEscape c).toNat, 0)

/-- The code values of the text between the quotes of a regular literal. -/
def codes : List Char → List Nat
  | [] => []
  | ['\\'] => ['\\'.toNat]
  | '\\' :: c :: rest => (escape c rest).1 :: codes (rest.drop (escape c rest).2)
  | c :: rest => c.toNat :: codes rest
termination_by cs => cs.length
decreasing_by
  all_goals simp only [List.length_cons, List.length_drop]; omega

/-- A list of code values as text: no value may lie above the code points, and `none` marks a
text that would hold half of a surrogate pair. -/
def ofCodes (values : List Nat) : Except SourceFault (Option String) :=
  match values.find? (0x10ffff < ·) with
  | some value => .error (if value < 0x80000000 then .beyondUnicode else .beyondRange)
  | none =>
    if values.all Nat.isValidChar then .ok (some (String.ofList (values.map Char.ofNat)))
    else .ok none

/-- The value of a regular literal from its text: its first and last character are dropped. -/
def regular (text : List Char) : Except SourceFault (Option String) :=
  ofCodes (codes ((text.drop 1).dropLast))

/-- A text with every doubled quote made single. -/
def undouble : List Char → List Char
  | '"' :: '"' :: rest => '"' :: undouble rest
  | c :: rest => c :: undouble rest
  | [] => []

/-- The value of a verbatim literal from its text: its first two and its last character are
dropped. -/
def verbatim (text : List Char) : String :=
  String.ofList (undouble ((text.drop 2).dropLast))

end ClientGen.CSharp.Literal
