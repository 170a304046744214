import ClientGen.Text.Digits
import ClientGen.Yaml.Cursor

/-!
# Scalars

The text of a scalar in each of its styles. In all of them a line break between two lines of text
is folded: it becomes a space when no empty line follows, and the empty lines that follow become
line feeds. A double-quoted scalar has escape sequences, which stand for code values; the values
that are halves of surrogate pairs make the scalar a sequence of bytes that is no text.
-/

namespace ClientGen.Yaml

/-- The text of a scalar. -/
inductive ScalarText where
  /-- Characters. -/
  | chars (cs : List Char)
  /-- Bytes that are no text. -/
  | damaged (bytes : List UInt8)
deriving Repr, Inhabited

namespace Scalar

/-- A line break within text, given the breaks of the empty lines after it. -/
def folded (first : Char) (breaks : List Char) : List Char :=
  if first ≠ '\n' then first :: breaks
  else if breaks.isEmpty then [' ']
  else breaks

/-! ## Plain scalars -/

/-- The number of characters of a plain scalar that come next without a gap. -/
def plainLength (inFlow : Bool) : List Char → Nat
  | [] => 0
  | c :: rest =>
    let ends := isGap (some c) ||
      (c == ':' && (isGap rest.head? ||
        (inFlow && rest.head?.any (fun d => [',', '[', ']', '\x7b', '\x7d'].contains d)))) ||
      (inFlow && [',', '?', '[', ']', '\x7b', '\x7d'].contains c)
    if ends then 0 else plainLength inFlow rest + 1

/-- The line breaks and spaces that come next; `none` when a mark between documents comes. -/
def plainBreaks : (fuel : Nat) → Cursor → Option (List Char) × Cursor
  | 0, c => (some [], c)
  | fuel + 1, c =>
    let c := c.pass (· == ' ')
    match c.lineBreak? with
    | none => (some [], c)
    | some (b, c) =>
      if c.atDocumentMark then (none, c)
      else
        let (breaks, c) := plainBreaks fuel c
        (breaks.map (b :: ·), c)

/-- What separates the text read so far from what may follow: its value, `none` when a mark
between documents comes, and whether a line was ended. -/
def plainGap (c : Cursor) : Option (List Char) × Bool × Cursor :=
  let (spaces, c) := c.span (· == ' ')
  match c.lineBreak? with
  | none => (some spaces, false, c)
  | some (first, c) =>
    if c.atDocumentMark then (none, true, c)
    else
      let (breaks, c) := plainBreaks c.rest.length c
      (breaks.map (folded first), true, c)

/-- The text of a plain scalar, whether it went over a line break at its end, and the place after
it. `gap` is what separates it from the text before. -/
def plainAfter (inFlow : Bool) (indent : Int) (gap : List Char) (endedLine : Bool) :
    (fuel : Nat) → Cursor → List Char × Bool × Cursor
  | 0, c => ([], endedLine, c)
  | fuel + 1, c =>
    let length := if c.peek = some '#' then 0 else plainLength inFlow c.rest
    if length = 0 then ([], endedLine, c)
    else
      let run := c.rest.take length
      let (next, ended, c) := plainGap (c.skip length)
      let goesOn := next.any (!·.isEmpty) && c.peek ≠ some '#' && (inFlow || indent ≤ c.column)
      if goesOn then
        let (more, ended, c) := plainAfter inFlow indent (next.getD []) ended fuel c
        (gap ++ run ++ more, ended, c)
      else (gap ++ run, ended, c)

/-- The text of the plain scalar that comes next, whether its last gap held a line break, and the
place after it. -/
def plain (inFlow : Bool) (indent : Int) (c : Cursor) : List Char × Bool × Cursor :=
  plainAfter inFlow indent [] false (c.rest.length + 1) c

/-! ## Quoted scalars -/

/-- The empty lines that come next in a quoted scalar. -/
def quotedBreaks : (fuel : Nat) → Cursor → Except Fault (List Char × Cursor)
  | 0, c => .ok ([], c)
  | fuel + 1, c =>
    if c.atDocumentMark then .error .malformed
    else
      let c := c.pass fun ch => ch == ' ' || ch == '\t'
      match c.lineBreak? with
      | none => .ok ([], c)
      | some (b, c) => do
        let (breaks, c) ← quotedBreaks fuel c
        return (b :: breaks, c)

/-- The value of white space in a quoted scalar. -/
def quotedGap (c : Cursor) : Except Fault (List Char × Cursor) := do
  let (blanks, c) := c.span fun ch => ch == ' ' || ch == '\t'
  match c.lineBreak? with
  | none => return (blanks, c)
  | some (first, c) =>
    let (breaks, c) ← quotedBreaks (c.rest.length + 1) c
    return (folded first breaks, c)

/-- The character an escape sequence of one letter stands for. -/
def simpleEscape? : Char → Option Char
  | '0' => some '\x00'
  | 'a' => some '\x07'
  | 'b' => some '\x08'
  | 't' => some '\t'
  | '\t' => some '\t'
  | 'n' => some '\n'
  | 'v' => some '\x0b'
  | 'f' => some '\x0c'
  | 'r' => some '\r'
  | 'e' => some '\x1b'
  | ' ' => some ' '
  | '"' => some '"'
  | '\\' => some '\\'
  | '/' => some '/'
  | 'N' => some '\u0085'
  | '_' => some '\u00a0'
  | 'L' => some '\u2028'
  | 'P' => some '\u2029'
  | _ => none

/-- The number of hexadecimal digits of an escape sequence. -/
def escapeWidth? : Char → Option Nat
  | 'x' => some 2
  | 'u' => some 4
  | 'U' => some 8
  | _ => none

/-- The number written by exactly so many hexadecimal digits at the start of a text. -/
def hexNumber? (width : Nat) (cs : List Char) : Option Nat :=
  if cs.length < width then none else Text.number? 16 (cs.take width)

/-- The code values of an escape sequence after its backslash, and the place after it. -/
def escape (c : Cursor) : Except Fault (List Nat × Cursor) :=
  match c.peek with
  | none => .error .malformed
  | some ch =>
    match simpleEscape? ch, escapeWidth? ch, c.lineBreak? with
    | some value, _, _ => .ok ([value.toNat], c.next)
    | none, some width, _ =>
      match hexNumber? width (c.rest.drop 1) with
      | none => .error .malformed
      | some code =>
        if 0x80000000 ≤ code then .error .beyondRange
        else if 0x10ffff < code then .error .beyondUnicode
        else .ok ([code], c.skip (width + 1))
    | none, none, some (_, c) => do
      let (breaks, c) ← quotedBreaks (c.rest.length + 1) c
      return (breaks.map Char.toNat, c)
    | none, none, none => .error .malformed

/-- The code values of a quoted scalar after its opening quote, and the place after it. -/
def quotedAfter (quote : Char) : (fuel : Nat) → Cursor → Except Fault (List Nat × Cursor)
  | 0, _ => .error .malformed
  | fuel + 1, c =>
    match c.peek with
    | none => .error .malformed
    | some ch =>
      if ch = quote then
        if quote = '\'' ∧ c.peek 1 = some quote then do
          let (more, c) ← quotedAfter quote fuel (c.skip 2)
          return (quote.toNat :: more, c)
        else .ok ([], c.next)
      else if quote = '"' ∧ ch = '\\' then do
        let (values, c) ← escape c.next
        let (more, c) ← quotedAfter quote fuel c
        return (values ++ more, c)
      else if isGap (some ch) then do
        let (gap, c) ← quotedGap c
        let (more, c) ← quotedAfter quote fuel c
        return (gap.map Char.toNat ++ more, c)
      else do
        let (more, c) ← quotedAfter quote fuel c.next
        return (ch.toNat :: more, c)

/-- The bytes of a code value below the surrogates' end, in the three-byte form. -/
def surrogateBytes (code : Nat) : List UInt8 :=
  [UInt8.ofNat (0xe0 + code / 0x1000), UInt8.ofNat (0x80 + code / 0x40 % 0x40),
   UInt8.ofNat (0x80 + code % 0x40)]

/-- The text with some code values. -/
def textOfCodes (codes : List Nat) : ScalarText :=
  if codes.all Nat.isValidChar then .chars (codes.map Char.ofNat)
  else .damaged (codes.flatMap fun code =>
    if code.isValidChar then (String.singleton (Char.ofNat code)).toUTF8.toList
    else surrogateBytes code)

/-- The text of the quoted scalar that comes next, and the place after it. -/
def quoted (quote : Char) (c : Cursor) : Except Fault (ScalarText × Cursor) := do
  let (codes, c) ← quotedAfter quote (c.rest.length + 1) c.next
  return (textOfCodes codes, c)

/-! ## Block scalars -/

/-- What becomes of the line breaks at the end of a block scalar. -/
inductive Chomping where
  /-- All are dropped. -/
  | strip
  /-- The first is kept. -/
  | clip
  /-- All are kept. -/
  | keep
deriving Repr, DecidableEq

/-- The sign that says how a block scalar ends. -/
def chomping? : Option Char → Option Chomping
  | some '+' => some .keep
  | some '-' => some .strip
  | _ => none

/-- The digit that says how far a block scalar is indented. -/
def increment? (c : Option Char) : Option Nat :=
  c.bind fun c => if c.isDigit then some (c.toNat - '0'.toNat) else none

/-- The signs after the mark of a block scalar, in either order, and the place after them. -/
def blockHeader (c : Cursor) : Except Fault (Chomping × Option Nat × Cursor) := do
  let (chomping, increment, c) := match chomping? c.peek, increment? c.peek with
    | some chomping, _ =>
      match increment? (c.peek 1) with
      | some n => (chomping, some n, c.skip 2)
      | none => (chomping, none, c.next)
    | none, some n =>
      match chomping? (c.peek 1) with
      | some chomping => (chomping, some n, c.skip 2)
      | none => (.clip, some n, c.next)
    | none, none => (.clip, none, c)
  if increment = some 0 ∨ !isSpaceOrLineEnd c.peek then throw .malformed
  return (chomping, increment, ← c.passLineEnd)

/-- The empty lines before a block scalar without a given indentation, the greatest column that
was reached in them, and the place after them. -/
def blockIndentation : (fuel : Nat) → (reached : Nat) → Cursor → List Char × Nat × Cursor
  | 0, reached, c => ([], reached, c)
  | fuel + 1, reached, c =>
    let c := c.pass (· == ' ')
    let reached := max reached c.column
    match c.lineBreak? with
    | none => ([], reached, c)
    | some (b, c) =>
      let (breaks, reached, c) := blockIndentation fuel reached c
      (b :: breaks, reached, c)

/-- The place after the spaces that come next before a column. -/
def passSpacesTo (column : Nat) (c : Cursor) : Cursor :=
  c.skip ((c.rest.take (column - c.column)).takeWhile (· == ' ')).length

/-- The empty lines that come next in a block scalar, and the place after them. -/
def blockBreaks (indent : Nat) : (fuel : Nat) → Cursor → List Char × Cursor
  | 0, c => ([], c)
  | fuel + 1, c =>
    let c := passSpacesTo indent c
    match c.lineBreak? with
    | none => ([], c)
    | some (b, c) =>
      let (breaks, c) := blockBreaks indent fuel c
      (b :: breaks, c)

/-- Is a character, or the end of the text, a space or a tab? -/
def isBlankChar (c : Option Char) : Bool :=
  c == some ' ' || c == some '\t'

/-- The lines of a block scalar, after the empty lines `breaks`: its text without the end, its last
line break, the empty lines after it, and the place after them. -/
def blockLines (isFolded : Bool) (indent : Nat) (breaks : List Char) :
    (fuel : Nat) → Cursor → List Char × List Char × List Char × Cursor
  | 0, c => ([], [], breaks, c)
  | fuel + 1, c =>
    if c.column = indent ∧ c.peek.isSome then
      let startsWithText := !isBlankChar c.peek
      let (run, c) := c.span (!isBreak ·)
      let (lineEnd, c) := match c.lineBreak? with
        | some (b, c) => ([b], c)
        | none => ([], c)
      let (next, c) := blockBreaks indent (c.rest.length + 1) c
      if c.column = indent ∧ c.peek.isSome then
        let joint :=
          if isFolded && lineEnd == ['\n'] && startsWithText && !isBlankChar c.peek then
            if next.isEmpty then [' '] else []
          else lineEnd
        let (more, last, after, c) := blockLines isFolded indent next fuel c
        (breaks ++ run ++ joint ++ more, last, after, c)
      else (breaks ++ run, lineEnd, next, c)
    else ([], [], breaks, c)

/-- The text of the block scalar whose mark comes next, and the place after it. `indent` is the
column of the enclosing block. -/
def block (isFolded : Bool) (indent : Int) (c : Cursor) : Except Fault (List Char × Cursor) := do
  let (chomping, increment, c) ← blockHeader c.next
  let least := (max 1 (indent + 1)).toNat
  let (breaks, column, c) := match increment with
    | some n =>
      let column := least + n - 1
      let (breaks, c) := blockBreaks column (c.rest.length + 1) c
      (breaks, column, c)
    | none =>
      let (breaks, reached, c) := blockIndentation (c.rest.length + 1) 0 c
      (breaks, max least reached, c)
  let (text, last, after, c) := blockLines isFolded column breaks (c.rest.length + 1) c
  return (match chomping with
    | .strip => text
    | .clip => text ++ last
    | .keep => text ++ last ++ after, c)

end Scalar

end ClientGen.Yaml
