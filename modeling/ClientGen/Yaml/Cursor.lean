/-!
# Reading a document

The text of a document and a place in it. The place knows its line and column, since both the
nesting of a document and the extent of its keys depend on them. A byte order mark takes no column.
-/

namespace ClientGen.Yaml

/-- Why a document has no value. -/
inductive Fault where
  /-- The text is no document, or a node is not what its tag says. -/
  | malformed
  /-- An escape sequence names a number above the last code point. -/
  | beyondUnicode
  /-- An escape sequence names a number that needs more than 31 bits. -/
  | beyondRange
  /-- A scalar tagged as a number or a time stands for none. -/
  | unreadable
  /-- A scalar tagged as a number has no characters. -/
  | emptyNumber
  /-- A scalar tagged as a truth value is none. -/
  | unknownBool
  /-- A scalar tagged as a time has another form. -/
  | unknownTime
deriving Repr, DecidableEq, Inhabited

/-- Does a character end a line? -/
def isBreak (c : Char) : Bool :=
  c == '\n' || c == '\r' || c == '\u0085' || c == '\u2028' || c == '\u2029'

/-- Does a character, or the end of the text, separate tokens? -/
def isGap (c : Option Char) : Bool :=
  c.all fun c => c == ' ' || c == '\t' || isBreak c

/-- Is a character, or the end of the text, the end of a line? -/
def isLineEnd (c : Option Char) : Bool :=
  c.all isBreak

/-- Is a character, or the end of the text, a space or the end of a line? -/
def isSpaceOrLineEnd (c : Option Char) : Bool :=
  c.all fun c => c == ' ' || isBreak c

/-- Is a character a letter of a handle or an anchor? -/
def isHandleChar (c : Char) : Bool :=
  c.isAlphanum || c == '-' || c == '_'

/-- May a character stand in a document? -/
def isPrintable (c : Char) : Bool :=
  let n := c.toNat
  n == 0x9 || n == 0xa || n == 0xd || n == 0x85 || (decide (0x20 ≤ n) && decide (n ≤ 0x7e)) ||
    (decide (0xa0 ≤ n) && n != 0xfffe && n != 0xffff)

/-- A place in a document. -/
structure Cursor where
  /-- What follows. -/
  rest : List Char
  /-- How many characters came before. -/
  index : Nat
  /-- How many lines came before. -/
  line : Nat
  /-- How far the place is into its line. -/
  column : Nat
deriving Repr, Inhabited

namespace Cursor

/-- The start of a text. -/
def start (cs : List Char) : Cursor :=
  ⟨cs, 0, 0, 0⟩

/-- The character some places ahead. -/
def peek (c : Cursor) (ahead : Nat := 0) : Option Char :=
  c.rest[ahead]?

/-- The place after the next character. -/
def next (c : Cursor) : Cursor :=
  match c.rest with
  | [] => c
  | ch :: rest =>
    if isBreak ch && !(ch == '\r' && rest.head? == some '\n') then
      ⟨rest, c.index + 1, c.line + 1, 0⟩
    else if ch = '\uFEFF' then ⟨rest, c.index + 1, c.line, c.column⟩
    else ⟨rest, c.index + 1, c.line, c.column + 1⟩

/-- The place some characters further on. -/
def skip : Nat → Cursor → Cursor
  | 0, c => c
  | n + 1, c => skip n c.next

/-- The characters of a class that come next, and the place after them. -/
def span (p : Char → Bool) (c : Cursor) : List Char × Cursor :=
  let run := c.rest.takeWhile p
  (run, c.skip run.length)

/-- The place after the characters of a class that come next. -/
def pass (p : Char → Bool) (c : Cursor) : Cursor :=
  (c.span p).2

/-- The line break that comes next, normalised, and the place after it. -/
def lineBreak? (c : Cursor) : Option (Char × Cursor) :=
  match c.rest with
  | '\r' :: '\n' :: _ => some ('\n', c.skip 2)
  | ch :: _ =>
    if ch = '\u2028' ∨ ch = '\u2029' then some (ch, c.next)
    else if isBreak ch then some ('\n', c.next)
    else none
  | [] => none

/-- Does a mark between documents come next? -/
def atDocumentMark (c : Cursor) : Bool :=
  (['-', '-', '-'].isPrefixOf c.rest || ['.', '.', '.'].isPrefixOf c.rest) && isGap (c.peek 3)

/-- The place after a comment, if one comes next. -/
def passComment (c : Cursor) : Cursor :=
  if c.peek = some '#' then c.pass (!isBreak ·) else c

/-- The place after the rest of a line that may hold only a comment. -/
def passLineEnd (c : Cursor) : Except Fault Cursor :=
  let c := (c.pass (· == ' ')).passComment
  if isLineEnd c.peek then .ok ((c.lineBreak?.map (·.2)).getD c) else .error .malformed

end Cursor

end ClientGen.Yaml
