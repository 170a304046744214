import ClientGen.CSharp.Source

/-!
# Lexemes

The cutting of a C# source into lexemes: white space, comments, preprocessor lines, words, string
and character literals, and single symbols. Operators are left as their symbols, and a number is
one word or several, since nothing here depends on their values.

Each kind of lexeme has a function that says how long the lexeme at the start of a source is, so
cutting is taking that many places off the front, and nothing of the source is lost. An
interpolated string is one lexeme; the code in its holes is passed over by the same functions.
-/

namespace ClientGen.CSharp

/-- What a token is. -/
inductive TokenKind where
  /-- A name, a keyword or a number. -/
  | word
  /-- A string literal with escape sequences. -/
  | regularString
  /-- A string literal that starts with `@`. -/
  | verbatimString
  /-- A character literal, or a raw or interpolated string. -/
  | otherLiteral
  /-- One character of punctuation. -/
  | symbol
deriving Repr, DecidableEq

/-- What a lexeme is. -/
inductive LexemeKind where
  /-- White space. -/
  | blank
  /-- A comment to the end of the line or between slashes and stars. -/
  | comment
  /-- A preprocessor directive, to the end of its line. -/
  | directive
  /-- Anything else. -/
  | token (kind : TokenKind)
deriving Repr, DecidableEq

/-- A lexeme with its text. -/
structure Lexeme where
  /-- What it is. -/
  kind : LexemeKind
  /-- Its text. -/
  text : Source
deriving Repr, DecidableEq

namespace Lexeme

/-- Is a lexeme a token? -/
def isToken (lexeme : Lexeme) : Bool :=
  match lexeme.kind with
  | .token _ => true
  | _ => false

/-- White space between tokens; a byte order mark counts. -/
def isBlank (c : Option Char) : Bool :=
  c.any fun c => Text.isBlank c || c == '\uFEFF'

/-- Characters of names and numbers: letters, digits, the underscore, the backslash of an escaped
letter and everything beyond ASCII that is not white space. -/
def isWord (c : Option Char) : Bool :=
  !isBlank c && c.all fun c => c.isAlphanum || c == '_' || c == '\\' || decide (0x80 ≤ c.toNat)

/-- Places up to and with the closing quote of a literal with backslash escapes. -/
def escapedLength (quote : Char) : Source → Nat
  | [] => 0
  | [_] => 1
  | c :: d :: rest =>
    if c = some quote then 1
    else if c = some '\\' then escapedLength quote rest + 2
    else escapedLength quote (d :: rest) + 1

/-- Places up to and with the closing quote of a literal in which a quote is doubled. -/
def doubledLength : Source → Nat
  | [] => 0
  | some '"' :: some '"' :: rest => doubledLength rest + 2
  | some '"' :: _ => 1
  | _ :: rest => doubledLength rest + 1

/-- Places up to and with the first run of at least `quotes` quotes. -/
def rawLength (quotes : Nat) : Source → Nat
  | [] => 0
  | c :: rest =>
    if quotes ≤ Source.runLength '"' (c :: rest) then quotes else rawLength quotes rest + 1

/-- Places up to and with the end of a comment that was opened by a slash and a star. -/
def starredLength : Source → Nat
  | [] => 0
  | some '*' :: some '/' :: _ => 2
  | _ :: rest => starredLength rest + 1

/-- Places on the current line. -/
def lineLength (s : Source) : Nat :=
  (s.takeWhile fun c => c != some '\n' && c != some '\r').length

/-- The length of the comment at the start of a source, if there is one. -/
def commentLength? (s : Source) : Option Nat :=
  if Source.hasStart "//" s then some (lineLength s)
  else if Source.hasStart "/*" s then some (starredLength (s.drop 2) + 2)
  else none

/-- The letters after a literal that make it a literal of bytes. -/
def suffixLength (s : Source) : Nat :=
  if Source.hasStart "u8" s || Source.hasStart "U8" s then 2 else 0

/-- The places of a string or character literal in which the reading may stand. -/
inductive Frame where
  /-- The text of an interpolated string. -/
  | text (isVerbatim : Bool)
  /-- The text of a raw interpolated string, with the braces of a hole and the quotes of its end. -/
  | rawText (braces quotes : Nat)
  /-- The code of a hole, with the braces that close it and the brackets open in it. -/
  | hole (braces depth : Nat)
  /-- The format of a hole, after the colon. -/
  | format (braces : Nat)
deriving Repr, DecidableEq

/-- The opening of a literal. -/
inductive Opening where
  /-- A literal without holes: its kind and the places after the opening that belong to it. -/
  | plain (kind : TokenKind) (body : Source → Nat)
  /-- A literal with holes. -/
  | interpolated (frame : Frame)

/-- The literal that starts a source, if one does, and the length of its opening. -/
def opening? (s : Source) : Option (Opening × Nat) :=
  let quotes := Source.runLength '"' s
  let dollars := Source.runLength '$' s
  let quotesAfter := Source.runLength '"' (s.drop dollars)
  let withSuffix := fun (body : Source → Nat) (s : Source) =>
    body s + suffixLength (s.drop (body s))
  if 3 ≤ quotes then some (.plain .otherLiteral (withSuffix (rawLength quotes)), quotes)
  else if 0 < quotes then some (.plain .regularString (withSuffix (escapedLength '"')), 1)
  else if Source.hasStart "'" s then some (.plain .otherLiteral (escapedLength '\''), 1)
  else if Source.hasStart "@\"" s then some (.plain .verbatimString (withSuffix doubledLength), 2)
  else if Source.hasStart "@$\"" s || Source.hasStart "$@\"" s then
    some (.interpolated (.text true), 3)
  else if dollars = 0 then none
  else if 3 ≤ quotesAfter then
    some (.interpolated (.rawText dollars quotesAfter), dollars + quotesAfter)
  else if 0 < quotesAfter then some (.interpolated (.text false), dollars + 1)
  else none

/-- One step through an interpolated string that stands in `frame`, within the frames `outer`:
the places passed after the first one, and the frames after the step. -/
def advance (frame : Frame) (outer : List Frame) (s : Source) : Nat × List Frame :=
  let stay := frame :: outer
  match frame, s with
  | _, [] => (0, outer)
  | .text isVerbatim, c :: rest =>
    if c = some '\\' ∧ !isVerbatim then (1, stay)
    else if c = some '"' then
      if isVerbatim && Source.hasStart "\"" rest then (1, stay) else (0, outer)
    else if c = some '\x7b' then
      if Source.hasStart "\x7b" rest then (1, stay) else (0, .hole 1 0 :: stay)
    else (0, stay)
  | .rawText braces quotes, c :: _ =>
    if c = some '\x7b' then
      let run := Source.runLength '\x7b' s
      (run - 1, if braces ≤ run then .hole braces 0 :: stay else stay)
    else if c = some '"' then
      let run := Source.runLength '"' s
      if quotes ≤ run then (quotes - 1, outer) else (run - 1, stay)
    else (0, stay)
  | .hole braces depth, c :: rest =>
    match commentLength? s, opening? s with
    | some length, _ => (length - 1, stay)
    | none, some (.plain _ body, length) => (length + body (s.drop length) - 1, stay)
    | none, some (.interpolated inner, length) => (length - 1, inner :: stay)
    | none, none =>
      if c = some '(' ∨ c = some '[' ∨ c = some '\x7b' then (0, .hole braces (depth + 1) :: outer)
      else if depth = 0 ∧ c = some '\x7d' then (braces - 1, outer)
      else if c = some ')' ∨ c = some ']' ∨ c = some '\x7d' then
        (0, .hole braces (depth - 1) :: outer)
      else if c = some ':' ∧ Source.hasStart ":" rest then (1, stay)
      else if depth = 0 ∧ c = some ':' then (0, .format braces :: outer)
      else (0, stay)
  | .format braces, c :: _ => if c = some '\x7d' then (braces - 1, outer) else (0, stay)

/-- Places up to and with the end of the outermost of the open frames. -/
def interpolatedLength : List Frame → Source → Nat
  | [], _ => 0
  | _, [] => 0
  | frame :: outer, c :: rest =>
    let (more, frames) := advance frame outer (c :: rest)
    1 + min more rest.length + interpolatedLength frames (rest.drop more)
termination_by _ s => s.length
decreasing_by simp only [List.length_cons, List.length_drop]; omega

/-- The kind of the lexeme that starts a source, and its length. -/
def atStart (s : Source) : LexemeKind × Nat :=
  match commentLength? s, opening? s with
  | some length, _ => (.comment, length)
  | none, some (.plain kind body, length) => (.token kind, length + body (s.drop length))
  | none, some (.interpolated frame, length) =>
    (.token .otherLiteral, length + interpolatedLength [frame] (s.drop length))
  | none, none =>
    let mark := if Source.hasStart "@" s then 1 else 0
    let word := ((s.drop mark).takeWhile isWord).length
    if s.head?.any isBlank then (.blank, (s.takeWhile isBlank).length)
    else if Source.hasStart "#" s then (.directive, (s.takeWhile (· != some '\n')).length)
    else if 0 < word then (.token .word, mark + word)
    else (.token .symbol, 1)

/-- The lexemes of a source. -/
def ofSource : Source → List Lexeme
  | [] => []
  | c :: rest =>
    let (kind, length) := atStart (c :: rest)
    ⟨kind, c :: rest.take (length - 1)⟩ :: ofSource (rest.drop (length - 1))
termination_by s => s.length
decreasing_by simp only [List.length_cons, List.length_drop]; omega

/-- Cutting loses nothing: the texts of the lexemes make up the source. -/
theorem flatMap_text_ofSource (s : Source) : (ofSource s).flatMap text = s := by
  fun_induction ofSource s with
  | case1 => rfl
  | case2 c rest kind length h ih => simp [ih]

end Lexeme

end ClientGen.CSharp
