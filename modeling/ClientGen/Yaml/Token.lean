import ClientGen.Yaml.Scalar

/-!
# Tokens of a document

The cutting of a document into tokens. Blocks are marked by their indentation: when a line starts
a deeper one, a token says that a block begins, and when a line is less deep, one for each block
that ends. A key need not be marked as one: a place where a key may start is kept in mind, and when
a colon follows on the same line, at most 1024 characters later, the tokens that say so are put in
there.
-/

namespace ClientGen.Yaml

/-- A token. -/
inductive Token where
  /-- A directive that names the version, by its first number. -/
  | version (major : Nat)
  /-- A directive that gives a handle for tags. -/
  | handle (name uri : String)
  /-- Any other directive. -/
  | directive
  /-- The mark before a document. -/
  | documentStart
  /-- The mark after a document. -/
  | documentEnd
  /-- The end of the text. -/
  | streamEnd
  /-- The beginning of a sequence in block style. -/
  | blockSequenceStart
  /-- The beginning of a mapping in block style. -/
  | blockMappingStart
  /-- The end of either. -/
  | blockEnd
  /-- `[`. -/
  | flowSequenceStart
  /-- `]`. -/
  | flowSequenceEnd
  /-- An opening brace. -/
  | flowMappingStart
  /-- A closing brace. -/
  | flowMappingEnd
  /-- `-` before an item. -/
  | blockEntry
  /-- `,`. -/
  | flowEntry
  /-- What comes next is a key. -/
  | key
  /-- What comes next is the value of a key. -/
  | value
  /-- A use of an anchor. -/
  | alias (name : String)
  /-- A name for what comes next. -/
  | anchor (name : String)
  /-- A tag for what comes next, with its handle. -/
  | tag (handle : Option String) (suffix : String)
  /-- A scalar. -/
  | scalar (text : ScalarText) (isPlain : Bool)
deriving Repr, Inhabited

/-- A place where a key may have started. -/
structure PossibleKey where
  /-- The number of tokens before it. -/
  tokenNumber : Nat
  /-- Must it turn out to be one? -/
  isRequired : Bool
  /-- The place. -/
  cursor : Cursor
deriving Repr, Inhabited

/-- The state of the cutting. -/
structure Scanner where
  /-- The place in the text. -/
  cursor : Cursor
  /-- The tokens so far, the last first. -/
  tokens : List Token := []
  /-- How many flow collections are open. -/
  flowLevel : Nat := 0
  /-- The column of the innermost open block, or -1. -/
  indent : Int := -1
  /-- The columns of the blocks around it. -/
  outerIndents : List Int := []
  /-- May a key start here? -/
  allowsKey : Bool := true
  /-- Where a key may have started, at most one place for each level of flow collections. -/
  possibleKeys : List (Nat × PossibleKey) := []
deriving Inhabited

namespace Scanner

/-- Is the place within a flow collection? -/
def inFlow (s : Scanner) : Bool :=
  0 < s.flowLevel

/-- One more token. -/
def push (token : Token) (s : Scanner) : Scanner :=
  { s with tokens := token :: s.tokens }

/-- One more token after the given number of tokens. -/
def insertAt (number : Nat) (token : Token) (s : Scanner) : Scanner :=
  let after := s.tokens.length - number
  { s with tokens := s.tokens.take after ++ token :: s.tokens.drop after }

/-- The state at another place. -/
def moveTo (c : Cursor) (s : Scanner) : Scanner :=
  { s with cursor := c }

/-- A token for the next characters. -/
def pushSigns (count : Nat) (token : Token) (s : Scanner) : Scanner :=
  (s.push token).moveTo (s.cursor.skip count)

/-- Forget the possible keys that are too far back; one that was required is a fault. -/
def dropStaleKeys (s : Scanner) : Except Fault Scanner :=
  let isStale := fun (key : PossibleKey) =>
    key.cursor.line != s.cursor.line || decide (1024 < s.cursor.index - key.cursor.index)
  if s.possibleKeys.any fun (_, key) => isStale key && key.isRequired then .error .malformed
  else .ok { s with possibleKeys := s.possibleKeys.filter fun (_, key) => !isStale key }

/-- Forget the possible key of this level; one that was required is a fault. -/
def dropKey (s : Scanner) : Except Fault Scanner :=
  if (s.possibleKeys.lookup s.flowLevel).any (·.isRequired) then .error .malformed
  else .ok { s with possibleKeys := s.possibleKeys.filter (·.1 != s.flowLevel) }

/-- Keep in mind that a key may start here. -/
def saveKey (s : Scanner) : Except Fault Scanner := do
  if s.allowsKey then
    let isRequired := !s.inFlow && s.indent == Int.ofNat s.cursor.column
    let key : PossibleKey := ⟨s.tokens.length, isRequired, s.cursor⟩
    let s ← s.dropKey
    return { s with possibleKeys := (s.flowLevel, key) :: s.possibleKeys }
  else return s

/-- End the blocks that are deeper than a column; `fuel` bounds their number. -/
def unwindAfter (column : Int) : (fuel : Nat) → Scanner → Scanner
  | 0, s => s
  | fuel + 1, s =>
    if column < s.indent then
      unwindAfter column fuel
        { s.push .blockEnd with
          indent := s.outerIndents.headD (-1), outerIndents := s.outerIndents.drop 1 }
    else s

/-- End the blocks that are deeper than a column; flow collections have no indentation. -/
def unwind (column : Int) (s : Scanner) : Scanner :=
  if s.inFlow then s else unwindAfter column (s.outerIndents.length + 1) s

/-- Begin a block at a column, if it is deeper than the innermost one: its token is put after the
given number of tokens. -/
def beginBlock (column : Nat) (token : Token) (number : Nat) (s : Scanner) : Scanner :=
  if s.indent < column then
    { s.insertAt number token with indent := column, outerIndents := s.indent :: s.outerIndents }
  else s

/-- Go over spaces, comments and line breaks; a key may start on a new line of a block. -/
def passGaps : (fuel : Nat) → Scanner → Scanner
  | 0, s => s
  | fuel + 1, s =>
    let c := (s.cursor.pass (· == ' ')).passComment
    match c.lineBreak? with
    | some (_, c) => passGaps fuel { s with cursor := c, allowsKey := s.allowsKey || !s.inFlow }
    | none => s.moveTo c

/-! ## Directives -/

/-- The number that comes next. -/
def number (c : Cursor) : Except Fault (Nat × Cursor) :=
  let (digits, after) := c.span Char.isDigit
  match Text.number? 10 digits with
  | some n => .ok (n, after)
  | none => .error .malformed

/-- The handle of a tag that comes next: letters between exclamation marks, or one mark. -/
def tagHandle (c : Cursor) : Except Fault (String × Cursor) :=
  if c.peek ≠ some '!' then .error .malformed
  else
    let (name, after) := c.next.span isHandleChar
    if after.peek = some '!' then .ok ("!" ++ String.ofList name ++ "!", after.next)
    else if name.isEmpty ∧ after.peek = some ' ' then .ok ("!", after)
    else .error .malformed

/-- May a character stand in the URI of a tag? -/
def isUriChar (c : Char) : Bool :=
  c.isAlphanum || "-;/?:@&=+$,_.!~*'()[]".toList.contains c

/-- The bytes written as percent signs and digits that come next, and the place after them. -/
def escapedBytes : (fuel : Nat) → Cursor → Except Fault (List UInt8 × Cursor)
  | 0, c => .ok ([], c)
  | fuel + 1, c =>
    if c.peek = some '%' then
      match Scalar.hexNumber? 2 (c.rest.drop 1) with
      | some n => do
        let (more, c) ← escapedBytes fuel (c.skip 3)
        return (UInt8.ofNat n :: more, c)
      | none => .error .malformed
    else .ok ([], c)

/-- The URI of a tag that comes next, and the place after it. -/
def tagUriAfter : (fuel : Nat) → Cursor → Except Fault (String × Cursor)
  | 0, c => .ok ("", c)
  | fuel + 1, c =>
    let (run, c) := c.span isUriChar
    if c.peek = some '%' then do
      let (bytes, c) ← escapedBytes c.rest.length c
      match String.fromUTF8? ⟨bytes.toArray⟩ with
      | some s =>
        let (more, c) ← tagUriAfter fuel c
        return (String.ofList run ++ s ++ more, c)
      | none => throw .malformed
    else .ok (String.ofList run, c)

/-- The URI of a tag that comes next, which must not be empty. -/
def tagUri (c : Cursor) : Except Fault (String × Cursor) := do
  let (uri, after) ← tagUriAfter (c.rest.length + 1) c
  if after.index = c.index then throw .malformed
  return (uri, after)

/-- The directive that comes next, and the place after it. -/
def directive (c : Cursor) : Except Fault (Token × Cursor) := do
  let (name, c) := c.next.span isHandleChar
  if name.isEmpty ∨ !isSpaceOrLineEnd c.peek then throw .malformed
  if String.ofList name = "YAML" then
    let (major, c) ← number (c.pass (· == ' '))
    if c.peek ≠ some '.' then throw .malformed
    let (_, c) ← number c.next
    if !isSpaceOrLineEnd c.peek then throw .malformed
    return (.version major, ← c.passLineEnd)
  else if String.ofList name = "TAG" then
    let (handle, c) ← tagHandle (c.pass (· == ' '))
    if c.peek ≠ some ' ' then throw .malformed
    let (uri, c) ← tagUri (c.pass (· == ' '))
    if !isSpaceOrLineEnd c.peek then throw .malformed
    return (.handle handle uri, ← c.passLineEnd)
  else return (.directive, ← (c.pass (!isBreak ·)).passLineEnd)

/-! ## Tags and anchors -/

/-- The name of an anchor or of a use of one, after its sign. -/
def anchorName (c : Cursor) : Except Fault (String × Cursor) :=
  let (name, c) := c.span isHandleChar
  let ends := isGap c.peek || c.peek.any fun d => "?:,]\x7d%@\x60".toList.contains d
  if name.isEmpty || !ends then .error .malformed else .ok (String.ofList name, c)

/-- Does an exclamation mark come before the next space or line end, other than at the start? -/
def hasHandle (c : Cursor) : Bool :=
  ((c.rest.drop 1).takeWhile fun d => !isSpaceOrLineEnd (some d)).contains '!'

/-- The tag that comes next, and the place after it. -/
def tag (c : Cursor) : Except Fault (Token × Cursor) := do
  let (token, c) ←
    if c.peek 1 = some '<' then do
      let (uri, c) ← tagUri (c.skip 2)
      if c.peek ≠ some '>' then throw .malformed
      pure (Token.tag none uri, c.next)
    else if isGap (c.peek 1) then pure (Token.tag none "!", c.next)
    else do
      let (handle, c) ← if hasHandle c then tagHandle c else pure ("!", c.next)
      let (uri, c) ← tagUri c
      pure (Token.tag (some handle) uri, c)
  if isSpaceOrLineEnd c.peek then return (token, c) else throw .malformed

/-! ## The next token -/

/-- The tokens of a sign between documents, or of the end. -/
def boundary (s : Scanner) : Except Fault Scanner := do
  let s ← (s.unwind (-1)).dropKey
  return { s with allowsKey := false }

/-- A flow collection begins. -/
def beginFlow (token : Token) (s : Scanner) : Except Fault Scanner := do
  let s ← s.saveKey
  return { s.pushSigns 1 token with flowLevel := s.flowLevel + 1, allowsKey := true }

/-- A flow collection ends. -/
def endFlow (token : Token) (s : Scanner) : Except Fault Scanner := do
  let s ← s.dropKey
  if s.flowLevel = 0 then throw .malformed
  return { s.pushSigns 1 token with flowLevel := s.flowLevel - 1, allowsKey := false }

/-- A comma in a flow collection. -/
def flowEntry (s : Scanner) : Except Fault Scanner := do
  let s ← s.dropKey
  return { s.pushSigns 1 .flowEntry with allowsKey := true }

/-- A sign at which a block may begin: an item, a key or a value. -/
def blockSign (sign opening : Token) (allowsKey : Bool) (s : Scanner) : Except Fault Scanner := do
  if !s.inFlow && !s.allowsKey then throw .malformed
  let s := if s.inFlow then s else s.beginBlock s.cursor.column opening s.tokens.length
  let s ← s.dropKey
  return { s.pushSigns 1 sign with allowsKey := allowsKey }

/-- A colon: what stood at the possible key of this level is a key. -/
def valueSign (s : Scanner) : Except Fault Scanner :=
  match s.possibleKeys.lookup s.flowLevel with
  | some key =>
    let s := { s with possibleKeys := s.possibleKeys.filter (·.1 != s.flowLevel) }
    let s := s.insertAt key.tokenNumber .key
    let s :=
      if s.inFlow then s
      else s.beginBlock key.cursor.column .blockMappingStart key.tokenNumber
    .ok { s.pushSigns 1 .value with allowsKey := false }
  | none => s.blockSign .value .blockMappingStart (!s.inFlow)

/-- A token that may be a key, read by `read`. -/
def keyable (read : Cursor → Except Fault (Token × Cursor)) (s : Scanner) :
    Except Fault Scanner := do
  let s ← s.saveKey
  let (token, c) ← read s.cursor
  return { (s.push token).moveTo c with allowsKey := false }

/-- A block scalar. -/
def blockScalar (isFolded : Bool) (s : Scanner) : Except Fault Scanner := do
  let s ← s.dropKey
  let (cs, c) ← Scalar.block isFolded s.indent s.cursor
  return { (s.push (.scalar (.chars cs) false)).moveTo c with allowsKey := true }

/-- A plain scalar. -/
def plainScalar (s : Scanner) : Except Fault Scanner := do
  let s ← s.saveKey
  let (cs, endedLine, c) := Scalar.plain s.inFlow (s.indent + 1) s.cursor
  return { (s.push (.scalar (.chars cs) true)).moveTo c with allowsKey := endedLine }

/-- A quoted scalar, as a token. -/
def quotedScalar (quote : Char) (c : Cursor) : Except Fault (Token × Cursor) := do
  let (text, c) ← Scalar.quoted quote c
  return (.scalar text false, c)

/-- The name of an anchor after its sign, as a token. -/
def anchorToken (token : String → Token) (c : Cursor) : Except Fault (Token × Cursor) := do
  let (name, c) ← anchorName c.next
  return (token name, c)

/-- May a plain scalar start here? -/
def startsPlain (s : Scanner) (ch : Char) : Bool :=
  !(isGap (some ch) || "-?:,[]\x7b\x7d#&*!|>'\"%@\x60".toList.contains ch) ||
    (!isGap (s.cursor.peek 1) && (ch == '-' || (!s.inFlow && (ch == '?' || ch == ':'))))

/-- The state after the token that starts with a character. -/
def readToken (ch : Char) (s : Scanner) : Except Fault Scanner := do
  let c := s.cursor
  let gapFollows := isGap (c.peek 1)
  if ch = '%' ∧ c.column = 0 then
    let s ← s.boundary
    let (token, c) ← directive c
    return (s.push token).moveTo c
  else if c.column = 0 ∧ c.atDocumentMark then
    let s ← s.boundary
    return s.pushSigns 3 (if ch = '-' then .documentStart else .documentEnd)
  else if ch = '[' then s.beginFlow .flowSequenceStart
  else if ch = '\x7b' then s.beginFlow .flowMappingStart
  else if ch = ']' then s.endFlow .flowSequenceEnd
  else if ch = '\x7d' then s.endFlow .flowMappingEnd
  else if ch = ',' then s.flowEntry
  else if ch = '-' ∧ gapFollows then s.blockSign .blockEntry .blockSequenceStart true
  else if ch = '?' ∧ (s.inFlow ∨ gapFollows) then
    s.blockSign .key .blockMappingStart (!s.inFlow)
  else if ch = ':' ∧ (s.inFlow ∨ gapFollows) then s.valueSign
  else if ch = '*' then s.keyable (anchorToken .alias)
  else if ch = '&' then s.keyable (anchorToken .anchor)
  else if ch = '!' then s.keyable tag
  else if ch = '|' ∧ !s.inFlow then s.blockScalar false
  else if ch = '>' ∧ !s.inFlow then s.blockScalar true
  else if ch = '\'' ∨ ch = '"' then s.keyable (quotedScalar ch)
  else if s.startsPlain ch then s.plainScalar
  else throw .malformed

/-- The tokens from here on, and the fault at which the cutting stops, if it does. -/
def run : (fuel : Nat) → Scanner → List Token × Option Fault
  | 0, s => (s.tokens.reverse, some .malformed)
  | fuel + 1, s =>
    let start := passGaps (s.cursor.rest.length + 1) s
    match start.dropStaleKeys with
    | .error fault => (s.tokens.reverse, some fault)
    | .ok ready =>
      let ready := ready.unwind ready.cursor.column
      match ready.cursor.peek with
      | none =>
        match ready.boundary with
        | .ok done => ((done.push .streamEnd).tokens.reverse, none)
        | .error fault => (ready.tokens.reverse, some fault)
      | some ch =>
        match ready.readToken ch with
        | .ok after => run fuel after
        | .error fault => (ready.tokens.reverse, some fault)

end Scanner

/-- The tokens of a text, and the fault at which the cutting stops, if it does. -/
def Token.ofChars (cs : List Char) : List Token × Option Fault :=
  if cs.all isPrintable then
    let cs := if cs.head? = some '\uFEFF' then cs.drop 1 else cs
    Scanner.run (cs.length + 2) { cursor := Cursor.start cs }
  else ([], some .malformed)

end ClientGen.Yaml
