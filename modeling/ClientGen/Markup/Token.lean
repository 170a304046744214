import ClientGen.Markup.Name
import ClientGen.Text.Basic
import ClientGen.Text.Digits

/-!
# Tokens of markup

The cutting of an XML document into opening tags, closing tags and text. References are replaced by
the characters they stand for, line ends become line feeds, and comments and processing
instructions leave nothing behind. What is not well-formed within one token is refused here: a
character that may not occur, a stray `&` or `<`, an attribute without quotes, `]]>` in text.
-/

namespace ClientGen.Markup

/-- Entities that a document declares for itself, with the text they stand for. The text may hold
markup and further references; references to characters are resolved in it. -/
abbrev Entities := List (String × List Char)

/-- The entities without the one of a name. -/
def Entities.without (name : String) (entities : Entities) : Entities :=
  entities.filter (·.1 != name)

/-- What a reference stands for. -/
inductive Referent where
  /-- Characters that are not looked into for markup. -/
  | data (value : List Char)
  /-- The text of an entity that the document declares. -/
  | entity (name : String) (text : List Char)
deriving Repr, DecidableEq

/-- A piece of a document. -/
inductive Token where
  /-- Text as it stands in the document. -/
  | text (value : List Char)
  /-- Text from a reference or a section of character data. -/
  | data (value : List Char)
  /-- An opening tag with its attributes; `isEmpty` when it closes itself. -/
  | opening (name : QName) (attributes : List (QName × String)) (isEmpty : Bool)
  /-- A closing tag. -/
  | closing (name : QName)
deriving Repr, DecidableEq

namespace Token

/-- The entities that every document has. -/
def predefined : Entities :=
  [("lt", ['<']), ("gt", ['>']), ("amp", ['&']), ("quot", ['"']), ("apos", ['\''])]

/-- The character with a number, if it may stand in a document. -/
def allowed? (code : Nat) : Option Char :=
  if code.isValidChar ∧ isAllowed (Char.ofNat code) then some (Char.ofNat code) else none

/-- The character that a reference by number stands for, by what is between `&` and `;`. -/
def numbered? : List Char → Option Char
  | '#' :: 'x' :: digits => (Text.number? 16 digits).bind allowed?
  | '#' :: digits => (Text.number? 10 digits).bind allowed?
  | _ => none

/-- What a reference stands for, by what is between `&` and `;`. -/
def referent? (entities : Entities) (reference : List Char) : Option Referent :=
  let name := String.ofList reference
  match reference.head?, predefined.lookup name with
  | some '#', _ => (numbered? reference).map fun c => .data [c]
  | _, some value => some (.data value)
  | _, none => (entities.lookup name).map (.entity name)

/-- What the reference whose `&` was passed stands for, and how many places it takes. -/
def reference? (entities : Entities) (cs : List Char) : Option (Referent × Nat) := do
  let name := cs.takeWhile (· != ';')
  if name.length < cs.length then return (← referent? entities name, name.length + 1) else none

/-- Text with every line end turned into a line feed; it is refused when a character may not
occur in a document. -/
def normalised? : List Char → Option (List Char)
  | [] => some []
  | '\r' :: '\n' :: rest => (normalised? rest).map ('\n' :: ·)
  | '\r' :: rest => (normalised? rest).map ('\n' :: ·)
  | c :: rest => if isAllowed c then (normalised? rest).map (c :: ·) else none

/-- The value of an attribute up to its closing quote, and what is left; the text of an entity has
no closing quote and ends by itself. White space becomes spaces, a line end one space, except where
a reference by number stands for it. An entity is not known within its own text. -/
def attributeValue? (entities : Entities) (quote : Option Char) (cs : List Char) :
    Option (List Char × List Char) :=
  match cs with
  | [] => if quote.isNone then some ([], []) else none
  | c :: rest => do
    if quote = some c then some ([], rest)
    else if c = '<' then none
    else if c = '&' then
      let (referent, places) ← reference? entities rest
      let value ← match referent with
        | .data value => some value
        | .entity name content =>
          if (entities.without name).length < entities.length then
            (attributeValue? (entities.without name) none content).map (·.1)
          else none
      let (more, left) ← attributeValue? entities quote (rest.drop places)
      some (value ++ more, left)
    else if isAllowed c then
      let rest := if c = '\r' ∧ rest.head? = some '\n' then rest.drop 1 else rest
      let (more, left) ← attributeValue? entities quote rest
      some ((if isSpace c then ' ' else c) :: more, left)
    else none
termination_by (entities.length, cs.length)
decreasing_by
  · exact Prod.Lex.right _ (by simp only [List.length_cons, List.length_drop]; omega)
  · exact Prod.Lex.left _ _ (by assumption)
  · refine Prod.Lex.right _ ?_
    split <;> simp only [List.length_cons, List.length_drop] <;> omega

/-- The value after the name of an attribute, and what is left. -/
def assigned? (entities : Entities) (cs : List Char) : Option (String × List Char) := do
  match cs.dropWhile isSpace with
  | '=' :: rest =>
    match rest.dropWhile isSpace with
    | quote :: rest =>
      if quote = '"' ∨ quote = '\'' then
        let (value, left) ← attributeValue? entities (some quote) rest
        return (String.ofList value, left)
      else none
    | [] => none
  | _ => none

/-- The attributes of an opening tag after its name, whether it closes itself, and what is left.
White space must stand before each attribute. -/
def attributes? (entities : Entities) (cs : List Char) :
    Option (List (QName × String) × Bool × List Char) := do
  match cs.dropWhile isSpace with
  | '>' :: rest => return ([], false, rest)
  | '/' :: '>' :: rest => return ([], true, rest)
  | start =>
    if start.length < cs.length then
      let (name, rest) ← QName.read? start
      let (value, left) ← assigned? entities rest
      if left.length < cs.length then
        let (more, isEmpty, left) ← attributes? entities left
        return ((name, value) :: more, isEmpty, left)
      else none
    else none
termination_by cs.length

/-- What is before and after the first occurrence of a text. -/
def cutAt? (mark : List Char) : List Char → Option (List Char × List Char)
  | [] => if mark.isEmpty then some ([], []) else none
  | c :: rest =>
    match Text.dropStart? mark (c :: rest) with
    | some left => some ([], left)
    | none => (cutAt? mark rest).map fun (before, left) => (c :: before, left)

/-- What is left of a comment after its opening: two hyphens may stand only at its end. -/
def afterComment? (cs : List Char) : Option (List Char) := do
  let (inside, left) ← cutAt? ['-', '-'] cs
  let _ ← normalised? inside
  match left with
  | '>' :: left => return left
  | _ => none

/-- What is left of a processing instruction after its opening. The name `xml` is reserved. -/
def afterInstruction? (cs : List Char) : Option (List Char) := do
  let (target, _) ← QName.part? cs
  let (inside, left) ← cutAt? ['?', '>'] cs
  let _ ← normalised? inside
  let after := inside.drop target.length
  let reserved := [['x', 'm', 'l']].contains (target.toList.map Char.toLower)
  if reserved || !(after.isEmpty || after.head?.any isSpace) then none else return left

/-- The token that starts with the `<` just passed, if it leaves one, and what is left. -/
def markup? (entities : Entities) (cs : List Char) : Option (Option Token × List Char) :=
  match cs with
  | '/' :: rest => do
    let (name, rest) ← QName.read? rest
    match rest.dropWhile isSpace with
    | '>' :: left => return (some (.closing name), left)
    | _ => none
  | '?' :: rest => do return (none, ← afterInstruction? rest)
  | '!' :: '-' :: '-' :: rest => do return (none, ← afterComment? rest)
  | '!' :: '[' :: 'C' :: 'D' :: 'A' :: 'T' :: 'A' :: '[' :: rest => do
    let (inside, left) ← cutAt? [']', ']', '>'] rest
    return (some (.data (← normalised? inside)), left)
  | _ => do
    let (name, rest) ← QName.read? cs
    let (attributes, isEmpty, left) ← attributes? entities rest
    return (some (.opening name attributes isEmpty), left)

/-- The text that stands at the start of a document, up to the next tag or reference. -/
def plainText? (cs : List Char) : Option (List Char) :=
  if Text.occursIn [']', ']', '>'] cs then none else normalised? cs

/-- Does a character end a run of text? -/
def endsText (c : Char) : Bool :=
  c == '<' || c == '&'

/-- Are the tags of some tokens closed again in them, each after it was opened? `depth` tags are
open already. -/
def isClosed (depth : Nat) : List Token → Bool
  | [] => depth == 0
  | .opening _ _ false :: rest => isClosed (depth + 1) rest
  | .closing _ :: rest => decide (0 < depth) && isClosed (depth - 1) rest
  | _ :: rest => isClosed depth rest

/-- The tokens of a document. The text of an entity has to close every tag that it opens, and the
entity is not known within it. -/
def ofChars? (entities : Entities) (cs : List Char) : Option (List Token) :=
  match cs with
  | [] => some []
  | c :: rest => do
    if c = '<' then
      let (token, left) ← markup? entities rest
      if left.length ≤ rest.length then
        return token.toList ++ (← ofChars? entities left)
      else none
    else if c = '&' then
      let (referent, places) ← reference? entities rest
      let tokens ← match referent with
        | .data value => some [.data value]
        | .entity name content =>
          if (entities.without name).length < entities.length then do
            let tokens ← ofChars? (entities.without name) content
            if isClosed 0 tokens then some (.data [] :: tokens) else none
          else none
      return tokens ++ (← ofChars? entities (rest.drop places))
    else
      let value ← plainText? (c :: rest.takeWhile (!endsText ·))
      return .text value :: (← ofChars? entities (rest.dropWhile (!endsText ·)))
termination_by (entities.length, cs.length)
decreasing_by
  · exact Prod.Lex.right _ (by simp only [List.length_cons]; omega)
  · exact Prod.Lex.right _ (by simp only [List.length_cons, List.length_drop]; omega)
  · exact Prod.Lex.left _ _ (by assumption)
  · have := (List.dropWhile_sublist (!endsText ·) (l := rest)).length_le
    exact Prod.Lex.right _ (by simp only [List.length_cons]; omega)

end Token

end ClientGen.Markup
