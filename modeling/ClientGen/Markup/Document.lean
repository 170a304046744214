import ClientGen.Markup.Encoding
import ClientGen.Markup.Node

/-!
# Documents

Whole XML documents from their bytes: an optional declaration, an optional document type, and one
element. A document type may declare entities with a text of their own; what it says of elements
and attributes does not matter here.
-/

namespace ClientGen.Markup.Document

/-- The value in quotes that starts a text, and what is left. -/
def literal? : List Char → Option (List Char × List Char)
  | [] => none
  | quote :: rest =>
    if quote = '"' ∨ quote = '\'' then Token.cutAt? [quote] rest else none

/-- Is a text a value that may stand in a declaration? -/
def isPlainValue (value : String) : Bool :=
  value.toList.all fun c => c.isAlphanum || c == '.' || c == '-' || c == '_'

/-- The named values of a declaration, and what is left after its end. -/
def pseudoAttributes? (cs : List Char) : Option (List (String × String) × List Char) := do
  match cs.dropWhile isSpace with
  | '?' :: '>' :: rest => return ([], rest)
  | start =>
    if start.length < cs.length then
      let (name, rest) ← QName.part? start
      let (value, left) ← Token.assigned? [] rest
      if left.length < cs.length ∧ isPlainValue value then
        let (more, left) ← pseudoAttributes? left
        return ((name, value) :: more, left)
      else none
    else none
termination_by cs.length

/-- The encoding that the values of a declaration name, if they do. The version comes first, then
the encoding, whose name begins with a letter, then whether the document stands alone. -/
def namedEncoding? (values : List (String × String)) : Option (Option String) :=
  let standsAlone := fun (value : String) => value == "yes" || value == "no"
  let isName := fun (name : String) => name.toList.head?.any Char.isAlpha
  match values with
  | [("version", _)] => some none
  | [("version", _), ("encoding", name)] => if isName name then some (some name) else none
  | [("version", _), ("standalone", value)] => if standsAlone value then some none else none
  | [("version", _), ("encoding", name), ("standalone", value)] =>
    if isName name && standsAlone value then some (some name) else none
  | _ => none

/-- The encoding that a document declares for itself, if it does, and what is left after the
declaration. -/
def declaration? (cs : List Char) : Option (Option String × List Char) :=
  match Text.dropStart? ['<', '?', 'x', 'm', 'l'] cs with
  | none => some (none, cs)
  | some rest =>
    if !rest.head?.any isSpace then some (none, cs)
    else do
      let (values, left) ← pseudoAttributes? rest
      return (← namedEncoding? values, left)

/-- What is left after the end of a markup declaration; quotes are passed over. -/
def afterDeclaration? : (fuel : Nat) → List Char → Option (List Char)
  | 0, _ => none
  | _, [] => none
  | fuel + 1, c :: rest =>
    if c = '>' then some rest
    else if c = '"' ∨ c = '\'' then do
      let (_, left) ← Token.cutAt? [c] rest
      afterDeclaration? fuel left
    else if c = '<' then none
    else afterDeclaration? fuel rest

/-- The text of an entity by the value it is declared with: references by number are resolved, and
others left as they are. -/
def entityText? : List Char → Option (List Char)
  | [] => some []
  | '\r' :: '\n' :: rest => (entityText? rest).map ('\n' :: ·)
  | '\r' :: rest => (entityText? rest).map ('\n' :: ·)
  | '&' :: '#' :: rest => do
    let digits := rest.takeWhile (· != ';')
    let c ← Token.numbered? ('#' :: digits)
    if digits.length < rest.length then return c :: (← entityText? (rest.drop (digits.length + 1)))
    else none
  | '&' :: rest => do
    let (name, left) ← QName.part? rest
    if left.head? = some ';' ∧ left.length ≤ rest.length then
      return '&' :: name.toList ++ (← entityText? left)
    else none
  | c :: rest => if isAllowed c && c != '%' then (entityText? rest).map (c :: ·) else none
termination_by cs => cs.length
decreasing_by
  all_goals simp only [List.length_cons, List.length_drop]; omega

/-- The entity declared by what follows `<!ENTITY`, if it has a text of its own: one that stands
elsewhere has none, and one for declarations is not looked at. -/
def entity? (cs : List Char) : Option (Option (String × List Char)) := do
  match cs.dropWhile isSpace with
  | '%' :: _ => return none
  | start =>
    let (name, rest) ← QName.part? start
    let rest := rest.dropWhile isSpace
    if (Text.dropStart? "SYSTEM".toList rest <|> Text.dropStart? "PUBLIC".toList rest).isSome then
      return none
    else
      let (value, left) ← literal? rest
      if (left.dropWhile isSpace).head? = some '>' then return some (name, ← entityText? value)
      else none

/-- The words that declarations begin with. -/
def declarationWords : List String := ["ELEMENT", "ATTLIST", "ENTITY", "NOTATION"]

/-- The entities of the declarations up to the closing bracket, and what is left after it. -/
def subset? : (fuel : Nat) → List Char → Option (Entities × List Char)
  | 0, _ => none
  | fuel + 1, cs =>
    match cs with
    | [] => none
    | ']' :: rest => some ([], rest)
    | '<' :: '!' :: '-' :: '-' :: rest => do subset? fuel (← Token.afterComment? rest)
    | '<' :: '?' :: rest => do subset? fuel (← Token.afterInstruction? rest)
    | '<' :: '!' :: rest => do
      let word := String.ofList (rest.takeWhile (!isSpace ·))
      if !declarationWords.contains word then none
      else
        let entity ← if word = "ENTITY" then entity? (rest.drop word.length) else some none
        let (more, left) ← subset? fuel (← afterDeclaration? (rest.length + 1) rest)
        return (entity.toList ++ more, left)
    | '%' :: rest => do
      let (_, left) ← Token.cutAt? [';'] rest
      subset? fuel left
    | c :: rest => if isSpace c then subset? fuel rest else none

/-- The entities of a document type after its keyword, and what is left after it. -/
def doctype? : (fuel : Nat) → List Char → Option (Entities × List Char)
  | 0, _ => none
  | fuel + 1, cs =>
    match cs with
    | [] => none
    | '>' :: rest => some ([], rest)
    | '[' :: rest => do
      let (entities, left) ← subset? (rest.length + 1) rest
      match left.dropWhile isSpace with
      | '>' :: left => return (entities, left)
      | _ => none
    | c :: rest =>
      if c = '"' ∨ c = '\'' then do
        let (_, left) ← Token.cutAt? [c] rest
        doctype? fuel left
      else if c = '<' then none
      else doctype? fuel rest

/-- The entities a document declares, and its text without the document type. -/
def prolog? : (fuel : Nat) → List Char → Option (Entities × List Char)
  | 0, _ => none
  | fuel + 1, cs =>
    match cs with
    | '<' :: '!' :: '-' :: '-' :: rest => do prolog? fuel (← Token.afterComment? rest)
    | '<' :: '?' :: rest => do prolog? fuel (← Token.afterInstruction? rest)
    | '<' :: '!' :: rest => do
      let start ← Text.dropStart? "DOCTYPE".toList rest
      let (_, left) ← QName.part? (start.dropWhile isSpace)
      if start.head?.any isSpace then doctype? (left.length + 1) left else none
    | c :: rest => if isSpace c then prolog? fuel rest else some ([], c :: rest)
    | [] => none

/-- The outermost element of a document with the given characters. -/
def ofChars? (cs : List Char) : Option Node := do
  let (entities, rest) ← prolog? (cs.length + 1) cs
  Node.ofTokensAfter? [] none (← Token.ofChars? entities rest)

/-- The outermost element of a document in a known encoding. -/
def decoded? (encoding : Encoding) (bytes : List UInt8) : Option Node := do
  let (_, rest) ← declaration? (← encoding.decode? bytes)
  ofChars? rest

/-- The encoding that some bytes name for themselves, if they do; `assumed` tells how the name is
to be read. -/
def encodingName? (assumed : Encoding) (bytes : List UInt8) : Option (Option String) := do
  let readable := (match assumed with
    | .utf16 _ => assumed
    | _ => .bytewise 0xff [])
  let (name, _) ← declaration? (← readable.decode? bytes)
  return name

/-- The outermost element of a document with the given bytes. -/
def ofBytes (bytes : List UInt8) : Except DocumentFault Node := do
  let (assumed, bytes) := Encoding.detect bytes
  match encodingName? assumed bytes with
  | none => throw .malformed
  | some name =>
    let encoding ← match name with
      | some name => assumed.named name
      | none => pure assumed
    match decoded? encoding bytes with
    | some root => return root
    | none => throw .malformed

end ClientGen.Markup.Document
