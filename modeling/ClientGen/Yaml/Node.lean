import ClientGen.Yaml.Tag
import ClientGen.Yaml.Token

/-!
# Nodes of a document

The tree of a document: scalars, sequences and mappings, each with its tag, read from the tokens.
A use of an anchor stays a node of its own; the nodes it stands for are listed with the document.
An anchor is named once, and used only after it was named.
-/

namespace ClientGen.Yaml

/-- A node. -/
inductive Node where
  /-- A scalar. -/
  | scalar (tag : Tag) (text : ScalarText)
  /-- A sequence. -/
  | sequence (tag : Tag) (items : List Node)
  /-- A mapping, in the order of the document. -/
  | mapping (tag : Tag) (entries : List (Node × Node))
  /-- A use of an anchor. -/
  | alias (name : String)
deriving Inhabited

namespace Node

/-- The node for something that is not there. -/
def absent : Node :=
  .scalar .null (.chars [])

end Node

/-- The state of the reading. -/
structure Reader where
  /-- The tokens that follow. -/
  tokens : List Token
  /-- The fault at which the tokens stop. -/
  fault : Fault
  /-- The handles of tags with what they stand for. -/
  handles : List (String × String) := []
  /-- The anchors that were named. -/
  names : List String := []
  /-- The anchored nodes that are complete. -/
  anchors : List (String × Node) := []

/-- A part of the reading. -/
abbrev ReadM := StateT Reader (Except Fault)

namespace Reader

/-- The next token. -/
def peek : ReadM Token := do
  let reader ← get
  match reader.tokens with
  | token :: _ => return token
  | [] => throw reader.fault

/-- Go over the next token. -/
def advance : ReadM Unit :=
  modify fun reader => { reader with tokens := reader.tokens.drop 1 }

/-- Go over a token that has to come next. -/
def expect (isExpected : Token → Bool) : ReadM Unit := do
  if isExpected (← peek) then advance else throw .malformed

/-- The anchor and the tag of a node, in either order. -/
def properties : ReadM (Option String × Option (Option String × String)) := do
  match ← peek with
  | .anchor name =>
    advance
    match ← peek with
    | .tag handle suffix => advance; return (some name, some (handle, suffix))
    | _ => return (some name, none)
  | .tag handle suffix =>
    advance
    match ← peek with
    | .anchor name => advance; return (some name, some (handle, suffix))
    | _ => return (none, some (handle, suffix))
  | _ => return (none, none)

/-- The URI of a tag; a lone exclamation mark is none. -/
def uri? (tag : Option (Option String × String)) : ReadM (Option String) := do
  match tag with
  | none => return none
  | some (none, uri) => return some uri
  | some (some handle, suffix) =>
    match (← get).handles.lookup handle with
    | some start => return some (start ++ suffix)
    | none => throw .malformed

/-- The tag of a collection. -/
def collectionTag (uri : Option String) (default : Tag) : Tag :=
  match uri with
  | none => default
  | some uri => if uri = "!" then default else .ofUri uri

/-- The tag of a scalar. -/
def scalarTag (uri : Option String) (isPlain : Bool) (text : ScalarText) : Tag :=
  let byForm := match text with
    | .chars cs => Tag.ofPlain cs
    | .damaged _ => .str
  match uri with
  | none => if isPlain then byForm else .str
  | some uri => if uri = "!" then byForm else .ofUri uri

/-- The empty scalar that an anchor or a tag stands for when nothing follows it; one of them has to
be there. -/
def propertiesAlone (isGiven : Bool) (uri : Option String) : ReadM Node :=
  if isGiven then return .scalar (scalarTag uri true (.chars [])) (.chars [])
  else throw .malformed

/-- Remember that an anchor was named; once only. -/
def declare (anchor : Option String) : ReadM Unit := do
  if let some name := anchor then
    if (← get).names.contains name then throw .malformed
    modify fun reader => { reader with names := name :: reader.names }

/-- Remember the node of an anchor. -/
def record (anchor : Option String) (node : Node) : ReadM Node := do
  if let some name := anchor then
    modify fun reader => { reader with anchors := (name, node) :: reader.anchors }
  return node

/-- Where a node stands: in a block, and there perhaps where a sequence needs no indentation, or in
a flow collection. -/
inductive Place where
  /-- In a block. -/
  | block
  /-- In a block, as a key or a value. -/
  | blockEntry
  /-- In a flow collection. -/
  | flow
deriving DecidableEq

/-- Is a token one that ends the entries of a block mapping, or starts the next one? -/
def endsBlockValue : Token → Bool
  | .key | .value | .blockEnd => true
  | _ => false

/-- Is a token one that ends an item of a block sequence? -/
def endsBlockItem : Token → Bool
  | .blockEntry | .blockEnd => true
  | _ => false

/-- Is a token one that ends an item of a sequence without indentation? -/
def endsIndentlessItem : Token → Bool
  | .blockEntry | .key | .value | .blockEnd => true
  | _ => false

/-- Is a token one that ends the value of a pair in a flow sequence? -/
def endsPairValue : Token → Bool
  | .flowEntry | .flowSequenceEnd => true
  | _ => false

/-- Is a token one that ends the value of an entry in a flow mapping? -/
def endsFlowValue : Token → Bool
  | .flowEntry | .flowMappingEnd => true
  | _ => false

/-- Is a token the sign of a value, or one of those that end it? -/
def orValue (ends : Token → Bool) : Token → Bool
  | .value => true
  | token => ends token

mutual

/-- The node that comes next; `fuel` bounds the depth and the number of entries. -/
def node (place : Place) : (fuel : Nat) → ReadM Node
  | 0 => throw .malformed
  | fuel + 1 => do
    if let .alias name ← peek then
      advance
      if (← get).names.contains name then return .alias name else throw .malformed
    let (anchor, tag) ← properties
    let uri ← uri? tag
    declare anchor
    let content ← match ← peek with
      | .scalar text isPlain => do
        advance
        pure (Node.scalar (scalarTag uri isPlain text) text)
      | .flowSequenceStart => do
        advance
        pure (.sequence (collectionTag uri .seq) (← flowItems true fuel))
      | .flowMappingStart => do
        advance
        pure (.mapping (collectionTag uri .map) (← flowEntries true fuel))
      | token =>
        match place, token with
        | .blockEntry, .blockEntry => do
          pure (.sequence (collectionTag uri .seq) (← indentlessItems fuel))
        | .flow, _ => propertiesAlone (anchor.isSome || tag.isSome) uri
        | _, .blockSequenceStart => do
          advance
          pure (.sequence (collectionTag uri .seq) (← blockItems fuel))
        | _, .blockMappingStart => do
          advance
          pure (.mapping (collectionTag uri .map) (← blockEntries fuel))
        | _, _ => propertiesAlone (anchor.isSome || tag.isSome) uri
    record anchor content

/-- The node that comes next, or an absent one before a token that ends it. -/
def nodeUnless (ends : Token → Bool) (place : Place) : (fuel : Nat) → ReadM Node
  | 0 => throw .malformed
  | fuel + 1 => do if ends (← peek) then return .absent else node place fuel

/-- The value of an entry, absent when no sign of a value comes. -/
def valueUnless (ends : Token → Bool) (place : Place) : (fuel : Nat) → ReadM Node
  | 0 => throw .malformed
  | fuel + 1 => do
    match ← peek with
    | .value => advance; nodeUnless ends place fuel
    | _ => return .absent

/-- The items of a block sequence. -/
def blockItems : (fuel : Nat) → ReadM (List Node)
  | 0 => throw .malformed
  | fuel + 1 => do
    match ← peek with
    | .blockEntry =>
      advance
      let item ← nodeUnless endsBlockItem .block fuel
      return item :: (← blockItems fuel)
    | .blockEnd => advance; return []
    | _ => throw .malformed

/-- The items of a sequence at the column of the mapping around it. -/
def indentlessItems : (fuel : Nat) → ReadM (List Node)
  | 0 => throw .malformed
  | fuel + 1 => do
    match ← peek with
    | .blockEntry =>
      advance
      let item ← nodeUnless endsIndentlessItem .block fuel
      return item :: (← indentlessItems fuel)
    | _ => return []

/-- The entries of a block mapping. -/
def blockEntries : (fuel : Nat) → ReadM (List (Node × Node))
  | 0 => throw .malformed
  | fuel + 1 => do
    match ← peek with
    | .key =>
      advance
      let key ← nodeUnless endsBlockValue .blockEntry fuel
      let value ← valueUnless endsBlockValue .blockEntry fuel
      return (key, value) :: (← blockEntries fuel)
    | .blockEnd => advance; return []
    | _ => throw .malformed

/-- The items of a flow sequence; a comma comes before each but the first, and may come last. An
item may be a mapping with one entry. -/
def flowItems (isFirst : Bool) : (fuel : Nat) → ReadM (List Node)
  | 0 => throw .malformed
  | fuel + 1 => do
    if let .flowSequenceEnd ← peek then
      advance
      return []
    if !isFirst then
      expect fun token => token matches .flowEntry
    match ← peek with
    | .key =>
      advance
      let key ← nodeUnless (orValue endsPairValue) .flow fuel
      let value ← valueUnless endsPairValue .flow fuel
      return .mapping .map [(key, value)] :: (← flowItems false fuel)
    | .flowSequenceEnd => advance; return []
    | _ =>
      let item ← node .flow fuel
      return item :: (← flowItems false fuel)

/-- The entries of a flow mapping; one without the sign of a key has no value. -/
def flowEntries (isFirst : Bool) : (fuel : Nat) → ReadM (List (Node × Node))
  | 0 => throw .malformed
  | fuel + 1 => do
    if let .flowMappingEnd ← peek then
      advance
      return []
    if !isFirst then
      expect fun token => token matches .flowEntry
    match ← peek with
    | .key =>
      advance
      let key ← nodeUnless (orValue endsFlowValue) .flow fuel
      let value ← valueUnless endsFlowValue .flow fuel
      return (key, value) :: (← flowEntries false fuel)
    | .flowMappingEnd => advance; return []
    | _ =>
      let key ← node .flow fuel
      return (key, .absent) :: (← flowEntries false fuel)

end

/-- The handles that need no directive. -/
def defaultHandles : List (String × String) :=
  [("!", "!"), ("!!", Tag.core)]

/-- The directives before a document: at most one names the version, which must start with 1, and a
handle is given once. -/
def directives (isVersioned : Bool) : (fuel : Nat) → ReadM Unit
  | 0 => throw .malformed
  | fuel + 1 => do
    match ← peek with
    | .version major =>
      if isVersioned || major ≠ 1 then throw .malformed
      advance
      directives true fuel
    | .handle name uri =>
      if ((← get).handles.lookup name).isSome then throw .malformed
      modify fun reader => { reader with handles := reader.handles ++ [(name, uri)] }
      advance
      directives isVersioned fuel
    | .directive => advance; directives isVersioned fuel
    | _ => return ()

/-- Is a token one that ends a document, or starts the next one? -/
def endsDocument : Token → Bool
  | .version _ | .handle _ _ | .directive | .documentStart | .documentEnd | .streamEnd => true
  | _ => false

/-- Go over the marks after the document, up to the end of the text. -/
def documentEnd : (fuel : Nat) → ReadM Unit
  | 0 => throw .malformed
  | fuel + 1 => do
    match ← peek with
    | .documentEnd => advance; documentEnd fuel
    | .streamEnd => return ()
    | _ => throw .malformed

/-- The one document of a text, or `none` when there is none. -/
def document (fuel : Nat) : ReadM (Option Node) := do
  match ← peek with
  | .streamEnd => return none
  | .version _ | .handle _ _ | .directive | .documentStart =>
    directives false fuel
    modify fun reader => { reader with handles := reader.handles ++ defaultHandles }
    expect fun token => token matches .documentStart
    let root ← nodeUnless endsDocument .block fuel
    documentEnd fuel
    return some root
  | _ =>
    modify fun reader => { reader with handles := defaultHandles }
    let root ← node .block fuel
    documentEnd fuel
    return some root

end Reader

/-- The document of a text with its anchored nodes; `none` when the text is empty. -/
def Node.ofChars (cs : List Char) : Except Fault (Option (Node × List (String × Node))) := do
  let (tokens, fault) := Token.ofChars cs
  let reader : Reader := { tokens, fault := fault.getD .malformed }
  let (root, reader) ← (Reader.document (4 * tokens.length + 8)).run reader
  return root.map fun node => (node, reader.anchors)

end ClientGen.Yaml
