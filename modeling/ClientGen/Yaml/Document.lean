import ClientGen.Yaml.Base64
import ClientGen.Yaml.Node
import ClientGen.Yaml.Number

/-!
# The value of a document

What the nodes of a document stand for. Each scalar is read as its tag says. In a mapping a later
entry of a key takes the place of an earlier one, a merge key puts the entries of other mappings
before the mapping's own, and a key must not be a list or a mapping.

A document may have several faults, and one of them is reported: the one at the least depth, and
among these the first. So reading a node gives a value in any case, with the faults it met.
-/

namespace ClientGen.Yaml

/-- A value with the faults met while it was read, each with its depth. -/
structure Reading where
  /-- The value. -/
  value : Value
  /-- The faults in the order of the document. -/
  faults : List (Nat × Fault) := []
deriving Inhabited

namespace Reading

/-- A reading that failed at a depth. -/
def failed (depth : Nat) (fault : Fault) : Reading :=
  { value := .null, faults := [(depth, fault)] }

/-- The fault at the least depth, the first among several. -/
def firstFault? : List (Nat × Fault) → Option (Nat × Fault)
  | [] => none
  | fault :: rest =>
    match firstFault? rest with
    | some other => if other.1 < fault.1 then some other else some fault
    | none => some fault

/-- The value, or the fault that is reported. -/
def toExcept (reading : Reading) : Except Fault Value :=
  match firstFault? reading.faults with
  | some (_, fault) => .error fault
  | none => .ok reading.value

end Reading

/-- The anchored nodes of a document. -/
abbrev Anchors := List (String × Node)

namespace Node

mutual

/-- How deep a node is nested. -/
def depth : Node → Nat
  | .scalar _ _ => 1
  | .sequence _ items => depthOfItems items + 1
  | .mapping _ entries => depthOfEntries entries + 1
  | .alias _ => 1

/-- The greatest depth in a list. -/
def depthOfItems : List Node → Nat
  | [] => 0
  | node :: nodes => max node.depth (depthOfItems nodes)

/-- The greatest depth in the entries of a mapping. -/
def depthOfEntries : List (Node × Node) → Nat
  | [] => 0
  | (key, value) :: rest => max (max key.depth value.depth) (depthOfEntries rest)

end

/-- The node that stands at a place, anchors resolved; `fuel` bounds the number of anchors. -/
def resolve (anchors : Anchors) : (fuel : Nat) → Node → Option Node
  | 0, _ => none
  | fuel + 1, .alias name => (anchors.lookup name).bind (resolve anchors fuel)
  | _, node => some node

/-- The tag of a node. -/
def tag : Node → Tag
  | .scalar tag _ => tag
  | .sequence tag _ => tag
  | .mapping tag _ => tag
  | .alias _ => .unknown

/-- A key as it counts in a mapping: a lone equals sign is a text. -/
def asKey : Node → Node
  | .scalar .value text => .scalar .str text
  | node => node

/-- Is a node a merge key? -/
def isMerge (anchors : Anchors) (key : Node) : Bool :=
  (key.resolve anchors (anchors.length + 1)).any (·.tag == .merge)

/-- The entries of a mapping without those of its merge keys. -/
def ownEntries (anchors : Anchors) (entries : List (Node × Node)) : List (Node × Node) :=
  (entries.filter fun (key, _) => !isMerge anchors key).map fun (key, value) => (key.asKey, value)

/-- The entries of a mapping with those of its merge keys before them, the mappings of a merged list
from the last to the first. A mapping that is merged into itself, by one of the anchors `inside`,
adds its own entries only; `fuel` bounds the depth of merging. -/
def mergedEntries (anchors : Anchors) :
    (fuel : Nat) → (inside : List String) → List (Node × Node) → Option (List (Node × Node))
  | 0, _, _ => none
  | fuel + 1, inside, entries => do
    let ofMapping := fun (node : Node) =>
      match node with
      | .mapping _ inner => mergedEntries anchors fuel inside inner
      | .alias name =>
        match anchors.lookup name with
        | some (.mapping _ inner) =>
          if inside.contains name then some (ownEntries anchors inner)
          else mergedEntries anchors fuel (name :: inside) inner
        | _ => none
      | _ => none
    let merged := fun (value : Node) =>
      match value.resolve anchors (anchors.length + 1) with
      | some (.sequence _ items) => (items.mapM ofMapping).map (·.reverse.flatten)
      | _ => ofMapping value
    let before ← (entries.filter fun (key, _) => isMerge anchors key).mapM fun (_, value) =>
      merged value
    return before.flatten ++ ownEntries anchors entries

/-- The characters of a scalar, or of the scalar that a mapping gives as its own value. -/
def scalarText? (anchors : Anchors) : (fuel : Nat) → Node → Option ScalarText
  | 0, _ => none
  | _, .scalar _ text => some text
  | _, .sequence _ _ => none
  | fuel + 1, .alias name => (anchors.lookup name).bind (scalarText? anchors fuel)
  | fuel + 1, .mapping _ entries =>
    (entries.find? fun (key, _) => key.tag == .value).bind fun (_, value) =>
      scalarText? anchors fuel value

end Node

/-- The value of a text that may be damaged. -/
def ScalarText.toValue : ScalarText → Value
  | .chars cs => .text (String.ofList cs)
  | .damaged bytes => .bytes ⟨bytes.toArray⟩

/-- The characters of a text; damaged places are no characters of any notation. -/
def ScalarText.readable : ScalarText → List Char
  | .chars cs => cs
  | .damaged _ => ['\uFFFD']

/-- The value of a scalar with a tag. -/
def scalarValue (tag : Tag) (text : ScalarText) : Except Fault Value :=
  let cs := text.readable
  match tag with
  | .null => .ok .null
  | .bool =>
    let name := String.ofList (cs.map Char.toLower)
    if ["yes", "true", "on"].contains name then .ok (.bool true)
    else if ["no", "false", "off"].contains name then .ok (.bool false)
    else .error .unknownBool
  | .int => (Number.toInt cs).map .int
  | .float => (Number.toBinary64 cs).map .number
  | .binary =>
    if cs.all (·.toNat < 0x80) then
      match Base64.decode? cs with
      | some bytes => .ok (.bytes ⟨bytes.toArray⟩)
      | none => .error .malformed
    else .error .malformed
  | .timestamp =>
    match Time.read? cs with
    | some (time, _) => if time.isValid then .ok (.time time) else .error .unreadable
    | none => .error .unknownTime
  | .str => .ok text.toValue
  | _ => .error .malformed

/-- May a value be a key of a mapping? -/
def Value.isKey : Value → Bool
  | .list _ => false
  | .map _ => false
  | _ => true

/-- The mapping with the given entries, a later one in the place of an earlier one of its key. -/
def mappingOf (entries : List (Value × Value)) : List (Value × Value) :=
  entries.foldl (fun before (key, value) => Value.setEntry key value before) []

/-- The readings of the entries of a mapping at a depth: keys that cannot be keys are faults. -/
def readEntries (depth : Nat) (read : Node → Reading) (entries : List (Node × Node)) :
    List (Value × Value) × List (Nat × Fault) :=
  let readings := entries.map fun (key, value) => (read key, read value)
  let faults := readings.flatMap fun (key, value) =>
    key.faults ++ (if key.value.isKey then [] else [(depth, .malformed)]) ++ value.faults
  (readings.map fun (key, value) => (key.value, value.value), faults)

/-- The pair that an item of an ordered mapping stands for. -/
def readPair (anchors : Anchors) (depth : Nat) (read : Node → Reading) (item : Node) : Reading :=
  match item.resolve anchors (anchors.length + 1) with
  | some (.mapping _ [(key, value)]) =>
    let key := read key
    let value := read value
    { value := .list [key.value, value.value], faults := key.faults ++ value.faults }
  | _ => .failed depth .malformed

/-- The reading of a node at a depth. Where anchors lead back into themselves, `fuel` ends the
reading. -/
def readNode (anchors : Anchors) : (fuel : Nat) → (depth : Nat) → Node → Reading
  | 0, _, _ => { value := .null }
  | fuel + 1, depth, node =>
    let inner := readNode anchors fuel (depth + 1)
    match node with
    | .alias name =>
      match anchors.lookup name with
      | some node => readNode anchors fuel depth node
      | none => .failed depth .malformed
    | .scalar tag text =>
      match scalarValue tag text with
      | .ok value => { value }
      | .error fault => .failed depth fault
    | .sequence tag items =>
      match tag with
      | .seq =>
        let readings := items.map inner
        { value := .list (readings.map (·.value)), faults := readings.flatMap (·.faults) }
      | .omap | .pairs =>
        let readings := items.map (readPair anchors (depth + 1) inner)
        { value := .list (readings.map (·.value)), faults := readings.flatMap (·.faults) }
      | .map | .set => .failed (depth + 1) .malformed
      | _ => .failed depth .malformed
    | .mapping tag entries =>
      match tag with
      | .map | .set =>
        match Node.mergedEntries anchors (fuel + 1) [] entries with
        | none => .failed (depth + 1) .malformed
        | some entries =>
          let (entries, faults) := readEntries (depth + 1) inner entries
          let entries := mappingOf entries
          { value := if tag = .set then .list (entries.map (·.1)) else .map entries, faults }
      | .seq | .omap | .pairs => .failed (depth + 1) .malformed
      | .timestamp | .merge | .value | .unknown => .failed depth .malformed
      | tag =>
        match node.scalarText? anchors (fuel + 1) with
        | none => .failed depth .malformed
        | some text =>
          match scalarValue tag text with
          | .ok value => { value }
          | .error fault => .failed depth fault

/-- The steps that reach every node when no anchor leads back into itself, and some more. -/
def readingSteps (root : Node) (anchors : Anchors) : Nat :=
  anchors.foldl (fun steps (_, node) => steps + node.depth + 1) (root.depth + 8)

/-- The value of the one document in a text; an empty text has none. -/
def readDocument (text : String) : Except Fault Value := do
  match ← Node.ofChars text.toList with
  | none => return .null
  | some (root, anchors) => (readNode anchors (readingSteps root anchors) 0 root).toExcept

end ClientGen.Yaml
