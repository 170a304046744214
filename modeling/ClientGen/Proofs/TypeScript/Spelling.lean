import ClientGen.Proofs.TypeRef
import ClientGen.Proofs.TypeScript.Imports

/-!
# The names that a spelling uses

The spelling of a type is taken apart into fixed text and names: every name in it is the name of a
type of the solution, at some depth of the reference, and everything else comes from a short list
of texts. Each of these types is among the declared types of the reference, so a client module
imports every name that its signatures spell.
-/

namespace ClientGen.TypeScript

/-- A part of the spelling of a type. -/
inductive Part where
  /-- Text that stands for no type of the solution. -/
  | fixed (text : String)
  /-- The name of a type of the solution. -/
  | name (ref : TypeRef)

/-- The text of a part. -/
def Part.text : Part → String
  | fixed text => text
  | name ref => ref.name

/-- The text of several parts, one after the other. -/
def textOf (parts : List Part) : String :=
  String.join (parts.map Part.text)

/-- All text in spellings that stands for no type of the solution. -/
def fixedTexts : List String :=
  ["void", "number", "string", "boolean", "File", "any", "<", ", ", ">", "[]",
   "\x7b[key: string]: ", "\x7d"]

/-- The parts of a declared type, which keeps its name, or of one that is not declared. -/
def declaredParts (ref : TypeRef) (arguments : List (List Part)) : List Part :=
  if ref.scope = "" then [.fixed "any"]
  else if arguments.isEmpty then [.name ref]
  else .name ref :: .fixed "<" :: [.fixed ", "].intercalate arguments ++ [.fixed ">"]

/-- The parts of a type that is no array, from the parts of its arguments. -/
def namedParts (ref : TypeRef) (arguments : List (List Part)) : List Part :=
  match arguments with
  | [] =>
    match builtIn? ref.name with
    | some text => [.fixed text]
    | none => declaredParts ref []
  | [argument] =>
    if unwrappedTypes.contains ref.name then argument
    else if collectionTypes.contains ref.name then argument ++ [.fixed "[]"]
    else declaredParts ref [argument]
  | [key, value] =>
    if dictionaryTypes.contains ref.name then .fixed "\x7b[key: string]: " :: value ++ [.fixed "\x7d"]
    else declaredParts ref [key, value]
  | several => declaredParts ref several

mutual

/-- The parts of the spelling of a resolved type. -/
def parts : TypeRef → List Part
  | ⟨name, scope, arguments, nullable, array⟩ =>
    namedParts ⟨name, scope, arguments, nullable, array⟩ (partsAll arguments) ++
      if array then [.fixed "[]"] else []

/-- The parts of the spellings of a list of types. -/
def partsAll : List TypeRef → List (List Part)
  | [] => []
  | ref :: refs => parts ref :: partsAll refs

end

/-- Taking a list of spellings apart is taking each member apart. -/
theorem partsAll_eq_map (refs : List TypeRef) : partsAll refs = refs.map parts := by
  induction refs with
  | nil => rfl
  | cons ref refs ih => rw [partsAll, ih, List.map_cons]

/-! ### The parts make up the spelling -/

@[simp] theorem textOf_nil : textOf [] = "" := rfl

@[simp] theorem textOf_cons (part : Part) (rest : List Part) :
    textOf (part :: rest) = part.text ++ textOf rest := by
  rw [textOf, List.map_cons, String.join_cons]
  rfl

@[simp] theorem textOf_append (left right : List Part) :
    textOf (left ++ right) = textOf left ++ textOf right := by
  rw [textOf, List.map_append, String.join_append]
  rfl

/-- Parts with a separator between them have the text with the separator's text between. -/
theorem textOf_intercalate (separator : String) (groups : List (List Part)) :
    textOf ([.fixed separator].intercalate groups) =
      separator.intercalate (groups.map textOf) := by
  induction groups with
  | nil => rfl
  | cons group groups ih =>
    cases groups with
    | nil => simp
    | cons next groups =>
      rw [List.map_cons, List.map_cons, String.intercalate_cons_cons, ← List.map_cons, ← ih]
      simp [List.intercalate, Part.text, String.append_assoc]

/-- The parts of a declared type make up its name and its arguments in angle brackets. -/
theorem textOf_declaredParts (ref : TypeRef) (arguments : List (List Part)) :
    textOf (declaredParts ref arguments) =
      if ref.scope = "" then "any"
      else if arguments.isEmpty then ref.name
      else ref.name ++ "<" ++ ", ".intercalate (arguments.map textOf) ++ ">" := by
  unfold declaredParts
  split
  · simp [Part.text]
  · split
    · simp [Part.text]
    · simp [Part.text, textOf_intercalate, String.append_assoc]

/-- The parts of a type make up its spelling when those of its arguments make up theirs. -/
theorem textOf_namedParts (ref : TypeRef) (arguments : List (List Part)) :
    textOf (namedParts ref arguments) =
      spellNamed ref.name ref.scope (arguments.map textOf) := by
  match arguments with
  | [] =>
    rw [namedParts, List.map_nil, spellNamed]
    cases builtIn? ref.name with
    | some text => simp [Part.text]
    | none => exact textOf_declaredParts ref []
  | [argument] =>
    have hdeclared := textOf_declaredParts ref [argument]
    simp only [namedParts, spellNamed, List.map_cons, List.map_nil] at hdeclared ⊢
    split
    · rfl
    · split
      · simp [Part.text]
      · exact hdeclared
  | [key, value] =>
    have hdeclared := textOf_declaredParts ref [key, value]
    simp only [namedParts, spellNamed, List.map_cons, List.map_nil] at hdeclared ⊢
    split
    · simp [Part.text, String.append_assoc]
    · exact hdeclared
  | first :: second :: third :: rest =>
    exact textOf_declaredParts ref (first :: second :: third :: rest)

/-- The parts of a type make up its spelling. -/
theorem textOf_parts (ref : TypeRef) : textOf (parts ref) = spell ref := by
  induction ref using TypeRef.induct with
  | step name scope arguments nullable array ih =>
    have harguments : (partsAll arguments).map textOf = spellAll arguments := by
      rw [partsAll_eq_map, spellAll_eq_map, List.map_map]
      exact List.map_congr_left ih
    rw [parts, spell, textOf_append, textOf_namedParts, harguments]
    cases array <;> rfl

/-! ### Every name is that of a declared type -/

/-- A part may stand in the spelling of a reference: it is one of the fixed texts, or the name of a
declared type that the reference mentions. -/
def Part.Within (ref : TypeRef) : Part → Prop
  | fixed text => text ∈ fixedTexts
  | name node => node.scope ≠ "" ∧ node ∈ declaredTypes ref

/-- What may stand in the spelling of an argument may stand in that of the reference. -/
theorem Part.Within.of_argument {ref argument : TypeRef} {part : Part}
    (hargument : argument ∈ ref.arguments) (hpart : part.Within argument) : part.Within ref := by
  cases part with
  | fixed text => exact hpart
  | name node => exact ⟨hpart.1, mem_declaredTypes_of_argument hargument hpart.2⟩

/-- A fixed text may stand in every spelling. -/
theorem Part.Within.of_fixed {ref : TypeRef} {part : Part} {text : String}
    (hpart : part ∈ [Part.fixed text]) (htext : text ∈ fixedTexts) : part.Within ref := by
  rw [List.mem_singleton.mp hpart]
  exact htext

/-- A built-in type has one of the fixed texts. -/
theorem mem_fixedTexts_of_builtIn? {name text : String} (h : builtIn? name = some text) :
    text ∈ fixedTexts := by
  unfold builtIn? at h
  split_ifs at h <;> obtain rfl := Option.some.inj h <;> decide

/-- What stands in a list with separators comes from the separator or from a member of the list. -/
theorem mem_intercalate {α : Type} {x : α} {separator : List α} {groups : List (List α)}
    (h : x ∈ separator.intercalate groups) : x ∈ separator ∨ ∃ group ∈ groups, x ∈ group := by
  induction groups with
  | nil => exact nomatch h
  | cons group groups ih =>
    cases groups with
    | nil =>
      rw [List.intercalate_singleton] at h
      exact .inr ⟨group, List.mem_cons_self, h⟩
    | cons next groups =>
      rw [List.intercalate_cons_cons, List.mem_append, List.mem_append] at h
      rcases h with (h | h) | h
      · exact .inr ⟨group, List.mem_cons_self, h⟩
      · exact .inl h
      · exact (ih h).imp_right fun ⟨other, hother, hx⟩ => ⟨other, List.mem_cons_of_mem _ hother, hx⟩

/-- A part of a declared type may stand in its spelling or comes from an argument. -/
theorem within_or_argument_of_mem_declaredParts {ref : TypeRef} {arguments : List (List Part)}
    {part : Part} (h : part ∈ declaredParts ref arguments) :
    part.Within ref ∨ ∃ argument ∈ arguments, part ∈ argument := by
  unfold declaredParts at h
  split at h
  · exact .inl (.of_fixed h (by decide))
  · next hscope =>
    have hname : (Part.name ref).Within ref := ⟨hscope, mem_declaredTypes_self hscope⟩
    split at h
    · rw [List.mem_singleton.mp h]
      exact .inl hname
    · rw [List.mem_append, List.mem_cons, List.mem_cons] at h
      rcases h with (rfl | rfl | h) | h
      · exact .inl hname
      · exact .inl (.of_fixed List.mem_cons_self (by decide))
      · exact (mem_intercalate h).imp_left fun h => .of_fixed h (by decide)
      · exact .inl (.of_fixed h (by decide))

/-- A part of a type may stand in its spelling or comes from an argument. -/
theorem within_or_argument_of_mem_namedParts {ref : TypeRef} {arguments : List (List Part)}
    {part : Part} (h : part ∈ namedParts ref arguments) :
    part.Within ref ∨ ∃ argument ∈ arguments, part ∈ argument := by
  match arguments with
  | [] =>
    rw [namedParts] at h
    split at h
    · next text htext => exact .inl (.of_fixed h (mem_fixedTexts_of_builtIn? htext))
    · exact within_or_argument_of_mem_declaredParts h
  | [argument] =>
    rw [namedParts] at h
    split at h
    · exact .inr ⟨argument, List.mem_cons_self, h⟩
    · split at h
      · rcases List.mem_append.mp h with h | h
        · exact .inr ⟨argument, List.mem_cons_self, h⟩
        · exact .inl (.of_fixed h (by decide))
      · exact within_or_argument_of_mem_declaredParts h
  | [key, value] =>
    rw [namedParts] at h
    split at h
    · rw [List.cons_append, List.mem_cons, List.mem_append] at h
      rcases h with rfl | h | h
      · exact .inl (.of_fixed List.mem_cons_self (by decide))
      · exact .inr ⟨value, List.mem_cons_of_mem _ List.mem_cons_self, h⟩
      · exact .inl (.of_fixed h (by decide))
    · exact within_or_argument_of_mem_declaredParts h
  | first :: second :: third :: rest => exact within_or_argument_of_mem_declaredParts h

/-- Every part of a type may stand in its spelling. -/
theorem within_of_mem_parts {ref : TypeRef} {part : Part} (h : part ∈ parts ref) :
    part.Within ref := by
  induction ref using TypeRef.induct with
  | step name scope arguments nullable array ih =>
    rw [parts, List.mem_append, partsAll_eq_map] at h
    rcases h with h | h
    · rcases within_or_argument_of_mem_namedParts h with h | ⟨group, hgroup, hpart⟩
      · exact h
      · obtain ⟨argument, hargument, rfl⟩ := List.mem_map.mp hgroup
        exact .of_argument hargument (ih argument hargument hpart)
    · split at h
      · exact .of_fixed h (by decide)
      · exact nomatch h

/-! ### Every name is imported -/

/-- The text of a part is one of the fixed texts, or the name of a declared type that is imported
from the module of its namespace. -/
def Part.Imported (services : List Service) (productName : String) : Part → Prop
  | fixed text => text ∈ fixedTexts
  | name node => node.scope ≠ "" ∧
      ∃ names, (imports services productName).lookup (modelModule node.scope productName) =
        some names ∧ node.name ∈ names

/-- A declared type that a signature mentions is imported from the module of its namespace. -/
theorem imported_of_mem_declaredTypes {services : List Service} {service : Service}
    {ref node : TypeRef} (productName : String) (hservice : service ∈ services)
    (href : ref ∈ signatureTypes service) (hnode : node ∈ declaredTypes ref) :
    ∃ names, (imports services productName).lookup (modelModule node.scope productName) =
      some names ∧ node.name ∈ names := by
  have hmentioned : node ∈ mentioned services := by
    refine List.mem_flatMap.mpr ⟨service, hservice, ?_⟩
    rw [declaredTypesAll_eq_flatMap]
    exact List.mem_flatMap.mpr ⟨ref, href, hnode⟩
  have hunder : node.name ∈ namesUnder (imports services productName)
      (modelModule node.scope productName) :=
    mem_namesUnder_imports.mpr ⟨node, hmentioned, rfl, rfl⟩
  unfold namesUnder at hunder
  cases hlookup : (imports services productName).lookup (modelModule node.scope productName) with
  | some names => exact ⟨names, rfl, by rwa [hlookup] at hunder⟩
  | none =>
    rw [hlookup] at hunder
    exact nomatch hunder

/-- The spelling of a type in the signature of a service is made up of fixed texts and of names that
the client module of the services imports. -/
theorem parts_imported {services : List Service} {service : Service} {ref : TypeRef}
    (productName : String) (hservice : service ∈ services)
    (href : ref = service.returnType ∨ ∃ p ∈ service.parameters, ref = p.type) :
    textOf (parts ref) = spell ref ∧ ∀ part ∈ parts ref, part.Imported services productName := by
  have hsignature : ref ∈ signatureTypes service := by
    rcases href with rfl | ⟨p, hp, rfl⟩
    · exact List.mem_cons_self
    · exact List.mem_cons_of_mem _ (List.mem_map_of_mem hp)
  refine ⟨textOf_parts ref, fun part hpart => ?_⟩
  have hwithin := within_of_mem_parts hpart
  cases part with
  | fixed text => exact hwithin
  | name node =>
    exact ⟨hwithin.1, imported_of_mem_declaredTypes productName hservice hsignature hwithin.2⟩

/-- A service that answers with pages of orders for every customer. -/
def listOrders : Service where
  verb := .get
  route := "orders"
  name := "List"
  returnType :=
    { name := "Task", arguments := [
      { name := "IDictionary", arguments := [
        { name := "Guid" },
        { name := "Page", scope := "Shop.Core", array := true, arguments := [
          { name := "OrderDto", scope := "Shop.Orders.Dto", array := true }] }] }] }
  parameters := []
  uriParameters := []
  queryParameters := []
  documentation := { summary := "Lists the orders." }

/-- Its answer is spelled with two names of declared types, and both are imported. -/
theorem parts_imported_listOrders :
    listOrders ∈ [listOrders] ∧
      textOf (parts listOrders.returnType) = "\x7b[key: string]: Page<OrderDto[]>[]\x7d" ∧
      ∀ part ∈ parts listOrders.returnType, part.Imported [listOrders] "Shop" := by
  have hmem : listOrders ∈ [listOrders] := List.mem_cons_self
  have h := parts_imported "Shop" hmem (.inl rfl)
  exact ⟨hmem, h.1.trans (by decide), h.2⟩

end ClientGen.TypeScript
