import ClientGen.TypeRef

/-!
# Types in TypeScript

How a resolved type is spelled in a client module. An array is its element type with brackets.
Wrappers that only carry their argument disappear, collections become arrays and dictionaries
become objects with string keys. The built-in types of the server have fixed spellings; a type
the solution declares keeps its name, and any other type is `any`.
-/

namespace ClientGen.TypeScript

/-- Types written `number`. -/
def numberTypes : List String :=
  ["byte", "sbyte", "short", "ushort", "int", "uint", "long", "ulong", "float", "double", "decimal",
   "Byte", "SByte", "Int16", "UInt16", "Int32", "UInt32", "Int64", "UInt64", "Single", "Double",
   "Decimal"]

/-- Types written `string`. -/
def stringTypes : List String :=
  ["string", "String", "char", "Char", "Guid", "DateTime", "DateTimeOffset", "DateOnly", "TimeOnly",
   "TimeSpan"]

/-- Types written `boolean`. -/
def booleanTypes : List String := ["bool", "Boolean"]

/-- Types written `any` by name. -/
def anyTypes : List String := ["object", "Object", "dynamic"]

/-- Types of an answer without content. -/
def voidTypes : List String :=
  ["void", "IActionResult", "ActionResult", "IResult", "Task", "ValueTask"]

/-- Types of an uploaded file. -/
def fileTypes : List String := ["IFormFile"]

/-- Types that are written as their one argument. -/
def unwrappedTypes : List String := ["ActionResult", "Nullable", "Task", "ValueTask"]

/-- Types that are written as an array of their one argument. -/
def collectionTypes : List String :=
  ["IEnumerable", "ICollection", "IList", "List", "ISet", "HashSet", "IReadOnlyList",
   "IReadOnlyCollection"]

/-- Types that are written as an object whose values have the second argument's type. -/
def dictionaryTypes : List String := ["Dictionary", "IDictionary", "IReadOnlyDictionary"]

/-- The fixed spelling of a built-in type without arguments. -/
def builtIn? (name : String) : Option String :=
  if voidTypes.contains name then some "void"
  else if numberTypes.contains name then some "number"
  else if stringTypes.contains name then some "string"
  else if booleanTypes.contains name then some "boolean"
  else if fileTypes.contains name then some "File"
  else if anyTypes.contains name then some "any"
  else none

/-- The spelling of a type that is no array, from its name, its scope and the spellings of its
arguments. -/
def spellNamed (name scope : String) (arguments : List String) : String :=
  let declared :=
    if scope = "" then "any"
    else if arguments.isEmpty then name
    else name ++ "<" ++ ", ".intercalate arguments ++ ">"
  match arguments with
  | [] => (builtIn? name).getD declared
  | [argument] =>
    if unwrappedTypes.contains name then argument
    else if collectionTypes.contains name then argument ++ "[]"
    else declared
  | [_, value] =>
    if dictionaryTypes.contains name then "\x7b[key: string]: " ++ value ++ "\x7d" else declared
  | _ => declared

mutual

/-- The TypeScript spelling of a resolved type. -/
def spell : TypeRef → String
  | ⟨name, scope, arguments, _, array⟩ =>
    spellNamed name scope (spellAll arguments) ++ if array then "[]" else ""

/-- The spellings of a list of types. -/
def spellAll : List TypeRef → List String
  | [] => []
  | ref :: refs => spell ref :: spellAll refs

end

/-- Spelling a list is spelling each member. -/
theorem spellAll_eq_map (refs : List TypeRef) : spellAll refs = refs.map spell := by
  induction refs with
  | nil => rfl
  | cons ref refs ih => simp [spellAll, ih]

end ClientGen.TypeScript
