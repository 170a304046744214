import ClientGen.TypeRef

/-!
# Projects and their declarations

What the generator reads: projects, their source documents, and in each document the classes with
their methods. A method carries what a client module is made from: its signature, its attributes
and the elements of its documentation comment.
-/

namespace ClientGen

/-- An attribute of a method, such as `[HttpGet("orders/{id}")]`. -/
structure Attribute where
  /-- The name, without `Attribute` added or removed. -/
  name : String
  /-- The arguments in order; `none` is an argument that is not a string literal. -/
  arguments : List (Option String) := []
deriving Repr, DecidableEq, Inhabited

/-- A parameter of a method. -/
structure MethodParameter where
  /-- The name. -/
  name : String
  /-- The declared type. -/
  type : TypeRef
  /-- Is there a default value? -/
  hasDefault : Bool := false
  /-- The names of its attributes. -/
  attributes : List String := []
deriving Repr, DecidableEq, Inhabited

/-- A top-level element of a documentation comment. -/
structure DocElement where
  /-- The tag. -/
  tag : String
  /-- The attributes with their values. -/
  attributes : List (String × String) := []
  /-- The text, with nested markup flattened. -/
  text : String := ""
deriving Repr, DecidableEq, Inhabited

namespace DocElement

/-- The value of an attribute, if the element has it. -/
def value? (element : DocElement) (name : String) : Option String :=
  element.attributes.lookup name

end DocElement

/-- A method of a class. -/
structure Method where
  /-- The name. -/
  name : String
  /-- The declared return type. -/
  returnType : TypeRef
  /-- The parameters in order. -/
  parameters : List MethodParameter := []
  /-- The attributes in order. -/
  attributes : List Attribute := []
  /-- The modifiers in order. -/
  modifiers : List String := []
  /-- The documentation comment; `none` when there is no comment at all. -/
  documentation : Option (List DocElement) := none
deriving Repr, DecidableEq, Inhabited

/-- A class. -/
structure ClassDecl where
  /-- The short name. -/
  name : String
  /-- The namespace. -/
  scope : String := ""
  /-- The base class, interfaces left out. -/
  baseType : Option TypeRef := none
  /-- The methods the class itself declares, in order. -/
  methods : List Method := []
deriving Repr, DecidableEq, Inhabited

/-- A source document, placed by its folders below the project. -/
structure Document where
  /-- The file name. -/
  name : String
  /-- The folders from the project down. -/
  folders : List String := []
  /-- The classes it declares. -/
  classes : List ClassDecl := []
  /-- The other types it declares, as references with their scope. -/
  types : List TypeRef := []
deriving Repr, DecidableEq, Inhabited

/-- A project. -/
structure Project where
  /-- The name in the solution. -/
  name : String
  /-- The name of its assembly, or empty when it is the project's own. -/
  assemblyName : String := ""
  /-- The documents in order. -/
  documents : List Document := []
deriving Repr, DecidableEq, Inhabited

namespace Project

/-- The name of the assembly a project is built into. -/
def assembly (project : Project) : String :=
  if project.assemblyName = "" then project.name else project.assemblyName

end Project

end ClientGen
