import ClientGen.Project
import ClientGen.Schema.Checked

/-!
# The schema of projects

How projects and their declarations are written in a document. Every field but the name has a
default, save the types that a method or parameter cannot do without; unknown fields are ignored.
-/

namespace ClientGen.Schema

/-- A type reference whose value is nested less deep than the bound. -/
def typeRefWithin : (bound : Nat) → Check TypeRef
  | 0 => fun _ => .wrong .notObject
  | bound + 1 => object fun fields =>
    (fun name scope arguments nullable array => ⟨name, scope, arguments, nullable, array⟩)
      <$> required "name" text fields
      <*> optional "namespace" text "" fields
      <*> optional "arguments" (list (typeRefWithin bound)) [] fields
      <*> optional "nullable" bool false fields
      <*> optional "array" bool false fields

/-- A type reference. -/
def typeRef : Check TypeRef :=
  fun v => typeRefWithin (v.depth + 1) v

/-- An attribute of a method. -/
def methodAttribute : Check Attribute :=
  object fun fields =>
    Attribute.mk
      <$> required "name" text fields
      <*> optional "arguments" (list (nullable text)) [] fields

/-- A parameter of a method. -/
def methodParameter : Check MethodParameter :=
  object fun fields =>
    MethodParameter.mk
      <$> required "name" text fields
      <*> required "type" typeRef fields
      <*> optional "has_default" bool false fields
      <*> optional "attributes" (list text) [] fields

/-- An element of a documentation comment. -/
def docElement : Check DocElement :=
  object fun fields =>
    DocElement.mk
      <$> required "tag" text fields
      <*> optional "attributes" textMap [] fields
      <*> optional "text" text "" fields

/-- A method. -/
def method : Check Method :=
  object fun fields =>
    Method.mk
      <$> required "name" text fields
      <*> required "return_type" typeRef fields
      <*> optional "parameters" (list methodParameter) [] fields
      <*> optional "attributes" (list methodAttribute) [] fields
      <*> optional "modifiers" (list text) [] fields
      <*> optional "documentation" (nullable (list docElement)) none fields

/-- A class. -/
def classDecl : Check ClassDecl :=
  object fun fields =>
    ClassDecl.mk
      <$> required "name" text fields
      <*> optional "namespace" text "" fields
      <*> optional "base_type" (nullable typeRef) none fields
      <*> optional "methods" (list method) [] fields

/-- A document. -/
def document : Check Document :=
  object fun fields =>
    Document.mk
      <$> required "name" text fields
      <*> optional "folders" (list text) [] fields
      <*> optional "classes" (list classDecl) [] fields
      <*> optional "types" (list typeRef) [] fields

/-- A project. -/
def project : Check Project :=
  object fun fields =>
    Project.mk
      <$> required "name" text fields
      <*> optional "assembly_name" text "" fields
      <*> optional "documents" (list document) [] fields

end ClientGen.Schema
