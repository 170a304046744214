import ClientGen.Markup.Token

/-!
# The element tree

A document as elements and text. The tree is built from tokens: each closing tag must have the name
of the innermost open element, there is one outermost element, and outside of it stands nothing but
white space. Names are expanded by the namespaces in scope: `{uri}name`. A name whose qualifier is
not declared and two attributes of one name are refused.
-/

namespace ClientGen.Markup

/-- Text, or an element with its expanded name. -/
inductive Node where
  /-- Text, with no markup in it. -/
  | text (value : String)
  /-- An element. -/
  | element (tag : String) (attributes : List (String × String)) (content : List Node)
deriving Repr, Inhabited

/-- The namespaces in scope: qualifiers with their URIs, the innermost declaration first. The
empty qualifier is the default namespace, and the empty URI is no namespace. -/
abbrev Scope := List (String × String)

namespace Scope

/-- The namespace of the qualifier `xml`. -/
def xmlUri : String := "http://www.w3.org/XML/1998/namespace"

/-- The namespace of declarations. -/
def xmlnsUri : String := "http://www.w3.org/2000/xmlns/"

/-- What is in scope outside of every element. -/
def outermost : Scope := [("xml", xmlUri)]

/-- May a character stand in a URI, where it would otherwise be read as the end of one? -/
def allowsUri (uri : String) : Bool :=
  !uri.toList.contains '\x7d'

/-- The namespace an attribute declares: `none` when it declares none, and `some none` when it must
not be declared. -/
def declared? : QName × String → Option (Option (String × String))
  | (⟨none, "xmlns"⟩, uri) =>
    some (if uri ≠ xmlUri ∧ uri ≠ xmlnsUri ∧ allowsUri uri then some ("", uri) else none)
  | (⟨some "xmlns", name⟩, uri) =>
    some <|
      if name = "xml" then if uri = xmlUri then some (name, uri) else none
      else if name ≠ "xmlns" ∧ uri ≠ "" ∧ uri ≠ xmlUri ∧ uri ≠ xmlnsUri ∧ allowsUri uri then
        some (name, uri)
      else none
  | _ => none

/-- The scope inside an element with the given attributes. -/
def within? (scope : Scope) (attributes : List (QName × String)) : Option Scope := do
  let declarations ← (attributes.filterMap declared?).mapM id
  return declarations.reverse ++ scope

/-- A name in a namespace. -/
def expanded (uri name : String) : String :=
  if uri = "" then name else "\x7b" ++ uri ++ "\x7d" ++ name

/-- The expanded name of an element. -/
def tag? (scope : Scope) (name : QName) : Option String :=
  match name.qualifier with
  | some qualifier => (scope.lookup qualifier).map (expanded · name.name)
  | none => some (expanded ((scope.lookup "").getD "") name.name)

/-- The expanded name of an attribute: without a qualifier it is in no namespace. -/
def attributeName? (scope : Scope) (name : QName) : Option String :=
  match name.qualifier with
  | some qualifier => (scope.lookup qualifier).map (expanded · name.name)
  | none => some name.name

/-- The attributes of an element with expanded names, declarations left out. -/
def attributes? (scope : Scope) (attributes : List (QName × String)) :
    Option (List (String × String)) := do
  let named ← (attributes.filter fun a => (declared? a).isNone).mapM fun (name, value) =>
    (attributeName? scope name).map (·, value)
  if (attributes.map (·.1)).Nodup ∧ (named.map (·.1)).Nodup then some named else none

end Scope

/-- An element whose closing tag is still to come. -/
structure OpenElement where
  /-- Its name as it is written. -/
  name : QName
  /-- Its expanded name. -/
  tag : String
  /-- Its attributes. -/
  attributes : List (String × String)
  /-- The namespaces in scope inside it. -/
  scope : Scope
  /-- What it contains so far, the last first. -/
  content : List Node

namespace OpenElement

/-- The element with one more node in it. -/
def add (element : OpenElement) (node : Node) : OpenElement :=
  { element with content := node :: element.content }

/-- The element, closed. -/
def close (element : OpenElement) : Node :=
  .element element.tag element.attributes element.content.reverse

/-- The element that an opening tag starts. -/
def start? (outer : Scope) (name : QName) (attributes : List (QName × String)) :
    Option OpenElement := do
  let scope ← outer.within? attributes
  return {
    name, tag := ← scope.tag? name, attributes := ← scope.attributes? attributes, scope
    content := [] }

end OpenElement

namespace Node

/-- A node placed in the innermost open element, or at the top, where one element may stand. -/
def place? (node : Node) (enclosing : List OpenElement) (root : Option Node) :
    Option (List OpenElement × Option Node) :=
  match enclosing, root with
  | inner :: outer, root => some (inner.add node :: outer, root)
  | [], none => some ([], some node)
  | [], some _ => none

/-- The outermost element of a list of tokens, within the open elements `enclosing`. -/
def ofTokensAfter? (enclosing : List OpenElement) (root : Option Node) : List Token → Option Node
  | [] => if enclosing.isEmpty then root else none
  | .text value :: rest =>
    match enclosing with
    | inner :: outer =>
      ofTokensAfter? (inner.add (.text (String.ofList value)) :: outer) root rest
    | [] => if value.all isSpace then ofTokensAfter? [] root rest else none
  | .data value :: rest =>
    match enclosing with
    | inner :: outer =>
      ofTokensAfter? (inner.add (.text (String.ofList value)) :: outer) root rest
    | [] => none
  | .opening name attributes isEmpty :: rest => do
    let outer := match enclosing with
      | inner :: _ => inner.scope
      | [] => Scope.outermost
    let element ← OpenElement.start? outer name attributes
    if isEmpty then
      let (enclosing, root) ← place? element.close enclosing root
      ofTokensAfter? enclosing root rest
    else if enclosing.isEmpty && root.isSome then none
    else ofTokensAfter? (element :: enclosing) root rest
  | .closing name :: rest =>
    match enclosing with
    | inner :: outer => do
      if inner.name = name then
        let (enclosing, root) ← place? inner.close outer root
        ofTokensAfter? enclosing root rest
      else none
    | [] => none

/-- The outermost element of a document that is one element and nothing else. -/
def ofChars? (cs : List Char) : Option Node := do
  ofTokensAfter? [] none (← Token.ofChars? [] cs)

/-- The text before the first element of a list of nodes. -/
def leadingText : List Node → String
  | .text value :: rest => value ++ leadingText rest
  | _ => ""

/-- The short name of what a cross-reference refers to: what follows a kind and a colon, and in
it what follows the last dot. -/
def shortName (reference : String) : String :=
  Text.afterLast '.' (Text.afterFirst ':' reference)

mutual

/-- The text a node stands for when it is read aloud within an element: a cross-reference is its
short name, a reference to a parameter the parameter's name. -/
def spoken : Node → String
  | .text value => value
  | .element tag attributes content =>
    match (tag == "see" || tag == "seealso"), attributes.lookup "cref" with
    | true, some reference => shortName reference
    | _, _ =>
      if tag = "paramref" ∨ tag = "typeparamref" then (attributes.lookup "name").getD ""
      else spokenAll content

/-- The text of a list of nodes. -/
def spokenAll : List Node → String
  | [] => ""
  | node :: nodes => node.spoken ++ spokenAll nodes

end

mutual

/-- The elements of a node in document order, each with its expanded name and its content. -/
def elements : Node → List (String × List Node)
  | .text _ => []
  | .element tag _ content => (tag, content) :: elementsOf content

/-- The elements of a list of nodes in document order. -/
def elementsOf : List Node → List (String × List Node)
  | [] => []
  | node :: nodes => node.elements ++ elementsOf nodes

end

end Node

end ClientGen.Markup
