import ClientGen.DocComment.Fragment
import ClientGen.Markup.Node
import ClientGen.Project

/-!
# Elements of documentation comments

What the elements of a documentation comment say. Each is read as markup on its own; a bare `&` is
allowed. An element that is not well-formed still counts: its attributes are picked out of the
opening tag, and its text is what is left when everything between angle brackets is taken away.
-/

namespace ClientGen.DocComment

/-- Does what follows an `&` make it a reference? -/
def isReference (cs : List Char) : Bool :=
  let name := match cs with
    | '#' :: rest => rest
    | cs => cs
  !(name.takeWhile Text.isWordChar).isEmpty &&
    (name.dropWhile Text.isWordChar).head? == some ';'

/-- A text in which every bare `&` is written as a reference. -/
def escapeBare : List Char → List Char
  | [] => []
  | c :: rest =>
    if c = '&' ∧ !isReference rest then ['&', 'a', 'm', 'p', ';'] ++ escapeBare rest
    else c :: escapeBare rest

/-- A text without the parts between angle brackets. -/
def withoutTags : List Char → List Char
  | [] => []
  | c :: rest =>
    if c = '<' ∧ (rest.dropWhile fun c => c != '<' && c != '>').head? = some '>' then
      withoutTags ((rest.dropWhile fun c => c != '<' && c != '>').drop 1)
    else c :: withoutTags rest
termination_by cs => cs.length
decreasing_by
  · have := (List.dropWhile_sublist (fun c => c != '<' && c != '>') (l := rest)).length_le
    simp only [List.length_cons, List.length_drop]
    omega
  · simp only [List.length_cons]; omega

/-- A text in which the references to `<`, `>` and `&` are resolved. -/
def resolveReferences : List Char → List Char
  | '&' :: 'l' :: 't' :: ';' :: rest => '<' :: resolveReferences rest
  | '&' :: 'g' :: 't' :: ';' :: rest => '>' :: resolveReferences rest
  | '&' :: 'a' :: 'm' :: 'p' :: ';' :: rest => '&' :: resolveReferences rest
  | c :: rest => c :: resolveReferences rest
  | [] => []

/-- The value in quotes after a name and an equals sign, and what is left. -/
def quotedValue? (cs : List Char) : Option (List Char × List Char) :=
  match cs.dropWhile Text.isBlank with
  | '=' :: rest =>
    match rest.dropWhile Text.isBlank with
    | quote :: rest =>
      if (quote = '"' ∨ quote = '\'') ∧ quote ∈ rest then
        some (rest.takeWhile (· != quote), (rest.dropWhile (· != quote)).drop 1)
      else none
    | [] => none
  | _ => none

/-- The attributes in the text of an opening tag: every word with a value in quotes. -/
def looseAttributes : List Char → List (String × String)
  | [] => []
  | c :: rest =>
    if Text.isWordChar c then
      let afterName := rest.dropWhile Text.isWordChar
      match quotedValue? afterName with
      | some (value, left) =>
        let named := (String.ofList (c :: rest.takeWhile Text.isWordChar), String.ofList value)
        if left.length ≤ rest.length then named :: looseAttributes left else [named]
      | none => looseAttributes afterName
    else looseAttributes rest
termination_by cs => cs.length
decreasing_by
  · simp only [List.length_cons]; omega
  · have := (List.dropWhile_sublist Text.isWordChar (l := rest)).length_le
    simp only [List.length_cons]
    omega
  · simp only [List.length_cons]; omega

/-- Attributes of which a later one takes the place of an earlier one of its name. -/
def lastWins (attributes : List (String × String)) : List (String × String) :=
  attributes.foldl (fun before (name, value) =>
    if before.any (·.1 == name) then
      before.map fun entry => if entry.1 = name then (name, value) else entry
    else before ++ [(name, value)]) []

/-- An element that is not well-formed. -/
def Fragment.loose (fragment : Fragment) : DocElement where
  tag := String.ofList fragment.tag
  attributes := lastWins (looseAttributes fragment.attributes)
  text := String.ofList (resolveReferences (withoutTags (fragment.content.getD [])))

/-- The element a fragment stands for. -/
def Fragment.toElement (fragment : Fragment) : DocElement :=
  match Markup.Node.ofChars? (escapeBare fragment.whole) with
  | some (.element tag attributes content) =>
    { tag, attributes, text := Markup.Node.spokenAll content }
  | _ => fragment.loose

/-- A line of a comment without its marker, three characters, and one space after it. -/
def lineText (line : String) : List Char :=
  match line.toList.drop 3 with
  | ' ' :: rest => rest
  | cs => cs

/-- The text of a comment, line by line. -/
def bodyOf (lines : List String) : List Char :=
  ['\n'].intercalate (lines.map lineText)

/-- The elements of a documentation comment with the given lines; `none` when there are no lines. -/
def elements? (lines : List String) : Option (List DocElement) :=
  if lines.isEmpty then none else some ((Fragment.ofText (bodyOf lines)).map Fragment.toElement)

end ClientGen.DocComment
