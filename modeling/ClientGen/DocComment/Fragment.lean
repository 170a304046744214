import ClientGen.Text.Basic
import ClientGen.Text.Blank
import ClientGen.Text.Letter

/-!
# Elements as they stand in a comment

A documentation comment is text in which elements stand side by side. An element begins with `<`
and a word; it closes itself at once, or it reaches to the first closing tag of its name, whatever
stands between. When no closing tag of that name follows, a shorter beginning of the word may be
the name. Nothing else is asked of an element, so one that is broken inside does not hide the ones
after it.
-/

namespace ClientGen.DocComment

/-- An element cut out of a comment. -/
structure Fragment where
  /-- Its name. -/
  tag : List Char
  /-- What stands between the name and the end of the opening tag. -/
  attributes : List Char
  /-- What stands between the tags, or `none` when there is one tag only. -/
  content : Option (List Char)
  /-- The text of the whole element. -/
  whole : List Char
deriving Repr, DecidableEq

namespace Fragment

/-- What is left after a closing tag at the start of a text. -/
def afterClosing? (tag cs : List Char) : Option (List Char) := do
  let rest ← Text.dropStart? ('<' :: '/' :: tag) cs
  match rest.dropWhile Text.isBlank with
  | '>' :: rest => return rest
  | _ => none

/-- What stands before the first closing tag of a name, and what is left after it. -/
def upToClosing? (tag : List Char) : List Char → Option (List Char × List Char)
  | [] => none
  | c :: rest =>
    match afterClosing? tag (c :: rest) with
    | some left => some ([], left)
    | none => (upToClosing? tag rest).map fun (content, left) => (c :: content, left)

/-- An element with a closing tag whose name is the first `length` characters of `word`, or fewer;
`middle` stands between the word and the end of the opening tag, and `rest` after it. The result
says what is left after the element. -/
def closed? (word middle rest : List Char) :
    (length : Nat) → Option (List Char × List Char × List Char × List Char)
  | 0 => none
  | length + 1 =>
    let tag := word.take (length + 1)
    match upToClosing? tag rest with
    | some (content, left) => some (tag, word.drop (length + 1) ++ middle, content, left)
    | none => closed? word middle rest length

/-- The element whose `<` was just passed, and what is left after it. -/
def read? (cs : List Char) : Option (Fragment × List Char) :=
  let word := cs.takeWhile Text.isWordChar
  let afterWord := cs.dropWhile Text.isWordChar
  let middle := afterWord.takeWhile fun c => c != '<' && c != '>'
  let whole := fun (left : List Char) => '<' :: cs.take (cs.length - left.length)
  match afterWord.dropWhile fun c => c != '<' && c != '>' with
  | '>' :: rest =>
    if word.isEmpty then none
    else if middle.getLast? = some '/' then
      some (⟨word, middle.dropLast, none, whole rest⟩, rest)
    else
      (closed? word middle rest word.length).map fun (tag, attributes, content, left) =>
        (⟨tag, attributes, some content, whole left⟩, left)
  | _ => none

/-- The elements of a comment. -/
def ofText : List Char → List Fragment
  | [] => []
  | c :: rest =>
    match if c = '<' then read? rest else none with
    | some (fragment, left) =>
      if left.length < rest.length then fragment :: ofText left else [fragment]
    | none => ofText rest
termination_by cs => cs.length

end Fragment

end ClientGen.DocComment
