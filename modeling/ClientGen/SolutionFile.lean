import ClientGen.Text.Blank
import ClientGen.Text.Lower
import ClientGen.WindowsPath

/-!
# Solution files

The C# projects that a solution file lists. An entry starts at the beginning of a line and gives the
kind of the project in braces, its name, and the path of its project file; other lines, and entries
of other kinds of files, are passed over. Names and paths may hold anything but quotes.
-/

namespace ClientGen.SolutionFile

/-- Text in quotes, which must not be empty, and what is left after it. -/
def quoted? : List Char → Option (List Char × List Char)
  | '"' :: rest =>
    let value := rest.takeWhile (· != '"')
    match rest.dropWhile (· != '"') with
    | _ :: left => if value.isEmpty then none else some (value, left)
    | [] => none
  | _ => none

/-- What is left after a character that white space may stand around. -/
def afterSign? (sign : Char) (cs : List Char) : Option (List Char) :=
  match cs.dropWhile Text.isBlank with
  | c :: rest => if c = sign then some (rest.dropWhile Text.isBlank) else none
  | [] => none

/-- The kind of a project in quotes and braces, passed over, and what is left. -/
def afterKind? (cs : List Char) : Option (List Char) := do
  let rest ← Text.dropStart? "Project(\"\x7b".toList cs
  let kind := rest.takeWhile (· != '\x7d')
  if kind.isEmpty then none
  else Text.dropStart? "\x7d\")".toList (rest.dropWhile (· != '\x7d'))

/-- The name and the path in the entry that starts a text, and what is left after them. -/
def entry? (cs : List Char) : Option (List Char × List Char × List Char) := do
  let rest ← afterSign? '=' (← afterKind? cs)
  let (name, rest) ← quoted? rest
  match rest with
  | ',' :: rest =>
    let (path, left) ← quoted? (rest.dropWhile Text.isBlank)
    return (name, path, left)
  | _ => none

/-- The names and paths of the entries; `atLineStart` says whether the text begins a line. -/
def entriesAfter (atLineStart : Bool) : List Char → List (List Char × List Char)
  | [] => []
  | c :: rest =>
    match if atLineStart then entry? (c :: rest) else none with
    | some (name, path, left) =>
      (name, path) :: if left.length ≤ rest.length then entriesAfter false left else []
    | none => entriesAfter (c == '\n') rest
termination_by cs => cs.length

/-- The ending of the path of a C# project file. -/
def projectEnding : String := ".csproj"

/-- The C# projects of a solution file: their names and the paths of their project files. -/
def projects (text : String) : List (String × String) :=
  ((entriesAfter true text.toList).map fun (name, path) =>
    (String.ofList name, String.ofList path)).filterMap fun (name, path) =>
      if Text.hasEnd projectEnding (Text.lower path) then some (name, WindowsPath.posixText path)
      else none

end ClientGen.SolutionFile
