import ClientGen.Text.Lower
import ClientGen.Text.Basic

/-!
# Dash case

File and module names are the dash-cased names of the program: a dash goes before every ASCII
capital that starts a word, underscores become dashes, and the result is lower-cased. A capital
starts a word after a small letter or a digit, and also after a capital when a small letter
follows it, so the last capital of an acronym belongs to the next word (`APIKeys`, `api-keys`).
-/

namespace ClientGen

/-- An ASCII small letter. -/
def isAsciiLower (c : Char) : Bool :=
  'a' ≤ c && c ≤ 'z'

/-- An ASCII capital. -/
def isAsciiUpper (c : Char) : Bool :=
  'A' ≤ c && c ≤ 'Z'

/-- An ASCII digit. -/
def isAsciiDigit (c : Char) : Bool :=
  '0' ≤ c && c ≤ '9'

/-- Does a word start at `c`, between the characters `before` and `after`? -/
def startsWord (before : Char) (c : Char) (after : Option Char) : Bool :=
  isAsciiUpper c &&
    (isAsciiLower before || isAsciiDigit before ||
      (isAsciiUpper before && after.any isAsciiLower))

/-- The rest of a name after the character `before`, with a dash before every word. -/
def dashWordsAfter (before : Char) : List Char → List Char
  | [] => []
  | c :: rest =>
    if startsWord before c rest.head? then '-' :: c :: dashWordsAfter c rest
    else c :: dashWordsAfter c rest

/-- A name with a dash before every word but the first. -/
def dashWords : List Char → List Char
  | [] => []
  | c :: rest => c :: dashWordsAfter c rest

/-- A name in dash case: words parted by dashes, all in lower case. -/
def dashCase (name : String) : String :=
  Text.lower (Text.replaceChar '_' '-' (String.ofList (dashWords name.toList)))

end ClientGen
