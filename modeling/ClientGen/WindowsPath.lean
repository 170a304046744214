import ClientGen.Path

/-!
# Paths as Windows writes them

The path of a file in a solution is written the Windows way: backslashes or slashes between the
parts, and at the start a drive letter, the name of a server with a share, or the mark of an
extended path. Read as a path here it has slashes only, no empty parts and no `.`.
-/

namespace ClientGen.WindowsPath

/-- The start of a path that names a drive or a share, whether a separator follows it, and what is
left. -/
structure Anchored where
  /-- The drive or share, empty if there is none. -/
  drive : List Char
  /-- Does the path start at the root of the drive? -/
  isRooted : Bool
  /-- The rest of the path. -/
  rest : List Char
deriving Repr, DecidableEq

/-- The mark of an extended path, if there is one, and the path after it. -/
def splitExtended : List Char → List Char × List Char
  | '\\' :: '\\' :: '?' :: '\\' :: 'U' :: 'N' :: 'C' :: '\\' :: rest =>
    (['\\', '\\', '?', '\\', 'U', 'N', 'C'], '\\' :: '\\' :: rest)
  | '\\' :: '\\' :: '?' :: '\\' :: rest => (['\\', '\\', '?', '\\'], rest)
  | cs => ([], cs)

/-- A server and a share between separators, and what is left after the share. -/
def share? (cs : List Char) : Option (List Char × List Char) :=
  match cs with
  | '\\' :: '\\' :: rest =>
    let server := rest.takeWhile (· != '\\')
    match rest.dropWhile (· != '\\') with
    | _ :: after =>
      let share := after.takeWhile (· != '\\')
      if server.isEmpty ∨ (share.isEmpty ∧ !after.isEmpty) then none
      else some (server ++ '\\' :: share, (after.dropWhile (· != '\\')).drop 1)
    | [] => none
  | _ => none

/-- The drive letter that starts a path, and what is left. -/
def driveLetter : List Char → List Char × List Char
  | letter :: ':' :: rest =>
    if letter.isAlpha then ([letter, ':'], rest) else ([], letter :: ':' :: rest)
  | cs => ([], cs)

/-- The start of a path whose separators are backslashes. -/
def split (cs : List Char) : Anchored :=
  let (extended, path) := splitExtended cs
  match share? path with
  | some (share, rest) =>
    ⟨(if extended.isEmpty then ['\\', '\\'] else extended ++ ['\\']) ++ share, true, rest⟩
  | none =>
    let (drive, rest) := driveLetter path
    ⟨extended ++ drive, rest.head? = some '\\', rest.dropWhile (· == '\\')⟩

/-- The text of a path with slashes between its parts. -/
def posixText (s : String) : String :=
  let anchored := split (s.toList.map fun c => if c = '/' then '\\' else c)
  let parts := (Text.splitWhere (· == '\\') anchored.rest).filter fun part =>
    !part.isEmpty && part != ['.']
  let start := anchored.drive ++ if anchored.isRooted then ['\\'] else []
  let joined := start ++ ['\\'].intercalate parts
  if joined.isEmpty then "." else String.ofList (joined.map fun c => if c = '\\' then '/' else c)

end ClientGen.WindowsPath
