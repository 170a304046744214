import ClientGen.Text.Quoted

/-!
# File errors

Why a file operation is refused. The wording, with its number, is the system's own; a path that
holds a NUL character never reaches the system and is an error of another kind.
-/

namespace ClientGen

/-- Why the system refuses an operation on a path. -/
inductive FileFault where
  /-- A part of the path does not exist. -/
  | notFound
  /-- The path exists already. -/
  | exists
  /-- Something other than a directory stands where a directory is needed. -/
  | notDirectory
  /-- A directory stands where a file is needed. -/
  | isDirectory
  /-- A name or the whole path is too long. -/
  | nameTooLong
deriving Repr, DecidableEq, Inhabited

namespace FileFault

/-- The system's number and wording of a fault. -/
def wording : FileFault → String
  | notFound => "[Errno 2] No such file or directory"
  | «exists» => "[Errno 17] File exists"
  | notDirectory => "[Errno 20] Not a directory"
  | isDirectory => "[Errno 21] Is a directory"
  | nameTooLong => "[Errno 36] File name too long"

end FileFault

/-- Why an operation on a file fails. -/
inductive FileError where
  /-- The system refuses the operation on this path. -/
  | refused (fault : FileFault) (path : String)
  /-- The path holds a NUL character. -/
  | nulCharacter
deriving Repr, DecidableEq, Inhabited

/-- The message of a refusal names the path between quotes. -/
def FileFault.message (fault : FileFault) (path : String) : String :=
  fault.wording ++ ": " ++ Text.quoted path

end ClientGen
