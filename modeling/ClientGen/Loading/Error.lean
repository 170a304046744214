import ClientGen.CSharp.Source
import ClientGen.FileTree.Error
import ClientGen.Markup.Encoding
import ClientGen.Schema.Checked
import ClientGen.Yaml.Cursor

/-!
# Loading errors

Why a solution cannot be loaded. A refusal has a message for the user. What a document is malformed
in and which of its contents is invalid is not part of the message; the place of that detail is
marked. Some faults of the input have no message of their own: they end the program.
-/

namespace ClientGen

/-- Why a solution is refused. -/
inductive LoadError where
  /-- The snapshot is no document. -/
  | malformedSnapshot
  /-- The snapshot is no mapping. -/
  | snapshotShape
  /-- The content of the snapshot is invalid. -/
  | invalidSnapshot (issues : List Schema.Issue)
  /-- The snapshot cannot be read. -/
  | unreadableSnapshot (path : String) (fault : FileFault)
  /-- The solution file cannot be read. -/
  | unreadableSolution (path : String) (fault : FileFault)
  /-- The solution file lists no C# project. -/
  | noProjects (path : String)
  /-- A source file cannot be read. -/
  | unreadableSource (path : String) (fault : FileFault)
  /-- A project file cannot be read. -/
  | unreadableProject (path : String) (fault : FileFault)
  /-- A project file is no XML document. -/
  | malformedProject (path : String)
  /-- A directory does not hold exactly one solution file. -/
  | notOneSolution (path : String) (found : Nat)
  /-- The path is none of a solution. -/
  | unsupported (path : String)
deriving Repr, DecidableEq

namespace LoadError

/-- What stands for a detail that is not part of a message. -/
def detailMark : String := "<detail>"

/-- The message of a refusal. -/
def message : LoadError → String
  | malformedSnapshot => "Invalid snapshot document: " ++ detailMark
  | snapshotShape => "Snapshot must be a mapping with a 'projects' list."
  | invalidSnapshot _ => "Invalid snapshot content: " ++ detailMark
  | unreadableSnapshot path fault => "Cannot read " ++ path ++ ": " ++ fault.message path
  | unreadableSolution path fault => "Cannot open solution " ++ path ++ ": " ++ fault.message path
  | noProjects path => "Solution " ++ path ++ " does not reference any C# project."
  | unreadableSource path fault => "Cannot read " ++ path ++ ": " ++ fault.message path
  | unreadableProject path fault => "Cannot read project " ++ path ++ ": " ++ fault.message path
  | malformedProject path => "Cannot read project " ++ path ++ ": " ++ detailMark
  | notOneSolution path found =>
    "Expected exactly one .sln file in " ++ path ++ ", found " ++ toString found ++ "."
  | unsupported path => "Unsupported solution format: " ++ path

end LoadError

/-- Why loading ends without a solution. -/
inductive LoadFault where
  /-- The solution is refused. -/
  | refused (e : LoadError)
  /-- The bytes of a text file are no text. -/
  | notUnicode
  /-- A source cannot be turned into a document. -/
  | source (fault : CSharp.SourceFault)
  /-- A project file is in an encoding that cannot be read. -/
  | projectEncoding (fault : Markup.DocumentFault)
  /-- A scalar of the snapshot has no value. -/
  | scalar (fault : Yaml.Fault)
  /-- A key of the snapshot is no text. -/
  | keyNotText
  /-- A path holds a NUL character. -/
  | nulCharacter
  /-- A path is too long to be looked at. -/
  | nameTooLong
deriving Repr, DecidableEq

/-- The fault of a file operation, when its refusal is an error with a message. -/
def FileError.toLoadFault (refusal : String → FileFault → LoadError) : FileError → LoadFault
  | .refused fault path => .refused (refusal path fault)
  | .nulCharacter => .nulCharacter

end ClientGen
