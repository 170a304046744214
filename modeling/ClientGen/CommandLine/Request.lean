import ClientGen.CommandLine.Usage
import ClientGen.FileTree.Basic
import ClientGen.Loading.Error
import ClientGen.Text.Similarity

/-!
# Requests

What a command line asks for. Options may stand anywhere before a `--`, and one that is not known
is refused before anything else; help comes before the arguments. Then each argument is looked at
in turn: it has to be there and to suit what the files are, before the next one is looked at.
-/

namespace ClientGen.CommandLine

/-- The words of a command line, sorted. -/
structure Words where
  /-- Is help asked for? -/
  help : Bool := false
  /-- The words that are arguments, in order. -/
  arguments : List String := []
deriving Repr, DecidableEq

/-- Is a word an option? -/
def isOption (word : String) : Bool :=
  match word.toList with
  | '-' :: _ :: _ => true
  | _ => false

/-- The option meant by a long option that is not known, if it is clear. -/
def meantOption? (option : String) : Option String :=
  if Text.isClose helpOption option then some helpOption else none

/-- Refuse every option but the one that asks for help. A long option ends at the first `=`; the
message on any other names its first letter only. -/
def checkOption (word : String) : Except UsageError Unit :=
  let name := Text.beforeFirst '=' word
  if name = helpOption then
    if word = helpOption then .ok () else .error .valueForHelp
  else if Text.hasStart "--" word then .error (.unknownOption name (meantOption? name))
  else .error (.unknownOption (String.ofList (word.toList.take 2)) none)

/-- Sort the words of a command line. After `--` every word is an argument. -/
def Words.read : List String → Except UsageError Words
  | [] => .ok {}
  | word :: rest =>
    if word = "--" then .ok { arguments := rest }
    else if isOption word then do
      checkOption word
      return { ← Words.read rest with help := true }
    else do
      let words ← Words.read rest
      return { words with arguments := word :: words.arguments }

/-- A run of the generator that is asked for. -/
structure Request where
  /-- Where the solution is. -/
  solutionPath : Path
  /-- The directory of the application. -/
  applicationRoot : Path
  /-- The product whose front ends are meant. -/
  productName : String
deriving Repr, DecidableEq

/-- What a command line asks for. -/
inductive Command where
  /-- The help text. -/
  | help
  /-- A run of the generator. -/
  | generate (request : Request)
deriving Repr, DecidableEq

/-- Why a command line asks for nothing. -/
inductive Refusal where
  /-- It is not understood. -/
  | usage (e : UsageError)
  /-- It names a path that no file can have. -/
  | fault (f : LoadFault)
deriving Repr, DecidableEq

/-- What stands at the path that an argument gives. -/
def standing (tree : FileTree) (text : String) : Except Refusal (Option Node) :=
  if text.toList.contains '\x00' then .error (.fault .nulCharacter) else .ok (tree.standing? text)

/-- The path of a solution has to exist. -/
def checkSolutionPath (tree : FileTree) (text : String) : Except Refusal Path := do
  match ← standing tree text with
  | some _ => return Path.ofText text
  | none => throw (.usage (.noSuchPath text))

/-- The directory of an application need not exist, but it must not be a file. -/
def checkApplicationRoot (tree : FileTree) (text : String) : Except Refusal Path := do
  match ← standing tree text with
  | some (.file _) => throw (.usage (.rootIsFile text))
  | _ => return Path.ofText text

/-- The first of some arguments, with those after it. -/
def expect (argument : Argument) : List String → Except Refusal (String × List String)
  | [] => .error (.usage (.missingArgument argument))
  | value :: rest => .ok (value, rest)

/-- The request that some arguments make. -/
def Request.ofArguments (tree : FileTree) (arguments : List String) : Except Refusal Request := do
  let (solution, rest) ← expect .solutionPath arguments
  let solutionPath ← checkSolutionPath tree solution
  let (root, rest) ← expect .applicationRoot rest
  let applicationRoot ← checkApplicationRoot tree root
  let (productName, rest) ← expect .productName rest
  if rest.isEmpty then return { solutionPath, applicationRoot, productName }
  else throw (.usage (.extraArguments rest))

/-- What a command line asks for. -/
def Command.read (tree : FileTree) (line : List String) : Except Refusal Command := do
  let words ← (Words.read line).mapError .usage
  if words.help then return .help
  else return .generate (← Request.ofArguments tree words.arguments)

end ClientGen.CommandLine
