import ClientGen.Text.Basic
import ClientGen.Text.Quoted

/-!
# Usage of the command

The command takes three arguments and one option, which asks for help. A command line that cannot
be understood is answered with the usage of the command and with what is wrong.
-/

namespace ClientGen.CommandLine

/-- The name of the command. -/
def commandName : String := "spa-service-generator"

/-- The option that asks for help. -/
def helpOption : String := "--help"

/-- The arguments of the command, in their order. -/
inductive Argument where
  /-- Where the solution is. -/
  | solutionPath
  /-- The directory of the application. -/
  | applicationRoot
  /-- The product whose front ends are meant. -/
  | productName
deriving Repr, DecidableEq

namespace Argument

/-- All arguments. -/
def all : List Argument := [solutionPath, applicationRoot, productName]

/-- The name of an argument. -/
def name : Argument → String
  | solutionPath => "SOLUTION_PATH"
  | applicationRoot => "SPA_ROOT"
  | productName => "PROJECT_NAME"

end Argument

/-- The line that shows how the command is used. -/
def usageLine : String :=
  "Usage: " ++ " ".intercalate (commandName :: "[OPTIONS]" :: Argument.all.map (·.name)) ++ "\n"

/-- What the command answers when it is asked for help. -/
def helpText : String :=
  usageLine ++ "\n" ++
    "  Generate SPA service modules from the API controllers of a solution.\n\n" ++
    "  SOLUTION_PATH is a .sln file (or its directory) or a YAML/JSON solution\n" ++
    "  snapshot. SPA_ROOT is the root of the SPA; modules are written under\n" ++
    "  app/services. PROJECT_NAME is the assembly name prefix of the front-end\n" ++
    "  projects (for example \"Kinetix\").\n\n" ++
    "Options:\n" ++
    "  --help  Show this message and exit.\n"

/-- Why a command line is not understood. -/
inductive UsageError where
  /-- An argument is missing. -/
  | missingArgument (argument : Argument)
  /-- There are more arguments than the command takes. -/
  | extraArguments (values : List String)
  /-- There is no such option; another may have been meant. -/
  | unknownOption (option : String) (meant : Option String)
  /-- The option that asks for help has a value. -/
  | valueForHelp
  /-- Nothing stands where the solution should be. -/
  | noSuchPath (path : String)
  /-- The directory of the application is a file. -/
  | rootIsFile (path : String)
deriving Repr, DecidableEq

namespace UsageError

/-- The message about a value that does not suit its argument. -/
def unsuitable (argument : Argument) (reason : String) : String :=
  "Invalid value for '" ++ argument.name ++ "': " ++ reason

/-- What is wrong with a command line. -/
def message : UsageError → String
  | missingArgument argument => "Missing argument '" ++ argument.name ++ "'."
  | extraArguments values =>
    let noun := if values.length = 1 then "argument" else "arguments"
    "Got unexpected extra " ++ noun ++ " (" ++ " ".intercalate values ++ ")"
  | unknownOption option none => "No such option '" ++ option ++ "'."
  | unknownOption option (some meant) =>
    "No such option '" ++ option ++ "'. Did you mean '" ++ meant ++ "'?"
  | valueForHelp => "Option '" ++ helpOption ++ "' does not take a value."
  | noSuchPath path =>
    unsuitable .solutionPath ("Path " ++ Text.quoted path ++ " does not exist.")
  | rootIsFile path =>
    unsuitable .applicationRoot ("Directory " ++ Text.quoted path ++ " is a file.")

/-- The usage that stands before the message. A value for the option that asks for help is answered
without it. -/
def preamble : UsageError → String
  | valueForHelp => ""
  | _ => usageLine ++ "Try '" ++ commandName ++ " " ++ helpOption ++ "' for help.\n\n"

end UsageError

/-- The line that tells what went wrong. -/
def errorLine (message : String) : String :=
  "Error: " ++ message ++ "\n"

/-- The whole answer to a command line that is not understood. -/
def UsageError.report (e : UsageError) : String :=
  e.preamble ++ errorLine e.message

end ClientGen.CommandLine
