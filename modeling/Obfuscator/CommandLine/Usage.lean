/-
Why a command line is no request.

It may ask for help or for the version, it may ask for nothing, or it may be
misused. Each way of misuse has a message.
-/
import Obfuscator.CommandLine.Argument
import Obfuscator.Text.Lines

namespace Obfuscator.CommandLine

/-- What is wrong with a command line. -/
inductive Misuse
  | unknownArgument (word : String)
  /-- A word where no word is expected. -/
  | unexpectedWord (word : String)
  /-- The same argument twice. -/
  | repeated (name : String)
  /-- Two arguments that exclude each other. -/
  | conflict (name other : String)
  | missingValue (name : String)
  | invalidValue (name value : String)
  /-- A value for an argument that takes none. -/
  | unwantedValue (name value : String)
  | unknownCommand (word : String)
  | missingFile
  | missingCommand
  deriving DecidableEq, Repr

def Misuse.message : Misuse → String
  | unknownArgument word => "unexpected argument '" ++ word ++ "' found"
  | unexpectedWord word => "unexpected argument '" ++ word ++ "' found"
  | repeated name =>
    "the argument '" ++ name ++ "' cannot be used multiple times"
  | conflict name other =>
    "the argument '" ++ name ++ "' cannot be used with '" ++ other ++ "'"
  | missingValue name =>
    "a value is required for '" ++ name ++ "' but none was supplied"
  | invalidValue name value =>
    "invalid value '" ++ value ++ "' for '" ++ name ++ "'"
  | unwantedValue name value =>
    "unexpected value '" ++ value ++ "' for '" ++ name
      ++ "' found; no more were expected"
  | unknownCommand word => "unrecognized subcommand '" ++ word ++ "'"
  | missingFile =>
    "the following required arguments were not provided:\n  <FILE>"
  | missingCommand =>
    "'polymorph' requires a subcommand but one was not provided"

/-- Why there is nothing to run. -/
inductive Stop
  | help (topic : Scope)
  | version
  /-- The command line is empty. -/
  | nothingAsked
  | misuse (m : Misuse)
  deriving DecidableEq, Repr

-- =================================================================== texts

/-- The version of the program. -/
def versionText : String := "polymorph 0.3.0\n"

/-- The names of an argument in a help text. -/
def Argument.names (a : Argument) : String :=
  let value :=
    match a with
    | .flag _ => ""
    | .setting _ => " <VALUE>"
  (match a.short with
    | some c => "-" ++ String.singleton c ++ ", "
    | none => "    ") ++ "--" ++ a.long ++ value

/-- How a command is called. -/
def usageLine : Scope → String
  | .root => "Usage: polymorph [OPTIONS] <COMMAND>"
  | .obfuscate => "Usage: polymorph obfuscate [OPTIONS] <FILE>"
  | .languages => "Usage: polymorph languages [OPTIONS]"

/-- What a command is for. -/
def purpose : Scope → List String
  | .root =>
    ["Multi-pass source code obfuscator", "", usageLine .root, "", "Commands:",
      "  obfuscate  Obfuscate a source file",
      "  languages  List supported languages",
      "  help       Print this message or the help of a command"]
  | .obfuscate => ["Obfuscate a source file", "", usageLine .obfuscate]
  | .languages => ["List supported languages", "", usageLine .languages]

/-- The help on a command. -/
def helpText (topic : Scope) : String :=
  Text.block
    (purpose topic ++ ["", "Options:"] ++
      (Argument.known topic).map (fun a => "  " ++ a.names) ++ [""])

namespace Stop

/-- Whether it is an answer that was asked for. -/
def isAnswer : Stop → Bool
  | help _ => true
  | version => true
  | nothingAsked => false
  | misuse _ => false

/-- What is written. -/
def text : Stop → String
  | help topic => helpText topic
  | version => versionText
  | nothingAsked => helpText .root
  | misuse m =>
    "error: " ++ m.message ++ "\n\nFor more information, try '--help'.\n"

end Stop

end Obfuscator.CommandLine
