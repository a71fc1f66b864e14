/-
How the log is kept, as command line and environment ask for it.

A level on the command line counts most, then the switch for more messages,
then the one for fewer, and then the environment; only what counts is looked
at, so that a malformed level that does not count is no error. Records are
written as JSON if the environment says exactly "true".
-/
import Obfuscator.Log.Level
import Obfuscator.World.Action

namespace Obfuscator.Log

open World (Action)

/-- How the log is kept. -/
structure Settings where
  /-- The least urgent level that is written. -/
  level : Level := .info
  /-- Whether each record is a JSON object. -/
  json : Bool := false
  /-- Whether a record names the part of the program that speaks. -/
  showTarget : Bool := true
  deriving DecidableEq, Repr

namespace Settings

/-- Whether the environment asks for JSON. -/
def jsonFromEnvironment : Action Bool :=
  .environment "POLYMORPH_LOG_JSON" fun value => .done (value = some "true")

/-- The level that the environment names, or the standard one. -/
def levelFromEnvironment : Action (Except UnknownLevel Level) := do
  match ← Action.setting? "POLYMORPH_LOG_LEVEL" with
  | some text => return Level.parse text
  | none => return .ok .info

/-- Settings with a given level; the environment tells the rest. -/
def withLevel (level : Except UnknownLevel Level) :
    Action (Except UnknownLevel Settings) := do
  match level with
  | .error e => return .error e
  | .ok level => return .ok { level, json := ← jsonFromEnvironment }

/-- The settings that the environment asks for. -/
def ofEnvironment : Action (Except UnknownLevel Settings) := do
  withLevel (← levelFromEnvironment)

/-- The settings that a command line asks for: a level, more messages or
fewer. -/
def ofCommandLine (asked : Option String) (verbose quiet : Bool) :
    Action (Except UnknownLevel Settings) :=
  match asked with
  | some text => withLevel (Level.parse text)
  | none =>
    if verbose then withLevel (.ok .debug)
    else if quiet then withLevel (.ok .error)
    else ofEnvironment

end Settings

end Obfuscator.Log
