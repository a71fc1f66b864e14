/-
The log of the program.

There is one log, and whoever asks for it first decides how it is kept;
until then nothing is written. The environment may replace the filter that
follows from the level.
-/
import Obfuscator.Log.Filter
import Obfuscator.Log.Line

namespace Obfuscator.Log

open World (Action)

/-- A log that is kept. -/
structure Logger where
  settings : Settings
  filter : Filter
  deriving DecidableEq, Repr

namespace Logger

/-- Says of parts of a filter that they count for nothing. -/
def complainOfParts : List RejectedPart → Action Unit
  | [] => return ()
  | part :: rest => do
    Action.complain part.message
    complainOfParts rest

/-- The filter that the environment gives, or else the one for a level. -/
def filterFor (level : Level) : Action Filter := do
  match ← Action.setting? "RUST_LOG" with
  | some text =>
    complainOfParts (Filter.rejected text)
    return Filter.parse text
  | none => return Filter.standard level

/-- Begins the log unless it has begun already. -/
def install (current : Option Logger) (s : Settings) : Action Logger :=
  match current with
  | some logger => return logger
  | none => do return { settings := s, filter := ← filterFor s.level }

/-- Begins the log as the environment asks for; a malformed level is
complained of, and the standard settings are taken instead. -/
def installFromEnvironment (current : Option Logger) : Action Logger := do
  match ← Settings.ofEnvironment with
  | .ok s => install current s
  | .error e =>
    Action.complain (e.message ++ "; defaulting to info")
    install current {}

/-- Writes a record, if it is to be written. -/
def write (logger : Logger) (marks : Marks) (r : Record) : Action Unit :=
  if logger.filter.allows r then
    .now fun now => Action.complain (r.line logger.settings marks now)
  else return ()

/-- Writes a record of something that takes no time. -/
def note (logger : Logger) (r : Record) : Action Unit :=
  logger.write ⟨⟨0, 0⟩, ⟨0, 0⟩⟩ r

end Logger

end Obfuscator.Log
