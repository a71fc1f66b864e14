/-
Levels of log records, from the least to the most urgent.

A level is named in any mixture of capitals and small letters. "warning" names
the same level as "warn".
-/
import Obfuscator.Text.Lowercase

namespace Obfuscator.Log

/-- How urgent a record is. -/
inductive Level
  | trace
  | debug
  | info
  | warn
  | error
  deriving DecidableEq, Repr

namespace Level

/-- The urgency of a level as a number; a more urgent level has a smaller
one. -/
def verbosity : Level → Nat
  | error => 1
  | warn => 2
  | info => 3
  | debug => 4
  | trace => 5

/-- The name of a level as records show it. -/
def name : Level → String
  | trace => "TRACE"
  | debug => "DEBUG"
  | info => "INFO"
  | warn => "WARN"
  | error => "ERROR"

/-- The level that a text in lower case names. -/
def ofLowercase? (s : String) : Option Level :=
  if s = "trace" then some trace
  else if s = "debug" then some debug
  else if s = "info" then some info
  else if s = "warn" ∨ s = "warning" then some warn
  else if s = "error" then some error
  else none

end Level

/-- A text that names no level. -/
structure UnknownLevel where
  text : String
  deriving DecidableEq, Repr

def UnknownLevel.message (e : UnknownLevel) : String :=
  "Invalid log level '" ++ e.text
    ++ "'. Valid levels: trace, debug, info, warn, error"

/-- The level that a text names, whatever its case. -/
def Level.parse (s : String) : Except UnknownLevel Level :=
  match Level.ofLowercase? (Text.lowercase s) with
  | some level => .ok level
  | none => .error ⟨s⟩

end Obfuscator.Log
