/-
Records for the log: what happened, where and with which particulars.

A record says nothing of the time at which it is written. A particular that
is a length of time is named by the moment it counts from, and measured when
the record is written.
-/
import Obfuscator.Log.Level

namespace Obfuscator.Log

/-- The moments from which a length of time is counted. -/
inductive Mark
  /-- The start of the run. -/
  | run
  /-- The end of the pause before the pass at work. -/
  | pass
  deriving DecidableEq, Repr

/-- A particular of a record. -/
inductive Value
  /-- A text, shown as it is. -/
  | plain (s : String)
  /-- A text, shown in quotes. -/
  | quoted (s : String)
  | number (n : Nat)
  /-- The time since a moment. -/
  | elapsed (since : Mark)
  deriving DecidableEq, Repr

/-- One entry of the log. -/
structure Record where
  level : Level
  /-- The part of the program that speaks. -/
  target : String
  message : String
  fields : List (String × Value) := []
  deriving DecidableEq, Repr

end Obfuscator.Log
