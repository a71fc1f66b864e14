/-
What is told about a pass while it runs.

For every pass that is enabled one `started` is told, and then one event that
ends it.
-/
import Obfuscator.Log.Record

namespace Obfuscator

/-- Something told about the pass with a given id. -/
inductive Event
  | started (step label : String)
  | completed (step message : String)
  | failed (step reason : String)
  deriving DecidableEq, Repr

namespace Event

/-- The id of the pass an event is about. -/
def step : Event → String
  | started s _ => s
  | completed s _ => s
  | failed s _ => s

/-- Whether an event ends its pass. -/
def isTerminal : Event → Bool
  | started _ _ => false
  | completed _ _ => true
  | failed _ _ => true

/-- An event as a record of the log. -/
def record : Event → Log.Record
  | started s label =>
    { level := .info
      target := "polymorph::progress::logging"
      message := "Starting " ++ Text.lowercase label
      fields := [("step", .plain s)] }
  | completed s message =>
    { level := .info
      target := "polymorph::progress::logging"
      message
      fields := [("step", .plain s)] }
  | failed s reason =>
    { level := .warn
      target := "polymorph::progress::logging"
      message := "Step failed"
      fields := [("step", .plain s), ("reason", .plain reason)] }

end Event

end Obfuscator
