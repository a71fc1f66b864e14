/-
The pauses of a run.

Before a pass does its work the run pauses, so that someone watching can
follow. The pauses can be switched off as a whole, and each can be given
another length. Lengths that are given while the pauses are off count once
they are on again.
-/
import Obfuscator.Pass.Kind

namespace Obfuscator

/-- How long a run pauses before each pass. -/
structure Pacing where
  enabled : Bool := true
  /-- Lengths that were asked for, the latest first. -/
  overrides : List (PassKind × Duration) := []
  deriving DecidableEq, Repr

namespace Pacing

/-- The pauses each pass has by itself. -/
def standard : Pacing := {}

/-- No pauses at all. -/
def instant : Pacing where
  enabled := false

/-- Switches the pauses on or off. -/
def enable (p : Pacing) (on : Bool) : Pacing := { p with enabled := on }

/-- Asks for a pause of another length before one pass. -/
def withDelay (p : Pacing) (k : PassKind) (d : Duration) : Pacing :=
  { p with overrides := (k, d) :: p.overrides }

/-- The length asked for, or else the one the pass has by itself. -/
def configured (p : Pacing) (k : PassKind) : Duration :=
  ((p.overrides.find? fun o => decide (o.1 = k)).map (·.2)).getD
    k.standardDelay

/-- The pause before a pass. -/
def delay (p : Pacing) (k : PassKind) : Duration :=
  if p.enabled then p.configured k else .zero

end Pacing

end Obfuscator
