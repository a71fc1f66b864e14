/-
How the program ends, as the number that it leaves.
-/
namespace Obfuscator

/-- How the program ends. -/
inductive Exit
  | success
  /-- A file could not be read or written, or a run ended in a fault. -/
  | failure
  /-- What was asked for cannot be run at all. -/
  | refusal
  deriving DecidableEq, Repr

/-- The number for an end. -/
def Exit.code : Exit → Nat
  | success => 0
  | failure => 1
  | refusal => 2

end Obfuscator
