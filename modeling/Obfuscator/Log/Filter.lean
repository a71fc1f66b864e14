/-
Which records are written.

A filter is a list of directives. A directive sets the least urgent level
for the parts of the program whose names begin in a certain way, or for all
of them, and perhaps only for the records with a certain particular. Of the
directives that apply to a record one decides, as `Directive.overrides`
says, and of those that are for the same the last. A record to which none
applies is not written.
-/
import Obfuscator.Log.Directive

namespace Obfuscator.Log

/-- The directives in force, in the order in which they are given. -/
abbrev Filter := List Directive

/-- A part of a text that is no directive, and why. -/
structure RejectedPart where
  text : String
  reason : DirectiveError
  deriving DecidableEq, Repr

def RejectedPart.message (p : RejectedPart) : String :=
  "ignoring `" ++ p.text ++ "`: " ++ p.reason.message

namespace Filter

/-- The parts of a text between commas, empty ones left out. -/
def parts (text : String) : List String :=
  (text.splitOn ",").filter fun part => !part.isEmpty

/-- The filter that a text gives. Parts that are no directives count for
nothing; if nothing is left, only errors are written. -/
def parse (text : String) : Filter :=
  match (parts text).filterMap fun part => (Directive.parse part).toOption with
  | [] => [{ threshold := some .error }]
  | directives => directives

/-- The parts of a text that are no directives. -/
def rejected (text : String) : List RejectedPart :=
  (parts text).filterMap fun part =>
    match Directive.parse part with
    | .ok _ => none
    | .error reason => some ⟨part, reason⟩

/-- The filter for a level: everything from that level on from this program,
and warnings from anything else. -/
def standard (level : Level) : Filter :=
  [{ threshold := some .warn },
    { target := some "polymorph", threshold := some level }]

/-- The directive that decides about a record. -/
def deciding (f : Filter) (r : Record) : Option Directive :=
  f.foldl
    (fun best d =>
      if d.applies r && best.all (fun e => d.overrides e) then some d
      else best)
    none

/-- Whether a record is written. -/
def allows (f : Filter) (r : Record) : Bool :=
  match (f.deciding r).bind (·.threshold) with
  | some threshold => r.level.verbosity ≤ threshold.verbosity
  | none => false

end Filter

end Obfuscator.Log
