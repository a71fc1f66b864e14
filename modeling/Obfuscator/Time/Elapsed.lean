/-
Lengths of time, and their text.

A length of time is shown in the largest of four units in which it is at
least one, with as many digits after the point as it needs.
-/
import Obfuscator.Time

namespace Obfuscator

/-- A length of time, to the nanosecond. -/
structure Duration where
  nanoseconds : Nat
  deriving DecidableEq, Repr

namespace Duration

/-- No time at all. -/
def zero : Duration := ⟨0⟩

/-- A length of so many milliseconds. -/
def ofMilliseconds (n : Nat) : Duration := ⟨n * 1000000⟩

/-- The whole milliseconds in a length of time. -/
def milliseconds (d : Duration) : Nat := d.nanoseconds / 1000000

/-- A number that stands for a length of time counts milliseconds. -/
instance : Coe Nat Duration := ⟨ofMilliseconds⟩

instance : CoeOut Duration Nat := ⟨milliseconds⟩

end Duration

namespace Instant

/-- The nanoseconds since the start of 1970. -/
def totalNanos (t : Instant) : Int := t.seconds * 1000000000 + t.nanos

/-- The time from one instant to a later one. -/
def elapsedUntil (start stop : Instant) : Duration :=
  ⟨(stop.totalNanos - start.totalNanos).toNat⟩

/-- The whole milliseconds from one instant to a later one. -/
def millisecondsUntil (start stop : Instant) : Nat :=
  (start.elapsedUntil stop).milliseconds

/-- The instant a length of time later. -/
def after (t : Instant) (d : Duration) : Instant :=
  let nanos := t.nanos + d.nanoseconds
  ⟨t.seconds + (nanos / 1000000000 : Nat), nanos % 1000000000⟩

end Instant

/-- A number of units, each of `Nat.pow 10 places` parts, with its fraction. -/
def renderUnits (places parts : Nat) (unit : String) : String :=
  let fraction := (padDecimal places (parts % Nat.pow 10 places)).toList
  let kept := (fraction.reverse.dropWhile (· = '0')).reverse
  let tail :=
    if parts % Nat.pow 10 places = 0 then "" else "." ++ String.ofList kept
  toString (parts / Nat.pow 10 places) ++ tail ++ unit

/-- A length of time, as a text. -/
def Duration.render (d : Duration) : String :=
  if 1000000000 ≤ d.nanoseconds then renderUnits 9 d.nanoseconds "s"
  else if 1000000 ≤ d.nanoseconds then renderUnits 6 d.nanoseconds "ms"
  else if 1000 ≤ d.nanoseconds then renderUnits 3 d.nanoseconds "µs"
  else toString d.nanoseconds ++ "ns"

end Obfuscator
