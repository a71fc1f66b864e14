/-
The shortest decimal that reads back as a given floating-point number.

The decimals that read back as a number form an interval around it, half the
gap to the next number wide on either side; its ends belong to it if the
mantissa is even. Of the grids of multiples of a power of ten the coarsest
one that has a point in the interval fixes the number of digits, and of its
points the nearest one to the number is taken.
-/
import Obfuscator.Decimal.Binary64

namespace Obfuscator.Decimal

/-- A decimal: digits times ten to the power. -/
structure Digits where
  digits : Nat
  power : Int
  deriving DecidableEq, Repr

/-- The number and the ends of its interval over one denominator, all times
four. -/
structure Interval where
  low : Nat
  value : Nat
  high : Nat
  den : Nat
  closed : Bool

/-- The interval of the decimals that read back as a positive number. -/
def Binary64.interval (x : Binary64) : Interval :=
  let below := if x.mantissa = Nat.pow 2 52 ∧ -1074 < x.exponent then 1 else 2
  let scale := Nat.pow 2 x.exponent.toNat
  { low := (4 * x.mantissa - below) * scale
    value := 4 * x.mantissa * scale
    high := (4 * x.mantissa + 2) * scale
    den := 4 * Nat.pow 2 (-x.exponent).toNat
    closed := x.mantissa % 2 = 0 }

/-- Whether a quotient lies in an interval. -/
def Interval.holds (i : Interval) (num den : Nat) : Bool :=
  let n := num * i.den
  let low := i.low * den
  let high := i.high * den
  if i.closed then low ≤ n && n ≤ high else low < n && n < high

/-- The point in the interval nearest to its number among the multiples of
ten to a power. -/
def Interval.gridPoint? (i : Interval) (power : Int) : Option Nat :=
  let up := Nat.pow 10 power.toNat
  let down := Nat.pow 10 (-power).toNat
  let n := i.value * down / (i.den * up)
  let below := i.holds (n * up) down
  let above := i.holds ((n + 1) * up) down
  let twice := 2 * (i.value * down - n * (i.den * up))
  if below && above then some (if twice ≤ i.den * up then n else n + 1)
  else if below then some n
  else if above then some (n + 1)
  else none

/-- Looks for a grid with a point in the interval, from a coarse one on. -/
def Interval.search (i : Interval) : (fuel : Nat) → (power : Int) → Digits
  | 0, power => ⟨0, power⟩
  | fuel + 1, power =>
    match i.gridPoint? power with
    | some n => if n = 0 then i.search fuel (power - 1) else ⟨n, power⟩
    | none => i.search fuel (power - 1)

/-- The shortest decimal that reads back as the size of a number. -/
def Binary64.shortest (x : Binary64) : Digits :=
  if x.mantissa = 0 then ⟨0, 0⟩
  else
    let top : Int := (x.mantissa.log2 + 1 + x.exponent) * 30103 / 100000 + 1
    x.interval.search 25 top

-- =============================================================== layout

/-- A decimal as text. `positional` tells, by the number of digits before
the point, where it is written without an exponent; it then has a point and
at least one digit after it. -/
def Digits.render (positional : Int → Bool) (d : Digits) : String :=
  let text := toString d.digits
  let point : Int := text.length + d.power
  let zeros (n : Int) := String.ofList (List.replicate n.toNat '0')
  if positional point then
    if 0 ≤ d.power then text ++ zeros d.power ++ ".0"
    else if 0 < point then
      String.ofList (text.toList.take point.toNat) ++ "." ++
        String.ofList (text.toList.drop point.toNat)
    else "0." ++ zeros (-point) ++ text
  else
    let head := String.ofList (text.toList.take 1)
    let tail := String.ofList (text.toList.drop 1)
    head ++ (if tail.isEmpty then "" else "." ++ tail) ++
      (if point - 1 < 0 then "e-" else "e+") ++ toString (point - 1).natAbs

/-- A number as text, with the sign of zero kept. -/
def Binary64.render (positional : Int → Bool) (x : Binary64) : String :=
  (if x.negative then "-" else "") ++ x.shortest.render positional

end Obfuscator.Decimal
