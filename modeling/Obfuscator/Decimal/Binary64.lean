/-
The 64-bit binary floating-point number nearest to a decimal.

A finite number is a whole mantissa below 2^53 times a power of two whose
exponent is at least -1074; but for the smallest exponent the mantissa is at
least 2^52. A decimal halfway between two numbers goes to the one with the
even mantissa, and one beyond the largest number has none.
-/
namespace Obfuscator.Decimal

/-- A finite floating-point number: mantissa times two to the exponent, with
a sign. -/
structure Binary64 where
  negative : Bool
  mantissa : Nat
  exponent : Int
  deriving DecidableEq, Repr

/-- A quotient rounded to the nearest whole number, a half to the even one. -/
def roundDiv (num den : Nat) : Nat :=
  let q := num / den
  let r := num % den
  if 2 * r < den then q else if den < 2 * r then q + 1
  else if q % 2 = 0 then q else q + 1

/-- A quotient divided by a power of two, as a numerator and a denominator. -/
def scaleDown (num den : Nat) (exponent : Int) : Nat × Nat :=
  if 0 ≤ exponent then (num, den * Nat.pow 2 exponent.toNat)
  else (num * Nat.pow 2 (-exponent).toNat, den)

/-- The mantissa and exponent nearest to a positive quotient; `none` beyond
the largest. -/
def nearestQuotient (num den : Nat) : Option (Nat × Int) :=
  let guess : Int := (num.log2 : Int) - den.log2 - 53
  let exponent :=
    let (a, b) := scaleDown num den guess
    max (if Nat.pow 2 53 ≤ a / b then guess + 1 else guess) (-1074)
  let (a, b) := scaleDown num den exponent
  let mantissa := roundDiv a b
  let (mantissa, exponent) :=
    if mantissa = Nat.pow 2 53 then (Nat.pow 2 52, exponent + 1)
    else (mantissa, exponent)
  if 971 < exponent then none else some (mantissa, exponent)

/-- The number nearest to `digits` times ten to the `power`; `none` beyond
the largest. -/
def nearest (negative : Bool) (digits : Nat) (power : Int) : Option Binary64 :=
  let magnitude : Int := (toString digits).length + power
  if digits = 0 ∨ magnitude < -330 then some ⟨negative, 0, -1074⟩
  else if 320 < magnitude then none
  else
    let (num, den) :=
      if 0 ≤ power then (digits * Nat.pow 10 power.toNat, 1)
      else (digits, Nat.pow 10 (-power).toNat)
    (nearestQuotient num den).map fun (m, e) => ⟨negative, m, e⟩

end Obfuscator.Decimal
