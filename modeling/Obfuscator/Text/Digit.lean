/-
Numbers spelled by digits of a base up to sixteen, in either case.
-/
namespace Obfuscator.Text

/-- The value of a digit in a base. -/
def digitValue? (base : Nat) (c : Char) : Option Nat :=
  let n :=
    if c.isDigit then c.toNat - 48
    else if 'a' ≤ c ∧ c ≤ 'f' then c.toNat - 87
    else if 'A' ≤ c ∧ c ≤ 'F' then c.toNat - 55
    else base
  if n < base then some n else none

/-- Whether a character is a digit of a base. -/
def isDigitOf (base : Nat) (c : Char) : Bool := (digitValue? base c).isSome

/-- The number that digits of a base spell; any other character counts as a
zero. -/
def digitsValue (base : Nat) (digits : List Char) : Nat :=
  digits.foldl (fun n c => n * base + (digitValue? base c).getD 0) 0

/-- The number that a text of digits spells, if it has at least one digit
and nothing else. -/
def spelled? (base : Nat) (s : List Char) : Option Nat :=
  if !s.isEmpty && s.all (isDigitOf base) then some (digitsValue base s)
  else none

end Obfuscator.Text
