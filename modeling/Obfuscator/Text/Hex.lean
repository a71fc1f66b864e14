/-
Natural numbers in lower-case hexadecimal.
-/
namespace Obfuscator.Text

/-- The character of one hexadecimal digit. -/
def hexDigit (n : Nat) : Char :=
  if n < 10 then Char.ofNat (48 + n) else Char.ofNat (87 + n)

/-- The hexadecimal digits of a number, the last first; none for zero. -/
def hexReversed (n : Nat) : List Char :=
  if h : n = 0 then [] else hexDigit (n % 16) :: hexReversed (n / 16)
termination_by n
decreasing_by omega

/-- A number in hexadecimal, filled up with zeros on the left to at least
`width` digits. -/
def hexPadded (width n : Nat) : List Char :=
  let digits := (hexReversed n).reverse
  List.replicate (width - digits.length) '0' ++ digits

/-- A byte as two hexadecimal digits. -/
def hexByte (b : UInt8) : List Char :=
  [hexDigit (b.toNat / 16), hexDigit (b.toNat % 16)]

end Obfuscator.Text
