/-
Numbers, dates and truth values of TOML documents.

Each function reads a value at the start of a text and gives it with what
follows, or nothing if there is no such value. A number may have
underscores, each between two digits. An integer has to fit 64 bits with a
sign.
-/
import Obfuscator.Text.Digit
import Obfuscator.Toml.Value

namespace Obfuscator.Toml

open Text (digitsValue isDigitOf)

-- ============================================================ digits

/-- What follows an underscore that stands before a digit; otherwise the
text itself. -/
def skipUnderscore (base : Nat) : List Char → List Char
  | '_' :: d :: rest =>
    if isDigitOf base d then d :: rest else '_' :: d :: rest
  | s => s

theorem length_skipUnderscore_le (base : Nat) (s : List Char) :
    (skipUnderscore base s).length ≤ s.length := by
  unfold skipUnderscore
  split
  · split
    · exact Nat.le_succ _
    · exact Nat.le_refl _
  · exact Nat.le_refl _

/-- Digits of a base, underscores between them left out. -/
def readDigits (base : Nat) : List Char → List Char × List Char
  | [] => ([], [])
  | c :: rest =>
    if isDigitOf base c then
      let (digits, rest) := readDigits base (skipUnderscore base rest)
      (c :: digits, rest)
    else ([], c :: rest)
termination_by s => s.length
decreasing_by exact Nat.lt_succ_of_le (length_skipUnderscore_le base _)

/-- A sign, if there is one; whether it is a minus. -/
def readSign : List Char → Bool × List Char
  | '+' :: rest => (false, rest)
  | '-' :: rest => (true, rest)
  | s => (false, s)

-- ============================================================ numbers

/-- The digits of a decimal number without superfluous zeros in front. -/
def readWhole (s : List Char) : Option (List Char × List Char) :=
  match s with
  | '0' :: rest => some (['0'], rest)
  | _ =>
    match readDigits 10 s with
    | ([], _) => none
    | (digits, rest) => some (digits, rest)

/-- The integer with a given sign and size, if it fits. -/
def fitInteger (negative : Bool) (size : Nat) : Option Int :=
  let n : Int := if negative then -size else size
  if -(Int.pow 2 63) ≤ n ∧ n < Int.pow 2 63 then some n else none

/-- An integer: decimal with an optional sign, or in base 16, 8 or 2 without
one. -/
def readInteger (s : List Char) : Option (Int × List Char) :=
  match s with
  | '0' :: 'x' :: rest => readBase 16 rest
  | '0' :: 'o' :: rest => readBase 8 rest
  | '0' :: 'b' :: rest => readBase 2 rest
  | _ => do
    let (negative, rest) := readSign s
    let (digits, rest) ← readWhole rest
    let n ← fitInteger negative (digitsValue 10 digits)
    return (n, rest)
where
  readBase (base : Nat) (s : List Char) : Option (Int × List Char) :=
    match readDigits base s with
    | ([], _) => none
    | (digits, rest) =>
      (fitInteger false (digitsValue base digits)).map fun n => (n, rest)

/-- The exponent of a number, if there is one. -/
def readExponent (s : List Char) : Option (Int × List Char) :=
  match s with
  | e :: rest =>
    if e = 'e' ∨ e = 'E' then
      let (negative, rest) := readSign rest
      match readDigits 10 rest with
      | ([], _) => none
      | (digits, rest) =>
        let size : Int := digitsValue 10 digits
        some (if negative then -size else size, rest)
    else none
  | [] => none

/-- The digits after the point of a number, if there is one. -/
def readFraction (s : List Char) : Option (List Char × List Char) :=
  match s with
  | '.' :: rest =>
    match readDigits 10 rest with
    | ([], _) => none
    | (digits, rest) => some (digits, rest)
  | _ => none

/-- The number with given digits and exponent. One beyond the largest is
refused if it is positive, and infinite if it is negative. -/
def makeFloat (negative : Bool) (digits : List Char) (exponent : Int) :
    Option FloatValue :=
  match Decimal.nearest negative (digitsValue 10 digits) exponent with
  | some x => some (.finite x)
  | none => if negative then some (.infinite true) else none

/-- A number with a fraction, an exponent or both, or one that is not
finite. -/
def readFloat (s : List Char) : Option (FloatValue × List Char) :=
  let (negative, unsigned) := readSign s
  match unsigned with
  | 'i' :: 'n' :: 'f' :: rest => some (.infinite negative, rest)
  | 'n' :: 'a' :: 'n' :: rest => some (.nan, rest)
  | _ => do
    let (whole, rest) ← readWhole unsigned
    match readFraction rest with
    | some (fraction, rest) =>
      let (exponent, rest) := (readExponent rest).getD (0, rest)
      let x ← makeFloat negative (whole ++ fraction)
        (exponent - fraction.length)
      return (x, rest)
    | none =>
      let (exponent, rest) ← readExponent rest
      let x ← makeFloat negative whole exponent
      return (x, rest)

-- ============================================================ dates

/-- A number of exactly so many digits. -/
def readFixed (width : Nat) (s : List Char) : Option (Nat × List Char) :=
  let digits := s.take width
  if digits.length = width ∧ digits.all Char.isDigit then
    some (digitsValue 10 digits, s.drop width)
  else none

/-- A given character. -/
def readChar (c : Char) : List Char → Option (List Char)
  | [] => none
  | d :: rest => if c = d then some rest else none

/-- A number of two digits in a range. -/
def readPair (least most : Nat) (s : List Char) :
    Option (Nat × List Char) := do
  let (n, rest) ← readFixed 2 s
  if least ≤ n ∧ n ≤ most then some (n, rest) else none

/-- A date; what follows it. -/
def readDate (s : List Char) : Option (List Char) := do
  let (year, s) ← readFixed 4 s
  let s ← readChar '-' s
  let (month, s) ← readPair 1 12 s
  let s ← readChar '-' s
  let (_, s) ← readPair 1 (daysIn year month) s
  return s
where
  daysIn (year month : Nat) : Nat :=
    if month = 2 then
      if year % 4 = 0 ∧ (year % 100 ≠ 0 ∨ year % 400 = 0) then 29 else 28
    else if month = 4 ∨ month = 6 ∨ month = 9 ∨ month = 11 then 30
    else 31

/-- A time of day, to the second or finer; what follows it. -/
def readTime (s : List Char) : Option (List Char) := do
  let (_, s) ← readPair 0 23 s
  let s ← readChar ':' s
  let (_, s) ← readPair 0 59 s
  let s ← readChar ':' s
  let (_, s) ← readPair 0 60 s
  match s with
  | '.' :: rest =>
    if (rest.takeWhile Char.isDigit).isEmpty then none
    else some (rest.dropWhile Char.isDigit)
  | _ => some s

/-- The distance of a time from universal time; what follows it. -/
def readOffset (s : List Char) : Option (List Char) :=
  match s with
  | [] => none
  | c :: rest =>
    if c = 'Z' ∨ c = 'z' then some rest
    else if c = '+' ∨ c = '-' then do
      let (_, s) ← readPair 0 23 rest
      let s ← readChar ':' s
      let (_, s) ← readPair 0 59 s
      return s
    else none

/-- A date, a time, or a date and a time with or without its distance from
universal time; what follows it. -/
def readDatetime (s : List Char) : Option (List Char) :=
  match readDate s with
  | none => readTime s
  | some rest =>
    match rest with
    | c :: more =>
      if c = 'T' ∨ c = 't' ∨ c = ' ' then
        match readTime more with
        | none => some rest
        | some rest => some ((readOffset rest).getD rest)
      else some rest
    | [] => some []

/-- A number, a date or a time. -/
def readNumeric (s : List Char) : Option (Value × List Char) :=
  match readDatetime s with
  | some rest => some (.datetime, rest)
  | none =>
    match readFloat s with
    | some (x, rest) => some (.float x, rest)
    | none => (readInteger s).map fun (n, rest) => (.integer n, rest)

end Obfuscator.Toml
