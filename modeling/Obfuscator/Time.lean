/-
Instants in universal time, and their text.

An instant is a count of whole seconds since the start of 1970, as if no
leap second had ever been, and a count of nanoseconds. A leap second is told
by nanoseconds of 10^9 or more. The text is that of RFC 3339: the fraction
has as many digits as it needs of 0, 3, 6 and 9, the year has at least four
digits, and a sign where it lies outside 0 to 9999.
-/
import Obfuscator.Text.Digit

namespace Obfuscator

/-- A date of the Gregorian calendar, carried on before its introduction. -/
structure Date where
  year : Int
  month : Nat
  day : Nat
  deriving DecidableEq, Repr

/-- An instant in universal time. -/
structure Instant where
  seconds : Int
  nanos : Nat
  deriving DecidableEq, Repr

-- ============================================================ calendar

namespace Date

/-- Whether a year has a 29th of February. -/
def isLeapYear (year : Int) : Bool :=
  year % 4 = 0 && (year % 100 ≠ 0 || year % 400 = 0)

/-- The number of days of a month. -/
def daysInMonth (year : Int) (month : Nat) : Nat :=
  if month = 2 then (if isLeapYear year then 29 else 28)
  else if month = 4 ∨ month = 6 ∨ month = 9 ∨ month = 11 then 30
  else 31

/-- The number of days from the start of 1970 to a date. Years are counted
from March, so that the leap day comes last, and in eras of 400 years, which
have 146097 days each. -/
def dayNumber (d : Date) : Int :=
  let year := if d.month ≤ 2 then d.year - 1 else d.year
  let era := year / 400
  let yearOfEra := year % 400
  let monthFromMarch := (d.month + 9) % 12
  let dayOfYear : Int := ((153 * monthFromMarch + 2) / 5 + d.day - 1 : Nat)
  let dayOfEra := yearOfEra * 365 + yearOfEra / 4 - yearOfEra / 100 + dayOfYear
  era * 146097 + dayOfEra - 719468

/-- The date so many days after the start of 1970. -/
def ofDayNumber (n : Int) : Date :=
  let shifted := n + 719468
  let era := shifted / 146097
  let dayOfEra := (shifted % 146097).toNat
  let yearOfEra :=
    (dayOfEra - dayOfEra / 1460 + dayOfEra / 36524 - dayOfEra / 146096) / 365
  let dayOfYear :=
    dayOfEra - (365 * yearOfEra + yearOfEra / 4 - yearOfEra / 100)
  let monthFromMarch := (5 * dayOfYear + 2) / 153
  let day := dayOfYear - (153 * monthFromMarch + 2) / 5 + 1
  let month :=
    if monthFromMarch < 10 then monthFromMarch + 3 else monthFromMarch - 9
  let year := era * 400 + yearOfEra
  ⟨if month ≤ 2 then year + 1 else year, month, day⟩

end Date

-- ============================================================ writing

/-- A number in decimal, filled up with zeros on the left to at least
`width` digits. -/
def padDecimal (width n : Nat) : String :=
  let digits := (toString n).toList
  String.ofList (List.replicate (width - digits.length) '0' ++ digits)

namespace Instant

/-- The fraction of a second, with its point, in 0, 3, 6 or 9 digits. -/
def renderFraction (nanos : Nat) : String :=
  if nanos = 0 then ""
  else if nanos % 1000000 = 0 then "." ++ padDecimal 3 (nanos / 1000000)
  else if nanos % 1000 = 0 then "." ++ padDecimal 6 (nanos / 1000)
  else "." ++ padDecimal 9 nanos

/-- A year, with a sign outside 0 to 9999. -/
def renderYear (year : Int) : String :=
  if 0 ≤ year ∧ year ≤ 9999 then padDecimal 4 year.toNat
  else (if year < 0 then "-" else "+") ++ padDecimal 4 year.natAbs

/-- The text of an instant, such as 2024-03-01T12:30:45Z. -/
def render (t : Instant) : String :=
  let date := Date.ofDayNumber (t.seconds / 86400)
  let secondOfDay := (t.seconds % 86400).toNat
  let leap := t.nanos / 1000000000
  renderYear date.year ++ "-" ++ padDecimal 2 date.month
    ++ "-" ++ padDecimal 2 date.day
    ++ "T" ++ padDecimal 2 (secondOfDay / 3600)
    ++ ":" ++ padDecimal 2 (secondOfDay / 60 % 60)
    ++ ":" ++ padDecimal 2 (secondOfDay % 60 + leap)
    ++ renderFraction (t.nanos % 1000000000) ++ "Z"

end Instant

-- ============================================================ reading

namespace Instant

/-- The number that a text of digits spells, if it has as many as are asked
for. -/
def readNumber? (width : Nat) (s : List Char) : Option (Nat × List Char) :=
  let digits := s.take width
  if digits.length = width ∧ digits.all Char.isDigit then
    some (Text.digitsValue 10 digits, s.drop width)
  else none

/-- A fraction of a second in nanoseconds; digits after the ninth do not
count. -/
def readFraction? (s : List Char) : Option (Nat × List Char) :=
  match s with
  | '.' :: rest =>
    let digits := rest.takeWhile Char.isDigit
    if digits.isEmpty then none
    else
      let kept := digits.take 9
      let value := Text.digitsValue 10 kept
      some (value * Nat.pow 10 (9 - kept.length), rest.dropWhile Char.isDigit)
  | _ => some (0, s)

/-- The distance from universal time in seconds. -/
def readOffset? (s : List Char) : Option (Int × List Char) :=
  match s with
  | 'Z' :: rest => some (0, rest)
  | 'z' :: rest => some (0, rest)
  | sign :: rest =>
    if sign = '+' ∨ sign = '-' then do
      let (hours, rest) ← readNumber? 2 rest
      let (minutes, rest) ←
        match rest with
        | ':' :: rest => readNumber? 2 rest
        | _ => none
      if hours < 24 ∧ minutes < 60 then
        let seconds : Int := hours * 3600 + minutes * 60
        some (if sign = '-' then -seconds else seconds, rest)
      else none
    else none
  | [] => none

/-- A year: four digits, or a sign and more of them. -/
def readYear? (s : List Char) : Option (Int × List Char) :=
  match s with
  | '+' :: rest => readLong 1 rest
  | '-' :: rest => readLong (-1) rest
  | _ => (readNumber? 4 s).map fun (y, rest) => ((y : Int), rest)
where
  readLong (sign : Int) (s : List Char) : Option (Int × List Char) :=
    let digits := s.takeWhile Char.isDigit
    if 4 ≤ digits.length then
      let year : Int := Text.digitsValue 10 digits
      some (sign * year, s.dropWhile Char.isDigit)
    else none

/-- The instant that a text of RFC 3339 names, in whatever zone it is given. -/
def parse? (text : String) : Option Instant := do
  let (year, s) ← readYear? text.toList
  let s ← skip? '-' s
  let (month, s) ← readNumber? 2 s
  let s ← skip? '-' s
  let (day, s) ← readNumber? 2 s
  let s ←
    match s with
    | 'T' :: rest => some rest
    | 't' :: rest => some rest
    | ' ' :: rest => some rest
    | _ => none
  let (hour, s) ← readNumber? 2 s
  let s ← skip? ':' s
  let (minute, s) ← readNumber? 2 s
  let s ← skip? ':' s
  let (second, s) ← readNumber? 2 s
  let (nanos, s) ← readFraction? s
  let (offset, s) ← readOffset? s
  if s.isEmpty ∧ 1 ≤ month ∧ month ≤ 12
      ∧ 1 ≤ day ∧ day ≤ Date.daysInMonth year month
      ∧ hour < 24 ∧ minute < 60 ∧ second ≤ 60 then
    let days := Date.dayNumber ⟨year, month, day⟩
    let leap := if second = 60 then 1 else 0
    let clock : Int := (hour * 3600 + minute * 60 + (second - leap) : Nat)
    some ⟨days * 86400 + clock - offset, nanos + leap * 1000000000⟩
  else none
where
  skip? (c : Char) : List Char → Option (List Char)
    | [] => none
    | d :: rest => if d = c then some rest else none

end Instant

end Obfuscator
