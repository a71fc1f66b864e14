/-
Texts that cannot stand in a YAML document as they are.

A text without quotes is read as a null, a truth value or a number if it
looks like one, and what is special to the format ends it or gives it
another meaning. A text is `ambiguous` in the first case; `Shape` gathers
what matters in the second.
-/
import Obfuscator.Decimal.Binary64
import Obfuscator.Text.Digit

namespace Obfuscator.Yaml

open Text (spelled?)

-- =========================================================== other kinds

/-- Whether a text reads as a null or a truth value. -/
def isWord (s : String) : Bool :=
  ["", "~", "null", "Null", "NULL", "true", "True", "TRUE", "false", "False",
    "FALSE"].contains s

/-- The number that a text spells in one of the bases that have a mark of
their own. -/
def marked? : List Char → Option Nat
  | '0' :: 'x' :: digits => spelled? 16 digits
  | '0' :: 'o' :: digits => spelled? 8 digits
  | '0' :: 'b' :: digits => spelled? 2 digits
  | _ => none

/-- Whether a text is a number in a base with a mark that fits 128 bits. -/
def isMarkedInteger (s : List Char) : Bool :=
  match s with
  | '-' :: rest => (marked? rest).any fun n => n ≤ Nat.pow 2 127
  | '+' :: rest => (marked? rest).any fun n => n < Nat.pow 2 128
  | _ => (marked? s).any fun n => n < Nat.pow 2 128

/-- The exponent of a decimal number; an empty text is no exponent. -/
def exponent? : List Char → Option Int
  | [] => some 0
  | e :: rest =>
    if e = 'e' ∨ e = 'E' then
      match rest with
      | '-' :: digits => (spelled? 10 digits).map fun n => -(n : Int)
      | '+' :: digits => (spelled? 10 digits).map fun n => (n : Int)
      | digits => (spelled? 10 digits).map fun n => (n : Int)
    else none

/-- Whether a text without a sign is a decimal number, with a point and an
exponent or without, that some floating-point number is near to. -/
def isUnsignedDecimal (s : List Char) : Bool :=
  let whole := s.takeWhile Char.isDigit
  let rest := s.dropWhile Char.isDigit
  let (fraction, rest) :=
    match rest with
    | '.' :: rest => (rest.takeWhile Char.isDigit, rest.dropWhile Char.isDigit)
    | _ => ([], rest)
  match spelled? 10 (whole ++ fraction), exponent? rest with
  | some digits, some e =>
    (Decimal.nearest false digits (e - fraction.length)).isSome
  | _, _ => false

/-- Whether a text is a decimal number, or a sign before one. -/
def isDecimal (s : List Char) : Bool :=
  match s with
  | '-' :: rest => isUnsignedDecimal rest
  | '+' :: rest => isUnsignedDecimal rest
  | _ => isUnsignedDecimal s

/-- Whether a text reads as a number that is not finite. -/
def isNotFinite (s : String) : Bool :=
  [".inf", ".Inf", ".INF", "+.inf", "+.Inf", "+.INF", "-.inf", "-.Inf",
    "-.INF", ".nan", ".NaN", ".NAN"].contains s

/-- Whether a text would be read as something else than a text. A whole
number with superfluous zeros in front is not quite a number, but counts as
one. -/
def ambiguous (s : String) : Bool :=
  isWord s || isMarkedInteger s.toList || isDecimal s.toList || isNotFinite s

-- ================================================== special characters

/-- Whether a character ends a line. -/
def isBreak (c : Char) : Bool :=
  c = '\n' || c = '\r' || c = '\x85' || c = '\u2028' || c = '\u2029'

/-- Whether a character may appear in a document outside of an escape. -/
def isPrintable (c : Char) : Bool :=
  c = '\n' || (' ' ≤ c && c ≤ '~') ||
    ('\u00a0' ≤ c && c ≠ '\ufeff' && c ≠ '\ufffe' && c ≠ '\uffff')

/-- Whether a character is a blank, ends a line or, as NUL, ends a text. -/
def isGap (c : Char) : Bool := c = ' ' || c = '\t' || isBreak c || c = '\x00'

/-- Whether a character at the start of a text has a meaning of its own
there; `next` tells whether a gap or the end of the text follows. -/
def isOpeningMark (c : Char) (next : Bool) : Bool :=
  ['#', ',', '[', ']', '{', '}', '&', '*', '!', '|', '>', '\'', '"', '%', '@',
    '\x60'].contains c ||
    (next && (c = '?' || c = ':' || c = '-'))

/-- Whether the end of a text or a gap is next. -/
def gapNext : List Char → Bool
  | [] => true
  | c :: _ => isGap c

/-- Whether a mark stands inside a text: a colon before a gap, or a number
sign after one. -/
def hasInnerMark : (afterGap : Bool) → List Char → Bool
  | _, [] => false
  | afterGap, c :: rest =>
    (c = ':' && gapNext rest) || (c = '#' && afterGap) || hasInnerMark
    (isGap c) rest

/-- Whether a text has a mark that keeps it from standing without quotes. -/
def hasMark (s : List Char) : Bool :=
  match s with
  | [] => false
  | c :: rest =>
    isOpeningMark c (gapNext rest) || hasInnerMark (isGap c) rest ||
      ['-', '-', '-'].isPrefixOf s || ['.', '.', '.'].isPrefixOf s

/-- Whether a character with one property stands right before one with
another. -/
def hasPair (p q : Char → Bool) : List Char → Bool
  | [] => false
  | [_] => false
  | c :: d :: rest => (p c && q d) || hasPair p q (d :: rest)

/-- What decides about the forms in which a text can be written. -/
structure Shape where
  /-- A mark of the format. -/
  mark : Bool
  /-- A blank or line end at either end of the text. -/
  loose : Bool
  /-- A blank at the end of the text. -/
  endsInSpace : Bool
  /-- A line end anywhere. -/
  broken : Bool
  /-- A blank right after a line end. -/
  spaceAfterBreak : Bool
  /-- A blank right before a line end. -/
  spaceBeforeBreak : Bool
  /-- A character that has to be escaped. -/
  hidden : Bool
  deriving DecidableEq, Repr

/-- The shape of a text. -/
def Shape.of (s : List Char) : Shape :=
  let isSpace (c : Char) : Bool := c = ' '
  let isEdge (c : Char) : Bool := isSpace c || isBreak c
  { mark := hasMark s
    loose := s.head?.any isEdge || s.getLast?.any isEdge
    endsInSpace := s.getLast?.any isSpace
    broken := s.any isBreak
    spaceAfterBreak := hasPair isBreak isSpace s
    spaceBeforeBreak := hasPair isSpace isBreak s
    hidden := s.any fun c => !isPrintable c }

namespace Shape

/-- Whether a text can stand without quotes. -/
def allowsPlain (s : Shape) : Bool :=
  !(s.mark || s.loose || s.broken || s.spaceAfterBreak || s.spaceBeforeBreak
    || s.hidden)

/-- Whether a text can stand in single quotes, where there are no escapes. -/
def allowsSingleQuotes (s : Shape) : Bool :=
  !(s.spaceAfterBreak || s.spaceBeforeBreak || s.hidden)

/-- Whether a text can stand as a block of lines. -/
def allowsBlock (s : Shape) : Bool :=
  !(s.endsInSpace || s.spaceBeforeBreak || s.hidden)

end Shape

end Obfuscator.Yaml
