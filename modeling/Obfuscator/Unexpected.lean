/-
Values of the wrong kind, as messages name them.

Documents of two formats are checked for the kinds of their values: whatever is
found in the wrong place is named here in one way.
-/
import Obfuscator.Decimal.Shortest
import Obfuscator.Json.Basic
import Obfuscator.Text.Quoted

namespace Obfuscator

/-- A value found where another kind was expected. -/
inductive Unexpected
  | null
  | boolean (b : Bool)
  | integer (n : Int)
  /-- A number with a fraction, as it is written out. -/
  | float (text : String)
  | string (s : String)
  | sequence
  | map
  deriving DecidableEq, Repr

/-- A value as a message names it. -/
def Unexpected.describe : Unexpected → String
  | null => "null"
  | boolean b => "boolean `" ++ toString b ++ "`"
  | integer n => "integer `" ++ toString n ++ "`"
  | float text => "floating point `" ++ text ++ "`"
  | string s => "string " ++ Text.quoted s
  | sequence => "sequence"
  | map => "map"

-- ================================================ numbers of JSON documents

namespace Json

/-- Whether a number is written without fraction and exponent. -/
def isWholeLexeme (lexeme : List Char) : Bool :=
  match lexeme with
  | '-' :: rest => rest.all Char.isDigit
  | _ => lexeme.all Char.isDigit

/-- The value of a text of digits; other characters are passed over. -/
def decimalValue (s : List Char) : Nat :=
  (s.filter Char.isDigit).foldl (fun n c => 10 * n + (c.toNat - 48)) 0

/-- The whole number a lexeme spells. -/
def wholeValue (lexeme : List Char) : Int :=
  match lexeme with
  | '-' :: rest => -decimalValue rest
  | _ => decimalValue lexeme

/-- The floating-point number nearest to a lexeme. -/
def floatValue? (lexeme : List Char) : Option Decimal.Binary64 :=
  let isMark (c : Char) : Bool := c = 'e' || c = 'E'
  let base := lexeme.takeWhile fun c => !isMark c
  let exponent := (lexeme.dropWhile fun c => !isMark c).drop 1
  let fraction := (base.dropWhile fun c => c ≠ '.').drop 1
  Decimal.nearest (lexeme.head? = some '-') (decimalValue base)
    (wholeValue exponent - fraction.length)

/-- JSON numbers are written positionally from five zeros after the point up
to sixteen digits before it. -/
def positional (point : Int) : Bool := -5 < point && point ≤ 16

/-- A number as a message names it: one that is written whole and fits a
machine word, signed or unsigned, is an integer, but a negative zero is not.
-/
def describeNumber (lexeme : List Char) : Unexpected :=
  let n := wholeValue lexeme
  if isWholeLexeme lexeme ∧ lexeme ≠ ['-', '0'] ∧ -(Int.pow 2 63) ≤ n
    ∧ n < Int.pow 2 64 then
    .integer n
  else
    match floatValue? lexeme with
    | some x => .float (x.render positional)
    | none => .float (String.ofList lexeme)

/-- A JSON value as a message names it. -/
def unexpected : Json → Unexpected
  | .null => .null
  | .bool b => .boolean b
  | .number lexeme => describeNumber lexeme.toList
  | .string s => .string s
  | .array _ => .sequence
  | .object _ => .map

end Json

end Obfuscator
