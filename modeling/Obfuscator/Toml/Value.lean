/-
Values of TOML documents.

A table remembers how it came about, because that decides what may be added
to it later in the document. Entries keep the order in which they were
added.
-/
import Obfuscator.Unexpected

namespace Obfuscator.Toml

/-- A floating-point number. -/
inductive FloatValue
  | finite (x : Decimal.Binary64)
  | infinite (negative : Bool)
  | nan
  deriving DecidableEq, Repr

/-- How a table came about. -/
inductive Origin
  /-- By a header of its own. -/
  | header
  /-- As a part of the name in a deeper header. -/
  | implied
  /-- As a part of a dotted key. -/
  | dotted
  /-- Written between braces. -/
  | braces
  deriving DecidableEq, Repr

/-- A value of a document. -/
inductive Value
  | string (s : String)
  | integer (n : Int)
  | float (x : FloatValue)
  | boolean (b : Bool)
  /-- A date, a time, or both. -/
  | datetime
  | array (elements : List Value)
  | table (origin : Origin) (entries : List (String × Value))
  /-- Tables under one name, each with a header in double brackets. -/
  | tables (elements : List (List (String × Value)))

/-- The entries of a table, in the order in which they were added. -/
abbrev Entries := List (String × Value)

/-- A floating-point number as a message names it: without an exponent, and
with a point unless it is not finite. -/
def FloatValue.render : FloatValue → String
  | finite x => x.render fun _ => true
  | infinite negative => if negative then "-inf" else "inf"
  | nan => "NaN"

/-- A value as a message names it. A date or a time counts as a map. -/
def Value.unexpected : Value → Unexpected
  | string s => .string s
  | integer n => .integer n
  | float x => .float x.render
  | boolean b => .boolean b
  | datetime => .map
  | array _ => .sequence
  | table _ _ => .map
  | tables _ => .sequence

end Obfuscator.Toml
