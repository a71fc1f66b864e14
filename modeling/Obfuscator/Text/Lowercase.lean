/-
Lower-casing by the full Unicode rules.

Nearly every character is lower-cased by itself. Two are not: the capital I
with a dot becomes two characters, and a capital sigma becomes the final
small sigma where it ends a word, that is where the nearest character before
it that is not case-ignorable has case and the nearest one after it has
none.
-/
import Obfuscator.Text.CaseTable

namespace Obfuscator.Text

/-- The small form of one capital of a run; `none` for a character outside
it. -/
def LowerRun.lower? (run : LowerRun) (c : Char) : Option Char :=
  if run.first ≤ c.toNat ∧ c.toNat ≤ run.last
      ∧ (c.toNat - run.first) % run.stride = 0 then
    some (Char.ofNat (run.target + (c.toNat - run.first)))
  else none

/-- The small form of a character wherever it stands. -/
def lowerChar (c : Char) : List Char :=
  if c.toNat < 0x80 then [c.toLower]
  else if c = '\u0130' then ['i', '\u0307']
  else [(lowerTable.findSome? fun run => run.lower? c).getD c]

/-- Whether the first character that is not case-ignorable has case. -/
def casedAhead (s : List Char) : Bool :=
  match s.dropWhile caseIgnorableTable.holds with
  | [] => false
  | c :: _ => casedTable.holds c

/-- Lower-cases a text; `before` holds what was read already, nearest first. -/
def lowerFrom (before : List Char) : List Char → List Char
  | [] => []
  | c :: rest =>
    (if c = '\u03a3' then
      [if casedAhead before && !casedAhead rest then '\u03c2' else '\u03c3']
    else lowerChar c) ++ lowerFrom (c :: before) rest

/-- A text in lower case. -/
def lowercase (s : String) : String :=
  String.ofList (lowerFrom [] s.toList)

end Obfuscator.Text
