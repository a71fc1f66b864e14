/-
Where a word begins and ends.

A boundary is what has to hold between two neighbouring characters of a
line, or between a character and an end of the line, for an identifier to
begin or end there. Profiles give it as a pattern. Three patterns have a
meaning: the word boundary over ASCII, the word boundary over all of
Unicode, and the empty pattern, which matches everywhere. No other pattern
is a boundary.
-/
import Obfuscator.Text.WordTable

namespace Obfuscator

/-- Letters, digits and the underscore, ASCII only. -/
def isAsciiWord (c : Char) : Bool :=
  c.isAlphanum || c = '_'

/-- The characters of words over all of Unicode; within ASCII the same as
`isAsciiWord`. -/
def isUnicodeWord (c : Char) : Bool :=
  if c.toNat < 0x80 then isAsciiWord c else Text.wordTable.holds c

/-- The rule for the places at which an identifier may begin and end. -/
inductive Boundary
  /-- At every place. -/
  | anywhere
  /-- Between an ASCII word character and anything else. -/
  | asciiWord
  /-- Between a word character of Unicode and anything else. -/
  | unicodeWord
  deriving DecidableEq, Repr

namespace Boundary

/-- The rule a pattern stands for. -/
def ofPattern? (pattern : String) : Option Boundary :=
  if pattern = "" then some anywhere
  else if pattern = "(?-u:\\b)" then some asciiWord
  else if pattern = "\\b" then some unicodeWord
  else none

/-- Whether a place is a boundary, told by the characters before and after
it. -/
def holds (b : Boundary) (before after : Option Char) : Bool :=
  match b with
  | anywhere => true
  | asciiWord => before.any isAsciiWord != after.any isAsciiWord
  | unicodeWord => before.any isUnicodeWord != after.any isUnicodeWord

end Boundary

end Obfuscator
