/-
Letters and numbers, over all of Unicode.
-/
import Obfuscator.Text.LetterTable
import Obfuscator.Text.NumberTable

namespace Obfuscator.Text

/-- Whether a character is a letter; within ASCII the same as
`Char.isAlpha`. -/
def isLetter (c : Char) : Bool :=
  if c.toNat < 0x80 then c.isAlpha else letterTable.holds c

/-- Whether a character is a number; within ASCII the same as
`Char.isDigit`. -/
def isNumber (c : Char) : Bool :=
  if c.toNat < 0x80 then c.isDigit else numberTable.holds c

/-- Whether a character is a letter or a number. -/
def isAlphanumeric (c : Char) : Bool :=
  isLetter c || isNumber c

end Obfuscator.Text
