/-
White space, over all of Unicode, and texts without it at their ends.
-/
import Obfuscator.Text.CodeRanges

namespace Obfuscator.Text

/-- The characters with the Unicode property White_Space. -/
def blankTable : CodeRanges := [
    (0x0009, 0x000D), (0x0020, 0x0020), (0x0085, 0x0085), (0x00A0, 0x00A0),
    (0x1680, 0x1680), (0x2000, 0x200A), (0x2028, 0x2029), (0x202F, 0x202F),
    (0x205F, 0x205F), (0x3000, 0x3000)]

/-- Whether a character is white space. -/
def isBlank (c : Char) : Bool := blankTable.holds c

/-- A text without the white space at its end. -/
def trimEnd (s : List Char) : List Char :=
  (s.reverse.dropWhile isBlank).reverse

/-- A text without the white space at its two ends. -/
def trim (s : List Char) : List Char :=
  trimEnd (s.dropWhile isBlank)

end Obfuscator.Text
