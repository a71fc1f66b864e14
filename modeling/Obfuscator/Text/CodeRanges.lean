/-
Classes of characters given as tables of code point ranges.
-/
namespace Obfuscator.Text

/-- Ranges of code points, both ends included. -/
abbrev CodeRanges := List (Nat × Nat)

/-- Whether some range of a table holds a character. -/
def CodeRanges.holds (table : CodeRanges) (c : Char) : Bool :=
  table.any fun range => range.1 ≤ c.toNat && c.toNat ≤ range.2

end Obfuscator.Text
