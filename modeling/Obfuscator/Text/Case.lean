/-
Comparison of texts up to the case of their ASCII letters.

Identifiers of languages and file extensions are looked up this way. Only the
letters A to Z have a second form here: a letter outside ASCII equals itself
alone, so the Kelvin sign is never taken for a "k" nor the long s for an "s".
-/
namespace Obfuscator.Text

/-- The characters of a text with every ASCII capital made small. -/
def asciiFold (s : String) : List Char :=
  s.toList.map Char.toLower

/-- Two texts are the same up to the case of their ASCII letters. -/
def sameUpToCase (s t : String) : Bool :=
  asciiFold s == asciiFold t

theorem sameUpToCase_iff {s t : String} :
    sameUpToCase s t = true ↔ asciiFold s = asciiFold t := by
  simp [sameUpToCase]

theorem sameUpToCase_refl (s : String) : sameUpToCase s s = true := by
  simp [sameUpToCase]

end Obfuscator.Text
