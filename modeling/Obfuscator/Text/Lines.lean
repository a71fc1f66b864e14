/-
Texts as lists of lines.

A line ends at a line feed and nowhere else: a carriage return is an ordinary
character of its line. `splitLines` always yields at least one line, a text
that ends in a line feed yields an empty last line, and `joinLines` is its
inverse, so nothing is lost on the way.
-/
namespace Obfuscator.Text

/-- The lines of a text, line feeds left out. -/
def splitLines : List Char → List (List Char)
  | [] => [[]]
  | c :: rest =>
    if c = '\n' then [] :: splitLines rest
    else
      match splitLines rest with
      | [] => [[c]]
      | line :: lines => (c :: line) :: lines

/-- Lines put together with a line feed between each two. -/
def joinLines : List (List Char) → List Char
  | [] => []
  | [line] => line
  | line :: lines => line ++ '\n' :: joinLines lines

/-- A text of several lines, written one line at a time. -/
def block (lines : List String) : String :=
  String.intercalate "\n" lines

-- ======================================================= the two ways

theorem splitLines_ne_nil (s : List Char) : splitLines s ≠ [] := by
  cases s with
  | nil => simp [splitLines]
  | cons c rest =>
    unfold splitLines
    split
    · simp
    · split <;> simp

theorem joinLines_cons {line : List Char} {lines : List (List Char)}
    (h : lines ≠ []) :
    joinLines (line :: lines) = line ++ '\n' :: joinLines lines := by
  cases lines with
  | nil => exact absurd rfl h
  | cons => rfl

/-- Splitting a text and joining its lines gives the text back. -/
theorem joinLines_splitLines (s : List Char) :
    joinLines (splitLines s) = s := by
  induction s with
  | nil => rfl
  | cons c rest ih =>
    unfold splitLines
    split
    · rename_i hc
      rw [joinLines_cons (splitLines_ne_nil rest), ih, hc, List.nil_append]
    · split
      · rename_i hnil
        exact absurd hnil (splitLines_ne_nil rest)
      · rename_i line lines hl
        rw [hl] at ih
        cases lines with
        | nil => simpa [joinLines] using ih
        | cons next more => simpa [joinLines] using ih

end Obfuscator.Text
