/-
Texts and their lines.

Splitting a text and joining lines fit together: two texts with a line feed
between them have the lines of the one and then of the other
(`splitLines_append`), and lines are joined in parts (`joinLines_append`).
What splitting yields has no line feed in it
(`newline_notMem_of_mem_splitLines`), and of such lines the joined text
shows how many there are (`count_joinLines`) and whether the last one is
empty (`getLast?_joinLines_concat`). So two texts are compared by their
lines, and no line feed has to be looked for in a text.
-/
import Mathlib.Data.List.Basic
import Obfuscator.Text.Lines

namespace Obfuscator.Text

variable {s line last : List Char} {front lines more : List (List Char)}
  {c : Char}

-- ============================================================= splitting

/-- A line feed parts the lines before it from those behind it. -/
theorem splitLines_append (a b : List Char) :
    splitLines (a ++ '\n' :: b) = splitLines a ++ splitLines b := by
  induction a with
  | nil => simp [splitLines]
  | cons c a ih =>
      rw [List.cons_append, splitLines, splitLines, ih]
      by_cases hc : c = '\n'
      · rw [if_pos hc, if_pos hc, List.cons_append]
      · obtain ⟨line, lines, ha⟩ :=
          List.exists_cons_of_ne_nil (splitLines_ne_nil a)
        simp only [if_neg hc, ha, List.cons_append]

/-- A text without a line feed is one line. -/
theorem splitLines_of_notMem (h : '\n' ∉ s) : splitLines s = [s] := by
  induction s with
  | nil => rfl
  | cons c s ih =>
      rw [List.mem_cons, not_or] at h
      obtain ⟨hc, hs⟩ := h
      rw [splitLines, if_neg (Ne.symm hc), ih hs]

/-- A line is made of characters of the text, and none of them is a line
feed. -/
theorem mem_and_ne_newline_of_mem_splitLines (hline : line ∈ splitLines s)
    (hc : c ∈ line) :
    c ∈ s ∧ c ≠ '\n' := by
  induction s generalizing line with
  | nil =>
      obtain rfl : line = [] := by simpa [splitLines] using hline
      cases hc
  | cons d s ih =>
      rw [splitLines] at hline
      by_cases hd : d = '\n'
      · rw [if_pos hd, List.mem_cons] at hline
        rcases hline with rfl | hline
        · cases hc
        · exact ⟨List.mem_cons_of_mem d (ih hline hc).1, (ih hline hc).2⟩
      · obtain ⟨first, rest, hs⟩ :=
          List.exists_cons_of_ne_nil (splitLines_ne_nil s)
        rw [hs] at ih
        simp only [if_neg hd, hs, List.mem_cons] at hline
        rcases hline with rfl | hline
        · rcases List.mem_cons.1 hc with rfl | hc
          · exact ⟨List.mem_cons_self, hd⟩
          · obtain ⟨hmem, hne⟩ := ih List.mem_cons_self hc
            exact ⟨List.mem_cons_of_mem d hmem, hne⟩
        · obtain ⟨hmem, hne⟩ := ih (List.mem_cons_of_mem first hline) hc
          exact ⟨List.mem_cons_of_mem d hmem, hne⟩

/-- No line has a line feed in it. -/
theorem newline_notMem_of_mem_splitLines (hline : line ∈ splitLines s) :
    '\n' ∉ line :=
  fun hc => (mem_and_ne_newline_of_mem_splitLines hline hc).2 rfl

-- =============================================================== joining

/-- Lines may be joined in two parts. -/
theorem joinLines_append (hfront : front ≠ []) (hmore : more ≠ []) :
    joinLines (front ++ more) = joinLines front ++ '\n' :: joinLines more := by
  induction front with
  | nil => exact absurd rfl hfront
  | cons line rest ih =>
      rw [List.cons_append, joinLines_cons (by simp [hmore])]
      by_cases hrest : rest = []
      · rw [hrest, List.nil_append]
        rfl
      · rw [ih hrest, joinLines_cons hrest, List.append_assoc,
          List.cons_append]

/-- A text has one line feed less than lines. -/
theorem count_joinLines (hlines : ∀ line ∈ lines, '\n' ∉ line) :
    (joinLines lines).count '\n' = lines.length - 1 := by
  induction lines with
  | nil => rfl
  | cons line rest ih =>
      obtain ⟨hline, hrest⟩ := List.forall_mem_cons.1 hlines
      have hnone : line.count '\n' = 0 := List.count_eq_zero.2 hline
      by_cases hnil : rest = []
      · subst hnil
        exact hnone
      · have hpos : 0 < rest.length := List.length_pos_of_ne_nil hnil
        rw [joinLines_cons hnil, List.count_append, List.count_cons_self,
          hnone, ih hrest, List.length_cons]
        omega

/-- A text ends in a line feed if its last line is empty and not the only
one. -/
theorem getLast?_joinLines_concat (hlast : '\n' ∉ last) :
    (joinLines (front ++ [last])).getLast? = some '\n'
      ↔ front ≠ [] ∧ last = [] := by
  have hne : last.getLast? ≠ some '\n' :=
    fun h => hlast (List.mem_of_getLast? h)
  by_cases hfront : front = []
  · subst hfront
    simpa [joinLines] using hne
  · have hjoin : joinLines [last] = last := rfl
    rw [joinLines_append hfront (List.cons_ne_nil last []), hjoin,
      List.getLast?_append_of_ne_nil _ (List.cons_ne_nil _ _),
      List.getLast?_cons]
    cases hlines : last.getLast? with
    | none => simp [hfront, List.getLast?_eq_none_iff.1 hlines]
    | some c =>
        rw [hlines] at hne
        have hnil : last ≠ [] := by
          rintro rfl
          cases hlines
        simpa [hnil] using hne

end Obfuscator.Text
