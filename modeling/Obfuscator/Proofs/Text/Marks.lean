/-
The pieces of a text between the marks in it, and what is put in the place
of the marks.

A mark here begins with a character that does not occur in it again, as a
brace does. Two such marks cannot overlap, and so a text falls into pieces
between its marks in one way only (`CutsAt.unique`): where two ways first
differ, a mark would have to begin inside another.

A text that is put in the place of the marks could still make new ones
together with the ends of the pieces. It does not if it has neither the
first nor the last character of the mark and is not shorter than what is
left of the mark without its first character (`not_infix_intercalate`). A
mark that reaches into it from the left would end in it, one that reaches
out of it to the right would begin in it, and it is too long to be passed
over.
-/
import Mathlib.Data.List.Infix
import Obfuscator.Proofs.Text.Filling

namespace Obfuscator.Text

variable {first last : Char} {body new : List Char}

-- ================================================================ pieces

/-- What stands between the marks of a text, from its start to its end. -/
structure CutsAt (mark text : List Char) (pieces : List (List Char)) :
    Prop where
  ne_nil : pieces ≠ []
  /-- The marks between the pieces make up the text. -/
  joined : text = mark.intercalate pieces
  /-- All marks are between the pieces. -/
  clean : ∀ piece ∈ pieces, ¬ mark <:+: piece

/-- A text falls into pieces, and replacing its marks puts them together
anew. -/
theorem exists_cutsAt {mark : List Char} (hmark : mark ≠ [])
    (text : List Char) :
    ∃ pieces, CutsAt mark text pieces
      ∧ ∀ new, replaceFrom mark new 0 text = new.intercalate pieces := by
  obtain ⟨piece, more, htext, hnew, hclean⟩ :=
    exists_parts_replaceFrom hmark text.length text (Nat.le_refl _)
  exact ⟨piece :: more, ⟨List.cons_ne_nil piece more, htext, hclean⟩, hnew⟩

/-- What stands behind a piece: nothing behind the last one, else a mark and
all that follows. -/
def behind (mark : List Char) (more : List (List Char)) : List Char :=
  if more = [] then [] else mark ++ mark.intercalate more

/-- What is joined begins with its first piece. -/
theorem intercalate_cons_eq (mark piece : List Char)
    (more : List (List Char)) :
    mark.intercalate (piece :: more) = piece ++ behind mark more := by
  cases more with
  | nil => simp [behind]
  | cons second more =>
      rw [List.intercalate_cons_cons, behind,
        if_neg (List.cons_ne_nil second more), List.append_assoc]

/-- Behind a piece there is a mark, or nothing. -/
theorem behind_eq_nil_or (mark : List Char) (more : List (List Char)) :
    behind mark more = [] ∨ mark <+: behind mark more := by
  unfold behind
  by_cases h : more = []
  · exact .inl (if_pos h)
  · rw [if_neg h]
    exact .inr (List.prefix_append mark _)

/-- A mark does not begin inside a mark. -/
theorem not_prefix_of_overlap {extra tail : List Char} {a : Char}
    (hfirst : first ∉ body) (hmark : first :: body = (a :: extra) ++ tail)
    (htail : tail ≠ []) :
    ¬ tail <+: first :: body := by
  intro hpre
  have hbody : body = extra ++ tail := (List.cons_eq_cons.1 hmark).2
  cases tail with
  | nil => exact htail rfl
  | cons b tail =>
      have hb : b = first := (List.cons_prefix_cons.1 hpre).1
      refine hfirst ?_
      rw [hbody, ← hb]
      exact List.mem_append_right _ (List.mem_cons_self ..)

/-- If a text begins with a mark, or is empty, then so does what is left of
it without some front, but only if the front has a mark or is empty. -/
theorem front_eq_nil {front text text' : List Char} (hfirst : first ∉ body)
    (hclean : ¬ (first :: body) <:+: front) (h : text = front ++ text')
    (htext : text = [] ∨ (first :: body) <+: text)
    (htext' : text' = [] ∨ (first :: body) <+: text') : front = [] := by
  rcases htext with htext | hmark
  · rw [htext] at h
    exact (List.append_eq_nil_iff.1 h.symm).1
  · have hfront : front <+: text := ⟨text', h.symm⟩
    rcases List.prefix_or_prefix_of_prefix hfront hmark with hshort | hlong
    · -- the front ends inside the mark, where the next one would have to begin
      obtain ⟨tail, htail⟩ := hshort
      cases front with
      | nil => rfl
      | cons a front =>
          exfalso
          obtain ⟨later, hlater⟩ := hmark
          rw [← hlater, ← htail, List.append_assoc,
            List.append_cancel_left_eq] at h
          by_cases hnil : tail = []
          · rw [hnil, List.append_nil] at htail
            exact hclean (htail ▸ List.infix_rfl)
          · rcases htext' with hend | hnext
            · rw [hend] at h
              exact hnil (List.append_eq_nil_iff.1 h).1
            · refine not_prefix_of_overlap hfirst htail.symm hnil ?_
              refine List.prefix_of_prefix_length_le ⟨later, h⟩ hnext ?_
              have hlen := congrArg List.length htail
              rw [List.length_append] at hlen
              omega
    · exact absurd hlong.isInfix hclean

/-- A text falls into pieces in one way only. -/
theorem CutsAt.unique {text : List Char} {pieces pieces' : List (List Char)}
    (hfirst : first ∉ body) (h : CutsAt (first :: body) text pieces)
    (h' : CutsAt (first :: body) text pieces') : pieces = pieces' := by
  induction pieces generalizing text pieces' with
  | nil => exact absurd rfl h.ne_nil
  | cons piece more ih =>
      cases pieces' with
      | nil => exact absurd rfl h'.ne_nil
      | cons piece' more' =>
          have hjoined : piece ++ behind (first :: body) more
              = piece' ++ behind (first :: body) more' := by
            rw [← intercalate_cons_eq, ← intercalate_cons_eq, ← h.joined,
              ← h'.joined]
          have hclean := h.clean piece (List.mem_cons_self ..)
          have hclean' := h'.clean piece' (List.mem_cons_self ..)
          have hmore := behind_eq_nil_or (first :: body) more
          have hmore' := behind_eq_nil_or (first :: body) more'
          have hpiece : piece = piece' := by
            rcases List.append_eq_append_iff.1 hjoined with
              ⟨extra, hextra, hrest⟩ | ⟨extra, hextra, hrest⟩
            · have hnil : extra = [] := front_eq_nil hfirst
                (fun hin => hclean' (hextra ▸ hin.trans
                  (List.suffix_append piece extra).isInfix))
                hrest hmore hmore'
              rw [hextra, hnil, List.append_nil]
            · have hnil : extra = [] := front_eq_nil hfirst
                (fun hin => hclean (hextra ▸ hin.trans
                  (List.suffix_append piece' extra).isInfix))
                hrest hmore' hmore
              rw [hextra, hnil, List.append_nil]
          rw [hpiece, List.append_cancel_left_eq] at hjoined
          unfold behind at hjoined
          by_cases hend : more = [] <;> by_cases hend' : more' = []
          · rw [hpiece, hend, hend']
          · rw [if_pos hend, if_neg hend'] at hjoined
            cases hjoined
          · rw [if_neg hend, if_pos hend'] at hjoined
            cases hjoined
          · rw [if_neg hend, if_neg hend', List.append_cancel_left_eq]
              at hjoined
            have hrest : CutsAt (first :: body)
                ((first :: body).intercalate more) more :=
              ⟨hend, rfl, fun p hp => h.clean p (List.mem_cons_of_mem _ hp)⟩
            have hrest' : CutsAt (first :: body)
                ((first :: body).intercalate more) more' :=
              ⟨hend', hjoined, fun p hp =>
                h'.clean p (List.mem_cons_of_mem _ hp)⟩
            rw [hpiece, ih hrest hrest']

-- ================================================================ filling

/-- A mark does not end in a text that has not its last character. -/
theorem not_prefix_of_ends {left right text : List Char} (hlast : last ∉ new)
    (hmark : first :: (body ++ [last]) = left ++ right) (hright : right ≠ [])
    (hlen : right.length ≤ new.length) : ¬ right <+: new ++ text := by
  intro hpre
  have hin : right <+: new :=
    List.prefix_of_prefix_length_le hpre (List.prefix_append new text) hlen
  have hends : right.getLast? = some last := by
    rw [← List.getLast?_append_of_ne_nil left hright, ← hmark,
      ← List.cons_append, List.getLast?_concat]
  exact hlast (hin.subset (List.mem_of_getLast? hends))

/-- A mark does not reach from a piece into the text behind it. -/
theorem not_straddles {piece text : List Char} (hfirst : first ∉ new)
    (hlast : last ∉ new) (hlen : body.length + 1 ≤ new.length)
    (hclean : ¬ (first :: (body ++ [last])) <:+: piece) :
    ¬ ∃ left right, first :: (body ++ [last]) = left ++ right ∧ left <:+ piece
      ∧ right <+: new ++ text := by
  intro h
  obtain ⟨left, right, hmark, hleft, hright⟩ := h
  have hsum := congrArg List.length hmark
  simp only [List.length_cons, List.length_append, List.length_nil] at hsum
  by_cases hnil : right = []
  · rw [hnil, List.append_nil] at hmark
    exact hclean (hmark ▸ hleft.isInfix)
  · cases left with
    | nil =>
        -- the whole mark is behind the piece, so it begins in the new text
        cases new with
        | nil => simp at hlen
        | cons a new =>
            rw [← List.nil_append right, ← hmark, List.cons_append] at hright
            exact hfirst ((List.cons_prefix_cons.1 hright).1 ▸
              List.mem_cons_self ..)
    | cons a left =>
        rw [List.length_cons] at hsum
        exact not_prefix_of_ends hlast hmark hnil (by omega) hright

/-- A text in the place of the marks makes no new mark, neither by itself
nor together with the pieces, if it has neither end of the mark and is long
enough to keep the pieces apart. -/
theorem not_infix_intercalate {pieces : List (List Char)}
    (hfirst : first ∉ new) (hlast : last ∉ new)
    (hlen : body.length + 1 ≤ new.length)
    (hclean : ∀ piece ∈ pieces, ¬ (first :: (body ++ [last])) <:+: piece) :
    ¬ (first :: (body ++ [last])) <:+: new.intercalate pieces := by
  induction pieces with
  | nil => simp
  | cons piece more ih =>
      have hpiece := hclean piece (List.mem_cons_self ..)
      have hrest := ih fun p hp => hclean p (List.mem_cons_of_mem _ hp)
      cases more with
      | nil =>
          rw [List.intercalate_singleton]
          exact hpiece
      | cons second more =>
          rw [List.intercalate_cons_cons, List.append_assoc]
          intro hin
          rcases List.infix_append_iff.1 hin with hin | hin | hstraddles
          · exact hpiece hin
          · rcases List.infix_append_iff.1 hin with hin | hin
              | ⟨left, right, hmark, hleft, hright⟩
            · exact hfirst (hin.subset (List.mem_cons_self ..))
            · exact hrest hin
            · -- a mark that begins in the new text, if it begins before the
              -- next piece
              cases left with
              | nil =>
                  rw [List.nil_append] at hmark
                  exact hrest (hmark ▸ hright.isInfix)
              | cons a left =>
                  have ha : first = a := (List.cons_eq_cons.1 hmark).1
                  exact hfirst (hleft.subset (ha ▸ List.mem_cons_self ..))
          · exact not_straddles hfirst hlast hlen hpiece hstraddles

/-- With at least one mark, texts of one length in its place are told apart. -/
theorem eq_of_intercalate_eq {new' : List Char} {pieces : List (List Char)}
    (hpieces : 2 ≤ pieces.length) (hlen : new.length = new'.length)
    (h : new.intercalate pieces = new'.intercalate pieces) : new = new' := by
  match pieces, hpieces with
  | piece :: second :: more, _ =>
      rw [List.intercalate_cons_cons, List.intercalate_cons_cons,
        List.append_assoc, List.append_assoc, List.append_cancel_left_eq] at h
      exact (List.append_inj h hlen).1

/-- A text with a mark falls into at least two pieces. -/
theorem CutsAt.two_le_length {mark text : List Char}
    {pieces : List (List Char)} (h : CutsAt mark text pieces)
    (hmark : mark <:+: text) : 2 ≤ pieces.length := by
  match pieces, h with
  | [], h => exact absurd rfl h.ne_nil
  | [piece], h =>
      rw [h.joined, List.intercalate_singleton] at hmark
      exact absurd hmark (h.clean piece (List.mem_cons_self ..))
  | _ :: _ :: _, _ => simp

end Obfuscator.Text
