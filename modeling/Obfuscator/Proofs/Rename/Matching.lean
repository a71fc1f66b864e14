/-
What it is to replace every match in a line.

Matches are taken from left to right: the leftmost one, then the leftmost
one of what stands behind it, and so on (`Boundary.ReplacesAll`). That fixes
the new line, and it is all that is asked of an engine which gives a pattern
the meaning of a boundary rule (`PatternEngine.Seeks`). The standard engine
reads a line in steps of one character, but does just that
(`PatternEngine.seeks_standard`).

With the word boundary over ASCII, and a word to look for, matches are whole
words (`Boundary.matches_asciiWord_iff`). So the new line is the old one
with every word that is the word looked for replaced
(`Boundary.ReplacesAll.eq_mapWords`). The induction is on the matches. It
needs that what is left of the line does not begin inside a word, which
holds at the start and behind every match.
-/
import Obfuscator.Proofs.Text.Words
import Obfuscator.Rename.Substitute

namespace Obfuscator

open Text (IsWord StartsApart EndsApart Apart words mapWords)

-- =============================================================== matches

namespace Boundary

/-- A text that stands between two others has a boundary on both of its
sides. -/
structure Matches (b : Boundary) (sought before after : List Char) : Prop where
  opens : b.holds before.getLast? (sought ++ after).head? = true
  closes : b.holds (before ++ sought).getLast? after.head? = true

/-- `out` is `rest` with every match replaced by `new`, the leftmost one
first, none overlapping another; `done` is what stands in front of `rest` in
the line. -/
inductive ReplacesAll (b : Boundary) (sought new : List Char) :
    (done rest out : List Char) → Prop
  | none {done rest : List Char}
      (nowhere : ∀ before after, rest = before ++ (sought ++ after) →
        ¬b.Matches sought (done ++ before) after) :
      ReplacesAll b sought new done rest rest
  | first {done before after out : List Char}
      (found : b.Matches sought (done ++ before) after)
      (leftmost : ∀ earlier later, before ++ (sought ++ after)
        = earlier ++ (sought ++ later) →
        b.Matches sought (done ++ earlier) later →
          before.length ≤ earlier.length)
      (more : ReplacesAll b sought new (done ++ (before ++ sought)) after
        out) :
      ReplacesAll b sought new done (before ++ (sought ++ after))
        (before ++ (new ++ out))

end Boundary

/-- The engine takes a pattern for a boundary rule: with it on both sides,
every word can be looked for, and every match of it is replaced. -/
def PatternEngine.Seeks (e : PatternEngine) (pattern : String) (b : Boundary) :
    Prop :=
  ∀ identifier : String, IsWord identifier.toList →
    ∃ put, e.compile pattern identifier = .ok put
      ∧ ∀ new line, b.ReplacesAll identifier.toList new [] line (put new line)

-- ==================================================== the standard engine

namespace Boundary

variable {b : Boundary} {sought new done rest out : List Char}

/-- What was put in place of a match is followed by what is left behind the
match. -/
theorem substituteFrom_append (b : Boundary) (sought new rest : List Char) :
    ∀ (taken : List Char) (before : Option Char),
      substituteFrom b sought new taken.length before (taken ++ rest)
        = substituteFrom b sought new 0 (taken.getLast?.or before) rest := by
  intro taken
  induction taken with
  | nil => intro before; rfl
  | cons c more ih =>
      intro before
      have hlast : (c :: more).getLast? = more.getLast?.or (some c) :=
        List.getLast?_append (l := [c])
      rw [List.length_cons, List.cons_append, substituteFrom, ih, hlast,
        Option.or_assoc, Option.some_or]

/-- A match at the start of what is left of a line. -/
theorem bounds_iff (hsought : sought ≠ []) :
    b.bounds sought done.getLast? rest = true
      ↔ ∃ after, rest = sought ++ after ∧ b.Matches sought done after := by
  unfold bounds
  rw [Bool.and_eq_true, Bool.and_eq_true, List.isPrefixOf_iff_prefix]
  have hlast : (if sought.isEmpty then done.getLast? else sought.getLast?)
      = (done ++ sought).getLast? := by
    rw [List.getLast?_append_of_ne_nil done hsought,
      if_neg (by simpa using hsought)]
  rw [hlast]
  constructor
  · rintro ⟨⟨⟨after, rfl⟩, hopens⟩, hcloses⟩
    rw [List.drop_left] at hcloses
    exact ⟨after, rfl, hopens, hcloses⟩
  · rintro ⟨after, rfl, hopens, hcloses⟩
    refine ⟨⟨List.prefix_append sought after, hopens⟩, ?_⟩
    rw [List.drop_left]
    exact hcloses

/-- A character at which no match starts is kept. -/
theorem ReplacesAll.cons {c : Char}
    (h : b.ReplacesAll sought new (done ++ [c]) rest out)
    (hno : ∀ after, c :: rest = sought ++ after →
      ¬b.Matches sought done after) :
    b.ReplacesAll sought new done (c :: rest) (c :: out) := by
  cases h with
  | none nowhere =>
      refine .none fun before after hrest hmatch => ?_
      cases before with
      | nil =>
          rw [List.append_nil] at hmatch
          exact hno after hrest hmatch
      | cons d before =>
          rw [List.cons_append] at hrest
          obtain ⟨rfl, htail⟩ := List.cons.inj hrest
          rw [List.append_cons] at hmatch
          exact nowhere before after htail hmatch
  | @first _ before after out found leftmost more =>
      rw [List.append_assoc, List.singleton_append] at found
      rw [List.append_assoc, List.singleton_append] at more
      rw [← List.cons_append, ← List.cons_append]
      refine .first found ?_ more
      intro earlier later hline hmatch
      cases earlier with
      | nil =>
          rw [List.append_nil] at hmatch
          exact absurd hmatch (hno later hline)
      | cons d earlier =>
          rw [List.cons_append, List.cons_append] at hline
          obtain ⟨rfl, htail⟩ := List.cons.inj hline
          rw [List.append_cons] at hmatch
          exact Nat.succ_le_succ (leftmost earlier later htail hmatch)

/-- Reading a line character by character replaces every match. -/
theorem replacesAll_substituteFrom (b : Boundary) (hsought : sought ≠ [])
    (new : List Char) :
    ∀ (n : Nat) (rest done : List Char), rest.length ≤ n →
      b.ReplacesAll sought new done rest
        (substituteFrom b sought new 0 done.getLast? rest) := by
  have hlength : 0 < sought.length := List.length_pos_of_ne_nil hsought
  have hempty : sought.isEmpty = false := by simpa using hsought
  have hend : ∀ done : List Char, b.ReplacesAll sought new done []
      (substituteFrom b sought new 0 done.getLast? []) := by
    intro done
    rw [substituteFrom, hempty]
    refine .none fun before after hrest => ?_
    exact absurd (List.append_eq_nil_iff.1 hrest.symm).2 (by simp [hsought])
  intro n
  induction n with
  | zero =>
      intro rest done hrest
      rw [List.length_eq_zero_iff.1 (Nat.le_zero.1 hrest)]
      exact hend done
  | succ n ih =>
      intro rest done hrest
      cases rest with
      | nil => exact hend done
      | cons c rest =>
          rw [List.length_cons] at hrest
          rw [substituteFrom]
          by_cases hbounds : b.bounds sought done.getLast? (c :: rest) = true
          · obtain ⟨after, hline, hmatch⟩ := (bounds_iff hsought).1 hbounds
            obtain ⟨d, more, rfl⟩ := List.exists_cons_of_ne_nil hsought
            rw [List.cons_append] at hline
            obtain ⟨rfl, rfl⟩ := List.cons.inj hline
            have hlast : more.getLast?.or (some c)
                = (done ++ ([] ++ c :: more)).getLast? := by
              rw [List.nil_append, List.append_cons, List.getLast?_append,
                List.getLast?_concat]
            rw [if_pos hbounds, if_neg (by simp), List.length_cons,
              Nat.add_sub_cancel, substituteFrom_append, hlast]
            have hshort : after.length ≤ n := by
              rw [List.length_append] at hrest
              omega
            have hmore := ih after (done ++ ([] ++ c :: more)) hshort
            have hfound : b.Matches (c :: more) (done ++ []) after := by
              rwa [List.append_nil]
            exact @ReplacesAll.first b _ new done [] _ _ hfound
              (fun _ _ _ _ => Nat.zero_le _) hmore
          · rw [if_neg hbounds]
            have hlast : some c = (done ++ [c]).getLast? := by simp
            rw [hlast]
            refine (ih rest (done ++ [c]) (by omega)).cons
              fun after hline hmatch => ?_
            exact hbounds ((bounds_iff hsought).2 ⟨after, hline, hmatch⟩)

end Boundary

/-- The standard engine compiles every identifier between patterns that it
knows. -/
theorem PatternEngine.compile_standard {pattern : String} {b : Boundary}
    (h : Boundary.ofPattern? pattern = some b) (identifier : String) :
    standard.compile pattern identifier
      = .ok (Matcher.apply ⟨b, identifier.toList⟩) := by
  simp only [standard, Matcher.of?, h]

/-- The standard engine takes each boundary pattern for its rule. -/
theorem PatternEngine.seeks_standard {pattern : String} {b : Boundary}
    (h : Boundary.ofPattern? pattern = some b) : standard.Seeks pattern b := by
  intro identifier hword
  exact ⟨_, compile_standard h identifier, fun new line =>
    Boundary.replacesAll_substituteFrom b hword.1 new line.length line []
      (Nat.le_refl _)⟩

-- ============================================================ whole words

namespace Boundary

variable {w new done rest out before after : List Char}

/-- Between ASCII word boundaries a word stands apart from both its
neighbours. -/
theorem matches_asciiWord_iff (hw : IsWord w) :
    asciiWord.Matches w before after ↔ EndsApart before
      ∧ StartsApart after := by
  have hc : isAsciiWord (w.head hw.1) = true := hw.2 _ (List.head_mem hw.1)
  have hd : isAsciiWord (w.getLast hw.1) = true :=
    hw.2 _ (List.getLast_mem hw.1)
  have hapart : ∀ x : Option Char,
      x.any isAsciiWord = false ↔ ∀ a ∈ x, isAsciiWord a = false := by
    intro x
    cases x <;> simp
  have hopens : asciiWord.holds before.getLast? (w ++ after).head? = true
      ↔ EndsApart before := by
    rw [List.head?_append_of_ne_nil _ hw.1, List.head?_eq_some_head hw.1,
      holds, Option.any_some, hc, bne_iff_ne, ne_eq, Bool.not_eq_true]
    exact hapart _
  have hcloses : asciiWord.holds (before ++ w).getLast? after.head? = true
      ↔ StartsApart after := by
    rw [List.getLast?_append_of_ne_nil _ hw.1,
      List.getLast?_eq_some_getLast hw.1, holds, Option.any_some, hd,
      bne_iff_ne, ne_comm, ne_eq, Bool.not_eq_true]
    exact hapart _
  exact ⟨fun h => ⟨hopens.1 h.opens, hcloses.1 h.closes⟩,
    fun h => ⟨hopens.2 h.1, hcloses.2 h.2⟩⟩

/-- What stands in front of a word does not end inside a word. -/
theorem endsApart_append (hw : IsWord w)
    (hcut : Apart done (before ++ (w ++ after))) (hbefore : EndsApart before) :
    EndsApart (done ++ before) := by
  by_cases hnil : before = []
  · subst hnil
    rw [List.append_nil]
    exact hcut.resolve_right (hw.not_startsApart after)
  · exact (Text.endsApart_append_iff hnil).2 hbefore

/-- With the word boundary over ASCII, whole words are replaced. -/
theorem ReplacesAll.eq_mapWords (hw : IsWord w)
    (h : asciiWord.ReplacesAll w new done rest out) (hcut : Apart done rest) :
    out = mapWords (fun v => if v = w then new else v) rest := by
  -- a text without a match in it has no word to replace
  have hkept : ∀ text : List Char, w ∉ words text →
      mapWords (fun v => if v = w then new else v) text = text := by
    intro text hno
    refine Text.mapWords_eq_self fun v hv => if_neg ?_
    rintro rfl
    exact hno hv
  induction h with
  | @none done rest nowhere =>
      refine (hkept rest fun hword => ?_).symm
      obtain ⟨-, before, after, rfl, hbefore, hafter⟩ :=
        Text.mem_words_iff.1 hword
      have hmatch : asciiWord.Matches w (done ++ before) after :=
        (matches_asciiWord_iff hw).2 ⟨endsApart_append hw hcut hbefore, hafter⟩
      exact nowhere before after rfl hmatch
  | @first done before after out found leftmost more ih =>
      obtain ⟨hbefore, hafter⟩ := (matches_asciiWord_iff hw).1 found
      have hbefore : EndsApart before := Text.endsApart_of_append hbefore
      have hno : w ∉ words before := by
        intro hword
        obtain ⟨-, earlier, later, rfl, hearlier, hlater⟩ :=
          Text.mem_words_iff.1 hword
        have hne : later ≠ [] := by
          rintro rfl
          rw [List.append_nil] at hbefore
          exact hw.not_endsApart earlier hbefore
        have hline : earlier ++ (w ++ later) ++ (w ++ after)
            = earlier ++ (w ++ (later ++ (w ++ after))) := by
          simp only [List.append_assoc]
        rw [hline] at hcut
        have hmatch : asciiWord.Matches w (done ++ earlier)
            (later ++ (w ++ after)) :=
          (matches_asciiWord_iff hw).2
            ⟨endsApart_append hw hcut hearlier,
              (Text.startsApart_append_iff hne).2 hlater⟩
        have hfirst := leftmost _ _ hline hmatch
        have hlength : 0 < w.length := List.length_pos_of_ne_nil hw.1
        simp only [List.length_append] at hfirst
        omega
      rw [Text.mapWords_append (.inl hbefore),
        Text.mapWords_append (.inr hafter), hkept before hno, hw.mapWords_eq,
        if_pos rfl, ih (.inr hafter)]

end Boundary

end Obfuscator
