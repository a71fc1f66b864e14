/-
Which texts a text in small ASCII letters is the lower case of.

Lower-casing by the full rules changes letters of many scripts, and a few
characters outside ASCII could become ASCII letters by it. The table of
capitals settles which: of its runs a single one leads into ASCII, the
Kelvin sign, whose small form is "k" (`leadsOut_of_mem_lowerTable`). The
capital I with a dot leads to an "i" and a further character that is not in
ASCII, and a capital sigma to one of the small ones. So in the lower case of
a text every character from outside ASCII leaves a trace, a character that
is not in ASCII or a "k" (`exists_trace`), and a text in ASCII without "k"
is the lower case of those texts only that are it up to the case of their
ASCII letters (`lowercase_eq_iff_sameButCase`).
-/
import Obfuscator.Proofs.Text.Case
import Obfuscator.Text.Lowercase

namespace Obfuscator.Text

-- ============================================================ characters

/-- A character that lower-casing by the full rules could make only of
itself and its capital. -/
def IsPlain (a : Char) : Prop := IsAscii a ∧ a ≠ 'k'

instance (a : Char) : Decidable (IsPlain a) :=
  inferInstanceAs (Decidable (a.toNat < 0x80 ∧ a ≠ 'k'))

/-- The small forms of a run of capitals are characters outside ASCII. -/
def LowerRun.LeadsOut (run : LowerRun) : Prop :=
  0x80 ≤ run.target
    ∧ (run.target + (run.last - run.first) < 0xD800
      ∨ 0xE000 ≤ run.target ∧ run.target + (run.last - run.first) < 0x110000)

instance (run : LowerRun) : Decidable run.LeadsOut :=
  inferInstanceAs (Decidable (_ ∧ (_ ∨ _ ∧ _)))

/-- Only the Kelvin sign has a small form in ASCII. -/
theorem leadsOut_of_mem_lowerTable :
    ∀ run ∈ lowerTable, run.LeadsOut ∨ run.first = run.last
      ∧ run.target = 'k'.toNat := by
  decide +kernel

theorem toNat_ofNat_of_isValidChar {n : Nat} (h : n.isValidChar) :
    (Char.ofNat n).toNat = n := by
  unfold Char.ofNat
  rw [dif_pos h]
  rfl

/-- The small form that a run gives is outside ASCII, or it is "k". -/
theorem not_isPlain_of_lower? {run : LowerRun} {c a : Char}
    (hrun : run.LeadsOut ∨ run.first = run.last ∧ run.target = 'k'.toNat)
    (h : run.lower? c = some a) : ¬ IsPlain a := by
  unfold LowerRun.lower? at h
  by_cases hin : run.first ≤ c.toNat ∧ c.toNat ≤ run.last
    ∧ (c.toNat - run.first) % run.stride = 0
  · rw [if_pos hin] at h
    injection h with ha
    rcases hrun with ⟨hout, hvalid⟩ | ⟨hone, hkelvin⟩
    · have hnat : a.toNat = run.target + (c.toNat - run.first) := by
        rw [← ha]
        apply toNat_ofNat_of_isValidChar
        show _ < 0xD800 ∨ 0xDFFF < _ ∧ _ < 0x110000
        omega
      intro hplain
      have hlow : a.toNat < 0x80 := hplain.1
      omega
    · have hnat : run.target + (c.toNat - run.first) = 'k'.toNat := by omega
      intro hplain
      refine hplain.2 ?_
      rw [← ha, hnat]
      rfl
  · rw [if_neg hin] at h
    cases h

/-- The small form of a character outside ASCII has a character that is not
plain. -/
theorem exists_mem_lowerChar {c : Char} (hc : ¬ IsAscii c) :
    ∃ a ∈ lowerChar c, ¬ IsPlain a := by
  have houtside : ¬ c.toNat < 0x80 := hc
  unfold lowerChar
  rw [if_neg houtside]
  by_cases hdot : c = '\u0130'
  · rw [if_pos hdot]
    exact ⟨'\u0307', by decide, fun h => absurd h.1 (by decide)⟩
  · rw [if_neg hdot]
    refine ⟨_, List.mem_singleton_self _, ?_⟩
    cases hfound : lowerTable.findSome? fun run => run.lower? c with
    | none => exact fun h => hc h.1
    | some a =>
        obtain ⟨run, hrun, hlower⟩ := List.exists_of_findSome?_eq_some hfound
        exact not_isPlain_of_lower? (leadsOut_of_mem_lowerTable run hrun)
          hlower

-- ================================================================= texts

/-- A character outside ASCII leaves a trace in the lower case of a text. -/
theorem exists_trace {c : Char} (hc : ¬ IsAscii c) (before rest : List Char) :
    ∃ a ∈ lowerFrom before (c :: rest), ¬ IsPlain a := by
  rw [lowerFrom]
  by_cases hsigma : c = '\u03a3'
  · rw [if_pos hsigma]
    refine ⟨_, List.mem_append_left _ (List.mem_singleton_self _), fun h => ?_⟩
    split at h
    · exact absurd h.1 (by decide)
    · exact absurd h.1 (by decide)
  · rw [if_neg hsigma]
    obtain ⟨a, ha, hplain⟩ := exists_mem_lowerChar hc
    exact ⟨a, List.mem_append_left _ ha, hplain⟩

/-- A character of ASCII is folded wherever it stands. -/
theorem lowerFrom_cons_of_isAscii {c : Char} (hc : IsAscii c)
    (before rest : List Char) :
    lowerFrom before (c :: rest)
      = c.toLower :: lowerFrom (c :: before) rest := by
  have hsigma : c ≠ '\u03a3' := by
    intro h
    rw [h] at hc
    exact absurd hc (by decide)
  have hinside : c.toNat < 0x80 := hc
  rw [lowerFrom, if_neg hsigma, lowerChar, if_pos hinside,
    List.singleton_append]

/-- A character outside ASCII stays outside when only ASCII letters are
folded. -/
theorem toLower_of_not_isAscii {c : Char} (hc : ¬ IsAscii c) :
    c.toLower = c := by
  unfold IsAscii at hc
  rw [← Char.toNat_inj, toNat_toLower, if_neg (by omega)]

/-- What is plain in lower case comes from the same text up to the case of
ASCII letters. -/
theorem lowerFrom_eq_iff {t : List Char} (ht : ∀ a ∈ t, IsPlain a)
    (before s : List Char) :
    lowerFrom before s = t ↔ s.map Char.toLower = t := by
  induction s generalizing before t with
  | nil => exact Iff.rfl
  | cons c rest ih =>
      by_cases hc : IsAscii c
      · rw [lowerFrom_cons_of_isAscii hc, List.map_cons]
        cases t with
        | nil => simp
        | cons a t =>
            rw [List.cons_eq_cons, List.cons_eq_cons,
              ih (fun b hb => ht b (List.mem_cons_of_mem _ hb))]
      · refine ⟨fun h => ?_, fun h => ?_⟩
        · obtain ⟨a, ha, hplain⟩ := exists_trace hc before rest
          exact absurd (ht a (h ▸ ha)) hplain
        · rw [List.map_cons, toLower_of_not_isAscii hc] at h
          exact absurd (ht c (h ▸ List.mem_cons_self ..)).1 hc

/-- A text of plain small letters is the lower case of just the texts that
are it up to the case of their ASCII letters. -/
theorem lowercase_eq_iff_sameButCase {s t : String}
    (ht : ∀ a ∈ t.toList, IsPlain a) (hsmall : asciiFold t = t.toList) :
    lowercase s = t ↔ SameButCase s t := by
  rw [← sameUpToCase_iff_sameButCase, sameUpToCase_iff, hsmall, lowercase,
    ← String.toList_inj, String.toList_ofList, lowerFrom_eq_iff ht, asciiFold]

end Obfuscator.Text
