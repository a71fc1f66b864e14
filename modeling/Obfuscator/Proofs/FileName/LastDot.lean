/-
The last dot of a file name.

Where a name has a dot there is one way to cut it at the last one
(`CutAtLastDot.unique`). What the name is split into is that cut, provided
that something follows the dot (`split?_eq_some_iff`); a name that is not
split is a bare one, with no dot in it or nothing after the last
(`split?_eq_none_iff`). All that is asked of the stem and the extension of a
name is read off these two, and the splitting itself is not looked into
again.
-/
import Mathlib.Data.List.Basic
import Obfuscator.FileName

namespace Obfuscator.FileName

-- ================================================== the cut and the bare

/-- A name is what stands before and what stands after its last dot. -/
structure CutAtLastDot (name before after : String) : Prop where
  whole : name = before ++ "." ++ after
  last : '.' ∉ after.toList

/-- A name without an extension: no dot is in it, or it ends in one. -/
def Bare (name : String) : Prop :=
  '.' ∉ name.toList ∨ name.toList.getLast? = some '.'

instance : DecidablePred Bare := fun _ => inferInstanceAs (Decidable (_ ∨ _))

variable {name before after : String}

/-- A cut loses nothing but the dot. -/
theorem CutAtLastDot.toList_eq (h : CutAtLastDot name before after) :
    name.toList = before.toList ++ '.' :: after.toList := by
  rw [h.whole, String.toList_append, String.toList_append, List.append_assoc]
  rfl

/-- A cut is found. -/
theorem CutAtLastDot.splitLastDot_eq (h : CutAtLastDot name before after) :
    splitLastDot name.toList = some (before.toList, after.toList) := by
  rw [h.toList_eq]
  exact splitLastDot_append h.last

/-- What is found by going through the characters is the cut. -/
theorem cutAtLastDot_of_splitLastDot {b a : List Char}
    (h : splitLastDot name.toList = some (b, a)) :
    CutAtLastDot name (String.ofList b) (String.ofList a) := by
  obtain ⟨hwhole, hlast⟩ := splitLastDot_eq_some h
  have htext : name.toList
      = (String.ofList b ++ "." ++ String.ofList a).toList := by
    rw [hwhole, String.toList_append, String.toList_append, List.append_assoc]
    simp only [String.toList_ofList]
    rfl
  exact ⟨String.toList_inj.1 htext, by rwa [String.toList_ofList]⟩

/-- A name has no two cuts at its last dot. -/
theorem CutAtLastDot.unique {before' after' : String}
    (h : CutAtLastDot name before after)
    (h' : CutAtLastDot name before' after') :
    before = before' ∧ after = after' := by
  have hboth := h.splitLastDot_eq.symm.trans h'.splitLastDot_eq
  obtain ⟨hbefore, hafter⟩ := Prod.mk.inj (Option.some.inj hboth)
  exact ⟨String.toList_inj.1 hbefore, String.toList_inj.1 hafter⟩

/-- A name with a cut is a bare one if nothing stands behind its last dot. -/
theorem CutAtLastDot.bare_iff (h : CutAtLastDot name before after) :
    Bare name ↔ after = "" := by
  unfold Bare
  rw [h.toList_eq]
  constructor
  · rintro (hnone | hdot)
    · exact absurd (List.mem_append_right _ List.mem_cons_self) hnone
    · rw [← String.toList_eq_nil_iff]
      by_cases hafter : after.toList = []
      · exact hafter
      · rw [List.getLast?_append_of_ne_nil _ (List.cons_ne_nil _ _),
          List.getLast?_cons, List.getLast?_eq_some_getLast hafter] at hdot
        exact absurd (Option.some.inj hdot ▸ List.getLast_mem hafter) h.last
  · rintro rfl
    exact .inr List.getLast?_concat

-- ============================================================ the split

/-- A name is split at its last dot, if something follows it. -/
theorem split?_eq_some_iff :
    split? name = some (before, after) ↔ CutAtLastDot name before after
      ∧ after ≠ "" := by
  unfold split?
  constructor
  · intro h
    cases hdot : splitLastDot name.toList with
    | none => rw [hdot] at h; cases h
    | some parts =>
        rw [hdot] at h
        by_cases hafter : parts.2.isEmpty
        · simp [hafter] at h
        · simp only [hafter, Bool.false_eq_true, if_false, Option.some.injEq,
            Prod.mk.injEq] at h
          obtain ⟨rfl, rfl⟩ := h
          refine ⟨cutAtLastDot_of_splitLastDot hdot, ?_⟩
          simpa [← String.toList_eq_nil_iff] using hafter
  · rintro ⟨hcut, hafter⟩
    rw [hcut.splitLastDot_eq]
    simp [hafter]

/-- The names that are not split are the bare ones. -/
theorem split?_eq_none_iff : split? name = none ↔ Bare name := by
  cases hdot : splitLastDot name.toList with
  | none =>
      have hnone : split? name = none := by simp only [split?, hdot]
      exact iff_of_true hnone (.inl (splitLastDot_eq_none_iff.1 hdot))
  | some parts =>
      have hcut := cutAtLastDot_of_splitLastDot hdot
      rw [hcut.bare_iff, Option.eq_none_iff_forall_ne_some]
      constructor
      · intro h
        by_cases hafter : String.ofList parts.2 = ""
        · exact hafter
        · exact absurd (split?_eq_some_iff.2 ⟨hcut, hafter⟩) (h _)
      · rintro hafter ⟨before, after⟩ h
        obtain ⟨hcut', hne⟩ := split?_eq_some_iff.1 h
        exact hne ((hcut'.unique hcut).2.trans hafter)

-- ============================================== the stem and the extension

/-- The extension is what follows the last dot, if that is not empty. -/
theorem extension?_eq_some_iff {extension : String} :
    extension? name = some extension
      ↔ extension ≠ "" ∧ ∃ before, CutAtLastDot name before extension := by
  unfold extension?
  rw [Option.map_eq_some_iff]
  constructor
  · rintro ⟨⟨before, after⟩, hsplit, rfl⟩
    obtain ⟨hcut, hne⟩ := split?_eq_some_iff.1 hsplit
    exact ⟨hne, before, hcut⟩
  · rintro ⟨hne, before, hcut⟩
    exact ⟨(before, extension), split?_eq_some_iff.2 ⟨hcut, hne⟩, rfl⟩

theorem extension?_eq_none_iff : extension? name = none ↔ Bare name := by
  rw [extension?, Option.map_eq_none_iff, split?_eq_none_iff]

/-- A bare name is its own stem. -/
theorem Bare.stem_eq (h : Bare name) : stem name = name := by
  rw [stem, split?_eq_none_iff.2 h]

/-- Of a name with an extension the stem is what stands before the last dot. -/
theorem CutAtLastDot.stem_eq (h : CutAtLastDot name before after)
    (hne : after ≠ "") :
    stem name = before := by
  rw [stem, split?_eq_some_iff.2 ⟨h, hne⟩]

/-- A name is bare, or it has a stem and an extension. -/
theorem bare_or_exists_cutAtLastDot (name : String) :
    Bare name ∨ ∃ before after, CutAtLastDot name before after
      ∧ after ≠ "" := by
  cases hsplit : split? name with
  | none => exact .inl (split?_eq_none_iff.1 hsplit)
  | some parts => exact .inr ⟨parts.1, parts.2, split?_eq_some_iff.1 hsplit⟩

end Obfuscator.FileName
