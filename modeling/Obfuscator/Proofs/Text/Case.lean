/-
Texts that are the same up to the case of their ASCII letters.

Texts are compared by folding both of them. What the comparison comes to is
said here without folding: the two are equally long, and at every place
stand equal characters or the two forms of one of the 26 letters
(`sameUpToCase_iff_sameButCase`). Two characters that pass for each other
are both in ASCII or both outside it (`SameLetter.isAscii_iff`), so a text
outside ASCII never passes for one inside, whatever its letters become in
lower case.
-/
import Mathlib.Data.List.Forall2
import Obfuscator.Text.Case

namespace Obfuscator.Text

-- ============================================================ characters

/-- A small letter, and its capital from A to Z, which stands 32 places
earlier. -/
def SmallForm (small capital : Char) : Prop :=
  'A' ≤ capital ∧ capital ≤ 'Z' ∧ small.toNat = capital.toNat + 32

/-- Two characters are equal, or the two forms of one ASCII letter. -/
def SameLetter (a b : Char) : Prop :=
  a = b ∨ SmallForm a b ∨ SmallForm b a

/-- A character is in ASCII. -/
def IsAscii (c : Char) : Prop := c.toNat < 0x80

instance (small capital : Char) : Decidable (SmallForm small capital) :=
  inferInstanceAs (Decidable (_ ∧ _ ∧ _))

instance (a b : Char) : Decidable (SameLetter a b) :=
  inferInstanceAs (Decidable (_ ∨ _ ∨ _))

instance (c : Char) : Decidable (IsAscii c) :=
  inferInstanceAs (Decidable (_ < _))

/-- A letter has its small form thirty-two places further on. -/
theorem smallForm_iff {small capital : Char} :
    SmallForm small capital
      ↔ 65 ≤ capital.toNat ∧ capital.toNat ≤ 90
        ∧ small.toNat = capital.toNat + 32 :=
  Iff.rfl

/-- Folding moves the capitals and nothing else. -/
theorem toNat_toLower (c : Char) :
    c.toLower.toNat
      = if 65 ≤ c.toNat ∧ c.toNat ≤ 90 then c.toNat + 32 else c.toNat := by
  have hcapital : (c.val ≥ 'A'.val ∧ c.val ≤ 'Z'.val)
      ↔ 65 ≤ c.toNat ∧ c.toNat ≤ 90 := Iff.rfl
  unfold Char.toLower
  by_cases h : 65 ≤ c.toNat ∧ c.toNat ≤ 90
  · rw [dif_pos (hcapital.2 h), if_pos h]
    have hplace : (c.val + ('a'.val - 'A'.val)).toNat
        = (c.val.toNat + 32) % 2 ^ 32 :=
      UInt32.toNat_add _ _
    have hvalue : c.val.toNat = c.toNat := rfl
    exact hplace.trans (by omega)
  · rw [dif_neg (hcapital.not.2 h), if_neg h]

/-- Two characters fold alike exactly if they are one letter. -/
theorem toLower_eq_iff (a b : Char) :
    a.toLower = b.toLower ↔ SameLetter a b := by
  rw [← Char.toNat_inj, toNat_toLower, toNat_toLower, SameLetter,
    smallForm_iff, smallForm_iff, ← Char.toNat_inj]
  split <;> split <;> omega

/-- The two forms of a letter are both in ASCII, or neither is. -/
theorem SameLetter.isAscii_iff {a b : Char} (h : SameLetter a b) :
    IsAscii a ↔ IsAscii b := by
  unfold IsAscii
  rcases h with rfl | h | h
  · exact Iff.rfl
  · obtain ⟨hfirst, hlast, hplace⟩ := smallForm_iff.1 h
    omega
  · obtain ⟨hfirst, hlast, hplace⟩ := smallForm_iff.1 h
    omega

-- ================================================================= texts

/-- Two texts have the same letters at the same places, in either case. -/
def SameButCase (s t : String) : Prop :=
  List.Forall₂ SameLetter s.toList t.toList

instance (s t : String) : Decidable (SameButCase s t) :=
  inferInstanceAs (Decidable (List.Forall₂ SameLetter s.toList t.toList))

/-- The comparison by folding is the one letter by letter. -/
theorem sameUpToCase_iff_sameButCase {s t : String} :
    sameUpToCase s t = true ↔ SameButCase s t := by
  rw [sameUpToCase_iff, asciiFold, asciiFold, ← List.forall₂_eq_eq_eq,
    List.forall₂_map_left_iff, List.forall₂_map_right_iff]
  simp only [toLower_eq_iff]
  exact Iff.rfl

theorem SameButCase.refl (s : String) : SameButCase s s :=
  List.forall₂_same.2 fun _ _ => Or.inl rfl

/-- What passes for a text in ASCII is in ASCII. -/
theorem SameButCase.forall_isAscii {s t : String} (h : SameButCase s t)
    (hs : ∀ c ∈ s.toList, IsAscii c) : ∀ c ∈ t.toList, IsAscii c := by
  unfold SameButCase at h
  generalize s.toList = l, t.toList = k at h hs
  induction h with
  | nil => exact hs
  | cons hletter _ ih =>
      rw [List.forall_mem_cons] at hs ⊢
      exact ⟨hletter.isAscii_iff.1 hs.1, ih hs.2⟩

end Obfuscator.Text
