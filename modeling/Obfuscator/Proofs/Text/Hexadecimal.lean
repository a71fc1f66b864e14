/-
Numbers written in hexadecimal, filled up with zeros.

The digits of a number are those of `Nat.digits`, written one by one
(`hexReversed_eq_digits`), and the zeros in front add nothing to it. So the
number can be read back, however many digits it has (`ofDigits_hexPadded`),
and no two numbers are written alike, also where one is filled up and the
other is too long for that (`hexPadded_injective`). The other way round they
are the characters of `Nat.toDigits`, zero apart, which has no digits before
it is filled up (`hexPadded_eq_leftpad`).
-/
import Mathlib.Data.Nat.Digits.Defs
import Obfuscator.Proofs.Text.Filling
import Obfuscator.Rename.Boundary

namespace Obfuscator.Text

-- ================================================================ digits

/-- The digits of a number, the last first. -/
theorem hexReversed_eq_digits (n : Nat) :
    hexReversed n = (Nat.digits 16 n).map hexDigit := by
  induction n using Nat.strongRecOn with
  | ind n ih =>
      rw [hexReversed]
      by_cases hn : n = 0
      · rw [dif_pos hn, hn, Nat.digits_zero]
        rfl
      · rw [dif_neg hn, Nat.digits_def' (by decide) (by omega), List.map_cons,
          ih (n / 16) (by omega)]

/-- Hexadecimal digits are the usual ones. -/
theorem hexDigit_eq_digitChar {n : Nat} (h : n < 16) :
    hexDigit n = Nat.digitChar n := by
  have hall : ∀ k : Fin 16, hexDigit k = Nat.digitChar k := by decide
  exact hall ⟨n, h⟩

/-- Read from the first one on, the digits are the characters of the number. -/
theorem reverse_hexReversed {n : Nat} (hn : n ≠ 0) :
    (hexReversed n).reverse = Nat.toDigits 16 n := by
  induction n using Nat.strongRecOn with
  | ind n ih =>
      rw [hexReversed, dif_neg hn, List.reverse_cons,
        hexDigit_eq_digitChar (Nat.mod_lt n (by decide))]
      by_cases hsmall : n < 16
      · rw [Nat.div_eq_of_lt hsmall, Nat.mod_eq_of_lt hsmall,
          Nat.toDigits_of_lt_base hsmall, hexReversed, dif_pos rfl]
        rfl
      · rw [ih (n / 16) (by omega) (by omega),
          Nat.toDigits_of_base_le (n := n) (by decide) (by omega)]

/-- What a digit counts. -/
def hexDigitValue (a : Char) : Nat :=
  if a.isDigit then a.toNat - 48 else a.toNat - 87

/-- The digit of a number has that value. -/
theorem hexDigitValue_hexDigit {n : Nat} (h : n < 16) :
    hexDigitValue (hexDigit n) = n := by
  have hall : ∀ k : Fin 16, hexDigitValue (hexDigit k) = k := by decide
  exact hall ⟨n, h⟩

/-- A number can be read back from its digits. -/
theorem ofDigits_hexPadded (width n : Nat) :
    Nat.ofDigits 16 ((hexPadded width n).reverse.map hexDigitValue) = n := by
  have hdigits : (hexReversed n).map hexDigitValue = Nat.digits 16 n := by
    rw [hexReversed_eq_digits, List.map_map]
    refine (List.map_congr_left fun d hd => ?_).trans (List.map_id _)
    exact hexDigitValue_hexDigit (Nat.digits_lt_base (by decide) hd)
  have hzero : hexDigitValue '0' = 0 := by decide
  rw [hexPadded, List.reverse_append, List.reverse_reverse,
    List.reverse_replicate, List.map_append, hdigits, List.map_replicate,
    hzero, Nat.ofDigits_append_replicate_zero,
    Nat.ofDigits_digits]

/-- Two numbers are not written alike. -/
theorem hexPadded_injective (width : Nat) :
    Function.Injective (hexPadded width) := by
  intro m n h
  rw [← ofDigits_hexPadded width m, h, ofDigits_hexPadded]

/-- A number is written in at least as many digits as it is filled up to. -/
theorem le_length_hexPadded (width n : Nat) :
    width ≤ (hexPadded width n).length := by
  rw [hexPadded, List.length_append, List.length_replicate]
  omega

/-- A number is written by its characters with zeros in front. -/
theorem hexPadded_eq_leftpad {width : Nat} (hwidth : 0 < width) (n : Nat) :
    hexPadded width n = (Nat.toDigits 16 n).leftpad width '0' := by
  unfold hexPadded List.leftpad
  by_cases hn : n = 0
  · -- the one character of zero is a zero, which otherwise is filled in
    obtain ⟨k, rfl⟩ := Nat.exists_eq_add_one.2 hwidth
    have hnone : hexReversed 0 = [] := by rw [hexReversed, dif_pos rfl]
    rw [hn, hnone, Nat.toDigits_zero]
    show List.replicate (k + 1) '0' ++ [] = List.replicate k '0' ++ ['0']
    rw [List.append_nil, List.replicate_succ']
  · rw [reverse_hexReversed hn]

/-- Numbers below a power of the base fill so many digits, and larger ones
take more. -/
theorem length_hexPadded_eq_iff {width : Nat} (hwidth : 0 < width) (n : Nat) :
    (hexPadded width n).length = width ↔ n < 16 ^ width := by
  rw [hexPadded_eq_leftpad hwidth, List.length_leftpad,
    ← Nat.length_toDigits_le_iff (by decide) hwidth]
  omega

/-- A number is written in digits of lower-case hexadecimal. -/
theorem isLowerHexDigit_of_mem_hexPadded {width n : Nat} {a : Char}
    (h : a ∈ hexPadded width n) :
    isLowerHexDigit a = true := by
  rw [hexPadded, List.mem_append] at h
  rcases h with h | h
  · rw [List.eq_of_mem_replicate h]
    decide
  · rw [List.mem_reverse, hexReversed_eq_digits] at h
    obtain ⟨d, hd, rfl⟩ := List.mem_map.1 h
    exact isLowerHexDigit_hexDigit (Nat.digits_lt_base (by decide) hd)

/-- Digits are characters of words. -/
theorem isAsciiWord_of_isLowerHexDigit {a : Char}
    (h : isLowerHexDigit a = true) :
    isAsciiWord a = true := by
  have hletter : a.isAlpha = (a.isUpper
      || (decide ('a' ≤ a) && decide (a ≤ 'z'))) := rfl
  rw [isLowerHexDigit, Bool.or_eq_true, Bool.and_eq_true, decide_eq_true_eq,
    decide_eq_true_eq] at h
  rw [isAsciiWord, Char.isAlphanum, hletter, Bool.or_eq_true, Bool.or_eq_true,
    Bool.or_eq_true, Bool.and_eq_true, decide_eq_true_eq, decide_eq_true_eq]
  rcases h with hdigit | ⟨hlow, hhigh⟩
  · exact .inl (.inr hdigit)
  · exact .inl (.inl (.inr ⟨hlow, Nat.le_trans hhigh (by decide)⟩))

end Obfuscator.Text
