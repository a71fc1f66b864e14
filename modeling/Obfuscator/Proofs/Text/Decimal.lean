/-
Numbers written in decimal, by themselves and filled up with zeros.

The digits of a number are the library's `Nat.toDigits`, so that they are
digits, that the number can be read back from them and how many there are is
known of them already. Here this is carried over to the texts that are
written and to the reading of digits, also where zeros are put in front
(`digitsValue_padDecimal`), and two things are added: digits start with a
zero only if they are those of zero (`head?_toDigits_ne_zero`), and so many
digits spell no more than so many can (`digitsValue_lt`).
-/
import Mathlib.Algebra.Group.Nat.Defs
import Mathlib.Data.List.Induction
import Obfuscator.Text.Digit
import Obfuscator.Time

namespace Obfuscator

namespace Text

-- ============================================================ one number

theorem toList_toString (n : Nat) :
    (toString n).toList = Nat.toDigits 10 n := by
  show (Nat.repr n).toList = _
  rw [Nat.repr_eq_ofList_toDigits, String.toList_ofList]

theorem isDigit_of_mem_toString {n : Nat} {c : Char}
    (h : c ∈ (toString n).toList) :
    c.isDigit = true := by
  rw [toList_toString] at h
  exact Nat.isDigit_of_mem_toDigits (by decide) (Nat.le_refl _) h

theorem ne_of_isDigit {c d : Char} (hc : c.isDigit = true)
    (hd : d.isDigit = false) : c ≠ d := by
  intro h
  rw [h, hd] at hc
  cases hc

theorem toList_toString_ne_nil (n : Nat) : (toString n).toList ≠ [] := by
  rw [toList_toString]
  intro h
  have hpos := Nat.length_toDigits_pos (b := 10) (n := n)
  rw [h] at hpos
  exact absurd hpos (by decide)

/-- A number begins with a digit. -/
theorem exists_toString_eq_cons (n : Nat) :
    ∃ c s, (toString n).toList = c :: s ∧ c.isDigit = true := by
  cases hdigits : (toString n).toList with
  | nil => exact absurd hdigits (toList_toString_ne_nil n)
  | cons c s =>
      have hc : c ∈ (toString n).toList := hdigits ▸ List.mem_cons_self ..
      exact ⟨c, s, rfl, isDigit_of_mem_toString hc⟩

/-- Only zero starts with a zero. -/
theorem head?_toDigits_ne_zero {n : Nat} (hn : n ≠ 0) :
    (Nat.toDigits 10 n).head? ≠ some '0' := by
  induction n using Nat.strongRecOn with
  | ind n ih =>
      by_cases hsmall : n < 10
      · rw [Nat.toDigits_of_lt_base hsmall]
        have hall : ∀ k : Fin 10,
            k.val ≠ 0 → [Nat.digitChar k].head? ≠ some '0' := by decide
        exact hall ⟨n, hsmall⟩ hn
      · rw [Nat.toDigits_of_base_le (by decide) (by omega)]
        have hrest := ih (n / 10) (by omega) (by omega)
        cases hdigits : Nat.toDigits 10 (n / 10) with
        | nil =>
            have hpos := Nat.length_toDigits_pos (b := 10) (n := n / 10)
            rw [hdigits] at hpos
            exact absurd hpos (by decide)
        | cons c rest =>
            rw [hdigits] at hrest
            exact hrest

-- =============================================================== reading

/-- The value of a digit is its distance from the zero. -/
theorem digitValue?_of_isDigit {c : Char} (h : c.isDigit = true) :
    digitValue? 10 c = some (c.toNat - 48) := by
  have hbound : c.toNat ≤ 57 := by
    rw [Char.isDigit, Bool.and_eq_true, decide_eq_true_eq,
      decide_eq_true_eq] at h
    exact h.2
  unfold digitValue?
  simp only [h, if_true]
  rw [if_pos (by omega)]

/-- Digits are read as they count. -/
theorem digitsValue_eq {l : List Char} (h : ∀ c ∈ l, c.isDigit = true) :
    digitsValue 10 l = Nat.ofDigitChars 10 l 0 := by
  have hstep : ∀ (l : List Char) (n : Nat), (∀ c ∈ l, c.isDigit = true) →
      l.foldl (fun n c => n * 10 + (digitValue? 10 c).getD 0) n
        = Nat.ofDigitChars 10 l n := by
    intro l
    induction l with
    | nil => intro n _; rfl
    | cons c rest ih =>
        intro n hl
        have hc := digitValue?_of_isDigit (hl c (List.mem_cons_self ..))
        have hvalue : n * 10 + (digitValue? 10 c).getD 0
            = 10 * n + (c.toNat - '0'.toNat) := by
          rw [hc, Nat.mul_comm]
          rfl
        rw [List.foldl_cons, hvalue, ih _ fun d hd =>
          hl d (List.mem_cons_of_mem _ hd)]
        rfl
  exact hstep l 0 h

/-- A digit is less than its base. -/
theorem digitValue?_lt {base n : Nat} {c : Char}
    (h : digitValue? base c = some n) : n < base := by
  unfold digitValue? at h
  simp only [Option.ite_none_right_eq_some, Option.some.injEq] at h
  obtain ⟨hlt, rfl⟩ := h
  exact hlt

/-- So many digits are worth less than that power of the base. -/
theorem digitsValue_lt {base : Nat} (hbase : 0 < base) (l : List Char) :
    digitsValue base l < base ^ l.length := by
  induction l using List.reverseRecOn with
  | nil => exact Nat.one_pos
  | append_singleton l c ih =>
      have hc : (digitValue? base c).getD 0 < base := by
        cases hdigit : digitValue? base c with
        | none => exact hbase
        | some n => exact digitValue?_lt hdigit
      have hlast : digitsValue base (l ++ [c])
          = digitsValue base l * base + (digitValue? base c).getD 0 := by
        unfold digitsValue
        rw [List.foldl_append]
        rfl
      calc digitsValue base (l ++ [c])
          = digitsValue base l * base + (digitValue? base c).getD 0 := hlast
        _ < digitsValue base l * base + base := Nat.add_lt_add_left hc _
        _ = (digitsValue base l + 1) * base := (Nat.succ_mul ..).symm
        _ ≤ base ^ l.length * base := Nat.mul_le_mul_right _ ih
        _ = base ^ (l ++ [c]).length := by rw [List.length_append]; rfl

/-- A number that is written out is worth itself. -/
theorem digitsValue_toString (n : Nat) :
    digitsValue 10 (toString n).toList = n := by
  rw [digitsValue_eq fun c hc => isDigit_of_mem_toString hc, toList_toString,
    Nat.ofDigitChars_toDigits (by decide) (Nat.le_refl _)]

/-- Zeros in front of digits do not count. -/
theorem digitsValue_zeros (k : Nat) (l : List Char) :
    digitsValue 10 (List.replicate k '0' ++ l) = digitsValue 10 l := by
  induction k with
  | zero => rfl
  | succ k ih => exact ih

/-- The number that a text of digits spells is read back. -/
theorem spelled?_toString (n : Nat) :
    spelled? 10 (toString n).toList = some n := by
  have hall : (toString n).toList.all (isDigitOf 10) = true := by
    rw [List.all_eq_true]
    intro c hc
    rw [isDigitOf, digitValue?_of_isDigit (isDigit_of_mem_toString hc)]
    rfl
  have hsome : (toString n).toList.isEmpty = false := by
    rw [Bool.eq_false_iff]
    intro h
    exact toList_toString_ne_nil n (List.isEmpty_iff.1 h)
  unfold spelled?
  rw [hall, hsome, digitsValue_toString]
  rfl

end Text

-- ============================================================ filled up

/-- A padded number has zeros in front of its digits. -/
theorem toList_padDecimal (width n : Nat) :
    (padDecimal width n).toList
      = List.replicate (width - (toString n).toList.length) '0'
        ++ (toString n).toList := by
  rw [padDecimal, String.toList_ofList]

theorem isDigit_of_mem_padDecimal {width n : Nat} {c : Char}
    (h : c ∈ (padDecimal width n).toList) : c.isDigit = true := by
  rw [toList_padDecimal] at h
  rcases List.mem_append.1 h with h | h
  · rw [List.eq_of_mem_replicate h]
    decide
  · exact Text.isDigit_of_mem_toString h

/-- What is filled up is read back. -/
theorem digitsValue_padDecimal (width n : Nat) :
    Text.digitsValue 10 (padDecimal width n).toList = n := by
  rw [toList_padDecimal, Text.digitsValue_zeros, Text.digitsValue_toString]

/-- A number has the digits it is filled up to, unless it has more by
itself. -/
theorem length_padDecimal {width n : Nat} (hwidth : 0 < width)
    (h : n < 10 ^ width) :
    (padDecimal width n).toList.length = width := by
  have hlen := (Nat.length_toDigits_le_iff (by decide) hwidth).2 h
  rw [toList_padDecimal, List.length_append, List.length_replicate,
    Text.toList_toString]
  omega

/-- A padded number is at least as long as is asked for. -/
theorem le_length_padDecimal (width n : Nat) :
    width ≤ (padDecimal width n).toList.length := by
  rw [toList_padDecimal, List.length_append, List.length_replicate]
  omega

end Obfuscator
