/-
An instant is read back from its text.

The text of an instant is cut at fixed places: each field is a number in as
many digits as it is filled up to, and behind it stands a character that is
no digit. So every field has a lemma of one form, that it is read and what
stands behind it is left, and the text is read by putting them in a row
(`parse?_render`). That the date is one of the calendar and tells its day is
`Date.isValid_ofDayNumber` and `Date.dayNumber_ofDayNumber`.

It is asked of an instant that it is one that a clock can show (`IsShown`):
a leap second is the last second of a minute, told by nanoseconds of 10^9 or
more, and there is no second one after it. This asks for no more than is
needed, because no text names another instant (`isShown_iff_exists_text`).
-/
import Obfuscator.Proofs.Text.Decimal
import Obfuscator.Proofs.Time.Calendar

namespace Obfuscator.Instant

-- =============================================================== numbers

/-- A padded number is read back at its width. -/
theorem readNumber?_padDecimal {width n : Nat} (hwidth : 0 < width)
    (h : n < 10 ^ width) (rest : List Char) :
    readNumber? width ((padDecimal width n).toList ++ rest)
      = some (n, rest) := by
  have hlen := length_padDecimal hwidth h
  have htake : ((padDecimal width n).toList ++ rest).take width
      = (padDecimal width n).toList :=
    List.take_left' hlen
  have hdrop : ((padDecimal width n).toList ++ rest).drop width = rest :=
    List.drop_left' hlen
  have hdigits : (padDecimal width n).toList.all Char.isDigit = true :=
    List.all_eq_true.2 fun c hc => isDigit_of_mem_padDecimal hc
  unfold readNumber?
  simp only
  rw [htake, hdrop, if_pos ⟨hlen, hdigits⟩, digitsValue_padDecimal]

/-- Digits end at a character that is none. -/
theorem takeWhile_padDecimal (width n : Nat) {c : Char}
    (hc : c.isDigit = false) (rest : List Char) :
    ((padDecimal width n).toList ++ c :: rest).takeWhile Char.isDigit
        = (padDecimal width n).toList
      ∧ ((padDecimal width n).toList ++ c :: rest).dropWhile Char.isDigit
        = c :: rest := by
  have hdigits : ∀ d ∈ (padDecimal width n).toList, d.isDigit = true :=
    fun d hd => isDigit_of_mem_padDecimal hd
  rw [List.takeWhile_append_of_pos hdigits,
    List.dropWhile_append_of_pos hdigits]
  simp [hc]

-- ================================================================= years

/-- A year with a sign is read up to the dash. -/
theorem readLong_padDecimal (sign : Int) (n : Nat) (rest : List Char) :
    readYear?.readLong sign ((padDecimal 4 n).toList ++ '-' :: rest)
      = some (sign * n, '-' :: rest) := by
  obtain ⟨htake, hdrop⟩ := takeWhile_padDecimal 4 n (c := '-') (by decide) rest
  unfold readYear?.readLong
  simp only
  rw [htake, hdrop, if_pos (le_length_padDecimal 4 n), digitsValue_padDecimal]

/-- A year of four digits is read without a sign. -/
theorem readYear?_padDecimal {n : Nat} (h : n < 10000) (rest : List Char) :
    readYear? ((padDecimal 4 n).toList ++ rest) = some ((n : Int), rest) := by
  have hread := readNumber?_padDecimal (show 0 < 4 by decide) h rest
  have hlen := length_padDecimal (show 0 < 4 by decide) h
  cases hdigits : (padDecimal 4 n).toList with
  | nil =>
      rw [hdigits] at hlen
      exact absurd hlen (by decide)
  | cons c digits =>
      have hc : c.isDigit = true :=
        isDigit_of_mem_padDecimal (hdigits ▸ List.mem_cons_self ..)
      rw [hdigits] at hread
      rw [List.cons_append] at hread ⊢
      unfold readYear?
      split
      case h_1 heq =>
        exact absurd (List.cons.inj heq).1 (Text.ne_of_isDigit hc (by decide))
      case h_2 heq =>
        exact absurd (List.cons.inj heq).1 (Text.ne_of_isDigit hc (by decide))
      case h_3 =>
        rw [hread]
        rfl

theorem readYear?_minus (s : List Char) :
    readYear? ('-' :: s) = readYear?.readLong (-1) s := rfl

theorem readYear?_plus (s : List Char) :
    readYear? ('+' :: s) = readYear?.readLong 1 s := rfl

/-- A year is read back, before and after the years that have four digits
too. -/
theorem readYear?_renderYear (year : Int) (rest : List Char) :
    readYear? ((renderYear year).toList ++ '-' :: rest)
      = some (year, '-' :: rest) := by
  unfold renderYear
  by_cases hshort : 0 ≤ year ∧ year ≤ 9999
  · rw [if_pos hshort, readYear?_padDecimal (by omega),
      Int.toNat_of_nonneg hshort.1]
  · rw [if_neg hshort]
    by_cases hneg : year < 0
    · have hsign : (-1 : Int) * year.natAbs = year := by omega
      rw [if_pos hneg, String.toList_append, show "-".toList = ['-'] from rfl,
        List.singleton_append, List.cons_append,
        readYear?_minus, readLong_padDecimal, hsign]
    · have hsign : (1 : Int) * year.natAbs = year := by omega
      rw [if_neg hneg, String.toList_append, show "+".toList = ['+'] from rfl,
        List.singleton_append, List.cons_append,
        readYear?_plus, readLong_padDecimal, hsign]

-- ============================================================= fractions

/-- Up to nine digits after the point, each read for what it counts in
nanoseconds. -/
theorem readFraction?_padDecimal (width n : Nat) (hwidth : 0 < width)
    (hnine : width ≤ 9) (h : n < 10 ^ width) (rest : List Char) :
    readFraction? ('.' :: ((padDecimal width n).toList ++ 'Z' :: rest))
      = some (n * 10 ^ (9 - width), 'Z' :: rest) := by
  have hlen := length_padDecimal hwidth h
  obtain ⟨htake, hdrop⟩ :=
    takeWhile_padDecimal width n (c := 'Z') (by decide) rest
  have hsome : (padDecimal width n).toList.isEmpty = false := by
    rw [List.isEmpty_eq_false_iff_exists_mem]
    exact List.exists_mem_of_length_pos (by omega)
  have hkept : (padDecimal width n).toList.take 9
      = (padDecimal width n).toList :=
    List.take_of_length_le (by omega)
  unfold readFraction?
  simp only
  rw [htake, hdrop, hsome, hkept, digitsValue_padDecimal, hlen]
  rfl

theorem toList_point (s : String) : ("." ++ s).toList = '.' :: s.toList := by
  rw [String.toList_append]
  rfl

/-- The fraction of a second is read back, however many digits it takes. -/
theorem readFraction?_renderFraction {nanos : Nat} (h : nanos < 1000000000)
    (rest : List Char) :
    readFraction? ((renderFraction nanos).toList ++ 'Z' :: rest)
      = some (nanos, 'Z' :: rest) := by
  unfold renderFraction
  by_cases hzero : nanos = 0
  · rw [if_pos hzero, hzero]
    rfl
  · rw [if_neg hzero]
    by_cases hmilli : nanos % 1000000 = 0
    · have hread := readFraction?_padDecimal 3 (nanos / 1000000) (by decide)
        (by decide) (by omega) rest
      rw [show nanos / 1000000 * 10 ^ (9 - 3) = nanos by omega] at hread
      rw [if_pos hmilli, toList_point]
      exact hread
    · rw [if_neg hmilli]
      by_cases hmicro : nanos % 1000 = 0
      · have hread := readFraction?_padDecimal 6 (nanos / 1000) (by decide)
          (by decide) (by omega) rest
        rw [show nanos / 1000 * 10 ^ (9 - 6) = nanos by omega] at hread
        rw [if_pos hmicro, toList_point]
        exact hread
      · have hread := readFraction?_padDecimal 9 nanos (by decide)
          (by decide) (by omega) rest
        rw [show nanos * 10 ^ (9 - 9) = nanos by omega] at hread
        rw [if_neg hmicro, toList_point]
        exact hread

-- ============================================================== instants

/-- The text of an instant, field by field. -/
def fields (date : Date) (hour minute second nanos : Nat) : List Char :=
  (renderYear date.year).toList ++ '-' ::
    ((padDecimal 2 date.month).toList ++ '-' ::
      ((padDecimal 2 date.day).toList ++ 'T' ::
        ((padDecimal 2 hour).toList ++ ':' ::
          ((padDecimal 2 minute).toList ++ ':' ::
            ((padDecimal 2 second).toList ++
              ((renderFraction nanos).toList ++ ['Z']))))))

/-- What one step reads is passed on to the next. -/
theorem bind_of_eq_some {α β : Type} {o : Option α} {a : α} (h : o = some a)
    (f : α → Option β) :
    (o >>= f) = f a := by
  rw [h]
  rfl

theorem skip?_cons (c : Char) (rest : List Char) :
    parse?.skip? c (c :: rest) = some rest :=
  if_pos rfl

/-- What the fields of a text come to. -/
theorem parse?_of_fields {text : String} {date : Date}
    {hour minute second nanos : Nat}
    (htext : text.toList = fields date hour minute second nanos)
    (hdate : date.IsValid) (hhour : hour < 24) (hminute : minute < 60)
    (hsecond : second ≤ 60) (hnanos : nanos < 1000000000) :
    parse? text
      = some ⟨date.dayNumber * 86400
            + (hour * 3600 + minute * 60
              + (second - if second = 60 then 1 else 0) : Nat),
          nanos + (if second = 60 then 1 else 0) * 1000000000⟩ := by
  have hday : date.day < 10 ^ 2 := by
    have hle := hdate.day_le
    have hmax := Date.daysInMonth_le date.year date.month
    omega
  have hmonth : date.month < 10 ^ 2 := by
    have hle := hdate.month_le
    omega
  have hgood : 1 ≤ date.month ∧ date.month ≤ 12 ∧ 1 ≤ date.day
      ∧ date.day ≤ Date.daysInMonth date.year date.month
      ∧ hour < 24 ∧ minute < 60 ∧ second ≤ 60 :=
    ⟨hdate.one_le_month, hdate.month_le, hdate.one_le_day, hdate.day_le, hhour,
      hminute, hsecond⟩
  unfold parse?
  rw [htext, fields]
  -- One field after another; what is to be read later stays as it is
  -- meanwhile.
  refine (bind_of_eq_some (readYear?_renderYear _ _) _).trans ?_
  refine (bind_of_eq_some (skip?_cons _ _) _).trans ?_
  refine (bind_of_eq_some
    (readNumber?_padDecimal (by decide) hmonth _) _).trans ?_
  refine (bind_of_eq_some (skip?_cons _ _) _).trans ?_
  refine (bind_of_eq_some
    (readNumber?_padDecimal (by decide) hday _) _).trans ?_
  refine (bind_of_eq_some rfl _).trans ?_
  refine (bind_of_eq_some
    (readNumber?_padDecimal (by decide) (by omega) _) _).trans ?_
  refine (bind_of_eq_some (skip?_cons _ _) _).trans ?_
  refine (bind_of_eq_some
    (readNumber?_padDecimal (by decide) (by omega) _) _).trans ?_
  refine (bind_of_eq_some (skip?_cons _ _) _).trans ?_
  refine (bind_of_eq_some
    (readNumber?_padDecimal (by decide) (by omega) _) _).trans ?_
  refine (bind_of_eq_some (readFraction?_renderFraction hnanos _) _).trans ?_
  refine (bind_of_eq_some rfl _).trans ?_
  refine (if_pos ⟨rfl, hgood⟩).trans ?_
  exact congrArg (fun seconds => some (Instant.mk seconds _)) (Int.sub_zero _)

/-- What a clock can show: a second has no more than a leap second after it,
and only the last second of a minute has one. -/
structure IsShown (t : Instant) : Prop where
  nanos_lt : t.nanos < 2000000000
  leap : 1000000000 ≤ t.nanos → t.seconds % 60 = 59

instance (t : Instant) : Decidable t.IsShown :=
  decidable_of_iff (t.nanos < 2000000000
    ∧ (1000000000 ≤ t.nanos → t.seconds % 60 = 59))
    ⟨fun h => ⟨h.1, h.2⟩, fun h => ⟨h.nanos_lt, h.leap⟩⟩

/-- The text of an instant is made of the fields of its date and its time
of day. -/
theorem toList_render (t : Instant) :
    t.render.toList
      = fields (Date.ofDayNumber (t.seconds / 86400))
        ((t.seconds % 86400).toNat / 3600)
          ((t.seconds % 86400).toNat / 60 % 60)
          ((t.seconds % 86400).toNat % 60 + t.nanos / 1000000000)
            (t.nanos % 1000000000) := by
  simp [render, fields, String.toList_append]

/-- An instant is read back from its text. -/
theorem parse?_render {t : Instant} (h : t.IsShown) :
    parse? t.render = some t := by
  obtain ⟨hnanos, hleap⟩ := h
  have hsecond : (t.seconds % 86400).toNat % 60 + t.nanos / 1000000000
      ≤ 60 := by omega
  rw [parse?_of_fields (toList_render t) (Date.isValid_ofDayNumber _)
    (by omega) (by omega) hsecond (by omega), Date.dayNumber_ofDayNumber]
  obtain ⟨seconds, nanos⟩ := t
  simp only at hnanos hleap hsecond ⊢
  by_cases hlast : (seconds % 86400).toNat % 60 + nanos / 1000000000 = 60
  · rw [if_pos hlast]
    congr 2
    · omega
    · omega
  · rw [if_neg hlast]
    congr 2
    · omega
    · omega

-- ====================================================== what is named

/-- A fraction of a second is less than a second. -/
theorem readFraction?_lt {s rest : List Char} {nanos : Nat}
    (h : readFraction? s = some (nanos, rest)) : nanos < 1000000000 := by
  unfold readFraction? at h
  split at h
  · next after =>
      simp only at h
      split at h
      · cases h
      · generalize hkept : (after.takeWhile Char.isDigit).take 9 = kept at h
        obtain ⟨rfl, -⟩ := Prod.mk.inj (Option.some.inj h)
        have hnine : kept.length ≤ 9 := hkept ▸ List.length_take_le ..
        have hvalue := Text.digitsValue_lt (show 0 < 10 by decide) kept
        calc Text.digitsValue 10 kept * 10 ^ (9 - kept.length)
            < 10 ^ kept.length * 10 ^ (9 - kept.length) :=
              Nat.mul_lt_mul_of_pos_right hvalue (Nat.pow_pos (by decide))
          _ = 10 ^ 9 := by rw [← Nat.pow_add, Nat.add_sub_cancel' hnine]
  · obtain ⟨rfl, -⟩ := Prod.mk.inj (Option.some.inj h)
    decide

/-- Zones lie apart by whole minutes. -/
theorem readOffset?_emod {s rest : List Char} {offset : Int}
    (h : readOffset? s = some (offset, rest)) : offset % 60 = 0 := by
  unfold readOffset? at h
  split at h
  · obtain ⟨rfl, -⟩ := Prod.mk.inj (Option.some.inj h)
    rfl
  · obtain ⟨rfl, -⟩ := Prod.mk.inj (Option.some.inj h)
    rfl
  · split at h
    · simp only [Option.bind_eq_bind, Option.bind_eq_some_iff] at h
      obtain ⟨⟨hours, s₁⟩, -, h⟩ := h
      simp only at h
      split at h
      · obtain ⟨⟨minutes, s₂⟩, -, h⟩ := Option.bind_eq_some_iff.1 h
        simp only at h
        split at h
        · obtain ⟨rfl, -⟩ := Prod.mk.inj (Option.some.inj h)
          split <;> omega
        · cases h
      · cases h
    · cases h
  · cases h

/-- What fields come to is shown by a clock, in whatever zone they are
given. -/
theorem isShown_of_fields (days : Int) (hour minute second : Nat)
    {offset : Int} {nanos : Nat} (hoffset : offset % 60 = 0)
    (hnanos : nanos < 1000000000) :
    IsShown
      ⟨days * 86400
          + (hour * 3600 + minute * 60
            + (second - if second = 60 then 1 else 0) : Nat) - offset,
        nanos + (if second = 60 then 1 else 0) * 1000000000⟩ := by
  by_cases hleap : second = 60
  · rw [if_pos hleap, hleap]
    refine ⟨?_, fun _ => ?_⟩
    · show nanos + 1 * 1000000000 < 2000000000
      omega
    · simp only
      omega
  · rw [if_neg hleap]
    refine ⟨?_, fun hover => ?_⟩
    · show nanos + 0 * 1000000000 < 2000000000
      omega
    · replace hover : 1000000000 ≤ nanos + 0 * 1000000000 := hover
      omega

/-- A text names no other instants than those that a clock can show. -/
theorem isShown_of_parse? {text : String} {t : Instant}
    (h : parse? text = some t) :
    t.IsShown := by
  unfold parse? at h
  obtain ⟨⟨year, s₁⟩, -, h⟩ := Option.bind_eq_some_iff.1 h
  obtain ⟨s₂, -, h⟩ := Option.bind_eq_some_iff.1 h
  obtain ⟨⟨month, s₃⟩, -, h⟩ := Option.bind_eq_some_iff.1 h
  obtain ⟨s₄, -, h⟩ := Option.bind_eq_some_iff.1 h
  obtain ⟨⟨day, s₅⟩, -, h⟩ := Option.bind_eq_some_iff.1 h
  dsimp only at h
  -- The date and the clock may have any of three letters between them.
  split at h
  case h_4 => cases h
  all_goals
    obtain ⟨s₆, -, h⟩ := Option.bind_eq_some_iff.1 h
    obtain ⟨⟨hour, s₇⟩, -, h⟩ := Option.bind_eq_some_iff.1 h
    obtain ⟨s₈, -, h⟩ := Option.bind_eq_some_iff.1 h
    obtain ⟨⟨minute, s₉⟩, -, h⟩ := Option.bind_eq_some_iff.1 h
    obtain ⟨s₁₀, -, h⟩ := Option.bind_eq_some_iff.1 h
    obtain ⟨⟨second, s₁₁⟩, -, h⟩ := Option.bind_eq_some_iff.1 h
    obtain ⟨⟨nanos, s₁₂⟩, hfraction, h⟩ := Option.bind_eq_some_iff.1 h
    obtain ⟨⟨offset, s₁₃⟩, hoffset, h⟩ := Option.bind_eq_some_iff.1 h
    obtain ⟨-, h⟩ := Option.ite_none_right_eq_some.1 h
    obtain rfl := Option.some.inj h
    exact isShown_of_fields _ _ _ _ (readOffset?_emod hoffset)
      (readFraction?_lt hfraction)

/-- The instants that a clock can show are those that have a text. -/
theorem isShown_iff_exists_text (t : Instant) :
    t.IsShown ↔ ∃ text, parse? text = some t := by
  constructor
  · intro h
    exact ⟨t.render, parse?_render h⟩
  · intro h
    obtain ⟨text, htext⟩ := h
    exact isShown_of_parse? htext

/-- A leap second inside a minute would have the text of the second after
it. -/
example : render ⟨5, 1500000000⟩ = render ⟨6, 500000000⟩ := by decide

end Obfuscator.Instant
