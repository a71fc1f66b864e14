/-
Which identifiers a renaming finds, in which order, and the names it gives
them.

An identifier is found in the first line that it occurs in, be it inside a
longer word, and the identifiers that are first found in one line stand in
the order of the candidates. So the identifiers found are what occurs in the
lines, line after line, each where it comes first
(`NamingScheme.discovered`). Their numbers are their places.

A table holds just that at every moment: after some lines it is the table of
what was found in them (`NamingScheme.tableOf`). One more identifier is one
more entry (`assign_tableOf`), so what is known of a prefix of the lines
stays: new identifiers only come behind those that are there. No new name is
given twice (`newName_injective`).
-/
import Mathlib.Data.List.Induction
import Mathlib.Data.List.Infix
import Mathlib.Data.List.Nodup
import Mathlib.Data.List.Perm.Subperm
import Obfuscator.Proofs.Text.Hexadecimal
import Obfuscator.Rename

namespace Obfuscator

-- ======================================================= first occurrences

section EraseDups

variable {α : Type} [BEq α] [LawfulBEq α] {l : List α} {a : α}

/-- Elements that are there already do not count. -/
theorem eraseDups_append_of_subset {more : List α} (h : ∀ a ∈ more, a ∈ l) :
    (l ++ more).eraseDups = l.eraseDups := by
  have hold : more.removeAll l = [] := by simpa [List.removeAll] using h
  rw [List.eraseDups_append, hold, List.eraseDups_nil, List.append_nil]

/-- A further element counts if it is new. -/
theorem eraseDups_concat_of_mem (h : a ∈ l) :
    (l ++ [a]).eraseDups = l.eraseDups :=
  eraseDups_append_of_subset (by simpa using h)

/-- One more element that is new stays. -/
theorem eraseDups_concat_of_notMem (h : a ∉ l) :
    (l ++ [a]).eraseDups = l.eraseDups ++ [a] := by
  have hnew : [a].removeAll l = [a] := by simp [List.removeAll, h]
  rw [List.eraseDups_append, hnew, List.eraseDups_cons]
  rfl

theorem nodup_eraseDups (l : List α) : l.eraseDups.Nodup := by
  induction l using List.reverseRecOn with
  | nil => exact List.nodup_nil
  | append_singleton l a ih =>
      by_cases h : a ∈ l
      · rwa [eraseDups_concat_of_mem h]
      · rw [eraseDups_concat_of_notMem h, ← List.concat_eq_append]
        exact ih.concat (by simpa using h)

/-- What is left stands in the order in which it comes first. -/
theorem pairwise_idxOf_eraseDups (l : List α) :
    l.eraseDups.Pairwise fun a b => l.idxOf a < l.idxOf b := by
  induction l using List.reverseRecOn with
  | nil => exact .nil
  | append_singleton l a ih =>
      have hold : l.eraseDups.Pairwise fun b c =>
          (l ++ [a]).idxOf b < (l ++ [a]).idxOf c := by
        refine ih.imp_of_mem fun {b c} hb hc hlt => ?_
        rw [List.mem_eraseDups] at hb hc
        rwa [List.idxOf_append_of_mem hb, List.idxOf_append_of_mem hc]
      by_cases ha : a ∈ l
      · rwa [eraseDups_concat_of_mem ha]
      · rw [eraseDups_concat_of_notMem ha, List.pairwise_append]
        refine ⟨hold, List.pairwise_singleton _ a, fun b hb c hc => ?_⟩
        rw [List.mem_eraseDups] at hb
        rw [List.mem_singleton.1 hc, List.idxOf_append_of_mem hb,
          List.idxOf_append_of_notMem ha]
        have hlt := List.idxOf_lt_length_of_mem hb
        omega

/-- Elements that are found again later keep their places. -/
theorem idxOf_eraseDups_append (h : a ∈ l) (more : List α) :
    (l ++ more).eraseDups.idxOf a = l.eraseDups.idxOf a := by
  rw [List.eraseDups_append, List.idxOf_append_of_mem (by simpa using h)]

/-- Where nothing is repeated nothing is left out. -/
theorem eraseDups_of_nodup (h : l.Nodup) : l.eraseDups = l := by
  induction l with
  | nil => rfl
  | cons a l ih =>
      obtain ⟨ha, hl⟩ := List.nodup_cons.1 h
      have hkeep : (l.filter fun b => !b == a) = l := by
        refine List.filter_eq_self.2 fun b hb => ?_
        rw [Bool.not_eq_true', beq_eq_false_iff_ne]
        rintro rfl
        exact ha hb
      rw [List.eraseDups_cons, hkeep, ih hl]

/-- It is all the same whether repeated elements are left out first, or
those of a kind. -/
theorem eraseDups_filter (p : α → Bool) (l : List α) :
    (l.filter p).eraseDups = l.eraseDups.filter p := by
  induction l using List.reverseRecOn with
  | nil => rfl
  | append_singleton l a ih =>
      by_cases ha : a ∈ l
      · rw [eraseDups_concat_of_mem ha, ← ih, List.filter_append]
        by_cases hp : p a = true
        · rw [List.filter_cons_of_pos hp, List.filter_nil,
            eraseDups_concat_of_mem (List.mem_filter.2 ⟨ha, hp⟩)]
        · rw [List.filter_cons_of_neg hp, List.filter_nil, List.append_nil]
      · rw [eraseDups_concat_of_notMem ha, List.filter_append,
          List.filter_append, ← ih]
        by_cases hp : p a = true
        · rw [List.filter_cons_of_pos hp, List.filter_nil,
            eraseDups_concat_of_notMem fun h => ha (List.mem_filter.1 h).1]
        · rw [List.filter_cons_of_neg hp, List.filter_nil, List.append_nil,
            List.append_nil]

/-- What is found first is never found in a repeated element. -/
theorem findSome?_eraseDups {β : Type} (f : α → Option β) (l : List α) :
    l.eraseDups.findSome? f = l.findSome? f := by
  induction l using List.reverseRecOn with
  | nil => rfl
  | append_singleton l a ih =>
      by_cases ha : a ∈ l
      · rw [eraseDups_concat_of_mem ha, ih, List.findSome?_append]
        cases hfound : l.findSome? f with
        | some b => rfl
        | none =>
            have hnone : ∀ b ∈ [a], f b = none := by
              simpa using List.findSome?_eq_none_iff.1 hfound a ha
            rw [List.findSome?_eq_none_iff.2 hnone, Option.none_or]
      · rw [eraseDups_concat_of_notMem ha, List.findSome?_append,
          List.findSome?_append, ih]

/-- Of two parts it counts what is first in each. -/
theorem eraseDups_append_congr {l₁ l₂ m₁ m₂ : List α}
    (hl : l₁.eraseDups = l₂.eraseDups) (hm : m₁.eraseDups = m₂.eraseDups) :
    (l₁ ++ m₁).eraseDups = (l₂ ++ m₂).eraseDups := by
  have hmem : ∀ a, a ∈ l₁ ↔ a ∈ l₂ := fun a => by
    rw [← List.mem_eraseDups (l := l₁), hl, List.mem_eraseDups]
  have helem : ∀ a, l₁.elem a = l₂.elem a := fun a => by
    rw [Bool.eq_iff_iff, List.elem_iff, List.elem_iff, hmem]
  rw [List.eraseDups_append, List.eraseDups_append, hl, List.removeAll,
    List.removeAll, eraseDups_filter, eraseDups_filter, hm]
  simp only [helem]

end EraseDups

-- ================================================================ pieces

/-- A piece of text occurs in a line if the line has it somewhere. -/
theorem occursIn_eq_true_iff (piece : List Char) :
    ∀ line : List Char, occursIn piece line = true ↔ piece <:+: line := by
  intro line
  induction line with
  | nil => rw [occursIn, List.isEmpty_iff, List.infix_nil]
  | cons c rest ih =>
      rw [occursIn, Bool.or_eq_true, ih, List.isPrefixOf_iff_prefix,
        List.infix_cons_iff]

namespace NamingScheme

variable (s : NamingScheme)

/-- The new name with a given number. -/
def newName (k : Nat) : String := s.stem ++ String.ofList (Text.hexPadded 4 k)

/-- The candidates that a line has somewhere, in their order. -/
def occurring (line : List Char) : List String :=
  s.candidates.filter fun c => c.toList <:+: line

/-- The identifiers found in some lines, in the order in which they are
found. -/
def discovered (lines : List (List Char)) : List String :=
  (lines.flatMap s.occurring).eraseDups

/-- The table in which these identifiers have the first new names, in this
order. -/
def tableOf (names : List String) : NameTable where
  entries := names.mapIdx fun k c => ⟨c, s.newName k⟩
  next := names.length

variable {s} {names : List String} {c : String}

/-- The table of a list has the names of the list, in order. -/
theorem map_identifier_tableOf (s : NamingScheme) (names : List String) :
    (s.tableOf names).entries.map Assignment.identifier = names := by
  exact List.ext_getElem (by simp [tableOf]) (by simp [tableOf])

/-- An identifier of the table has a new name. -/
theorem assigned_tableOf_iff :
    (s.tableOf names).assigned c = true ↔ c ∈ names := by
  rw [NameTable.assigned, List.any_eq_true]
  simp only [decide_eq_true_eq]
  rw [← List.mem_map (f := Assignment.identifier), map_identifier_tableOf]

/-- A name that is assigned is the next one of the list. -/
theorem assign_tableOf (s : NamingScheme) (names : List String) (c : String) :
    (s.tableOf names).assign s.stem c = s.tableOf (names ++ [c]) := by
  simp [tableOf, NameTable.assign, newName, List.mapIdx_append]

/-- An entry of the table is for one of the identifiers, and has a new name
for it. -/
theorem exists_of_mem_entries_tableOf {a : Assignment}
    (h : a ∈ (s.tableOf names).entries) :
    a.identifier ∈ names ∧ ∃ k, a.replacement = s.newName k := by
  obtain ⟨k, hk, rfl⟩ := List.mem_mapIdx.1 h
  exact ⟨List.getElem_mem hk, k, rfl⟩

-- ============================================================= new names

/-- A new name is the stem and a number of four digits or more. -/
theorem toList_newName (s : NamingScheme) (k : Nat) :
    (s.newName k).toList = s.stem.toList ++ Text.hexPadded 4 k := by
  rw [newName, String.toList_append, String.toList_ofList]

/-- A new name is the stem and a number of at least four digits. -/
theorem newName_eq (s : NamingScheme) (k : Nat) :
    s.newName k = s.stem ++ String.ofList
      ((Nat.toDigits 16 k).leftpad 4 '0') := by
  rw [newName, Text.hexPadded_eq_leftpad (by decide)]

/-- Four digits are enough up to a number, and no name after that one is as
short. -/
theorem length_newName_eq_iff (s : NamingScheme) (k : Nat) :
    (s.newName k).length = s.stem.length + 4 ↔ k ≤ 0xffff := by
  have hdigits := Text.length_hexPadded_eq_iff (show 0 < 4 by decide) k
  rw [newName, String.length_append, String.length_ofList]
  omega

/-- No name is given twice. -/
theorem newName_injective (s : NamingScheme) :
    Function.Injective s.newName := by
  intro j k h
  have hlist := congrArg String.toList h
  rw [toList_newName, toList_newName] at hlist
  exact Text.hexPadded_injective 4 (List.append_cancel_left hlist)

/-- A new name is not empty, be the stem what it may. -/
theorem toList_newName_ne_nil (s : NamingScheme) (k : Nat) :
    (s.newName k).toList ≠ [] := by
  intro hnil
  rw [toList_newName] at hnil
  have hlength := Text.le_length_hexPadded 4 k
  rw [(List.append_eq_nil_iff.1 hnil).2] at hlength
  exact absurd hlength (by decide)

-- ================================================================ bounds

variable {line : List Char}

/-- A candidate occurs in a line if the line has it somewhere. -/
theorem mem_occurring_iff :
    c ∈ s.occurring line ↔ c ∈ s.candidates ∧ c.toList <:+: line := by
  rw [occurring, List.mem_filter, decide_eq_true_eq]

theorem mem_candidates_of_mem_occurring (h : c ∈ s.occurring line) :
    c ∈ s.candidates :=
  (mem_occurring_iff.1 h).1

/-- Found are the candidates that one of the lines has somewhere. -/
theorem mem_discovered_iff {lines : List (List Char)} :
    c ∈ s.discovered lines ↔ c ∈ s.candidates ∧ ∃ line ∈ lines,
      c.toList <:+: line := by
  rw [discovered, List.mem_eraseDups, List.mem_flatMap]
  simp only [mem_occurring_iff]
  constructor
  · rintro ⟨line, hline, hc, hoccurs⟩
    exact ⟨hc, line, hline, hoccurs⟩
  · rintro ⟨hc, line, hline, hoccurs⟩
    exact ⟨line, hline, hc, hoccurs⟩

/-- What a line adds to candidates are candidates. -/
theorem mem_candidates_of_mem_append_occurring {seen : List String}
    (hseen : ∀ c ∈ seen, c ∈ s.candidates) :
    ∀ c ∈ seen ++ s.occurring line, c ∈ s.candidates :=
  fun c hc => (List.mem_append.1 hc).elim
    (hseen c) mem_candidates_of_mem_occurring

/-- There are no more different names than candidates. -/
theorem length_eraseDups_le_candidates {seen : List String}
    (h : ∀ c ∈ seen, c ∈ s.candidates) :
    seen.eraseDups.length ≤ s.candidates.eraseDups.length := by
  refine ((nodup_eraseDups seen).subperm fun c hc => ?_).length_le
  rw [List.mem_eraseDups] at hc ⊢
  exact h c hc

/-- At most as many identifiers are found as there are different candidates. -/
theorem length_discovered_le (s : NamingScheme) (lines : List (List Char)) :
    (s.discovered lines).length ≤ s.candidates.eraseDups.length := by
  refine length_eraseDups_le_candidates fun c hc => ?_
  exact (mem_discovered_iff.1 (List.mem_eraseDups.2 hc)).1

end NamingScheme

end Obfuscator
