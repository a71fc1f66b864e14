/-
File names and their extensions.

The extension of a name is what follows its last dot, if that is not empty; the
stem is what stands before that dot. A name without a dot, or with nothing
after its last dot, has no extension and is its own stem. The same split serves
the classification of a file by language and the naming of what is written, so
the two cannot disagree.
-/
namespace Obfuscator.FileName

/-- What stands before and after the last dot. -/
def splitLastDot : List Char → Option (List Char × List Char)
  | [] => none
  | c :: rest =>
    match splitLastDot rest with
    | some (before, after) => some (c :: before, after)
    | none => if c = '.' then some ([], rest) else none

/-- The stem and the extension of a name that has an extension. -/
def split? (name : String) : Option (String × String) :=
  match splitLastDot name.toList with
  | some (before, after) =>
    if after.isEmpty then none
    else some (String.ofList before, String.ofList after)
  | none => none

/-- The text after the last dot, if it is not empty. -/
def extension? (name : String) : Option String :=
  (split? name).map (·.2)

/-- The name without its extension; a name that has none is its own stem. -/
def stem (name : String) : String :=
  match split? name with
  | some (before, _) => before
  | none => name

-- ================================================== laws of the split

/-- Only a name without a dot has no last one. -/
theorem splitLastDot_eq_none_iff {s : List Char} :
    splitLastDot s = none ↔ '.' ∉ s := by
  induction s with
  | nil => simp [splitLastDot]
  | cons c rest ih =>
    rw [splitLastDot, List.mem_cons, not_or, ← ih]
    cases splitLastDot rest with
    | some parts => simp
    | none =>
      by_cases hc : c = '.'
      · simp [hc]
      · simp [hc, Ne.symm hc]

theorem splitLastDot_eq_some {s before after : List Char}
    (h : splitLastDot s = some (before, after)) :
    s = before ++ '.' :: after ∧ '.' ∉ after := by
  induction s generalizing before with
  | nil => simp [splitLastDot] at h
  | cons c rest ih =>
    unfold splitLastDot at h
    split at h
    · rename_i b a hrest
      simp only [Option.some.injEq, Prod.mk.injEq] at h
      obtain ⟨rfl, rfl⟩ := h
      obtain ⟨hs, ha⟩ := ih hrest
      exact ⟨by rw [hs]; rfl, ha⟩
    · rename_i hrest
      split at h
      · rename_i hc
        simp only [Option.some.injEq, Prod.mk.injEq] at h
        obtain ⟨rfl, rfl⟩ := h
        exact ⟨by rw [hc]; rfl, splitLastDot_eq_none_iff.1 hrest⟩
      · cases h

theorem splitLastDot_append {before after : List Char} (h : '.' ∉ after) :
    splitLastDot (before ++ '.' :: after) = some (before, after) := by
  induction before with
  | nil => simp [splitLastDot, splitLastDot_eq_none_iff.2 h]
  | cons c rest ih => simp [splitLastDot, ih]

end Obfuscator.FileName
