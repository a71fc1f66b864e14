/-
How a language is found, by its tag, by an extension and by the name of a file.

Each of the three goes through the languages in turn and takes the first
that fits. No two languages fit one tag or one extension (`HasTag.unique`,
`HasExtension.unique`), by comparison of the tables with themselves; so the
first that fits is the only one, and what is found is what fits, in whatever
order the languages stand (`find?_eq_some_iff`). The tables are in ASCII, so
nothing outside ASCII fits.
-/
import Mathlib.Data.List.Nodup
import Mathlib.Data.List.Pairwise
import Obfuscator.Language
import Obfuscator.Proofs.FileName.LastDot
import Obfuscator.Proofs.Text.Case

namespace Obfuscator.Language

open FileName (CutAtLastDot Bare)
open Text (SameButCase IsAscii asciiFold)

-- ============================================================== what fits

/-- A text is the tag of a language, but for the case of its letters. -/
def HasTag (l : Language) (tag : String) : Prop := SameButCase l.id tag

/-- A text is one of the extensions of a language, but for the case of its
letters. -/
def HasExtension (l : Language) (extension : String) : Prop :=
  ∃ e ∈ l.extensions, SameButCase e extension

variable {l k : Language} {tag extension name : String}

theorem hasTag_iff : l.HasTag tag ↔ Text.sameUpToCase l.id tag = true :=
  Text.sameUpToCase_iff_sameButCase.symm

theorem hasExtension_iff :
    l.HasExtension extension
      ↔ (l.extensions.any fun e => Text.sameUpToCase e extension) = true := by
  rw [List.any_eq_true]
  exact exists_congr fun e =>
    and_congr_right fun _ => Text.sameUpToCase_iff_sameButCase.symm

/-- No tag is that of two languages. -/
theorem HasTag.unique (hl : l.HasTag tag) (hk : k.HasTag tag) : l = k := by
  have htable : (all.map fun l => asciiFold l.id).Nodup := by decide +kernel
  rw [hasTag_iff, Text.sameUpToCase_iff] at hl hk
  exact List.inj_on_of_nodup_map htable (mem_all l) (mem_all k)
    (hl.trans hk.symm)

/-- No extension stands for two languages. -/
theorem HasExtension.unique (hl : l.HasExtension extension)
    (hk : k.HasExtension extension) :
    l = k := by
  have htable : (all.flatMap fun l => l.extensions.map asciiFold).Nodup := by
    decide +kernel
  have folded : ∀ {m : Language}, m.HasExtension extension →
      asciiFold extension ∈ m.extensions.map asciiFold := by
    rintro m ⟨e, he, hsame⟩
    rw [← Text.sameUpToCase_iff_sameButCase, Text.sameUpToCase_iff] at hsame
    exact List.mem_map.2 ⟨e, he, hsame⟩
  have : Std.Symm (Function.onFun List.Disjoint fun l : Language =>
      l.extensions.map asciiFold) :=
    ⟨fun _ _ hapart _ hl hk => hapart hk hl⟩
  by_contra hne
  have hapart :=
    (List.nodup_flatMap.1 htable).2.forall (mem_all l) (mem_all k) hne
  exact hapart (folded hl) (folded hk)

/-- A tag is in ASCII. -/
theorem HasTag.forall_isAscii (h : l.HasTag tag) :
    ∀ c ∈ tag.toList, IsAscii c := by
  have htable : ∀ l ∈ all, (l.id.toList.all fun c => decide (IsAscii c))
      = true := by
    decide +kernel
  have hl := htable l (mem_all l)
  simp only [List.all_eq_true, decide_eq_true_eq] at hl
  exact SameButCase.forall_isAscii h hl

/-- An extension that stands for a language is in ASCII. -/
theorem HasExtension.forall_isAscii (h : l.HasExtension extension) :
    ∀ c ∈ extension.toList, IsAscii c := by
  have htable : ∀ l ∈ all, ∀ e ∈ l.extensions,
      (e.toList.all fun c => decide (IsAscii c)) = true := by decide +kernel
  obtain ⟨e, he, hsame⟩ := h
  have hl := htable l (mem_all l) e he
  simp only [List.all_eq_true, decide_eq_true_eq] at hl
  exact hsame.forall_isAscii hl

/-- An extension that stands for a language is not empty. -/
theorem HasExtension.ne_empty (h : l.HasExtension extension) :
    extension ≠ "" := by
  have htable : ∀ l ∈ all, ∀ e ∈ l.extensions, e.toList ≠ [] := by decide
  obtain ⟨e, he, hsame⟩ := h
  rintro rfl
  exact htable l (mem_all l) e he (List.forall₂_nil_right_iff.1 hsame)

-- ============================================================ what is found

/-- Among languages of which only one can fit, the one that fits is found
wherever it stands. -/
theorem find?_eq_some_iff {fits : Language → Bool}
    (hunique : ∀ l k, fits l = true → fits k = true → l = k)
    {order : List Language} (hall : ∀ l, l ∈ order) :
    order.find? fits = some l ↔ fits l = true := by
  constructor
  · exact List.find?_some
  · intro hl
    cases hfound : order.find? fits with
    | none => exact absurd hl (List.find?_eq_none.1 hfound l (hall l))
    | some k => rw [hunique l k hl (List.find?_some hfound)]

/-- The language found by a tag, in any order. -/
theorem find?_id_eq_some_iff {order : List Language} (hall : ∀ l, l ∈ order) :
    (order.find? fun l => Text.sameUpToCase l.id tag) = some l
      ↔ l.HasTag tag := by
  rw [hasTag_iff]
  exact find?_eq_some_iff (fun l k hl hk =>
    (hasTag_iff.2 hl).unique (hasTag_iff.2 hk)) hall

/-- The language found by an extension, in any order. -/
theorem find?_extensions_eq_some_iff {order : List Language}
    (hall : ∀ l, l ∈ order) :
    (order.find? fun l => l.extensions.any fun e =>
      Text.sameUpToCase e extension) = some l
      ↔ l.HasExtension extension := by
  rw [hasExtension_iff]
  exact find?_eq_some_iff
    (fun l k hl hk =>
      (hasExtension_iff.2 hl).unique (hasExtension_iff.2 hk)) hall

/-- A language is found by a tag if it has the tag. -/
theorem ofId?_eq_some_iff : ofId? tag = some l ↔ l.HasTag tag :=
  find?_id_eq_some_iff mem_all

/-- A language is found by an extension if it has the extension. -/
theorem ofExtension?_eq_some_iff :
    ofExtension? extension = some l ↔ l.HasExtension extension :=
  find?_extensions_eq_some_iff mem_all

/-- An extension that no language has is not found. -/
theorem ofExtension?_eq_none_iff :
    ofExtension? extension = none
      ↔ ∀ l : Language, ¬l.HasExtension extension := by
  rw [Option.eq_none_iff_forall_ne_some]
  exact forall_congr' fun l => ofExtension?_eq_some_iff.not

/-- A file without an extension is taken for the standard language. -/
theorem ofFileName_of_bare (h : Bare name) : ofFileName name = standard := by
  rw [ofFileName, FileName.extension?_eq_none_iff.2 h]
  rfl

/-- A file with an extension is taken for the language for which that
stands. -/
theorem ofFileName_of_cut {before after : String}
    (h : CutAtLastDot name before after) (hne : after ≠ "") :
    ofFileName name = (ofExtension? after).getD standard := by
  rw [ofFileName, FileName.extension?_eq_some_iff.2 ⟨hne, before, h⟩,
    Option.bind_some]

/-- The language of a file is the one for which what stands behind its last
dot is an extension, and the standard one if there is nothing behind it or
nothing of that kind. -/
theorem ofFileName_eq_iff :
    ofFileName name = l
      ↔ (∃ before after, CutAtLastDot name before after ∧ l.HasExtension after)
        ∨ l = standard ∧ (Bare name
          ∨ ∃ before after, CutAtLastDot name before after
            ∧ ∀ k : Language, ¬k.HasExtension after) := by
  rcases FileName.bare_or_exists_cutAtLastDot name with hbare
    | ⟨before, after, hcut, hne⟩
  · rw [ofFileName_of_bare hbare]
    constructor
    · rintro rfl
      exact .inr ⟨rfl, .inl hbare⟩
    · rintro (⟨before, after, hcut, hfits⟩ | ⟨rfl, -⟩)
      · exact absurd (hcut.bare_iff.1 hbare) hfits.ne_empty
      · rfl
  · have hnot : ¬Bare name := hcut.bare_iff.not.2 hne
    rw [ofFileName_of_cut hcut hne]
    cases hfound : ofExtension? after with
    | none =>
        have hnone := ofExtension?_eq_none_iff.1 hfound
        constructor
        · rintro rfl
          exact .inr ⟨rfl, .inr ⟨before, after, hcut, hnone⟩⟩
        · rintro (⟨before', after', hcut', hfits⟩ | ⟨rfl, -⟩)
          · obtain ⟨-, rfl⟩ := hcut.unique hcut'
            exact absurd hfits (hnone l)
          · rfl
    | some k =>
        have hk := ofExtension?_eq_some_iff.1 hfound
        constructor
        · rintro rfl
          exact .inl ⟨before, after, hcut, hk⟩
        · rintro (⟨before', after', hcut', hfits⟩
            | ⟨-, hbare | ⟨before', after', hcut', hnone⟩⟩)
          · obtain ⟨-, rfl⟩ := hcut.unique hcut'
            exact hk.unique hfits
          · exact absurd hbare hnot
          · obtain ⟨-, rfl⟩ := hcut.unique hcut'
            exact absurd hk (hnone k)

/-- No text outside ASCII is a tag or an extension. -/
theorem ofId?_ofExtension?_eq_none {s : String}
    (h : ∃ c ∈ s.toList, ¬IsAscii c) :
    ofId? s = none ∧ ofExtension? s = none := by
  obtain ⟨c, hc, hwide⟩ := h
  constructor
  · rw [Option.eq_none_iff_forall_ne_some]
    intro l hl
    exact hwide ((ofId?_eq_some_iff.1 hl).forall_isAscii c hc)
  · rw [ofExtension?_eq_none_iff]
    intro l hl
    exact hwide (hl.forall_isAscii c hc)

/-- A language is found exactly where it fits: by a text that is its tag, by
one that is among its extensions, and by the name of a file in which one of
those stands behind the last dot; the standard language also by the names
that tell nothing. The order of the languages does not count, and what is
outside ASCII fits nowhere. -/
theorem found_iff_fits (l : Language) (s name : String) :
    (ofId? s = some l ↔ SameButCase l.id s)
      ∧ (ofExtension? s = some l ↔ ∃ e ∈ l.extensions, SameButCase e s)
      ∧ (∀ order : List Language, (∀ k, k ∈ order) →
          (order.find? fun k => Text.sameUpToCase k.id s) = ofId? s
            ∧ (order.find? fun k => k.extensions.any fun e =>
              Text.sameUpToCase e s)
              = ofExtension? s)
      ∧ (ofFileName name = l
        ↔ (∃ before after, CutAtLastDot name before after
          ∧ l.HasExtension after)
          ∨ l = .javascript ∧ (Bare name
            ∨ ∃ before after, CutAtLastDot name before after
              ∧ ∀ k : Language, ¬k.HasExtension after))
      ∧ ((∃ c ∈ s.toList, ¬IsAscii c) → ofId? s = none ∧ ofExtension? s = none)
      ∧ (∀ before after, CutAtLastDot name before after →
        (∃ c ∈ after.toList, ¬IsAscii c) → ofFileName name = .javascript) := by
  refine ⟨ofId?_eq_some_iff, ofExtension?_eq_some_iff, fun order hall =>
    ⟨?_, ?_⟩, ofFileName_eq_iff, ofId?_ofExtension?_eq_none,
    fun before after hcut hwide => ?_⟩
  · exact Option.ext fun k =>
      (find?_id_eq_some_iff hall).trans ofId?_eq_some_iff.symm
  · exact Option.ext fun k =>
      (find?_extensions_eq_some_iff hall).trans ofExtension?_eq_some_iff.symm
  · have hnone :=
      ofExtension?_eq_none_iff.1 (ofId?_ofExtension?_eq_none hwide).2
    exact ofFileName_eq_iff.2 (.inr ⟨rfl, .inr ⟨before, after, hcut, hnone⟩⟩)

/-- The Kelvin sign, whose small form is a "k", does not stand for one in an
extension; a capital does. -/
theorem found_iff_fits_kelvin :
    ofExtension? "\u212AT" = none ∧ ofFileName "Main.\u212AT" = .javascript
      ∧ ofExtension? "KT" = some .kotlin := by
  obtain ⟨-, -, -, -, hwide, hname⟩ :=
    found_iff_fits .kotlin "\u212AT" "Main.\u212AT"
  have hcut : CutAtLastDot "Main.\u212AT" "Main" "\u212AT" :=
    ⟨by decide, by decide⟩
  have hkelvin : ∃ c ∈ "\u212AT".toList, ¬IsAscii c :=
    ⟨'\u212A', by decide, by decide⟩
  exact ⟨(hwide hkelvin).2, hname _ _ hcut hkelvin,
    (found_iff_fits .kotlin "KT" "").2.1.2 ⟨"kt", by decide, by decide⟩⟩

end Obfuscator.Language
