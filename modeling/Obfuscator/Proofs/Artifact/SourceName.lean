/-
The name for the text of a source.

The last dot of that name is the one in front of the extension, whatever
dots the source had (`cutAtLastDot_sourceArtifact`). All that is said here
comes from this cut. The name shows the stem and the extension of the
source, so two sources have one name for their texts only if the extension
of one of them is the invented `.txt` (`sourceArtifact_eq_iff_invented`).
The extension is the one the source had, letter for letter, and the invented
one stands for no language, so the text is taken for the language of the
source (`ofFileName_sourceArtifact`).
-/
import Mathlib.Data.Set.Function
import Obfuscator.Artifact
import Obfuscator.Proofs.FileName.LastDot

namespace Obfuscator.FileName

-- ================================================== the cut of the name

/-- The last dot of the name stands between the marked stem and the
extension. -/
theorem cutAtLastDot_sourceArtifact (name : String) :
    CutAtLastDot (sourceArtifact name) (stem name ++ obfuscatedSuffix)
      ((extension? name).getD "txt") := by
  refine ⟨rfl, ?_⟩
  cases hextension : extension? name with
  | none => decide
  | some e =>
      obtain ⟨-, before, hcut⟩ := extension?_eq_some_iff.1 hextension
      exact hcut.last

/-- The name has the extension of the source, or the invented one. -/
theorem extension?_sourceArtifact (name : String) :
    extension? (sourceArtifact name)
      = some ((extension? name).getD "txt") := by
  refine extension?_eq_some_iff.2 ⟨?_, _, cutAtLastDot_sourceArtifact name⟩
  cases hextension : extension? name with
  | none => decide
  | some e => exact (extension?_eq_some_iff.1 hextension).1

-- ============================================== sources that share a name

/-- The name of a source, with the invented extension if it has none of its
own. -/
def withExtension (name : String) : String :=
  if Bare name then name ++ ".txt" else name

theorem Bare.withExtension_eq {name : String} (h : Bare name) :
    withExtension name = name ++ ".txt" :=
  if_pos h

theorem withExtension_of_not_bare {name : String} (h : ¬Bare name) :
    withExtension name = name :=
  if_neg h

/-- With an extension every name has a cut, at its stem. -/
theorem cutAtLastDot_withExtension (name : String) :
    CutAtLastDot (withExtension name) (stem name)
      ((extension? name).getD "txt") := by
  rcases bare_or_exists_cutAtLastDot name with hbare
    | ⟨before, after, hcut, hne⟩
  · rw [hbare.withExtension_eq, hbare.stem_eq, extension?_eq_none_iff.2 hbare,
      Option.getD_none]
    exact ⟨by rw [String.append_assoc]; rfl, by decide⟩
  · have hextension : extension? name = some after :=
      extension?_eq_some_iff.2 ⟨hne, before, hcut⟩
    rw [withExtension_of_not_bare (hcut.bare_iff.not.2 hne), hcut.stem_eq hne,
      hextension, Option.getD_some]
    exact hcut

/-- A name with the invented extension is not bare. -/
theorem Bare.not_bare_append_txt {name : String} (h : Bare name) :
    ¬Bare (name ++ ".txt") := by
  have hcut := cutAtLastDot_withExtension name
  rw [h.withExtension_eq, extension?_eq_none_iff.2 h] at hcut
  exact hcut.bare_iff.not.2 (by decide)

/-- The name for the text tells a source apart up to the invented extension. -/
theorem sourceArtifact_eq_iff {f g : String} :
    sourceArtifact f = sourceArtifact g
      ↔ withExtension f = withExtension g := by
  constructor
  · intro h
    have hcut := cutAtLastDot_sourceArtifact g
    rw [← h] at hcut
    obtain ⟨hstem, hextension⟩ := (cutAtLastDot_sourceArtifact f).unique hcut
    rw [(cutAtLastDot_withExtension f).whole,
      (cutAtLastDot_withExtension g).whole, hextension,
      (String.append_left_inj _).1 hstem]
  · intro h
    have hcut := cutAtLastDot_withExtension g
    rw [← h] at hcut
    obtain ⟨hstem, hextension⟩ := (cutAtLastDot_withExtension f).unique hcut
    rw [sourceArtifact, sourceArtifact, hstem, hextension]

/-- Only a bare source shares its name with another, and only with the one
that has the invented extension; so sources that have extensions have names
of their own, and so have those without. -/
theorem sourceArtifact_eq_iff_invented (f g : String) :
    (sourceArtifact f = sourceArtifact g
        ↔ f = g ∨ Bare f ∧ g = f ++ ".txt" ∨ Bare g ∧ f = g ++ ".txt")
      ∧ Set.InjOn sourceArtifact {name | ¬Bare name}
      ∧ Set.InjOn sourceArtifact {name | Bare name} := by
  refine ⟨?_, fun f hf g hg h => ?_, fun f hf g hg h => ?_⟩
  · rw [sourceArtifact_eq_iff]
    by_cases hf : Bare f
    · by_cases hg : Bare g
      · rw [hf.withExtension_eq, hg.withExtension_eq, String.append_left_inj]
        refine ⟨.inl, ?_⟩
        rintro (h | ⟨-, rfl⟩ | ⟨-, rfl⟩)
        · exact h
        · exact absurd hg hf.not_bare_append_txt
        · exact absurd hf hg.not_bare_append_txt
      · rw [hf.withExtension_eq, withExtension_of_not_bare hg]
        refine ⟨fun h => .inr (.inl ⟨hf, h.symm⟩), ?_⟩
        rintro (rfl | ⟨-, h⟩ | ⟨hbare, -⟩)
        · exact absurd hf hg
        · exact h.symm
        · exact absurd hbare hg
    · rw [withExtension_of_not_bare hf]
      by_cases hg : Bare g
      · rw [hg.withExtension_eq]
        refine ⟨fun h => .inr (.inr ⟨hg, h⟩), ?_⟩
        rintro (rfl | ⟨hbare, -⟩ | ⟨-, h⟩)
        · exact absurd hg hf
        · exact absurd hbare hf
        · exact h
      · rw [withExtension_of_not_bare hg]
        refine ⟨.inl, ?_⟩
        rintro (h | ⟨hbare, -⟩ | ⟨hbare, -⟩)
        · exact h
        · exact absurd hbare hf
        · exact absurd hbare hg
  · rwa [sourceArtifact_eq_iff, withExtension_of_not_bare hf,
      withExtension_of_not_bare hg] at h
  · rw [sourceArtifact_eq_iff, Bare.withExtension_eq hf,
      Bare.withExtension_eq hg] at h
    exact (String.append_left_inj _).1 h

-- ============================================================ languages

/-- The text of a run is taken for the language of its source, and has its
extension. -/
theorem ofFileName_sourceArtifact (name : String) :
    Language.ofFileName (sourceArtifact name) = Language.ofFileName name
      ∧ ∀ before after, CutAtLastDot name before after → after ≠ "" →
        extension? name = some after ∧ extension? (sourceArtifact name)
          = some after := by
  refine ⟨?_, fun before after hcut hne => ?_⟩
  · have hinvented : Language.ofExtension? "txt" = none := by decide
    rw [Language.ofFileName, Language.ofFileName, extension?_sourceArtifact]
    cases extension? name with
    | none =>
        rw [Option.getD_none, Option.bind_some, hinvented, Option.bind_none]
    | some e => rfl
  · have hextension : extension? name = some after :=
      extension?_eq_some_iff.2 ⟨hne, before, hcut⟩
    rw [extension?_sourceArtifact, hextension, Option.getD_some]
    exact ⟨rfl, rfl⟩

/-- A dot in a directory is not the last one, and the extension stays in
capitals. -/
theorem ofFileName_sourceArtifact_inDirectory :
    Language.ofFileName (sourceArtifact "lib.v2/Main.PY") = .python
      ∧ extension? (sourceArtifact "lib.v2/Main.PY") = some "PY" := by
  obtain ⟨hlanguage, hextension⟩ := ofFileName_sourceArtifact "lib.v2/Main.PY"
  have hcut : CutAtLastDot "lib.v2/Main.PY" "lib.v2/Main" "PY" :=
    ⟨by decide, by decide⟩
  exact ⟨hlanguage.trans (by decide), (hextension _ _ hcut (by decide)).2⟩

end Obfuscator.FileName
