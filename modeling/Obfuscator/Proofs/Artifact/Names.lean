/-
The names of what a run leaves behind.

Both names are the stem of the source, the suffix, and an extension: for the
text the extension of the source, for the stand-in the one that executables
of the language have. So the two are one name exactly if the extensions
agree (`sourceArtifact_eq_executableArtifact_iff`), and nothing prevents
that: the built-in profiles give shell scripts, PowerShell scripts and SQL
files their own extension back, and a source that ends in `.exe` has no
language of its own (`namesClash_ofFileName_iff`).
-/
import Obfuscator.Artifact
import Obfuscator.Proofs.FileName.LastDot
import Obfuscator.Proofs.World.Path

namespace Obfuscator

open World (Path)

-- ========================================================== file names

namespace FileName

/-- No slash comes into a stem. -/
theorem slash_notMem_stem {name : String} (h : '/' ∉ name.toList) :
    '/' ∉ (stem name).toList := by
  rcases bare_or_exists_cutAtLastDot name with hbare
    | ⟨before, after, hcut, hne⟩
  · rwa [hbare.stem_eq]
  · rw [hcut.toList_eq, List.mem_append, not_or] at h
    rw [hcut.stem_eq hne]
    exact h.1

/-- No slash comes into an extension. -/
theorem slash_notMem_extension? {name : String} (h : '/' ∉ name.toList) :
    '/' ∉ ((extension? name).getD "txt").toList := by
  cases hextension : extension? name with
  | none => decide
  | some e =>
      obtain ⟨-, before, hcut⟩ := extension?_eq_some_iff.1 hextension
      rw [hcut.toList_eq, List.mem_append, List.mem_cons, not_or, not_or] at h
      exact h.2.2

/-- The suffix alone makes a text long enough to be a name. -/
theorem isName_of_suffix {before after : String}
    (hbefore : '/' ∉ before.toList) (hafter : '/' ∉ after.toList) :
    Path.IsName (before ++ obfuscatedSuffix ++ after) := by
  have hsuffix : '/' ∉ obfuscatedSuffix.toList := by decide
  refine ⟨?_, World.Segment.ofPart?_of_length ?_⟩
  · rw [String.toList_append, String.toList_append, List.mem_append,
      List.mem_append, not_or, not_or]
    exact ⟨⟨hbefore, hsuffix⟩, hafter⟩
  · rw [String.toList_append, String.toList_append, List.length_append,
      List.length_append]
    have hlength : obfuscatedSuffix.toList.length = 11 := rfl
    omega

theorem isName_sourceArtifact {name : String} (h : '/' ∉ name.toList) :
    Path.IsName (sourceArtifact name) := by
  unfold sourceArtifact
  rw [String.append_assoc]
  refine isName_of_suffix (slash_notMem_stem h) ?_
  rw [String.toList_append, List.mem_append, not_or]
  exact ⟨by decide, slash_notMem_extension? h⟩

theorem isName_executableArtifact {name extension : String}
    (h : '/' ∉ name.toList) (hextension : '/' ∉ extension.toList) :
    Path.IsName (executableArtifact name extension) :=
  isName_of_suffix (slash_notMem_stem h) hextension

/-- The two names are one name exactly if the extensions agree. -/
theorem sourceArtifact_eq_executableArtifact_iff (name extension : String) :
    sourceArtifact name = executableArtifact name extension
      ↔ extension = "." ++ (extension? name).getD "txt" := by
  unfold sourceArtifact executableArtifact
  rw [String.append_assoc, String.append_right_inj]
  exact eq_comm

end FileName

-- ============================================================ profiles

namespace Registry

theorem profiles_standard : standard.profiles = builtin := rfl

/-- A profile of the built-in registry is a built-in one. -/
theorem profile_standard_mem (l : Language) :
    standard.profile l ∈ builtin := by
  unfold profile
  rw [profiles_standard]
  cases hfound : builtin.find? fun p => decide (p.language = l) with
  | none => exact List.mem_cons_self
  | some p => exact List.mem_of_find?_eq_some hfound

/-- Extensions of executables have no slash. -/
theorem slash_notMem_executableExtension (l : Language) :
    '/' ∉ (standard.profile l).executableExtension.toList := by
  have hall : ∀ p ∈ builtin, '/' ∉ p.executableExtension.toList := by decide
  exact hall _ (profile_standard_mem l)

end Registry

-- =============================================================== a clash

/-- A run leaves two things behind and has one name for both. -/
def NamesClash (fileName : String) (l : Language) (o : Options) : Prop :=
  o.generateExecutable = true
    ∧ (Registry.standard.profile l).executableExtension
      = "." ++ (FileName.extension? fileName).getD "txt"

instance (fileName : String) (l : Language) (o : Options) :
    Decidable (NamesClash fileName l o) :=
  inferInstanceAs (Decidable (_ ∧ _))

/-- The extensions of executables, without the dot. -/
def executableExtensions : List String :=
  ["exe", "app", "jar", "js", "phar", "ps1", "sh", "sql"]

/-- The extensions of executables are among these. -/
theorem executableExtension_mem (l : Language) :
    (Registry.standard.profile l).executableExtension
      ∈ executableExtensions.map ("." ++ ·) := by
  have hall : ∀ p ∈ Registry.builtin,
      p.executableExtension ∈ executableExtensions.map ("." ++ ·) := by decide
  exact hall _ (Registry.profile_standard_mem l)

/-- Where an extension stands for a language, executables of that language
have the same extension in three cases. -/
theorem executableExtension_eq_iff {extension : String} {l : Language}
    (h : Language.ofExtension? extension = some l) :
    (Registry.standard.profile l).executableExtension = "." ++ extension
      ↔ extension ∈ ["sh", "ps1", "sql"] := by
  have htable : ∀ e ∈ executableExtensions, ∀ l ∈ Language.all,
      Language.ofExtension? e = some l →
        ((Registry.standard.profile l).executableExtension = "." ++ e
          ↔ e ∈ ["sh", "ps1", "sql"]) := by decide
  by_cases hknown : extension ∈ executableExtensions
  · exact htable extension hknown l (Language.mem_all l) h
  · constructor
    · intro heq
      obtain ⟨e, he, hdot⟩ := List.mem_map.1 (executableExtension_mem l)
      rw [heq, String.append_right_inj] at hdot
      exact absurd (hdot ▸ he) hknown
    · intro hthree
      have hsub : ∀ e ∈ ["sh", "ps1", "sql"], e ∈ executableExtensions := by
        decide
      exact absurd (hsub extension hthree) hknown

/-- The sources that clash when their names tell the language. -/
theorem namesClash_ofFileName_iff (fileName : String) (o : Options) :
    NamesClash fileName (Language.ofFileName fileName) o
      ↔ o.generateExecutable = true
        ∧ FileName.extension? fileName ∈ [some "sh", some "ps1", some "sql",
          some "exe"] := by
  unfold NamesClash Language.ofFileName
  refine and_congr_right fun _ => ?_
  cases FileName.extension? fileName with
  | none => decide
  | some e =>
      have hexe : Language.ofExtension? "exe" = none := by decide
      have hthree : ∀ e ∈ ["sh", "ps1", "sql"],
          Language.ofExtension? e ≠ none := by decide
      have hmem : some e ∈ [some "sh", some "ps1", some "sql", some "exe"]
          ↔ e ∈ ["sh", "ps1", "sql"] ∨ e = "exe" := by
        simp [or_assoc]
      rw [Option.bind_some, Option.getD_some, hmem]
      cases hlanguage : Language.ofExtension? e with
      | none =>
          have hnot : e ∉ ["sh", "ps1", "sql"] :=
            fun he => hthree e he hlanguage
          have hstandard :
              (Registry.standard.profile Language.standard).executableExtension
              = "." ++ "exe" := by decide
          rw [Option.getD_none, hstandard, String.append_right_inj]
          simp only [hnot, false_or]
          exact eq_comm
      | some l =>
          have hnot : e ≠ "exe" := by
            rintro rfl
            rw [hexe] at hlanguage
            cases hlanguage
          rw [Option.getD_some, executableExtension_eq_iff hlanguage]
          simp only [hnot, or_false]

end Obfuscator
