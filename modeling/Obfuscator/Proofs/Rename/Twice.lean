/-
A renaming that is done twice.

In a renamed text no candidate is a word: what was put in has none in it,
and what was left alone is none (`notMem_candidates_of_mem_words_renamed`).
A text of that kind is renamed to itself, whatever is found in it:
candidates inside longer words are still found, in an order and with numbers
of their own, but their names are never put in
(`SeeksWords.text_eq_of_rename`). So the second renaming changes nothing.

The schemes of the built-in profiles are of the kind that this holds for.
Their candidates are words, and all their names start with an underscore,
which no candidate does.
-/
import Obfuscator.Proofs.Rename.WholeWords

namespace Obfuscator

open Text (IsWord words mapWords)

namespace NamingScheme

variable {s : NamingScheme}

-- ======================================================== nothing is left

/-- No word is renamed to a text with a candidate in it. -/
theorem notMem_candidates_of_mem_words_renamed (hclear : s.NamesKeepClear)
    {text w v : List Char} (hw : w ∈ words text)
    (hv : v ∈ words (s.renamed (s.discovered (Text.splitLines text)) w)) :
    String.ofList v ∉ s.candidates := by
  rw [renamed] at hv
  by_cases hc : String.ofList w ∈ s.candidates
  · rw [if_pos hc] at hv
    have hplace :=
      List.idxOf_lt_length_of_mem (mem_discovered_of_mem_words hw hc)
    exact hclear _ (hplace.trans_le (s.length_discovered_le _)) v hv
  · rw [if_neg hc, (Text.isWord_of_mem_words hw).words_eq,
      List.mem_singleton] at hv
    rwa [hv]

/-- A text in which no candidate is a word is renamed to itself. -/
theorem SeeksWords.text_eq_of_rename (h : s.SeeksWords)
    (hclear : s.NamesKeepClear) {text : String}
    (hno : ∀ w ∈ words text.toList, String.ofList w ∉ s.candidates) :
    ∃ r, s.rename text = .ok r ∧ r.text = text := by
  obtain ⟨r, hr, hout⟩ := h.exists_rename_eq_ok hclear text
  refine ⟨r, hr, String.toList_inj.1 (hout.trans ?_)⟩
  exact Text.mapWords_eq_self fun w hw => if_neg (hno w hw)

/-- A text that was renamed is renamed to itself. -/
theorem SeeksWords.exists_rename_rename (h : s.SeeksWords)
    (hclear : s.NamesKeepClear) (text : String) :
    ∃ r r', s.rename text = .ok r ∧ s.rename r.text = .ok r'
      ∧ r'.text = r.text := by
  obtain ⟨r, hr, hout⟩ := h.exists_rename_eq_ok hclear text
  have hno : ∀ v ∈ words r.text.toList, String.ofList v ∉ s.candidates := by
    intro v hv
    rw [hout, Text.words_mapWords] at hv
    obtain ⟨w, hw, hv⟩ := List.mem_flatMap.1 hv
    exact notMem_candidates_of_mem_words_renamed hclear hw hv
  obtain ⟨r', hr', htext⟩ := h.text_eq_of_rename hclear hno
  exact ⟨r, r', hr, hr', htext⟩

end NamingScheme

-- =================================================== the built-in profiles

namespace Registry

/-- The candidates of a built-in profile are words, and none starts like a
new name. -/
theorem candidates_standard (l : Language) :
    ∀ c ∈ (standard.profile l).candidates,
    IsWord c.toList ∧ c.toList.head? ≠ some '_' := by
  have hall : ∀ p ∈ builtin,
      ∀ c ∈ p.candidates, IsWord c.toList ∧ c.toList.head? ≠ some '_' := by
    decide +kernel
  exact hall _ (profile_standard_mem l)

/-- All built-in profiles have one stem. -/
theorem nameStem_standard (l : Language) :
    (standard.profile l).nameStem = "_0x" := by
  have hall : ∀ p ∈ builtin, p.nameStem = "_0x" := by decide
  exact hall _ (profile_standard_mem l)

end Registry

namespace Pass

variable {engine : PatternEngine}

/-- The rename pass seeks words. -/
theorem seeksWords_namingScheme (hengine : engine.Seeks "(?-u:\\b)" .asciiWord)
    (l : Language) :
    (namingScheme (Registry.standard.profile l) engine).SeeksWords :=
  ⟨fun c hc => (Registry.candidates_standard l c hc).1,
    Registry.boundary_standard l, hengine⟩

/-- Its new names keep clear of the candidates. -/
theorem namesKeepClear_namingScheme (l : Language) :
    (namingScheme (Registry.standard.profile l) engine).NamesKeepClear := by
  have hstem : (namingScheme (Registry.standard.profile l) engine).stem
      = "_0x" :=
    Registry.nameStem_standard l
  refine NamingScheme.namesKeepClear_of_notMem ?_ fun k _ hc => ?_
  · rw [hstem]
    exact List.all_eq_true.1 (by decide)
  · refine (Registry.candidates_standard l _ hc).2 ?_
    rw [NamingScheme.toList_newName, hstem]
    rfl

/-- What the pass tells is the same for every text. -/
theorem outcome_rename_of_eq_ok {c : PassContext} {text : String}
    {r : Renaming} (h : (namingScheme c.profile engine).rename text = .ok r) :
    ((rename engine).execute c text).outcome
      = .completed r.text ("Renamed variables and functions for "
        ++ c.language.id) := by
  simp only [rename, h]

end Pass

/-- Renaming a text that was renamed changes nothing, and neither does the
pass of a built-in profile that is run again on what it handed on. -/
theorem rename_twice {engine : PatternEngine}
    (hengine : engine.Seeks "(?-u:\\b)" .asciiWord) :
    (∀ s : NamingScheme, s.SeeksWords → s.NamesKeepClear → ∀ text : String,
      ∃ r r', s.rename text = .ok r ∧ s.rename r.text = .ok r'
        ∧ r'.text = r.text)
    ∧ ∀ (l : Language) (options : Options) (text : String),
      ∃ next message,
        ((Pass.rename engine).execute ⟨l, .standard, options⟩ text).outcome
          = .completed next message
        ∧ ((Pass.rename engine).execute ⟨l, .standard, options⟩ next).outcome
          = .completed next message := by
  refine ⟨fun s h hclear text => h.exists_rename_rename hclear text,
    fun l options text => ?_⟩
  obtain ⟨r, r', hr, hr', htext⟩ :=
    (Pass.seeksWords_namingScheme hengine l).exists_rename_rename
    (Pass.namesKeepClear_namingScheme l) text
  have hagain :=
    Pass.outcome_rename_of_eq_ok (c := ⟨l, .standard, options⟩) hr'
  rw [htext] at hagain
  exact ⟨r.text, _, Pass.outcome_rename_of_eq_ok hr, hagain⟩

/-- The second time a candidate is still found, inside a word. -/
theorem rename_twice_trialScheme :
    (∃ r r', NamingScheme.trialScheme.rename "lue value\nmetadata" = .ok r
      ∧ NamingScheme.trialScheme.rename r.text = .ok r' ∧ r'.text = r.text)
    ∧ ∃ next message,
      (Pass.rename.execute ⟨.python, .standard, {}⟩ "self.data = item").outcome
        = .completed next message
      ∧ (Pass.rename.execute ⟨.python, .standard, {}⟩ next).outcome
        = .completed next message := by
  have hengine : PatternEngine.standard.Seeks "(?-u:\\b)" .asciiWord :=
    PatternEngine.seeks_standard (by decide)
  obtain ⟨hscheme, hpass⟩ := rename_twice hengine
  exact ⟨hscheme _ NamingScheme.seeksWords_trialScheme
    NamingScheme.namesKeepClear_trialScheme _,
    hpass .python {} "self.data = item"⟩

end Obfuscator
