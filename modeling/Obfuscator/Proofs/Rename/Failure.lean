/-
What a renaming fails on.

A renaming fails on nothing but a candidate that occurs in the text and does
not compile. Of several it tells the first, lines before candidates: the
first line that has one decides, and in that line the order of the
candidates does (`NamingScheme.FailsOn`). By `NamingScheme.rename_eq` that
is the first refused in one list, what occurs in the lines, so all that is
left is to read a place in that list as a line and a place among the
candidates (`firstRefusal?_flatMap_occurring_iff`).

A boundary pattern does no harm where nothing occurs, nor where all
candidates compile (`exists_rename_eq_ok`). The schemes of the built-in
profiles are of that kind.
-/
import Obfuscator.Pass
import Obfuscator.Proofs.Artifact.Names
import Obfuscator.Proofs.Rename.ClosedForm
import Obfuscator.Proofs.Rename.Matching

namespace Obfuscator

namespace NamingScheme

variable {s : NamingScheme} {lines : List (List Char)} {line : List Char}
  {e : RenameError}

-- ===================================================== the first refused

/-- How a renaming of lines fails: a candidate occurs in a line and does not
compile, while everything compiles that occurs in an earlier line, or that
occurs in this one and is listed before. The error names the candidate and
has what the engine says of it. -/
inductive FailsOn (s : NamingScheme) :
    (lines : List (List Char)) → RenameError → Prop
  | intro {earlier later : List (List Char)} {line : List Char}
      {before after : List String}
      {c : String} {causes : List String}
      (listed : s.candidates = before ++ c :: after)
      (occurs : c.toList <:+: line)
      (refused : s.compile c = .error causes)
      (firstLine : ∀ l ∈ earlier, ∀ d ∈ s.candidates, d.toList <:+: l →
        s.Compiles d)
      (firstCandidate : ∀ d ∈ before, d.toList <:+: line → s.Compiles d) :
      FailsOn s (earlier ++ line :: later) (.invalidBoundary c causes)

/-- The first that is refused in a line is the first of the candidates that
occur in it. -/
theorem firstRefusal?_occurring_iff :
    s.firstRefusal? (s.occurring line) = some e
      ↔ ∃ before c after causes, s.candidates = before ++ c :: after
        ∧ c.toList <:+: line ∧ s.compile c = .error causes
        ∧ (∀ d ∈ before, d.toList <:+: line → s.Compiles d)
        ∧ e = .invalidBoundary c causes := by
  have hlisted : s.firstRefusal? (s.occurring line)
      = s.candidates.findSome? fun c =>
          if c.toList <:+: line then s.refusal? c else none := by
    rw [firstRefusal?, occurring, ← List.head?_filterMap,
      List.filterMap_filter, List.head?_filterMap]
    simp only [decide_eq_true_eq]
  have hpassed : ∀ c,
      (if c.toList <:+: line then s.refusal? c else none) = none
        ↔ (c.toList <:+: line → s.Compiles c) := by
    intro c
    rw [ite_eq_right_iff, refusal?_eq_none_iff]
  rw [hlisted, List.findSome?_eq_some_iff]
  simp only [hpassed]
  constructor
  · rintro ⟨before, c, after, hsplit, hrefused, hbefore⟩
    rw [Option.ite_none_right_eq_some] at hrefused
    obtain ⟨causes, hcauses, rfl⟩ := refusal?_eq_some_iff.1 hrefused.2
    exact ⟨before, c, after, causes, hsplit, hrefused.1, hcauses, hbefore, rfl⟩
  · rintro ⟨before, c, after, causes, hsplit, hoccurs, hcauses, hbefore, rfl⟩
    refine ⟨before, c, after, hsplit, ?_, hbefore⟩
    rw [if_pos hoccurs, refusal?_of_error hcauses]

/-- The first that is refused in some lines is refused in the first line
that has any. -/
theorem firstRefusal?_flatMap_occurring_iff :
    s.firstRefusal? (lines.flatMap s.occurring) = some e
      ↔ s.FailsOn lines e := by
  have hlines : s.firstRefusal? (lines.flatMap s.occurring)
      = lines.findSome? fun line => s.firstRefusal? (s.occurring line) := by
    simp only [firstRefusal?, ← List.head?_filterMap, List.filterMap_flatMap,
      List.head?_flatMap]
  rw [hlines, List.findSome?_eq_some_iff]
  constructor
  · rintro ⟨earlier, line, later, rfl, hline, hearlier⟩
    obtain ⟨before, c, after, causes,
        hlisted, hoccurs, hrefused, hbefore, rfl⟩ :=
      firstRefusal?_occurring_iff.1 hline
    refine .intro hlisted hoccurs hrefused
      (fun l hl d hd hoccurs => ?_) hbefore
    exact firstRefusal?_eq_none_iff.1 (hearlier l hl) d
      (mem_occurring_iff.2 ⟨hd, hoccurs⟩)
  · rintro ⟨hlisted, hoccurs, hrefused, hearlier, hbefore⟩
    have hline := firstRefusal?_occurring_iff.2
      ⟨_, _, _, _, hlisted, hoccurs, hrefused, hbefore, rfl⟩
    refine ⟨_, _, _, rfl, hline, fun l hl => ?_⟩
    refine firstRefusal?_eq_none_iff.2 fun d hd => ?_
    obtain ⟨hd, hoccurs⟩ := mem_occurring_iff.1 hd
    exact hearlier l hl d hd hoccurs

-- ================================================================ verdict

variable {text : String}

/-- A renaming fails if something that occurs in the text does not compile. -/
theorem exists_rename_eq_error_iff :
    (∃ e, s.rename text = .error e)
      ↔ ∃ line ∈ Text.splitLines text.toList, ∃ c ∈ s.candidates,
          c.toList <:+: line ∧ ¬s.Compiles c := by
  constructor
  · rintro ⟨e, he⟩
    obtain ⟨c, hc, hrefused⟩ :=
      List.exists_of_findSome?_eq_some (rename_eq_error_iff.1 he)
    obtain ⟨line, hline, hoccurs⟩ := List.mem_flatMap.1 hc
    obtain ⟨hcandidate, hpiece⟩ := mem_occurring_iff.1 hoccurs
    refine ⟨line, hline, c, hcandidate, hpiece, fun hcompiles => ?_⟩
    rw [refusal?_eq_none_iff.2 hcompiles] at hrefused
    cases hrefused
  · rintro ⟨line, hline, c, hc, hoccurs, hrefused⟩
    cases h : s.rename text with
    | error e => exact ⟨e, rfl⟩
    | ok r =>
        obtain ⟨hnone, -⟩ := rename_eq_ok_iff.1 h
        have hmem : c ∈ (Text.splitLines text.toList).flatMap s.occurring :=
          List.mem_flatMap.2 ⟨line, hline, mem_occurring_iff.2 ⟨hc, hoccurs⟩⟩
        exact absurd (firstRefusal?_eq_none_iff.1 hnone c hmem) hrefused

/-- A renaming in which nothing that occurs is refused gives a text. -/
theorem exists_rename_eq_ok_of_occurring
    (h : ∀ line ∈ Text.splitLines text.toList,
      ∀ c ∈ s.candidates, c.toList <:+: line → s.Compiles c) :
    ∃ r, s.rename text = .ok r := by
  cases hrename : s.rename text with
  | ok r => exact ⟨r, rfl⟩
  | error e =>
      obtain ⟨line, hline, c, hc, hoccurs, hrefused⟩ :=
        exists_rename_eq_error_iff.1 ⟨e, hrename⟩
      exact absurd (h line hline c hc hoccurs) hrefused

/-- A scheme all of whose candidates compile renames every text. -/
theorem exists_rename_eq_ok (hcompile : ∀ c ∈ s.candidates, s.Compiles c)
    (text : String) : ∃ r, s.rename text = .ok r :=
  exists_rename_eq_ok_of_occurring fun _ _ c hc _ => hcompile c hc

/-- With a pattern that the standard engine knows, every identifier
compiles. -/
theorem compiles_of_standard {b : Boundary} (hengine : s.engine = .standard)
    (h : Boundary.ofPattern? s.boundary = some b) (c : String) :
    s.Compiles c := by
  rw [Compiles, compile, hengine]
  exact ⟨_, PatternEngine.compile_standard h c⟩

/-- Whatever is looked for, and whatever the boundary pattern: a renaming
fails exactly if something that occurs in the text does not compile, and on
the first of it. So it does not where nothing occurs, nor where everything
compiles. -/
theorem rename_fails_on_first (s : NamingScheme) (text : String) :
    ((∃ e, s.rename text = .error e)
      ↔ ∃ line ∈ Text.splitLines text.toList, ∃ c ∈ s.candidates,
          c.toList <:+: line ∧ ¬s.Compiles c)
    ∧ (∀ e, s.rename text = .error e
      ↔ s.FailsOn (Text.splitLines text.toList) e)
    ∧ ((∀ line ∈ Text.splitLines text.toList,
      ∀ c ∈ s.candidates, ¬c.toList <:+: line) → ∃ r, s.rename text = .ok r)
    ∧ ((∀ c ∈ s.candidates, s.Compiles c) → ∃ r, s.rename text = .ok r) := by
  refine ⟨exists_rename_eq_error_iff,
    fun e => ?_, fun hnothing => ?_, fun hcompile => ?_⟩
  · rw [rename_eq_error_iff, firstRefusal?_flatMap_occurring_iff]
  · exact exists_rename_eq_ok_of_occurring fun line hline c hc hoccurs =>
      absurd hoccurs (hnothing line hline c hc)
  · exact exists_rename_eq_ok hcompile text

/-- A scheme whose boundary pattern does not compile. -/
def openScheme : NamingScheme where
  candidates := ["value", "data", "lue"]
  stem := "_0x"
  boundary := "("

/-- The first line has no candidate, and in the second the order of the
candidates counts. -/
theorem rename_fails_on_first_openScheme :
    openScheme.rename "x\nlue data" = .error (.invalidBoundary "data" [])
      ∧ (∃ r, openScheme.rename "x" = .ok r)
      ∧ ∃ r, { openScheme with boundary := "" }.rename "x\nlue data"
        = .ok r := by
  obtain ⟨-, hfails, -, -⟩ := rename_fails_on_first openScheme "x\nlue data"
  obtain ⟨-, -, hnothing, -⟩ := rename_fails_on_first openScheme "x"
  obtain ⟨-, -, -, hcompile⟩ :=
    rename_fails_on_first { openScheme with boundary := "" } "x\nlue data"
  have hlisted : openScheme.candidates = ["value"] ++ "data" :: ["lue"] := rfl
  have hfirst : openScheme.FailsOn ([['x']] ++ "lue data".toList :: [])
      (.invalidBoundary "data" []) :=
    .intro hlisted (by decide) rfl (by decide) (by decide)
  exact ⟨(hfails _).2 hfirst, hnothing (by decide), hcompile (by decide)⟩

end NamingScheme

/-- Every built-in profile has the word boundary over ASCII. -/
theorem Registry.boundary_standard (l : Language) :
    (standard.profile l).boundary = "(?-u:\\b)" := by
  have hall : ∀ p ∈ builtin, p.boundary = "(?-u:\\b)" := by decide
  exact hall _ (profile_standard_mem l)

/-- Every built-in profile renames every text. -/
theorem Pass.exists_namingScheme_rename_eq_ok (l : Language) (text : String) :
    ∃ r, (namingScheme (Registry.standard.profile l)).rename text = .ok r := by
  refine NamingScheme.exists_rename_eq_ok (fun c _ => ?_) text
  have hboundary : (namingScheme (Registry.standard.profile l)).boundary
      = "(?-u:\\b)" :=
    Registry.boundary_standard l
  refine NamingScheme.compiles_of_standard rfl (b := .asciiWord) ?_ c
  rw [hboundary]
  decide

end Obfuscator
