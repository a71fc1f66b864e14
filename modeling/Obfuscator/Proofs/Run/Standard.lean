/-
What an ordinary run ends with.

Of the five passes only the first can change what it is given; the others
put something in front of it or leave it alone. So the text a run ends with
is the renamed source behind three blocks, each there or not as the switches
say, the one of the latest pass first (`frontMatter`). Renaming comes before
there are any blocks, so no block is ever renamed.

Only renaming can end in a fault. Each of the other passes has an equation
that moves its block into the text and takes the pass off the list
(`result_junk`, `result_mutate`, `result_canary`, `result_executable`), so
after the renaming the run is a calculation.

All of it holds for every pattern engine and every profile.
-/
import Obfuscator.Proofs.Run.Protocol
import Obfuscator.Proofs.Text.Filling

namespace Obfuscator

open Pipeline (attempted prepend runPasses)

-- ============================================================ the blocks

/-- What the decoys put in front of a text. -/
def junkBlock (p : Profile) (o : Options) : String :=
  if o.injectJunk then String.intercalate "\n\n" p.junkTemplates ++ "\n\n"
  else ""

/-- What the mutation puts in front of a text; without a key, nothing. -/
def mutationBlock (p : Profile) (o : Options) : String :=
  if o.mutate && o.hasApiKey then p.mutationComment ++ "\n" else ""

/-- What the integrity check puts in front of a text. -/
def canaryBlock (p : Profile) (o : Options) (secret : String) : String :=
  if o.injectCanary then p.renderCanary secret ++ "\n" else ""

/-- Everything that stands in front of the source after a run. -/
def frontMatter (p : Profile) (o : Options) (secret : String) : String :=
  canaryBlock p o secret ++ mutationBlock p o ++ junkBlock p o

/-- What the blocks stand in front of: the source, renamed if that is asked
for. -/
def IsRenamed (engine : PatternEngine) (p : Profile) (o : Options)
    (source text : String) : Prop :=
  if o.renameVariables then
    ∃ r, (Pass.namingScheme p engine).rename source = .ok r ∧ r.text = text
  else text = source

/-- Eight digits of lower-case hexadecimal. -/
def IsSecret (s : String) : Prop :=
  s.length = 8 ∧ ∀ a ∈ s.toList, Text.isLowerHexDigit a = true

variable {c : PassContext} {pacing : Pacing} {rest : List Pass} {text : String}

/-- A run goes on behind a pass that is disabled or hands a text on. -/
theorem result_runPasses_cons {p : Pass} {next : String}
    (hoff : p.kind.isEnabled c.options = false → next = text)
    (hon : p.kind.isEnabled c.options = true →
      (p.execute c text).outcome.handsOn? = some next) :
    (runPasses pacing c (p :: rest) text).result
      = (runPasses pacing c rest next).result := by
  cases hp : p.kind.isEnabled c.options with
  | false =>
      rw [runPasses_cons_of_disabled hp, hoff hp]
      rfl
  | true =>
      rw [runPasses_cons_of_handsOn hp (hon hp)]
      rfl

/-- The pass for junk puts its block in front of the text. -/
theorem result_junk :
    (runPasses pacing c (Pass.junk :: rest) text).result
      = (runPasses pacing c rest (junkBlock c.profile c.options
        ++ text)).result := by
  apply result_runPasses_cons
  · intro hoff
    have hblock : junkBlock c.profile c.options = "" :=
      if_neg (Bool.eq_false_iff.1 hoff)
    rw [hblock, String.empty_append]
  · intro hon
    have hblock : junkBlock c.profile c.options
        = String.intercalate "\n\n" c.profile.junkTemplates ++ "\n\n" :=
          if_pos hon
    rw [hblock]
    rfl

/-- So does the pass for mutation. -/
theorem result_mutate :
    (runPasses pacing c (Pass.mutate :: rest) text).result
      = (runPasses pacing c rest (mutationBlock c.profile c.options
        ++ text)).result := by
  apply result_runPasses_cons
  · intro hoff
    have hswitch : c.options.mutate = false := hoff
    have hblock : mutationBlock c.profile c.options = "" := by
      simp [mutationBlock, hswitch]
    rw [hblock, String.empty_append]
  · intro hon
    have hswitch : c.options.mutate = true := hon
    -- without a key the pass fails, and hands on what it was given
    cases hkey : c.options.hasApiKey with
    | false => simp [Pass.mutate, hkey, mutationBlock, PassOutcome.handsOn?]
    | true =>
        simp [Pass.mutate, hkey, hswitch, mutationBlock, PassOutcome.handsOn?]

/-- So does the pass for canaries, whose block has the secret. -/
theorem result_canary (secret : String) :
    (runPasses pacing c (Pass.canary secret :: rest) text).result
      = (runPasses pacing c rest (canaryBlock c.profile c.options secret
        ++ text)).result := by
  apply result_runPasses_cons
  · intro hoff
    have hblock : canaryBlock c.profile c.options secret = "" :=
      if_neg (Bool.eq_false_iff.1 hoff)
    rw [hblock, String.empty_append]
  · intro hon
    have hblock : canaryBlock c.profile c.options secret
        = c.profile.renderCanary secret ++ "\n" := if_pos hon
    rw [hblock]
    rfl

/-- The pass for executables leaves the text as it is. -/
theorem result_executable :
    (runPasses pacing c (Pass.executable :: rest) text).result
      = (runPasses pacing c rest text).result := by
  apply result_runPasses_cons
  · intro _
    rfl
  · intro _
    rfl

/-- Behind the renaming, a run puts all blocks in front of the text. -/
theorem result_behind_rename (pacing : Pacing) (secret : String) :
    (runPasses pacing c [.junk, .mutate, .canary secret,
      .executable] text).result
      = .ok (frontMatter c.profile c.options secret ++ text) := by
  rw [result_junk, result_mutate, result_canary, result_executable,
    frontMatter, String.append_assoc, String.append_assoc]
  rfl

-- ============================================================ the whole

/-- The renaming hands on what it makes of a text. -/
theorem outcome_rename_of_ok {engine : PatternEngine} {r : Renaming}
    (h : (Pass.namingScheme c.profile engine).rename text = .ok r) :
    (((Pass.rename engine).execute c text).outcome).handsOn?
      = some r.text := by
  simp only [Pass.rename, h]
  rfl

/-- The renaming ends in a fault where it cannot rename. -/
theorem outcome_rename_of_error {engine : PatternEngine} {e : RenameError}
    (h : (Pass.namingScheme c.profile engine).rename text = .error e) :
    ((Pass.rename engine).execute c text).outcome = .fault ⟨e.chain⟩ := by
  simp only [Pass.rename, h]

/-- A run that can rename, or is not asked to, ends with all blocks in front
of the text. -/
theorem result_standard_of_isRenamed {engine : PatternEngine}
    {secret source : String}
    (h : IsRenamed engine c.profile c.options source text) :
    (runPasses pacing c (Pass.standard secret engine) source).result
      = .ok (frontMatter c.profile c.options secret ++ text) := by
  rw [← result_behind_rename pacing secret]
  unfold IsRenamed at h
  apply result_runPasses_cons
  · intro hoff
    have hswitch : c.options.renameVariables = false := hoff
    rw [hswitch] at h
    exact h
  · intro hon
    have hswitch : c.options.renameVariables = true := hon
    rw [hswitch] at h
    obtain ⟨r, hr, rfl⟩ := h
    exact outcome_rename_of_ok hr

/-- A run that cannot rename ends with the first pass. -/
theorem runPasses_standard_of_error {engine : PatternEngine}
    {secret source : String} {e : RenameError}
    (hon : c.options.renameVariables = true)
    (h : (Pass.namingScheme c.profile engine).rename source = .error e) :
    runPasses pacing c (Pass.standard secret engine) source
      = ⟨attempted pacing .rename ((Pass.rename engine).execute c source),
          .error ⟨.rename, ⟨e.chain⟩⟩⟩ := by
  have henabled : (Pass.rename engine).kind.isEnabled c.options = true := hon
  exact runPasses_cons_of_fault henabled (outcome_rename_of_error h)

/-- A run fails only where it is to rename and cannot. -/
theorem rename_of_result_eq_error {engine : PatternEngine}
    {secret source : String} {f : StepFailure}
    (hf : (runPasses pacing c (Pass.standard secret engine) source).result
      = .error f) :
    c.options.renameVariables = true
      ∧ ∃ e, (Pass.namingScheme c.profile engine).rename source = .error e
        ∧ f = ⟨.rename, ⟨e.chain⟩⟩ := by
  cases hon : c.options.renameVariables with
  | false =>
      have hsame : IsRenamed engine c.profile c.options source source := by
        simp [IsRenamed, hon]
      rw [result_standard_of_isRenamed hsame] at hf
      cases hf
  | true =>
      cases hr : (Pass.namingScheme c.profile engine).rename source with
      | ok r =>
          have hrenamed : IsRenamed engine c.profile c.options source
              r.text := by
            simp [IsRenamed, hon, hr]
          rw [result_standard_of_isRenamed hrenamed] at hf
          cases hf
      | error e =>
          rw [runPasses_standard_of_error hon hr] at hf
          exact ⟨rfl, e, rfl, (Except.error.inj hf).symm⟩

end Obfuscator
