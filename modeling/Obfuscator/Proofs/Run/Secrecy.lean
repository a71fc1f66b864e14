/-
What a run shows of the keys that it is given.

Nothing: two sets of options that differ in their keys only, and not in
which of them are given, lead to one and the same run, down to the last
record, and to the same line in the log. Of the license key the artifacts
show the fingerprint, so they are the same if the fingerprints are. And a
run that leaves no executable behind ends with the same text as one that
does: the hardware binding is nothing to it, and the executable is a pass
that hands its text on.

# The engine

A pass of an ordinary run reads nothing of the options but whether there is
an API key (`Pass.ReadsKeyPresence`). So a run depends on the options
through that and through the switches of its passes, by induction on the
passes (`runPasses_of_options`). That a pass which leaves the text alone
might as well not be there is the second induction (`runPasses_besides`):
the run without it ends the same way, and what is told of it is what is told
of the others.
-/
import Obfuscator.Artifact
import Obfuscator.Proofs.Run.Audit

namespace Obfuscator

open Pipeline (attempted prepend runPasses skipped)

-- ================================================= statement vocabulary

/-- Options that differ in nothing but their keys, and not in which of them
are given. -/
structure Options.DifferInKeys (o o' : Options) : Prop where
  switches : ∀ s, o'.isOn s = o.isOn s
  given : ∀ c, (o'.credential c).isEmpty = (o.credential c).isEmpty

/-- Options that ask for the same text: they differ in no switch but that of
the executable and that of the hardware binding, and not in whether there is
an API key. -/
structure Options.AskForSameText (o o' : Options) : Prop where
  switches : ∀ s, s ≠ .generateExecutable → s ≠ .bindHardware →
    o'.isOn s = o.isOn s
  hasApiKey : o'.hasApiKey = o.hasApiKey

/-- The events that are about passes of other kinds. -/
def eventsBesides (k : PassKind) (es : List Event) : List Event :=
  es.filter fun e => decide (e.step ≠ k.id)

-- ================================================================ passes

namespace PassKind

theorem switch_injective : Function.Injective switch := by
  intro j k
  cases j <;> cases k <;> decide

/-- The hardware binding is no pass. -/
theorem switch_ne_bindHardware (k : PassKind) : k.switch ≠ .bindHardware := by
  cases k <;> decide

end PassKind

namespace Pass

/-- A pass that reads nothing of the options but whether there is an API
key. -/
def ReadsKeyPresence (p : Pass) : Prop :=
  ∀ (c : PassContext) (o : Options) (text : String),
    o.hasApiKey = c.options.hasApiKey →
    p.execute { c with options := o } text = p.execute c text

/-- A pass that hands on its text as it is. -/
def LeavesText (p : Pass) : Prop :=
  ∀ (c : PassContext) (text : String),
    (p.execute c text).outcome.handsOn? = some text

/-- The passes of other kinds. -/
def besides (k : PassKind) (passes : List Pass) : List Pass :=
  passes.filter fun p => decide (p.kind ≠ k)

/-- The built-in passes ask for no more than whether there are keys. -/
theorem readsKeyPresence_of_mem_standard {secret : String}
    {engine : PatternEngine} {p : Pass} (hp : p ∈ standard secret engine) :
    p.ReadsKeyPresence := by
  intro c o text hkey
  simp only [standard, List.mem_cons, List.not_mem_nil, or_false] at hp
  rcases hp with rfl | rfl | rfl | rfl | rfl
  · rfl
  · rfl
  · simp only [mutate, PassContext.profile, hkey]
  · rfl
  · rfl

/-- The pass for executables leaves the text alone. -/
theorem leavesText_of_mem_standard {secret : String} {engine : PatternEngine}
    {p : Pass} (hp : p ∈ standard secret engine)
    (hkind : p.kind = .executable) : p.LeavesText := by
  simp only [standard, List.mem_cons, List.not_mem_nil, or_false] at hp
  rcases hp with rfl | rfl | rfl | rfl | rfl
  · cases hkind
  · cases hkind
  · cases hkind
  · cases hkind
  · exact fun c text => rfl

end Pass

-- ============================================================== two runs

variable {c : PassContext} {pacing : Pacing}

/-- Of the options, a run depends on the switches of its passes and on
whether there is an API key. -/
theorem runPasses_of_options {o : Options}
    (hkey : o.hasApiKey = c.options.hasApiKey) :
    ∀ {passes : List Pass}, (∀ p ∈ passes, p.ReadsKeyPresence) →
      (∀ p ∈ passes, p.kind.isEnabled o = p.kind.isEnabled c.options) →
        ∀ text : String,
        runPasses pacing { c with options := o } passes text
          = runPasses pacing c passes text := by
  intro passes
  induction passes with
  | nil => intro _ _ text; rfl
  | cons p rest ih =>
      intro hreads hkinds text
      obtain ⟨hp, hreads⟩ := List.forall_mem_cons.1 hreads
      obtain ⟨hkind, hkinds⟩ := List.forall_mem_cons.1 hkinds
      have hrest := ih hreads hkinds
      have hexecute := hp c o text hkey
      cases henabled : p.kind.isEnabled c.options with
      | false =>
          rw [runPasses_cons_of_disabled henabled,
            runPasses_cons_of_disabled (c := { c with options := o })
              (hkind.trans henabled),
            hrest]
      | true =>
          have henabled' := hkind.trans henabled
          cases hout : (p.execute c text).outcome.handsOn? with
          | some next =>
              have hout' :
                  (p.execute { c with options := o } text).outcome.handsOn?
                    = some next :=
                hexecute ▸ hout
              rw [runPasses_cons_of_handsOn henabled hout,
                runPasses_cons_of_handsOn henabled' hout', hexecute, hrest]
          | none =>
              obtain ⟨f, hf⟩ := handsOn?_eq_none_iff.1 hout
              have hf' : (p.execute { c with options := o } text).outcome
                  = .fault f :=
                hexecute ▸ hf
              rw [runPasses_cons_of_fault henabled hf,
                runPasses_cons_of_fault henabled' hf', hexecute]

/-- What is told of an attempt is about its own kind of pass. -/
theorem eventsBesides_attempt (k : PassKind) (c : PassContext) (p : Pass)
    (text : String) :
    eventsBesides k (Attempt.events c ⟨p, text⟩)
      = if p.kind = k then [] else Attempt.events c ⟨p, text⟩ := by
  have hstep : ∀ e ∈ Attempt.events c ⟨p, text⟩, e.step = p.kind.id :=
    fun e he => Attempt.step_of_mem_events he
  by_cases hkind : p.kind = k
  · rw [if_pos hkind]
    refine List.filter_eq_nil_iff.2 fun e he => ?_
    simp [hstep e he, hkind]
  · rw [if_neg hkind]
    refine List.filter_eq_self.2 fun e he => ?_
    have hid : p.kind.id ≠ k.id := fun heq => hkind (PassKind.id_injective heq)
    simp [hstep e he, hid]

theorem eventsBesides_append (k : PassKind) (es es' : List Event) :
    eventsBesides k (es ++ es') = eventsBesides k es ++ eventsBesides k es' :=
  List.filter_append ..

/-- Passes that leave the text alone might as well not be there: the run
ends the same way, and what is told of it is what is told of the others. -/
theorem runPasses_besides (pacing : Pacing) (c : PassContext) (k : PassKind) :
    ∀ {passes : List Pass}, (∀ p ∈ passes, p.kind = k → p.LeavesText) →
      ∀ text : String,
      (runPasses pacing c (Pass.besides k passes) text).result
          = (runPasses pacing c passes text).result
        ∧ (runPasses pacing c (Pass.besides k passes) text).events
          = eventsBesides k (runPasses pacing c passes text).events := by
  intro passes
  induction passes with
  | nil => intro _ text; exact ⟨rfl, rfl⟩
  | cons p rest ih =>
      intro hleaves text
      obtain ⟨hp, hleaves⟩ := List.forall_mem_cons.1 hleaves
      have hrest := ih hleaves
      by_cases hkind : p.kind = k
      · -- the pass is left out
        have hskip : Pass.besides k (p :: rest) = Pass.besides k rest :=
          List.filter_cons_of_neg (by simp [hkind])
        rw [hskip]
        cases henabled : p.kind.isEnabled c.options with
        | false =>
            rw [runPasses_cons_of_disabled henabled, events_prepend]
            exact hrest text
        | true =>
            rw [runPasses_cons_of_handsOn henabled (hp hkind c text),
              events_prepend, events_attempted, eventsBesides_append,
              eventsBesides_attempt, if_pos hkind, List.nil_append]
            exact hrest text
      · have hkeep : Pass.besides k (p :: rest) = p :: Pass.besides k rest :=
          List.filter_cons_of_pos (by simp [hkind])
        rw [hkeep]
        cases henabled : p.kind.isEnabled c.options with
        | false =>
            rw [runPasses_cons_of_disabled henabled,
              runPasses_cons_of_disabled henabled, events_prepend,
              events_prepend, eventsBesides_append]
            exact ⟨(hrest text).1, congrArg _ (hrest text).2⟩
        | true =>
            cases hout : (p.execute c text).outcome.handsOn? with
            | some next =>
                rw [runPasses_cons_of_handsOn henabled hout,
                  runPasses_cons_of_handsOn henabled hout,
                  events_prepend, events_prepend, events_attempted,
                  eventsBesides_append, eventsBesides_attempt, if_neg hkind]
                exact ⟨(hrest next).1, congrArg _ (hrest next).2⟩
            | none =>
                obtain ⟨f, hf⟩ := handsOn?_eq_none_iff.1 hout
                rw [runPasses_cons_of_fault henabled hf,
                  runPasses_cons_of_fault henabled hf]
                refine ⟨rfl, ?_⟩
                have hevents : (⟨attempted pacing p.kind (p.execute c text),
                    .error ⟨p.kind, f⟩⟩ : Run).events
                    = Attempt.events c ⟨p, text⟩ :=
                  events_attempted pacing c p text
                rw [hevents, eventsBesides_attempt, if_neg hkind]

-- ============================================================= the whole

namespace Options

variable {o o' : Options}

theorem DifferInKeys.hasApiKey (h : o.DifferInKeys o') :
    o'.hasApiKey = o.hasApiKey :=
  congrArg Bool.not (h.given .apiKey)

theorem DifferInKeys.hasLicenseKey (h : o.DifferInKeys o') :
    o'.hasLicenseKey = o.hasLicenseKey :=
  congrArg Bool.not (h.given .licenseKey)

/-- What is told of a secret is whether it is there. -/
theorem redact_congr {s t : String} (h : t.isEmpty = s.isEmpty) :
    redact t = redact s := by
  rw [redact, redact, h]

/-- Such options are described by the same text. -/
theorem DifferInKeys.describe_eq (h : o.DifferInKeys o') :
    o'.describe = o.describe := by
  obtain ⟨hrename, hjunk, hmutate, hcanary, hexecutable, hhardware⟩ :
      o'.renameVariables = o.renameVariables ∧ o'.injectJunk = o.injectJunk
        ∧ o'.mutate = o.mutate ∧ o'.injectCanary = o.injectCanary
        ∧ o'.generateExecutable = o.generateExecutable
          ∧ o'.bindHardware = o.bindHardware :=
    ⟨h.switches .renameVariables, h.switches .injectJunk, h.switches .mutate,
      h.switches .injectCanary, h.switches .generateExecutable,
      h.switches .bindHardware⟩
  have hlicense : redact o'.licenseKey = redact o.licenseKey :=
    redact_congr (h.given .licenseKey)
  have hapi : redact o'.apiKey = redact o.apiKey :=
    redact_congr (h.given .apiKey)
  unfold describe
  rw [hrename, hjunk, hmutate, hcanary, hexecutable, hhardware, hlicense, hapi]

end Options

variable {o o' : Options}

/-- Of the license key the artifacts show the fingerprint. -/
theorem ArtifactSet.make_of_differInKeys (h : o.DifferInKeys o')
    (hprint : licenseFingerprint o'.licenseKey
      = licenseFingerprint o.licenseKey)
    (fileName : String) (l : Language) (reg : Registry) (text : String) :
    ArtifactSet.make fileName l reg text o'
      = ArtifactSet.make fileName l reg text o := by
  have hexecutable : o'.generateExecutable = o.generateExecutable :=
    h.switches .generateExecutable
  have hhardware : o'.bindHardware = o.bindHardware := h.switches .bindHardware
  have hmetadata : ExecutableMetadata.describe fileName l reg text o'
      = ExecutableMetadata.describe fileName l reg text o := by
    simp only [ExecutableMetadata.describe, hhardware, h.hasLicenseKey, hprint]
  simp only [make, hexecutable, hmetadata]

namespace Pipeline

/-- A run depends on the options only through what the passes make of them. -/
theorem runAs_eq_of_options {p : Pipeline} {source : String} {l : Language}
    (h : runPasses p.pacing (p.context o' l) p.passes source
      = runPasses p.pacing (p.context o l) p.passes source) :
    p.runAs source o' l = p.runAs source o l := by
  unfold context at h
  simp only [runAs, h]

/-- Passes that read no key run in the same way whatever the keys are. -/
theorem runAs_of_differInKeys {p : Pipeline}
    (hreads : ∀ q ∈ p.passes, q.ReadsKeyPresence) (h : o.DifferInKeys o')
    (source : String) (l : Language) :
    p.runAs source o' l = p.runAs source o l :=
  runAs_eq_of_options
    (runPasses_of_options (c := p.context o l) h.hasApiKey hreads
      (fun q _ => h.switches q.kind.switch) source)

/-- If the pass for executables leaves the text alone, neither executables
nor the hardware binding show in the text, nor in what is told of the other
passes. -/
theorem runAs_of_askForSameText {p : Pipeline}
    (hreads : ∀ q ∈ p.passes, q.ReadsKeyPresence)
    (hleaves : ∀ q ∈ p.passes, q.kind = .executable → q.LeavesText)
    (h : o.AskForSameText o') (source : String) (l : Language) :
    (p.runAs source o' l).result = (p.runAs source o l).result
      ∧ eventsBesides .executable (p.runAs source o' l).events
        = eventsBesides .executable (p.runAs source o l).events := by
  have hothers : runPasses p.pacing (p.context o' l)
    (Pass.besides .executable p.passes) source
      = runPasses p.pacing (p.context o l) (Pass.besides .executable p.passes)
        source := by
    refine runPasses_of_options (c := p.context o l) h.hasApiKey
      (fun q hq => ?_)
      (fun q hq => ?_) source
    · exact hreads q (List.mem_of_mem_filter hq)
    · have hkind : q.kind ≠ .executable :=
        of_decide_eq_true (List.mem_filter.1 hq).2
      have hswitch : q.kind.switch ≠ .generateExecutable :=
        fun heq => hkind (PassKind.switch_injective heq)
      exact h.switches _ hswitch q.kind.switch_ne_bindHardware
  obtain ⟨hresult, hevents⟩ :=
    runPasses_besides p.pacing (p.context o l) .executable hleaves source
  obtain ⟨hresult', hevents'⟩ :=
    runPasses_besides p.pacing (p.context o' l) .executable hleaves source
  rw [result_runAs, result_runAs, events_runAs, events_runAs, ← hresult,
    ← hresult', ← hevents, ← hevents', hothers]
  exact ⟨rfl, rfl⟩

end Pipeline

/-- Options that differ in their keys alone lead to the same run, under
every pipeline of the built-in passes, and to the same line in the log; the
artifacts of a text are the same, down to what is written, if the
fingerprints of the license keys are. Options that differ beside that in the
executable and the hardware binding alone lead to a run that ends the same
way and tells the same, but for what is told of the executable. -/
theorem run_shows_no_key (reg : Registry) (pacing : Pacing) (secret : String)
    (engine : PatternEngine) (source fileName : String) (l : Language)
    (o : Options) :
    let p : Pipeline := ⟨reg, pacing, Pass.standard secret engine⟩
    (∀ o', o.DifferInKeys o' →
      p.runAs source o' l = p.runAs source o l
        ∧ p.run source o' fileName = p.run source o fileName
        ∧ o'.describe = o.describe
        ∧ (licenseFingerprint o'.licenseKey = licenseFingerprint o.licenseKey →
          ∀ text, ArtifactSet.make fileName l reg text o'
            = ArtifactSet.make fileName l reg text o
              ∧ (ArtifactSet.make fileName l reg text o').files
                = (ArtifactSet.make fileName l reg text o).files))
      ∧ ∀ o', o.AskForSameText o' →
          (p.runAs source o' l).result = (p.runAs source o l).result
            ∧ eventsBesides .executable (p.runAs source o' l).events
              = eventsBesides .executable (p.runAs source o l).events := by
  intro p
  have hreads : ∀ q ∈ p.passes, q.ReadsKeyPresence :=
    fun q hq => Pass.readsKeyPresence_of_mem_standard hq
  have hleaves : ∀ q ∈ p.passes, q.kind = .executable → q.LeavesText :=
    fun q hq hkind => Pass.leavesText_of_mem_standard hq hkind
  refine ⟨fun o' h => ⟨?_, ?_, h.describe_eq, fun hprint text => ?_⟩,
    fun o' h => ?_⟩
  · exact Pipeline.runAs_of_differInKeys hreads h source l
  · rw [Pipeline.run, Pipeline.run, Pipeline.runAs_of_differInKeys hreads h]
  · have hmake := ArtifactSet.make_of_differInKeys h hprint fileName l reg text
    exact ⟨hmake, congrArg ArtifactSet.files hmake⟩
  · exact Pipeline.runAs_of_askForSameText hreads hleaves h source l

/-- Options with everything on, and a license key. -/
def trialOptions (licenseKey : String) : Options :=
  { Options.enableAll {} with licenseKey }

/-- Two license keys that have one fingerprint cannot be told apart, and
what is asked for beside the text does not show in it. -/
theorem runs_of_trialOptions :
    let o := trialOptions "LIC-2088878"
    let o' := trialOptions "LIC-29748126"
    let p : Pipeline := ⟨.standard, .instant, Pass.standard "c0ffee00"⟩
    o ≠ o' ∧ o.DifferInKeys o'
      ∧ p.run "x = 1" o' "a.py" = p.run "x = 1" o "a.py"
      ∧ licenseFingerprint o'.licenseKey = licenseFingerprint o.licenseKey
      ∧ ArtifactSet.make "a.py" .python .standard "x = 1" o'
        = ArtifactSet.make "a.py" .python .standard "x = 1" o
      ∧ o.AskForSameText
        { o with generateExecutable := false, bindHardware := false }
      ∧ (p.runAs "x = 1"
          { o with generateExecutable := false, bindHardware := false }
          .python).result
        = (p.runAs "x = 1" o .python).result := by
  intro o o' p
  have hkeys : o.DifferInKeys o' := by
    refine ⟨fun s => rfl, fun c => ?_⟩
    cases c <;> decide
  have hprint : licenseFingerprint o'.licenseKey
      = licenseFingerprint o.licenseKey := by
    decide +kernel
  have htext : o.AskForSameText
      { o with generateExecutable := false, bindHardware := false } := by
    refine ⟨fun s hexecutable hhardware => ?_, rfl⟩
    cases s with
    | generateExecutable => exact absurd rfl hexecutable
    | bindHardware => exact absurd rfl hhardware
    | renameVariables => rfl
    | injectJunk => rfl
    | mutate => rfl
    | injectCanary => rfl
  obtain ⟨hruns, htexts⟩ :=
    run_shows_no_key .standard .instant "c0ffee00" .standard "x = 1" "a.py"
      .python o
  obtain ⟨-, hrun, -, hmake⟩ := hruns o' hkeys
  exact ⟨by decide, hkeys, hrun, hprint, (hmake hprint "x = 1").1, htext,
              (htexts _ htext).1⟩

end Obfuscator
