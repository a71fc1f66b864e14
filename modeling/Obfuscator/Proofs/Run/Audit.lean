/-
The trail that a run leaves in an empty step log.

Told of the run of passes of different kinds, a log that held nothing holds
one finished step for every attempt of the run, in order (`Step.TellsOf`),
and the events can be read back off the steps (`Step.events`). That is so
however the run ends: a fault is the end of a step like any other.

# The engine

By `Trail.lean` the step of a start is as the last end of its id says,
unless its id was started before. What is told of a run is, for every
attempt, a start and at once an end (`History.lean`). So the induction is on
the history: the end that comes at once settles the step, and no later end
has the id, because no later attempt has the kind (`forall₂_trail`).
-/
import Mathlib.Data.List.Nodup
import Obfuscator.Proofs.Run.Protocol

namespace Obfuscator

open StepLog (settle trail)

-- ========================================================= what is told

theorem PassKind.id_injective : Function.Injective PassKind.id := by
  intro j k
  cases j <;> cases k <;> decide

namespace PassOutcome

/-- The status of a pass that ended so. -/
def status : PassOutcome → StepStatus
  | completed _ _ => .completed
  | failed _ _ => .error
  | fault _ => .error

/-- What is said of it. -/
def message : PassOutcome → String
  | completed _ message => message
  | failed _ reason => reason
  | fault f => f.message

end PassOutcome

namespace Attempt

/-- The id under which an attempt is told. -/
def id (a : Attempt) : String := a.pass.kind.id

/-- Everything told of an attempt is about it. -/
theorem step_of_mem_events {c : PassContext} {a : Attempt} {e : Event}
    (he : e ∈ a.events c) :
    e.step = a.id := by
  rcases List.mem_cons.1 he with rfl | he
  · rfl
  · obtain rfl := List.mem_singleton.1 he
    cases a.outcome c with
    | completed text message => rfl
    | failed text reason => rfl
    | fault f => rfl

/-- Everything told of a history is about one of its attempts. -/
theorem exists_of_mem_events {c : PassContext} {h : List Attempt} {e : Event}
    (he : e ∈ h.flatMap (Attempt.events c)) : ∃ a ∈ h, e.step = a.id := by
  obtain ⟨a, ha, he⟩ := List.mem_flatMap.1 he
  exact ⟨a, ha, step_of_mem_events he⟩

end Attempt

/-- The ids of the passes of a list that are enabled. -/
def enabledIds (c : PassContext) (passes : List Pass) : List String :=
  (enabledPasses c passes).map fun p => p.kind.id

/-- A step that says of an attempt what became of it. -/
structure Step.TellsOf (c : PassContext) (s : Step) (a : Attempt) : Prop where
  id : s.id = a.id
  name : s.name = a.pass.kind.label
  status : s.status = (a.outcome c).status
  message : s.message = (a.outcome c).message

/-- What was told of a step that has ended: its start, and then its end. -/
def Step.events (s : Step) : List Event :=
  [.started s.id s.name,
    if s.status = .completed then .completed s.id s.message
    else .failed s.id s.message]

-- ============================================================ one step

variable {c : PassContext} {s : Step} {a : Attempt}

namespace Step.TellsOf

theorem isFinished (h : s.TellsOf c a) : s.isFinished = true := by
  rw [Step.isFinished, h.status]
  cases a.outcome c with
  | completed text message => rfl
  | failed text reason => rfl
  | fault f => rfl

/-- A step is an error exactly if the pass did not do its work. -/
theorem status_eq_error_iff (h : s.TellsOf c a) :
    s.status = .error ↔ (∃ text reason, a.outcome c = .failed text reason)
      ∨ ∃ f, a.outcome c = .fault f := by
  rw [h.status]
  cases a.outcome c with
  | completed text message => simp [PassOutcome.status]
  | failed text reason => simp [PassOutcome.status]
  | fault f => simp [PassOutcome.status]

/-- What was told of an attempt can be read off its step. -/
theorem events_eq (h : s.TellsOf c a) : s.events = a.events c := by
  rw [Step.events, h.id, h.name, h.status, h.message]
  unfold Attempt.events
  cases a.outcome c with
  | completed text message => rfl
  | failed text reason => rfl
  | fault f => rfl

end Step.TellsOf

/-- A telling about another step does not end this one. -/
theorem Telling.endingOf?_eq_none {id : String} {t : Telling}
    (h : t.event.step ≠ id) :
    t.endingOf? id = none := by
  obtain ⟨now, event⟩ := t
  cases event with
  | started step label => rfl
  | completed step message => exact if_neg h
  | failed step reason => exact if_neg h

/-- The end of an attempt ends its step. -/
theorem Attempt.endingOf?_terminal (c : PassContext) (a : Attempt)
    (now : Instant) :
    Telling.endingOf? a.id ⟨now, (a.outcome c).terminal a.id⟩
      = some ⟨now, (a.outcome c).status, (a.outcome c).message⟩ := by
  cases a.outcome c with
  | completed text message => exact if_pos rfl
  | failed text reason => exact if_pos rfl
  | fault f => exact if_pos rfl

/-- An end with no other of its id after it has the last word. -/
theorem StepLog.settle_cons_of_some {t : Telling} {e : Ending}
    {later : List Telling} (h : t.endingOf? s.id = some e)
    (hlater : ∀ u ∈ later, u.endingOf? s.id = none) :
    settle s (t :: later) = s.finish e.now e.status e.message := by
  unfold settle
  rw [List.filterMap_cons_some h, List.filterMap_eq_nil_iff.2 hlater]
  rfl

-- ========================================================= all the steps

/-- The trail of a history in which no id comes twice has one step for every
attempt. -/
theorem forall₂_trail :
    ∀ (h : List Attempt) (told : List Telling) (seen : List String),
      told.map Telling.event = h.flatMap (Attempt.events c) →
        (h.map Attempt.id).Nodup → (∀ a ∈ h, a.id ∉ seen) →
          List.Forall₂ (Step.TellsOf c) (trail seen told) h := by
  intro h
  induction h with
  | nil =>
      intro told seen htold _ _
      rw [List.map_eq_nil_iff.1 htold]
      exact .nil
  | cons a later ih =>
      intro told seen htold hids hseen
      obtain ⟨hnew, hids⟩ := List.nodup_cons.1 hids
      obtain ⟨hunseen, hseen⟩ := List.forall_mem_cons.1 hseen
      have hcons : told.map Telling.event
          = .started a.id a.pass.kind.label :: (a.outcome c).terminal a.id
            :: later.flatMap (Attempt.events c) := htold
      obtain ⟨⟨started, _⟩, afterStart, rfl, rfl, hend⟩ :=
        List.map_eq_cons_iff.1 hcons
      obtain ⟨⟨stopped, _⟩, told, rfl, rfl, hrest⟩ :=
        List.map_eq_cons_iff.1 hend
      have hlater : ∀ t ∈ told, t.endingOf? a.id = none := by
        intro t ht
        have hevent : t.event ∈ later.flatMap (Attempt.events c) :=
          hrest ▸ List.mem_map_of_mem ht
        obtain ⟨b, hb, hstep⟩ := Attempt.exists_of_mem_events hevent
        refine Telling.endingOf?_eq_none ?_
        rw [hstep]
        exact fun heq => hnew (heq ▸ List.mem_map_of_mem hb)
      have htrail : trail seen
          (⟨started, .started a.id a.pass.kind.label⟩
            :: ⟨stopped, (a.outcome c).terminal a.id⟩ :: told)
          = (Step.start started a.id a.pass.kind.label).finish stopped
              (a.outcome c).status (a.outcome c).message
            :: trail (seen ++ [a.id]) told := by
        have hentry : StepLog.entry seen started a.id a.pass.kind.label
              (⟨stopped, (a.outcome c).terminal a.id⟩ :: told)
            = (Step.start started a.id a.pass.kind.label).finish stopped
                (a.outcome c).status (a.outcome c).message := by
          rw [StepLog.entry, if_neg hunseen]
          exact StepLog.settle_cons_of_some
            (s := Step.start started a.id a.pass.kind.label)
            (a.endingOf?_terminal c stopped) hlater
        simp only [trail, hentry]
        cases a.outcome c with
        | completed text message => rfl
        | failed text reason => rfl
        | fault f => rfl
      rw [htrail]
      refine .cons ⟨rfl, rfl, rfl, rfl⟩ (ih told _ hrest hids ?_)
      intro b hb hmem
      rcases List.mem_append.1 hmem with hmem | hmem
      · exact hseen b hb hmem
      · exact hnew (List.mem_singleton.1 hmem ▸ List.mem_map_of_mem hb)

/-- Of passes of different kinds no two attempts have one id. -/
theorem IsHistory.nodup_ids {passes : List Pass} {source : String}
    {h : List Attempt} (hh : IsHistory c passes source h)
    (hkinds : (passes.map Pass.kind).Nodup) :
    (h.map Attempt.id).Nodup := by
  have hsub : (h.map Attempt.pass).Sublist passes :=
    hh.inOrder.sublist.trans List.filter_sublist
  have hids : h.map Attempt.id
      = ((h.map Attempt.pass).map Pass.kind).map PassKind.id := by
    rw [List.map_map, List.map_map]
    rfl
  rw [hids]
  exact List.Nodup.map PassKind.id_injective
    ((hsub.map Pass.kind).nodup hkinds)

theorem StepLog.sinceReset_map_tell (told : List Telling) :
    StepLog.sinceReset (told.map StepLog.Call.tell) = told := by
  induction told using List.reverseRecOn with
  | nil => rfl
  | append_singleton told t ih =>
      rw [List.map_append]
      exact (StepLog.sinceReset_snoc_tell _ t).trans (by rw [ih])

/-- What is told of a run are its attempts. -/
theorem Pipeline.events_runAs_of_isHistory {p : Pipeline} {source : String}
    {o : Options} {l : Language} {h : List Attempt}
    (hh : IsHistory (p.context o l) p.passes source h) :
    (p.runAs source o l).events = h.flatMap
    (Attempt.events (p.context o l)) := by
  rw [events_runAs, events_runPasses hh]

/-- A log that holds nothing and is told of attempts of different ids has
one step for each. -/
theorem forall₂_steps_foldl_receive {h : List Attempt} {told : List Telling}
    (htold : told.map Telling.event = h.flatMap (Attempt.events c))
    (hids : (h.map Attempt.id).Nodup) :
    List.Forall₂ (Step.TellsOf c)
      ((told.map StepLog.Call.tell).foldl StepLog.receive {}).steps h := by
  have hreplay : (told.map StepLog.Call.tell).foldl StepLog.receive {}
      = StepLog.replay (told.map StepLog.Call.tell) := rfl
  rw [hreplay, StepLog.steps_replay, StepLog.sinceReset_map_tell]
  exact forall₂_trail h told [] htold hids fun _ _ => List.not_mem_nil

/-- A new log that watches a run on a machine has a step for every attempt
of it. -/
theorem exists_forall₂_playAll {F : World.FileSystem} {p : Pipeline}
    (hkinds : (p.passes.map Pass.kind).Nodup) (source : String) (o : Options)
    (l : Language) (logger : Log.Logger) (now : Instant)
    (m : World.Machine F) :
    ∃ h, IsHistory (p.context o l) p.passes source h
      ∧ List.Forall₂ (Step.TellsOf (p.context o l))
          (((Playback.start now).playAll logger
            (p.runAs source o l).signals).runOn m).2.log.steps
          h := by
  obtain ⟨h, honly⟩ :=
    exists_isHistory_iff (c := p.context o l) p.passes source
  have hh : IsHistory (p.context o l) p.passes source h := (honly h).2 rfl
  obtain ⟨told, htold, hlog⟩ :=
    Playback.exists_tellings_runOn logger (p.runAs source o l).signals
      (Playback.start now) m
  refine ⟨h, hh, ?_⟩
  rw [hlog]
  exact forall₂_steps_foldl_receive
    (htold.trans (Pipeline.events_runAs_of_isHistory hh))
    (hh.nodup_ids hkinds)

-- ========================================================= reading them

variable {steps : List Step} {h : List Attempt}

/-- The steps have the identifiers of the attempts. -/
theorem map_id_of_forall₂ (hsteps : List.Forall₂ (Step.TellsOf c) steps h) :
    steps.map Step.id = h.map Attempt.id := by
  induction hsteps with
  | nil => rfl
  | cons hs _ ih => rw [List.map_cons, List.map_cons, hs.id, ih]

/-- The events of the steps are those of the attempts. -/
theorem flatMap_events_of_forall₂
    (hsteps : List.Forall₂ (Step.TellsOf c) steps h) :
    steps.flatMap Step.events = h.flatMap (Attempt.events c) := by
  induction hsteps with
  | nil => rfl
  | cons hs _ ih => rw [List.flatMap_cons, List.flatMap_cons, hs.events_eq, ih]

/-- All steps are over. -/
theorem isFinished_of_forall₂
    (hsteps : List.Forall₂ (Step.TellsOf c) steps h) :
    ∀ s ∈ steps, s.isFinished = true := by
  induction hsteps with
  | nil => simp
  | cons hs _ ih => exact List.forall_mem_cons.2 ⟨hs.isFinished, ih⟩

/-- Some step is an error exactly if some attempt did not do its work. -/
theorem exists_error_iff_of_forall₂
    (hsteps : List.Forall₂ (Step.TellsOf c) steps h) :
    (∃ s ∈ steps, s.status = .error) ↔
      ∃ a ∈ h, (∃ text reason, a.outcome c = .failed text reason)
        ∨ ∃ f, a.outcome c = .fault f := by
  induction hsteps with
  | nil => simp
  | cons hs _ ih =>
      simp only [List.mem_cons, exists_eq_or_imp, ih, hs.status_eq_error_iff]

/-- The id of the pass that a run ended in. -/
theorem getLast?_map_id_of_ending {source : String} {f : StepFailure}
    (hend : ending c source h = .error f) :
    (h.map Attempt.id).getLast? = some f.kind.id := by
  unfold ending at hend
  split at hend
  · cases hend
  · next a hlast =>
    rw [List.getLast?_map, hlast]
    split at hend
    · cases hend
    · cases hend
    · cases hend
      rfl

/-- A run that ends with a text has attempted every pass that is enabled. -/
theorem IsHistory.map_pass_of_ending_eq_ok {passes : List Pass}
    {source text : String} (hh : IsHistory c passes source h)
    (hend : ending c source h = .ok text) :
    h.map Attempt.pass = enabledPasses c passes := by
  rcases hh.toTheEnd with hall | ⟨a, hlast, hnone⟩
  · exact hall
  · obtain ⟨f, hout⟩ := handsOn?_eq_none_iff.1 hnone
    have hfault : ending c source h = .error ⟨a.pass.kind, f⟩ := by
      rw [ending, Option.mem_def.1 hlast]
      simp only [hout]
    rw [hfault] at hend
    cases hend

/-- A step log that holds nothing, or was reset, and watches a run of passes
of different kinds, is a complete trail of it, however the run ends. Its
steps are those of the attempts of the run, in order, each once and each
finished: the enabled passes up to the first fault, and all of them if there
is none. The events that were told are the start and the end of each step,
as the step tells them; and there are errors exactly if some pass did not do
its work. -/
theorem complete_trail_of_run (p : Pipeline) (source : String) (o : Options)
    (l : Language) (logger : Log.Logger) (watching : Playback) (w : World)
    (hkinds : (p.passes.map Pass.kind).Nodup)
    (hempty : watching.log = {}
      ∨ ∃ earlier : StepLog, watching.log = earlier.reset) :
    let c := p.context o l
    let run := p.runAs source o l
    let log := ((watching.playAll logger run.signals).simulate w).2.log
    ∃ h : List Attempt,
      (∀ k, IsHistory c p.passes source k ↔ k = h)
        ∧ List.Forall₂ (Step.TellsOf c) log.steps h
        ∧ (∀ s ∈ log.steps, s.isFinished = true)
        ∧ (log.steps.map Step.id).Nodup
        ∧ log.steps.map Step.id <+: enabledIds c p.passes
        ∧ (∀ text, run.result = .ok text →
          log.steps.map Step.id = enabledIds c p.passes)
        ∧ (∀ f, run.result = .error f →
          (log.steps.map Step.id).getLast? = some f.kind.id)
        ∧ log.events = h.flatMap (Attempt.events c)
        ∧ log.events = log.steps.flatMap Step.events
        ∧ (log.hasErrors = true ↔
            ∃ a ∈ h, (∃ text reason, a.outcome c = .failed text reason)
              ∨ ∃ f, a.outcome c = .fault f) := by
  intro c run log
  have hnothing : watching.log = {} := by
    rcases hempty with hfresh | ⟨earlier, hreset⟩
    · exact hfresh
    · exact hreset
  obtain ⟨h, honly⟩ := exists_isHistory_iff (c := c) p.passes source
  have hh : IsHistory c p.passes source h := (honly h).2 rfl
  have hresult : run.result = ending c source h := by
    rw [Pipeline.result_runAs, result_runPasses hh]
  obtain ⟨told, htold, hreceived⟩ :=
    Playback.exists_tellings_playAll logger run.signals watching w
  have htold : told.map Telling.event = h.flatMap (Attempt.events c) :=
    htold.trans (Pipeline.events_runAs_of_isHistory hh)
  have hlog : log = (told.map StepLog.Call.tell).foldl StepLog.receive {} := by
    rw [← hnothing, ← hreceived]
  have hsteps : List.Forall₂ (Step.TellsOf c) log.steps h := by
    rw [hlog]
    exact forall₂_steps_foldl_receive htold (hh.nodup_ids hkinds)
  have hids : log.steps.map Step.id = h.map Attempt.id :=
    map_id_of_forall₂ hsteps
  have hpasses : h.map Attempt.id = (h.map Attempt.pass).map fun pass =>
      pass.kind.id := by
    rw [List.map_map]
    rfl
  have hevents : log.events = h.flatMap (Attempt.events c) := by
    rw [hlog, StepLog.events_foldl_receive, htold]
    rfl
  refine ⟨h, honly, hsteps, isFinished_of_forall₂ hsteps, ?_, ?_, ?_, ?_,
    hevents, ?_, ?_⟩
  · rw [hids]
    exact hh.nodup_ids hkinds
  · rw [hids, hpasses]
    exact hh.inOrder.map _
  · intro text htext
    rw [hids, hpasses, hh.map_pass_of_ending_eq_ok (hresult ▸ htext)]
    rfl
  · intro f hf
    rw [hids]
    exact getLast?_map_id_of_ending (hresult ▸ hf)
  · rw [hevents, flatMap_events_of_forall₂ hsteps]
  · rw [← exists_error_iff_of_forall₂ hsteps, StepLog.hasErrors,
      List.any_eq_true]
    simp only [decide_eq_true_eq]

/-- Four passes, of which the first cannot do its work without a key and the
third faults. -/
def trialPipeline : Pipeline where
  registry := Registry.standard
  pacing := Pacing.standard
  passes :=
    [Pass.mutate, Pass.canary "0123abcd",
      ⟨.junk, fun _ _ => { outcome := .fault ⟨["boom"]⟩ }⟩, Pass.executable]

/-- What is left of a run that was cut off. -/
def staleLog : StepLog where
  steps := [Step.start ⟨0, 0⟩ "exe-gen" "Executable Generation"]
  events := [.started "exe-gen" "Executable Generation"]

/-- That log, reset, after it watched the four passes, all of them enabled. -/
def trialLog : StepLog :=
  (((⟨staleLog.reset, ⟨⟨0, 0⟩, ⟨0, 0⟩⟩⟩ : Playback).playAll ⟨{}, []⟩
    (trialPipeline.runAs "x = 1"
      (Options.enableAll {}) .python).signals).simulate
      { secret := "", runId := "" }).2.log

/-- The trail ends, finished, with the pass that faults. -/
theorem trialLog_complete :
    (trialPipeline.passes.map Pass.kind).Nodup
      ∧ trialLog.steps.map Step.id = ["ai-mutate", "canary-inject",
        "junk-inject"]
      ∧ (∀ s ∈ trialLog.steps, s.isFinished = true)
      ∧ trialLog.events = trialLog.steps.flatMap Step.events
      ∧ trialLog.hasErrors = true := by
  have hkinds : (trialPipeline.passes.map Pass.kind).Nodup := by decide
  obtain ⟨h, -, -, hfinished, -, -, -, -, -, hevents, -⟩ :=
    complete_trail_of_run trialPipeline "x = 1" (Options.enableAll {}) .python
      ⟨{}, []⟩
      ⟨staleLog.reset, ⟨⟨0, 0⟩, ⟨0, 0⟩⟩⟩ { secret := "", runId := "" } hkinds
      (.inr ⟨staleLog, rfl⟩)
  exact ⟨hkinds, by decide +kernel, hfinished, hevents, by decide +kernel⟩

end Obfuscator
