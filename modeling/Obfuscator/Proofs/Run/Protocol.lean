/-
What those who watch a run are told.

The events of a run are those of its history (`History.lean`): for every
attempt one `started` and then one event that ends it, and nothing for any
other pass. A step log that watches the run takes them in behind whatever it
holds, because playing the signals tells it each event once, when its turn
comes (`exists_tellings_runOn`). The run ends in an error exactly if some
attempt ends in a fault, which is then the last thing that is told.
-/
import Obfuscator.Program.Playback
import Obfuscator.Proofs.Progress.Trail
import Obfuscator.Proofs.Run.History
import Obfuscator.Proofs.World.Machine

namespace Obfuscator

open Pipeline (prepend runPasses)

-- ============================================================== playing

namespace Playback

variable {F : World.FileSystem}

/-- Carrying out a signal tells the step log the event, if it is one. -/
theorem log_play (logger : Log.Logger) (b : Playback) (s : Signal)
    (m : World.Machine F) :
    ((b.play logger s).runOn m).2.log
      = match s with
        | .event e => b.log.record m.clock e
        | .note _ => b.log
        | .pause _ => b.log := by
  cases s with
  | note r =>
      simp only [play, World.Action.runOn_bind]
      rfl
  | event e =>
      simp only [play, World.Action.runOn_bind]
      rfl
  | pause d =>
      simp only [play, World.Action.runOn_bind]
      rfl

/-- Playing signals on a machine tells the step log their events, once each
and in order. -/
theorem exists_tellings_runOn (logger : Log.Logger) :
    ∀ (signals : List Signal) (b : Playback) (m : World.Machine F),
      ∃ told : List Telling,
        told.map Telling.event = signals.filterMap Signal.event?
          ∧ ((b.playAll logger signals).runOn m).2.log
            = (told.map StepLog.Call.tell).foldl StepLog.receive b.log := by
  intro signals
  induction signals with
  | nil => intro b m; exact ⟨[], rfl, rfl⟩
  | cons s rest ih =>
      intro b m
      have hlog := log_play logger b s m
      simp only [playAll, World.Action.runOn_bind]
      obtain ⟨told, htold, hrest⟩ :=
        ih ((b.play logger s).runOn m).2 ((b.play logger s).runOn m).1
      rw [hrest, hlog]
      cases s with
      | note r => exact ⟨told, htold, rfl⟩
      | pause d => exact ⟨told, htold, rfl⟩
      | event e =>
          refine ⟨⟨m.clock, e⟩ :: told, ?_, rfl⟩
          rw [List.map_cons, htold]
          rfl

/-- Playing signals on a world tells the step log their events, once each
and in order. -/
theorem exists_tellings_playAll (logger : Log.Logger) (signals : List Signal)
    (b : Playback) (w : World) :
    ∃ told : List Telling,
      told.map Telling.event = signals.filterMap Signal.event?
        ∧ ((b.playAll logger signals).simulate w).2.log
          = (told.map StepLog.Call.tell).foldl StepLog.receive b.log := by
  obtain ⟨told, htold, hlog⟩ :=
    exists_tellings_runOn logger signals b w.asMachine
  rw [World.Action.runOn_asMachine] at hlog
  exact ⟨told, htold, hlog⟩

end Playback

namespace StepLog

/-- Tellings add their events to a log. -/
theorem events_foldl_receive :
    ∀ (told : List Telling) (log : StepLog),
      ((told.map Call.tell).foldl receive log).events
        = log.events ++ told.map Telling.event := by
  intro told
  induction told with
  | nil => intro log; exact (List.append_nil _).symm
  | cons t rest ih =>
      intro log
      rw [List.map_cons, List.foldl_cons, ih, List.map_cons]
      exact List.append_assoc log.events [t.event] _

end StepLog

-- ============================================================= the run

namespace Pipeline

/-- What the passes of a run may look at. -/
def context (p : Pipeline) (o : Options) (l : Language) : PassContext :=
  ⟨l, p.registry, o⟩

/-- A run ends with what its passes end with. -/
theorem result_runAs (p : Pipeline) (source : String) (o : Options)
    (l : Language) :
    (p.runAs source o l).result
      = (runPasses p.pacing (p.context o l) p.passes source).result := by
  unfold runAs context
  simp only [prepend]
  split
  · rfl
  · rfl

/-- The records at both ends of a run are no events. -/
theorem events_runAs (p : Pipeline) (source : String) (o : Options)
    (l : Language) :
    (p.runAs source o l).events
      = (runPasses p.pacing (p.context o l) p.passes source).events := by
  unfold runAs context
  simp only [prepend]
  split
  · rfl
  · exact (List.filterMap_append ..).trans (List.append_nil _)

/-- A run depends on its passes only through what they do in it. -/
theorem runAs_eq_of_runPasses_eq {p : Pipeline} {others : List Pass}
    {source : String} {o : Options} {l : Language}
    (h : runPasses p.pacing (p.context o l) others source
      = runPasses p.pacing (p.context o l) p.passes source) :
    { p with passes := others }.runAs source o l = p.runAs source o l := by
  unfold context at h
  simp only [runAs, h]

end Pipeline

variable {c : PassContext} {source : String} {h : List Attempt}

/-- Nothing is attempted after a fault. -/
theorem getLast?_of_fault {passes : List Pass}
    (hh : IsHistory c passes source h) {a : Attempt} (ha : a ∈ h) {f : Fault}
    (hout : a.outcome c = .fault f) :
    h.getLast? = some a := by
  obtain ⟨earlier, later, rfl⟩ := List.append_of_mem ha
  cases later with
  | nil => exact List.getLast?_concat
  | cons b more =>
      have hchain := (List.isChain_append.1 hh.handedOn).2.1
      have hnext := (List.isChain_cons_cons.1 hchain).1
      rw [hout] at hnext
      cases hnext

/-- A run ends in an error exactly if an attempt ends in a fault. -/
theorem ending_eq_error_iff {passes : List Pass}
    (hh : IsHistory c passes source h) :
    (∃ f, ending c source h = .error f)
      ↔ ∃ a ∈ h, ∃ f, a.outcome c = .fault f := by
  constructor
  · rintro ⟨f, hend⟩
    unfold ending at hend
    split at hend
    · cases hend
    · next a hlast =>
      split at hend
      · cases hend
      · cases hend
      · next fault hout => exact ⟨a, List.mem_of_getLast? hlast, fault, hout⟩
  · rintro ⟨a, ha, f, hout⟩
    refine ⟨⟨a.pass.kind, f⟩, ?_⟩
    rw [ending, getLast?_of_fault hh ha hout]
    simp only [hout]

/-- The fault that a run ends in is told last. -/
theorem getLast?_events_of_ending {f : StepFailure}
    (hend : ending c source h = .error f) :
    (h.flatMap (Attempt.events c)).getLast? = some
    (.failed f.kind.id f.fault.message) := by
  cases h using List.reverseRecOn with
  | nil => cases hend
  | append_singleton h a =>
      rw [ending, List.getLast?_concat] at hend
      rw [List.flatMap_append, List.flatMap_singleton, List.getLast?_append]
      cases hout : a.outcome c with
      | completed text message => simp [hout] at hend
      | failed text reason => simp [hout] at hend
      | fault fault =>
          simp only [hout] at hend
          cases hend
          simp [Attempt.events, hout, PassOutcome.terminal]

/-- A run has exactly one history. What is told of the run, to whatever log,
are the events of the history, one `started` and one end for every attempt.
The run ends in an error exactly if an attempt ends in a fault, which is
then the last thing told, and otherwise with the text that went through all
attempts. A pass that is not in the history can be any other pass of its
kind and the run stays what it is, down to the last record. -/
theorem runAs_protocol (p : Pipeline) (source : String) (o : Options)
    (l : Language) (logger : Log.Logger) (watching : Playback) (w : World) :
    ∃ h : List Attempt,
      (∀ k, IsHistory (p.context o l) p.passes source k ↔ k = h)
        ∧ (p.runAs source o l).events
          = h.flatMap (Attempt.events (p.context o l))
        ∧ ((watching.playAll logger (p.runAs source o l).signals).simulate
          w).2.log.events
            = watching.log.events ++ h.flatMap (Attempt.events (p.context o l))
        ∧ (p.runAs source o l).result = ending (p.context o l) source h
        ∧ ((∃ f, (p.runAs source o l).result = .error f)
            ↔ ∃ a ∈ h, ∃ f, a.outcome (p.context o l) = .fault f)
        ∧ (∀ f, (p.runAs source o l).result = .error f →
            (p.runAs source o l).events.getLast?
              = some (.failed f.kind.id f.fault.message))
        ∧ ∀ others : List Pass, others.map Pass.kind = p.passes.map Pass.kind →
            IsHistory (p.context o l) others source h →
              { p with passes := others }.runAs source o l
                = p.runAs source o l := by
  obtain ⟨h, honly⟩ :=
    exists_isHistory_iff (c := p.context o l) p.passes source
  have hh : IsHistory (p.context o l) p.passes source h := (honly h).2 rfl
  have hevents : (p.runAs source o l).events
      = h.flatMap (Attempt.events (p.context o l)) := by
    rw [Pipeline.events_runAs, events_runPasses hh]
  have hresult : (p.runAs source o l).result
      = ending (p.context o l) source h := by
    rw [Pipeline.result_runAs, result_runPasses hh]
  refine ⟨h, honly, hevents, ?_, hresult, ?_, ?_, ?_⟩
  · obtain ⟨told, htold, hlog⟩ :=
      Playback.exists_tellings_playAll logger (p.runAs source o l).signals
        watching w
    rw [hlog, StepLog.events_foldl_receive, htold, ← hevents]
    rfl
  · rw [hresult]
    exact ending_eq_error_iff hh
  · intro f hf
    rw [hresult] at hf
    rw [hevents]
    exact getLast?_events_of_ending hf
  · intro others hkinds hothers
    exact Pipeline.runAs_eq_of_runPasses_eq (runPasses_congr hkinds hh hothers)

end Obfuscator
