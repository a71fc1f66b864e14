/-
What happens in a run, said without the loop that makes it happen.

A run is described by its history: which passes it gets to, and the text
each of them is given. `IsHistory` says what a history is. The enabled
passes are attempted in the order of the list, from the first on; the first
is given the source, and each next one what the one before it handed on; it
goes on until there is no enabled pass left, or until one hands nothing on,
which only a fault does. All else follows from the history: what the
reporters are told (`Attempt.events`) and what the run ends with (`ending`).

# The engine

The loop takes the passes one at a time, and so does a history:
`isHistory_cons_of_enabled` and `isHistory_cons_of_disabled` say what the
first pass of the list contributes. From these two, by induction on the
list, every run has one history and no other, its events are those of the
history, and its signals do not change if passes that are not in the history
are exchanged for others of their kind (`runPasses_congr`). That is what it
means that a pass which is disabled, or comes after a fault, does not work
at all.
-/
import Mathlib.Data.List.Chain
import Obfuscator.Pipeline

namespace Obfuscator

-- ============================================================== attempts

namespace PassOutcome

/-- The text for the passes that follow; a fault has none. -/
def handsOn? : PassOutcome → Option String
  | completed text _ => some text
  | failed text _ => some text
  | fault _ => none

/-- The event that tells how the pass with a given id ended. -/
def terminal (id : String) : PassOutcome → Event
  | completed _ message => .completed id message
  | failed _ reason => .failed id reason
  | fault f => .failed id f.message

end PassOutcome

/-- A pass at work, and the text it is given. -/
structure Attempt where
  pass : Pass
  given : String

namespace Attempt

/-- How it ends. -/
def outcome (c : PassContext) (a : Attempt) : PassOutcome :=
  (a.pass.execute c a.given).outcome

/-- What is told of it: that it starts, and how it ends. -/
def events (c : PassContext) (a : Attempt) : List Event :=
  [.started a.pass.kind.id a.pass.kind.label,
    (a.outcome c).terminal a.pass.kind.id]

end Attempt

/-- The passes of a list that are enabled. -/
def enabledPasses (c : PassContext) (passes : List Pass) : List Pass :=
  passes.filter fun p => p.kind.isEnabled c.options

/-- What a run over a source attempts, one after the other. -/
structure IsHistory (c : PassContext) (passes : List Pass) (source : String)
    (h : List Attempt) : Prop where
  /-- The enabled passes are attempted in order, none left out. -/
  inOrder : h.map Attempt.pass <+: enabledPasses c passes
  /-- The first is given the source. -/
  fromSource : ∀ a ∈ h.head?, a.given = source
  /-- Each next one is given what the one before it hands on, so only the
  last can fault. -/
  handedOn : h.IsChain fun a b => (a.outcome c).handsOn? = some b.given
  /-- It goes on until no pass is left, or until nothing is handed on. -/
  toTheEnd : h.map Attempt.pass = enabledPasses c passes
    ∨ ∃ a ∈ h.getLast?, (a.outcome c).handsOn? = none

/-- What a run with a given history ends with. -/
def ending (c : PassContext) (source : String) (h : List Attempt) :
    Except StepFailure String :=
  match h.getLast? with
  | none => .ok source
  | some a =>
    match a.outcome c with
    | .completed text _ => .ok text
    | .failed text _ => .ok text
    | .fault f => .error ⟨a.pass.kind, f⟩

-- ============================================ the first pass of a list

variable {c : PassContext} {p : Pass} {rest : List Pass} {text : String}

/-- Without passes nothing is attempted. -/
theorem isHistory_nil {h : List Attempt} : IsHistory c [] text h ↔ h = [] := by
  constructor
  · intro hh
    have hnil : h.map Attempt.pass <+: [] := hh.inOrder
    exact List.map_eq_nil_iff.1 (List.prefix_nil.1 hnil)
  · rintro rfl
    exact ⟨List.prefix_rfl, by simp, .nil, Or.inl rfl⟩

/-- A pass that is disabled is not attempted. -/
theorem isHistory_cons_of_disabled (hp : p.kind.isEnabled c.options = false)
    {h : List Attempt} :
    IsHistory c (p :: rest) text h ↔ IsHistory c rest text h := by
  have hskip : enabledPasses c (p :: rest) = enabledPasses c rest :=
    List.filter_cons_of_neg (by simp [hp])
  constructor
  · rintro ⟨inOrder, fromSource, handedOn, toTheEnd⟩
    rw [hskip] at inOrder toTheEnd
    exact ⟨inOrder, fromSource, handedOn, toTheEnd⟩
  · rintro ⟨inOrder, fromSource, handedOn, toTheEnd⟩
    rw [← hskip] at inOrder toTheEnd
    exact ⟨inOrder, fromSource, handedOn, toTheEnd⟩

/-- What is left of a history after its first attempt. -/
def Continues (c : PassContext) (rest : List Pass) (outcome : PassOutcome)
    (later : List Attempt) : Prop :=
  match outcome.handsOn? with
  | some next => IsHistory c rest next later
  | none => later = []

/-- The first attempt of a history is the first enabled pass, on the text
that is given. -/
theorem exists_later_of_isHistory (hp : p.kind.isEnabled c.options = true)
    {h : List Attempt} (hh : IsHistory c (p :: rest) text h) :
    ∃ later, h = ⟨p, text⟩ :: later
      ∧ Continues c rest (p.execute c text).outcome later := by
  obtain ⟨inOrder, fromSource, handedOn, toTheEnd⟩ := hh
  have htake : enabledPasses c (p :: rest) = p :: enabledPasses c rest :=
    List.filter_cons_of_pos hp
  rw [htake] at inOrder toTheEnd
  cases h with
  | nil =>
      rcases toTheEnd with hend | ⟨a, ha, -⟩
      · cases hend
      · cases ha
  | cons a later =>
      obtain ⟨hpass, hlater⟩ := List.cons_prefix_cons.1 inOrder
      have ha : a = ⟨p, text⟩ := by
        have hgiven : a.given = text := fromSource a rfl
        rw [← hpass, ← hgiven]
      subst ha
      obtain ⟨hnext, hchain⟩ := List.isChain_cons.1 handedOn
      refine ⟨later, rfl, ?_⟩
      unfold Continues
      cases hout : (p.execute c text).outcome.handsOn? with
      | none =>
          cases later with
          | nil => rfl
          | cons b more =>
              exact absurd (hout.symm.trans (hnext b rfl)) (by simp)
      | some next =>
          refine ⟨hlater, ?_, hchain, ?_⟩
          · intro b hb
            exact (Option.some.inj (hout.symm.trans (hnext b hb))).symm
          · rcases toTheEnd with hend | ⟨b, hb, hnone⟩
            · exact Or.inl (List.cons.inj hend).2
            · cases later with
              | nil =>
                  -- the last attempt is this one, which hands a text on
                  obtain rfl : (⟨p, text⟩ : Attempt) = b := Option.some.inj hb
                  exact absurd (hout.symm.trans hnone) (by simp)
              | cons b' more =>
                  rw [List.getLast?_cons_cons] at hb
                  exact Or.inr ⟨b, hb, hnone⟩

/-- A first attempt and what goes on from it are a history. -/
theorem isHistory_of_continues (hp : p.kind.isEnabled c.options = true)
    {later : List Attempt}
    (hlater : Continues c rest (p.execute c text).outcome later) :
    IsHistory c (p :: rest) text (⟨p, text⟩ :: later) := by
  have htake : enabledPasses c (p :: rest) = p :: enabledPasses c rest :=
    List.filter_cons_of_pos hp
  have hfirst : ∀ a ∈ (⟨p, text⟩ :: later : List Attempt).head?,
      a.given = text := by
    intro a ha
    obtain rfl : (⟨p, text⟩ : Attempt) = a := Option.some.inj ha
    rfl
  unfold Continues at hlater
  cases hout : (p.execute c text).outcome.handsOn? with
  | none =>
      rw [hout] at hlater
      obtain rfl : later = [] := hlater
      refine ⟨?_, hfirst, .singleton _, Or.inr ⟨⟨p, text⟩, rfl, hout⟩⟩
      rw [htake]
      exact List.cons_prefix_cons.2 ⟨rfl, List.nil_prefix⟩
  | some next =>
      rw [hout] at hlater
      obtain ⟨inOrder, fromSource, handedOn, toTheEnd⟩ := hlater
      refine ⟨?_, hfirst, List.isChain_cons.2 ⟨fun b hb => ?_, handedOn⟩, ?_⟩
      · rw [htake]
        exact List.cons_prefix_cons.2 ⟨rfl, inOrder⟩
      · rw [fromSource b hb]
        exact hout
      · rw [htake]
        rcases toTheEnd with hend | ⟨b, hb, hnone⟩
        · exact Or.inl (by rw [List.map_cons, hend])
        · refine Or.inr ⟨b, ?_, hnone⟩
          cases later with
          | nil => cases hb
          | cons b' more =>
              rw [List.getLast?_cons_cons]
              exact hb

/-- A pass that is enabled is attempted first, and the others go on from
what it hands on. -/
theorem isHistory_cons_of_enabled (hp : p.kind.isEnabled c.options = true)
    {h : List Attempt} :
    IsHistory c (p :: rest) text h ↔
      ∃ later, h = ⟨p, text⟩ :: later
        ∧ Continues c rest (p.execute c text).outcome later := by
  constructor
  · exact exists_later_of_isHistory hp
  · rintro ⟨later, rfl, hlater⟩
    exact isHistory_of_continues hp hlater

/-- Every run has one history. -/
theorem exists_isHistory_iff :
    ∀ (passes : List Pass) (text : String),
      ∃ h, ∀ k, IsHistory c passes text k ↔ k = h := by
  intro passes
  induction passes with
  | nil => intro text; exact ⟨[], fun k => isHistory_nil⟩
  | cons p rest ih =>
      intro text
      cases hp : p.kind.isEnabled c.options with
      | false =>
          obtain ⟨h, hh⟩ := ih text
          exact ⟨h, fun k => (isHistory_cons_of_disabled hp).trans (hh k)⟩
      | true =>
          have hlater : ∃ later, ∀ k,
              Continues c rest (p.execute c text).outcome k ↔ k = later := by
            unfold Continues
            cases (p.execute c text).outcome.handsOn? with
            | none => exact ⟨[], fun k => Iff.rfl⟩
            | some next => exact ih next
          obtain ⟨later, hlater⟩ := hlater
          refine ⟨⟨p, text⟩ :: later,
            fun k => (isHistory_cons_of_enabled hp).trans ?_⟩
          constructor
          · rintro ⟨k', rfl, hk'⟩
            rw [(hlater k').1 hk']
          · rintro rfl
            exact ⟨later, rfl, (hlater later).2 rfl⟩

-- ================================================= the loop, pass by pass

open Pipeline (attempted ended prepend runPasses skipped)

variable {pacing : Pacing}

/-- A pass that is off leaves the text and the other passes alone. -/
theorem runPasses_cons_of_disabled (hp : p.kind.isEnabled c.options = false) :
    runPasses pacing c (p :: rest) text
      = prepend (skipped p.kind) (runPasses pacing c rest text) := by
  rw [runPasses, if_neg (by simp [hp])]

/-- A pass that hands a text on is followed by the others on that text. -/
theorem runPasses_cons_of_handsOn (hp : p.kind.isEnabled c.options = true)
    {next : String} (hnext : (p.execute c text).outcome.handsOn? = some next) :
    runPasses pacing c (p :: rest) text
      = prepend (attempted pacing p.kind (p.execute c text))
          (runPasses pacing c rest next) := by
  rw [runPasses, if_pos hp]
  cases hout : (p.execute c text).outcome with
  | completed text' message =>
      rw [hout] at hnext
      obtain rfl : text' = next := Option.some.inj hnext
      simp only [hout]
  | failed text' reason =>
      rw [hout] at hnext
      obtain rfl : text' = next := Option.some.inj hnext
      simp only [hout]
  | fault f =>
      rw [hout] at hnext
      cases hnext

/-- A pass with a fault is the last. -/
theorem runPasses_cons_of_fault (hp : p.kind.isEnabled c.options = true)
    {f : Fault} (hout : (p.execute c text).outcome = .fault f) :
    runPasses pacing c (p :: rest) text
      = ⟨attempted pacing p.kind (p.execute c text), .error ⟨p.kind, f⟩⟩ := by
  rw [runPasses, if_pos hp]
  simp only [hout]

theorem events_prepend (signals : List Signal) (r : Run) :
    (prepend signals r).events = signals.filterMap Signal.event? ++ r.events :=
  List.filterMap_append

/-- An attempt is told to start and to end, and nothing else is told of it. -/
theorem events_attempted (pacing : Pacing) (c : PassContext) (p : Pass)
    (text : String) :
    (attempted pacing p.kind (p.execute c text)).filterMap Signal.event?
      = Attempt.events c ⟨p, text⟩ := by
  have hnotes : ((p.execute c text).notes.map Signal.note).filterMap
      Signal.event? = [] := by
    rw [List.filterMap_map]
    exact List.filterMap_eq_nil_iff.2 fun r _ => rfl
  have hended : (ended p.kind (p.execute c text).outcome).filterMap
    Signal.event?
      = [(p.execute c text).outcome.terminal p.kind.id] := by
    cases (p.execute c text).outcome with
    | completed next message => rfl
    | failed next reason => rfl
    | fault f => rfl
  rw [attempted, List.filterMap_append, List.filterMap_append, hnotes, hended]
  rfl

/-- A pass hands nothing on exactly if it ends in a fault. -/
theorem handsOn?_eq_none_iff {outcome : PassOutcome} :
    outcome.handsOn? = none ↔ ∃ f, outcome = .fault f := by
  cases outcome with
  | completed next message => simp [PassOutcome.handsOn?]
  | failed next reason => simp [PassOutcome.handsOn?]
  | fault f => simp [PassOutcome.handsOn?]

-- ============================================== the loop and the history

/-- The events of a run are those of its attempts. -/
theorem events_runPasses :
    ∀ {passes : List Pass} {text : String} {h : List Attempt},
      IsHistory c passes text h →
        (runPasses pacing c passes text).events
          = h.flatMap (Attempt.events c) := by
  intro passes
  induction passes with
  | nil =>
      intro text h hh
      rw [isHistory_nil.1 hh]
      rfl
  | cons p rest ih =>
      intro text h hh
      cases hp : p.kind.isEnabled c.options with
      | false =>
          rw [runPasses_cons_of_disabled hp, events_prepend,
            ih ((isHistory_cons_of_disabled hp).1 hh)]
          rfl
      | true =>
          obtain ⟨later, rfl, hlater⟩ := (isHistory_cons_of_enabled hp).1 hh
          unfold Continues at hlater
          rw [List.flatMap_cons, ← events_attempted pacing]
          cases hout : (p.execute c text).outcome.handsOn? with
          | some next =>
              rw [hout] at hlater
              rw [runPasses_cons_of_handsOn hp hout, events_prepend, ih hlater]
          | none =>
              rw [hout] at hlater
              obtain rfl : later = [] := hlater
              obtain ⟨f, hf⟩ := handsOn?_eq_none_iff.1 hout
              rw [runPasses_cons_of_fault hp hf, List.flatMap_nil,
                List.append_nil]
              rfl

/-- The ending is that of the later attempts, if the first hands a text
on. -/
theorem ending_cons_of_handsOn {next : String}
    (hnext : (p.execute c text).outcome.handsOn? = some next)
    (later : List Attempt) :
    ending c text (⟨p, text⟩ :: later) = ending c next later := by
  cases later with
  | cons a more =>
      unfold ending
      rw [List.getLast?_cons_cons]
      cases hlast : (a :: more).getLast? with
      | none =>
          exact absurd (List.getLast?_eq_none_iff.1 hlast)
            (List.cons_ne_nil a more)
      | some b => rfl
  | nil =>
      simp only [ending, List.getLast?_singleton, List.getLast?_nil,
        Attempt.outcome]
      cases hout : (p.execute c text).outcome with
      | completed text' message =>
          rw [hout] at hnext
          exact congrArg Except.ok (Option.some.inj hnext)
      | failed text' reason =>
          rw [hout] at hnext
          exact congrArg Except.ok (Option.some.inj hnext)
      | fault f =>
          rw [hout] at hnext
          cases hnext

/-- A run ends as the last of its attempts says. -/
theorem result_runPasses :
    ∀ {passes : List Pass} {text : String} {h : List Attempt},
      IsHistory c passes text h →
        (runPasses pacing c passes text).result = ending c text h := by
  intro passes
  induction passes with
  | nil =>
      intro text h hh
      rw [isHistory_nil.1 hh]
      rfl
  | cons p rest ih =>
      intro text h hh
      cases hp : p.kind.isEnabled c.options with
      | false =>
          rw [runPasses_cons_of_disabled hp]
          exact ih ((isHistory_cons_of_disabled hp).1 hh)
      | true =>
          obtain ⟨later, rfl, hlater⟩ := (isHistory_cons_of_enabled hp).1 hh
          unfold Continues at hlater
          cases hout : (p.execute c text).outcome.handsOn? with
          | some next =>
              rw [hout] at hlater
              rw [runPasses_cons_of_handsOn hp hout,
                ending_cons_of_handsOn hout]
              exact ih hlater
          | none =>
              rw [hout] at hlater
              obtain rfl : later = [] := hlater
              obtain ⟨f, hf⟩ := handsOn?_eq_none_iff.1 hout
              rw [runPasses_cons_of_fault hp hf]
              simp [ending, Attempt.outcome, hf]

/-- Passes that a run does not get to may be exchanged for any others of
their kind: nothing that is heard of the run changes, nor how it ends. -/
theorem runPasses_congr :
    ∀ {passes others : List Pass} {text : String} {h : List Attempt},
      others.map Pass.kind = passes.map Pass.kind →
      IsHistory c passes text h → IsHistory c others text h →
        runPasses pacing c others text = runPasses pacing c passes text := by
  intro passes
  induction passes with
  | nil =>
      intro others text h hkinds _ _
      rw [List.map_nil, List.map_eq_nil_iff] at hkinds
      rw [hkinds]
  | cons p rest ih =>
      intro others text h hkinds hh hothers
      cases others with
      | nil => cases hkinds
      | cons q others =>
          obtain ⟨hkind, hrest⟩ := List.cons.inj hkinds
          cases hp : p.kind.isEnabled c.options with
          | false =>
              have hq : q.kind.isEnabled c.options = false := hkind ▸ hp
              rw [runPasses_cons_of_disabled hp, runPasses_cons_of_disabled hq,
                hkind, ih hrest ((isHistory_cons_of_disabled hp).1 hh)
                  ((isHistory_cons_of_disabled hq).1 hothers)]
          | true =>
              have hq : q.kind.isEnabled c.options = true := hkind ▸ hp
              obtain ⟨later, rfl, hlater⟩ :=
                (isHistory_cons_of_enabled hp).1 hh
              obtain ⟨later', hsame, hlater'⟩ :=
                (isHistory_cons_of_enabled hq).1 hothers
              obtain ⟨hpass, rfl⟩ := List.cons.inj hsame
              obtain rfl : p = q := congrArg Attempt.pass hpass
              unfold Continues at hlater hlater'
              cases hout : (p.execute c text).outcome.handsOn? with
              | some next =>
                  rw [hout] at hlater hlater'
                  rw [runPasses_cons_of_handsOn hp hout,
                    runPasses_cons_of_handsOn hp hout, ih hrest hlater hlater']
              | none =>
                  obtain ⟨f, hf⟩ := handsOn?_eq_none_iff.1 hout
                  rw [runPasses_cons_of_fault hp hf,
                    runPasses_cons_of_fault hp hf]

end Obfuscator
