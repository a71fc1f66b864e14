/-
What a step log holds, read off the calls it received.

A step log is kept by changing it in place: a start appends a step, an end
rewrites the first step with its id, a reset empties it. Ids may repeat, and a
step may end twice, or before it starts, or without ever having started. This
file says what the log holds after any calls at all, without following the
changes.

# The reading

Only the calls since the last reset count (`sinceReset`). A start that comes
after another start of its id is never touched again, because every end of
that id finds the earlier step first. A start that is the first of its id is
rewritten by every later end of that id, so it is left as the last of them
says. That is `entry`, and `trail` lists the entries of all starts in order.

# The invariant

`steps_replay` and `events_replay` hold after every call. What carries them
over an end is `trail_snoc_of_ends`: told last, an end settles exactly the
entry with its id that has no start of the same id before it, which is the
first step with that id, the one that `finishFirst` looks for.
-/
import Mathlib.Data.List.DropRight
import Obfuscator.Progress.StepLog

namespace Obfuscator

-- ============================================================= the calls

/-- An event, and when it is told. -/
structure Telling where
  now : Instant
  event : Event
  deriving DecidableEq, Repr

/-- How a step ends: when, and with which status and message. -/
structure Ending where
  now : Instant
  status : StepStatus
  message : String
  deriving DecidableEq, Repr

namespace Telling

/-- The id of the step that is started, if one is. -/
def startedId? (t : Telling) : Option String :=
  match t.event with
  | .started id _ => some id
  | .completed _ _ => none
  | .failed _ _ => none

/-- The id of the step that is ended and how it ends, if one is. -/
def ends? (t : Telling) : Option (String × Ending) :=
  match t.event with
  | .started _ _ => none
  | .completed id message => some (id, ⟨t.now, .completed, message⟩)
  | .failed id reason => some (id, ⟨t.now, .error, reason⟩)

/-- How the step with a given id ends, if this is its end. -/
def endingOf? (id : String) (t : Telling) : Option Ending :=
  match t.ends? with
  | some (step, e) => if step = id then some e else none
  | none => none

end Telling

/-- The ids of the steps that are started, in order. -/
def startedIds (told : List Telling) : List String :=
  told.filterMap Telling.startedId?

namespace StepLog

/-- A call on a step log. -/
inductive Call
  | tell (t : Telling)
  | reset
  deriving DecidableEq, Repr

/-- The telling of a call that is one. -/
def Call.telling? : Call → Option Telling
  | .tell t => some t
  | .reset => none

/-- The log after one more call. -/
def receive (log : StepLog) : Call → StepLog
  | .tell t => log.record t.now t.event
  | .reset => log.reset

/-- A new log after some calls. -/
def replay (calls : List Call) : StepLog := calls.foldl receive {}

/-- What was told after the last reset. -/
def sinceReset (calls : List Call) : List Telling :=
  (calls.rtakeWhile fun c => c.telling?.isSome).filterMap Call.telling?

-- =========================================================== the reading

/-- A step as later tellings leave it: as the last end with its id says, or
else as it was. -/
def settle (s : Step) (later : List Telling) : Step :=
  match (later.filterMap (Telling.endingOf? s.id)).getLast? with
  | some e => s.finish e.now e.status e.message
  | none => s

/-- The step of one start, given the ids that were started before it and
what was told after it. An id that was started before keeps the ends to the
earlier step. -/
def entry (seen : List String) (now : Instant) (id label : String)
    (after : List Telling) : Step :=
  if id ∈ seen then Step.start now id label
  else settle (Step.start now id label) after

/-- The steps of all starts in order, given the ids that were started
before. -/
def trail (seen : List String) : List Telling → List Step
  | [] => []
  | t :: after =>
    match t.event with
    | .started id label =>
      entry seen t.now id label after :: trail (seen ++ [id]) after
    | .completed _ _ => trail seen after
    | .failed _ _ => trail seen after

-- ====================================================== one more telling

/-- A step that ends again shows nothing of its first end. -/
theorem finish_finish (s : Step) (e f : Ending) :
    (s.finish e.now e.status e.message).finish f.now f.status f.message
      = s.finish f.now f.status f.message := rfl

/-- A telling that does not end the step leaves it alone. -/
theorem settle_snoc_of_none {s : Step} {t : Telling} (later : List Telling)
    (h : t.endingOf? s.id = none) :
    settle s (later ++ [t]) = settle s later := by
  unfold settle
  rw [List.filterMap_append, List.filterMap_cons_none h, List.filterMap_nil,
    List.append_nil]

/-- A telling that ends the step has the last word. -/
theorem settle_snoc_of_some {s : Step} {t : Telling} {e : Ending}
    (later : List Telling) (h : t.endingOf? s.id = some e) :
    settle s (later ++ [t]) = (settle s later).finish e.now e.status
      e.message := by
  unfold settle
  rw [List.filterMap_append, List.filterMap_cons_some h, List.filterMap_nil,
    List.getLast?_concat]
  cases (later.filterMap (Telling.endingOf? s.id)).getLast? with
  | none => rfl
  | some first => exact (finish_finish s first e).symm

theorem settle_id (s : Step) (later : List Telling) :
    (settle s later).id = s.id := by
  unfold settle
  split
  · rfl
  · rfl

theorem entry_id (seen : List String) (now : Instant) (id label : String)
    (after : List Telling) : (entry seen now id label after).id = id := by
  unfold entry
  split
  · rfl
  · exact settle_id _ _

/-- A start told last adds its step and changes no other. -/
theorem trail_snoc_started (now : Instant) (id label : String) :
    ∀ (told : List Telling) (seen : List String),
      trail seen (told ++ [⟨now, .started id label⟩])
        = trail seen told ++ [Step.start now id label] := by
  intro told
  induction told with
  | nil =>
      intro seen
      have hentry : entry seen now id label [] = Step.start now id label := by
        unfold entry
        split
        · rfl
        · rfl
      simp only [List.nil_append, trail, hentry]
  | cons u rest ih =>
      intro seen
      obtain ⟨when', event⟩ := u
      cases event with
      | started step name =>
          have hentry : entry seen when' step name
            (rest ++ [⟨now, .started id label⟩])
              = entry seen when' step name rest := by
            unfold entry
            rw [settle_snoc_of_none rest rfl]
          simp only [List.cons_append, trail, hentry, ih]
      | completed step message => simp only [List.cons_append, trail, ih]
      | failed step reason => simp only [List.cons_append, trail, ih]

/-- An end told last goes to the first step with its id among those that
have no start of that id before them, and to none if the id was started
before all of them. -/
theorem trail_snoc_of_ends {t : Telling} {id : String} {e : Ending}
    (h : t.ends? = some (id, e)) :
    ∀ (told : List Telling) (seen : List String),
      trail seen (told ++ [t])
        = if id ∈ seen then trail seen told
          else finishFirst e.now id e.status e.message (trail seen told) := by
  have hother : ∀ {step : String}, step ≠ id → t.endingOf? step = none := by
    intro step hne
    simp only [Telling.endingOf?, h]
    exact if_neg (Ne.symm hne)
  have hsame : t.endingOf? id = some e := by
    simp [Telling.endingOf?, h]
  intro told
  induction told with
  | nil =>
      intro seen
      obtain ⟨now, event⟩ := t
      cases event with
      | started step label => cases h
      | completed step message => simp [trail, finishFirst]
      | failed step reason => simp [trail, finishFirst]
  | cons u rest ih =>
      intro seen
      obtain ⟨when', event⟩ := u
      cases event with
      | completed step message => exact ih seen
      | failed step reason => exact ih seen
      | started step label =>
          simp only [List.cons_append, trail]
          rw [ih]
          by_cases hseen : id ∈ seen
          · -- the end belongs to a step before all of these
            have hentry : entry seen when' step label (rest ++ [t])
                = entry seen when' step label rest := by
              unfold entry
              split
              · rfl
              · next hnew =>
                have hne : step ≠ id := fun heq => hnew (heq ▸ hseen)
                exact settle_snoc_of_none rest (hother hne)
            rw [if_pos hseen, if_pos (List.mem_append_left _ hseen), hentry]
          · rw [if_neg hseen]
            by_cases hstep : step = id
            · -- this is the step, and none after it is touched
              subst hstep
              have hentry : entry seen when' step label (rest ++ [t])
                  = (entry seen when' step label rest).finish e.now e.status
                    e.message := by
                unfold entry
                rw [if_neg hseen, if_neg hseen, settle_snoc_of_some rest hsame]
              rw [if_pos (List.mem_append_right _
                (List.mem_singleton_self step)), hentry, finishFirst,
                  if_pos (entry_id ..)]
            · -- another step, passed over on both sides
              have hentry : entry seen when' step label (rest ++ [t])
                  = entry seen when' step label rest := by
                unfold entry
                rw [settle_snoc_of_none rest (hother hstep)]
              have hnot : id ∉ seen ++ [step] := by
                intro hmem
                rcases List.mem_append.1 hmem with hmem | hmem
                · exact hseen hmem
                · exact hstep (List.mem_singleton.1 hmem).symm
              have hid : (entry seen when' step label rest).id ≠ id := by
                rw [entry_id]
                exact hstep
              rw [if_neg hnot, hentry, finishFirst, if_neg hid]

-- ========================================================== one more call

/-- What is told last is told since the last reset. -/
theorem sinceReset_snoc_tell (calls : List Call) (t : Telling) :
    sinceReset (calls ++ [.tell t]) = sinceReset calls ++ [t] := by
  unfold sinceReset
  rw [List.rtakeWhile_concat_pos _ _ _ rfl, List.filterMap_append]
  rfl

theorem sinceReset_snoc_reset (calls : List Call) :
    sinceReset (calls ++ [.reset]) = [] := by
  unfold sinceReset
  rw [List.rtakeWhile_concat_neg _ _ _ (by simp [Call.telling?]),
    List.filterMap_nil]

/-- One more call is received by the log of those before. -/
theorem replay_snoc (calls : List Call) (c : Call) :
    replay (calls ++ [c]) = (replay calls).receive c := by
  unfold replay
  rw [List.foldl_append]
  rfl

/-- A log ends the first step that an end is about. -/
theorem steps_record_of_ends {t : Telling} {id : String} {e : Ending}
    (h : t.ends? = some (id, e)) (log : StepLog) :
    (log.record t.now t.event).steps
      = finishFirst e.now id e.status e.message log.steps := by
  obtain ⟨now, event⟩ := t
  cases event with
  | started step label => cases h
  | completed step message => cases h; rfl
  | failed step reason => cases h; rfl

/-- The events of a log are those told since the last reset. -/
theorem events_replay (calls : List Call) :
    (replay calls).events = (sinceReset calls).map Telling.event := by
  induction calls using List.reverseRecOn with
  | nil => rfl
  | append_singleton calls c ih =>
      rw [replay_snoc]
      cases c with
      | tell t =>
          rw [sinceReset_snoc_tell, List.map_append, ← ih]
          rfl
      | reset =>
          rw [sinceReset_snoc_reset]
          rfl

/-- The steps of a log are the trail of what was told since the last reset. -/
theorem steps_replay (calls : List Call) :
    (replay calls).steps = trail [] (sinceReset calls) := by
  induction calls using List.reverseRecOn with
  | nil => rfl
  | append_singleton calls c ih =>
      rw [replay_snoc]
      cases c with
      | reset =>
          rw [sinceReset_snoc_reset]
          rfl
      | tell t =>
          rw [sinceReset_snoc_tell]
          cases hends : t.ends? with
          | some ended =>
              obtain ⟨id, e⟩ := ended
              rw [trail_snoc_of_ends hends, if_neg List.not_mem_nil, ← ih]
              exact steps_record_of_ends hends _
          | none =>
              obtain ⟨now, event⟩ := t
              cases event with
              | started id label =>
                  rw [trail_snoc_started, ← ih]
                  rfl
              | completed id message => cases hends
              | failed id reason => cases hends

-- ==================================================== reading the trail

/-- There is one step for every start, under its id. -/
theorem map_id_trail :
    ∀ (told : List Telling) (seen : List String),
      (trail seen told).map Step.id = startedIds told := by
  intro told
  induction told with
  | nil => intro seen; rfl
  | cons u rest ih =>
      intro seen
      obtain ⟨now, event⟩ := u
      cases event with
      | started id label =>
          simp only [trail, List.map_cons, entry_id, ih]
          rfl
      | completed id message => exact ih seen
      | failed id reason => exact ih seen

/-- The trail is cut where a start is told: the steps of the starts before
it, its own, and those of the starts after it. -/
theorem trail_append_started (now : Instant) (id label : String)
    (after : List Telling) :
    ∀ (before : List Telling) (seen : List String),
      ∃ earlier later, earlier.map Step.id = startedIds before ∧
        trail seen (before ++ ⟨now, .started id label⟩ :: after)
          = earlier ++ entry (seen ++ startedIds before) now id label after
            :: later := by
  intro before
  induction before with
  | nil =>
      intro seen
      refine ⟨[], trail (seen ++ [id]) after, rfl, ?_⟩
      simp only [startedIds, List.filterMap_nil, List.append_nil]
      rfl
  | cons u rest ih =>
      intro seen
      obtain ⟨when', event⟩ := u
      cases event with
      | completed step message => exact ih seen
      | failed step reason => exact ih seen
      | started step name =>
          obtain ⟨earlier, later, hids, htrail⟩ := ih (seen ++ [step])
          have hstarted : startedIds (⟨when', .started step name⟩ :: rest)
              = step :: startedIds rest := rfl
          refine ⟨entry seen when' step name
            (rest ++ ⟨now, .started id label⟩ :: after) :: earlier, later,
            ?_, ?_⟩
          · rw [List.map_cons, entry_id, hids, hstarted]
          · simp only [List.cons_append, trail]
            rw [htrail, hstarted, List.append_assoc, List.singleton_append]

/-- Every step of the trail is the entry of some start. -/
theorem exists_of_mem_trail {s : Step} :
    ∀ {told : List Telling} {seen : List String}, s ∈ trail seen told →
      ∃ before now id label after,
        told = before ++ ⟨now, .started id label⟩ :: after
        ∧ s = entry (seen ++ startedIds before) now id label after := by
  intro told
  induction told with
  | nil => intro seen hs; cases hs
  | cons u rest ih =>
      intro seen hs
      obtain ⟨when', event⟩ := u
      cases event with
      | completed step message =>
          obtain ⟨before, now, id, label, after, rfl, hentry⟩ := ih hs
          exact ⟨⟨when', .completed step message⟩ :: before, now, id, label,
            after, rfl, hentry⟩
      | failed step reason =>
          obtain ⟨before, now, id, label, after, rfl, hentry⟩ := ih hs
          exact ⟨⟨when', .failed step reason⟩ :: before, now, id, label, after,
            rfl, hentry⟩
      | started step name =>
          simp only [trail] at hs
          rcases List.mem_cons.1 hs with rfl | hs
          · refine ⟨[], when', step, name, rest, rfl, ?_⟩
            rw [startedIds, List.filterMap_nil, List.append_nil]
          · obtain ⟨before, now, id, label, after, rfl, hentry⟩ := ih hs
            refine ⟨⟨when', .started step name⟩ :: before, now, id, label,
              after, rfl, ?_⟩
            rw [hentry, List.append_assoc]
            rfl

-- ========================================================= reading a log

variable {calls : List Call} {before after : List Telling} {now : Instant}
  {id label : String}

/-- Where a start was told, the steps of a log are cut as the trail is. -/
theorem exists_steps_replay_eq
    (h : sinceReset calls = before ++ ⟨now, .started id label⟩ :: after) :
    ∃ earlier later, earlier.map Step.id = startedIds before ∧
      (replay calls).steps
        = earlier ++ entry (startedIds before) now id label after
          :: later := by
  rw [steps_replay, h]
  exact trail_append_started now id label after before []

/-- A step that was not started since the last reset is not found. -/
theorem step?_replay_eq_none (h : id ∉ startedIds (sinceReset calls)) :
    (replay calls).step? id = none := by
  rw [← map_id_trail (sinceReset calls) [], ← steps_replay] at h
  rw [step?, List.find?_eq_none]
  intro s hs hid
  exact h (List.mem_map.2 ⟨s, hs, by simpa using hid⟩)

/-- A look-up finds the step of the first start of an id. -/
theorem step?_replay_of_first
    (h : sinceReset calls = before ++ ⟨now, .started id label⟩ :: after)
    (hfirst : id ∉ startedIds before) :
    (replay calls).step? id = some
    (settle (Step.start now id label) after) := by
  obtain ⟨earlier, later, hids, hsteps⟩ := exists_steps_replay_eq h
  have hskip : earlier.find? (fun s => decide (s.id = id)) = none := by
    rw [List.find?_eq_none]
    intro s hs hid
    rw [← hids] at hfirst
    exact hfirst (List.mem_map.2 ⟨s, hs, by simpa using hid⟩)
  have hfound : (entry (startedIds before) now id label after :: later).find?
      (fun s => decide (s.id = id))
        = some (entry (startedIds before) now id label after) :=
    List.find?_cons_of_pos (by rw [entry_id, decide_eq_true rfl])
  rw [step?, hsteps, List.find?_append, hskip, Option.none_or, hfound, entry,
    if_neg hfirst]

/-- The log has errors if one of its steps ended in an error. -/
theorem hasErrors_replay_iff (calls : List Call) :
    (replay calls).hasErrors = true ↔
      ∃ before now id label after,
        sinceReset calls = before ++ ⟨now, .started id label⟩ :: after
          ∧ (entry (startedIds before) now id label after).status
            = .error := by
  rw [hasErrors, List.any_eq_true]
  constructor
  · rintro ⟨s, hs, herror⟩
    rw [steps_replay] at hs
    obtain ⟨before, now, id, label, after, htold, hentry⟩ :=
      exists_of_mem_trail hs
    rw [List.nil_append] at hentry
    refine ⟨before, now, id, label, after, htold, ?_⟩
    rw [← hentry]
    simpa using herror
  · rintro ⟨before, now, id, label, after, htold, herror⟩
    obtain ⟨earlier, later, -, hsteps⟩ := exists_steps_replay_eq htold
    refine ⟨entry (startedIds before) now id label after, ?_,
      decide_eq_true herror⟩
    rw [hsteps]
    exact List.mem_append_right _ (List.mem_cons_self ..)

/-- A step log is a function of its calls. What was told since the last
reset is kept in order; every start among it has a step, in order, which is
as it started if its id was started before, and otherwise as the last end
with its id after it says; a look-up finds the step of the first start of an
id; and there are errors exactly if some step so determined is one. -/
theorem replay_eq_trail (calls : List Call) :
    (replay calls).events = (sinceReset calls).map Telling.event
      ∧ (replay calls).steps.map Step.id = startedIds (sinceReset calls)
      ∧ (∀ before now id label after,
          sinceReset calls = before ++ ⟨now, .started id label⟩ :: after →
            (replay calls).steps[(startedIds before).length]?
              = some (entry (startedIds before) now id label after))
      ∧ (∀ id, id ∉ startedIds (sinceReset calls) →
        (replay calls).step? id = none)
      ∧ (∀ before now id label after,
          sinceReset calls = before ++ ⟨now, .started id label⟩ :: after →
            id ∉ startedIds before →
              (replay calls).step? id
                = some (settle (Step.start now id label) after))
      ∧ ((replay calls).hasErrors = true ↔
          ∃ before now id label after,
            sinceReset calls = before ++ ⟨now, .started id label⟩ :: after
              ∧ (entry (startedIds before) now id label after).status
                = .error) := by
  refine ⟨events_replay calls, ?_, ?_, fun id hnone =>
    step?_replay_eq_none hnone, ?_, hasErrors_replay_iff calls⟩
  · rw [steps_replay, map_id_trail]
  · intro before now id label after htold
    obtain ⟨earlier, later, hids, hsteps⟩ := exists_steps_replay_eq htold
    rw [hsteps, ← hids, List.length_map,
      List.getElem?_append_right (Nat.le_refl _), Nat.sub_self,
      List.getElem?_cons_zero]
  · intro before now id label after htold hfirst
    exact step?_replay_of_first htold hfirst

end StepLog

end Obfuscator
