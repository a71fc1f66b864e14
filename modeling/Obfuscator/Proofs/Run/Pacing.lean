/-
What a pacing is after any calls.

A pacing holds two things, a switch and the lengths that were asked for, and
what can be seen of it, the pause before a pass, mixes both: while the
switch is off, no length shows. So the induction is not on the pause. A call
moves one of the two and leaves the other as it was (`enabled_apply`,
`asked?_apply`), and therefore after any calls the switch is where the last
call that turned it left it, and the length kept for a pass is the last one
that was asked for, whether or not it could be seen then
(`enabled_afterCalls`, `asked?_afterCalls`). The pause is read off these two
at the end.
-/
import Mathlib.Data.List.Induction
import Obfuscator.Pacing

namespace Obfuscator.Pacing

-- ================================================================= calls

/-- A call that gives a pacing another form. -/
inductive Call
  /-- The pauses are switched on or off. -/
  | enable (on : Bool)
  /-- A pause of another length is asked for, before one kind of pass. -/
  | delay (k : PassKind) (d : Duration)
  deriving DecidableEq, Repr

/-- Where a call turns the switch, if it does. -/
def Call.switch? : Call → Option Bool
  | enable on => some on
  | delay _ _ => none

/-- The length that a call asks for before a pass, if it does. -/
def Call.length? (k : PassKind) : Call → Option Duration
  | enable _ => none
  | delay j d => if j = k then some d else none

/-- Carries out one call. -/
def apply (p : Pacing) : Call → Pacing
  | .enable on => p.enable on
  | .delay k d => p.withDelay k d

/-- Carries out calls, the first one first. -/
def afterCalls (p : Pacing) (calls : List Call) : Pacing := calls.foldl apply p

/-- Where the last call that turned the switch left it. -/
def lastSwitch? (calls : List Call) : Option Bool :=
  (calls.filterMap Call.switch?).getLast?

/-- The last length that was asked for before a pass. -/
def lastLength? (calls : List Call) (k : PassKind) : Option Duration :=
  (calls.filterMap (Call.length? k)).getLast?

/-- The length kept for a pass, if one was asked for. -/
def asked? (p : Pacing) (k : PassKind) : Option Duration :=
  (p.overrides.find? fun o => decide (o.1 = k)).map (·.2)

theorem configured_eq (p : Pacing) (k : PassKind) :
    p.configured k = (p.asked? k).getD k.standardDelay := rfl

-- ============================================================== one call

/-- A call switches pauses if it is about that. -/
theorem enabled_apply (p : Pacing) (c : Call) :
    (p.apply c).enabled = c.switch?.getD p.enabled := by
  cases c with
  | enable on => rfl
  | delay k d => rfl

/-- A length is asked for one kind of pass alone. -/
theorem asked?_withDelay (p : Pacing) (j k : PassKind) (d : Duration) :
    (p.withDelay j d).asked? k = if j = k then some d else p.asked? k := by
  unfold asked? withDelay
  by_cases h : j = k
  · rw [List.find?_cons_of_pos (by simp [h]), if_pos h]
    rfl
  · rw [List.find?_cons_of_neg (by simp [h]), if_neg h]

/-- A call asks for a length, or leaves what was asked for before. -/
theorem asked?_apply (p : Pacing) (c : Call) (k : PassKind) :
    (p.apply c).asked? k = (c.length? k).or (p.asked? k) := by
  cases c with
  | enable on => rfl
  | delay j d =>
      show (p.withDelay j d).asked? k = _
      rw [asked?_withDelay, Call.length?]
      by_cases h : j = k
      · rw [if_pos h, if_pos h, Option.some_or]
      · rw [if_neg h, if_neg h, Option.none_or]

-- ============================================================= all calls

/-- One more call is applied to what the calls before it made. -/
theorem afterCalls_concat (p : Pacing) (calls : List Call) (c : Call) :
    p.afterCalls (calls ++ [c]) = (p.afterCalls calls).apply c := by
  unfold afterCalls
  rw [List.foldl_append, List.foldl_cons, List.foldl_nil]

/-- The last switch is that of the last call, if it is a switch. -/
theorem lastSwitch?_concat (calls : List Call) (c : Call) :
    lastSwitch? (calls ++ [c]) = c.switch?.or (lastSwitch? calls) := by
  unfold lastSwitch?
  cases h : c.switch? with
  | none => simp [h]
  | some on => simp [h]

/-- The last length for a kind is that of the last call, if it is one for
that kind. -/
theorem lastLength?_concat (calls : List Call) (c : Call) (k : PassKind) :
    lastLength? (calls ++ [c]) k = (c.length? k).or (lastLength? calls k) := by
  unfold lastLength?
  cases h : c.length? k with
  | none => simp [h]
  | some d => simp [h]

/-- The switch is where the last call that turned it left it. -/
theorem enabled_afterCalls (p : Pacing) (calls : List Call) :
    (p.afterCalls calls).enabled = (lastSwitch? calls).getD p.enabled := by
  induction calls using List.reverseRecOn with
  | nil => rfl
  | append_singleton calls c ih =>
      rw [afterCalls_concat, enabled_apply, ih, lastSwitch?_concat]
      cases c.switch? with
      | none => rfl
      | some on => rfl

/-- The length kept for a pass is the last one asked for, wherever the
switch was. -/
theorem asked?_afterCalls (p : Pacing) (calls : List Call) (k : PassKind) :
    (p.afterCalls calls).asked? k = (lastLength? calls k).or (p.asked? k) := by
  induction calls using List.reverseRecOn with
  | nil => rfl
  | append_singleton calls c ih =>
      rw [afterCalls_concat, asked?_apply, ih, lastLength?_concat,
        Option.or_assoc]

-- ============================================================= the pause

/-- A pause has the length that was asked for, or the standard one, and
none if pauses are off. -/
theorem delay_eq (p : Pacing) (k : PassKind) :
    p.delay k
      = if p.enabled then (p.asked? k).getD k.standardDelay else .zero := rfl

/-- The pause after calls on a pacing for which no length was asked before. -/
theorem delay_afterCalls_of_unasked {p : Pacing} (hp : p.overrides = [])
    (calls : List Call) (k : PassKind) :
    (p.afterCalls calls).delay k
      = if (lastSwitch? calls).getD p.enabled
        then (lastLength? calls k).getD k.standardDelay else .zero := by
  have hnone : p.asked? k = none := by
    unfold asked?
    rw [hp]
    rfl
  rw [delay_eq, enabled_afterCalls, asked?_afterCalls, hnone, Option.or_none]

/-- Once the pauses are on, the last length asked for counts, also if they
were off when it was asked for. -/
theorem delay_afterCalls_enable (p : Pacing) (calls : List Call)
    (k : PassKind) :
    ((p.afterCalls calls).enable true).delay k
      = (lastLength? calls k).getD (p.configured k) := by
  have hkept : ((p.afterCalls calls).enable true).delay k
      = ((p.afterCalls calls).asked? k).getD k.standardDelay := rfl
  rw [hkept, asked?_afterCalls, configured_eq]
  cases lastLength? calls k with
  | none => rfl
  | some d => rfl

/-- Asking for a length changes the pause before the pass it is asked for,
and no other. -/
theorem delay_withDelay (p : Pacing) (j k : PassKind) (d : Duration) :
    (p.withDelay j d).delay k
      = if j = k then (if p.enabled then d else .zero) else p.delay k := by
  rw [delay_eq, asked?_withDelay]
  by_cases h : j = k
  · rw [if_pos h, if_pos h]
    rfl
  · rw [if_neg h, if_neg h]
    rfl

/-- The pause before a pass after any calls, on the ordinary pacing and on
the one without pauses: the last call that turned the switch decides whether
there is one, and the last length asked for before that pass how long it is.
What is asked for while the pauses are off is kept for the time when they
are on, and what is asked for before one pass changes the pause before no
other. -/
theorem delay_by_calls (calls : List Call) (k : PassKind) :
    (standard.afterCalls calls).delay k
        = (if (lastSwitch? calls).getD true
          then (lastLength? calls k).getD k.standardDelay else .zero)
      ∧ (instant.afterCalls calls).delay k
        = (if (lastSwitch? calls).getD false
          then (lastLength? calls k).getD k.standardDelay else .zero)
      ∧ (∀ start : Pacing, ((start.afterCalls calls).enable true).delay k
          = (lastLength? calls k).getD (start.configured k))
      ∧ ∀ (start : Pacing) (j : PassKind) (d : Duration),
          ((start.afterCalls calls).withDelay j d).delay k
            = if j = k
              then (if (start.afterCalls calls).enabled then d else .zero)
              else (start.afterCalls calls).delay k := by
  refine ⟨?_, ?_, ?_, ?_⟩
  · exact delay_afterCalls_of_unasked rfl calls k
  · exact delay_afterCalls_of_unasked rfl calls k
  · intro start
    exact delay_afterCalls_enable start calls k
  · intro start j d
    exact delay_withDelay (start.afterCalls calls) j k d

end Obfuscator.Pacing
