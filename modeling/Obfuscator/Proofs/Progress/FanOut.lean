/-
What a tree of reporters tells each of its sinks.

Everything, once for every place at which the sink stands. A step log that
occurs several times in a tree hears each telling that often in a row, and
the other sinks make no difference to it. So it ends up as a log by itself
does that receives the calls that were heard (`heardBy`), whatever the tree
looks like otherwise and whichever logs are reset in between.

# The engine

Telling a tree is telling its sinks from left to right
(`tell_eq_foldl_sinks`, along the recursion of `tell`): how deep a sink
stands is lost there. What is then left is a list of sinks, each of which
changes one log or none (`logs_tellSink`). That a log hears what it should
is an induction on that list for one telling (`logs_foldl_tellSink`), and on
the calls for all of them.
-/
import Obfuscator.Progress.Reporter
import Obfuscator.Proofs.Progress.Trail

namespace Obfuscator

-- ================================================= statement vocabulary

/-- A reporter that tells nobody else. -/
inductive Sink
  | stepLog (index : Nat)
  | silent
  | logging
  deriving DecidableEq, Repr

namespace Reporter

mutual

/-- The sinks of a tree from left to right, each as often as it occurs. -/
def sinks : Reporter → List Sink
  | .stepLog index => [.stepLog index]
  | .silent => [.silent]
  | .logging => [.logging]
  | .group children => sinksAll children
termination_by structural r => r

/-- The sinks of several trees. -/
def sinksAll : List Reporter → List Sink
  | [] => []
  | r :: rest => sinks r ++ sinksAll rest
termination_by structural l => l

end

/-- At how many places of a tree a sink stands. -/
def occurrences (r : Reporter) (s : Sink) : Nat := r.sinks.count s

end Reporter

namespace Audience

/-- A call on the tree, or on one of the step logs. -/
inductive Call
  | tell (t : Telling)
  | reset (index : Nat)
  deriving DecidableEq, Repr

/-- The audience after one more call. -/
def receive (root : Reporter) (a : Audience) : Call → Audience
  | .tell t => root.tell t.now t.event a
  | .reset index => a.reset index

/-- What a step log hears of a call: a telling once for every place at which
the log stands, and its own resets. -/
def Call.heardBy (root : Reporter) (index : Nat) : Call → List StepLog.Call
  | .tell t => List.replicate (root.occurrences (.stepLog index)) (.tell t)
  | .reset other => if other = index then [.reset] else []

/-- What is written to the log of the program for a call. -/
def Call.written (root : Reporter) : Call → List Log.Record
  | .tell t => List.replicate (root.occurrences .logging) t.event.record
  | .reset _ => []

-- ============================================================ one sink

/-- Tells one sink. -/
def tellSink (t : Telling) (a : Audience) : Sink → Audience
  | .stepLog index =>
    { a with logs := a.logs.modify index fun log => log.record t.now t.event }
  | .silent => a
  | .logging => { a with records := a.records ++ [t.event.record] }

/-- A sink changes the log with its number, and no other. -/
theorem logs_tellSink (t : Telling) (a : Audience) (s : Sink) (i : Nat) :
    (a.tellSink t s).logs[i]?
      = a.logs[i]?.map fun log =>
          if s = .stepLog i then log.receive (.tell t) else log := by
  cases s with
  | silent => exact (Option.map_id' ..).symm
  | logging => exact (Option.map_id' ..).symm
  | stepLog index =>
      simp only [tellSink, List.getElem?_modify, Sink.stepLog.injEq]
      rfl

/-- Only a sink that logs writes a record. -/
theorem records_tellSink (t : Telling) (a : Audience) (s : Sink) :
    (a.tellSink t s).records
      = if s = .logging then a.records ++ [t.event.record] else a.records := by
  cases s with
  | stepLog index => rfl
  | silent => rfl
  | logging => rfl

-- ========================================================== many sinks

/-- A log hears a telling as often as it stands in a list. -/
theorem logs_foldl_tellSink (t : Telling) (i : Nat) :
    ∀ (sinks : List Sink) (a : Audience),
      (sinks.foldl (tellSink t) a).logs[i]?
        = a.logs[i]?.map fun log =>
            (List.replicate (sinks.count (.stepLog i)) (.tell t)).foldl
              StepLog.receive log := by
  intro sinks
  induction sinks with
  | nil => intro a; exact (Option.map_id' ..).symm
  | cons s rest ih =>
      intro a
      rw [List.foldl_cons, ih, logs_tellSink, Option.map_map]
      refine congrArg (Option.map · a.logs[i]?) (funext fun log => ?_)
      by_cases hs : s = .stepLog i
      · rw [Function.comp_apply, if_pos hs, hs, List.count_cons_self]
        rfl
      · rw [Function.comp_apply, if_neg hs, List.count_cons_of_ne hs]

/-- A telling is written once for each sink that logs. -/
theorem records_foldl_tellSink (t : Telling) :
    ∀ (sinks : List Sink) (a : Audience),
      (sinks.foldl (tellSink t) a).records
        = a.records ++ List.replicate
          (sinks.count .logging) t.event.record := by
  intro sinks
  induction sinks with
  | nil => intro a; exact (List.append_nil _).symm
  | cons s rest ih =>
      intro a
      rw [List.foldl_cons, ih, records_tellSink]
      by_cases hs : s = .logging
      · rw [if_pos hs, hs, List.count_cons_self, List.replicate_succ,
          List.append_assoc, List.singleton_append]
      · rw [if_neg hs, List.count_cons_of_ne hs]

-- ============================================================== a tree

mutual

/-- Telling a tree is telling its sinks from left to right. -/
theorem tell_eq_foldl_sinks (t : Telling) :
    ∀ (r : Reporter) (a : Audience),
      r.tell t.now t.event a = r.sinks.foldl (tellSink t) a
  | .stepLog _, _ => rfl
  | .silent, _ => rfl
  | .logging, _ => rfl
  | .group children, a => tellAll_eq_foldl_sinks t children a

theorem tellAll_eq_foldl_sinks (t : Telling) :
    ∀ (rs : List Reporter) (a : Audience),
      Reporter.tellAll t.now t.event rs a
        = (Reporter.sinksAll rs).foldl (tellSink t) a
  | [], _ => rfl
  | r :: rest, a => by
      rw [Reporter.tellAll, tellAll_eq_foldl_sinks t rest,
        tell_eq_foldl_sinks t r, Reporter.sinksAll, List.foldl_append]

end

variable {root : Reporter}

-- ============================================================ one call

/-- After a call a log is as what it heard of the call makes it. -/
theorem logs_receive (a : Audience) (call : Call) (i : Nat) :
    (a.receive root call).logs[i]?
      = a.logs[i]?.map fun log =>
        (call.heardBy root i).foldl StepLog.receive log := by
  cases call with
  | tell t =>
      rw [receive, tell_eq_foldl_sinks, logs_foldl_tellSink]
      rfl
  | reset other =>
      rw [receive, reset, List.getElem?_modify]
      refine congrArg (Option.map · a.logs[i]?) (funext fun log => ?_)
      by_cases hi : other = i
      · rw [if_pos hi, Call.heardBy, if_pos hi]
        rfl
      · rw [if_neg hi, Call.heardBy, if_neg hi]
        rfl

/-- A call is written as often as sinks that log hear it. -/
theorem records_receive (a : Audience) (call : Call) :
    (a.receive root call).records = a.records ++ call.written root := by
  cases call with
  | tell t =>
      rw [receive, tell_eq_foldl_sinks, records_foldl_tellSink]
      rfl
  | reset other => exact (List.append_nil _).symm

-- =========================================================== all calls

/-- A log receives of all calls what it hears of each. -/
theorem logs_foldl_receive (i : Nat) :
    ∀ (calls : List Call) (a : Audience),
      (calls.foldl (receive root) a).logs[i]?
        = a.logs[i]?.map fun log =>
            (calls.flatMap (Call.heardBy root i)).foldl StepLog.receive
              log := by
  intro calls
  induction calls with
  | nil => intro a; exact (Option.map_id' ..).symm
  | cons call rest ih =>
      intro a
      rw [List.foldl_cons, ih, logs_receive, Option.map_map, List.flatMap_cons]
      refine congrArg (Option.map · a.logs[i]?) (funext fun log => ?_)
      rw [List.foldl_append]
      rfl

theorem records_foldl_receive :
    ∀ (calls : List Call) (a : Audience),
      (calls.foldl (receive root) a).records
        = a.records ++ calls.flatMap (Call.written root) := by
  intro calls
  induction calls with
  | nil => intro a; exact (List.append_nil _).symm
  | cons call rest ih =>
      intro a
      rw [List.foldl_cons, ih, records_receive, List.flatMap_cons,
        List.append_assoc]

/-- After any calls on a tree of reporters and on single logs, every step
log is as one by itself that receives the tellings, each as often in a row
as the log occurs in the tree, and its own resets. The log of the program
has a record of every telling for each place at which it occurs, in the
order of the tellings. -/
theorem receive_by_sinks (root : Reporter) (calls : List Call) (a : Audience) :
    (∀ i : Nat,
      (calls.foldl (receive root) a).logs[i]?
        = a.logs[i]?.map fun log =>
            (calls.flatMap (Call.heardBy root i)).foldl StepLog.receive log)
      ∧ (calls.foldl (receive root) a).records
        = a.records ++ calls.flatMap (Call.written root) :=
  ⟨fun i => logs_foldl_receive i calls a, records_foldl_receive calls a⟩

end Audience

end Obfuscator
