/-
Who is told about a run.

A reporter is a tree: its leaves are step logs, known by number and possibly
occurring several times, the log of the program, and sinks that keep
nothing; its inner nodes pass every event on to their children in order.
-/
import Obfuscator.Progress.StepLog

namespace Obfuscator

/-- Someone who is told the events of a run. -/
inductive Reporter
  /-- The step log with this number. -/
  | stepLog (index : Nat)
  /-- Keeps nothing. -/
  | silent
  /-- Writes a record for every event. -/
  | logging
  /-- Tells every child, in order. -/
  | group (children : List Reporter)

/-- The step logs by number, and the records written so far. -/
structure Audience where
  logs : List StepLog := []
  records : List Log.Record := []

namespace Audience

/-- Forgets what the step log with a given number holds. -/
def reset (a : Audience) (index : Nat) : Audience :=
  { a with logs := a.logs.modify index StepLog.reset }

end Audience

namespace Reporter

mutual

/-- Tells a reporter one event. -/
def tell (now : Instant) (e : Event) : Reporter → Audience → Audience
  | .stepLog index, a =>
    { a with logs := a.logs.modify index fun log => log.record now e }
  | .silent, a => a
  | .logging, a => { a with records := a.records ++ [e.record] }
  | .group children, a => tellAll now e children a
termination_by structural r => r

/-- Tells several reporters one event, in order. -/
def tellAll (now : Instant) (e : Event) : List Reporter → Audience → Audience
  | [], a => a
  | r :: rest, a => tellAll now e rest (tell now e r a)
termination_by structural l => l

end

end Reporter

end Obfuscator
