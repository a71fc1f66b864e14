/-
Carrying out actions on a world that is a value.

A `World` has a disk, an environment, a clock that moves only while the
program waits, and the texts written so far. `Action.simulate` says what an
action does to it.
-/
import Obfuscator.World.Action
import Obfuscator.World.Disk

namespace Obfuscator

/-- Everything outside a program that it can see or change. -/
structure World where
  disk : World.Disk := {}
  environment : String → Option String := fun _ => none
  accountHome : Option String := none
  clock : Instant := ⟨0, 0⟩
  secret : String
  runId : String
  output : String := ""
  messages : String := ""

namespace World

/-- The world after a text was written to a stream. -/
def print (w : World) (channel : Channel) (text : String) : World :=
  match channel with
  | .output => { w with output := w.output ++ text }
  | .messages => { w with messages := w.messages ++ text }

/-- What an action ends with on a given world, and the world afterwards. -/
def Action.simulate {α : Type} (a : Action α) (w : World) : World × α :=
  match a with
  | .done x => (w, x)
  | .environment name next => (next (w.environment name)).simulate w
  | .accountHome next => (next w.accountHome).simulate w
  | .isFile path next => (next (w.disk.isFile path)).simulate w
  | .readText path next => (next (w.disk.readText path)).simulate w
  | .createDirectories path next =>
    let (disk, result) := w.disk.createDirectories path
    (next result).simulate { w with disk }
  | .writeText path content next =>
    match w.disk.writeText path content with
    | .ok disk => (next (.ok ())).simulate { w with disk }
    | .error e => (next (.error e)).simulate w
  | .print channel text next => (next ()).simulate (w.print channel text)
  | .now next => (next w.clock).simulate w
  | .pause d next => (next ()).simulate { w with clock := w.clock.after d }
  | .freshSecret next => (next w.secret).simulate w
  | .freshRunId next => (next w.runId).simulate w

theorem Action.simulate_andThen {α β : Type} (a : Action α) (f : α → Action β)
    (w : World) :
    (a.andThen f).simulate w = (f (a.simulate w).2).simulate
    (a.simulate w).1 := by
  induction a generalizing w with
  | done x => rfl
  | writeText path content next ih =>
    simp only [Action.andThen, Action.simulate]
    cases w.disk.writeText path content with
    | ok disk => exact ih _ _
    | error e => exact ih _ _
  | _ => simp only [Action.andThen, Action.simulate, *]

theorem Action.simulate_bind {α β : Type} (a : Action α) (f : α → Action β)
    (w : World) :
    (a >>= f).simulate w = (f (a.simulate w).2).simulate (a.simulate w).1 :=
  Action.simulate_andThen a f w

end World

end Obfuscator
