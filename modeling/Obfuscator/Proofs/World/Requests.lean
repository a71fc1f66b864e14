/-
What an action asks a machine to write, and which variables it asks for.

The disk that an action leaves does not show what it tried in vain. So the
texts it asks to be written are listed apart, those that are refused
included (`Action.asked`): the requests of one action after another are
those of the first and then those of the second (`Action.asked_bind`). The
log asks for none.

Nor does the result of an action show which variables of the environment it
looked at, and so these are listed too (`Action.lookups`), with the same law
for one action after another (`Action.lookups_bind`).
-/
import Obfuscator.Log.Logger
import Obfuscator.Proofs.World.Machine

namespace Obfuscator

namespace World.Action

variable {F : FileSystem} {α β : Type}

-- ================================================================= texts

/-- The texts an action asks to be written on a machine, each with its
path, in order. -/
def asked (a : Action α) (m : Machine F) : List (String × String) :=
  match a with
  | .done _ => []
  | .environment name next => (next (m.environment name)).asked m
  | .accountHome next => (next m.accountHome).asked m
  | .isFile path next => (next (F.isFile m.disk path)).asked m
  | .readText path next => (next (F.readText m.disk path)).asked m
  | .createDirectories path next =>
    (next (F.createDirectories m.disk path).2).asked
      { m with disk := (F.createDirectories m.disk path).1 }
  | .writeText path content next =>
    (path, content) ::
      (next (F.writeText m.disk path content).2).asked
        { m with disk := (F.writeText m.disk path content).1 }
  | .print channel text next => (next ()).asked (m.print channel text)
  | .now next => (next m.clock).asked m
  | .pause d next => (next ()).asked { m with clock := m.clock.after d }
  | .freshSecret next => (next m.secret).asked m
  | .freshRunId next => (next m.runId).asked m

theorem asked_andThen (a : Action α) (f : α → Action β)
    (m : Machine F) :
    (a.andThen f).asked m
      = a.asked m ++ (f (a.runOn m).2).asked (a.runOn m).1 := by
  induction a generalizing m with
  | done x => rfl
  | writeText path content next ih =>
      simp only [andThen, asked, runOn]
      exact congrArg ((path, content) :: ·) (ih _ _)
  | _ => simp only [andThen, asked, runOn, *]

/-- An action that goes on with another asks for what the one asks, and
then for what the other does. -/
theorem asked_bind (a : Action α) (f : α → Action β) (m : Machine F) :
    (a >>= f).asked m
      = a.asked m ++ (f (a.runOn m).2).asked (a.runOn m).1 :=
  asked_andThen a f m

-- ============================================================= variables

/-- The variables of the environment an action asks for on a machine, in
order. -/
def lookups (a : Action α) (m : Machine F) : List String :=
  match a with
  | .done _ => []
  | .environment name next => name :: (next (m.environment name)).lookups m
  | .accountHome next => (next m.accountHome).lookups m
  | .isFile path next => (next (F.isFile m.disk path)).lookups m
  | .readText path next => (next (F.readText m.disk path)).lookups m
  | .createDirectories path next =>
    (next (F.createDirectories m.disk path).2).lookups
      { m with disk := (F.createDirectories m.disk path).1 }
  | .writeText path content next =>
    (next (F.writeText m.disk path content).2).lookups
      { m with disk := (F.writeText m.disk path content).1 }
  | .print channel text next => (next ()).lookups (m.print channel text)
  | .now next => (next m.clock).lookups m
  | .pause d next => (next ()).lookups { m with clock := m.clock.after d }
  | .freshSecret next => (next m.secret).lookups m
  | .freshRunId next => (next m.runId).lookups m

theorem lookups_andThen (a : Action α) (f : α → Action β) (m : Machine F) :
    (a.andThen f).lookups m
      = a.lookups m ++ (f (a.runOn m).2).lookups (a.runOn m).1 := by
  induction a generalizing m with
  | done x => rfl
  | environment name next ih =>
      simp only [andThen, lookups, runOn]
      exact congrArg (name :: ·) (ih _ m)
  | _ => simp only [andThen, lookups, runOn, *]

/-- An action that goes on with another asks for the variables of the one,
and then for those of the other. -/
theorem lookups_bind (a : Action α) (f : α → Action β) (m : Machine F) :
    (a >>= f).lookups m = a.lookups m ++ (f (a.runOn m).2).lookups
    (a.runOn m).1 :=
  lookups_andThen a f m

end World.Action

/-- The log asks for nothing to be written. -/
theorem Log.Logger.asked_note {F : World.FileSystem} (logger : Log.Logger)
    (r : Log.Record) (m : World.Machine F) :
    (logger.note r).asked m = [] := by
  unfold note write
  split
  · rfl
  · rfl

end Obfuscator
