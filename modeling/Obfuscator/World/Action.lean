/-
Programs that act on the world.

An action is a value: it asks the world for one thing after another and ends
with a result. It can be carried out on the real world, or on a `World` that
is a value itself, and does the same on both; so what a program does can be
computed, and reasoned about.
-/
import Obfuscator.Time.Elapsed
import Obfuscator.World.OsError

namespace Obfuscator.World

/-- The two streams a program writes to. -/
inductive Channel
  /-- For results. -/
  | output
  /-- For messages. -/
  | messages
  deriving DecidableEq, Repr

/-- A program that ends with an `α`. -/
inductive Action (α : Type)
  | done (a : α)
  /-- Asks for a variable of the environment. -/
  | environment (name : String) (next : Option String → Action α)
  /-- Asks for the home directory of the user's account. -/
  | accountHome (next : Option String → Action α)
  /-- Asks whether a path leads to a file. -/
  | isFile (path : String) (next : Bool → Action α)
  /-- Reads the text of a file. -/
  | readText (path : String) (next : Except OsError String → Action α)
  /-- Makes a directory and those above it that are missing. -/
  | createDirectories (path : String) (next : Except OsError Unit → Action α)
  /-- Gives a file a content. -/
  | writeText (path content : String) (next : Except OsError Unit → Action α)
  /-- Writes to a stream. -/
  | print (channel : Channel) (text : String) (next : Unit → Action α)
  /-- Asks for the time. -/
  | now (next : Instant → Action α)
  /-- Waits. -/
  | pause (d : Duration) (next : Unit → Action α)
  /-- Asks for a secret of eight hexadecimal digits. -/
  | freshSecret (next : String → Action α)
  /-- Asks for an identifier that no other run has. -/
  | freshRunId (next : String → Action α)

namespace Action

/-- Goes on with what an action ends with. -/
def andThen {α β : Type} (a : Action α) (f : α → Action β) : Action β :=
  match a with
  | .done x => f x
  | .environment name next => .environment name fun r => (next r).andThen f
  | .accountHome next => .accountHome fun r => (next r).andThen f
  | .isFile path next => .isFile path fun r => (next r).andThen f
  | .readText path next => .readText path fun r => (next r).andThen f
  | .createDirectories path next => .createDirectories path fun r =>
    (next r).andThen f
  | .writeText path content next => .writeText path content fun r =>
    (next r).andThen f
  | .print channel text next => .print channel text fun r => (next r).andThen f
  | .now next => .now fun r => (next r).andThen f
  | .pause d next => .pause d fun r => (next r).andThen f
  | .freshSecret next => .freshSecret fun r => (next r).andThen f
  | .freshRunId next => .freshRunId fun r => (next r).andThen f

instance : Monad Action where
  pure := .done
  bind := andThen

/-- A line for the stream of messages. -/
def complain (line : String) : Action Unit :=
  .print .messages (line ++ "\n") .done

/-- The value of a variable of the environment that is set and not empty. -/
def setting? (name : String) : Action (Option String) :=
  .environment name fun value => .done (value.filter fun v => !v.isEmpty)

end Action

end Obfuscator.World
