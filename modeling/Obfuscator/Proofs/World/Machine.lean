/-
Programs on any machine.

A `World` has a disk of one kind: a tree without links, with nobody's rights
to mind. What the program does as a whole rests on less than that. Here a
file system is anything that answers the four questions of an action, and
nothing is asked of its answers: a path may lead through links, a file may
be out of bounds, and an operation that fails may leave something behind. A
machine is a world on such a file system, and an action is carried out on it
as on a world (`runOn`). A world is the machine whose file system is the
tree, so what holds on every machine holds on every world
(`runOn_asMachine`).
-/
import Obfuscator.Proofs.World.Disk
import Obfuscator.World.Simulation

namespace Obfuscator.World

/-- What a file system answers, and what becomes of it. -/
structure FileSystem where
  /-- All that there is to know of it. -/
  State : Type
  isFile : State → (path : String) → Bool
  readText : State → (path : String) → Except OsError String
  createDirectories : State → (path : String) → State × Except OsError Unit
  writeText : State → (path content : String) → State × Except OsError Unit

/-- Everything outside a program that it can see or change, on a given file
system. -/
structure Machine (F : FileSystem) where
  disk : F.State
  environment : String → Option String
  accountHome : Option String
  clock : Instant
  secret : String
  runId : String
  output : String
  messages : String

variable {F : FileSystem} {α β : Type}

/-- The machine after a text was written to a stream. -/
def Machine.print (m : Machine F) (channel : Channel) (text : String) :
    Machine F :=
  match channel with
  | .output => { m with output := m.output ++ text }
  | .messages => { m with messages := m.messages ++ text }

namespace Action

/-- What an action ends with on a given machine, and the machine afterwards. -/
def runOn (a : Action α) (m : Machine F) : Machine F × α :=
  match a with
  | .done x => (m, x)
  | .environment name next => (next (m.environment name)).runOn m
  | .accountHome next => (next m.accountHome).runOn m
  | .isFile path next => (next (F.isFile m.disk path)).runOn m
  | .readText path next => (next (F.readText m.disk path)).runOn m
  | .createDirectories path next =>
    (next (F.createDirectories m.disk path).2).runOn
      { m with disk := (F.createDirectories m.disk path).1 }
  | .writeText path content next =>
    (next (F.writeText m.disk path content).2).runOn
      { m with disk := (F.writeText m.disk path content).1 }
  | .print channel text next => (next ()).runOn (m.print channel text)
  | .now next => (next m.clock).runOn m
  | .pause d next => (next ()).runOn { m with clock := m.clock.after d }
  | .freshSecret next => (next m.secret).runOn m
  | .freshRunId next => (next m.runId).runOn m

theorem runOn_andThen (a : Action α) (f : α → Action β) (m : Machine F) :
    (a.andThen f).runOn m = (f (a.runOn m).2).runOn (a.runOn m).1 := by
  induction a generalizing m with
  | done x => rfl
  | _ => simp only [andThen, runOn, *]

/-- An action that goes on with another. -/
theorem runOn_bind (a : Action α) (f : α → Action β) (m : Machine F) :
    (a >>= f).runOn m = (f (a.runOn m).2).runOn (a.runOn m).1 :=
  runOn_andThen a f m

end Action

-- ================================================================ worlds

/-- What a write leaves of a disk, and how it ends. -/
def Disk.write (d : Disk) (path content : String) :
    Disk × Except OsError Unit :=
  match d.writeText path content with
  | .ok written => (written, .ok ())
  | .error e => (d, .error e)

/-- The file system that is a tree on a disk. -/
def FileSystem.tree : FileSystem where
  State := Disk
  isFile := Disk.isFile
  readText := Disk.readText
  createDirectories := Disk.createDirectories
  writeText := Disk.write

/-- Only a path with a file name can be read; a path that ends in two dots,
or is the root, can only lead to a directory. -/
def FileSystem.ReadsOnlyNames (F : FileSystem) : Prop :=
  ∀ d path text, F.readText d path = .ok text →
    ∃ n, Path.fileName? path = some n

/-- On a tree only names can be read. -/
theorem FileSystem.readsOnlyNames_tree : tree.ReadsOnlyNames :=
  fun _ _ _ h => Disk.exists_fileName?_of_readText h

/-- A world as a machine. -/
def asMachine (w : World) : Machine .tree where
  disk := w.disk
  environment := w.environment
  accountHome := w.accountHome
  clock := w.clock
  secret := w.secret
  runId := w.runId
  output := w.output
  messages := w.messages

/-- A text is written to the stream of a world as to that of the machine.
-/
theorem asMachine_print (w : World) (channel : Channel) (text : String) :
    (w.print channel text).asMachine = w.asMachine.print channel text := by
  cases channel with
  | output => rfl
  | messages => rfl

/-- A world does to an action what it does as a machine. -/
theorem Action.runOn_asMachine (a : Action α) (w : World) :
    a.runOn w.asMachine = ((a.simulate w).1.asMachine, (a.simulate w).2) := by
  induction a generalizing w with
  | done x => rfl
  | environment name next ih => exact ih _ w
  | accountHome next ih => exact ih _ w
  | isFile path next ih => exact ih _ w
  | readText path next ih => exact ih _ w
  | createDirectories path next ih =>
      exact ih (w.disk.createDirectories path).2
        { w with disk := (w.disk.createDirectories path).1 }
  | writeText path content next ih =>
      cases hwrite : w.disk.writeText path content with
      | ok disk =>
          have hsame : FileSystem.tree.writeText w.asMachine.disk path content
              = (disk, .ok ()) := by
            simp only [FileSystem.tree, Disk.write, asMachine, hwrite]
          simp only [runOn, simulate, hsame, hwrite]
          exact ih (.ok ()) { w with disk }
      | error e =>
          have hsame : FileSystem.tree.writeText w.asMachine.disk path content
              = (w.disk, .error e) := by
            simp only [FileSystem.tree, Disk.write, asMachine, hwrite]
          simp only [runOn, simulate, hsame, hwrite]
          exact ih (.error e) w
  | print channel text next ih =>
      rw [runOn, simulate, ← asMachine_print]
      exact ih () (w.print channel text)
  | now next ih => exact ih _ w
  | pause d next ih => exact ih () { w with clock := w.clock.after d }
  | freshSecret next ih => exact ih _ w
  | freshRunId next ih => exact ih _ w

end Obfuscator.World
