/-
What the program says while it works.

Most of what the program does to a machine is talk: it writes to the stream
of messages and lets time pass. Two machines that differ in nothing else are
the same up to talk (`Machine.UpToTalk`): they hold the same files, the same
results have been put out, and every question has the same answer. An action
that only talks leaves every machine the same up to talk, whatever its file
system (`Action.OnlyTalks`).

The log only talks, whatever its settings and its filter, and so does the
playing of a run, by induction on the signals. So neither can be seen in the
output or on the disk.
-/
import Obfuscator.Log.Logger
import Obfuscator.Program.Playback
import Obfuscator.Proofs.World.Machine

namespace Obfuscator

namespace World

variable {F : FileSystem}

-- =========================================================== up to talk

namespace Machine

/-- The second machine is the first one but for messages and the time. -/
structure UpToTalk (m m' : Machine F) : Prop where
  disk : m'.disk = m.disk
  environment : m'.environment = m.environment
  accountHome : m'.accountHome = m.accountHome
  output : m'.output = m.output
  secret : m'.secret = m.secret
  runId : m'.runId = m.runId

namespace UpToTalk

variable {m m' m'' : Machine F}

/-- A machine is itself up to talk. -/
theorem refl (m : Machine F) : UpToTalk m m := ⟨rfl, rfl, rfl, rfl, rfl, rfl⟩

/-- What differs in talk twice differs in talk. -/
theorem trans (h : UpToTalk m m') (h' : UpToTalk m' m'') : UpToTalk m m'' where
  disk := h'.disk.trans h.disk
  environment := h'.environment.trans h.environment
  accountHome := h'.accountHome.trans h.accountHome
  output := h'.output.trans h.output
  secret := h'.secret.trans h.secret
  runId := h'.runId.trans h.runId

/-- Machines stay the same up to talk when both are given the same disk. -/
theorem withDisk (h : UpToTalk m m') (disk : F.State) :
    UpToTalk { m with disk } { m' with disk } where
  disk := rfl
  environment := h.environment
  accountHome := h.accountHome
  output := h.output
  secret := h.secret
  runId := h.runId

/-- Machines stay the same up to talk when the same text is put out in both. -/
theorem withOutput (h : UpToTalk m m') (text : String) :
    UpToTalk { m with output := m.output ++ text } { m' with
      output := m'.output ++ text } where
  disk := h.disk
  environment := h.environment
  accountHome := h.accountHome
  output := congrArg (· ++ text) h.output
  secret := h.secret
  runId := h.runId

end UpToTalk

-- ============================================================== questions

/-- The value of a variable of the environment that is set and not empty. -/
def setting (m : Machine F) (name : String) : Option String :=
  (m.environment name).filter fun value => !value.isEmpty

/-- Up to talk a setting is the same. -/
theorem UpToTalk.setting {m m' : Machine F} (h : UpToTalk m m')
    (name : String) :
    m'.setting name = m.setting name := by
  rw [Machine.setting, Machine.setting, h.environment]

end Machine

namespace Action

variable (m : Machine F)

/-- A setting is looked up in the environment; no question changes the
machine. -/
theorem runOn_setting? (name : String) :
    (setting? name).runOn m = (m, m.setting name) := rfl

theorem runOn_isFile (path : String) :
    (isFile path .done).runOn m = (m, F.isFile m.disk path) := rfl

theorem runOn_readText (path : String) :
    (readText path .done).runOn m = (m, F.readText m.disk path) := rfl

theorem runOn_now : (now .done).runOn m = (m, m.clock) := rfl

theorem runOn_freshSecret : (freshSecret .done).runOn m = (m, m.secret) := rfl

theorem runOn_freshRunId : (freshRunId .done).runOn m = (m, m.runId) := rfl

end Action

-- ====================================================== actions that talk

namespace Action

variable {α β : Type}

/-- An action leaves every machine as it is, up to talk. -/
def OnlyTalks (a : Action α) : Prop :=
  ∀ ⦃F : FileSystem⦄ (m : Machine F), Machine.UpToTalk m (a.runOn m).1

/-- What does nothing does no more than talk. -/
theorem onlyTalks_pure (x : α) : (pure x : Action α).OnlyTalks :=
  fun _ m => Machine.UpToTalk.refl m

/-- An action that only talks may be followed by others that do. -/
theorem OnlyTalks.bind {a : Action α} {f : α → Action β} (ha : a.OnlyTalks)
    (hf : ∀ x, (f x).OnlyTalks) : (a >>= f).OnlyTalks := by
  intro F m
  rw [runOn_bind]
  exact (ha m).trans (hf _ _)

/-- A complaint is talk. -/
theorem onlyTalks_complain (line : String) : (complain line).OnlyTalks :=
  fun _ _ => ⟨rfl, rfl, rfl, rfl, rfl, rfl⟩

/-- So is any text on the stream of messages. -/
theorem onlyTalks_print_messages (text : String) :
    (Action.print .messages text .done).OnlyTalks :=
  fun _ _ => ⟨rfl, rfl, rfl, rfl, rfl, rfl⟩

/-- To ask for the time changes nothing. -/
theorem onlyTalks_now : (Action.now .done).OnlyTalks :=
  fun _ m => Machine.UpToTalk.refl m

/-- To wait changes the time alone. -/
theorem onlyTalks_pause (d : Duration) : (Action.pause d .done).OnlyTalks :=
  fun _ _ => ⟨rfl, rfl, rfl, rfl, rfl, rfl⟩

/-- To ask for a setting changes nothing. -/
theorem onlyTalks_setting? (name : String) : (setting? name).OnlyTalks :=
  fun _ m => Machine.UpToTalk.refl m

end Action

end World

open World (Action)

-- ================================================================ the log

namespace Log.Logger

/-- The log writes to the stream of messages, or it writes nothing. -/
theorem onlyTalks_write (logger : Logger) (marks : Marks) (r : Record) :
    (logger.write marks r).OnlyTalks := by
  unfold write
  split
  · exact fun _ m => Action.onlyTalks_complain _ m
  · exact Action.onlyTalks_pure ()

/-- So does a note, which is a record of something that takes no time. -/
theorem onlyTalks_note (logger : Logger) (r : Record) :
    (logger.note r).OnlyTalks :=
  logger.onlyTalks_write _ r

/-- The parts of a filter that are rejected are complained of, one after
the other. -/
theorem onlyTalks_complainOfParts :
    ∀ parts : List RejectedPart, (complainOfParts parts).OnlyTalks := by
  intro parts
  induction parts with
  | nil => exact Action.onlyTalks_pure ()
  | cons part rest ih =>
      exact (Action.onlyTalks_complain part.message).bind fun _ => ih

/-- To find the filter takes a look at the environment, and complaints. -/
theorem onlyTalks_filterFor (level : Level) : (filterFor level).OnlyTalks := by
  unfold filterFor
  refine (Action.onlyTalks_setting? "RUST_LOG").bind fun directives => ?_
  cases directives with
  | none => exact Action.onlyTalks_pure _
  | some text => exact (onlyTalks_complainOfParts _).bind fun _ =>
    Action.onlyTalks_pure _

/-- To set the log up is no more than that, and nothing if it is set up
already. -/
theorem onlyTalks_install (current : Option Logger) (s : Settings) :
    (install current s).OnlyTalks := by
  cases current with
  | some logger => exact Action.onlyTalks_pure logger
  | none => exact (onlyTalks_filterFor s.level).bind fun _ =>
    Action.onlyTalks_pure _

end Log.Logger

-- ================================================================ a run

namespace Playback

/-- Carrying out a signal tells the log of it and lets time pass. -/
theorem onlyTalks_play (logger : Log.Logger) (b : Playback) (s : Signal) :
    (b.play logger s).OnlyTalks := by
  cases s with
  | note r => exact (logger.onlyTalks_write b.marks r).bind fun _ =>
    Action.onlyTalks_pure b
  | event e =>
      exact Action.onlyTalks_now.bind fun now =>
        (logger.onlyTalks_write b.marks e.record).bind fun _ =>
          Action.onlyTalks_pure _
  | pause d =>
      exact (Action.onlyTalks_pause d).bind fun _ =>
        Action.onlyTalks_now.bind fun now => Action.onlyTalks_pure _

/-- Playing a run only talks. -/
theorem onlyTalks_playAll (logger : Log.Logger) :
    ∀ (signals : List Signal) (b : Playback),
      (b.playAll logger signals).OnlyTalks := by
  intro signals
  induction signals with
  | nil => intro b; exact Action.onlyTalks_pure b
  | cons s rest ih =>
      intro b; exact (b.onlyTalks_play logger s).bind fun played => ih played

end Playback

end Obfuscator
