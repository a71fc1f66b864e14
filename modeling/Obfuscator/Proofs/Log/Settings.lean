/-
Where the level of the log comes from.

Of the four places that a level can come from the first that has a say
decides, and the others are not even read. `levelFor` says so as a value.
Finding the settings changes nothing, and fails exactly where that value is
an error.
-/
import Obfuscator.Log.Settings
import Obfuscator.Proofs.World.Talk

namespace Obfuscator

open World (Action FileSystem Machine)

variable {F : FileSystem}

namespace World.Machine

/-- The level that counts: the one that is asked for, or else the one for
more messages, or else the one for fewer, or else the one that the
environment names, or else the standard one. -/
def levelFor (m : Machine F) (asked : Option String) (verbose quiet : Bool) :
    Except Log.UnknownLevel Log.Level :=
  match asked with
  | some text => Log.Level.parse text
  | none =>
    if verbose then .ok .debug
    else if quiet then .ok .error
    else
      match m.setting "POLYMORPH_LOG_LEVEL" with
      | some text => Log.Level.parse text
      | none => .ok .info

/-- The settings with a given level. -/
def settingsAt (m : Machine F) (level : Log.Level) : Log.Settings where
  level
  json := decide (m.environment "POLYMORPH_LOG_JSON" = some "true")

end World.Machine

namespace Log.Settings

/-- The settings are found without a change of the machine. -/
theorem runOn_withLevel (level : Except UnknownLevel Level) (m : Machine F) :
    (withLevel level).runOn m = (m, level.map m.settingsAt) := by
  cases level with
  | error e => rfl
  | ok level => rfl

theorem runOn_levelFromEnvironment (m : Machine F) :
    levelFromEnvironment.runOn m = (m, m.levelFor none false false) := by
  rw [levelFromEnvironment, Action.runOn_bind, Action.runOn_setting?,
    Machine.levelFor]
  cases m.setting "POLYMORPH_LOG_LEVEL" with
  | none => rfl
  | some text => rfl

/-- The settings of a command line are those of the level that counts. -/
theorem runOn_ofCommandLine (asked : Option String) (verbose quiet : Bool)
    (m : Machine F) :
    (ofCommandLine asked verbose quiet).runOn m
      = (m, (m.levelFor asked verbose quiet).map m.settingsAt) := by
  cases asked with
  | some text => exact runOn_withLevel (Level.parse text) m
  | none =>
      cases verbose with
      | true => rfl
      | false =>
          cases quiet with
          | true => rfl
          | false =>
              have henv : (ofCommandLine none false false).runOn m
                  = ofEnvironment.runOn m := rfl
              rw [henv, ofEnvironment, Action.runOn_bind,
                runOn_levelFromEnvironment]
              exact runOn_withLevel _ m

end Log.Settings

end Obfuscator
