/-
Carrying out a run where it can be watched.

A run is known as a whole before anyone is told of it. Playing it tells the
step log and the log of every event when its turn has come, and waits where
the run pauses.
-/
import Obfuscator.Log.Logger
import Obfuscator.Pipeline
import Obfuscator.Progress.StepLog
import Obfuscator.World.Action

namespace Obfuscator

open World (Action)

/-- How far the playing of a run has come. -/
structure Playback where
  log : StepLog
  marks : Log.Marks

namespace Playback

/-- A run that begins now. -/
def start (now : Instant) : Playback where
  log := {}
  marks := ⟨now, now⟩

/-- Carries out one signal. -/
def play (logger : Log.Logger) (p : Playback) : Signal → Action Playback
  | .note r => do
    logger.write p.marks r
    return p
  | .event e => do
    let now ← Action.now .done
    logger.write p.marks e.record
    return { p with log := p.log.record now e }
  | .pause d => do
    Action.pause d .done
    let now ← Action.now .done
    return { p with marks := { p.marks with pass := now } }

/-- Carries out signals in order. -/
def playAll (logger : Log.Logger) (p : Playback) :
    List Signal → Action Playback
  | [] => return p
  | s :: rest => do (← p.play logger s).playAll logger rest

end Playback

end Obfuscator
