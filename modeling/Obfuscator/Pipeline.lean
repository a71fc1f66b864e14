/-
Runs of a list of passes over one text.

A run is a value: everything that happens in it, in order, and how it ends.
The enabled passes work one after the other, each on the text the one before
it handed on. Every enabled pass is announced, pauses, works and is
reported; a fault ends the run at once. Who is told about it, and when, is
up to the caller.
-/
import Obfuscator.Pacing
import Obfuscator.Pass
import Obfuscator.Progress.Event

namespace Obfuscator

/-- Something that happens in a run. -/
inductive Signal
  /-- A record for the log. -/
  | note (r : Log.Record)
  /-- An event for the reporters. -/
  | event (e : Event)
  /-- A pause, after which the pass starts to work. -/
  | pause (d : Duration)
  deriving DecidableEq, Repr

/-- The event of a signal that is one. -/
def Signal.event? : Signal → Option Event
  | event e => some e
  | _ => none

/-- A fault, and the pass that ended in it. -/
structure StepFailure where
  kind : PassKind
  fault : Fault
  deriving DecidableEq, Repr

def StepFailure.message (f : StepFailure) : String :=
  "Obfuscation failed at " ++ f.kind.id ++ ": " ++ f.fault.message

/-- What happens in a run, and the text it ends with unless a pass faults. -/
structure Run where
  signals : List Signal
  result : Except StepFailure String

/-- The events of a run. -/
def Run.events (r : Run) : List Event := r.signals.filterMap Signal.event?

/-- What is needed to run. -/
structure Pipeline where
  registry : Registry
  pacing : Pacing
  passes : List Pass

namespace Pipeline

/-- The part of the program that speaks in the records of a run. -/
def target : String := "polymorph::pipeline::orchestrator"

/-- Puts signals in front of a run. -/
def prepend (signals : List Signal) (r : Run) : Run :=
  { r with signals := signals ++ r.signals }

/-- What is heard of a pass that is disabled. -/
def skipped (k : PassKind) : List Signal :=
  [.note
    { level := .debug
      target
      message := "Pass disabled, skipping"
      fields := [("step", .quoted k.id)] }]

/-- What is heard of the end of a pass. -/
def ended (k : PassKind) : PassOutcome → List Signal
  | .completed _ message =>
    [.event (.completed k.id message),
      .note
        { level := .debug
          target
          message := "Pass complete"
          fields := [("step", .quoted k.id), ("elapsed", .elapsed .pass)] }]
  | .failed _ reason =>
    [.note
        { level := .debug
          target
          message := "Pass failed, continuing"
          fields := [("step", .quoted k.id), ("reason", .plain reason)] },
      .event (.failed k.id reason)]
  | .fault f => [.event (.failed k.id f.message)]

/-- What is heard of a pass that works: that it starts, the pause before it,
what it writes to the log, and its end. -/
def attempted (pacing : Pacing) (k : PassKind) (r : PassResult) :
    List Signal :=
  [.event (.started k.id k.label), .pause (pacing.delay k)]
    ++ r.notes.map .note ++
    ended k r.outcome

/-- Runs the enabled ones of some passes, one after the other. -/
def runPasses (pacing : Pacing) (c : PassContext) : List Pass → String → Run
  | [], text => ⟨[], .ok text⟩
  | p :: rest, text =>
    if p.kind.isEnabled c.options then
      let r := p.execute c text
      match r.outcome with
      | .completed next _ =>
        prepend (attempted pacing p.kind r) (runPasses pacing c rest next)
      | .failed next _ =>
        prepend (attempted pacing p.kind r) (runPasses pacing c rest next)
      | .fault f => ⟨attempted pacing p.kind r, .error ⟨p.kind, f⟩⟩
    else prepend (skipped p.kind) (runPasses pacing c rest text)

/-- Runs over a text whose language is known. -/
def runAs (p : Pipeline) (source : String) (options : Options)
    (language : Language) : Run :=
  let opening : Signal :=
    .note
      { level := .info
        target
        message := "Starting obfuscation"
        fields :=
          [("language", .plain language.id),
            ("bytes", .number source.utf8ByteSize)] }
  let r := prepend [opening]
    (runPasses p.pacing ⟨language, p.registry, options⟩ p.passes source)
  match r.result with
  | .error _ => r
  | .ok text =>
    { r with
      signals := r.signals ++
        [.note
          { level := .info
            target
            message := "Obfuscation complete"
            fields :=
              [("language", .plain language.id),
                ("bytes", .number text.utf8ByteSize),
                ("elapsed", .elapsed .run)] }] }

/-- Runs over the text of a file, whose name tells the language. -/
def run (p : Pipeline) (source : String) (options : Options)
    (fileName : String) : Run :=
  let language := Language.ofFileName fileName
  prepend
    [.note
      { level := .debug
        target
        message := "Classified input"
        fields := [("file", .quoted fileName),
          ("language", .plain language.id)] }]
    (p.runAs source options language)

end Pipeline

end Obfuscator
