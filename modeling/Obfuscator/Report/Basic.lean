/-
The report of one run.

A report tells what was read, what every enabled pass did, which files were
written and, if something went wrong, what. As a value it has a member for
each of these, in a fixed order; there is a member for the error only if
there is an error.
-/
import Obfuscator.Artifact.Writer
import Obfuscator.Json.Basic
import Obfuscator.Progress.StepLog

namespace Obfuscator

/-- What there is to tell of one run. -/
structure Report where
  runId : String
  file : String
  language : Language
  startedAt : Instant
  /-- How long the run took, in milliseconds. -/
  duration : Nat
  /-- The number of characters of the text that was read. -/
  inputLength : Nat
  /-- The number of characters of the text the run ended with, zero if it
  ended with none. -/
  outputLength : Nat
  steps : List Step
  artifacts : List WrittenArtifact
  error : Option String := none
  deriving DecidableEq, Repr

/-- A step as a value. -/
def Step.toJson (s : Step) : Json :=
  .object
    [("id", .string s.id), ("name", .string s.name),
      ("status", .string s.status.name), ("message", .string s.message),
      ("timestamp", .string s.stamp.render)]

/-- A file that was written as a value. -/
def WrittenArtifact.toJson (w : WrittenArtifact) : Json :=
  .object
    [("kind", .string w.kind.name), ("path", .string w.path),
      ("bytes", .ofNat w.bytes)]

namespace Report

/-- Whether nothing went wrong. -/
def succeeded (r : Report) : Bool := r.error.isNone

/-- The member for the error, if there is one. -/
def errorMember (error : Option String) : List (String × Json) :=
  match error with
  | none => []
  | some e => [("error", .string e)]

/-- A report as a value. -/
def toJson (r : Report) : Json :=
  .object
    ([("run_id", .string r.runId), ("file", .string r.file),
      ("language", .string r.language.id),
      ("started_at", .string r.startedAt.render),
      ("duration_ms", .ofNat r.duration),
      ("input_length", .ofNat r.inputLength),
      ("output_length", .ofNat r.outputLength),
      ("steps", .array (r.steps.map Step.toJson)),
      ("artifacts", .array (r.artifacts.map WrittenArtifact.toJson))] ++
    errorMember r.error)

end Report

end Obfuscator
