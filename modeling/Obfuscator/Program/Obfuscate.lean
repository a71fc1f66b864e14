/-
The command that obfuscates a file.

First the options and the language are settled, then the file is read, and
then the passes run over it. Without a directory to write to the text goes
to the output, and the report to the messages; with one the text goes to
files, and the report to the output. A report for people is left out if
quiet is asked for.
-/
import Obfuscator.Artifact.Writer
import Obfuscator.CommandLine.Request
import Obfuscator.Options.Load
import Obfuscator.Program.Exit
import Obfuscator.Program.Playback
import Obfuscator.Report.Summary

namespace Obfuscator

open World (Action Path)

-- ===================================================== settling the choices

/-- Why a request cannot be run. -/
inductive RequestError
  | configFile (e : ConfigFileError)
  | unknownLanguage (id : String)
  deriving DecidableEq, Repr

def RequestError.message (e : RequestError) (notice : DocumentNotice) :
    String :=
  match e with
  | configFile e => e.message notice
  | unknownLanguage id =>
    "Unknown language: " ++ id
      ++ ". Run `polymorph languages` to list supported tags"

/-- What a request comes to. -/
structure Resolved where
  options : Options
  language : Language
  deriving DecidableEq, Repr

namespace ObfuscateRequest

/-- The name under which the file appears in results: the last part of its
path, or else the whole path. -/
def fileName (r : ObfuscateRequest) : String :=
  (Path.fileName? r.file).getD r.file

/-- The language that is asked for, or else the one that the name of the
file tells. -/
def chooseLanguage (r : ObfuscateRequest) : Except RequestError Language :=
  match r.language with
  | none => .ok (Language.ofFileName r.fileName)
  | some id =>
    match Language.ofId? id with
    | some l => .ok l
    | none => .error (.unknownLanguage id)

/-- Settles the options and the language. -/
def resolve (r : ObfuscateRequest) :
    Action (Except RequestError Resolved) := do
  match ← Options.load r.config with
  | .error e => return .error (.configFile e)
  | .ok o => return r.chooseLanguage.map fun language =>
    { options := r.applyTo o, language }

/-- The passes and pauses of a request, with a given secret. -/
def pipeline (r : ObfuscateRequest) (secret : String) : Pipeline where
  registry := Registry.standard
  pacing := if r.instant then Pacing.instant else Pacing.standard
  passes := Pass.standard secret

end ObfuscateRequest

-- ============================================================ the records

/-- The part of the program that speaks in the records of the command. -/
def commandTarget : String := "polymorph::cli::handlers"

/-- The record of what a request comes to. -/
def Resolved.note (c : Resolved) : Log.Record where
  level := .debug
  target := commandTarget
  message := "Resolved options"
  fields := [("options", .plain c.options.describe),
    ("language", .plain c.language.id)]

/-- The record of the start of a run. -/
def startNote (runId fileName : String) : Log.Record where
  level := .info
  target := commandTarget
  message := "Starting run"
  fields := [("run_id", .plain runId), ("file", .plain fileName)]

/-- The record of artifacts that could not be written. -/
def ArtifactError.note (e : ArtifactError) : Log.Record where
  level := .error
  target := commandTarget
  message := "Failed to write artifacts"
  fields := [("error", .plain e.message)]

/-- The record of a run that ended in a fault. -/
def StepFailure.note (f : StepFailure) : Log.Record where
  level := .error
  target := commandTarget
  message := f.message
  fields := [("step", .quoted f.kind.id)]

/-- What is told if there is nothing to do. -/
def nothingEnabled : String :=
  "Warning: no passes enabled; output will match the input. Try --defaults."

-- ================================================================ the run

/-- What became of the text of a run. -/
structure Delivery where
  outputLength : Nat := 0
  artifacts : List WrittenArtifact := []
  error : Option String := none
  deriving DecidableEq, Repr

/-- Prints the text of a run, or writes its artifacts. -/
def deliverText (logger : Log.Logger) (r : ObfuscateRequest) (c : Resolved)
    (text : String) :
    Action Delivery := do
  match r.outputDirectory with
  | none =>
    Action.print .output text .done
    return { outputLength := text.length }
  | some directory =>
    let set := ArtifactSet.make r.fileName c.language Registry.standard text
      c.options
    match ← set.writeTo logger.note directory with
    | .ok artifacts => return { outputLength := text.length, artifacts }
    | .error e =>
      logger.note e.note
      return { outputLength := text.length, error := some e.message }

/-- Delivers what a run ended with. -/
def deliver (logger : Log.Logger) (r : ObfuscateRequest) (c : Resolved)
    (result : Except StepFailure String) : Action Delivery := do
  match result with
  | .ok text => deliverText logger r c text
  | .error f =>
    logger.note f.note
    return { error := some f.message }

/-- Where the report goes. -/
def ObfuscateRequest.reportChannel (r : ObfuscateRequest) : World.Channel :=
  if r.outputDirectory.isSome then .output else .messages

/-- Prints a report, unless it is for people and quiet is asked for. -/
def publish (r : ObfuscateRequest) (quiet : Bool) (report : Report) :
    Action Unit :=
  if quiet ∧ r.format = .human then return ()
  else Action.print r.reportChannel (report.render r.format ++ "\n") .done

/-- Tells of what went wrong, if something did. -/
def complainOf : Option String → Action Unit
  | some e => Action.complain ("Error: " ++ e)
  | none => return ()

/-- Runs the passes over a text that was read, and delivers and reports what
comes of it. -/
def runOver (logger : Log.Logger) (r : ObfuscateRequest) (quiet : Bool)
    (c : Resolved) (source : String) : Action Exit := do
  let startedAt ← Action.now .done
  let runId ← Action.freshRunId .done
  logger.note (startNote runId r.fileName)
  let secret ← Action.freshSecret .done
  let run := (r.pipeline secret).runAs source c.options c.language
  let played ← (Playback.start startedAt).playAll logger run.signals
  let delivery ← deliver logger r c run.result
  let stoppedAt ← Action.now .done
  let report : Report :=
    { runId
      file := r.fileName
      language := c.language
      startedAt
      duration := startedAt.millisecondsUntil stoppedAt
      inputLength := source.length
      outputLength := delivery.outputLength
      steps := played.log.steps
      artifacts := delivery.artifacts
      error := delivery.error }
  complainOf report.error
  publish r quiet report
  return if report.succeeded then .success else .failure

/-- Obfuscates a file. -/
def obfuscate (logger : Log.Logger) (r : ObfuscateRequest) (quiet : Bool)
    (notice : DocumentNotice) : Action Exit := do
  match ← r.resolve with
  | .error e =>
    Action.complain ("Error: " ++ e.message notice)
    return .refusal
  | .ok c =>
    logger.note c.note
    if !c.options.anyPassEnabled && !quiet then Action.complain nothingEnabled
    match ← Action.readText r.file .done with
    | .error e =>
      Action.complain ("Error: Failed to read " ++ r.file ++ ": " ++ e.message)
      return .failure
    | .ok source => runOver logger r quiet c source

end Obfuscator
