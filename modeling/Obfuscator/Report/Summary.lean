/-
Reports as texts for people.
-/
import Obfuscator.Report.Basic
import Obfuscator.Report.Format
import Obfuscator.Text.Column

namespace Obfuscator

/-- The sign for how far a step has come. -/
def StepStatus.sign : StepStatus → String
  | pending => "…"
  | running => "…"
  | completed => "✓"
  | error => "✗"

namespace Report

/-- The width of the column with the names of passes. -/
def stepNameWidth : Nat := 22

/-- A step on one line, after the branch of the tree that leads to it. -/
def stepLine (branch : String) (s : Step) : String :=
  branch ++ "─ " ++ s.status.sign ++ " "
    ++ Text.padRight stepNameWidth s.name ++ " " ++ s.message ++ "\n"

/-- Steps as the branches of a tree. -/
def stepLines : List Step → String
  | [] => ""
  | [s] => stepLine "└" s
  | s :: rest => stepLine "├" s ++ stepLines rest

/-- The paragraph on the steps. -/
def stepParagraph (steps : List Step) : String :=
  match steps with
  | [] => "Steps: (none enabled)\n"
  | steps => "Steps:\n" ++ stepLines steps

/-- A file that was written, on one line. -/
def artifactLine (w : WrittenArtifact) : String :=
  "  - " ++ w.path ++ " (" ++ toString w.bytes ++ " bytes)\n"

/-- The paragraph on the files, if there are any. -/
def artifactParagraph (artifacts : List WrittenArtifact) : String :=
  match artifacts with
  | [] => ""
  | artifacts => "\nArtifacts:\n" ++ String.join (artifacts.map artifactLine)

/-- The paragraph on what went wrong, if something did. -/
def errorParagraph : Option String → String
  | none => ""
  | some e => "\nError: " ++ e ++ "\n"

/-- A report as a text for people. -/
def summary (r : Report) : String :=
  (if r.succeeded then "✓ Obfuscation Report\n"
    else "✗ Obfuscation Failed\n")
    ++ headingRule ++ "\n\n"
    ++ "File:      " ++ r.file ++ "\n"
    ++ "Language:  " ++ r.language.name ++ " (" ++ r.language.id ++ ")\n"
    ++ "Size:      " ++ toString r.inputLength
    ++ " -> " ++ toString r.outputLength ++ " characters\n\n"
    ++ stepParagraph r.steps ++ artifactParagraph r.artifacts
    ++ errorParagraph r.error
    ++ "\nRun " ++ r.runId ++ " finished in " ++ toString r.duration ++ "ms\n"

/-- A report in a format. -/
def render (r : Report) (f : Format) : String := f.present r.toJson r.summary

end Report

end Obfuscator
