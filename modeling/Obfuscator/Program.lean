/-
The program as a whole.

A command line that is no request is answered at once. A request first
settles how the log is kept, and is then carried out; how it ended is what
the program leaves.
-/
import Obfuscator.CommandLine.Reader
import Obfuscator.Listing
import Obfuscator.Program.Obfuscate

namespace Obfuscator

open World (Action)

/-- The record of the start of the program. -/
def openingNote : Log.Record where
  level := .debug
  target := "polymorph"
  message := "polymorph v0.3.0 starting"

/-- Prints the list of languages. -/
def listLanguages (f : Format) : Action Exit := do
  Action.print .output (Listing.render Registry.standard.listing f
    ++ "\n") .done
  return .success

namespace Request

/-- Carries out a request, with a log that has begun. -/
def carryOut (r : Request) (logger : Log.Logger) (notice : DocumentNotice) :
    Action Exit := do
  logger.note openingNote
  match r.command with
  | .obfuscate o => obfuscate logger o r.quiet notice
  | .languages f => listLanguages f

/-- Carries out a request. -/
def execute (r : Request) (notice : DocumentNotice := .heading) :
    Action Exit := do
  match ← Log.Settings.ofCommandLine r.logLevel r.verbose r.quiet with
  | .error e =>
    Action.complain ("Error: " ++ e.message)
    return .refusal
  | .ok s => r.carryOut (← Log.Logger.install none s) notice

end Request

/-- Answers a command line that is no request. -/
def answerStop (s : CommandLine.Stop) : Action Exit := do
  Action.print (if s.isAnswer then .output else .messages) s.text .done
  return if s.isAnswer then .success else .refusal

/-- Does what a command line asks for. What is said of the place at which a
configuration document is at fault is given with it. -/
def runProgram (words : List String) (notice : DocumentNotice := .heading) :
    Action Exit :=
  match CommandLine.read words with
  | .error s => answerStop s
  | .ok r => r.execute notice

end Obfuscator
