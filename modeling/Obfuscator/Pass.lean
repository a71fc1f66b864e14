/-
A pass: it is given a text and hands a text on, or stops the run.

A pass that fails hands on a text all the same and the run goes on; only a
fault ends it. What a pass writes to the log belongs to its result, so that
a pass is a plain function.
-/
import Obfuscator.Log.Record
import Obfuscator.Pass.Kind
import Obfuscator.Profile.Registry
import Obfuscator.Rename

namespace Obfuscator

/-- What a pass may look at beside the text. -/
structure PassContext where
  language : Language
  registry : Registry
  options : Options

/-- The profile in force for the language of a run. -/
def PassContext.profile (c : PassContext) : Profile :=
  c.registry.profile c.language

/-- A reason to end a run: what went wrong, told from the outermost view to
the innermost. -/
structure Fault where
  causes : List String
  deriving DecidableEq, Repr

/-- A fault on one line. -/
def Fault.message (f : Fault) : String := String.intercalate ": " f.causes

/-- How a pass ended. -/
inductive PassOutcome
  | completed (text message : String)
  /-- The pass did not do its work, but the run goes on with `text`. -/
  | failed (text reason : String)
  | fault (f : Fault)
  deriving DecidableEq, Repr

/-- What a pass did: what it wrote to the log, and how it ended. -/
structure PassResult where
  notes : List Log.Record := []
  outcome : PassOutcome

/-- A stage of a run. -/
structure Pass where
  kind : PassKind
  execute : PassContext → String → PassResult

namespace Pass

-- ===================================================== the built-in passes

/-- How the identifiers of a language are renamed. -/
def namingScheme (p : Profile) (engine : PatternEngine := .standard) :
    NamingScheme where
  candidates := p.candidates
  stem := p.nameStem
  boundary := p.boundary
  engine

/-- The record of a name that was given. -/
def assignmentNote (a : Assignment) : Log.Record where
  level := .debug
  target := "polymorph::pipeline::passes::rename"
  message := "Assigned replacement"
  fields := [("identifier", .quoted a.identifier),
    ("replacement", .plain a.replacement)]

/-- Renames identifiers; the only built-in pass that can end a run. -/
def rename (engine : PatternEngine := .standard) : Pass where
  kind := .rename
  execute c text :=
    match (namingScheme c.profile engine).rename text with
    | .ok r =>
      { notes := r.table.entries.map assignmentNote
        outcome := .completed r.text ("Renamed variables and functions for "
          ++ c.language.id) }
    | .error e => { outcome := .fault ⟨e.chain⟩ }

/-- Puts the decoys in front of the text, an empty line after each. -/
def junk : Pass where
  kind := .junk
  execute c text :=
    { outcome := .completed
        (String.intercalate "\n\n" c.profile.junkTemplates ++ "\n\n" ++ text)
        ("Injected decoy functions for " ++ c.language.id) }

/-- The reason for which a mutation without a key fails. -/
def missingApiKey : String := "OpenAI API key not configured"

/-- Puts the marker of a restructured text in front, if a key is given. -/
def mutate : Pass where
  kind := .mutate
  execute c text :=
    if c.options.hasApiKey then
      { outcome := .completed (c.profile.mutationComment ++ "\n" ++ text)
          ("AI restructured code for " ++ c.language.id) }
    else
      { notes :=
          [{ level := .debug
             target := "polymorph::pipeline::passes::mutation"
             message := "Skipping mutation without credential"
             fields := [("language", .plain c.language.id)] }]
        outcome := .failed text missingApiKey }

/-- A secret of eight hexadecimal digits, from four random bytes. -/
def secretOfBytes (a b c d : UInt8) : String :=
  String.ofList ([a, b, c, d].flatMap Text.hexByte)

/-- Puts the integrity check in front of the text, with a given secret. -/
def canary (secret : String) : Pass where
  kind := .canary
  execute c text :=
    { outcome := .completed (c.profile.renderCanary secret ++ "\n" ++ text)
        ("Injected anti-tampering for " ++ c.language.id) }

/-- Leaves the text alone and names the tool that would build it. -/
def executable : Pass where
  kind := .executable
  execute c text :=
    { outcome := .completed text
        ("Generated " ++ c.profile.buildTool ++ " build configuration") }

/-- The passes of an ordinary run, in running order. -/
def standard (secret : String) (engine : PatternEngine := .standard) :
    List Pass :=
  [rename engine, junk, mutate, canary secret, executable]

end Pass

end Obfuscator
