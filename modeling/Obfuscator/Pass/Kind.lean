/-
The five kinds of pass, in the order in which they run.
-/
import Obfuscator.Options
import Obfuscator.Time.Elapsed

namespace Obfuscator

/-- What a pass does. -/
inductive PassKind
  /-- Gives well-known identifiers new names. -/
  | rename
  /-- Puts decoys in front of the text. -/
  | junk
  /-- Marks the text as restructured by a language model. -/
  | mutate
  /-- Puts an integrity check in front of the text. -/
  | canary
  /-- Names the tool that would build the result. -/
  | executable
  deriving DecidableEq, Repr

namespace PassKind

/-- Every kind once, in running order. -/
def all : List PassKind := [rename, junk, mutate, canary, executable]

/-- The id by which a pass is reported. -/
def id : PassKind → String
  | rename => "var-rename"
  | junk => "junk-inject"
  | mutate => "ai-mutate"
  | canary => "canary-inject"
  | executable => "exe-gen"

/-- The name of a pass for readers. -/
def label : PassKind → String
  | rename => "Variable Renaming"
  | junk => "Junk Code Injection"
  | mutate => "AI Code Mutation"
  | canary => "Anti-Tampering Canary"
  | executable => "Executable Generation"

/-- The switch that enables a pass. -/
def switch : PassKind → Switch
  | rename => .renameVariables
  | junk => .injectJunk
  | mutate => .mutate
  | canary => .injectCanary
  | executable => .generateExecutable

/-- Whether a pass is enabled. -/
def isEnabled (k : PassKind) (o : Options) : Bool := o.isOn k.switch

/-- The pause before a pass where nothing else is asked for. -/
def standardDelay : PassKind → Duration
  | rename => .ofMilliseconds 800
  | junk => .ofMilliseconds 600
  | mutate => .ofMilliseconds 2000
  | canary => .ofMilliseconds 400
  | executable => .ofMilliseconds 1200

end PassKind

end Obfuscator
