/-
What the passes need to know about one language.

A profile is plain data: the identifiers worth renaming, how a new name starts
and where an identifier ends, the decoys, the integrity check with its
placeholders, and the words about the tool that would build the result.
-/
import Obfuscator.Language
import Obfuscator.Text.Lines
import Obfuscator.Text.Replace

namespace Obfuscator

/-- Everything a pass needs to know about one language. -/
structure Profile where
  language : Language
  /-- Identifiers worth renaming, beside `Profile.baseIdentifiers`. -/
  identifiers : List String
  /-- How every generated name starts. -/
  nameStem : String := "_0x"
  /-- The pattern that must match on both sides of an identifier. -/
  boundary : String := "(?-u:\\b)"
  /-- Decoys, written in the language itself. -/
  junkTemplates : List String
  /-- The integrity check, with a placeholder wherever the secret belongs. -/
  canaryTemplate : String
  /-- One line that marks a text as restructured. -/
  mutationComment : String
  buildTool : String
  executableExtension : String
  toolchainNote : String
  deriving DecidableEq, Repr

namespace Profile

/-- Identifiers worth renaming in every language. -/
def baseIdentifiers : List String :=
  ["data", "result", "value", "item", "temp", "count", "index", "response"]

/-- The identifiers a renaming looks for: the common ones first, then the
language's own. -/
def candidates (p : Profile) : List String :=
  baseIdentifiers ++ p.identifiers

/-- The mark in a canary template that stands for the secret. -/
def secretPlaceholder : String := "\x7bsecret\x7d"

/-- The integrity check with one secret in the place of every placeholder. -/
def renderCanary (p : Profile) (secret : String) : String :=
  Text.replace secretPlaceholder secret p.canaryTemplate

end Profile

end Obfuscator
