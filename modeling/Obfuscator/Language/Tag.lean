/-
Languages in JSON documents.

A document names a language by its tag, as a string, up to ASCII case.
-/
import Obfuscator.Language
import Obfuscator.Unexpected

namespace Obfuscator

/-- Why a JSON value names no language. -/
inductive TagError
  /-- The string is no tag. -/
  | unknown (tag : String)
  /-- The value is no string. -/
  | notString (found : Unexpected)
  deriving DecidableEq, Repr

def TagError.message : TagError → String
  | unknown tag => "unknown LanguageTag: " ++ tag
  | notString found =>
    "invalid type: " ++ found.describe ++ ", expected a string"

/-- The language that a JSON value names. -/
def Language.ofJson (j : Json) : Except TagError Language :=
  match j with
  | .string tag =>
    match ofId? tag with
    | some l => .ok l
    | none => .error (.unknown tag)
  | other => .error (.notString other.unexpected)

end Obfuscator
