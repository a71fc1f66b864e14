/-
The formats in which results are shown.

Two of them are documents for other programs and show the same value; the
third is a text for people, which each kind of result lays out by itself.
-/
import Obfuscator.Json.Printer
import Obfuscator.Yaml.Printer

namespace Obfuscator

/-- A format for results. -/
inductive Format
  | json
  | yaml
  | human
  deriving DecidableEq, Repr

namespace Format

/-- Every format, the standard one last. -/
def all : List Format := [json, yaml, human]

def name : Format → String
  | json => "json"
  | yaml => "yaml"
  | human => "human"

/-- The format with a given name; capitals count. -/
def ofName? (s : String) : Option Format := all.find? fun f => f.name = s

/-- A result in a format: its value as a document, or its text for people. -/
def present (f : Format) (value : Json) (text : String) : String :=
  match f with
  | json => value.pretty
  | yaml => Yaml.render value
  | human => text

end Format

/-- The line under a heading. -/
def headingRule : String := String.ofList (List.replicate 40 '━')

end Obfuscator
