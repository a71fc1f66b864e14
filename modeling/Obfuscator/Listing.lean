/-
The list of languages that can be worked on.

There is one entry for every language with a profile in a registry, in the
order of the registry.
-/
import Obfuscator.Profile.Registry
import Obfuscator.Report.Format
import Obfuscator.Text.Column

namespace Obfuscator

/-- What is told of one language. -/
structure ListingEntry where
  language : Language
  buildTool : String
  executableExtension : String
  deriving DecidableEq, Repr

namespace ListingEntry

/-- What is told of the language of a profile. -/
def ofProfile (p : Profile) : ListingEntry where
  language := p.language
  buildTool := p.buildTool
  executableExtension := p.executableExtension

/-- An entry as a value. -/
def toJson (e : ListingEntry) : Json :=
  .object
    [("tag", .string e.language.id), ("name", .string e.language.name),
      ("extensions", .ofStrings e.language.extensions),
      ("build_tool", .string e.buildTool),
      ("executable_extension", .string e.executableExtension)]

/-- An entry on one line. -/
def line (e : ListingEntry) : String :=
  let extensions :=
    String.intercalate ", " (e.language.extensions.map fun x => "." ++ x)
  Text.padRight 12 e.language.id ++ " "
    ++ Text.padRight 14 e.language.name ++ " "
    ++ Text.padRight 18 extensions ++ " " ++ e.buildTool ++ "\n"

end ListingEntry

/-- The languages of a registry. -/
def Registry.listing (reg : Registry) : List ListingEntry :=
  reg.profiles.map ListingEntry.ofProfile

namespace Listing

/-- A list of languages as a text for people. -/
def summary (entries : List ListingEntry) : String :=
  "Supported Languages\n" ++ headingRule ++ "\n\n" ++
    String.join (entries.map ListingEntry.line) ++
    "\n" ++ toString entries.length ++ " languages\n"

/-- A list of languages in a format. -/
def render (entries : List ListingEntry) (f : Format) : String :=
  f.present (.array (entries.map ListingEntry.toJson)) (summary entries)

end Listing

end Obfuscator
