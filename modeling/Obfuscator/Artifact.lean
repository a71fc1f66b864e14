/-
What a run leaves behind: the text itself, and a stand-in for an executable.

The text goes to a file named after the source, with a suffix before the
extension; a source without an extension gets `.txt`. The stand-in is a text
that tells how the source would be built. It is made only if executables are
asked for, and its name ends in the extension that executables of the
language have. The name of a license key appears in it as a fingerprint
only.
-/
import Obfuscator.Digest.Sha256
import Obfuscator.Options
import Obfuscator.Profile.Registry

namespace Obfuscator

/-- What marks the name of everything that is written. -/
def obfuscatedSuffix : String := "_obfuscated"

namespace FileName

/-- The name for the text of a source. -/
def sourceArtifact (fileName : String) : String :=
  stem fileName ++ obfuscatedSuffix ++ "." ++ (extension? fileName).getD "txt"

/-- The name for the stand-in of an executable. -/
def executableArtifact (fileName extension : String) : String :=
  stem fileName ++ obfuscatedSuffix ++ extension

end FileName

/-- The number of hexadecimal digits of a fingerprint. -/
def fingerprintLength : Nat := 12

/-- What is told of a license key: the start of its digest. -/
def licenseFingerprint (key : String) : String :=
  String.ofList ((Digest.sha256Hex key).toList.take fingerprintLength)

-- ====================================================== executables

/-- Everything the stand-in of an executable tells. -/
structure ExecutableMetadata where
  sourceFile : String
  language : Language
  buildTool : String
  executableExtension : String
  toolchainNote : String
  /-- The number of characters of the text. -/
  textLength : Nat
  hardwareBinding : Bool
  licenseFingerprint : Option String
  deriving DecidableEq, Repr

namespace ExecutableMetadata

/-- What is to be told of a text. -/
def describe (fileName : String) (l : Language) (reg : Registry)
    (text : String) (o : Options) :
    ExecutableMetadata :=
  let p := reg.profile l
  { sourceFile := fileName
    language := l
    buildTool := p.buildTool
    executableExtension := p.executableExtension
    toolchainNote := p.toolchainNote
    textLength := text.length
    hardwareBinding := o.bindHardware
    licenseFingerprint :=
      if o.hasLicenseKey then some (Obfuscator.licenseFingerprint o.licenseKey)
      else none }

/-- The content of the stand-in. -/
def render (m : ExecutableMetadata) : String :=
  Text.block
    ["# Compiled executable metadata",
      "# Original file: " ++ m.sourceFile,
      "# Language: " ++ m.language.name,
      "# Build tool: " ++ m.buildTool,
      "# Obfuscated code length: " ++ toString m.textLength ++ " characters",
      "# Hardware binding: "
        ++ (if m.hardwareBinding then "enabled" else "disabled"),
      "# License: " ++
        (match m.licenseFingerprint with
          | some f => "sha256:" ++ f
          | none => "none"),
      "# Generated by: PolymorphShield",
      "",
      "# This would be a compiled executable in production",
      "# The actual compilation would be handled by " ++ m.buildTool,
      "# " ++ m.toolchainNote,
      ""]

end ExecutableMetadata

-- ============================================================ artifacts

/-- The two things a run can leave behind. -/
inductive ArtifactKind
  | source
  | executable
  deriving DecidableEq, Repr

/-- The word for a kind in reports. -/
def ArtifactKind.name : ArtifactKind → String
  | source => "source"
  | executable => "executable"

/-- What one run leaves behind, ready to be written. -/
structure ArtifactSet where
  sourceName : String
  source : String
  executable : Option (String × ExecutableMetadata)
  deriving DecidableEq, Repr

/-- A file to be written, or one that was. -/
structure Artifact where
  kind : ArtifactKind
  name : String
  content : String
  deriving DecidableEq, Repr

namespace ArtifactSet

/-- What a run over a file leaves behind. -/
def make (fileName : String) (l : Language) (reg : Registry) (text : String)
    (o : Options) :
    ArtifactSet where
  sourceName := FileName.sourceArtifact fileName
  source := text
  executable :=
    if o.generateExecutable then
      let m := ExecutableMetadata.describe fileName l reg text o
      some (FileName.executableArtifact fileName m.executableExtension, m)
    else none

/-- The files of a set, in the order in which they are written. -/
def files (s : ArtifactSet) : List Artifact :=
  ⟨.source, s.sourceName, s.source⟩ ::
    match s.executable with
    | some (name, m) => [⟨.executable, name, m.render⟩]
    | none => []

end ArtifactSet

end Obfuscator
