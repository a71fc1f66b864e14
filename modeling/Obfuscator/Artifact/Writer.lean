/-
Writing what a run leaves behind into a directory.

The directory is made first. Then the files are written in order, and the
first one that cannot be written ends it; those before it stay.
-/
import Obfuscator.Artifact
import Obfuscator.Log.Record
import Obfuscator.World.Action
import Obfuscator.World.Path

namespace Obfuscator

open World (Action OsError Path)

/-- A file that was written. -/
structure WrittenArtifact where
  kind : ArtifactKind
  path : String
  bytes : Nat
  deriving DecidableEq, Repr

/-- Why the artifacts of a run were not all written. -/
inductive ArtifactError
  | directory (path : String) (reason : OsError)
  | file (path : String) (reason : OsError)
  deriving DecidableEq, Repr

def ArtifactError.message : ArtifactError → String
  | directory path reason =>
    "Failed to create output directory " ++ path ++ ": " ++ reason.message
  | file path reason =>
    "Failed to write artifact " ++ path ++ ": " ++ reason.message

/-- The record of a file that was written. -/
def WrittenArtifact.note (w : WrittenArtifact) : Log.Record where
  level := .info
  target := "polymorph::artifacts"
  message := "Wrote artifact"
  fields := [("path", .plain w.path), ("bytes", .number w.bytes)]

/-- Writes files into a directory that is there, telling `log` of each. -/
def writeArtifacts (log : Log.Record → Action Unit) (directory : String) :
    List Artifact → Action (Except ArtifactError (List WrittenArtifact))
  | [] => pure (.ok [])
  | a :: rest => do
    let path := Path.join directory a.name
    match ← Action.writeText path a.content .done with
    | .error reason => return .error (.file path reason)
    | .ok () =>
      let w : WrittenArtifact := ⟨a.kind, path, a.content.utf8ByteSize⟩
      log w.note
      match ← writeArtifacts log directory rest with
      | .error e => return .error e
      | .ok more => return .ok (w :: more)

/-- Writes the files of a set into a directory, which is made if it is
missing. -/
def ArtifactSet.writeTo (s : ArtifactSet) (log : Log.Record → Action Unit)
    (directory : String) :
    Action (Except ArtifactError (List WrittenArtifact)) := do
  match ← Action.createDirectories directory .done with
  | .error reason => return .error (.directory directory reason)
  | .ok () => writeArtifacts log directory s.files

end Obfuscator
