/-
Storing files, as a change of the disk.

What storing does to a disk, and how it ends, depends on the file
system alone. So it has a value, `FileSystem.store`: the directory is
made, and then one file after the other is put there, up to the first
that cannot be. Carrying the action out gives that disk and that end,
and whatever else changes is talk (`runOn_writeTo`), provided that those
who are told of each file do no more than talk. If they ask for no file
either, the action asks for those files alone that were tried
(`asked_writeTo`), the one that was refused included.
-/
import Obfuscator.Artifact.Writer
import Obfuscator.Proofs.World.Requests
import Obfuscator.Proofs.World.Talk

namespace Obfuscator

open World (Action FileSystem Machine Path)
open World.Machine (UpToTalk)

-- =============================================================== files

/-- What is reported of a file that was written. -/
def Artifact.written (directory : String) (a : Artifact) :
    WrittenArtifact :=
  ⟨a.kind, Path.join directory a.name, a.content.utf8ByteSize⟩

/-- The path under which a file is put into a directory, and its
content. -/
def Artifact.request (directory : String) (a : Artifact) :
    String × String :=
  (Path.join directory a.name, a.content)

namespace World.FileSystem

variable (F : FileSystem)

/-- Puts files into a directory that is there, up to the first that
cannot be put there. -/
def putFiles (directory : String) :
    List Artifact → F.State →
      F.State × Except ArtifactError (List WrittenArtifact)
  | [], d => (d, .ok [])
  | a :: rest, d =>
    let path := Path.join directory a.name
    match F.writeText d path a.content with
    | (left, .error reason) => (left, .error (.file path reason))
    | (made, .ok ()) =>
      (putFiles directory rest made).map id
        (.map (a.written directory :: ·))

/-- The files that are tried: those that can be put into a directory,
and the first that cannot. -/
def tried (directory : String) :
    List Artifact → F.State → List Artifact
  | [], _ => []
  | a :: rest, d =>
    a :: match F.writeText d (Path.join directory a.name) a.content with
      | (_, .error _) => []
      | (made, .ok ()) => tried directory rest made

/-- Makes a directory and puts files into it. -/
def store (d : F.State) (directory : String) (files : List Artifact) :
    F.State × Except ArtifactError (List WrittenArtifact) :=
  match F.createDirectories d directory with
  | (left, .error reason) => (left, .error (.directory directory reason))
  | (made, .ok ()) => F.putFiles directory files made

end World.FileSystem

-- ========================================================== the action

variable {F : FileSystem} {log : Log.Record → Action Unit}

/-- Writing files one after the other puts them on the disk, and else
only talks. -/
theorem runOn_writeArtifacts (hlog : ∀ r, (log r).OnlyTalks)
    (directory : String) :
    ∀ (files : List Artifact) (m : Machine F),
      UpToTalk { m with disk := (F.putFiles directory files m.disk).1 }
          ((writeArtifacts log directory files).runOn m).1
        ∧ ((writeArtifacts log directory files).runOn m).2
          = (F.putFiles directory files m.disk).2 := by
  intro files
  induction files with
  | nil => intro m; exact ⟨UpToTalk.refl m, rfl⟩
  | cons a rest ih =>
      intro m
      rw [writeArtifacts, Action.runOn_bind, FileSystem.putFiles]
      simp only [Action.runOn]
      cases hwrite :
          F.writeText m.disk (Path.join directory a.name) a.content with
      | mk made result =>
          cases result with
          | error reason => exact ⟨UpToTalk.refl _, rfl⟩
          | ok u =>
              simp only [Action.runOn_bind]
              have htold := hlog (a.written directory).note
                { m with disk := made }
              obtain ⟨htalk, hend⟩ :=
                ih ((log (a.written directory).note).runOn
                  { m with disk := made }).1
              rw [htold.disk] at htalk hend
              have hchanged := (htold.withDisk
                (F.putFiles directory rest made).1).trans htalk
              unfold Artifact.written at hend hchanged
              rw [hend, Prod.map_snd]
              cases (F.putFiles directory rest made).2 with
              | error e => exact ⟨hchanged, rfl⟩
              | ok more => exact ⟨hchanged, rfl⟩

/-- Storing a set changes the disk as `FileSystem.store` says, ends as
that does, and else only talks. -/
theorem runOn_writeTo (hlog : ∀ r, (log r).OnlyTalks) (s : ArtifactSet)
    (directory : String) (m : Machine F) :
    UpToTalk
        { m with disk := (F.store m.disk directory s.files).1 }
        ((s.writeTo log directory).runOn m).1
      ∧ ((s.writeTo log directory).runOn m).2
        = (F.store m.disk directory s.files).2 := by
  rw [ArtifactSet.writeTo, Action.runOn_bind, FileSystem.store]
  simp only [Action.runOn]
  cases hmade : F.createDirectories m.disk directory with
  | mk made result =>
      cases result with
      | error reason => exact ⟨UpToTalk.refl _, rfl⟩
      | ok u =>
          exact runOn_writeArtifacts hlog directory s.files
            { m with disk := made }

-- ======================================================== its requests

/-- Those who are told ask for no file. -/
def IsSilent (log : Log.Record → Action Unit) : Prop :=
  ∀ ⦃F : FileSystem⦄ (r : Log.Record) (m : Machine F),
    (log r).asked m = []

/-- Writing files one after the other asks for those that are tried. -/
theorem asked_writeArtifacts (hlog : ∀ r, (log r).OnlyTalks)
    (hsilent : IsSilent log) (directory : String) :
    ∀ (files : List Artifact) (m : Machine F),
      (writeArtifacts log directory files).asked m
        = (F.tried directory files m.disk).map
            (Artifact.request directory) := by
  intro files
  induction files with
  | nil => intro m; rfl
  | cons a rest ih =>
      intro m
      rw [writeArtifacts, Action.asked_bind, FileSystem.tried]
      simp only [Action.runOn, Action.asked]
      cases hwrite :
          F.writeText m.disk (Path.join directory a.name) a.content with
      | mk made result =>
          cases result with
          | error reason => rfl
          | ok u =>
              have htold := hlog (a.written directory).note
                { m with disk := made }
              have hrest := ih ((log (a.written directory).note).runOn
                { m with disk := made }).1
              rw [htold.disk] at hrest
              have hquiet := hsilent (a.written directory).note
                { m with disk := made }
              unfold Artifact.written at hrest hquiet
              simp only [Action.asked_bind, hquiet, hrest]
              -- nothing more is asked for, whatever the others end with
              have hend : ∀ l : List (String × String),
                  [] ++ ([] ++ (l ++ [])) = l := fun l =>
                List.append_nil l
              split
              · exact congrArg (_ :: ·) (hend _)
              · exact congrArg (_ :: ·) (hend _)

/-- Storing a set asks for nothing if the directory is refused, and else
for the files that are tried. -/
theorem asked_writeTo (hlog : ∀ r, (log r).OnlyTalks)
    (hsilent : IsSilent log) (s : ArtifactSet) (directory : String)
    (m : Machine F) :
    (s.writeTo log directory).asked m
      = match F.createDirectories m.disk directory with
        | (_, .error _) => []
        | (made, .ok ()) =>
          (F.tried directory s.files made).map
            (Artifact.request directory) := by
  rw [ArtifactSet.writeTo, Action.asked_bind]
  simp only [Action.runOn, Action.asked]
  cases hmade : F.createDirectories m.disk directory with
  | mk made result =>
      cases result with
      | error reason => rfl
      | ok u =>
          exact asked_writeArtifacts hlog hsilent directory s.files
            { m with disk := made }

end Obfuscator
