/-
What storing an artifact set touches, and what its end tells.

Making the directory comes first and adds directories only, on the way
to it; then files are put into it up to the first that is refused. So on
the whole nothing but the missing directories on the way and the files
of the set can change, and each end tells how far it went
(`ArtifactSet.Stores`): the directory is to blame exactly if it cannot
be made, and then there is no file; a refused text is the only one that
was tried; before a refused stand-in the text was written in full.

This holds on every file system whose files have places. A refused file
may be left in part there; on a tree it is left as it was
(`ArtifactSet.Stores.readText_source`).
-/
import Obfuscator.Proofs.Artifact.Writing

namespace Obfuscator

open World (Action Disk FileSystem Machine OsError Path)

variable {F : FileSystem} {directory : String}
  {before made after : F.State} {a : Artifact}
  {put left tried : List Artifact} {asked : List (String × String)}
  {result : Except ArtifactError (List WrittenArtifact)}

namespace ArtifactSet

/-- The file of a set that is written first. -/
def sourceFile (s : ArtifactSet) : Artifact :=
  ⟨.source, s.sourceName, s.source⟩

/-- A file that comes after others in a set is the stand-in, after the
text. -/
theorem eq_of_files_eq_append_cons {s : ArtifactSet}
    {rest : List Artifact} (h : s.files = put ++ a :: rest) :
    (put = [] ∧ a = s.sourceFile)
      ∨ (put = [s.sourceFile] ∧ ∃ name m, s.executable = some (name, m)
        ∧ a = ⟨.executable, name, m.render⟩) := by
  unfold files at h
  cases put with
  | nil => exact .inl ⟨rfl, (List.cons.inj h).1.symm⟩
  | cons b more =>
      rw [List.cons_append] at h
      obtain ⟨rfl, hmore⟩ := List.cons.inj h
      cases hexecutable : s.executable with
      | none => simp [hexecutable] at hmore
      | some e =>
          simp only [hexecutable, List.singleton_eq_append_iff] at hmore
          rcases hmore with ⟨rfl, hrest⟩ | ⟨-, hrest⟩
          · exact .inr ⟨rfl, e.1, e.2, rfl, (List.cons.inj hrest).1⟩
          · cases hrest

/-- What may change when a set is stored in a directory, and what the way
it ends tells of it. -/
structure Stores (L : F.Layout) (s : ArtifactSet) (directory : String)
    (before : F.State) (asked : List (String × String))
    (after : F.State)
    (result : Except ArtifactError (List WrittenArtifact)) : Prop where
  /-- Nothing changes but that directories are made where the way has
  none, and files of the set that were tried are put into the last
  one. -/
  changes : ∀ p, L.lookup after p ≠ L.lookup before p →
    (p ∈ L.way before directory ∧ L.lookup before p = none
        ∧ L.lookup after p = some .directory)
      ∨ ∃ f ∈ s.files, f.request directory ∈ asked
        ∧ p = L.inside (L.placeOf before directory) f.name
  /-- The directory is to blame exactly if it cannot be made. -/
  directory_iff :
    (∃ path reason, result = .error (.directory path reason))
      ↔ ¬L.CanMake before directory
  /-- Without the directory no file is tried, and none is made or
  changed. -/
  ofDirectory : ∀ path reason,
    result = .error (.directory path reason) →
      path = directory ∧ asked = []
        ∧ ∀ p content, L.lookup after p = some (.file content)
          ↔ L.lookup before p = some (.file content)
  /-- A refused text is the only file that was tried, and before a
  refused stand-in the text was written in full; it stays if the
  stand-in has another name. -/
  ofFile : ∀ path reason, result = .error (.file path reason) →
    (path = Path.join directory s.sourceName
        ∧ asked = [(path, s.source)])
      ∨ ∃ name m, s.executable = some (name, m)
        ∧ path = Path.join directory name
        ∧ asked = [(Path.join directory s.sourceName, s.source),
            (path, m.render)]
        ∧ (∃ between,
          L.textAt between (Path.join directory s.sourceName)
              = some s.source
            ∧ F.writeText between path m.render
              = (after, .error reason))
        ∧ (name ≠ s.sourceName →
          L.textAt after (Path.join directory s.sourceName)
            = some s.source)
  /-- The text is reported and then the stand-in, if there is one, with
  the lengths of what was written. -/
  ofOk : ∀ written, result = .ok written →
    written.map WrittenArtifact.kind
        = .source ::
          (if s.executable.isSome then [.executable] else [])
      ∧ asked = s.files.map (Artifact.request directory)
      ∧ written.map (fun x => (x.path, x.bytes))
        = asked.map (fun r => (r.1, r.2.toUTF8.size))

/-- A directory that was refused. -/
theorem stores_of_refused (L : F.Layout) {s : ArtifactSet}
    {reason : OsError}
    (h : F.createDirectories before directory = (after, .error reason)) :
    s.Stores L directory before [] after
      (.error (.directory directory reason)) := by
  have hgrows := L.lookup_createDirectories before directory
  have hfiles := L.lookup_createDirectories_file_iff before directory
  have hcan := L.createDirectories_eq_ok_iff before directory
  rw [h] at hgrows hfiles hcan
  refine ⟨fun p hp => .inl (hgrows p hp), ?_, ?_, nofun, nofun⟩
  · rw [← hcan]
    exact iff_of_true ⟨_, _, rfl⟩ nofun
  · rintro path _ hresult
    cases hresult
    exact ⟨rfl, rfl, hfiles⟩

/-- A set whose text is put there, before the stand-in is refused. -/
theorem stores_source_of_refused (L : F.Layout) {s : ArtifactSet}
    {name : String} {m : ExecutableMetadata} {between : F.State}
    {reason : OsError} (hsource : Path.IsName s.sourceName)
    (hname : Path.IsName name)
    (hputs : Puts F directory made [s.sourceFile] between)
    (hwrite : F.writeText between (Path.join directory name) m.render
      = (after, .error reason)) :
    L.textAt between (Path.join directory s.sourceName)
        = some s.source
      ∧ (name ≠ s.sourceName →
        L.textAt after (Path.join directory s.sourceName)
          = some s.source) := by
  have htext : L.textAt between (Path.join directory s.sourceName)
      = some s.source :=
    L.textAt_of_puts (a := s.sourceFile) hputs
      (List.forall_mem_singleton.2 hsource) ⟨[], [], rfl, nofun⟩
  refine ⟨htext, fun hne => ?_⟩
  rw [← htext]
  exact L.textAt_of_write_of_ne (a := ⟨.executable, name, m.render⟩)
    hsource hname hne hwrite

/-- A directory that was made, and the files put into it. -/
theorem stores_of_ends (L : F.Layout) {s : ArtifactSet}
    (hnames : ∀ f ∈ s.files, Path.IsName f.name)
    (h : F.createDirectories before directory = (made, .ok ()))
    (hends : Ends F directory made s.files tried after result) :
    s.Stores L directory before
      (tried.map (Artifact.request directory)) after result := by
  have hcan := L.createDirectories_eq_ok_iff before directory
  have hplace := L.placeOf_createDirectories before directory directory
  have hgrows := L.lookup_createDirectories before directory
  rw [h] at hcan hplace hgrows
  refine ⟨fun p hp => ?_, ?_, ?_, ?_, ?_⟩
  · by_cases hput : L.lookup after p = L.lookup made p
    · rw [hput] at hp ⊢
      exact .inl (hgrows p hp)
    · obtain ⟨f, hf, hinside⟩ :=
        L.exists_tried_of_lookup_ne hends hnames hput
      rw [hplace] at hinside
      exact .inr ⟨f, hends.mem_of_mem_tried hf,
        List.mem_map_of_mem hf, hinside⟩
  · refine iff_of_false ?_ (not_not_intro (hcan.1 rfl))
    rintro ⟨path, reason, rfl⟩
    exact hends.not_directory
  · rintro path reason rfl
    exact absurd hends Ends.not_directory
  · rintro path reason rfl
    obtain ⟨put, b, rest, between, hfiles, rfl, hputs, rfl, hwrite⟩ :=
      hends.of_file
    rcases eq_of_files_eq_append_cons hfiles with
      ⟨rfl, rfl⟩ | ⟨rfl, name, m, hm, rfl⟩
    · exact .inl ⟨rfl, rfl⟩
    · have hb : ⟨.executable, name, m.render⟩ ∈ s.files :=
        hfiles ▸ List.mem_append_right _ List.mem_cons_self
      obtain ⟨htext, hstays⟩ := stores_source_of_refused L
        (hnames s.sourceFile List.mem_cons_self) (hnames _ hb) hputs hwrite
      exact .inr
        ⟨name, m, hm, rfl, rfl, ⟨between, htext, hwrite⟩, hstays⟩
  · rintro written rfl
    obtain ⟨-, rfl, rfl⟩ := hends.of_ok
    refine ⟨?_, rfl, ?_⟩
    · unfold files
      cases s.executable with
      | none => rfl
      | some e => rfl
    · rw [List.map_map, List.map_map]
      rfl

/-- Storing a set whose files have names, told to a log that is no
file. -/
theorem stores_writeTo (L : F.Layout) {s : ArtifactSet}
    {log : Log.Record → Action Unit} (hlog : ∀ r, (log r).OnlyTalks)
    (hsilent : IsSilent log) (hnames : ∀ f ∈ s.files, Path.IsName f.name)
    (directory : String) (m : Machine F) :
    s.Stores L directory m.disk ((s.writeTo log directory).asked m)
      ((s.writeTo log directory).runOn m).1.disk
      ((s.writeTo log directory).runOn m).2 := by
  obtain ⟨htalk, hend⟩ := runOn_writeTo hlog s directory m
  have hdisk : ((s.writeTo log directory).runOn m).1.disk
      = (F.store m.disk directory s.files).1 := htalk.disk
  rw [hdisk, hend, asked_writeTo hlog hsilent]
  rcases store_cases F m.disk directory s.files with
    ⟨left, reason, hmade, hstore⟩ | ⟨made, hmade, hends⟩
  · rw [hmade, hstore]
    exact stores_of_refused L hmade
  · rw [hmade]
    exact stores_of_ends L hnames hmade hends

/-- Storing what a run leaves behind, for a source without a slash in
its name. -/
theorem stores_make (L : F.Layout) {fileName : String}
    (hname : '/' ∉ fileName.toList) (text directory : String)
    (l : Language) (o : Options) (logger : Log.Logger) (m : Machine F) :
    (make fileName l Registry.standard text o).Stores L directory m.disk
      (((make fileName l Registry.standard text o).writeTo logger.note
        directory).asked m)
      (((make fileName l Registry.standard text o).writeTo logger.note
        directory).runOn m).1.disk
      (((make fileName l Registry.standard text o).writeTo logger.note
        directory).runOn m).2 :=
  stores_writeTo L logger.onlyTalks_note
    (fun _ r m => logger.asked_note r m)
    (isName_of_mem_files_make hname text l o) directory m

/-- On a tree the text is there in full after a refused stand-in,
whatever their names are. -/
theorem Stores.readText_source {s : ArtifactSet} {before after : Disk}
    {path : String} {reason : OsError}
    (h : s.Stores FileSystem.layoutTree directory before asked after
      (.error (.file path reason))) :
    (path = Path.join directory s.sourceName
        ∧ asked = [(path, s.source)])
      ∨ after.readText (Path.join directory s.sourceName)
        = .ok s.source := by
  rcases h.ofFile path reason rfl with hsource
    | ⟨name, m, -, -, -, ⟨between, htext, hwrite⟩, -⟩
  · exact .inl hsource
  · obtain rfl : after = between := Disk.eq_of_write_eq_error hwrite
    exact .inr (FileSystem.textAt_textsTree.1 htext)

/-- A world in which a directory has the name of a stand-in. -/
def occupied : World where
  disk :=
    ⟨[(["out"], .directory),
      (["main_obfuscated.exe", "out"], .directory)], []⟩
  secret := ""
  runId := ""

/-- Where the stand-in cannot be written, the text is there in full. -/
theorem stores_make_occupied :
    (((make "main.rs" .rust Registry.standard "mod a;"
          { generateExecutable := true }).writeTo
        (Log.Logger.note ⟨{}, []⟩) "out").simulate occupied).2
      = .error (.file "out/main_obfuscated.exe" .isADirectory)
    ∧ (((make "main.rs" .rust Registry.standard "mod a;"
          { generateExecutable := true }).writeTo
        (Log.Logger.note ⟨{}, []⟩) "out").simulate
          occupied).1.disk.readText "out/main_obfuscated.rs"
      = .ok "mod a;" := by
  have hrefused : (((make "main.rs" .rust Registry.standard "mod a;"
          { generateExecutable := true }).writeTo
        (Log.Logger.note ⟨{}, []⟩) "out").simulate occupied).2
      = .error (.file "out/main_obfuscated.exe" .isADirectory) := by
    decide +kernel
  have hstores := stores_make FileSystem.layoutTree
    (by decide : '/' ∉ "main.rs".toList) "mod a;" "out" .rust
    { generateExecutable := true } ⟨{}, []⟩ occupied.asMachine
  rw [Action.runOn_asMachine, hrefused] at hstores
  refine ⟨hrefused, ?_⟩
  rcases hstores.readText_source with ⟨hpath, -⟩ | htext
  · exact absurd hpath (by decide)
  · have hplace : Path.join "out"
        (make "main.rs" .rust Registry.standard "mod a;"
          { generateExecutable := true }).sourceName
        = "out/main_obfuscated.rs" := by
      decide
    rw [← hplace]
    exact htext

end ArtifactSet

end Obfuscator
