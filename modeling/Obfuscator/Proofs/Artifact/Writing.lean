/-
Writing the artifacts of a run.

If the writing ends well, each file of a set is reported, and the last
one of every name has its text (`written_and_last_of_writeTo`). A run
has at most two names. If they differ, both files have what is theirs;
if they are one, the text is gone and the stand-in is at the path that
was reported for the text. All of this holds wherever texts are kept
that were written.
-/
import Obfuscator.Proofs.Artifact.Names
import Obfuscator.Proofs.Artifact.Putting

namespace Obfuscator

open World (Action FileSystem Machine Path)

variable {F : FileSystem} {m m' : Machine F} {directory : String}
  {written : List WrittenArtifact}

-- ============================================================= the set

/-- If a set was written, each of its files is reported, and the last
one of every name has its text. -/
theorem written_and_last_of_writeTo (T : F.Texts) {s : ArtifactSet}
    {log : Log.Record → Action Unit} (hlog : ∀ r, (log r).OnlyTalks)
    (hnames : ∀ a ∈ s.files, Path.IsName a.name)
    (h : (s.writeTo log directory).runOn m = (m', .ok written)) :
    written = s.files.map (Artifact.written directory)
      ∧ ∀ a : Artifact, a.IsLast s.files →
        T.textAt m'.disk (Path.join directory a.name)
          = some a.content := by
  obtain ⟨htalk, hend⟩ := runOn_writeTo hlog s directory m
  rw [h] at htalk hend
  obtain ⟨made, -, hputs, hwritten⟩ := puts_of_store_eq_ok hend.symm
  refine ⟨hwritten, fun a ha => ?_⟩
  have hdisk : m'.disk = (F.store m.disk directory s.files).1 :=
    htalk.disk
  rw [hdisk]
  exact T.textAt_of_puts hputs hnames ha

/-- The files of a run. -/
theorem files_make (fileName text : String) (l : Language) (reg : Registry)
    (o : Options) :
    (ArtifactSet.make fileName l reg text o).files
      = ⟨.source, FileName.sourceArtifact fileName, text⟩
        :: if o.generateExecutable then
            [⟨.executable,
              FileName.executableArtifact fileName
                (reg.profile l).executableExtension,
              (ExecutableMetadata.describe fileName l reg text o).render⟩]
          else [] := by
  unfold ArtifactSet.make ArtifactSet.files
  cases o.generateExecutable with
  | false => rfl
  | true => rfl

/-- A source without a slash in its name gives names to both files. -/
theorem isName_of_mem_files_make {fileName : String}
    (h : '/' ∉ fileName.toList) (text : String) (l : Language) (o : Options) :
    ∀ a ∈ (ArtifactSet.make fileName l Registry.standard text o).files,
      Path.IsName a.name := by
  have hsource := FileName.isName_sourceArtifact h
  have hexecutable := FileName.isName_executableArtifact h
    (Registry.slash_notMem_executableExtension l)
  rw [files_make]
  split
  · simp [hsource, hexecutable]
  · simp [hsource]

/-- The stand-in is written last, so its path leads to it whatever the
names are. -/
theorem textAt_executable (T : F.Texts) {fileName text : String}
    {l : Language} {o : Options} (logger : Log.Logger)
    (hname : '/' ∉ fileName.toList)
    (hgenerate : o.generateExecutable = true)
    (h : ((ArtifactSet.make fileName l Registry.standard text o).writeTo
      logger.note directory).runOn m = (m', .ok written)) :
    T.textAt m'.disk
        (Path.join directory (FileName.executableArtifact fileName
          (Registry.standard.profile l).executableExtension))
      = some (ExecutableMetadata.describe fileName l Registry.standard
          text o).render := by
  obtain ⟨-, hlast⟩ := written_and_last_of_writeTo T
    logger.onlyTalks_note (isName_of_mem_files_make hname text l o) h
  rw [files_make, hgenerate] at hlast
  have hstandIn := hlast _ ⟨[_], [], rfl, by simp⟩
  exact hstandIn

/-- What the file of a kind is to hold. -/
def ArtifactKind.content (text : String) (m : ExecutableMetadata) :
    ArtifactKind → String
  | source => text
  | executable => m.render

/-- The files of a run that are written keep what is theirs, under names
of their own, exactly if the names do not clash. If they do, the
stand-in is what every path leads to. -/
theorem kept_iff_not_namesClash (T : F.Texts)
    (fileName text directory : String) (l : Language) (o : Options)
    (logger : Log.Logger) (hname : '/' ∉ fileName.toList)
    (h : ((ArtifactSet.make fileName l Registry.standard text o).writeTo
      logger.note directory).runOn m = (m', .ok written)) :
    written.map WrittenArtifact.kind
        = .source ::
          (if o.generateExecutable then [.executable] else [])
      ∧ ((written.map WrittenArtifact.path).Nodup
          ∧ (∀ a ∈ written, T.textAt m'.disk a.path
            = some (a.kind.content text (ExecutableMetadata.describe
                fileName l Registry.standard text o)))
        ↔ ¬NamesClash fileName l o)
      ∧ (NamesClash fileName l o → ∀ a ∈ written,
          T.textAt m'.disk a.path
            = some (ExecutableMetadata.describe fileName l
                Registry.standard text o).render) := by
  have hsource := FileName.isName_sourceArtifact hname
  have hexecutable := FileName.isName_executableArtifact hname
    (Registry.slash_notMem_executableExtension l)
  obtain ⟨rfl, hlast⟩ := written_and_last_of_writeTo T
    logger.onlyTalks_note (isName_of_mem_files_make hname text l o) h
  rw [files_make] at hlast ⊢
  unfold NamesClash
  cases hgenerate : o.generateExecutable with
  | false =>
      rw [hgenerate] at hlast
      have htext := hlast _ ⟨[], [], rfl, by simp⟩
      simp [Artifact.written, ArtifactKind.content, htext]
  | true =>
      rw [hgenerate] at hlast
      have hstandIn := textAt_executable T logger hname hgenerate h
      rw [← FileName.sourceArtifact_eq_executableArtifact_iff]
      by_cases hclash : FileName.sourceArtifact fileName
          = FileName.executableArtifact fileName
            (Registry.standard.profile l).executableExtension
      · refine ⟨rfl, ⟨?_, fun hnot => absurd ⟨rfl, hclash⟩ hnot⟩,
          fun _ => ?_⟩
        · rintro ⟨hdistinct, -⟩
          simp [Artifact.written, hclash] at hdistinct
        · simp [Artifact.written, hclash, hstandIn]
      · have hpaths :
            Path.join directory (FileName.sourceArtifact fileName)
              ≠ Path.join directory
                (FileName.executableArtifact fileName
                  (Registry.standard.profile l).executableExtension) :=
          fun hpath =>
            hclash (Path.join_injective hsource hexecutable hpath)
        have htext :=
          hlast _ ⟨[], [_], rfl, by simpa using Ne.symm hclash⟩
        refine ⟨rfl, ⟨fun _ hboth => hclash hboth.2,
          fun _ => ⟨?_, ?_⟩⟩, fun hboth => absurd hboth.2 hclash⟩
        · simpa [Artifact.written] using hpaths
        · simp [Artifact.written, ArtifactKind.content, htext, hstandIn]

-- ============================================================== a trial

/-- Writing both files of a run on an empty disk, told to nobody. -/
def trialWrite (fileName text : String) (l : Language) :
    World × Except ArtifactError (List WrittenArtifact) :=
  ((ArtifactSet.make fileName l Registry.standard text
      { generateExecutable := true }).writeTo
    (Log.Logger.note ⟨{}, []⟩) "out").simulate
      { secret := "", runId := "" }

/-- A trial is a run on the machine whose file system is the tree. -/
theorem runOn_of_trialWrite {fileName text : String} {l : Language}
    (h : (trialWrite fileName text l).2 = .ok written) :
    ((ArtifactSet.make fileName l Registry.standard text
        { generateExecutable := true }).writeTo
      (Log.Logger.note ⟨{}, []⟩) "out").runOn
        (World.asMachine { secret := "", runId := "" })
      = ((trialWrite fileName text l).1.asMachine, .ok written) := by
  unfold trialWrite at h ⊢
  rw [Action.runOn_asMachine, h]

/-- A Rust source and its stand-in are both kept. -/
theorem trialWrite_rust_kept :
    ∃ written, (trialWrite "main.rs" "mod a;" .rust).2 = .ok written
      ∧ (written.map WrittenArtifact.path).Nodup
      ∧ ∀ a ∈ written,
        (trialWrite "main.rs" "mod a;" .rust).1.disk.readText a.path
          = .ok (a.kind.content "mod a;"
              (ExecutableMetadata.describe "main.rs" .rust
                Registry.standard "mod a;"
                { generateExecutable := true })) := by
  have hrun : (trialWrite "main.rs" "mod a;" .rust).2
      = .ok [⟨.source, "out/main_obfuscated.rs", 6⟩,
          ⟨.executable, "out/main_obfuscated.exe", 349⟩] := by
    decide +kernel
  obtain ⟨-, hkept, -⟩ :=
    kept_iff_not_namesClash FileSystem.textsTree "main.rs" "mod a;" "out"
      .rust { generateExecutable := true } ⟨{}, []⟩ (by decide)
      (runOn_of_trialWrite hrun)
  obtain ⟨hdistinct, htexts⟩ := hkept.2 (by decide)
  exact ⟨_, hrun, hdistinct, fun a ha =>
    FileSystem.textAt_textsTree.1 (htexts a ha)⟩

/-- Of a shell script and its stand-in both are reported, under one
path, and the script is lost. -/
theorem trialWrite_shell_lost :
    ∃ written, (trialWrite "build.sh" "echo" .shell).2 = .ok written
      ∧ ¬(written.map WrittenArtifact.path).Nodup
      ∧ ∃ a ∈ written, a.kind = .source
        ∧ (trialWrite "build.sh" "echo" .shell).1.disk.readText a.path
          ≠ .ok "echo" := by
  have hrun : (trialWrite "build.sh" "echo" .shell).2
      = .ok [⟨.source, "out/build_obfuscated.sh", 4⟩,
          ⟨.executable, "out/build_obfuscated.sh", 352⟩] := by
    decide +kernel
  have hstandIn := FileSystem.textAt_textsTree.1
    (textAt_executable FileSystem.textsTree ⟨{}, []⟩
      (by decide : '/' ∉ "build.sh".toList) rfl
      (runOn_of_trialWrite hrun))
  have hpath : Path.join "out" (FileName.executableArtifact "build.sh"
      (Registry.standard.profile .shell).executableExtension)
        = "out/build_obfuscated.sh" := by
    decide
  refine ⟨_, hrun, by decide, _, List.mem_cons_self, rfl, ?_⟩
  rw [hpath] at hstandIn
  intro hecho
  exact absurd (Except.ok.inj (hstandIn.symm.trans hecho))
    (by decide +kernel)

end Obfuscator
