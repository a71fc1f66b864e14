/-
A report tells what happened.

There is one report on every run over a source, published or not
(`buildReport`). So it can be held against the run (`Report.AgreesWith`):
the lengths against the source and the text that the passes ended with, the
steps against the attempts of the passes, the files against what was stored,
and the error against whatever went wrong.

# The engine

What the report is put together from is known, for any passes of different
kinds (`exists_report_of_buildReport`). So the agreement is read off what
became of the end of a run (`Delivery.ofResult`), by cases on how the passes
ended and on how the files were stored. Only where the files lie is a matter
of paths: their names come from the file name of the source, and a path that
was read has one.
-/
import Obfuscator.Proofs.Artifact.Writing
import Obfuscator.Proofs.Program.Output

namespace Obfuscator

open World (FileSystem Machine Path)
open World.Machine (UpToTalk)

variable {F : FileSystem}
variable (logger : Log.Logger) (o : ObfuscateRequest) (c : Resolved)
  (source : String)

-- ============================================================== agreement

/-- What a text and its stand-in are to be written as. -/
def ObfuscateRequest.artifacts (o : ObfuscateRequest) (c : Resolved)
    (text : String) :
    ArtifactSet :=
  ArtifactSet.make o.fileName c.language Registry.standard text c.options

/-- The second path leads to a name in the directory that the first one
leads to. -/
def World.Path.LiesIn (directory path : String) : Prop :=
  ∃ n, Path.ofString path
    = { absolute := (Path.ofString directory).absolute
        segments := (Path.ofString directory).segments ++ [.name n]
        directoryOnly := false }

/-- A report agrees with the run of some passes over a source, on a machine
with a given disk. -/
structure Report.AgreesWith (report : Report) (o : ObfuscateRequest)
    (c : Resolved) (source : String) (d : F.State) (p : Pipeline) : Prop where
  /-- The length of what was read. -/
  inputLength : report.inputLength = source.length
  /-- The length of what the run ended with. -/
  outputLength : report.outputLength
    = match (p.runAs source c.options c.language).result with
      | .ok text => text.length
      | .error _ => 0
  /-- The stand-in for an executable tells of the same length. -/
  standIn : ∀ text, (p.runAs source c.options c.language).result = .ok text →
    ∀ e ∈ (o.artifacts c text).executable, e.2.textLength = report.outputLength
  /-- Every step is that of an attempt, in their order. -/
  steps : ∃ h, IsHistory (p.context c.options c.language) p.passes source h
    ∧ List.Forall₂ (Step.TellsOf (p.context c.options c.language))
      report.steps h
  /-- What went wrong: a fault, or what stood in the way of the files. -/
  error : report.error
    = match (p.runAs source c.options c.language).result with
      | .error f => some f.message
      | .ok text =>
        match (o.keep c text d).2 with
        | .error e => some e.message
        | .ok _ => none
  /-- Without a directory, and if something went wrong, there are no files. -/
  noArtifacts : o.outputDirectory = none ∨ report.error ≠ none →
    report.artifacts = []
  /-- Otherwise the files are those of the text that the run ended with, and
  were stored. -/
  artifacts : ∀ directory, o.outputDirectory = some directory →
    report.error = none →
    ∃ text, (p.runAs source c.options c.language).result = .ok text
      ∧ (F.store d directory (o.artifacts c text).files).2
        = .ok report.artifacts
      ∧ report.artifacts = (o.artifacts c text).files.map
        (Artifact.written directory)
      ∧ report.artifacts.map WrittenArtifact.kind
        = .source :: if c.options.generateExecutable then [.executable] else []
  /-- They are in that directory. -/
  paths : ∀ directory, o.outputDirectory = some directory →
    ∀ w ∈ report.artifacts, Path.LiesIn directory w.path

/-- The name of a file has no slash. -/
theorem ObfuscateRequest.slash_notMem_fileName {n : String}
    (h : Path.fileName? o.file = some n) :
    '/' ∉ o.fileName.toList := by
  rw [fileName, h]
  exact Path.slash_notMem_of_fileName? h

/-- A stand-in tells of the length of the text. -/
theorem ObfuscateRequest.textLength_of_mem_executable {text : String}
    {e : String × ExecutableMetadata}
    (h : e ∈ (o.artifacts c text).executable) :
    e.2.textLength = text.length := by
  simp only [artifacts, ArtifactSet.make, Option.mem_def] at h
  split at h
  · cases h
    rfl
  · cases h

/-- A run leaves the text, and then the stand-in if there is to be one. -/
theorem ObfuscateRequest.map_kind_artifacts (text : String) :
    (o.artifacts c text).files.map Artifact.kind
      = .source
        :: if c.options.generateExecutable then [.executable] else [] := by
  rw [artifacts, files_make]
  cases c.options.generateExecutable with
  | false => rfl
  | true => rfl

/-- The files of a source whose name has no slash in it lie in the
directory. -/
theorem ObfuscateRequest.liesIn_of_mem_artifacts
    (hname : '/' ∉ o.fileName.toList) {text directory : String} {a : Artifact}
    (ha : a ∈ (o.artifacts c text).files) :
    Path.LiesIn directory (a.written directory).path :=
  ⟨a.name, Path.ofString_join
    (isName_of_mem_files_make hname text c.language c.options a ha) directory⟩

variable {o c source} {d : F.State} {result : Except StepFailure String}

/-- The length that is told is that of the text, and nothing if there is
none. -/
theorem Delivery.outputLength_ofResult (o : ObfuscateRequest) (c : Resolved)
    (d : F.State) (result : Except StepFailure String) :
    (ofResult o c d result).outputLength
      = match result with
        | .ok text => text.length
        | .error _ => 0 := by
  cases result with
  | error f => rfl
  | ok text =>
      rw [ofResult]
      cases (o.keep c text d).2 with
      | error e => rfl
      | ok written => rfl

/-- The error that is told is that of the run, or else that of the
storing. -/
theorem Delivery.error_ofResult (o : ObfuscateRequest) (c : Resolved)
    (d : F.State) (result : Except StepFailure String) :
    (ofResult o c d result).error
      = match result with
        | .error f => some f.message
        | .ok text =>
          match (o.keep c text d).2 with
          | .error e => some e.message
          | .ok _ => none := by
  cases result with
  | error f => rfl
  | ok text =>
      dsimp only [ofResult]
      cases (o.keep c text d).2 with
      | error e => rfl
      | ok written => rfl

/-- If nothing went wrong, the files are those that were kept. -/
theorem Delivery.exists_of_error_eq_none
    (h : (ofResult o c d result).error = none) :
    ∃ text, result = .ok text
      ∧ (o.keep c text d).2 = .ok (ofResult o c d result).artifacts := by
  cases result with
  | error f => cases h
  | ok text =>
      refine ⟨text, rfl, ?_⟩
      rw [ofResult] at h ⊢
      cases hkeep : (o.keep c text d).2 with
      | error e =>
          rw [hkeep] at h
          cases h
      | ok written => rfl

/-- If something went wrong, no files are told of. -/
theorem Delivery.artifacts_eq_nil (h : (ofResult o c d result).error ≠ none) :
    (ofResult o c d result).artifacts = [] := by
  cases result with
  | error f => rfl
  | ok text =>
      rw [ofResult] at h ⊢
      cases hkeep : (o.keep c text d).2 with
      | error e => rfl
      | ok written =>
          rw [hkeep] at h
          exact absurd rfl h

/-- If nothing went wrong, the files of the text are told of, and they were
stored. -/
theorem Delivery.artifacts_eq_map (h : (ofResult o c d result).error = none)
    {directory : String} (hdirectory : o.outputDirectory = some directory) :
    ∃ text, result = .ok text
      ∧ (F.store d directory (o.artifacts c text).files).2
        = .ok (ofResult o c d result).artifacts
      ∧ (ofResult o c d result).artifacts
        = (o.artifacts c text).files.map (Artifact.written directory) := by
  obtain ⟨text, hresult, hkept⟩ := exists_of_error_eq_none h
  rw [ObfuscateRequest.keep, hdirectory] at hkept
  obtain ⟨-, -, -, hwritten⟩ := puts_of_store_eq_ok hkept
  exact ⟨text, hresult, hkept, hwritten⟩

/-- A report that tells what became of the end of a run agrees with the run. -/
theorem agreesWith_report {p : Pipeline} {m : Machine F} {steps : List Step}
    {h : List Attempt} (hname : '/' ∉ o.fileName.toList)
    (hh : IsHistory (p.context c.options c.language) p.passes source h)
    (hsteps : List.Forall₂ (Step.TellsOf (p.context c.options c.language))
      steps h)
    (stoppedAt : Instant) :
    (o.report m c source steps stoppedAt (.ofResult o c d
      (p.runAs source c.options c.language).result)).AgreesWith o c source d
        p where
  inputLength := rfl
  outputLength := Delivery.outputLength_ofResult o c d _
  standIn text htext e he := by
    rw [o.textLength_of_mem_executable c he, htext]
    exact (Delivery.outputLength_ofResult o c d (.ok text)).symm
  steps := ⟨h, hh, hsteps⟩
  error := Delivery.error_ofResult o c d _
  noArtifacts hno := by
    by_cases herror : (Delivery.ofResult o c d
        (p.runAs source c.options c.language).result).error = none
    · obtain ⟨text, -, hkept⟩ := Delivery.exists_of_error_eq_none herror
      rw [ObfuscateRequest.keep, hno.resolve_right fun h => h herror] at hkept
      exact (Except.ok.inj hkept).symm
    · exact Delivery.artifacts_eq_nil herror
  artifacts directory hdirectory herror := by
    obtain ⟨text, hresult, hstored, hfiles⟩ :=
      Delivery.artifacts_eq_map herror hdirectory
    refine ⟨text, hresult, hstored, hfiles, ?_⟩
    rw [← o.map_kind_artifacts c text]
    exact (congrArg (List.map WrittenArtifact.kind) hfiles).trans
      (List.map_map ..)
  paths directory hdirectory w hw := by
    by_cases herror : (Delivery.ofResult o c d
        (p.runAs source c.options c.language).result).error = none
    · obtain ⟨text, -, -, hfiles⟩ :=
        Delivery.artifacts_eq_map herror hdirectory
      have hmem : w ∈ (o.artifacts c text).files.map
          (Artifact.written directory) := hfiles ▸ hw
      obtain ⟨a, ha, rfl⟩ := List.mem_map.1 hmem
      exact o.liesIn_of_mem_artifacts c hname ha
    · have hnone : w ∈ ([] : List WrittenArtifact) :=
        Delivery.artifacts_eq_nil herror ▸ hw
      exact absurd hnone List.not_mem_nil

-- ============================================================= the program

/-- How the program ends is told by the report. -/
theorem code_closeWith (quiet : Bool) (report : Report) (m : Machine F) :
    ((closeWith o quiet report).runOn m).2.code = 0 ↔ report.error = none := by
  rw [(runOn_closeWith o m quiet report).2, Report.succeeded]
  cases report.error with
  | none => simp [Exit.code]
  | some e => simp [Exit.code]

/-- What was accepted, and has a source, comes to a run. -/
theorem Request.exists_runOver {r : Request} {m : Machine F}
    (notice : DocumentNotice) (hcommand : r.command = .obfuscate o)
    (haccepted : ¬r.IsRefused m) (hbegins : o.Begins m c source) :
    ∃ (logger : Log.Logger) (before : Machine F), UpToTalk m before
      ∧ (r.execute notice).runOn m
        = (runOver logger o r.quiet c source).runOn before := by
  obtain ⟨logger, noted, hnoted, hexecute⟩ :=
    execute_of_not_hasBadLevel notice fun hbad => haccepted (.inl hbad)
  obtain ⟨before, hbefore, hruns⟩ :=
    obfuscate_of_resolved_eq_ok logger r.quiet notice
      (hnoted.resolved.trans hbegins.resolved_eq)
  refine ⟨logger, before, hnoted.trans hbefore, ?_⟩
  rw [hexecute, hcommand]
  dsimp only
  rw [hruns, hnoted.disk, hbegins.read]

/-- A report that agrees with a run that ended with a text has a step for
every enabled pass. -/
theorem Report.AgreesWith.map_id_steps {report : Report} {p : Pipeline}
    {text : String} (h : report.AgreesWith o c source d p)
    (hresult : (p.runAs source c.options c.language).result = .ok text) :
    report.steps.map Step.id = enabledIds (p.context c.options c.language)
      p.passes := by
  obtain ⟨history, hh, hsteps⟩ := h.steps
  rw [Pipeline.result_runAs, result_runPasses hh] at hresult
  rw [map_id_of_forall₂ hsteps, enabledIds,
    ← hh.map_pass_of_ending_eq_ok hresult, List.map_map]
  rfl

/-- The ids of the built-in passes that are enabled, in running order. -/
theorem Pass.enabledIds_standard (ctx : PassContext) (secret : String)
    (engine : PatternEngine) :
    enabledIds ctx (standard secret engine)
      = (PassKind.all.filter (·.isEnabled ctx.options)).map PassKind.id := by
  have hkinds : PassKind.all = (standard secret engine).map Pass.kind := rfl
  rw [hkinds, List.filter_map, List.map_map]
  rfl

/-- The report on a run. A request to obfuscate that is accepted and has a
source builds one report, and closes with it. The report agrees with the run
and with what was stored; it has one step for each enabled pass, in running
order, all of them finished; and it tells of an error exactly if the program
does not end with 0. The built-in passes never end in a fault; with passes
in their place that do, of different kinds, the report would agree with
their run just as well. -/
theorem report_runProgram {words : List String} {r : Request}
    (notice : DocumentNotice) (m : Machine F) (hnames : F.ReadsOnlyNames)
    (hread : CommandLine.read words = .ok r)
    (hcommand : r.command = .obfuscate o) (haccepted : ¬r.IsRefused m)
    (hbegins : o.Begins m c source) :
    ∃ (logger : Log.Logger) (before : Machine F), UpToTalk m before
      ∧ (runProgram words notice).runOn m
        = (buildReport logger o c source o.pipeline
          >>= closeWith o r.quiet).runOn before
      ∧ (let report :=
        ((buildReport logger o c source o.pipeline).runOn before).2
        report.AgreesWith o c source m.disk (o.pipeline m.secret)
          ∧ report.steps.map Step.id
            = (PassKind.all.filter (·.isEnabled c.options)).map PassKind.id
          ∧ (∀ s ∈ report.steps, s.isFinished = true)
          ∧ (report.error = none
            ↔ ((runProgram words notice).runOn m).2.code = 0))
      ∧ ∀ pipeline : (secret : String) → Pipeline,
        (∀ secret, ((pipeline secret).passes.map Pass.kind).Nodup) →
          ((buildReport logger o c source pipeline).runOn before).2.AgreesWith
            o c source m.disk
            (pipeline m.secret) := by
  obtain ⟨logger, before, htalk, hruns⟩ :=
    Request.exists_runOver notice hcommand haccepted hbegins
  have hprogram : (runProgram words notice).runOn m
      = (buildReport logger o c source o.pipeline
        >>= closeWith o r.quiet).runOn before := by
    rw [runProgram_of_read hread, hruns, runOn_runOver]
  obtain ⟨n, hn⟩ := hnames _ _ _ hbegins.read
  have hagrees : ∀ pipeline : (secret : String) → Pipeline,
      (∀ secret, ((pipeline secret).passes.map Pass.kind).Nodup) →
        ((buildReport logger o c source pipeline).runOn before).2.AgreesWith o
          c source m.disk
          (pipeline m.secret) := by
    intro pipeline hkinds
    obtain ⟨steps, stoppedAt, h, hh, hsteps, hreport, -⟩ :=
      exists_report_of_buildReport logger o c before source hkinds
    rw [htalk.secret] at hh hsteps hreport
    rw [hreport, htalk.disk]
    exact agreesWith_report (o.slash_notMem_fileName hn) hh hsteps stoppedAt
  have hown := hagrees o.pipeline fun secret =>
    Pass.nodup_kind_standard secret .standard
  obtain ⟨text, hresult⟩ :=
    o.exists_result_eq_ok m.secret source c.options c.language
  refine ⟨logger, before, htalk, hprogram, ⟨hown, ?_, ?_, ?_⟩, hagrees⟩
  · rw [hown.map_id_steps hresult]
    exact Pass.enabledIds_standard _ m.secret .standard
  · obtain ⟨h, -, hsteps⟩ := hown.steps
    exact isFinished_of_forall₂ hsteps
  · rw [hprogram, World.Action.runOn_bind]
    exact (code_closeWith r.quiet _ _).symm

/-- Asks for an executable, and for files in a directory that is not there
yet. -/
def keepingWords : List String :=
  ["obfuscate", "a.py", "--exe", "--output-dir", "out"]

/-- What these words ask for. -/
def keepingRequest : ObfuscateRequest where
  file := "a.py"
  executable := true
  outputDirectory := some "out"

/-- What this request comes to. -/
def keepingResolved : Resolved where
  options := { generateExecutable := true }
  language := .python

theorem read_keepingWords :
    CommandLine.read keepingWords
      = .ok { command := .obfuscate keepingRequest } := by
  decide +kernel

theorem begins_keepingRequest :
    keepingRequest.Begins trialMachine keepingResolved "x = 1\n" :=
  ⟨by decide +kernel, by decide +kernel⟩

theorem not_isRefused_keepingRequest :
    ¬Request.IsRefused { command := .obfuscate keepingRequest }
      trialMachine := by
  refine Request.not_isRefused_of_begins begins_keepingRequest rfl ?_
  rintro ⟨e, he⟩
  cases he

/-- Both files are told of, with the lengths and paths that they have. -/
theorem report_keepingWords :
    ∃ (logger : Log.Logger) (before : Machine .tree),
      let build := buildReport logger keepingRequest keepingResolved "x = 1\n"
        keepingRequest.pipeline
      let report := (build.runOn before).2
      (runProgram keepingWords).runOn trialMachine
          = (build >>= closeWith keepingRequest false).runOn before
        ∧ report.inputLength = 6 ∧ report.outputLength = 6
          ∧ report.steps.map Step.id = ["exe-gen"]
        ∧ report.artifacts
          = [⟨.source, "out/a_obfuscated.py", 6⟩,
            ⟨.executable, "out/a_obfuscated.exe", 373⟩]
        ∧ ((runProgram keepingWords).runOn trialMachine).2.code = 0 := by
  obtain ⟨logger, before, -, hruns, ⟨hagrees, hsteps, -, hcode⟩, -⟩ :=
    report_runProgram .heading trialMachine FileSystem.readsOnlyNames_tree
      read_keepingWords rfl
      not_isRefused_keepingRequest begins_keepingRequest
  have hresult : ((keepingRequest.pipeline trialMachine.secret).runAs "x = 1\n"
      keepingResolved.options keepingResolved.language).result
        = .ok "x = 1\n" := by
    decide +kernel
  have hstored :
      (keepingRequest.keep keepingResolved "x = 1\n"
        trialMachine.disk).2.toOption
      = some [⟨.source, "out/a_obfuscated.py", 6⟩,
          ⟨.executable, "out/a_obfuscated.exe", 373⟩] := by
    decide +kernel
  cases hkept : (keepingRequest.keep keepingResolved "x = 1\n"
    trialMachine.disk).2 with
  | error e =>
      rw [hkept] at hstored
      cases hstored
  | ok written =>
      rw [hkept] at hstored
      have herror := hagrees.error
      rw [hresult] at herror
      simp only [hkept] at herror
      refine ⟨logger, before, hruns, hagrees.inputLength, ?_, hsteps, ?_,
        hcode.1 herror⟩
      · rw [hagrees.outputLength, hresult]
        rfl
      · obtain ⟨text, htext, hfiles, -⟩ := hagrees.artifacts "out" rfl herror
        obtain rfl : text = "x = 1\n" :=
          Except.ok.inj (htext.symm.trans hresult)
        exact (Except.ok.inj (hfiles.symm.trans hkept)).trans
          (Option.some.inj hstored)

end Obfuscator
