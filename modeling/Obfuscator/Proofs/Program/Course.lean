/-
How a request can go.

A request goes in one of four ways (`Request.Course`): it is refused before
anything is done; or its source cannot be read; or its source is run over,
and what comes of it is put out or kept in files and then reported; or the
languages are listed. Each way says how it ends and, up to talk, the machine
that it leaves. Nothing else can happen, on whatever machine
(`Request.course_execute`). What the program puts out and the number that it
leaves are read off the course.

# The engine

Before a run there are questions, which change nothing, and talk; so what is
settled by values (`Settings.lean`, `Layers.lean`) is settled for the
machine that the program began on. A run is two actions: one builds the
report, in which the playing is talk again, and the other closes with it
(`runOn_runOver`). The text that it delivers is always there: a run of the
built-in passes could only end in a pattern that does not compile, and the
built-in profiles have none (`ObfuscateRequest.exists_result_eq_ok`).
-/
import Obfuscator.Program
import Obfuscator.Proofs.Artifact.Storing
import Obfuscator.Proofs.Log.Settings
import Obfuscator.Proofs.Options.Layers
import Obfuscator.Proofs.Rename.Failure
import Obfuscator.Proofs.Run.Audit
import Obfuscator.Proofs.Run.Standard

namespace Obfuscator

open World (Action FileSystem Machine)
open World.Machine (UpToTalk)

variable {F : FileSystem}

-- ============================================================ what is wrong

namespace ObfuscateRequest

/-- The configuration file that counts cannot be used. -/
def HasBadConfig (o : ObfuscateRequest) (m : Machine F) : Prop :=
  ∃ e, m.fileOptions o.config = .error e

/-- The language that is asked for does not exist. -/
def HasBadLanguage (o : ObfuscateRequest) : Prop :=
  ∃ id, o.language = some id ∧ Language.ofId? id = none

/-- The file cannot be read as a text. -/
def HasNoSource (o : ObfuscateRequest) (m : Machine F) : Prop :=
  ∃ e, F.readText m.disk o.file = .error e

/-- A run over the source can begin. -/
structure Begins (o : ObfuscateRequest) (m : Machine F) (c : Resolved)
    (source : String) : Prop where
  resolved : (o.resolve.runOn m).2 = .ok c
  read : F.readText m.disk o.file = .ok source

end ObfuscateRequest

namespace Request

/-- The level for the log that counts does not exist. -/
def HasBadLevel (r : Request) (m : Machine F) : Prop :=
  ∃ e, m.levelFor r.logLevel r.verbose r.quiet = .error e

/-- What is asked for cannot be run at all. -/
def IsRefused (r : Request) (m : Machine F) : Prop :=
  r.HasBadLevel m
    ∨ ∃ o, r.command = .obfuscate o ∧ (o.HasBadConfig m ∨ o.HasBadLanguage)

end Request

-- ============================================================ what is left

namespace ObfuscateRequest

/-- What keeping a text in files does to the disk, and what it comes to. -/
def keep (o : ObfuscateRequest) (c : Resolved) (text : String) (d : F.State) :
    F.State × Except ArtifactError (List WrittenArtifact) :=
  match o.outputDirectory with
  | none => (d, .ok [])
  | some directory =>
    F.store d directory (ArtifactSet.make o.fileName c.language
      Registry.standard text c.options).files

/-- What is put out of a text. -/
def printed (o : ObfuscateRequest) (text : String) : String :=
  match o.outputDirectory with
  | none => text
  | some _ => ""

/-- What is put out of a report. -/
def published (o : ObfuscateRequest) (quiet : Bool) (report : Report) :
    String :=
  match o.outputDirectory with
  | none => ""
  | some _ =>
    if quiet ∧ o.format = .human then "" else report.render o.format ++ "\n"

end ObfuscateRequest

/-- A report that tells what came of a run over a source. -/
structure Report.TellsOf (report : Report) (o : ObfuscateRequest)
    (m : Machine F) (c : Resolved) (source text : String) : Prop where
  runId : report.runId = m.runId
  file : report.file = o.fileName
  language : report.language = c.language
  inputLength : report.inputLength = source.length
  outputLength : report.outputLength = text.length
  steps : ∃ h, IsHistory ((o.pipeline m.secret).context c.options c.language)
      (o.pipeline m.secret).passes source h
    ∧ List.Forall₂ (Step.TellsOf
      ((o.pipeline m.secret).context c.options c.language))
        report.steps h
  kept : ∀ written, (o.keep c text m.disk).2 = .ok written →
    report.artifacts = written ∧ report.error = none
  lost : ∀ e, (o.keep c text m.disk).2 = .error e →
    report.artifacts = [] ∧ report.error = some e.message

namespace Request

/-- How a request goes: the machine that it leaves, and how it ends. -/
inductive Course (r : Request) (m : Machine F) : Machine F → Exit → Prop
  | refused {after : Machine F} (refused : r.IsRefused m)
      (talk : UpToTalk m after) :
      Course r m after .refusal
  | unread {o : ObfuscateRequest} {after : Machine F}
      (command : r.command = .obfuscate o)
      (accepted : ¬r.IsRefused m) (nothing : o.HasNoSource m)
      (talk : UpToTalk m after) :
      Course r m after .failure
  | ran {o : ObfuscateRequest} {c : Resolved} {source text : String}
      {report : Report}
      {after : Machine F} (command : r.command = .obfuscate o)
      (accepted : ¬r.IsRefused m)
      (begins : o.Begins m c source)
      (result : ((o.pipeline m.secret).runAs source c.options
        c.language).result = .ok text)
      (tells : report.TellsOf o m c source text)
      (talk : UpToTalk
        { m with
          disk := (o.keep c text m.disk).1
          output := m.output ++ o.printed text ++ o.published r.quiet report }
        after) :
      Course r m after (if report.succeeded then .success else .failure)
  | listed {f : Format} {after : Machine F}
      (command : r.command = .languages f)
      (accepted : ¬r.IsRefused m)
      (talk : UpToTalk
        { m with output := m.output
                   ++ (Listing.render Registry.standard.listing f ++ "\n") }
        after) :
      Course r m after .success

end Request

-- ================================================================ the run

theorem Pass.nodup_kind_standard (secret : String) (engine : PatternEngine) :
    ((Pass.standard secret engine).map Pass.kind).Nodup := by
  have hkinds : (Pass.standard secret engine).map Pass.kind
      = [.rename, .junk, .mutate, .canary, .executable] := rfl
  rw [hkinds]
  decide

namespace ObfuscateRequest

/-- The built-in passes with the built-in profiles run to the end. -/
theorem exists_result_eq_ok (o : ObfuscateRequest) (secret source : String)
    (options : Options) (l : Language) :
    ∃ text, ((o.pipeline secret).runAs source options l).result
      = .ok text := by
  cases h : ((o.pipeline secret).runAs source options l).result with
  | ok text => exact ⟨text, rfl⟩
  | error f =>
      rw [Pipeline.result_runAs] at h
      obtain ⟨-, e, he, -⟩ := rename_of_result_eq_error h
      obtain ⟨renamed, hok⟩ := Pass.exists_namingScheme_rename_eq_ok l source
      exact absurd (he.symm.trans hok) (by simp)

end ObfuscateRequest

/-- What is told of a text that was kept, or was not. -/
def Delivery.ofKept (text : String) :
    Except ArtifactError (List WrittenArtifact) → Delivery
  | .ok artifacts => { outputLength := text.length, artifacts }
  | .error e => { outputLength := text.length, error := some e.message }

variable (logger : Log.Logger) (o : ObfuscateRequest) (c : Resolved)
  (m : Machine F)

/-- Delivering a text puts it out or keeps it. -/
theorem runOn_deliverText (text : String) :
    UpToTalk
        { m with
          disk := (o.keep c text m.disk).1
          output := m.output ++ o.printed text }
        ((deliverText logger o c text).runOn m).1
      ∧ ((deliverText logger o c text).runOn m).2
        = Delivery.ofKept text (o.keep c text m.disk).2 := by
  rw [deliverText, ObfuscateRequest.keep, ObfuscateRequest.printed]
  cases o.outputDirectory with
  | none => exact ⟨UpToTalk.refl _, rfl⟩
  | some directory =>
      dsimp only
      obtain ⟨hwrite, hend⟩ := runOn_writeTo logger.onlyTalks_note
        (ArtifactSet.make o.fileName c.language Registry.standard text
          c.options) directory m
      rw [Action.runOn_bind, hend]
      rw [String.append_empty]
      cases hstore : (F.store m.disk directory
          (ArtifactSet.make o.fileName c.language Registry.standard text
            c.options).files).2 with
      | ok artifacts => exact ⟨hwrite, rfl⟩
      | error e =>
          dsimp only
          rw [Action.runOn_bind]
          exact ⟨hwrite.trans (logger.onlyTalks_note e.note _), rfl⟩

/-- What becomes of the end of a run. -/
def Delivery.ofResult (o : ObfuscateRequest) (c : Resolved) (d : F.State) :
    Except StepFailure String → Delivery
  | .ok text => .ofKept text (o.keep c text d).2
  | .error f => { error := some f.message }

/-- A delivery is told by what the run ended with and by the disk. -/
theorem runOn_deliver (result : Except StepFailure String) :
    ((deliver logger o c result).runOn m).2 = .ofResult o c m.disk result := by
  cases result with
  | ok text => exact (runOn_deliverText logger o c m text).2
  | error f =>
      rw [deliver, Action.runOn_bind]
      rfl

-- ============================================================= the report

/-- Runs passes over a source, delivers what comes of it, and makes the
report. -/
def buildReport (logger : Log.Logger) (o : ObfuscateRequest) (c : Resolved)
    (source : String) (pipeline : (secret : String) → Pipeline) :
    Action Report := do
  let startedAt ← Action.now .done
  let runId ← Action.freshRunId .done
  logger.note (startNote runId o.fileName)
  let secret ← Action.freshSecret .done
  let run := (pipeline secret).runAs source c.options c.language
  let played ← (Playback.start startedAt).playAll logger run.signals
  let delivery ← deliver logger o c run.result
  let stoppedAt ← Action.now .done
  return {
    runId
    file := o.fileName
    language := c.language
    startedAt
    duration := startedAt.millisecondsUntil stoppedAt
    inputLength := source.length
    outputLength := delivery.outputLength
    steps := played.log.steps
    artifacts := delivery.artifacts
    error := delivery.error }

/-- The report on a run, given its steps, the time at which it stopped and
what became of the text. -/
def ObfuscateRequest.report (o : ObfuscateRequest) (m : Machine F)
    (c : Resolved) (source : String) (steps : List Step) (stoppedAt : Instant)
    (d : Delivery) : Report where
  runId := m.runId
  file := o.fileName
  language := c.language
  startedAt := m.clock
  duration := m.clock.millisecondsUntil stoppedAt
  inputLength := source.length
  outputLength := d.outputLength
  steps
  artifacts := d.artifacts
  error := d.error

/-- The report on a run has the steps of its attempts, and tells what became
of its end. -/
theorem exists_report_of_buildReport (source : String)
    {pipeline : (secret : String) → Pipeline}
    (hkinds : ∀ secret, ((pipeline secret).passes.map Pass.kind).Nodup) :
    let p := pipeline m.secret
    let result := (p.runAs source c.options c.language).result
    let built := (buildReport logger o c source pipeline).runOn m
    ∃ steps stoppedAt h,
      IsHistory (p.context c.options c.language) p.passes source h
      ∧ List.Forall₂ (Step.TellsOf (p.context c.options c.language)) steps h
      ∧ built.2 = o.report m c source steps stoppedAt
        (.ofResult o c m.disk result)
      ∧ ∀ text, result = .ok text → UpToTalk
          { m with
            disk := (o.keep c text m.disk).1
            output := m.output ++ o.printed text }
          built.1 := by
  intro p result built
  let signals := (p.runAs source c.options c.language).signals
  let noted := ((logger.note (startNote m.runId o.fileName)).runOn m).1
  let played := ((Playback.start m.clock).playAll logger signals).runOn noted
  let delivered := (deliver logger o c result).runOn played.1
  have hnoted : UpToTalk m noted := logger.onlyTalks_note _ m
  have hplayed : UpToTalk m played.1 :=
    hnoted.trans (Playback.onlyTalks_playAll logger signals
      (Playback.start m.clock) noted)
  have hbuilt : built = (delivered.1,
      o.report m c source played.2.log.steps delivered.1.clock
        delivered.2) := by
    simp only [built, buildReport, Action.runOn_bind, Action.runOn_now,
      Action.runOn_freshRunId, Action.runOn_freshSecret]
    rw [hnoted.secret]
    rfl
  obtain ⟨h, hh, hsteps⟩ :=
    exists_forall₂_playAll (hkinds m.secret) source c.options c.language
    logger m.clock noted
  refine ⟨played.2.log.steps, delivered.1.clock, h, hh, hsteps, ?_,
    fun text htext => ?_⟩
  · rw [hbuilt, ← hplayed.disk, ← runOn_deliver logger o c played.1 result]
  · have hdelivered : UpToTalk
        { played.1 with
          disk := (o.keep c text played.1.disk).1
          output := played.1.output ++ o.printed text } delivered.1 := by
      have hdeliver : deliver logger o c result
          = deliverText logger o c text := by
        rw [htext]
        rfl
      simp only [delivered, hdeliver]
      exact (runOn_deliverText logger o c played.1 text).1
    rw [hplayed.disk] at hdelivered
    rw [hbuilt]
    exact ((hplayed.withDisk (o.keep c text m.disk).1).withOutput
      (o.printed text)).trans hdelivered

/-- The report tells of the history of the run. -/
theorem tellsOf_report (text : String) {source : String} {steps : List Step}
    {h : List Attempt}
    (hh : IsHistory ((o.pipeline m.secret).context c.options c.language)
      (o.pipeline m.secret).passes source h)
    (hsteps : List.Forall₂ (Step.TellsOf
      ((o.pipeline m.secret).context c.options c.language)) steps h)
    (stoppedAt : Instant) :
    (o.report m c source steps stoppedAt
      (Delivery.ofKept text (o.keep c text m.disk).2)).TellsOf o m c source
        text := by
  refine ⟨rfl, rfl, rfl, rfl, ?_, ⟨h, hh, hsteps⟩, ?_, ?_⟩
  · cases hkeep : (o.keep c text m.disk).2 with
    | ok written => rfl
    | error e => rfl
  · intro written hkept
    rw [hkept]
    exact ⟨rfl, rfl⟩
  · intro e hlost
    rw [hlost]
    exact ⟨rfl, rfl⟩

-- =========================================================== closing with it

/-- Tells of what went wrong, publishes a report, and ends. -/
def closeWith (o : ObfuscateRequest) (quiet : Bool) (report : Report) :
    Action Exit := do
  complainOf report.error
  publish o quiet report
  return if report.succeeded then .success else .failure

theorem onlyTalks_complainOf (error : Option String) :
    (complainOf error).OnlyTalks := by
  cases error with
  | none => exact Action.onlyTalks_pure ()
  | some e => exact Action.onlyTalks_complain _

/-- Publishing a report puts it out, or only talks. -/
theorem upToTalk_publish (quiet : Bool) (report : Report) :
    UpToTalk { m with output := m.output ++ o.published quiet report }
      ((publish o quiet report).runOn m).1 := by
  rw [publish, ObfuscateRequest.published, ObfuscateRequest.reportChannel]
  cases o.outputDirectory with
  | none =>
      rw [String.append_empty]
      split
      · exact Action.onlyTalks_pure () m
      · exact Action.onlyTalks_print_messages _ m
  | some directory =>
      dsimp only
      split
      · rw [String.append_empty]
        exact UpToTalk.refl m
      · exact UpToTalk.refl _

/-- Closing with a report publishes it, and ends as it tells. -/
theorem runOn_closeWith (quiet : Bool) (report : Report) :
    UpToTalk { m with output := m.output ++ o.published quiet report }
        ((closeWith o quiet report).runOn m).1
      ∧ ((closeWith o quiet report).runOn m).2
        = if report.succeeded then .success else .failure := by
  rw [closeWith, Action.runOn_bind, Action.runOn_bind]
  have hcomplained := onlyTalks_complainOf report.error m
  exact ⟨(hcomplained.withOutput (o.published quiet report)).trans
    (upToTalk_publish o _ quiet report), rfl⟩

/-- A run over a source builds a report and closes with it. -/
theorem runOn_runOver (quiet : Bool) (source : String) :
    (runOver logger o quiet c source).runOn m
      = (buildReport logger o c source o.pipeline
        >>= closeWith o quiet).runOn m := by
  simp only [runOver, buildReport, closeWith, Action.runOn_bind]
  rfl

/-- A run over a source puts out, keeps and reports what comes of it. -/
theorem exists_report_of_runOver (quiet : Bool) {source text : String}
    (hresult : ((o.pipeline m.secret).runAs source c.options c.language).result
      = .ok text) :
    ∃ report : Report, report.TellsOf o m c source text
      ∧ UpToTalk
          { m with
            disk := (o.keep c text m.disk).1
            output := m.output ++ o.printed text ++ o.published quiet report }
          ((runOver logger o quiet c source).runOn m).1
      ∧ ((runOver logger o quiet c source).runOn m).2
        = if report.succeeded then .success else .failure := by
  have hkinds : ∀ secret, ((o.pipeline secret).passes.map Pass.kind).Nodup :=
    fun secret => Pass.nodup_kind_standard secret .standard
  obtain ⟨steps, stoppedAt, h, hh, hsteps, hreport, hafter⟩ :=
    exists_report_of_buildReport logger o c m source hkinds
  let built := (buildReport logger o c source o.pipeline).runOn m
  obtain ⟨hclosed, hend⟩ := runOn_closeWith o built.1 quiet built.2
  refine ⟨built.2, ?_, ?_, ?_⟩
  · rw [hresult] at hreport
    simp only [built, hreport]
    exact tellsOf_report o c m text hh hsteps stoppedAt
  · rw [runOn_runOver, Action.runOn_bind]
    exact ((hafter text hresult).withOutput (o.published quiet built.2)).trans
      hclosed
  · rw [runOn_runOver, Action.runOn_bind]
    exact hend

-- ============================================================ the request

variable {c o m}

/-- Talk does not change what a request comes to. -/
theorem World.Machine.UpToTalk.resolved {m' : Machine F} (h : UpToTalk m m') :
    o.resolved m' = o.resolved m := by
  rw [ObfuscateRequest.resolved, ObfuscateRequest.resolved, h.fileOptions]
  simp only [Options.filledFrom, Options.fillFrom, h.environment]

/-- A request comes to nothing exactly if the configuration or the language
is bad. -/
theorem ObfuscateRequest.resolved_eq_error_iff :
    (∃ e, o.resolved m = .error e) ↔ o.HasBadConfig m ∨ o.HasBadLanguage := by
  have hlanguage : (∃ e, o.chooseLanguage = .error e) ↔ o.HasBadLanguage := by
    unfold ObfuscateRequest.chooseLanguage ObfuscateRequest.HasBadLanguage
    cases o.language with
    | none => simp
    | some id =>
        cases hid : Language.ofId? id with
        | none => simp [hid]
        | some l => simp [hid]
  rw [← hlanguage, ObfuscateRequest.HasBadConfig, ObfuscateRequest.resolved]
  cases m.fileOptions o.config with
  | error e => simp
  | ok file =>
      cases o.chooseLanguage with
      | error e => simp [Except.map]
      | ok l => simp [Except.map]

/-- A request that begins has its options and its language. -/
theorem ObfuscateRequest.Begins.resolved_eq {source : String}
    (h : o.Begins m c source) :
    o.resolved m = .ok c := by
  rw [← h.resolved, o.runOn_resolve]

/-- Talk does not change what a report is to tell. -/
theorem Report.TellsOf.of_upToTalk {m' : Machine F} {report : Report}
    {source text : String} (h : report.TellsOf o m' c source text)
    (htalk : UpToTalk m m') :
    report.TellsOf o m c source text := by
  obtain ⟨runId, file, language, inputLength, outputLength, steps, kept,
      lost⟩ := h
  rw [htalk.secret] at steps
  rw [htalk.disk] at kept lost
  exact ⟨runId.trans htalk.runId, file, language, inputLength, outputLength,
    steps, kept, lost⟩

variable (quiet : Bool) (notice : DocumentNotice)

/-- A request that comes to nothing is refused. -/
theorem obfuscate_of_resolved_eq_error {e : RequestError}
    (h : o.resolved m = .error e) :
    UpToTalk m ((obfuscate logger o quiet notice).runOn m).1
      ∧ ((obfuscate logger o quiet notice).runOn m).2 = .refusal := by
  rw [obfuscate, Action.runOn_bind, ObfuscateRequest.runOn_resolve, h]
  exact ⟨Action.onlyTalks_complain _ m, rfl⟩

/-- A request with options goes on with the source, if that can be read.
-/
theorem obfuscate_of_resolved_eq_ok (h : o.resolved m = .ok c) :
    ∃ before : Machine F, UpToTalk m before
      ∧ (obfuscate logger o quiet notice).runOn m
        = match F.readText m.disk o.file with
          | .error e =>
            (((Action.complain ("Error: Failed to read "
                ++ o.file ++ ": " ++ e.message)).runOn before).1,
              .failure)
          | .ok source => (runOver logger o quiet c source).runOn before := by
  rw [obfuscate, Action.runOn_bind, ObfuscateRequest.runOn_resolve, h]
  dsimp only
  rw [Action.runOn_bind]
  have htold : UpToTalk m ((logger.note c.note).runOn m).1 :=
    logger.onlyTalks_note c.note m
  -- whoever asks for nothing is warned before the file is read
  split
  · rw [Action.runOn_bind]
    have hwarned := htold.trans (Action.onlyTalks_complain nothingEnabled _)
    refine ⟨_, hwarned, ?_⟩
    rw [Action.runOn_bind, Action.runOn_readText, hwarned.disk]
    cases F.readText m.disk o.file with
    | error e => rfl
    | ok source => rfl
  · refine ⟨_, htold, ?_⟩
    rw [Action.runOn_bind, Action.runOn_readText, htold.disk]
    cases F.readText m.disk o.file with
    | error e => rfl
    | ok source => rfl

namespace Request

/-- A request whose level is bad is refused. -/
theorem execute_of_hasBadLevel {r : Request} (h : r.HasBadLevel m) :
    UpToTalk m ((r.execute notice).runOn m).1 ∧ ((r.execute notice).runOn m).2
      = .refusal := by
  obtain ⟨e, he⟩ := h
  rw [execute, Action.runOn_bind, Log.Settings.runOn_ofCommandLine, he]
  exact ⟨Action.onlyTalks_complain _ m, rfl⟩

/-- A request whose level is good is carried out. -/
theorem execute_of_not_hasBadLevel {r : Request} (h : ¬r.HasBadLevel m) :
    ∃ (logger : Log.Logger) (before : Machine F), UpToTalk m before
      ∧ (r.execute notice).runOn m
        = match r.command with
          | .obfuscate o => (obfuscate logger o r.quiet notice).runOn before
          | .languages f => (listLanguages f).runOn before := by
  cases hlevel : m.levelFor r.logLevel r.verbose r.quiet with
  | error e => exact absurd ⟨e, hlevel⟩ h
  | ok level =>
      rw [execute, Action.runOn_bind, Log.Settings.runOn_ofCommandLine, hlevel]
      dsimp only [Except.map]
      rw [Action.runOn_bind, carryOut, Action.runOn_bind]
      have hinstalled :=
        Log.Logger.onlyTalks_install none (m.settingsAt level) m
      let logger := ((Log.Logger.install none (m.settingsAt level)).runOn m).2
      refine ⟨logger, _,
        hinstalled.trans (logger.onlyTalks_note openingNote _), ?_⟩
      cases r.command with
      | obfuscate o => rfl
      | languages f => rfl

/-- Behind a good level, a request to obfuscate is refused exactly if it
comes to nothing. -/
theorem isRefused_iff {r : Request} (hlevel : ¬r.HasBadLevel m)
    (hcommand : r.command = .obfuscate o) :
    r.IsRefused m ↔ ∃ e, o.resolved m = .error e := by
  rw [ObfuscateRequest.resolved_eq_error_iff]
  constructor
  · rintro (hbad | ⟨o', ho', hbad⟩)
    · exact absurd hbad hlevel
    · obtain rfl : o = o' := Command.obfuscate.inj (hcommand.symm.trans ho')
      exact hbad
  · exact fun hbad => .inr ⟨o, hcommand, hbad⟩

/-- What can begin is refused only for its level. -/
theorem not_isRefused_of_begins {r : Request} {source : String}
    (hbegins : o.Begins m c source) (hcommand : r.command = .obfuscate o)
    (hlevel : ¬r.HasBadLevel m) : ¬r.IsRefused m := by
  rw [isRefused_iff hlevel hcommand, hbegins.resolved_eq]
  rintro ⟨e, he⟩
  cases he

/-- A request to obfuscate goes one of three ways. -/
theorem course_obfuscate {r : Request} {before : Machine F}
    (htalk : UpToTalk m before) (hlevel : ¬r.HasBadLevel m)
    (hcommand : r.command = .obfuscate o) :
    r.Course m ((obfuscate logger o r.quiet notice).runOn before).1
      ((obfuscate logger o r.quiet notice).runOn before).2 := by
  cases hresolved : o.resolved m with
  | error e =>
      obtain ⟨hcomplained, hend⟩ :=
        obfuscate_of_resolved_eq_error logger r.quiet notice
          (htalk.resolved.trans hresolved)
      rw [hend]
      exact .refused ((isRefused_iff hlevel hcommand).2 ⟨e, hresolved⟩)
        (htalk.trans hcomplained)
  | ok c =>
      have haccepted : ¬r.IsRefused m := by
        intro hbad
        obtain ⟨e, he⟩ := (isRefused_iff hlevel hcommand).1 hbad
        rw [hresolved] at he
        cases he
      obtain ⟨reading, hreading, hgoes⟩ :=
        obfuscate_of_resolved_eq_ok logger r.quiet notice
          (htalk.resolved.trans hresolved)
      have htalk : UpToTalk m reading := htalk.trans hreading
      rw [hgoes, ← hreading.disk, htalk.disk]
      cases hread : F.readText m.disk o.file with
      | error e =>
          exact .unread hcommand haccepted ⟨e, hread⟩
            (htalk.trans (Action.onlyTalks_complain _ reading))
      | ok source =>
          dsimp only
          have hbegins : o.Begins m c source := by
            refine ⟨?_, hread⟩
            rw [ObfuscateRequest.runOn_resolve]
            exact hresolved
          obtain ⟨text, hresult⟩ :=
            o.exists_result_eq_ok m.secret source c.options c.language
          obtain ⟨report, htells, hafter, hend⟩ :=
            exists_report_of_runOver logger o c reading r.quiet
              (by rw [htalk.secret]; exact hresult)
          have hleft := ((htalk.withDisk (o.keep c text m.disk).1).withOutput
            (o.printed text)).withOutput (o.published r.quiet report)
          rw [htalk.disk] at hafter
          rw [hend]
          exact .ran hcommand haccepted hbegins hresult
            (htells.of_upToTalk htalk)
            (hleft.trans hafter)

/-- Every request goes one of the ways. -/
theorem course_execute (r : Request) (notice : DocumentNotice)
    (m : Machine F) :
    r.Course m ((r.execute notice).runOn m).1
      ((r.execute notice).runOn m).2 := by
  by_cases hlevel : r.HasBadLevel m
  · obtain ⟨htalk, hend⟩ := execute_of_hasBadLevel notice hlevel
    rw [hend]
    exact .refused (.inl hlevel) htalk
  · obtain ⟨logger, before, htalk, hsame⟩ :=
      execute_of_not_hasBadLevel notice hlevel
    rw [hsame]
    cases hcommand : r.command with
    | obfuscate o => exact course_obfuscate logger notice htalk hlevel hcommand
    | languages f =>
        have haccepted : ¬r.IsRefused m := by
          rintro (hbad | ⟨o, ho, -⟩)
          · exact hlevel hbad
          · exact absurd (hcommand.symm.trans ho) (by simp)
        exact .listed hcommand haccepted
          (htalk.withOutput
            (Listing.render Registry.standard.listing f ++ "\n"))

end Request

/-- A command line that is a request is carried out. -/
theorem runProgram_of_read {words : List String} {r : Request}
    (h : CommandLine.read words = .ok r) (notice : DocumentNotice) :
    runProgram words notice = r.execute notice := by
  rw [runProgram, h]

end Obfuscator
