/-
The number that the program leaves.

A request leaves 2 if it is refused, 1 if something failed in carrying it
out, and 0 otherwise. Only two things can fail: the source cannot be read,
or the text cannot be kept. A pass that does not do its work is no failure,
and the built-in passes have no other way to go wrong
(`ObfuscateRequest.exists_result_eq_ok`). Whatever is refused, and whatever
has no source, leaves all files alone.
-/
import Obfuscator.Proofs.Program.Output

namespace Obfuscator

open World (FileSystem Machine)

variable {F : FileSystem} {r : Request} {o : ObfuscateRequest} {c : Resolved}
  {source text : String} {m after : Machine F} {exit : Exit}

-- ============================================================== failures

/-- What comes of the source cannot be kept in files. -/
def ObfuscateRequest.CannotKeep (o : ObfuscateRequest) (m : Machine F) :
    Prop :=
  ∃ c source text, o.Begins m c source
    ∧ ((o.pipeline m.secret).runAs source c.options c.language).result
      = .ok text
    ∧ ∃ e, (o.keep c text m.disk).2 = .error e

/-- The source cannot be read, or what comes of it cannot be kept. -/
def Request.Fails (r : Request) (m : Machine F) : Prop :=
  ∃ o, r.command = .obfuscate o ∧ (o.HasNoSource m ∨ o.CannotKeep m)

/-- What an end says of a request. -/
def Request.Cause (r : Request) (m : Machine F) : Exit → Prop
  | .refusal => r.IsRefused m
  | .failure => ¬r.IsRefused m ∧ r.Fails m
  | .success => ¬r.IsRefused m ∧ ¬r.Fails m

/-- Only one run can begin. -/
theorem ObfuscateRequest.Begins.unique {c' : Resolved} {source' : String}
    (h : o.Begins m c source) (h' : o.Begins m c' source') :
    c = c' ∧ source = source' :=
  ⟨Except.ok.inj (h.resolved.symm.trans h'.resolved),
    Except.ok.inj (h.read.symm.trans h'.read)⟩

/-- A run that began cannot be kept exactly if its text cannot. -/
theorem ObfuscateRequest.cannotKeep_iff (hbegins : o.Begins m c source)
    (hresult : ((o.pipeline m.secret).runAs source c.options c.language).result
      = .ok text) :
    o.CannotKeep m ↔ ∃ e, (o.keep c text m.disk).2 = .error e := by
  constructor
  · rintro ⟨c', source', text', hbegins', hresult', hlost⟩
    obtain ⟨rfl, rfl⟩ := hbegins.unique hbegins'
    obtain rfl : text = text' := Except.ok.inj (hresult.symm.trans hresult')
    exact hlost
  · exact fun hlost => ⟨c, source, text, hbegins, hresult, hlost⟩

/-- A report tells of an error exactly if the text could not be kept. -/
theorem Report.TellsOf.succeeded_eq_false_iff {report : Report}
    (h : report.TellsOf o m c source text) :
    report.succeeded = false ↔ ∃ e, (o.keep c text m.disk).2 = .error e := by
  cases hkeep : (o.keep c text m.disk).2 with
  | ok written => simp [succeeded, (h.kept written hkeep).2]
  | error e => simp [succeeded, (h.lost e hkeep).2]

-- ============================================================== the number

namespace Request.Course

/-- A request ends in a way for which there is a cause. -/
theorem cause (h : r.Course m after exit) : r.Cause m exit := by
  cases h with
  | refused hrefused => exact hrefused
  | unread hcommand haccepted hnothing =>
      exact ⟨haccepted, _, hcommand, .inl hnothing⟩
  | listed hcommand haccepted =>
      refine ⟨haccepted, ?_⟩
      rintro ⟨o, ho, -⟩
      exact absurd (hcommand.symm.trans ho) (by simp)
  | @ran o c source text report _ hcommand haccepted hbegins hresult htells =>
      have hlost : report.succeeded = false ↔ o.CannotKeep m :=
        htells.succeeded_eq_false_iff.trans
          (o.cannotKeep_iff hbegins hresult).symm
      cases hsucceeded : report.succeeded with
      | false => exact ⟨haccepted, o, hcommand, .inr (hlost.1 hsucceeded)⟩
      | true =>
          refine ⟨haccepted, ?_⟩
          rintro ⟨o', ho', hfails⟩
          obtain rfl : o = o' :=
            Command.obfuscate.inj (hcommand.symm.trans ho')
          rcases hfails with hnothing | hkeep
          · exact hbegins.not_hasNoSource hnothing
          · exact absurd (hlost.2 hkeep) (by simp [hsucceeded])

/-- A request that is refused, or has no source, leaves all files alone. -/
theorem disk_eq (h : r.Course m after exit)
    (hbad : r.IsRefused m ∨ ∃ o, r.command = .obfuscate o ∧ o.HasNoSource m) :
    after.disk = m.disk := by
  cases h with
  | refused _ htalk => exact htalk.disk
  | unread _ _ _ htalk => exact htalk.disk
  | listed _ _ htalk => exact htalk.disk
  | ran hcommand haccepted hbegins =>
      rcases hbad with hrefused | ⟨o', ho', hnothing⟩
      · exact absurd hrefused haccepted
      · obtain rfl := Command.obfuscate.inj (hcommand.symm.trans ho')
        exact absurd hnothing hbegins.not_hasNoSource

end Request.Course

/-- The number tells the cause, because no two causes go together. -/
theorem Request.Cause.code_eq_iff (h : r.Cause m exit) :
    (exit.code = 2 ↔ r.IsRefused m)
      ∧ (exit.code = 1 ↔ ¬r.IsRefused m ∧ r.Fails m)
      ∧ (exit.code = 0 ↔ ¬r.IsRefused m ∧ ¬r.Fails m) := by
  cases exit with
  | refusal =>
      have hrefused : r.IsRefused m := h
      simp [Exit.code, hrefused]
  | failure =>
      obtain ⟨haccepted, hfails⟩ : ¬r.IsRefused m ∧ r.Fails m := h
      simp [Exit.code, haccepted, hfails]
  | success =>
      obtain ⟨haccepted, hworks⟩ : ¬r.IsRefused m ∧ ¬r.Fails m := h
      simp [Exit.code, haccepted, hworks]

/-- The number that a request leaves. It is 2 exactly if the request is
refused: the level for the log is bad, or the configuration or the language
for the source. It is 1 exactly if the request is not refused and its source
cannot be read, or what comes of it cannot be kept in files. It is 0 exactly
in every other case; so a run that begins leaves 0 unless its text cannot be
kept, whatever passes are switched on and whatever keys are missing. What is
refused and what has no source leaves all files alone. -/
theorem exitCode_runProgram {words : List String} (notice : DocumentNotice)
    (m : Machine F) (hread : CommandLine.read words = .ok r) :
    let after := ((runProgram words notice).runOn m).1
    let code := ((runProgram words notice).runOn m).2.code
    (code = 2 ↔ r.IsRefused m)
      ∧ (code = 1 ↔ ¬r.IsRefused m ∧ r.Fails m)
      ∧ (code = 0 ↔ ¬r.IsRefused m ∧ ¬r.Fails m)
      ∧ (∀ o c source, r.command = .obfuscate o → ¬r.IsRefused m →
        o.Begins m c source →
          ∃ text, ((o.pipeline m.secret).runAs source c.options
            c.language).result = .ok text
            ∧ (code = 0 ↔ ∃ written, (o.keep c text m.disk).2 = .ok written))
      ∧ (r.IsRefused m ∨ (∃ o, r.command = .obfuscate o ∧ o.HasNoSource m) →
          after.disk = m.disk) := by
  rw [runProgram_of_read hread]
  intro after code
  have hcourse : r.Course m after ((r.execute notice).runOn m).2 :=
    r.course_execute notice m
  obtain ⟨hrefusal, hfailure, hsuccess⟩ := hcourse.cause.code_eq_iff
  refine ⟨hrefusal, hfailure, hsuccess, ?_, hcourse.disk_eq⟩
  intro o c source hcommand haccepted hbegins
  obtain ⟨text, hresult⟩ :=
    o.exists_result_eq_ok m.secret source c.options c.language
  refine ⟨text, hresult, hsuccess.trans ?_⟩
  have hfails : r.Fails m ↔ ∃ e, (o.keep c text m.disk).2 = .error e := by
    rw [← o.cannotKeep_iff hbegins hresult]
    constructor
    · rintro ⟨o', ho', hfails⟩
      obtain rfl : o = o' := Command.obfuscate.inj (hcommand.symm.trans ho')
      exact hfails.resolve_left hbegins.not_hasNoSource
    · exact fun hkeep => ⟨o, hcommand, .inr hkeep⟩
  rw [hfails]
  cases (o.keep c text m.disk).2 with
  | ok written => simp [haccepted]
  | error e => simp

/-- The missing key does no harm; and where the file and the language are
both missing, it is the language that counts. -/
theorem exitCode_trialWords :
    ((runProgram trialWords).runOn trialMachine).2.code = 0
      ∧ ((runProgram ["obfuscate", "b.py", "-l", "cobol"]).runOn
        trialMachine).2.code = 2 := by
  constructor
  · obtain ⟨-, -, -, hruns, -⟩ :=
      exitCode_runProgram .heading trialMachine read_trialWords
    obtain ⟨text, -, hzero⟩ :=
      hruns trialRequest _ _ rfl not_isRefused_trialRequest begins_trialRequest
    exact hzero.2 ⟨[], rfl⟩
  · let o : ObfuscateRequest := { file := "b.py", language := some "cobol" }
    have hread : CommandLine.read ["obfuscate", "b.py", "-l", "cobol"]
        = .ok { command := .obfuscate o } := by decide +kernel
    have hlanguage : o.HasBadLanguage := ⟨"cobol", rfl, by decide⟩
    exact (exitCode_runProgram .heading trialMachine hread).1.2 (.inr ⟨o, rfl,
      .inr hlanguage⟩)

end Obfuscator
