/-
What the program puts out.

Results go to the output and everything else is talk. So what a request to
obfuscate puts out follows from its course alone: nothing if there is no
run; the text alone if the text is not kept in files; and otherwise the
report alone, unless it is for people and quiet is asked for. How the log is
kept, and where the passes failed, cannot be seen.
-/
import Obfuscator.Proofs.Program.Course

namespace Obfuscator

open World (FileSystem Machine)

variable {F : FileSystem} {r : Request} {o : ObfuscateRequest} {m : Machine F}

/-- A source that was read is one that can be read. -/
theorem ObfuscateRequest.Begins.not_hasNoSource {c : Resolved}
    {source : String} (h : o.Begins m c source) : ¬o.HasNoSource m := by
  rintro ⟨e, he⟩
  rw [h.read] at he
  cases he

/-- What a request to obfuscate puts out. If the level for the log, the
configuration or the language is bad, or the source cannot be read, that is
nothing. Otherwise the passes end with a text. Without a directory for files
exactly that text is put out; with one, exactly the report on the run in the
format that is asked for and a newline, also if the files could not be
written, or nothing if the report is for people and quiet is asked for. -/
theorem output_runProgram {words : List String} (notice : DocumentNotice)
    (m : Machine F) (hread : CommandLine.read words = .ok r)
    (hcommand : r.command = .obfuscate o) :
    let after := ((runProgram words notice).runOn m).1
    (r.IsRefused m ∨ o.HasNoSource m → after.output = m.output)
      ∧ (¬(r.IsRefused m ∨ o.HasNoSource m) →
          ∃ c source text, o.Begins m c source
            ∧ ((o.pipeline m.secret).runAs source c.options c.language).result
              = .ok text
            ∧ (o.outputDirectory = none → after.output = m.output ++ text)
            ∧ ∀ directory, o.outputDirectory = some directory →
                ∃ report : Report, report.TellsOf o m c source text
                  ∧ after.output = m.output
                    ++ if r.quiet ∧ o.format = .human then ""
                      else report.render o.format ++ "\n") := by
  rw [runProgram_of_read hread]
  intro after
  have hcourse : r.Course m after ((r.execute notice).runOn m).2 :=
    r.course_execute notice m
  generalize ((r.execute notice).runOn m).2 = exit at hcourse
  clear_value after
  cases hcourse with
  | refused hrefused htalk =>
      exact ⟨fun _ => htalk.output, fun h => absurd (.inl hrefused) h⟩
  | unread hsame haccepted hnothing htalk =>
      obtain rfl : o = _ := Command.obfuscate.inj (hcommand.symm.trans hsame)
      exact ⟨fun _ => htalk.output, fun h => absurd (.inr hnothing) h⟩
  | listed hsame => exact absurd (hcommand.symm.trans hsame) (by simp)
  | @ran _ c source text report _ hsame haccepted hbegins
      hresult htells htalk =>
      obtain rfl : o = _ := Command.obfuscate.inj (hcommand.symm.trans hsame)
      refine ⟨?_, fun _ => ⟨c, source, text, hbegins, hresult, ?_, ?_⟩⟩
      · rintro (hbad | hnothing)
        · exact absurd hbad haccepted
        · exact absurd hnothing hbegins.not_hasNoSource
      · intro hnone
        rw [htalk.output, ObfuscateRequest.printed, ObfuscateRequest.published,
          hnone]
        exact String.append_empty
      · intro directory hsome
        refine ⟨report, htells, ?_⟩
        rw [htalk.output, ObfuscateRequest.printed, ObfuscateRequest.published,
          hsome, String.append_empty]

/-- A machine with one file, and nothing in the environment. -/
def trialMachine : Machine .tree where
  disk := ({} : World.Disk).set ["a.py"] (.file "x = 1\n".toUTF8)
  environment _ := none
  accountHome := none
  clock := ⟨0, 0⟩
  secret := "0123abcd"
  runId := ""
  output := ""
  messages := ""

/-- Asks quietly for a mutation, for which there is no key. -/
def trialWords : List String :=
  ["obfuscate", "a.py", "--ai-mutate", "-q", "-f", "json"]

/-- What these words ask for. -/
def trialRequest : ObfuscateRequest where
  file := "a.py"
  mutate := true
  format := .json

theorem read_trialWords :
    CommandLine.read trialWords
      = .ok { command := .obfuscate trialRequest, quiet := true } := by
  decide +kernel

/-- The request begins on a machine that has the source. -/
theorem begins_trialRequest :
    trialRequest.Begins trialMachine ⟨{ mutate := true }, .python⟩ "x = 1\n" :=
  ⟨by decide +kernel, by decide +kernel⟩

theorem not_isRefused_trialRequest :
    ¬Request.IsRefused
      { command := .obfuscate trialRequest, quiet := true } trialMachine := by
  refine Request.not_isRefused_of_begins begins_trialRequest rfl ?_
  rintro ⟨e, he⟩
  cases he

/-- The text alone is put out, although a pass failed and a report in JSON
was asked for. -/
theorem output_trialWords :
    ((runProgram trialWords).runOn trialMachine).1.output = "x = 1\n" := by
  have hruns := (output_runProgram .heading trialMachine read_trialWords rfl).2
  obtain ⟨c, source, text, hbegins, hresult, hprinted, -⟩ :=
    hruns fun h =>
      h.elim not_isRefused_trialRequest begins_trialRequest.not_hasNoSource
  obtain rfl : c = ⟨{ mutate := true }, .python⟩ :=
    Except.ok.inj (hbegins.resolved.symm.trans begins_trialRequest.resolved)
  obtain rfl : source = "x = 1\n" :=
    Except.ok.inj (hbegins.read.symm.trans begins_trialRequest.read)
  obtain rfl : text = "x = 1\n" :=
    Except.ok.inj (hresult.symm.trans (by decide +kernel))
  exact hprinted rfl

end Obfuscator
