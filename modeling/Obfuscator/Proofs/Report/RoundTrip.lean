/-
Nothing is lost of a report that is shown as a JSON document.

A reader is given for reports as values, which looks each member up by its
key and takes it for what it should be: a text, a number, one of a few
words, an instant, a list (`Report.ofJson?`). It undoes `Report.toJson`, by
one lemma for each kind of record, and the value is read back from its text
because all its numbers are natural ones (`Json.parse?_pretty`). So the text
tells the report, and no other report has it.

It is asked of a report that its instants are ones that a clock can show;
only those have a text of their own (`Instant.isShown_iff_exists_text`).
-/
import Obfuscator.Language.Tag
import Obfuscator.Proofs.Json.Reading
import Obfuscator.Proofs.Language.Lookup
import Obfuscator.Proofs.Time.Reading
import Obfuscator.Report.Summary

namespace Obfuscator

-- =============================================================== members

namespace Json

/-- The members of an object, in order. -/
def members : Json → List (String × Json)
  | .object members => members
  | _ => []

/-- The keys of an object, in order. -/
def keys (j : Json) : List String := j.members.map Prod.fst

/-- The text that the member with a given key is. -/
def textAt? (j : Json) (key : String) : Option String :=
  match j.member? key with
  | some (.string s) => some s
  | _ => none

/-- The natural number that the member with a given key is. -/
def naturalAt? (j : Json) (key : String) : Option Nat :=
  match j.member? key with
  | some (.number lexeme) => Text.spelled? 10 lexeme.toList
  | _ => none

/-- The elements of the array that the member with a given key is. -/
def elementsAt? (j : Json) (key : String) : Option (List Json) :=
  match j.member? key with
  | some (.array elements) => some elements
  | _ => none

variable {j : Json} {key : String}

/-- Where no key is there twice, every member is found. -/
theorem member?_of_mem (hkeys : j.keys.Nodup) {v : Json}
    (h : (key, v) ∈ j.members) :
    j.member? key = some v := by
  cases j with
  | object members =>
      show (members.reverse.find? fun m => m.1 = key).map (·.2) = some v
      cases hfound : members.reverse.find? fun m => m.1 = key with
      | none =>
          have hno := List.find?_eq_none.1 hfound (key, v)
            (List.mem_reverse.2 h)
          exact absurd (decide_eq_true rfl) hno
      | some m =>
          have hm : m ∈ members :=
            List.mem_reverse.1 (List.mem_of_find?_eq_some hfound)
          have hkey : m.1 = key := by simpa using List.find?_some hfound
          rw [List.inj_on_of_nodup_map hkeys hm h hkey]
          rfl
  | _ => cases h

/-- A member that an object has not is not found in it. -/
theorem member?_of_not_mem (h : key ∉ j.keys) : j.member? key = none := by
  cases j with
  | object members =>
      show (members.reverse.find? fun m => m.1 = key).map (·.2) = none
      rw [List.find?_eq_none.2, Option.map_none]
      intro m hm hkey
      exact h (List.mem_map.2 ⟨m, List.mem_reverse.1 hm,
        of_decide_eq_true hkey⟩)
  | _ => rfl

/-- A text is read from the member that holds it, where no two members
share a key. -/
theorem textAt?_of_mem (hkeys : j.keys.Nodup) {s : String}
    (h : (key, .string s) ∈ j.members) :
    j.textAt? key = some s := by
  unfold textAt?
  rw [member?_of_mem hkeys h]

theorem naturalAt?_of_mem (hkeys : j.keys.Nodup) {n : Nat}
    (h : (key, .ofNat n) ∈ j.members) :
    j.naturalAt? key = some n := by
  unfold naturalAt?
  rw [member?_of_mem hkeys h]
  exact Text.spelled?_toString n

theorem elementsAt?_of_mem (hkeys : j.keys.Nodup) {elements : List Json}
    (h : (key, .array elements) ∈ j.members) :
    j.elementsAt? key = some elements := by
  unfold elementsAt?
  rw [member?_of_mem hkeys h]

/-- A list is read back if each of its elements is. -/
theorem mapM_read_map {α : Type} {write : α → Json} {read : Json → Option α}
    {l : List α} (h : ∀ x ∈ l, read (write x) = some x) :
    (l.map write).mapM read = some l := by
  induction l with
  | nil => rfl
  | cons x rest ih =>
      have hx := h x (List.mem_cons_self ..)
      have hrest := ih fun y hy => h y (List.mem_cons_of_mem _ hy)
      rw [List.map_cons, List.mapM_cons, hx, hrest]
      rfl

end Json

-- ================================================================= words

/-- The status with a given word. -/
def StepStatus.ofName? (s : String) : Option StepStatus :=
  [pending, running, completed, error].find? fun status => status.name = s

/-- The kind with a given word. -/
def ArtifactKind.ofName? (s : String) : Option ArtifactKind :=
  [source, executable].find? fun kind => kind.name = s

/-- The word for a status tells the status. -/
theorem StepStatus.ofName?_name (status : StepStatus) :
    ofName? status.name = some status := by
  cases status <;> decide

/-- The word for a kind tells the kind. -/
theorem ArtifactKind.ofName?_name (kind : ArtifactKind) :
    ofName? kind.name = some kind := by
  cases kind <;> decide

/-- The identifier of a language tells the language. -/
theorem Language.ofJson_id (l : Language) :
    Language.ofJson (.string l.id) = .ok l := by
  have hfound : ofId? l.id = some l :=
    ofId?_eq_some_iff.2 (Text.SameButCase.refl l.id)
  simp only [Language.ofJson, hfound]

-- =============================================================== readers

/-- The step that a value tells of. -/
def Step.ofJson? (j : Json) : Option Step := do
  let id ← j.textAt? "id"
  let name ← j.textAt? "name"
  let status ← StepStatus.ofName? (← j.textAt? "status")
  let message ← j.textAt? "message"
  let stamp ← Instant.parse? (← j.textAt? "timestamp")
  some { id, name, status, message, stamp }

/-- The written file that a value tells of. -/
def WrittenArtifact.ofJson? (j : Json) : Option WrittenArtifact := do
  let kind ← ArtifactKind.ofName? (← j.textAt? "kind")
  let path ← j.textAt? "path"
  let bytes ← j.naturalAt? "bytes"
  some { kind, path, bytes }

namespace Report

/-- The error that a value tells of; that there is none is no fault. -/
def errorOfJson? (j : Json) : Option (Option String) :=
  match j.member? "error" with
  | none => some none
  | some (.string s) => some (some s)
  | some _ => none

/-- The report that a value tells of. -/
def ofJson? (j : Json) : Option Report := do
  let runId ← j.textAt? "run_id"
  let file ← j.textAt? "file"
  let language ← (Language.ofJson (← j.member? "language")).toOption
  let startedAt ← Instant.parse? (← j.textAt? "started_at")
  let duration ← j.naturalAt? "duration_ms"
  let inputLength ← j.naturalAt? "input_length"
  let outputLength ← j.naturalAt? "output_length"
  let steps ← (← j.elementsAt? "steps").mapM Step.ofJson?
  let artifacts ← (← j.elementsAt? "artifacts").mapM WrittenArtifact.ofJson?
  let error ← errorOfJson? j
  some { runId, file, language, startedAt, duration, inputLength, outputLength,
         steps, artifacts, error }

end Report

-- ============================================================= read back

namespace Step

/-- What the document of a step has, in the order of its fields. -/
@[simp] theorem members_toJson (s : Step) :
    s.toJson.members
      = [("id", .string s.id), ("name", .string s.name),
        ("status", .string s.status.name), ("message", .string s.message),
        ("timestamp", .string s.stamp.render)] := rfl

theorem keys_toJson (s : Step) :
    s.toJson.keys = ["id", "name", "status", "message", "timestamp"] := rfl

/-- A step is told by its document, if its time can be shown. -/
theorem ofJson?_toJson {s : Step} (h : s.stamp.IsShown) :
    ofJson? s.toJson = some s := by
  have hkeys : s.toJson.keys.Nodup := by
    rw [keys_toJson]
    decide
  have hid : s.toJson.textAt? "id" = some s.id :=
    Json.textAt?_of_mem hkeys (by simp)
  have hname : s.toJson.textAt? "name" = some s.name :=
    Json.textAt?_of_mem hkeys (by simp)
  have hstatus : s.toJson.textAt? "status" = some s.status.name :=
    Json.textAt?_of_mem hkeys (by simp)
  have hmessage : s.toJson.textAt? "message" = some s.message :=
    Json.textAt?_of_mem hkeys (by simp)
  have hstamp : s.toJson.textAt? "timestamp" = some s.stamp.render :=
    Json.textAt?_of_mem hkeys (by simp)
  unfold ofJson?
  rw [hid, hname, hstatus, hmessage, hstamp]
  simp only [Option.bind_eq_bind, Option.bind_some, StepStatus.ofName?_name,
    Instant.parse?_render h]

theorem hasNaturals_toJson (s : Step) : s.toJson.HasNaturals :=
  ⟨trivial, trivial, trivial, trivial, trivial, trivial⟩

end Step

namespace WrittenArtifact

@[simp] theorem members_toJson (w : WrittenArtifact) :
    w.toJson.members
      = [("kind", .string w.kind.name), ("path", .string w.path),
        ("bytes", .ofNat w.bytes)] := rfl

theorem keys_toJson (w : WrittenArtifact) :
    w.toJson.keys = ["kind", "path", "bytes"] := rfl

/-- A file is told by its document. -/
theorem ofJson?_toJson (w : WrittenArtifact) : ofJson? w.toJson = some w := by
  have hkeys : w.toJson.keys.Nodup := by
    rw [keys_toJson]
    decide
  have hkind : w.toJson.textAt? "kind" = some w.kind.name :=
    Json.textAt?_of_mem hkeys (by simp)
  have hpath : w.toJson.textAt? "path" = some w.path :=
    Json.textAt?_of_mem hkeys (by simp)
  have hbytes : w.toJson.naturalAt? "bytes" = some w.bytes :=
    Json.naturalAt?_of_mem hkeys (by simp)
  unfold ofJson?
  rw [hkind, hpath, hbytes]
  simp only [Option.bind_eq_bind, Option.bind_some, ArtifactKind.ofName?_name]

/-- The only number of a file is its length. -/
theorem hasNaturals_toJson (w : WrittenArtifact) : w.toJson.HasNaturals :=
  ⟨trivial, trivial, ⟨w.bytes, rfl⟩, trivial⟩

end WrittenArtifact

namespace Report

/-- The instants that a report tells are such as a clock can show. -/
structure IsShown (r : Report) : Prop where
  startedAt : r.startedAt.IsShown
  stamps : ∀ s ∈ r.steps, s.stamp.IsShown

instance (r : Report) : Decidable r.IsShown :=
  decidable_of_iff (r.startedAt.IsShown ∧ ∀ s ∈ r.steps, s.stamp.IsShown)
    ⟨fun h => ⟨h.1, h.2⟩, fun h => ⟨h.startedAt, h.stamps⟩⟩

/-- What the document of a report has; the last member is there only if
the run failed. -/
@[simp] theorem members_toJson (r : Report) :
    r.toJson.members
      = [("run_id", .string r.runId), ("file", .string r.file),
          ("language", .string r.language.id),
          ("started_at", .string r.startedAt.render),
          ("duration_ms", .ofNat r.duration),
          ("input_length", .ofNat r.inputLength),
          ("output_length", .ofNat r.outputLength),
          ("steps", .array (r.steps.map Step.toJson)),
          ("artifacts", .array (r.artifacts.map WrittenArtifact.toJson))]
        ++ errorMember r.error := rfl

/-- The keys that every report has. -/
def standingKeys : List String :=
  ["run_id", "file", "language", "started_at", "duration_ms", "input_length",
    "output_length", "steps", "artifacts"]

/-- There is a key for the error exactly if there is an error. -/
theorem keys_toJson (r : Report) :
    r.toJson.keys
      = standingKeys ++ (if r.succeeded then [] else ["error"]) := by
  unfold Json.keys succeeded
  rw [members_toJson, List.map_append]
  cases r.error <;> rfl

/-- No two members of a report share a key, with and without an error. -/
theorem nodup_keys_toJson (r : Report) : r.toJson.keys.Nodup := by
  rw [keys_toJson]
  split <;> decide

/-- A report has an error among its members exactly if the run failed. -/
theorem error_mem_keys_toJson (r : Report) :
    "error" ∈ r.toJson.keys ↔ r.succeeded = false := by
  have hstanding : "error" ∉ standingKeys := by decide
  rw [keys_toJson]
  cases r.succeeded <;> simp [hstanding]

/-- The error of a report is read back, and so is that there is none. -/
theorem errorOfJson?_toJson (r : Report) :
    errorOfJson? r.toJson = some r.error := by
  unfold errorOfJson?
  cases herror : r.error with
  | none =>
      have hkey : "error" ∉ r.toJson.keys := by
        rw [error_mem_keys_toJson, succeeded, herror]
        decide
      rw [Json.member?_of_not_mem hkey]
  | some e =>
      have hmem : ("error", Json.string e) ∈ r.toJson.members := by
        simp [herror, errorMember]
      rw [Json.member?_of_mem r.nodup_keys_toJson hmem]

/-- A report is read back from its value. -/
theorem ofJson?_toJson {r : Report} (h : r.IsShown) :
    ofJson? r.toJson = some r := by
  have hkeys := r.nodup_keys_toJson
  have hrunId : r.toJson.textAt? "run_id" = some r.runId :=
    Json.textAt?_of_mem hkeys (by simp)
  have hfile : r.toJson.textAt? "file" = some r.file :=
    Json.textAt?_of_mem hkeys (by simp)
  have hlanguage : r.toJson.member? "language"
      = some (.string r.language.id) :=
    Json.member?_of_mem hkeys (by simp)
  have hstartedAt : r.toJson.textAt? "started_at" = some r.startedAt.render :=
    Json.textAt?_of_mem hkeys (by simp)
  have hduration : r.toJson.naturalAt? "duration_ms" = some r.duration :=
    Json.naturalAt?_of_mem hkeys (by simp)
  have hinput : r.toJson.naturalAt? "input_length" = some r.inputLength :=
    Json.naturalAt?_of_mem hkeys (by simp)
  have houtput : r.toJson.naturalAt? "output_length" = some r.outputLength :=
    Json.naturalAt?_of_mem hkeys (by simp)
  have hsteps : r.toJson.elementsAt? "steps"
      = some (r.steps.map Step.toJson) :=
    Json.elementsAt?_of_mem hkeys (by simp)
  have hartifacts : r.toJson.elementsAt? "artifacts"
      = some (r.artifacts.map WrittenArtifact.toJson) :=
        Json.elementsAt?_of_mem hkeys (by simp)
  have hreadSteps := Json.mapM_read_map fun s hs =>
    Step.ofJson?_toJson (h.stamps s hs)
  have hreadArtifacts := Json.mapM_read_map fun w (_ : w ∈ r.artifacts) =>
    WrittenArtifact.ofJson?_toJson w
  unfold ofJson?
  rw [hrunId, hfile, hlanguage, hstartedAt, hduration, hinput, houtput, hsteps,
    hartifacts, errorOfJson?_toJson]
  simp only [Option.bind_eq_bind, Option.bind_some, Language.ofJson_id,
    Except.toOption, Instant.parse?_render h.startedAt, hreadSteps,
    hreadArtifacts]

/-- The numbers of a report are lengths and a duration, so they have no
sign and no fraction. -/
theorem hasNaturals_toJson (r : Report) : r.toJson.HasNaturals := by
  have hsteps : Json.ElementsHaveNaturals (r.steps.map Step.toJson) := by
    rw [Json.elementsHaveNaturals_iff, List.forall_mem_map]
    exact fun s _ => s.hasNaturals_toJson
  have hartifacts : Json.ElementsHaveNaturals
      (r.artifacts.map WrittenArtifact.toJson) := by
    rw [Json.elementsHaveNaturals_iff, List.forall_mem_map]
    exact fun w _ => w.hasNaturals_toJson
  have herror : Json.MembersHaveNaturals (errorMember r.error) := by
    cases r.error with
    | none => exact trivial
    | some e => exact ⟨trivial, trivial⟩
  exact ⟨trivial, trivial, trivial, trivial, ⟨_, rfl⟩, ⟨_, rfl⟩, ⟨_, rfl⟩,
    hsteps, hartifacts, herror⟩

-- ============================================================== the text

/-- The document that shows a report tells all of it, in order, and an error
exactly if something went wrong; and no other report is shown by it. -/
theorem render_json_lossless (r : Report) (h : r.IsShown) :
    (∃ document, Json.parse? (r.render .json) = some document
        ∧ ofJson? document = some r
        ∧ document.keys
          = standingKeys ++ (if r.succeeded then [] else ["error"])
        ∧ ("error" ∈ document.keys ↔ r.succeeded = false))
      ∧ ∀ r' : Report, r'.IsShown → r'.render .json = r.render .json →
        r' = r := by
  have hparse : Json.parse? (r.render .json) = some r.toJson :=
    Json.parse?_pretty r.hasNaturals_toJson
  refine ⟨⟨r.toJson, hparse, ofJson?_toJson h, r.keys_toJson,
    r.error_mem_keys_toJson⟩, ?_⟩
  intro r' h' htext
  have hvalue : r'.toJson = r.toJson :=
    Json.pretty_injective r'.hasNaturals_toJson r.hasNaturals_toJson htext
  have hreport := ofJson?_toJson h'
  rw [hvalue, ofJson?_toJson h] at hreport
  exact (Option.some.inj hreport).symm

/-- A report with quotes, backslashes, control characters, letters beyond
ASCII and a leap second. -/
def peculiar : Report where
  runId := "6f9619ff-8b86-4d01-b42d-00c04fc964ff"
  file := "café \"x\"\\new.js"
  language := .javascript
  startedAt := ⟨1483228799, 1000000001⟩
  duration := 18446744073709551615
  inputLength := 0
  outputLength := 12
  steps :=
    [⟨"a\tb", "\x7b\"id\": [\x7d", .completed, "", ⟨-62167219201, 500000⟩⟩,
      ⟨"", "\\u0041 \x00\x1f\x7f", .error, "𝄞\r\n", ⟨253402300800, 0⟩⟩]
  artifacts := [⟨.source, "out/\\\"\n.js", 12⟩]
  error := some "null"

/-- A report that has quotes, control characters and a leap second comes
back. -/
theorem render_json_lossless_peculiar :
    peculiar.IsShown
      ∧ ∃ document, Json.parse? (peculiar.render .json) = some document
        ∧ ofJson? document = some peculiar ∧ "error" ∈ document.keys := by
  have h : peculiar.IsShown := by decide
  obtain ⟨⟨document, hparse, hread, -, herror⟩, -⟩ :=
    render_json_lossless peculiar h
  exact ⟨h, document, hparse, hread, herror.2 rfl⟩

end Report

end Obfuscator
