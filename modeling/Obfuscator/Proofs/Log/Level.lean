/-
Which texts name a level, and which level counts.

Levels are looked up in lower case by the full rules, so texts from outside
ASCII have to be shown not to slip in. The names of levels are plain, ASCII
without a "k", and therefore nothing becomes one of them but the name itself
in other capitals (`parse_eq_ok_iff`).

At most one text is looked up: the one on the command line, or, where no
switch settles the level, the one in the environment (`levelText?`). So
settings cannot be had exactly where that text names no level, and a
malformed text that does not count is not even read.
-/
import Obfuscator.Proofs.Log.Settings
import Obfuscator.Proofs.Text.Lowercase
import Obfuscator.Proofs.World.Requests

namespace Obfuscator

open World (Action FileSystem Machine)

namespace Log

-- ================================================================= names

namespace Level

/-- The names of a level in lower case. -/
def names : Level → List String
  | trace => ["trace"]
  | debug => ["debug"]
  | info => ["info"]
  | warn => ["warn", "warning"]
  | error => ["error"]

/-- A text is a name of a level, in any capitals. -/
def IsNamed (l : Level) (text : String) : Prop :=
  ∃ name ∈ l.names, Text.SameButCase text name

/-- A level is looked up by its names. -/
theorem ofLowercase?_eq_some_iff {s : String} {l : Level} :
    ofLowercase? s = some l ↔ s ∈ l.names := by
  constructor
  · intro h
    unfold ofLowercase? at h
    split at h
    case isTrue hs => cases h; simp [names, hs]
    case isFalse =>
      split at h
      case isTrue hs => cases h; simp [names, hs]
      case isFalse =>
        split at h
        case isTrue hs => cases h; simp [names, hs]
        case isFalse =>
          split at h
          case isTrue hs => cases h; simp [names, hs]
          case isFalse =>
            split at h
            case isTrue hs => cases h; simp [names, hs]
            case isFalse => cases h
  · have hall : ∀ l' : Level,
      ∀ name ∈ l'.names, ofLowercase? name = some l' := by
      intro l'
      cases l' <;> decide
    exact hall l s

/-- Nothing but a name of a level becomes one in lower case. -/
theorem lowercase_mem_names_iff {l : Level} {text : String} :
    Text.lowercase text ∈ l.names ↔ l.IsNamed text := by
  have hplain : ∀ name ∈ l.names, (∀ a ∈ name.toList, Text.IsPlain a)
      ∧ Text.asciiFold name = name.toList := by
    have hall : ∀ name ∈ l.names,
      (name.toList.all fun a => decide (Text.IsPlain a)) = true
        ∧ Text.asciiFold name = name.toList := by
      cases l <;> decide
    intro name hname
    obtain ⟨hplain, hsmall⟩ := hall name hname
    exact ⟨fun a ha => of_decide_eq_true (List.all_eq_true.1 hplain a ha),
      hsmall⟩
  constructor
  · intro h
    obtain ⟨hname, hsmall⟩ := hplain _ h
    exact ⟨_, h, (Text.lowercase_eq_iff_sameButCase hname hsmall).1 rfl⟩
  · intro h
    obtain ⟨name, hmem, hsame⟩ := h
    obtain ⟨hname, hsmall⟩ := hplain name hmem
    rw [(Text.lowercase_eq_iff_sameButCase hname hsmall).2 hsame]
    exact hmem

/-- A text is read as the level that it names. -/
theorem parse_eq_ok_iff {text : String} {l : Level} :
    parse text = .ok l ↔ l.IsNamed text := by
  rw [← lowercase_mem_names_iff, ← ofLowercase?_eq_some_iff, parse]
  cases ofLowercase? (Text.lowercase text) with
  | none => simp
  | some found => simp

/-- A text that names no level is given back as it is. -/
theorem parse_eq_error_iff {text : String} {e : UnknownLevel} :
    parse text = .error e ↔ e.text = text ∧ ∀ l : Level, ¬ l.IsNamed text := by
  simp only [← parse_eq_ok_iff, parse]
  cases ofLowercase? (Text.lowercase text) with
  | none =>
      cases e
      simp [eq_comm]
  | some found => simp

/-- The level where no text names one. -/
def ofSwitches (verbose quiet : Bool) : Level :=
  if verbose then debug else if quiet then error else info

end Level

end Log

-- ================================================== the level that counts

variable {F : FileSystem}

namespace World.Machine

/-- The text that names the level, if one does: the one that is asked for,
or else, where there is no switch either, the one in the environment. -/
def levelText? (m : Machine F) (asked : Option String) (verbose quiet : Bool) :
    Option String :=
  match asked with
  | some text => some text
  | none => if verbose || quiet then none else m.setting "POLYMORPH_LOG_LEVEL"

/-- The level is that of the text that counts, or else that of the
switches. -/
theorem levelFor_eq (m : Machine F) (asked : Option String)
    (verbose quiet : Bool) :
    m.levelFor asked verbose quiet
      = ((m.levelText? asked verbose quiet).map Log.Level.parse).getD
          (.ok (Log.Level.ofSwitches verbose quiet)) := by
  cases asked with
  | some text => rfl
  | none =>
      cases verbose with
      | true => rfl
      | false =>
          cases quiet with
          | true => rfl
          | false =>
              unfold levelFor levelText?
              cases m.setting "POLYMORPH_LOG_LEVEL" with
              | none => rfl
              | some text => rfl

/-- The level that counts is an error exactly if a text counts that names no
level. -/
theorem levelFor_eq_error_iff {asked : Option String} {verbose quiet : Bool}
    {m : Machine F} {e : Log.UnknownLevel} :
    m.levelFor asked verbose quiet = .error e
      ↔ m.levelText? asked verbose quiet = some e.text ∧ ∀ l : Log.Level,
        ¬ l.IsNamed e.text := by
  rw [levelFor_eq]
  cases m.levelText? asked verbose quiet with
  | none => simp
  | some text =>
      show Log.Level.parse text = .error e ↔ some text = some e.text ∧ _
      rw [Log.Level.parse_eq_error_iff, Option.some_inj]
      constructor
      · intro h
        obtain ⟨htext, hno⟩ := h
        exact ⟨htext.symm, htext ▸ hno⟩
      · intro h
        obtain ⟨htext, hno⟩ := h
        exact ⟨htext.symm, htext ▸ hno⟩

/-- The level that counts is the one that the text names, if one counts. -/
theorem levelFor_eq_ok_iff {asked : Option String} {verbose quiet : Bool}
    {m : Machine F} {l : Log.Level} :
    m.levelFor asked verbose quiet = .ok l
      ↔ match m.levelText? asked verbose quiet with
        | some text => l.IsNamed text
        | none => l = Log.Level.ofSwitches verbose quiet := by
  rw [levelFor_eq]
  cases m.levelText? asked verbose quiet with
  | none => simp [eq_comm]
  | some text => exact Log.Level.parse_eq_ok_iff

end World.Machine

namespace Log.Settings

/-- The form of the log is asked for only if there is a level. -/
theorem lookups_withLevel (level : Except UnknownLevel Level) (m : Machine F) :
    (withLevel level).lookups m
      = if level.toBool then ["POLYMORPH_LOG_JSON"] else [] := by
  cases level with
  | error e => rfl
  | ok level => rfl

/-- The environment is asked for a level only where the command line has
neither a text nor a switch, and for the form of the records only once the
level is known. -/
theorem lookups_ofCommandLine (asked : Option String) (verbose quiet : Bool)
    (m : Machine F) :
    (ofCommandLine asked verbose quiet).lookups m
      = (if asked.isNone && !verbose && !quiet
          then ["POLYMORPH_LOG_LEVEL"] else [])
        ++ (if (m.levelFor asked verbose quiet).toBool
          then ["POLYMORPH_LOG_JSON"] else []) := by
  cases asked with
  | some text => exact lookups_withLevel (Level.parse text) m
  | none =>
      cases verbose with
      | true => rfl
      | false =>
          cases quiet with
          | true => rfl
          | false =>
              have henv : (ofCommandLine none false false).lookups m
                  = ofEnvironment.lookups m := rfl
              have hlevel : levelFromEnvironment.lookups m
                  = ["POLYMORPH_LOG_LEVEL"] := by
                rw [levelFromEnvironment, Action.lookups_bind,
                  Action.runOn_setting?]
                cases m.setting "POLYMORPH_LOG_LEVEL" with
                | none => rfl
                | some text => rfl
              rw [henv, ofEnvironment, Action.lookups_bind,
                runOn_levelFromEnvironment, hlevel, lookups_withLevel]
              rfl

/-- The settings are refused for the level alone. -/
theorem map_settingsAt_eq_error_iff {level : Except UnknownLevel Level}
    {m : Machine F} {e : UnknownLevel} :
    level.map m.settingsAt = .error e ↔ level = .error e := by
  cases level with
  | error found => simp [Except.map]
  | ok found => simp [Except.map]

/-- Settings have the level, and JSON exactly if the environment says so.
-/
theorem map_settingsAt_eq_ok_iff {level : Except UnknownLevel Level}
    {m : Machine F} {s : Settings} :
    level.map m.settingsAt = .ok s ↔ level = .ok s.level
      ∧ (s.json = true ↔ m.environment "POLYMORPH_LOG_JSON" = some "true")
      ∧ s.showTarget = true := by
  cases level with
  | error found => simp [Except.map]
  | ok found =>
      obtain ⟨level, json, showTarget⟩ := s
      simp only [Except.map, Machine.settingsAt, Except.ok.injEq,
        Settings.mk.injEq]
      constructor
      · intro h
        obtain ⟨hlevel, hjson, htarget⟩ := h
        exact ⟨hlevel, by rw [← hjson, decide_eq_true_eq], htarget.symm⟩
      · intro h
        obtain ⟨hlevel, hjson, htarget⟩ := h
        refine ⟨hlevel, ?_, htarget.symm⟩
        rw [← Bool.coe_iff_coe, decide_eq_true_eq, hjson]

/-- The level of a command line, and where its settings come from. The level
is the one that is asked for, or else the one for more messages, or else the
one for fewer, or else the one in the environment if there is a text for it,
or else the standard one. Settings cannot be had exactly if the text that
counts is no name of a level in any capitals; the error then tells that
text. Records are written as JSON exactly if the environment says "true".
Finding the settings changes nothing, and the level in the environment is
not even looked at where it does not count. -/
theorem ofCommandLine_resolves (asked : Option String) (verbose quiet : Bool)
    (m : Machine F) :
    ∃ result, (ofCommandLine asked verbose quiet).runOn m = (m, result)
      ∧ (∀ e, result = .error e ↔
          m.levelText? asked verbose quiet = some e.text ∧ ∀ l : Level,
            ¬ l.IsNamed e.text)
      ∧ (∀ s, result = .ok s ↔
          (match m.levelText? asked verbose quiet with
            | some text => s.level.IsNamed text
            | none => s.level = Level.ofSwitches verbose quiet)
          ∧ (s.json = true ↔ m.environment "POLYMORPH_LOG_JSON" = some "true")
          ∧ s.showTarget = true)
      ∧ (ofCommandLine asked verbose quiet).lookups m
        = (if asked.isNone && !verbose && !quiet
            then ["POLYMORPH_LOG_LEVEL"] else [])
          ++ (if result.toBool then ["POLYMORPH_LOG_JSON"] else []) := by
  refine ⟨_, runOn_ofCommandLine asked verbose quiet m,
    fun e => ?_, fun s => ?_, ?_⟩
  · rw [map_settingsAt_eq_error_iff, Machine.levelFor_eq_error_iff]
  · rw [map_settingsAt_eq_ok_iff, Machine.levelFor_eq_ok_iff]
  · rw [lookups_ofCommandLine]
    cases m.levelFor asked verbose quiet with
    | error e => rfl
    | ok level => rfl

end Log.Settings

end Obfuscator
