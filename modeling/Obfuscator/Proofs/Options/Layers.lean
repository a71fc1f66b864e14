/-
Which layer counts.

Four layers say what a run is asked to do: a configuration file, two kinds
of variables in the environment, and the request itself. They are laid over
each other in an order that is not the order in which they count. This file
says what comes of it, layer by layer and without that order: a switch is on
if any layer turns it on, and a credential is the first one that is given
(`firstGiven`).

# The reading

Settling a request asks the machine questions and changes nothing on it. So
every action here has one equation, `runOn_…`, that gives its answer as a
value; the equation of `resolve` follows from those of its parts, so that
the theorem is about values alone. What ties the two orders together is
`firstGiven_nested`: the first key of some layers, taken as one layer, is as
good as the layers.
-/
import Obfuscator.Program.Obfuscate
import Obfuscator.Proofs.World.Talk

namespace Obfuscator

open World (Action FileSystem Machine Path)

-- ================================================================= keys

/-- The first of some keys that is there and not empty; the empty key if
there is none. -/
def firstGiven : List (Option String) → String
  | [] => ""
  | none :: rest => firstGiven rest
  | some key :: rest => if key.isEmpty then firstGiven rest else key

/-- An empty credential counts as none, so the next layer is asked. -/
theorem firstGiven_cons_of_empty {key : String} (h : key.isEmpty = true)
    (rest : List (Option String)) :
    firstGiven (some key :: rest) = firstGiven rest :=
  if_pos h

/-- A credential that is not empty settles the matter. -/
theorem firstGiven_cons_of_not_empty {key : String} (h : key.isEmpty = false)
    (rest : List (Option String)) : firstGiven (some key :: rest) = key :=
  if_neg (Bool.eq_false_iff.1 h)

/-- A key alone is what it is. -/
theorem firstGiven_singleton (key : String) : firstGiven [some key] = key := by
  cases hkey : key.isEmpty with
  | true =>
      rw [firstGiven_cons_of_empty hkey]
      exact (String.isEmpty_iff.1 hkey).symm
  | false => exact firstGiven_cons_of_not_empty hkey []

/-- What the last layers come to can stand for them. -/
theorem firstGiven_nested (key : Option String) (rest : List (Option String)) :
    firstGiven [key, some (firstGiven rest)] = firstGiven (key :: rest) := by
  cases key with
  | none => exact firstGiven_singleton (firstGiven rest)
  | some key =>
      cases hkey : key.isEmpty with
      | true =>
          rw [firstGiven_cons_of_empty hkey, firstGiven_cons_of_empty hkey,
            firstGiven_singleton]
      | false =>
          rw [firstGiven_cons_of_not_empty hkey,
            firstGiven_cons_of_not_empty hkey]

/-- There is no key exactly if no layer has one. -/
theorem firstGiven_eq_empty_iff (keys : List (Option String)) :
    firstGiven keys = "" ↔ ∀ key ∈ keys, key.getD "" = "" := by
  induction keys with
  | nil => simp [firstGiven]
  | cons key rest ih =>
      rw [List.forall_mem_cons, ← ih]
      cases key with
      | none => simp [firstGiven]
      | some key =>
          cases hkey : key.isEmpty with
          | true =>
              rw [firstGiven_cons_of_empty hkey]
              simp [String.isEmpty_iff.1 hkey]
          | false =>
              have hne : key ≠ "" := fun heq => by simp [heq] at hkey
              rw [firstGiven_cons_of_not_empty hkey]
              simp [hne]

-- ============================================================== options

namespace Options

@[simp]
theorem isOn_setCredential (o : Options) (c : Credential) (key : String)
    (s : Switch) :
    (o.setCredential c key).isOn s = o.isOn s := by
  cases c <;> cases s <;> rfl

/-- Setting a credential changes that one and not the other. -/
@[simp]
theorem credential_setCredential (o : Options) (c d : Credential)
    (key : String) :
    (o.setCredential c key).credential d
      = if d = c then key else o.credential d := by
  cases c <;> cases d <;> rfl

/-- Setting a credential to itself changes nothing. -/
theorem setCredential_credential (o : Options) (c : Credential) :
    o.setCredential c (o.credential c) = o := by
  cases c <;> rfl

/-- A switch is on if it is on in one of two layers. -/
@[simp]
theorem isOn_orSwitches (o p : Options) (s : Switch) :
    (o.orSwitches p).isOn s = (o.isOn s || p.isOn s) := by
  cases s <;> rfl

@[simp]
theorem credential_orSwitches (o p : Options) (c : Credential) :
    (o.orSwitches p).credential c = o.credential c := by
  cases c <;> rfl

@[simp]
theorem isOn_enableAll (o : Options) (s : Switch) :
    o.enableAll.isOn s = true := by
  cases s <;> rfl

@[simp]
theorem credential_enableAll (o : Options) (c : Credential) :
    o.enableAll.credential c = o.credential c := by
  cases c <;> rfl

/-- The switches of a first run. -/
theorem isOn_recommended (s : Switch) :
    recommended.isOn s
      = decide (s ∈ [.renameVariables, .injectJunk, .injectCanary,
        .generateExecutable]) := by
  cases s <;> rfl

/-- A credential that is replaced is the first given of the two. -/
theorem replaceCredential_eq (o : Options) (c : Credential)
    (key : Option String) :
    o.replaceCredential c key
      = o.setCredential c (firstGiven [key, some (o.credential c)]) := by
  cases key with
  | none =>
      have hsame : firstGiven [none, some (o.credential c)] = o.credential c :=
        firstGiven_singleton (o.credential c)
      rw [hsame, setCredential_credential]
      rfl
  | some key =>
      cases hkey : key.isEmpty with
      | true =>
          rw [firstGiven_cons_of_empty hkey, firstGiven_singleton,
            setCredential_credential]
          exact if_pos hkey
      | false =>
          rw [firstGiven_cons_of_not_empty hkey]
          exact if_neg (Bool.eq_false_iff.1 hkey)

end Options

-- ========================================================== the request

namespace ObfuscateRequest

/-- Whether a request names a switch by its own flag. -/
def asksFor (r : ObfuscateRequest) : Switch → Bool
  | .renameVariables => r.rename
  | .injectJunk => r.junk
  | .mutate => r.mutate
  | .injectCanary => r.canary
  | .generateExecutable => r.executable
  | .bindHardware => r.hardwareBinding

/-- The credential that a request gives. -/
def credential? (r : ObfuscateRequest) : Credential → Option String
  | .apiKey => r.apiKey
  | .licenseKey => r.licenseKey

/-- The switches of a request are those that it asks for. -/
theorem isOn_switches (r : ObfuscateRequest) (s : Switch) :
    r.switches.isOn s = r.asksFor s := by
  cases s <;> rfl

/-- A request only ever turns something on. -/
theorem isOn_applyTo (r : ObfuscateRequest) (o : Options) (s : Switch) :
    (r.applyTo o).isOn s
      = (o.isOn s || r.asksFor s || r.all
        || (r.defaults
          && decide (s ∈ [.renameVariables, .injectJunk, .injectCanary,
            .generateExecutable]))) := by
  rw [← Options.isOn_recommended, ← isOn_switches, applyTo]
  simp only [Options.replaceCredential_eq, Options.isOn_setCredential,
    Options.isOn_orSwitches]
  cases r.all with
  | true => simp
  | false =>
      cases r.defaults with
      | false => simp
      | true => simp [Bool.or_right_comm]

/-- A credential of the request comes before that of the options. -/
theorem credential_applyTo (r : ObfuscateRequest) (o : Options)
    (c : Credential) :
    (r.applyTo o).credential c
      = firstGiven [r.credential? c, some (o.credential c)] := by
  have hbase : ∀ d : Credential,
      ((if r.all
        then (if r.defaults then o.orSwitches .recommended else o).enableAll
        else (if r.defaults then o.orSwitches .recommended else o)).orSwitches
          r.switches).credential d = o.credential d := by
    intro d
    cases r.all <;> cases r.defaults <;> simp
  simp only [applyTo, Options.replaceCredential_eq,
    Options.credential_setCredential, hbase]
  cases c with
  | apiKey => rfl
  | licenseKey => rfl

end ObfuscateRequest

-- ========================================================= the questions

variable {F : FileSystem}

namespace World.Machine

/-- The directory for configuration files: the one that the environment
names by a path from the root, or else one in the home directory. -/
def configFolder (m : Machine F) : Option String :=
  ((m.setting "XDG_CONFIG_HOME").filter Path.isAbsolute).or
    (((m.setting "HOME").or m.accountHome).map fun home =>
      Path.join home ".config")

/-- The place of the configuration file if none is named. -/
def usualConfigFile (m : Machine F) : Option String :=
  m.configFolder.map fun directory =>
    Path.join (Path.join directory "polymorph") "config.toml"

/-- The configuration file that counts: the one that is asked for, or else
the one that the environment names, or else the one in the usual place, if
there is a file. -/
def configFile? (m : Machine F) (asked : Option String) : Option String :=
  (asked.or (m.setting "POLYMORPH_CONFIG")).or
  (m.usualConfigFile.filter (F.isFile m.disk))

/-- What the file under a path gives. -/
def optionsIn (m : Machine F) (path : String) :
    Except ConfigFileError Options :=
  match F.readText m.disk path with
  | .error reason => .error (.unreadable path reason)
  | .ok text =>
    match Options.ofDocument text with
    | .error reason => .error (.invalid path reason)
    | .ok o => .ok o

/-- What the configuration file that counts gives; without one, everything
is off. -/
def fileOptions (m : Machine F) (asked : Option String) :
    Except ConfigFileError Options :=
  match m.configFile? asked with
  | none => .ok {}
  | some path => m.optionsIn path

/-- Talk does not change what the configuration gives. -/
theorem UpToTalk.fileOptions {m m' : Machine F} (h : UpToTalk m m')
    (asked : Option String) :
    m'.fileOptions asked = m.fileOptions asked := by
  have hfile : m'.configFile? asked = m.configFile? asked := by
    simp only [configFile?, usualConfigFile, configFolder, h.setting,
      h.accountHome, h.disk]
  rw [Machine.fileOptions, Machine.fileOptions, hfile]
  cases m.configFile? asked with
  | none => rfl
  | some path => simp only [optionsIn, h.disk]

end World.Machine

namespace Options

variable (m : Machine F)

/-- The options in a file are read without a change of the machine. -/
theorem runOn_ofFile (path : String) :
    (ofFile path).runOn m = (m, m.optionsIn path) := by
  rw [ofFile, Action.runOn_bind, Action.runOn_readText, Machine.optionsIn]
  cases F.readText m.disk path with
  | error reason => rfl
  | ok text =>
      dsimp only
      cases ofDocument text with
      | error reason => rfl
      | ok o => rfl

/-- The home directory is that of the environment, or else that of the
account. -/
theorem runOn_homeDirectory :
    homeDirectory.runOn m = (m, (m.setting "HOME").or m.accountHome) := by
  rw [homeDirectory, Action.runOn_bind, Action.runOn_setting?]
  cases m.setting "HOME" with
  | none => rfl
  | some home => rfl

theorem runOn_inHome :
    configDirectory.inHome.runOn m
      = (m, ((m.setting "HOME").or m.accountHome).map fun home =>
        Path.join home ".config") := by
  rw [configDirectory.inHome, Action.runOn_bind, runOn_homeDirectory]
  rfl

/-- The folder for configurations is looked up without a change of the
machine. -/
theorem runOn_configDirectory :
    configDirectory.runOn m = (m, m.configFolder) := by
  rw [configDirectory, Action.runOn_bind, Action.runOn_setting?,
    Machine.configFolder]
  cases m.setting "XDG_CONFIG_HOME" with
  | none => exact runOn_inHome m
  | some directory =>
      dsimp only
      rw [Option.filter_some]
      split
      · rfl
      · exact runOn_inHome m

theorem runOn_defaultPath : defaultPath.runOn m = (m, m.usualConfigFile) := by
  rw [defaultPath, Action.runOn_bind, runOn_configDirectory]
  rfl

/-- The file that is asked for comes before the one that the environment
names. -/
theorem runOn_explicitPath (asked : Option String) :
    (explicitPath asked).runOn m
      = (m, asked.or (m.setting "POLYMORPH_CONFIG")) := by
  cases asked with
  | none => rfl
  | some path => rfl

/-- Which file is read, and what it gives, is told by `fileOptions`. -/
theorem runOn_readConfiguration (asked : Option String) :
    (readConfiguration asked).runOn m = (m, m.fileOptions asked) := by
  rw [readConfiguration, Action.runOn_bind, runOn_explicitPath,
    Machine.fileOptions, Machine.configFile?]
  cases asked.or (m.setting "POLYMORPH_CONFIG") with
  | some path => exact runOn_ofFile m path
  | none =>
      dsimp only
      rw [Action.runOn_bind, runOn_defaultPath, Option.none_or]
      cases m.usualConfigFile with
      | none => rfl
      | some path =>
          dsimp only
          rw [Action.runOn_bind, Action.runOn_isFile, Option.filter_some]
          by_cases hfile : F.isFile m.disk path = true
          · rw [if_pos hfile, if_pos hfile]
            exact runOn_ofFile m path
          · rw [if_neg hfile, if_neg hfile]
            rfl

/-- Asking for variables in turn gives the first that is set and not empty. -/
theorem runOn_firstVariable? :
    ∀ names : List String,
      ∃ found : Option String, (firstVariable? names).runOn m = (m, found)
        ∧ found.getD "" = firstGiven (names.map m.environment) := by
  intro names
  induction names with
  | nil => exact ⟨none, rfl, rfl⟩
  | cons name rest ih =>
      rw [firstVariable?, Action.runOn_bind, Action.runOn_setting?,
        List.map_cons, Machine.setting]
      cases m.environment name with
      | none => exact ih
      | some value =>
          cases hvalue : value.isEmpty with
          | true =>
              rw [firstGiven_cons_of_empty hvalue]
              simp only [Option.filter_some, hvalue, Bool.not_true,
                Bool.false_eq_true, if_false]
              exact ih
          | false =>
              rw [firstGiven_cons_of_not_empty hvalue]
              simp only [Option.filter_some, hvalue, Bool.not_false, if_true]
              exact ⟨some value, rfl, rfl⟩

/-- Options with a credential filled in from the environment. -/
def fillFrom (o : Options) (c : Credential) : Options :=
  o.setCredential c
    (firstGiven (some (o.credential c)
      :: (credentialVariables c).map m.environment))

/-- Options with both credentials filled in from the environment. -/
def filledFrom (o : Options) : Options :=
  fillFrom m (fillFrom m o .apiKey) .licenseKey

@[simp]
theorem isOn_filledFrom (o : Options) (s : Switch) :
    (filledFrom m o).isOn s = o.isOn s := by
  simp [filledFrom, fillFrom]

/-- Each credential is filled in by itself. -/
@[simp]
theorem credential_filledFrom (o : Options) (c : Credential) :
    (filledFrom m o).credential c
      = firstGiven (some (o.credential c)
        :: (credentialVariables c).map m.environment) := by
  cases c with
  | apiKey => simp [filledFrom, fillFrom]
  | licenseKey => simp [filledFrom, fillFrom]

/-- A credential is filled in from the environment unless it is given. -/
theorem runOn_fillCredential (o : Options) (c : Credential) :
    (o.fillCredential c).runOn m = (m, fillFrom m o c) := by
  rw [fillCredential, fillFrom]
  cases hkey : (o.credential c).isEmpty with
  | false =>
      rw [firstGiven_cons_of_not_empty hkey, setCredential_credential]
      rfl
  | true =>
      obtain ⟨found, hask, hfound⟩ :=
        runOn_firstVariable? m (credentialVariables c)
      rw [if_pos rfl, Action.runOn_bind, hask, firstGiven_cons_of_empty hkey,
        ← hfound]
      cases found with
      | some value => rfl
      | none =>
          have hsame : o.setCredential c "" = o := by
            rw [← String.isEmpty_iff.1 hkey, setCredential_credential]
          rw [Option.getD_none, hsame]
          rfl

/-- Filling in the credentials asks the environment and changes nothing.
-/
theorem runOn_fillCredentials (o : Options) :
    o.fillCredentials.runOn m = (m, filledFrom m o) := by
  rw [fillCredentials, Action.runOn_bind, runOn_fillCredential m o .apiKey]
  exact runOn_fillCredential m (fillFrom m o .apiKey) .licenseKey

end Options

-- ============================================================ the whole

namespace ObfuscateRequest

/-- The keys that the layers have for a credential, the layer that counts
most first. -/
def credentialLayers (r : ObfuscateRequest) (m : Machine F) (file : Options) :
    Credential → List (Option String)
  | .apiKey =>
    [r.apiKey, some file.apiKey, m.environment "POLYMORPH_OPENAI_API_KEY",
      m.environment "OPENAI_API_KEY"]
  | .licenseKey =>
    [r.licenseKey, some file.licenseKey, m.environment "POLYMORPH_LICENSE_KEY"]

/-- What a request comes to, as a value. -/
def resolved (r : ObfuscateRequest) (m : Machine F) :
    Except RequestError Resolved :=
  match m.fileOptions r.config with
  | .error e => .error (.configFile e)
  | .ok file =>
    r.chooseLanguage.map fun language =>
      ⟨r.applyTo (Options.filledFrom m file), language⟩

/-- Settling a request changes nothing. -/
theorem runOn_resolve (r : ObfuscateRequest) (m : Machine F) :
    r.resolve.runOn m = (m, r.resolved m) := by
  rw [resolve, Action.runOn_bind, Options.load, Action.runOn_bind,
    Options.runOn_readConfiguration, resolved]
  cases m.fileOptions r.config with
  | error e => rfl
  | ok file =>
      dsimp only
      rw [Action.runOn_bind, Options.runOn_fillCredentials]
      rfl

/-- A credential is the first that is given by the request, the file or
the environment. -/
theorem credential_applyTo_filledFrom (r : ObfuscateRequest) (m : Machine F)
    (file : Options) (c : Credential) :
    (r.applyTo (Options.filledFrom m file)).credential c
      = firstGiven (r.credentialLayers m file c) := by
  rw [credential_applyTo, Options.credential_filledFrom, firstGiven_nested]
  cases c with
  | apiKey => rfl
  | licenseKey => rfl

/-- What a request comes to. Settling it changes nothing. It fails where the
configuration file that counts cannot be used; otherwise a switch is on
exactly if the file, its own flag, the flag for everything or, for four of
them, the flag for a first run says so, and a credential is the first one
given on the command line, in the file or in the environment. So what a
layer turns on stays on, and a credential is empty only if it is in every
layer. -/
theorem resolve_by_layers (r : ObfuscateRequest) (m : Machine F) :
    (r.resolve.runOn m).1 = m
      ∧ (∀ e, m.fileOptions r.config = .error e →
          (r.resolve.runOn m).2 = .error (.configFile e))
      ∧ ∀ file, m.fileOptions r.config = .ok file →
          ∃ o : Options,
            (r.resolve.runOn m).2
                = r.chooseLanguage.map (fun language => ⟨o, language⟩)
              ∧ (∀ s, o.isOn s
                  = (file.isOn s || r.asksFor s || r.all
                    || (r.defaults
                      && decide (s ∈ [.renameVariables, .injectJunk,
                        .injectCanary, .generateExecutable]))))
              ∧ (∀ c, o.credential c = firstGiven
                (r.credentialLayers m file c))
              ∧ (∀ s, file.isOn s = true → o.isOn s = true)
              ∧ ∀ c, o.credential c = ""
                  ↔ ∀ key ∈ r.credentialLayers m file c, key.getD "" = "" := by
  rw [runOn_resolve]
  refine ⟨rfl, ?_, ?_⟩
  · intro e hfile
    rw [resolved, hfile]
  · intro file hfile
    refine ⟨r.applyTo (Options.filledFrom m file), ?_, ?_, ?_, ?_, ?_⟩
    · rw [resolved, hfile]
    · intro s
      rw [isOn_applyTo, Options.isOn_filledFrom]
    · exact credential_applyTo_filledFrom r m file
    · intro s hs
      rw [isOn_applyTo, Options.isOn_filledFrom, hs, Bool.true_or,
        Bool.true_or, Bool.true_or]
    · intro c
      rw [credential_applyTo_filledFrom, firstGiven_eq_empty_iff]

end ObfuscateRequest

end Obfuscator
