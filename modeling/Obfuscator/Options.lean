/-
What one run is asked to do: six switches and two credentials.

Everything is off and empty unless it is asked for. A credential counts as
given when it is not empty. Credentials never show in `Options.describe`,
which tells only whether each of them is given.
-/
namespace Obfuscator

/-- What can be switched on: five passes, and the binding to hardware. -/
inductive Switch
  | renameVariables
  | injectJunk
  | mutate
  | injectCanary
  | generateExecutable
  | bindHardware
  deriving DecidableEq, Repr

/-- The two secrets a user may give. -/
inductive Credential
  | licenseKey
  | apiKey
  deriving DecidableEq, Repr

/-- The choices for one run. -/
structure Options where
  renameVariables : Bool := false
  injectJunk : Bool := false
  mutate : Bool := false
  injectCanary : Bool := false
  generateExecutable : Bool := false
  bindHardware : Bool := false
  licenseKey : String := ""
  apiKey : String := ""
  deriving DecidableEq, Repr

namespace Options

-- ======================================= switches and credentials by name

/-- Whether a switch is on. -/
def isOn (o : Options) : Switch → Bool
  | .renameVariables => o.renameVariables
  | .injectJunk => o.injectJunk
  | .mutate => o.mutate
  | .injectCanary => o.injectCanary
  | .generateExecutable => o.generateExecutable
  | .bindHardware => o.bindHardware

/-- Sets a switch. -/
def turn (o : Options) (s : Switch) (on : Bool) : Options :=
  match s with
  | .renameVariables => { o with renameVariables := on }
  | .injectJunk => { o with injectJunk := on }
  | .mutate => { o with mutate := on }
  | .injectCanary => { o with injectCanary := on }
  | .generateExecutable => { o with generateExecutable := on }
  | .bindHardware => { o with bindHardware := on }

/-- A credential, empty if it is not given. -/
def credential (o : Options) : Credential → String
  | .licenseKey => o.licenseKey
  | .apiKey => o.apiKey

/-- Sets a credential. -/
def setCredential (o : Options) (c : Credential) (key : String) : Options :=
  match c with
  | .licenseKey => { o with licenseKey := key }
  | .apiKey => { o with apiKey := key }

-- ================================================================ presets

/-- The selection for a first run: every pass but the mutation. -/
def recommended : Options where
  renameVariables := true
  injectJunk := true
  injectCanary := true
  generateExecutable := true

/-- Every switch on; credentials stay as they are. -/
def enableAll (o : Options) : Options :=
  { o with
    renameVariables := true
    injectJunk := true
    mutate := true
    injectCanary := true
    generateExecutable := true
    bindHardware := true }

/-- Whether a key for the mutation service is given. -/
def hasApiKey (o : Options) : Bool := !o.apiKey.isEmpty

/-- Whether a license key is given. -/
def hasLicenseKey (o : Options) : Bool := !o.licenseKey.isEmpty

/-- Whether at least one pass is switched on; the hardware binding is no
pass. -/
def anyPassEnabled (o : Options) : Bool :=
  o.renameVariables || o.injectJunk || o.mutate || o.injectCanary
    || o.generateExecutable

-- ================================================================ display

/-- Says of a secret only whether it is there. -/
def redact (secret : String) : String :=
  if secret.isEmpty then "\"<unset>\"" else "\"<redacted>\""

/-- The options on one line, fit for a log: no credential shows. -/
def describe (o : Options) : String :=
  "ObfuscationConfig \x7b variable_renaming: " ++ toString o.renameVariables ++
  ", junk_code_injection: " ++ toString o.injectJunk ++
  ", ai_mutation: " ++ toString o.mutate ++
  ", canary_injection: " ++ toString o.injectCanary ++
  ", executable_generation: " ++ toString o.generateExecutable ++
  ", hardware_binding: " ++ toString o.bindHardware ++
  ", license_key: " ++ redact o.licenseKey ++
  ", openai_api_key: " ++ redact o.apiKey ++ " \x7d"

end Options

end Obfuscator
