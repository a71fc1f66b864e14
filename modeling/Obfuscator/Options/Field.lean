/-
The fields of the options as documents name them.

Every field has a name in small letters with underscores and a second name with
capitals in the place of the underscores.
-/
import Obfuscator.Options

namespace Obfuscator

/-- A field of the options. -/
inductive Field
  | switch (s : Switch)
  | credential (c : Credential)
  deriving DecidableEq, Repr

namespace Field

/-- Every field once, in the order in which they are listed. -/
def all : List Field :=
  [switch .renameVariables, switch .injectJunk, switch .mutate,
    switch .injectCanary, switch .generateExecutable, switch .bindHardware,
    credential .licenseKey, credential .apiKey]

/-- The name with underscores. -/
def name : Field → String
  | switch .renameVariables => "variable_renaming"
  | switch .injectJunk => "junk_code_injection"
  | switch .mutate => "ai_mutation"
  | switch .injectCanary => "canary_injection"
  | switch .generateExecutable => "executable_generation"
  | switch .bindHardware => "hardware_binding"
  | credential .licenseKey => "license_key"
  | credential .apiKey => "openai_api_key"

/-- The name with capitals. -/
def camelName : Field → String
  | switch .renameVariables => "variableRenaming"
  | switch .injectJunk => "junkCodeInjection"
  | switch .mutate => "aiMutation"
  | switch .injectCanary => "canaryInjection"
  | switch .generateExecutable => "executableGeneration"
  | switch .bindHardware => "hardwareBinding"
  | credential .licenseKey => "licenseKey"
  | credential .apiKey => "openaiApiKey"

/-- The field that a key names, in either spelling. -/
def ofKey? (key : String) : Option Field :=
  all.find? fun f => f.name = key || f.camelName = key

end Field

end Obfuscator
