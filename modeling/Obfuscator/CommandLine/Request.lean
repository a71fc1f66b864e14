/-
What a command line asks for.

A request is a command with what belongs to it, and what holds for every
command. The request to obfuscate a file is laid over the options that
configuration and environment give: it only ever switches something on, and
a credential replaces the one from there unless it is empty.
-/
import Obfuscator.Options
import Obfuscator.Report.Format

namespace Obfuscator

/-- The request to obfuscate a file. -/
structure ObfuscateRequest where
  /-- The path of the file. -/
  file : String
  rename : Bool := false
  junk : Bool := false
  mutate : Bool := false
  canary : Bool := false
  executable : Bool := false
  hardwareBinding : Bool := false
  /-- Everything at once. -/
  all : Bool := false
  /-- The selection for a first run. -/
  defaults : Bool := false
  apiKey : Option String := none
  licenseKey : Option String := none
  /-- The path of a configuration file. -/
  config : Option String := none
  /-- The id of a language, in place of the one that the name of the file
  tells. -/
  language : Option String := none
  /-- The directory for what is written. -/
  outputDirectory : Option String := none
  format : Format := .human
  /-- Whether the pauses are left out. -/
  instant : Bool := false
  deriving DecidableEq, Repr

/-- What is to be done. -/
inductive Command
  | obfuscate (r : ObfuscateRequest)
  | languages (f : Format)
  deriving DecidableEq, Repr

/-- A whole command line. -/
structure Request where
  command : Command
  logLevel : Option String := none
  verbose : Bool := false
  quiet : Bool := false
  deriving DecidableEq, Repr

namespace Options

/-- The switches that are on in either of two options, with the credentials
of the first. -/
def orSwitches (o p : Options) : Options :=
  { o with
    renameVariables := o.renameVariables || p.renameVariables
    injectJunk := o.injectJunk || p.injectJunk
    mutate := o.mutate || p.mutate
    injectCanary := o.injectCanary || p.injectCanary
    generateExecutable := o.generateExecutable || p.generateExecutable
    bindHardware := o.bindHardware || p.bindHardware }

/-- Sets a credential to one that is given and not empty. -/
def replaceCredential (o : Options) (c : Credential) (key : Option String) :
    Options :=
  match key with
  | some key => if key.isEmpty then o else o.setCredential c key
  | none => o

end Options

namespace ObfuscateRequest

/-- The switches that a request names one by one. -/
def switches (r : ObfuscateRequest) : Options where
  renameVariables := r.rename
  injectJunk := r.junk
  mutate := r.mutate
  injectCanary := r.canary
  generateExecutable := r.executable
  bindHardware := r.hardwareBinding

/-- Options with a request laid over them. -/
def applyTo (r : ObfuscateRequest) (o : Options) : Options :=
  let o := if r.defaults then o.orSwitches .recommended else o
  let o := if r.all then o.enableAll else o
  let o := o.orSwitches r.switches
  (o.replaceCredential .apiKey r.apiKey).replaceCredential .licenseKey
    r.licenseKey

end ObfuscateRequest

end Obfuscator
