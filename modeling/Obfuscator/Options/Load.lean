/-
Where the options of a run come from.

A configuration file is looked for in three places: the one that is asked
for, the one that the environment names, and the place where such files are
kept. The first two have to be there; the last may be missing. Credentials
that are still empty are then taken from the environment. No part of the
environment takes back what a file gives, and a variable that is empty
counts as one that is not set.
-/
import Obfuscator.Options.Document
import Obfuscator.World.Action
import Obfuscator.World.Path

namespace Obfuscator

open World (Action OsError Path)

/-- Why a configuration file cannot be used. -/
inductive ConfigFileError
  | unreadable (path : String) (reason : OsError)
  | invalid (path : String) (reason : DocumentError)
  deriving DecidableEq, Repr

def ConfigFileError.message (e : ConfigFileError)
    (notice : DocumentNotice := .heading) :
    String :=
  match e with
  | unreadable path reason =>
    "Failed to read config file " ++ path ++ ": " ++ reason.message
  | invalid path reason =>
    "Failed to parse config file " ++ path ++ ": " ++ reason.message notice

namespace Options

-- ============================================================ the file

/-- The options that a file gives. -/
def ofFile (path : String) : Action (Except ConfigFileError Options) := do
  match ← Action.readText path .done with
  | .error reason => return .error (.unreadable path reason)
  | .ok text =>
    match ofDocument text with
    | .error reason => return .error (.invalid path reason)
    | .ok o => return .ok o

/-- The home directory: that of the environment, or else that of the
account. -/
def homeDirectory : Action (Option String) := do
  match ← Action.setting? "HOME" with
  | some home => return some home
  | none => Action.accountHome .done

/-- The directory for configuration files: the one the environment names, if
that is a path from the root, or else a directory in the home directory. -/
def configDirectory : Action (Option String) := do
  match ← Action.setting? "XDG_CONFIG_HOME" with
  | some directory =>
    if Path.isAbsolute directory then return some directory else inHome
  | none => inHome
where
  inHome : Action (Option String) := do
    return (← homeDirectory).map fun home => Path.join home ".config"

/-- The place of the configuration file if none is named. -/
def defaultPath : Action (Option String) := do
  return (← configDirectory).map fun directory =>
    Path.join (Path.join directory "polymorph") "config.toml"

/-- The file that is asked for, or else the one that the environment names. -/
def explicitPath (asked : Option String) : Action (Option String) :=
  match asked with
  | some path => return some path
  | none => Action.setting? "POLYMORPH_CONFIG"

/-- The options before the environment is looked at for credentials. -/
def readConfiguration (asked : Option String) :
    Action (Except ConfigFileError Options) := do
  match ← explicitPath asked with
  | some path => ofFile path
  | none =>
    match ← defaultPath with
    | none => return .ok {}
    | some path =>
      if ← Action.isFile path .done then ofFile path else return .ok {}

-- ======================================================= the environment

/-- The variables that may hold a credential, the one that counts most
first. -/
def credentialVariables : Credential → List String
  | .apiKey => ["POLYMORPH_OPENAI_API_KEY", "OPENAI_API_KEY"]
  | .licenseKey => ["POLYMORPH_LICENSE_KEY"]

/-- The first of some variables that is set and not empty. -/
def firstVariable? : List String → Action (Option String)
  | [] => return none
  | name :: rest => do
    match ← Action.setting? name with
    | some value => return some value
    | none => firstVariable? rest

/-- Takes a credential from the environment unless it is given. -/
def fillCredential (o : Options) (c : Credential) : Action Options := do
  if (o.credential c).isEmpty then
    match ← firstVariable? (credentialVariables c) with
    | some value => return o.setCredential c value
    | none => return o
  else return o

/-- Takes the credentials that are not given from the environment. -/
def fillCredentials (o : Options) : Action Options := do
  (← o.fillCredential .apiKey).fillCredential .licenseKey

/-- The options that files and environment give; `asked` is the file that
was asked for. -/
def load (asked : Option String) :
    Action (Except ConfigFileError Options) := do
  match ← readConfiguration asked with
  | .error e => return .error e
  | .ok o => return .ok (← o.fillCredentials)

end Options

end Obfuscator
