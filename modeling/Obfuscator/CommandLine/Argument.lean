/-
The arguments of a command line.

A flag stands for itself; a setting takes a value. Each has a long name,
after two dashes, and some have a short one, a letter after a single dash;
letters can be put together. Three arguments are known everywhere, the
others to one or both commands.
-/
namespace Obfuscator.CommandLine

/-- Where on the command line an argument stands: before the command or
after it. -/
inductive Scope
  | root
  | obfuscate
  | languages
  deriving DecidableEq, Repr

/-- An argument without a value. -/
inductive Flag
  | verbose
  | quiet
  | rename
  | junk
  | mutate
  | canary
  | executable
  | hardwareBinding
  | all
  | defaults
  | instant
  | help
  | version
  deriving DecidableEq, Repr

/-- An argument with a value. -/
inductive Setting
  | logLevel
  | apiKey
  | licenseKey
  | config
  | language
  | outputDirectory
  | format
  deriving DecidableEq, Repr

-- ================================================================== names

namespace Flag

/-- Every flag. -/
def every : List Flag :=
  [verbose, quiet, rename, junk, mutate, canary, executable, hardwareBinding,
    all, defaults, instant, help, version]

def long : Flag → String
  | verbose => "verbose"
  | quiet => "quiet"
  | rename => "rename"
  | junk => "junk"
  | mutate => "ai-mutate"
  | canary => "canary"
  | executable => "exe"
  | hardwareBinding => "hardware-binding"
  | all => "all"
  | defaults => "defaults"
  | instant => "instant"
  | help => "help"
  | version => "version"

def short : Flag → Option Char
  | verbose => some 'v'
  | quiet => some 'q'
  | help => some 'h'
  | version => some 'V'
  | _ => none

/-- Whether a flag is known at a place. -/
def isKnownIn (f : Flag) (s : Scope) : Bool :=
  match f with
  | verbose => true
  | quiet => true
  | help => true
  | version => s = .root
  | _ => s = .obfuscate

end Flag

namespace Setting

/-- Every setting. -/
def every : List Setting :=
  [logLevel, apiKey, licenseKey, config, language, outputDirectory, format]

def long : Setting → String
  | logLevel => "log-level"
  | apiKey => "openai-api-key"
  | licenseKey => "license-key"
  | config => "config"
  | language => "language"
  | outputDirectory => "output-dir"
  | format => "format"

def short : Setting → Option Char
  | config => some 'c'
  | language => some 'l'
  | outputDirectory => some 'o'
  | format => some 'f'
  | _ => none

/-- Whether a setting is known at a place. -/
def isKnownIn (t : Setting) (s : Scope) : Bool :=
  match t with
  | logLevel => true
  | format => s ≠ .root
  | _ => s = .obfuscate

/-- Whether the value of a setting is a path, which cannot be empty. -/
def isPath : Setting → Bool
  | config => true
  | outputDirectory => true
  | _ => false

end Setting

-- ================================================================= lookup

/-- A known argument. -/
inductive Argument
  | flag (f : Flag)
  | setting (t : Setting)
  deriving DecidableEq, Repr

namespace Argument

/-- The arguments that are known at a place. -/
def known (s : Scope) : List Argument :=
  (Flag.every.filter (·.isKnownIn s)).map flag ++
    (Setting.every.filter (·.isKnownIn s)).map setting

def long : Argument → String
  | flag f => f.long
  | setting t => t.long

def short : Argument → Option Char
  | flag f => f.short
  | setting t => t.short

/-- The argument with a given long name; it has to be given in full. -/
def ofLong? (s : Scope) (name : String) : Option Argument :=
  (known s).find? fun a => a.long = name

/-- The argument with a given short name. -/
def ofShort? (s : Scope) (c : Char) : Option Argument :=
  (known s).find? fun a => a.short = some c

end Argument

-- ================================================================== words

/-- A word of a command line, by its form alone. -/
inductive Word
  /-- Two dashes: no word after it is an argument. -/
  | divider
  /-- A long name, and the value after an equals sign. -/
  | long (name : String) (value : Option String)
  /-- Short names put together. -/
  | shorts (names : List Char)
  /-- Anything else; a single dash is no argument. -/
  | plain
  deriving DecidableEq, Repr

/-- Divides a long name from its value. -/
def splitValue (s : List Char) : Word :=
  .long (String.ofList (s.takeWhile (· ≠ '=')))
    (match s.dropWhile (· ≠ '=') with
      | [] => none
      | _ :: value => some (String.ofList value))

/-- The form of a word. -/
def Word.of (text : String) : Word :=
  match text.toList with
  | ['-', '-'] => divider
  | '-' :: '-' :: rest => splitValue rest
  | ['-'] => plain
  | '-' :: rest => shorts rest
  | _ => plain

end Obfuscator.CommandLine
