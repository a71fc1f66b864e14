/-
Reading command lines.

Words are read from left to right, first those before the command and then
those after it. The value of a setting may come as a word of its own; it is
looked at only when the next argument, or the end, has been reached, so that
a malformed word further on may come first. What is wrong after the command
counts before what is wrong with the words before it taken together.
-/
import Obfuscator.CommandLine.Request
import Obfuscator.CommandLine.Usage

namespace Obfuscator.CommandLine

-- =============================================================== the state

/-- A value that has been met and not been looked at. -/
inductive Pending
  | nothing
  /-- A setting whose value is to be the next word. -/
  | awaiting (t : Setting)
  | value (t : Setting) (text : String)
  | file (text : String)
  deriving DecidableEq, Repr

/-- What has been read at one place. -/
structure Reading where
  flags : List Flag := []
  values : List (Setting × String) := []
  file : Option String := none
  pending : Pending := .nothing
  /-- Whether the divider has been met. -/
  divided : Bool := false
  deriving DecidableEq, Repr

/-- A reading, or the reason to stop. -/
abbrev Result (α : Type) := Except Stop α

/-- Stops for misuse. -/
def refuse {α : Type} (m : Misuse) : Result α := .error (.misuse m)

namespace Reading

/-- The value given for a setting. -/
def value? (r : Reading) (t : Setting) : Option String :=
  (r.values.find? fun entry => decide (entry.1 = t)).map (·.2)

/-- Whether the value of a setting can be accepted. -/
def accepts (t : Setting) (text : String) : Bool :=
  if t.isPath then !text.isEmpty
  else if t = .format then (Format.ofName? text).isSome
  else true

/-- Takes in the value of a setting, which may be given once. -/
def addValue (r : Reading) (t : Setting) (text : String) : Result Reading :=
  if (r.value? t).isSome then refuse (.repeated ("--" ++ t.long))
  else if accepts t text then .ok { r with values := (t, text) :: r.values }
  else refuse (.invalidValue ("--" ++ t.long) text)

/-- Looks at the value that was met last. -/
def settle (r : Reading) : Result Reading :=
  let settled := { r with pending := .nothing }
  match r.pending with
  | .nothing => .ok settled
  | .awaiting t => refuse (.missingValue ("--" ++ t.long))
  | .value t text => settled.addValue t text
  | .file text =>
    if text.isEmpty then refuse (.invalidValue "<FILE>" text)
    else .ok { settled with file := some text }

/-- Takes in a flag, which may be given once. -/
def addFlag (scope : Scope) (r : Reading) (f : Flag) : Result Reading := do
  let r ← r.settle
  if f = .help then throw (.help scope)
  else if f = .version then throw .version
  else if f ∈ r.flags then refuse (.repeated ("--" ++ f.long))
  else return { r with flags := f :: r.flags }

/-- Takes in a setting, with a value or with the next word as its value. -/
def addSetting (r : Reading) (t : Setting) (value : Option String) :
    Result Reading := do
  let r ← r.settle
  match value with
  | some text => r.addValue t text
  | none => return { r with pending := .awaiting t }

-- =============================================================== the words

/-- Reads a long name. -/
def addLong (scope : Scope) (r : Reading) (name : String)
    (value : Option String) :
    Result Reading :=
  match Argument.ofLong? scope name with
  | none => refuse (.unknownArgument ("--" ++ name))
  | some (.setting t) => r.addSetting t value
  | some (.flag f) =>
    match value with
    | none => r.addFlag scope f
    | some text => refuse (.unwantedValue ("--" ++ name) text)

/-- The value that is written right after a short name, with or without an
equals sign. -/
def attachedValue (rest : List Char) : Option String :=
  match rest with
  | [] => none
  | '=' :: text => some (String.ofList text)
  | text => some (String.ofList text)

/-- Reads short names put together. What follows the name of a setting is
its value. -/
def addShorts (scope : Scope) (r : Reading) : List Char → Result Reading
  | [] => .ok r
  | c :: rest =>
    match Argument.ofShort? scope c with
    | none => refuse (.unknownArgument ("-" ++ String.singleton c))
    | some (.setting t) => r.addSetting t (attachedValue rest)
    | some (.flag f) => do (← r.addFlag scope f).addShorts scope rest

/-- The setting whose value is to be the next word, unless the divider has
been met. -/
def awaited? (r : Reading) : Option Setting :=
  match r.pending with
  | .awaiting t => if r.divided then none else some t
  | _ => none

/-- Reads a word that is no argument: the value of a setting, or the file of
a command that takes one. -/
def addPlain (scope : Scope) (r : Reading) (word : String) : Result Reading :=
  match r.awaited? with
  | some t => .ok { r with pending := .value t word }
  | none =>
    let hasFile : Bool :=
      r.file.isSome ||
        (match r.pending with
          | .file _ => true
          | _ => false)
    if scope = .obfuscate ∧ ¬hasFile then do
      return { ← r.settle with pending := .file word }
    else refuse (.unexpectedWord word)

/-- Reads a word. -/
def addWord (scope : Scope) (r : Reading) (word : String) : Result Reading :=
  if r.divided then r.addPlain scope word
  else
    match Word.of word with
    | .divider => .ok { r with divided := true }
    | .long name value => r.addLong scope name value
    | .shorts names => r.addShorts scope names
    | .plain => r.addPlain scope word

/-- Reads the words after a command. -/
def addWords (scope : Scope) (r : Reading) : List String → Result Reading
  | [] => .ok r
  | word :: rest => do (← r.addWord scope word).addWords scope rest

end Reading

-- ============================================================= the commands

/-- The command that a word names. -/
def command? (word : String) : Option Scope :=
  if word = "obfuscate" then some .obfuscate
  else if word = "languages" then some .languages
  else none

/-- The topic that the words after "help" name. -/
def helpTopic : List String → Stop
  | [] => .help .root
  | [word] =>
    if word = "help" then .help .root
    else
      match command? word with
      | some topic => .help topic
      | none => .misuse (.unknownCommand word)
  | word :: next :: _ =>
    if word = "help" ∨ (command? word).isSome then
      .misuse (.unknownCommand next)
    else .misuse (.unknownCommand word)

/-- Reads a word before the command that does not name it. -/
def readRootWord (r : Reading) (word : String) : Result Reading :=
  match Word.of word, r.awaited? with
  | .plain, none => refuse (.unknownCommand word)
  | _, _ => r.addWord .root word

/-- Reads the words up to the command; gives the command and the words after
it. -/
def readRoot (r : Reading) :
    List String → Result (Reading × Option (Scope × List String))
  | [] => .ok (r, none)
  | word :: rest =>
    if r.divided then
      if word = "help" ∨ (command? word).isSome then
        refuse (.unexpectedWord word)
      else refuse (.unknownCommand word)
    else if r.awaited?.isNone ∧ word = "help" then .error (helpTopic rest)
    else
      match if r.awaited?.isSome then none else command? word with
      | some scope => .ok (r, some (scope, rest))
      | none => do readRoot (← readRootWord r word) rest

/-- Refuses two flags that exclude each other. -/
def checkConflict (r : Reading) (f g : Flag) : Result Unit :=
  if f ∈ r.flags ∧ g ∈ r.flags then
    refuse (.conflict ("--" ++ f.long) ("--" ++ g.long))
  else .ok ()

/-- Looks at everything that has been read at one place. -/
def finish (r : Reading) : Result Reading := do
  let r ← r.settle
  checkConflict r .quiet .verbose
  checkConflict r .all .defaults
  return r

/-- The format that is asked for. -/
def formatOf (r : Reading) : Format :=
  ((r.value? .format).bind Format.ofName?).getD .human

/-- The command that the words after its name ask for. -/
def commandOf (scope : Scope) (r : Reading) : Result Command :=
  if scope = .obfuscate then
    match r.file with
    | none => refuse .missingFile
    | some file =>
      .ok (.obfuscate
        { file
          rename := r.flags.contains .rename
          junk := r.flags.contains .junk
          mutate := r.flags.contains .mutate
          canary := r.flags.contains .canary
          executable := r.flags.contains .executable
          hardwareBinding := r.flags.contains .hardwareBinding
          all := r.flags.contains .all
          defaults := r.flags.contains .defaults
          apiKey := r.value? .apiKey
          licenseKey := r.value? .licenseKey
          config := r.value? .config
          language := r.value? .language
          outputDirectory := r.value? .outputDirectory
          format := formatOf r
          instant := r.flags.contains .instant })
  else .ok (.languages (formatOf r))

/-- Reads a command line. What holds for every command may stand before the
command or after it; of two levels for the log the one after the command
counts. -/
def read (words : List String) : Result Request := do
  let (before, found) ← readRoot {} words
  match found with
  | none =>
    let before ← before.settle
    if before.flags.isEmpty ∧ before.values.isEmpty then throw .nothingAsked
    else refuse .missingCommand
  | some (scope, rest) =>
    let after ← finish (← Reading.addWords scope {} rest)
    let command ← commandOf scope after
    let before ← finish before
    return {
      command
      logLevel := (after.value? .logLevel).or (before.value? .logLevel)
      verbose := before.flags.contains .verbose
        || after.flags.contains .verbose
      quiet := before.flags.contains .quiet || after.flags.contains .quiet }

end Obfuscator.CommandLine
