/-
Directives, the parts of a filter.

A directive is a threshold, or a name and what belongs to it: the part of
the program that it is for, then in brackets the stretch of work and in
braces the particular that it asks for, then an equals sign and a threshold.
All but the first may be left out, and a name without a threshold asks for
everything.

White space at the ends of a directive is passed over when its marks are
looked for, but the places of the marks then count from the start of the
whole text, white space included. So a directive with white space in front
of it hardly ever means what it seems to.
-/
import Obfuscator.Log.Record
import Obfuscator.Log.ValuePattern
import Obfuscator.Text.Alphanumeric
import Obfuscator.Text.Blank
import Obfuscator.Text.Bytes
import Obfuscator.Text.Case
import Obfuscator.Text.Digit

namespace Obfuscator.Log

/-- The least urgent level that is written; with `none` nothing is. -/
abbrev Threshold := Option Level

/-- A particular that a directive asks for. -/
structure FieldTest where
  name : String
  /-- Whether it has to have a certain value, too. -/
  hasValue : Bool
  deriving DecidableEq, Repr

/-- A part of a filter. -/
structure Directive where
  /-- How the names of the parts of the program begin that it is for; for
  all if there is none. -/
  target : Option String := none
  /-- The stretch of work it is for. -/
  span : Option String := none
  /-- The particular that it asks for. -/
  field : Option FieldTest := none
  threshold : Threshold := some .trace
  deriving DecidableEq, Repr

/-- What is wrong with a text that is no directive. -/
inductive DirectiveError
  | malformed
  /-- What stands in the place of a threshold is none. -/
  | threshold
  /-- The value of a particular is no pattern. -/
  | value (fault : PatternFault)
  deriving DecidableEq, Repr

def DirectiveError.message : DirectiveError → String
  | malformed => "invalid filter directive"
  | threshold =>
    "error parsing level filter: expected one of \"off\", \"error\", " ++
      "\"warn\", \"info\", \"debug\", \"trace\", or a number 0-5"
  | value fault => "invalid field filter: " ++ fault.message

-- ============================================================= thresholds

/-- The words for thresholds. -/
def thresholdNames : List (String × Threshold) :=
  [("off", none), ("error", some .error), ("warn", some .warn),
    ("info", some .info), ("debug", some .debug), ("trace", some .trace)]

/-- The thresholds by number. -/
def thresholdNumbers : List Threshold :=
  [none, some .error, some .warn, some .info, some .debug, some .trace]

/-- The threshold that a number stands for; the number may have a plus sign
and leading zeros. -/
def numberedThreshold? (word : List Char) : Option Threshold :=
  let digits :=
    match word with
    | '+' :: rest => rest
    | _ => word
  (Text.spelled? 10 digits).bind fun n => thresholdNumbers[n]?

/-- The threshold that a word names, up to the case of its letters, or that
a number stands for. -/
def threshold? (word : List Char) : Option Threshold :=
  match numberedThreshold? word with
  | some t => some t
  | none =>
    (thresholdNames.find? fun entry =>
      Text.sameUpToCase (String.ofList word) entry.1).map (·.2)

-- ================================================================ reading

namespace Directive

/-- Whether a name may begin with a character. -/
def opensName (c : Char) : Bool :=
  c = '-' || c = ':' || c = '_' || Text.isAlphanumeric c

/-- The part of a text between two places. A place inside a character makes
it malformed. -/
def piece (whole : List Char) (start size : Nat) :
    Except DirectiveError (List Char) :=
  match Text.cut? start size whole with
  | some s => .ok s
  | none => .error .malformed

/-- The part of a text from a place on. -/
def remainder (whole : List Char) (start : Nat) :
    Except DirectiveError (List Char) :=
  match Text.dropBytes? start whole with
  | some s => .ok s
  | none => .error .malformed

/-- Reads a particular: its name, and a pattern for its value after an
equals sign. What follows a second equals sign counts for nothing. -/
def readField (text : List Char) : Except DirectiveError FieldTest := do
  let name := text.takeWhile (· ≠ '=')
  if text.isEmpty then throw .malformed
  match text.dropWhile (· ≠ '=') with
  | [] => return ⟨String.ofList name, false⟩
  | _ :: value =>
    match checkValue (value.takeWhile (· ≠ '=')) with
    | some fault => throw (.value fault)
    | none => return ⟨String.ofList name, true⟩

/-- Reads the threshold from a place on; none at all asks for everything. -/
def readThreshold (whole : List Char) (start : Nat) :
    Except DirectiveError Threshold := do
  let word ← remainder whole start
  if word.isEmpty then return some .trace
  match threshold? word with
  | some t => return t
  | none => throw .threshold

/-- Reads what follows the brackets; `start` is the place after them. -/
def readEnd (whole : List Char) (d : Directive) (start : Nat) :
    List Char → Except DirectiveError Directive
  | [] => return d
  | c :: _ => do
    if c ≠ '=' then throw .malformed
    return { d with threshold := ← readThreshold whole (start + 1) }

/-- Reads what follows an opening brace; `start` is the place after it. -/
def readBraces (whole : List Char) (d : Directive) (start : Nat)
    (rest : List Char) :
    Except DirectiveError Directive := do
  let size := Text.byteLength (rest.takeWhile (· ≠ '}'))
  match rest.dropWhile (· ≠ '}') with
  | [] => throw .malformed
  | _ :: rest =>
    let field ← readField (← piece whole start size)
    match rest with
    | ']' :: rest =>
      readEnd whole { d with field := some field } (start + size + 2) rest
    | _ => throw .malformed

/-- Reads what follows an opening bracket; `start` is the place after it. -/
def readBrackets (whole : List Char) (d : Directive) (start : Nat)
    (rest : List Char) :
    Except DirectiveError Directive := do
  let isEnd (c : Char) : Bool := c = ']' || c = '{'
  let size := Text.byteLength (rest.takeWhile (!isEnd ·))
  match rest.dropWhile (!isEnd ·) with
  | [] => throw .malformed
  | c :: rest =>
    let span := String.ofList (← piece whole start size)
    if c = ']' then
      readEnd whole { d with span := some span } (start + size + 1) rest
    else
      readBraces whole
        { d with span := if span.isEmpty then none else some span }
        (start + size + 1) rest

/-- Reads a directive that begins with a name, or is a threshold. -/
def readName (whole trimmed : List Char) :
    Except DirectiveError Directive := do
  let isEnd (c : Char) : Bool := c = '=' || c = '['
  let size := Text.byteLength (trimmed.takeWhile (!isEnd ·))
  match trimmed.dropWhile (!isEnd ·) with
  | [] =>
    match threshold? whole with
    | some threshold => return { threshold }
    | none => return { target := some (String.ofList whole) }
  | c :: rest =>
    let d : Directive :=
      { target := some (String.ofList (← piece whole 0 size)) }
    if c = '=' then
      return { d with threshold := ← readThreshold whole (size + 1) }
    else readBrackets whole d (size + 1) rest

/-- Reads a directive. -/
def parse (text : String) : Except DirectiveError Directive :=
  let whole := text.toList
  match Text.trim whole with
  | [] => .error .malformed
  | '[' :: rest => readBrackets whole {} 1 rest
  | c :: rest =>
    if opensName c then readName whole (c :: rest) else .error .malformed

-- =============================================================== deciding

/-- Whether a directive decides about records. One that is for a stretch of
work, or that asks for a certain value, does not. -/
def concernsRecords (d : Directive) : Bool :=
  d.span.isNone && !d.field.any (·.hasValue)

/-- The names of the particulars of a record, its message included. -/
def particulars (r : Record) : List String :=
  "message" :: r.fields.map (·.1)

/-- Whether a directive decides about a record unless another one does. -/
def applies (d : Directive) (r : Record) : Bool :=
  d.concernsRecords &&
    d.target.all (fun start => start.toList.isPrefixOf r.target.toList) &&
    d.field.all fun f => (particulars r).contains f.name

/-- How closely a directive names the part of the program it is for. -/
def closeness (d : Directive) : Nat :=
  match d.target with
  | none => 0
  | some start => start.utf8ByteSize + 1

/-- Whether a directive decides rather than one before it. The closer name
decides; then one that asks for a particular, and of two such the one whose
particular has the later name. -/
def overrides (d e : Directive) : Bool :=
  if d.closeness = e.closeness then
    match d.field, e.field with
    | _, none => true
    | none, some _ => false
    | some f, some g => decide (g.name ≤ f.name)
  else e.closeness < d.closeness

end Directive

end Obfuscator.Log
