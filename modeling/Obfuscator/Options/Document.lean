/-
Options from a configuration document.

Every entry of the document has to name a field, in either of its spellings,
that no entry before has named, and give it a value of its kind: a truth
value for a switch, a string for a credential. The first entry that does not
is the one complained of; of several faults of one entry an unknown key
comes first, then a repeated field, then a wrong kind. A field that is not
named keeps its default, and the order of entries makes no difference to the
options.
-/
import Obfuscator.Options.Field
import Obfuscator.Toml.Document

namespace Obfuscator

/-- What is wrong with an entry of a configuration document. -/
inductive EntryFault
  | unknownKey (key : String)
  | duplicateField (f : Field)
  | wrongKind (f : Field) (found : Unexpected)
  deriving DecidableEq, Repr

namespace EntryFault

/-- The keys that name a field, as messages list them. -/
def knownKeys : String :=
  String.intercalate ", "
    (Field.all.flatMap fun f =>
      ["`" ++ f.camelName ++ "`", "`" ++ f.name ++ "`"])

/-- The kind of value a field takes. -/
def expected : Field → String
  | .switch _ => "a boolean"
  | .credential _ => "a string"

def message : EntryFault → String
  | unknownKey key =>
    "unknown field `" ++ key ++ "`, expected one of " ++ knownKeys
  | duplicateField f => "duplicate field `" ++ f.name ++ "`"
  | wrongKind f found =>
    "invalid type: " ++ found.describe ++ ", expected " ++ expected f

end EntryFault

/-- Why a configuration document is refused. -/
inductive DocumentError
  /-- It is no TOML document. -/
  | malformed (place : Toml.Place)
  /-- One of its entries is at fault; entries are counted from one. -/
  | entry (number : Nat) (fault : EntryFault)
  deriving DecidableEq, Repr

/-- The lines that tell where a document is at fault, and of one that is no
TOML what is wrong with it. They are up to the reader of TOML, which knows
the place and shows the text there. -/
abbrev DocumentNotice := DocumentError → String

/-- The heading of these lines, as far as it is known here: the place of an
entry is not. -/
def DocumentNotice.heading : DocumentNotice
  | .malformed place =>
    "TOML parse error at line " ++ toString place.line ++ ", column " ++
      toString place.column ++ "\n"
  | .entry _ _ => "TOML parse error at\n"

/-- What is said of a document that is refused: where it is at fault, and
then the verdict on the entry. -/
def DocumentError.message (e : DocumentError)
    (notice : DocumentNotice := .heading) : String :=
  match e with
  | malformed _ => notice e
  | entry _ fault => notice e ++ fault.message ++ "\n"

namespace Options

/-- Sets a field to the value of an entry. -/
def setField (o : Options) (f : Field) (v : Toml.Value) :
    Except EntryFault Options :=
  match f, v with
  | .switch s, .boolean b => .ok (o.turn s b)
  | .credential c, .string key => .ok (o.setCredential c key)
  | f, v => .error (.wrongKind f v.unexpected)

/-- Sets the field that an entry names; `given` are the fields named before
it. -/
def setEntry (o : Options) (given : List Field) (key : String)
    (v : Toml.Value) :
    Except EntryFault (Options × Field) :=
  match Field.ofKey? key with
  | none => .error (.unknownKey key)
  | some f =>
    if f ∈ given then .error (.duplicateField f)
    else (o.setField f v).map fun o => (o, f)

/-- Sets the fields that entries name; `given` are the fields named before
them, the latest first. -/
def ofEntriesFrom (o : Options) (given : List Field) :
    Toml.Entries → Except DocumentError Options
  | [] => .ok o
  | (key, v) :: rest =>
    match o.setEntry given key v with
    | .error fault => .error (.entry (given.length + 1) fault)
    | .ok (o, f) => ofEntriesFrom o (f :: given) rest

/-- The options that the entries of a document give. -/
def ofEntries (es : Toml.Entries) : Except DocumentError Options :=
  ofEntriesFrom {} [] es

/-- The options that a document gives. -/
def ofDocument (text : String) : Except DocumentError Options :=
  match Toml.parse text with
  | .error place => .error (.malformed place)
  | .ok es => ofEntries es

end Options

end Obfuscator
