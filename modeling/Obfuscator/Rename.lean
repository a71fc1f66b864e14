/-
Renaming of identifiers, one pass over the lines of a text.

Each line is read once. Every candidate that occurs in it as a piece of
text, be it inside a longer word, and that has no new name yet is given one:
the stem of the scheme and a number in hexadecimal that counts the names
given. Then all names given so far are put into that line, in the order in
which they were given, wherever the candidate stands between boundaries. A
line that is done is not looked at again.

What a boundary pattern means is up to an engine. One that does not compile
is noticed when an identifier is to be given a name, so it does no harm to a
text without candidates.
-/
import Obfuscator.Rename.Substitute
import Obfuscator.Text.Hex
import Obfuscator.Text.Lines

namespace Obfuscator

/-- How identifiers are renamed. -/
structure NamingScheme where
  /-- Identifiers to look for, the first one first. -/
  candidates : List String
  /-- How every new name starts. -/
  stem : String
  /-- The boundary pattern. -/
  boundary : String
  /-- What gives the boundary pattern its meaning. -/
  engine : PatternEngine := .standard

/-- An identifier and the name it is given. -/
structure Assignment where
  identifier : String
  replacement : String
  deriving DecidableEq, Repr

/-- The names given so far, the oldest first, and the number of the next
one. -/
structure NameTable where
  entries : List Assignment := []
  next : Nat := 0
  deriving DecidableEq, Repr

/-- Why a renaming fails. -/
inductive RenameError
  /-- The boundary pattern does not compile around this identifier; `causes`
  is what the engine says is wrong, from the outermost view to the
  innermost. -/
  | invalidBoundary (identifier : String) (causes : List String)
  deriving DecidableEq, Repr

/-- A renamed text and the names that were given for it. -/
structure Renaming where
  text : String
  table : NameTable

/-- The outermost view of what went wrong. -/
def RenameError.message : RenameError → String
  | .invalidBoundary identifier _ =>
    "invalid boundary pattern for identifier '" ++ identifier ++ "'"

/-- All that is said of what went wrong, from the outermost view to the
innermost. -/
def RenameError.chain (e : RenameError) : List String :=
  match e with
  | .invalidBoundary _ causes => e.message :: causes

-- ============================================================ new names

namespace NameTable

/-- Whether an identifier has a new name. -/
def assigned (t : NameTable) (identifier : String) : Bool :=
  t.entries.any fun a => a.identifier = identifier

/-- Gives an identifier the next new name. -/
def assign (t : NameTable) (stem identifier : String) : NameTable where
  entries := t.entries ++ [⟨identifier,
    stem ++ String.ofList (Text.hexPadded 4 t.next)⟩]
  next := t.next + 1

end NameTable

/-- Whether a piece of text occurs in a line. -/
def occursIn (piece : List Char) : List Char → Bool
  | [] => piece.isEmpty
  | c :: rest => piece.isPrefixOf (c :: rest) || occursIn piece rest

-- ============================================================= the pass

namespace NamingScheme

/-- What the engine makes of an identifier between two boundaries. -/
def compile (s : NamingScheme) (identifier : String) :
    Except (List String) ((new line : List Char) → List Char) :=
  s.engine.compile s.boundary identifier

/-- Gives names to the candidates that occur in a line and have none, in
their order. -/
def discover (s : NamingScheme) (line : List Char) :
    List String → NameTable → Except RenameError NameTable
  | [], t => .ok t
  | c :: rest, t =>
    if occursIn c.toList line && !t.assigned c then
      match s.compile c with
      | .error causes => .error (.invalidBoundary c causes)
      | .ok _ => discover s line rest (t.assign s.stem c)
    else discover s line rest t

/-- Puts a new name into a line. An identifier that does not compile has no
new name. -/
def apply (s : NamingScheme) (line : List Char) (a : Assignment) : List Char :=
  match s.compile a.identifier with
  | .error _ => line
  | .ok put => put a.replacement.toList line

/-- Puts all names of a table into a line, the oldest first. -/
def renameLine (s : NamingScheme) (t : NameTable) (line : List Char) :
    List Char :=
  t.entries.foldl s.apply line

/-- Renames line after line, starting from a table. -/
def renameLines (s : NamingScheme) :
    List (List Char) → NameTable →
      Except RenameError (List (List Char) × NameTable)
  | [], t => .ok ([], t)
  | line :: rest, t =>
    match discover s line s.candidates t with
    | .error e => .error e
    | .ok t₁ =>
      match renameLines s rest t₁ with
      | .error e => .error e
      | .ok (lines, t₂) => .ok (s.renameLine t₁ line :: lines, t₂)

/-- Renames the identifiers of a text. -/
def rename (s : NamingScheme) (text : String) : Except RenameError Renaming :=
  match s.renameLines (Text.splitLines text.toList) {} with
  | .error e => .error e
  | .ok (lines, t) => .ok ⟨String.ofList (Text.joinLines lines), t⟩

end NamingScheme

end Obfuscator
