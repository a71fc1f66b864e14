/-
Reading TOML documents.

A document is read line by line and put together as it is read, so that it
is stuck at the first line that is malformed or does not fit what came
before.
-/
import Obfuscator.Toml.Assembly
import Obfuscator.Toml.Text

namespace Obfuscator.Toml

-- ============================================================ values

mutual

/-- A value, `depth` arrays and tables deep in others. -/
def readValue : (fuel : Nat) → (depth : Nat) → List Char → Reading Value
  | 0, _, s => .error ⟨s⟩
  | fuel + 1, depth, s =>
    match s with
    | [] => .error ⟨s⟩
    | '"' :: _ => (readText s).map fun (t, rest) => (.string t, rest)
    | '\'' :: _ => (readText s).map fun (t, rest) => (.string t, rest)
    | 't' :: 'r' :: 'u' :: 'e' :: rest => .ok (.boolean true, rest)
    | 'f' :: 'a' :: 'l' :: 's' :: 'e' :: rest => .ok (.boolean false, rest)
    | '[' :: rest =>
      if maxDepth ≤ depth then .error ⟨s⟩
      else (readElements fuel (depth + 1) rest).map fun (l, rest) =>
        (.array l, rest)
    | '{' :: rest =>
      if maxDepth ≤ depth then .error ⟨s⟩
      else
        match skipSpace rest with
        | '}' :: rest => .ok (.table .braces [], rest)
        | rest =>
          (readMembers fuel (depth + 1) [] rest).map fun (es, rest) =>
            (.table .braces es, rest)
    | _ =>
      match readNumeric s with
      | some r => .ok r
      | none => .error ⟨s⟩

/-- The elements of an array and what follows its closing bracket. -/
def readElements :
    (fuel : Nat) → (depth : Nat) → List Char → Reading (List Value)
  | 0, _, s => .error ⟨s⟩
  | fuel + 1, depth, s =>
    match skipLines (s.length + 1) s with
    | .error e => .error e
    | .ok s =>
      match s with
      | ']' :: rest => .ok ([], rest)
      | _ =>
        match readValue fuel depth s with
        | .error e => .error e
        | .ok (v, rest) =>
          match skipLines (rest.length + 1) rest with
          | .error e => .error e
          | .ok rest =>
            match rest with
            | ',' :: more =>
              (readElements fuel depth more).map fun (l, rest) =>
                (v :: l, rest)
            | ']' :: more => .ok ([v], more)
            | _ => .error ⟨rest⟩

/-- The entries of a table in braces, added to those read before, and what
follows its closing brace. -/
def readMembers :
    (fuel : Nat) → (depth : Nat) → Entries → List Char → Reading Entries
  | 0, _, _, s => .error ⟨s⟩
  | fuel + 1, depth, es, s =>
    match readKey s with
    | .error e => .error e
    | .ok (key, rest) =>
      match rest with
      | '=' :: rest =>
        match readValue fuel depth (skipSpace rest) with
        | .error e => .error e
        | .ok (v, rest) =>
          match addDotted v key es with
          | none => .error ⟨s⟩
          | some es =>
            match skipSpace rest with
            | ',' :: rest => readMembers fuel depth es rest
            | '}' :: rest => .ok (es, rest)
            | rest => .error ⟨rest⟩
      | _ => .error ⟨rest⟩

end

-- ============================================================ lines

/-- A header and the rest of its line; `after` is what follows its opening
brackets. -/
def readHeader (closing : List Char) (after : List Char) :
    Reading (List String) :=
  match readKey after with
  | .error e => .error e
  | .ok (key, rest) =>
    if closing.isPrefixOf rest then
      (finishLine (rest.drop closing.length)).map fun rest => (key, rest)
    else .error ⟨rest⟩

/-- An entry and the rest of its line. -/
def readEntry (s : List Char) : Reading (List String × Value) :=
  match readKey s with
  | .error e => .error e
  | .ok (key, rest) =>
    match rest with
    | '=' :: rest =>
      match readValue (2 * rest.length + 2) 0 (skipSpace rest) with
      | .error e => .error e
      | .ok (v, rest) => (finishLine rest).map fun rest => ((key, v), rest)
    | _ => .error ⟨rest⟩

/-- The document after a step that may not fit what came before. -/
def Reading.assemble {α : Type} (start : List Char) (r : Reading α)
    (step : α → Option Assembly) : Reading Assembly :=
  match r with
  | .error e => .error e
  | .ok (a, rest) =>
    match step a with
    | none => .error ⟨start⟩
    | some next => .ok (next, rest)

/-- One line that holds something. -/
def readLine (a : Assembly) (s : List Char) : Reading Assembly :=
  match s with
  | '[' :: '[' :: rest =>
    (readHeader [']', ']'] rest).assemble s a.openRepeated
  | '[' :: rest => (readHeader [']'] rest).assemble s a.openTable
  | _ => (readEntry s).assemble s fun (key, v) => a.addEntry key v

/-- The lines of a document. -/
def readLines : (fuel : Nat) → Assembly → List Char → Except Stuck Entries
  | 0, _, s => .error ⟨s⟩
  | fuel + 1, a, s =>
    let s := skipSpace s
    match s with
    | [] =>
      match a.close with
      | none => .error ⟨s⟩
      | some es => .ok es
    | c :: _ =>
      if c = '#' ∨ c = '\n' ∨ c = '\r' then
        match finishLine s with
        | .error e => .error e
        | .ok rest => readLines fuel a rest
      else
        match readLine a s with
        | .error e => .error e
        | .ok (a, rest) => readLines fuel a rest

/-- A place in a text: line and column, both counted from one. -/
structure Place where
  line : Nat
  column : Nat
  deriving DecidableEq, Repr

/-- The place reached after reading some characters. -/
def Place.after (read : List Char) : Place where
  line := read.count '\n' + 1
  column := (read.reverse.takeWhile (· ≠ '\n')).length + 1

/-- The entries of a document at its top level, or the place at which it is
malformed. A byte order mark in front does not count. -/
def parse (text : String) : Except Place Entries :=
  let s :=
    match text.toList with
    | '\ufeff' :: rest => rest
    | s => s
  match readLines (s.length + 1) {} s with
  | .ok es => .ok es
  | .error stuck =>
    .error (Place.after (s.take (s.length - stuck.rest.length)))

end Obfuscator.Toml
