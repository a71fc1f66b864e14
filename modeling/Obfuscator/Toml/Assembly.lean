/-
Putting a document together from its lines.

A key that is given twice, a table with two headers, and a dotted key or a
header that runs through something that is no table make a document invalid.
A table made by a dotted key can be extended by dotted keys only, and a
table that is named only as part of deeper headers can get a header of its
own later; it then moves to the end of the table it belongs to.
-/
import Obfuscator.Toml.Value

namespace Obfuscator.Toml

-- ============================================================ entries

/-- The value under a key. -/
def find? (key : String) (es : Entries) : Option Value :=
  (es.find? fun e => e.1 = key).map (·.2)

/-- Sets the value under a key that is there. -/
def replace (key : String) (v : Value) : Entries → Entries
  | [] => []
  | (k, w) :: rest =>
    if k = key then (k, v) :: rest else (k, w) :: replace key v rest

/-- The entries without the one under a key. -/
def remove (key : String) (es : Entries) : Entries :=
  es.filter fun e => e.1 ≠ key

/-- Adds an entry at the end, unless there is one under its key. -/
def addNew (key : String) (v : Value) (es : Entries) : Option Entries :=
  match find? key es with
  | some _ => none
  | none => some (es ++ [(key, v)])

-- ============================================================ dotted keys

/-- Adds a value under a key of several parts. The tables on the way have to
be open to dotted keys, and the last of them has to be made by one. -/
def addDotted (v : Value) : List String → Entries → Option Entries
  | [], _ => none
  | [key], es => addNew key v es
  | part :: rest, es =>
    let isLast := rest.length = 1
    match find? part es with
    | none => (addDotted v rest []).map fun inner =>
      es ++ [(part, .table .dotted inner)]
    | some (.table origin inner) =>
      if origin = .dotted ∨ (origin = .implied ∧ ¬isLast) then
        (addDotted v rest inner).map fun inner =>
          replace part (.table origin inner) es
      else none
    | some (.tables elements) =>
      match elements.getLast? with
      | none => none
      | some inner =>
        if isLast then none
        else
          (addDotted v rest inner).map fun inner =>
            replace part (.tables (elements.dropLast ++ [inner])) es
    | some _ => none

-- ============================================================ headers

/-- Changes the table to which the parts of a name lead, making those that
are missing. -/
def changeAt {α : Type} (f : Entries → Option (Entries × α)) :
    List String → Entries → Option (Entries × α)
  | [], es => f es
  | part :: rest, es =>
    match find? part es with
    | none => (changeAt f rest []).map fun (inner, a) =>
      (es ++ [(part, .table .implied inner)], a)
    | some (.table origin inner) =>
      if origin = .braces then none
      else
        (changeAt f rest inner).map fun (inner, a) =>
          (replace part (.table origin inner) es, a)
    | some (.tables elements) =>
      match elements.getLast? with
      | none => none
      | some inner =>
        (changeAt f rest inner).map fun (inner, a) =>
          (replace part (.tables (elements.dropLast ++ [inner])) es, a)
    | some _ => none

/-- The document so far: what is complete, and the table to which entries
are being added. -/
structure Assembly where
  root : Entries := []
  /-- The name of the table at work; empty for the root. -/
  path : List String := []
  /-- Whether the table at work is one of several under its name. -/
  repeated : Bool := false
  current : Entries := []

namespace Assembly

/-- Adds an entry to the table at work. -/
def addEntry (a : Assembly) (key : List String) (v : Value) :
    Option Assembly :=
  (addDotted v key a.current).map fun current => { a with current }

/-- Puts the table at work into its place. -/
def close (a : Assembly) : Option Entries :=
  match a.path.getLast? with
  | none => some a.current
  | some key =>
    let place (es : Entries) : Option (Entries × Unit) :=
      if a.repeated then
        match find? key es with
        | none => some (es ++ [(key, .tables [a.current])], ())
        | some (.tables elements) =>
          some (replace key (.tables (elements ++ [a.current])) es, ())
        | some _ => none
      else (addNew key (.table .header a.current) es).map fun es => (es, ())
    (changeAt place a.path.dropLast a.root).map (·.1)

/-- Begins a table with a header in single brackets. -/
def openTable (a : Assembly) (path : List String) : Option Assembly := do
  let root ← a.close
  let key ← path.getLast?
  let take (es : Entries) : Option (Entries × Entries) :=
    match find? key es with
    | none => some (es, [])
    | some (.table .implied inner) => some (remove key es, inner)
    | some _ => none
  let (root, current) ← changeAt take path.dropLast root
  return { root, path, repeated := false, current }

/-- Begins a table with a header in double brackets. -/
def openRepeated (a : Assembly) (path : List String) : Option Assembly := do
  let root ← a.close
  let key ← path.getLast?
  let reserve (es : Entries) : Option (Entries × Unit) :=
    match find? key es with
    | none => some (es ++ [(key, .tables [])], ())
    | some (.tables _) => some (es, ())
    | some _ => none
  let (root, _) ← changeAt reserve path.dropLast root
  return { root, path, repeated := true, current := [] }

end Assembly

end Obfuscator.Toml
