/-
Paths of a file system with one root, parts divided by slashes.

A path is kept as the text it was given by. What it means is read off that
text: empty parts count for nothing, a single dot stays where it is, two
dots go to the directory above. Joining, taking the file name and listing
the directories above work on the text alone and ask no file system.
-/
namespace Obfuscator.World

/-- One part of a path. -/
inductive Segment
  /-- A single dot. -/
  | here
  /-- Two dots. -/
  | up
  | name (n : String)
  deriving DecidableEq, Repr

/-- A path, read off its text. -/
structure Path where
  absolute : Bool
  segments : List Segment
  /-- Whether the text ends in a slash, so that only a directory can be
  meant. -/
  directoryOnly : Bool
  deriving DecidableEq, Repr

/-- The parts between slashes, empty ones included. -/
def splitSlash : List Char → List (List Char)
  | [] => [[]]
  | c :: rest =>
    if c = '/' then [] :: splitSlash rest
    else
      match splitSlash rest with
      | [] => [[c]]
      | part :: parts => (c :: part) :: parts

/-- The meaning of one part; an empty one has none. -/
def Segment.ofPart? (part : List Char) : Option Segment :=
  match part with
  | [] => none
  | ['.'] => some .here
  | ['.', '.'] => some .up
  | n => some (.name (String.ofList n))

namespace Path

/-- Reads a path off its text. -/
def ofString (text : String) : Path where
  absolute := text.toList.head? = some '/'
  segments := (splitSlash text.toList).filterMap Segment.ofPart?
  directoryOnly := text.toList.getLast? = some '/'

/-- Whether a text names a path from the root. -/
def isAbsolute (text : String) : Bool := text.toList.head? = some '/'

/-- The path of a name inside a directory. A name that is a path from the
root stands for itself. -/
def join (directory name : String) : String :=
  if isAbsolute name ∨ directory.isEmpty then name
  else if directory.toList.getLast? = some '/' then directory ++ name
  else directory ++ "/" ++ name

/-- The parts that matter: single dots are left out, but for one that begins
a path. -/
def components (p : Path) : List Segment :=
  match p.absolute, p.segments with
  | false, .here :: rest => .here :: rest.filter (· ≠ .here)
  | _, segments => segments.filter (· ≠ .here)

/-- The last part, if it is a name. -/
def fileName? (text : String) : Option String :=
  match (ofString text).components.getLast? with
  | some (.name n) => some n
  | _ => none

/-- The beginnings of a list that are neither empty nor whole, the longest
first. -/
def properPrefixes : List Segment → List (List Segment)
  | [] => []
  | s :: rest =>
    match rest with
    | [] => []
    | _ => (properPrefixes rest).map (s :: ·) ++ [[s]]

/-- The directories above a path, the nearest first, up to the one where the
path starts. -/
def ancestors (p : Path) : List Path :=
  (properPrefixes p.components).map fun segments =>
    { absolute := p.absolute, segments, directoryOnly := false }

/-- The text of a segment. -/
def segmentText : Segment → String
  | .here => "."
  | .up => ".."
  | .name n => n

/-- A text for a path. -/
def render (p : Path) : String :=
  (if p.absolute then "/" else "") ++ String.intercalate "/"
    (p.segments.map segmentText)

end Path

end Obfuscator.World
