/-
A file system as a value.

A disk is a tree of directories and files, without links; relative paths
start at its working directory. An operation either succeeds, and then says
what the disk is afterwards, or fails and leaves the disk as it was; only
`createDirectories` may have made some directories before it fails. Of two
reasons to fail the one met first on the way along the path is given.
-/
import Obfuscator.World.OsError
import Obfuscator.World.Path

namespace Obfuscator.World

/-- A place on a disk: the names that lead there from the root, the last one
first. -/
abbrev Location := List String

/-- What is at a place. -/
inductive Entry
  | directory
  | file (content : ByteArray)

/-- Files are the same if their contents are, byte for byte. -/
instance : DecidableEq Entry
  | .directory, .directory => isTrue rfl
  | .directory, .file _ => isFalse nofun
  | .file _, .directory => isFalse nofun
  | .file a, .file b =>
    if h : a.data = b.data then isTrue (congrArg Entry.file (ByteArray.ext h))
    else isFalse fun hab => h (by injection hab with hab; rw [hab])

/-- What is on a disk. The root is always a directory. -/
structure Disk where
  entries : List (Location × Entry) := []
  workingDirectory : Location := []

namespace Disk

-- ============================================================ the tree

/-- What is at a place, if anything. -/
def lookup (d : Disk) (l : Location) : Option Entry :=
  match l with
  | [] => some .directory
  | _ => (d.entries.find? fun e => decide (e.1 = l)).map (·.2)

/-- Sets what is at a place in a list of entries. -/
def setEntry (l : Location) (e : Entry) :
    List (Location × Entry) → List (Location × Entry)
  | [] => [(l, e)]
  | (m, f) :: rest =>
    if m = l then (l, e) :: rest else (m, f) :: setEntry l e rest

/-- Sets what is at a place. -/
def set (d : Disk) (l : Location) (e : Entry) : Disk :=
  { d with entries := setEntry l e d.entries }

-- ============================================================ the way

/-- The longest name a file may have, in bytes. -/
def maxName : Nat := 255

/-- The longest path that can be followed, in bytes. -/
def maxPath : Nat := 4095

/-- Looks a name up in a directory. -/
def child (d : Disk) (l : Location) (n : String) :
    Except OsError (Option Entry) :=
  if maxName < n.utf8ByteSize then .error .nameTooLong
  else .ok (d.lookup (n :: l))

/-- Follows a path through directories. -/
def walk (d : Disk) : Location → List Segment → Except OsError Location
  | l, [] => .ok l
  | l, .here :: rest => d.walk l rest
  | l, .up :: rest => d.walk l.tail rest
  | l, .name n :: rest =>
    match d.child l n with
    | .error e => .error e
    | .ok none => .error .notFound
    | .ok (some (.file _)) => .error .notADirectory
    | .ok (some .directory) => d.walk (n :: l) rest

/-- Follows a path up to its last part. -/
def walkToParent (d : Disk) (p : Path) : Except OsError (Location × Segment) :=
  let start := if p.absolute then [] else d.workingDirectory
  match p.segments.getLast? with
  | none => .ok (start, .here)
  | some last =>
    match d.walk start p.segments.dropLast with
    | .error e => .error e
    | .ok l => .ok (l, last)

/-- Whether a text can be a path at all. -/
def checkText (text : String) : Except OsError Unit :=
  if text.toList.contains '\x00' then .error .nulInPath
  else if text.isEmpty then .error .notFound
  else if maxPath < text.utf8ByteSize then .error .nameTooLong
  else .ok ()

-- ============================================================ operations

/-- What a path leads to. -/
def entry (d : Disk) (p : Path) : Except OsError Entry :=
  match d.walkToParent p with
  | .error e => .error e
  | .ok (_, .here) => .ok .directory
  | .ok (_, .up) => .ok .directory
  | .ok (l, .name n) =>
    match d.child l n with
    | .error e => .error e
    | .ok none => .error .notFound
    | .ok (some .directory) => .ok .directory
    | .ok (some (.file content)) =>
      if p.directoryOnly then .error .notADirectory else .ok (.file content)

/-- Whether a path leads to a directory. -/
def isDirectory (d : Disk) (p : Path) : Bool :=
  match d.entry p with
  | .ok .directory => true
  | _ => false

/-- Whether a path leads to a file. -/
def isFile (d : Disk) (text : String) : Bool :=
  match checkText text, d.entry (Path.ofString text) with
  | .ok (), .ok (.file _) => true
  | _, _ => false

/-- The text a file holds. -/
def readText (d : Disk) (text : String) : Except OsError String :=
  match checkText text with
  | .error e => .error e
  | .ok () =>
    match d.entry (Path.ofString text) with
    | .error e => .error e
    | .ok .directory => .error .isADirectory
    | .ok (.file content) =>
      match String.fromUTF8? content with
      | none => .error .notUtf8
      | some s => .ok s

/-- Makes a directory in one that is there. -/
def createDirectory (d : Disk) (p : Path) : Except OsError Disk :=
  match d.walkToParent p with
  | .error e => .error e
  | .ok (_, .here) => .error .alreadyExists
  | .ok (_, .up) => .error .alreadyExists
  | .ok (l, .name n) =>
    match d.child l n with
    | .error e => .error e
    | .ok (some _) => .error .alreadyExists
    | .ok none => .ok (d.set (n :: l) .directory)

/-- Makes a directory and those above it that are missing, which are given
with it, the longest path first. What is made stays made if a later one
fails. -/
def createChain (d : Disk) : List Path → Disk × Except OsError Unit
  | [] => (d, .ok ())
  | p :: above =>
    match d.createDirectory p with
    | .ok made => (made, .ok ())
    | .error .notFound =>
      match d.createChain above with
      | (made, .error e) => (made, .error e)
      | (made, .ok ()) =>
        match made.createDirectory p with
        | .ok whole => (whole, .ok ())
        | .error e => (made, if made.isDirectory p then .ok () else .error e)
    | .error e => (d, if d.isDirectory p then .ok () else .error e)

/-- Makes a directory and those above it that are missing. The empty path
names the working directory, which is there. -/
def createDirectories (d : Disk) (text : String) :
    Disk × Except OsError Unit :=
  if text.isEmpty then (d, .ok ())
  else
    match checkText text with
    | .error e => (d, .error e)
    | .ok () =>
      let p := Path.ofString text
      d.createChain (p :: p.ancestors)

/-- Gives a file a content, making it if it is missing. -/
def writeText (d : Disk) (text content : String) : Except OsError Disk :=
  match checkText text with
  | .error e => .error e
  | .ok () =>
    let p := Path.ofString text
    match d.walkToParent p with
    | .error e => .error e
    | .ok (_, .here) => .error .isADirectory
    | .ok (_, .up) => .error .isADirectory
    | .ok (l, .name n) =>
      if p.directoryOnly then .error .isADirectory
      else
        match d.child l n with
        | .error e => .error e
        | .ok (some .directory) => .error .isADirectory
        | .ok _ => .ok (d.set (n :: l) (.file content.toUTF8))

end Disk

end Obfuscator.World
