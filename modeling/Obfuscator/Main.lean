/-
The program on the real world.

Every action of the program is carried out by one operation of the system;
what the program does is settled before.
-/
import Obfuscator.Program
import Obfuscator.World.Account
import Std.Time.DateTime.Timestamp

namespace Obfuscator

namespace World

/-- Why the system failed, by its number, which may come with its sign
reversed. -/
def OsError.ofCode (code : Nat) (words : String) : OsError :=
  let number := if Nat.pow 2 31 ≤ code then Nat.pow 2 32 - code else code
  if number = 2 then notFound
  else if number = 13 then permissionDenied
  else if number = 17 then alreadyExists
  else if number = 20 then notADirectory
  else if number = 21 then isADirectory
  else if number = 36 then nameTooLong
  else other words number

/-- Why the system failed. -/
def OsError.ofFailure : IO.Error → OsError
  | .noFileOrDirectory _ code words | .permissionDenied _ code words
  | .alreadyExists _ code words | .inappropriateType _ code words
  | .resourceExhausted _ code words | .invalidArgument _ code words
  | .noSuchThing _ code words | .interrupted _ code words =>
    ofCode code.toNat words
  | .otherError code words | .resourceBusy code words
    | .resourceVanished code words
  | .unsupportedOperation code words | .hardwareFault code words
  | .unsatisfiedConstraints code words | .illegalOperation code words
  | .protocolError code words | .timeExpired code words =>
    ofCode code.toNat words
  | .unexpectedEof => other "unexpected end of file" 0
  | .userError words => other words 0

/-- What an operation ends with, or why the system failed. -/
def attempt {α : Type} (operation : IO α) : IO (Except OsError α) :=
  try return .ok (← operation)
  catch e => return .error (.ofFailure e)

/-- The text of a file. -/
def readTextFile (path : String) : IO (Except OsError String) := do
  match ← attempt (IO.FS.readBinFile path) with
  | .error e => return .error e
  | .ok content =>
    match String.fromUTF8? content with
    | some text => return .ok text
    | none => return .error .notUtf8

/-- Whether a path leads to a directory. -/
def isDirectoryPath (path : String) : IO Bool := do
  match ← attempt (do (← IO.FS.realPath path).isDir) with
  | .ok found => return found
  | .error _ => return false

/-- Whether a path leads to a file. -/
def isFilePath (path : String) : IO Bool := do
  match ← attempt (do return (← (← IO.FS.realPath path).metadata).type) with
  | .ok .file => return true
  | _ => return false

/-- Makes a directory and those above it that are missing, which are given
with it, the longest path first. -/
def makeChain : List String → IO (Except OsError Unit)
  | [] => return .ok ()
  | path :: above => do
    match ← attempt (IO.FS.createDir path) with
    | .ok () => return .ok ()
    | .error .notFound =>
      match ← makeChain above with
      | .error e => return .error e
      | .ok () => settle path (← attempt (IO.FS.createDir path))
    | .error e => settle path (.error e)
where
  /-- A directory that is there need not be made. -/
  settle (path : String) (made : Except OsError Unit) :
    IO (Except OsError Unit) := do
    match made with
    | .ok () => return .ok ()
    | .error e => return if ← isDirectoryPath path then .ok () else .error e

/-- Makes a directory and those above it that are missing. -/
def makeDirectories (path : String) : IO (Except OsError Unit) :=
  if path.isEmpty then return .ok ()
  else makeChain (path :: (Path.ofString path).ancestors.map Path.render)

/-- The home directory of the account that runs the program. -/
def findAccountHome : IO (Option String) := do
  match ← readTextFile "/proc/self/status", ← readTextFile "/etc/passwd" with
  | .ok status, .ok accounts =>
    return (accountNumber? status).bind (homeOfAccount? accounts)
  | _, _ => return none

/-- The time. -/
def readClock : IO Instant := do
  let t := (← Std.Time.Timestamp.now).toNanosecondsSinceUnixEpoch.toInt
  return ⟨t / 1000000000, (t % 1000000000).toNat⟩

/-- A random secret. -/
def randomSecret : IO String := do
  let bytes ← IO.getRandomBytes 4
  return Pass.secretOfBytes (bytes.get! 0) (bytes.get! 1) (bytes.get! 2)
    (bytes.get! 3)

/-- A random identifier: five groups of digits, of which two digits are
fixed. -/
def randomIdentifier : IO String := do
  let digits := (← IO.getRandomBytes 16).toList.flatMap Text.hexByte
  let group (start length : Nat) : String :=
    String.ofList ((digits.drop start).take length)
  let variant := match digits[16]? with
    | some c => String.singleton (['8', '9', 'a', 'b'].getD (c.toNat % 4) '8')
    | none => "8"
  return String.intercalate "-"
    [group 0 8, group 8 4, "4" ++ group 13 3, variant ++ group 17 3,
      group 20 12]

/-- Carries an action out. -/
def Action.perform {α : Type} : Action α → IO α
  | .done a => return a
  | .environment name next => do (next (← IO.getEnv name)).perform
  | .accountHome next => do (next (← findAccountHome)).perform
  | .isFile path next => do (next (← isFilePath path)).perform
  | .readText path next => do (next (← readTextFile path)).perform
  | .createDirectories path next => do (next (← makeDirectories path)).perform
  | .writeText path content next => do
    (next (← attempt (IO.FS.writeFile path content))).perform
  | .print channel text next => do
    let stream ← match channel with
      | .output => IO.getStdout
      | .messages => IO.getStderr
    stream.putStr text
    stream.flush
    (next ()).perform
  | .now next => do (next (← readClock)).perform
  | .pause d next => do
    -- the system counts milliseconds, and a pause is not to be cut short
    IO.sleep ((d.nanoseconds + 999999) / 1000000).toUInt32
    (next ()).perform
  | .freshSecret next => do (next (← randomSecret)).perform
  | .freshRunId next => do (next (← randomIdentifier)).perform

end World

end Obfuscator

/-- Does what the command line asks for. -/
def main (words : List String) : IO UInt32 := do
  let exit ← (Obfuscator.runProgram words).perform
  return exit.code.toUInt32
