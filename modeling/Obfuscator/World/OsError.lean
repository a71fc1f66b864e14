/-
Why an operation on files fails, in the words of the operating system.
-/
namespace Obfuscator.World

/-- A failed operation on files. -/
inductive OsError
  | notFound
  | permissionDenied
  | alreadyExists
  | notADirectory
  | isADirectory
  | nameTooLong
  /-- The content of a file is no text. -/
  | notUtf8
  /-- The path holds a NUL, which no file name can. -/
  | nulInPath
  /-- Any other reason, by its words and number. -/
  | other (words : String) (number : Nat)
  deriving DecidableEq, Repr

def OsError.message : OsError → String
  | notFound => "No such file or directory (os error 2)"
  | permissionDenied => "Permission denied (os error 13)"
  | alreadyExists => "File exists (os error 17)"
  | notADirectory => "Not a directory (os error 20)"
  | isADirectory => "Is a directory (os error 21)"
  | nameTooLong => "File name too long (os error 36)"
  | notUtf8 => "stream did not contain valid UTF-8"
  | nulInPath => "file name contained an unexpected NUL byte"
  | other words number => words ++ " (os error " ++ toString number ++ ")"

end Obfuscator.World
