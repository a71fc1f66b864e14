/-
JSON values as text, in two layouts.

`Json.compact` puts a value on one line without any blank. `Json.pretty`
gives every element and member a line of its own, indented by two blanks a
level, and writes an empty array or object in one piece. Strings are escaped
the same way in both: the quote, the backslash and the controls below
U+0020, all else as it is.
-/
import Obfuscator.Json.Basic
import Obfuscator.Text.Hex

namespace Obfuscator.Json

-- ============================================================== strings

/-- One character inside a JSON string. -/
def escapeChar (c : Char) : List Char :=
  if c = '"' then ['\\', '"']
  else if c = '\\' then ['\\', '\\']
  else if c = '\x08' then ['\\', 'b']
  else if c = '\x0c' then ['\\', 'f']
  else if c = '\n' then ['\\', 'n']
  else if c = '\r' then ['\\', 'r']
  else if c = '\t' then ['\\', 't']
  else if c.toNat < 0x20 then '\\' :: 'u' :: Text.hexPadded 4 c.toNat
  else [c]

/-- The inside of a JSON string. -/
def escape (s : List Char) : List Char := s.flatMap escapeChar

/-- A JSON string with its quotes. -/
def quote (s : String) : List Char := '"' :: escape s.toList ++ ['"']

-- =============================================================== values

mutual

/-- A value on one line. -/
def compactChars : Json → List Char
  | .null => ['n', 'u', 'l', 'l']
  | .bool true => ['t', 'r', 'u', 'e']
  | .bool false => ['f', 'a', 'l', 's', 'e']
  | .number lexeme => lexeme.toList
  | .string s => quote s
  | .array elements => '[' :: compactElements elements ++ [']']
  | .object members => '{' :: compactMembers members ++ ['}']
termination_by structural j => j

/-- The elements of an array, a comma between each two. -/
def compactElements : List Json → List Char
  | [] => []
  | [v] => compactChars v
  | v :: w :: rest => compactChars v ++ ',' :: compactElements (w :: rest)
termination_by structural l => l

/-- The members of an object, a comma between each two. -/
def compactMembers : List (String × Json) → List Char
  | [] => []
  | [(k, v)] => quote k ++ ':' :: compactChars v
  | (k, v) :: m :: rest =>
    quote k ++ ':' :: compactChars v ++ ',' :: compactMembers (m :: rest)
termination_by structural l => l

end

/-- A new line, indented by so many levels. -/
def newline (level : Nat) : List Char := '\n' :: List.replicate (2 * level) ' '

mutual

/-- A value over several lines, the first of which is indented by `level`
already. -/
def prettyChars (level : Nat) : Json → List Char
  | .null => ['n', 'u', 'l', 'l']
  | .bool true => ['t', 'r', 'u', 'e']
  | .bool false => ['f', 'a', 'l', 's', 'e']
  | .number lexeme => lexeme.toList
  | .string s => quote s
  | .array [] => ['[', ']']
  | .array (v :: rest) =>
    '[' :: newline (level + 1) ++ prettyElements (level + 1) (v :: rest)
      ++ newline level ++ [']']
  | .object [] => ['{', '}']
  | .object (m :: rest) =>
    '{' :: newline (level + 1) ++ prettyMembers (level + 1) (m :: rest)
      ++ newline level ++ ['}']
termination_by structural j => j

/-- The elements of an array, each on a line of its own. -/
def prettyElements (level : Nat) : List Json → List Char
  | [] => []
  | [v] => prettyChars level v
  | v :: w :: rest =>
    prettyChars level v ++ ',' :: newline level ++ prettyElements level
      (w :: rest)
termination_by structural l => l

/-- The members of an object, each on a line of its own. -/
def prettyMembers (level : Nat) : List (String × Json) → List Char
  | [] => []
  | [(k, v)] => quote k ++ ':' :: ' ' :: prettyChars level v
  | (k, v) :: m :: rest =>
    quote k ++ ':' :: ' ' :: prettyChars level v ++ ',' :: newline level ++
      prettyMembers level (m :: rest)
termination_by structural l => l

end

/-- A value as text on one line. -/
def compact (j : Json) : String := String.ofList (compactChars j)

/-- A value as text over several lines. -/
def pretty (j : Json) : String := String.ofList (prettyChars 0 j)

end Obfuscator.Json
