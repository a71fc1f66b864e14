/-
Strings, keys and blanks of TOML documents.

A reader takes a text and gives what it read with what follows, or the place
where it got stuck. Strings stand in quotes, where a backslash starts an
escape, or in apostrophes, where it does not; with three of either they may
go over several lines. Control characters other than the tab appear nowhere
but as an escape.
-/
import Obfuscator.Toml.Scalar

namespace Obfuscator.Toml

open Text (digitsValue isDigitOf)

/-- Where a reader got stuck: what was left of the document. -/
structure Stuck where
  rest : List Char

/-- What a reader gives for a text. -/
abbrev Reading (α : Type) := Except Stuck (α × List Char)

/-- Whether a character may stand in a document as it is, outside of line
ends. -/
def isPlain (c : Char) : Bool :=
  c = '\t' || (0x20 ≤ c.toNat && c.toNat ≠ 0x7f)

-- ============================================================ blanks

/-- What follows the blanks of a line. -/
def skipSpace (s : List Char) : List Char :=
  s.dropWhile fun c => c = ' ' || c = '\t'

/-- What follows a line end, if there is one. -/
def lineEnd? : List Char → Option (List Char)
  | '\n' :: rest => some rest
  | '\r' :: '\n' :: rest => some rest
  | _ => none

/-- What follows a comment, if there is one, up to its line end. -/
def skipComment (s : List Char) : List Char :=
  match s with
  | '#' :: rest => rest.dropWhile isPlain
  | _ => s

/-- What follows the rest of a line that holds nothing more than blanks and
a comment. -/
def finishLine (s : List Char) : Except Stuck (List Char) :=
  let s := skipComment (skipSpace s)
  match lineEnd? s with
  | some rest => .ok rest
  | none => if s.isEmpty then .ok [] else .error ⟨s⟩

/-- What follows blanks, line ends and comments; a comment has to end with
its line. -/
def skipLines : (fuel : Nat) → List Char → Except Stuck (List Char)
  | 0, s => .ok s
  | fuel + 1, s =>
    let s := skipSpace s
    match lineEnd? s with
    | some rest => skipLines fuel rest
    | none =>
      match s with
      | '#' :: _ =>
        match lineEnd? (skipComment s) with
        | some rest => skipLines fuel rest
        | none => .error ⟨s⟩
      | _ => .ok s

-- ============================================================ strings

/-- The character that hexadecimal digits name, so many of them. -/
def readCodePoint (width : Nat) (s : List Char) : Reading Char :=
  let digits := s.take width
  let n := digitsValue 16 digits
  if digits.length = width ∧ digits.all (isDigitOf 16) ∧
      (n < 0xD800 ∨ (0xDFFF < n ∧ n < 0x110000)) then
    .ok (Char.ofNat n, s.drop width)
  else .error ⟨s⟩

/-- The character of an escape, read after its backslash. -/
def readEscape (s : List Char) : Reading Char :=
  match s with
  | 'b' :: rest => .ok ('\x08', rest)
  | 't' :: rest => .ok ('\t', rest)
  | 'n' :: rest => .ok ('\n', rest)
  | 'f' :: rest => .ok ('\x0c', rest)
  | 'r' :: rest => .ok ('\r', rest)
  | '"' :: rest => .ok ('"', rest)
  | '\\' :: rest => .ok ('\\', rest)
  | 'u' :: rest => readCodePoint 4 rest
  | 'U' :: rest => readCodePoint 8 rest
  | _ => .error ⟨s⟩

/-- Puts a character in front of a text that was read. -/
def Reading.prepend (c : Char) (r : Reading (List Char)) :
    Reading (List Char) :=
  r.map fun (text, rest) => (c :: text, rest)

/-- The inside of a string in quotes, and what follows its closing quote. -/
def readBasic : (fuel : Nat) → List Char → Reading (List Char)
  | 0, s => .error ⟨s⟩
  | fuel + 1, s =>
    match s with
    | [] => .error ⟨s⟩
    | '"' :: rest => .ok ([], rest)
    | '\\' :: rest =>
      match readEscape rest with
      | .error e => .error e
      | .ok (c, rest) => (readBasic fuel rest).prepend c
    | c :: rest =>
      if isPlain c then (readBasic fuel rest).prepend c else .error ⟨s⟩

/-- The inside of a string in apostrophes, and what follows the closing one. -/
def readLiteral : List Char → Reading (List Char)
  | [] => .error ⟨[]⟩
  | '\'' :: rest => .ok ([], rest)
  | c :: rest =>
    if isPlain c then (readLiteral rest).prepend c else .error ⟨c :: rest⟩

/-- The number of times a character stands at the start of a text. -/
def countLeading (c : Char) (s : List Char) : Nat :=
  (s.takeWhile (· = c)).length

/-- What a run of quotes inside a string of several lines means: fewer than
three are text, and with three the string is closed; up to two more may
stand before those. -/
inductive QuoteRun
  | text
  | closing (inside : Nat)
  | tooLong

/-- The meaning of a run of so many quotes. -/
def QuoteRun.ofCount (n : Nat) : QuoteRun :=
  if n < 3 then .text else if n ≤ 5 then .closing (n - 3) else .tooLong

/-- What follows a backslash at the end of a line: the next character that
is no blank, if a line end comes before it. -/
def skipFoldedLine (s : List Char) : Option (List Char) :=
  (lineEnd? (skipSpace s)).map skipBlankLines
where
  /-- What follows blanks and line ends. -/
  skipBlankLines : List Char → List Char
    | [] => []
    | '\r' :: '\n' :: rest => skipBlankLines rest
    | c :: rest =>
      if c = ' ' ∨ c = '\t' ∨ c = '\n' then skipBlankLines rest else c :: rest

/-- The inside of a string in three quotes, and what follows its closing
quotes. -/
def readBasicBlock : (fuel : Nat) → List Char → Reading (List Char)
  | 0, s => .error ⟨s⟩
  | fuel + 1, s =>
    match lineEnd? s with
    | some rest => (readBasicBlock fuel rest).prepend '\n'
    | none =>
      match s with
      | [] => .error ⟨s⟩
      | '"' :: rest =>
        match QuoteRun.ofCount (countLeading '"' s) with
        | .text => (readBasicBlock fuel rest).prepend '"'
        | .closing inside =>
          .ok (List.replicate inside '"', s.drop (inside + 3))
        | .tooLong => .error ⟨s⟩
      | '\\' :: rest =>
        match skipFoldedLine rest with
        | some rest => readBasicBlock fuel rest
        | none =>
          match readEscape rest with
          | .error e => .error e
          | .ok (c, rest) => (readBasicBlock fuel rest).prepend c
      | c :: rest =>
        if isPlain c then (readBasicBlock fuel rest).prepend c else .error ⟨s⟩

/-- The inside of a string in three apostrophes, and what follows the
closing ones. -/
def readLiteralBlock : (fuel : Nat) → List Char → Reading (List Char)
  | 0, s => .error ⟨s⟩
  | fuel + 1, s =>
    match lineEnd? s with
    | some rest => (readLiteralBlock fuel rest).prepend '\n'
    | none =>
      match s with
      | [] => .error ⟨s⟩
      | '\'' :: rest =>
        match QuoteRun.ofCount (countLeading '\'' s) with
        | .text => (readLiteralBlock fuel rest).prepend '\''
        | .closing inside =>
          .ok (List.replicate inside '\'', s.drop (inside + 3))
        | .tooLong => .error ⟨s⟩
      | c :: rest =>
        if isPlain c then (readLiteralBlock fuel rest).prepend c
        else .error ⟨s⟩

/-- What follows the line end right after opening quotes, which is not part
of the string. -/
def dropFirstLineEnd (s : List Char) : List Char := (lineEnd? s).getD s

/-- A string of any of the four forms. -/
def readText (s : List Char) : Reading String :=
  let inside : Reading (List Char) :=
    match s with
    | '"' :: '"' :: '"' :: rest =>
      readBasicBlock (rest.length + 1) (dropFirstLineEnd rest)
    | '\'' :: '\'' :: '\'' :: rest =>
      readLiteralBlock (rest.length + 1) (dropFirstLineEnd rest)
    | '"' :: rest => readBasic (rest.length + 1) rest
    | '\'' :: rest => readLiteral rest
    | _ => .error ⟨s⟩
  inside.map fun (text, rest) => (String.ofList text, rest)

-- ============================================================ keys

/-- Whether a character may stand in a key without quotes. -/
def isKeyChar (c : Char) : Bool := c.isAlphanum || c = '-' || c = '_'

/-- One part of a key: bare, in quotes or in apostrophes. -/
def readKeyPart (s : List Char) : Reading String :=
  match s with
  | '"' :: rest =>
    (readBasic (rest.length + 1) rest).map fun (text, rest) =>
      (String.ofList text, rest)
  | '\'' :: rest => (readLiteral rest).map fun (text, rest) =>
    (String.ofList text, rest)
  | _ =>
    let bare := s.takeWhile isKeyChar
    if bare.isEmpty then .error ⟨s⟩
    else .ok (String.ofList bare, s.dropWhile isKeyChar)

/-- The parts of a key, with blanks allowed around each. -/
def readKeyParts : (fuel : Nat) → List Char → Reading (List String)
  | 0, s => .error ⟨s⟩
  | fuel + 1, s =>
    match readKeyPart (skipSpace s) with
    | .error e => .error e
    | .ok (part, rest) =>
      match skipSpace rest with
      | '.' :: more => (readKeyParts fuel more).map fun (parts, rest) =>
        (part :: parts, rest)
      | rest => .ok ([part], rest)

/-- The greatest depth to which a document may nest, be it by keys or by
values. -/
def maxDepth : Nat := 79

/-- A key, which has at least one part and not too many. -/
def readKey (s : List Char) : Reading (List String) :=
  match readKeyParts (s.length + 1) s with
  | .error e => .error e
  | .ok (parts, rest) =>
    if parts.length ≤ maxDepth then .ok (parts, rest) else .error ⟨s⟩

end Obfuscator.Toml
