/-
Texts of YAML documents in the form that each of them needs.

A text of several lines is written as a block, one that would be read as
something else in single quotes, and any other as it is. Where the form is
not possible the next stronger one is taken: single quotes instead of none,
and double quotes, inside which everything can be escaped, instead of single
quotes or a block.
-/
import Obfuscator.Text.Hex
import Obfuscator.Yaml.Plain

namespace Obfuscator.Yaml

/-- A piece of a document. What follows a piece that ends its line needs no
line end before it. -/
structure Piece where
  text : List Char
  endsLine : Bool := false
  deriving DecidableEq, Repr

/-- So many blanks. -/
def spaces (n : Nat) : List Char := List.replicate n ' '

-- ================================================================ forms

/-- Every text has one of four forms. -/
inductive Form
  | plain
  | singleQuotes
  | doubleQuotes
  | block
  deriving DecidableEq, Repr

/-- The form of a text. -/
def Form.of (s : String) : Form :=
  let shape := Shape.of s.toList
  if s.toList.contains '\n' then
    if shape.allowsBlock then block else doubleQuotes
  else if !ambiguous s && shape.allowsPlain then plain
  else if shape.allowsSingleQuotes then singleQuotes
  else doubleQuotes

/-- Lines after the first are indented where they begin; `afterBreak` tells
whether a line has just ended. -/
def indentLines (indent : Nat) (write : Char → List Char) :
    (afterBreak : Bool) → List Char → List Char
  | _, [] => []
  | afterBreak, c :: rest =>
    if isBreak c then c :: indentLines indent write true rest
    else
      (if afterBreak then spaces indent else []) ++ write c
        ++ indentLines indent write false rest

/-- Whether a text ends with the end of a line. -/
def endsInBreak (s : List Char) : Bool := s.getLast?.any isBreak

/-- A text in single quotes, which are doubled inside. -/
def singleQuoted (indent : Nat) (s : List Char) : List Char :=
  '\'' :: indentLines indent
      (fun c => if c = '\'' then ['\'', '\''] else [c]) false s
    ++ (if endsInBreak s then spaces indent else []) ++ ['\'']

/-- A number as so many hexadecimal digits with capitals. -/
def capitalHex (width n : Nat) : List Char :=
  (Text.hexPadded width n).map Char.toUpper

/-- The escape for a character. -/
def escapeOf (c : Char) : List Char :=
  if c = '\x00' then ['\\', '0']
  else if c = '\x07' then ['\\', 'a']
  else if c = '\x08' then ['\\', 'b']
  else if c = '\t' then ['\\', 't']
  else if c = '\n' then ['\\', 'n']
  else if c = '\x0b' then ['\\', 'v']
  else if c = '\x0c' then ['\\', 'f']
  else if c = '\r' then ['\\', 'r']
  else if c = '\x1b' then ['\\', 'e']
  else if c = '"' then ['\\', '"']
  else if c = '\\' then ['\\', '\\']
  else if c = '\x85' then ['\\', 'N']
  else if c = '\u2028' then ['\\', 'L']
  else if c = '\u2029' then ['\\', 'P']
  else if c.toNat ≤ 0xff then '\\' :: 'x' :: capitalHex 2 c.toNat
  else if c.toNat ≤ 0xffff then '\\' :: 'u' :: capitalHex 4 c.toNat
  else '\\' :: 'U' :: capitalHex 8 c.toNat

/-- Whether a character is escaped between double quotes. -/
def needsEscape (c : Char) : Bool :=
  !isPrintable c || isBreak c || c = '"' || c = '\\'

/-- A text in double quotes. -/
def doubleQuoted (s : List Char) : List Char :=
  '"' :: s.flatMap (fun c => if needsEscape c then escapeOf c else [c])
    ++ ['"']

/-- What stands after the bar that opens a block: the indent, where the text
does not show it by itself, and what becomes of line ends at its end. A
single one needs no mention. -/
def blockHints (s : List Char) : List Char :=
  let indent :=
    if s.head?.any (fun c => c = ' ' || isBreak c) then ['2'] else []
  let ending :=
    match s.reverse with
    | [] => ['-']
    | [c] => if isBreak c then ['+'] else ['-']
    | c :: d :: _ =>
      if isBreak c then if isBreak d then ['+'] else [] else ['-']
  indent ++ ending

/-- A text as a block of lines. -/
def blockOf (indent : Nat) (s : List Char) : Piece where
  text := '|' :: blockHints s
    ++ '\n' :: indentLines indent (fun c => [c]) true s
  endsLine := s.isEmpty || endsInBreak s

/-- A text in its form; further lines are indented by `indent`. -/
def scalar (indent : Nat) (s : String) : Piece :=
  match Form.of s with
  | .plain => { text := s.toList }
  | .singleQuotes => { text := singleQuoted indent s.toList }
  | .doubleQuotes => { text := doubleQuoted s.toList }
  | .block => blockOf indent s.toList

end Obfuscator.Yaml
