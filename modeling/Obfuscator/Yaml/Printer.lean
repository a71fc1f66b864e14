/-
Values as YAML documents.

Every entry of a mapping and every item of a sequence has a line of its own.
A mapping inside another one is indented by two blanks, and so is what
belongs to an item; a sequence inside a mapping is not indented. Empty ones
are written in one piece, as in JSON.
-/
import Obfuscator.Json.Basic
import Obfuscator.Yaml.Scalar

namespace Obfuscator.Yaml

/-- A piece with another one on the next line, indented. -/
def Piece.nextLine (p : Piece) (indent : Nat) (q : Piece) : Piece where
  text := p.text ++ (if p.endsLine then [] else ['\n'])
    ++ spaces indent ++ q.text
  endsLine := q.endsLine

/-- A text in front of a piece. -/
def Piece.after (start : List Char) (p : Piece) : Piece :=
  { p with text := start ++ p.text }

/-- The key of an entry, with its colon. A key of several lines stands in
double quotes. -/
def key (k : String) : List Char :=
  (if k.toList.any isBreak then doubleQuoted k.toList else (scalar 0 k).text)
    ++ [':']

mutual

/-- The items of a sequence, the first of them where the line has come to. -/
def sequence (indent : Nat) : List Json → Piece
  | [] => { text := [] }
  | [v] => item indent v
  | v :: w :: rest =>
    (item indent v).nextLine indent (sequence indent (w :: rest))
termination_by structural l => l

/-- One item of a sequence, with its dash. -/
def item (indent : Nat) : Json → Piece
  | .null => { text := ['-', ' ', 'n', 'u', 'l', 'l'] }
  | .bool b => { text := '-' :: ' ' :: (toString b).toList }
  | .number lexeme => { text := '-' :: ' ' :: lexeme.toList }
  | .string s => (scalar (indent + 2) s).after ['-', ' ']
  | .array [] => { text := ['-', ' ', '[', ']'] }
  | .array (v :: rest) => (sequence (indent + 2) (v :: rest)).after ['-', ' ']
  | .object [] => { text := ['-', ' ', '{', '}'] }
  | .object (m :: rest) => (mapping (indent + 2) (m :: rest)).after ['-', ' ']
termination_by structural j => j

/-- The entries of a mapping, the first of them where the line has come to. -/
def mapping (indent : Nat) : List (String × Json) → Piece
  | [] => { text := [] }
  | [(k, v)] => entry indent (key k) v
  | (k, v) :: m :: rest =>
    (entry indent (key k) v).nextLine indent (mapping indent (m :: rest))
termination_by structural l => l

/-- One entry of a mapping, whose key is written already. -/
def entry (indent : Nat) (k : List Char) : Json → Piece
  | .null => { text := k ++ [' ', 'n', 'u', 'l', 'l'] }
  | .bool b => { text := k ++ ' ' :: (toString b).toList }
  | .number lexeme => { text := k ++ ' ' :: lexeme.toList }
  | .string s => (scalar (indent + 2) s).after (k ++ [' '])
  | .array [] => { text := k ++ [' ', '[', ']'] }
  | .array (v :: rest) =>
    Piece.nextLine { text := k } indent (sequence indent (v :: rest))
  | .object [] => { text := k ++ [' ', '{', '}'] }
  | .object (m :: rest) =>
    Piece.nextLine { text := k } (indent + 2)
      (mapping (indent + 2) (m :: rest))
termination_by structural j => j

end

/-- A value that is a document by itself. -/
def document : Json → Piece
  | .null => { text := ['n', 'u', 'l', 'l'] }
  | .bool b => { text := (toString b).toList }
  | .number lexeme => { text := lexeme.toList }
  | .string s => scalar 2 s
  | .array [] => { text := ['[', ']'] }
  | .array (v :: rest) => sequence 0 (v :: rest)
  | .object [] => { text := ['{', '}'] }
  | .object (m :: rest) => mapping 0 (m :: rest)

/-- A value as a YAML document. -/
def render (j : Json) : String :=
  let p := document j
  String.ofList (p.text ++ if p.endsLine then [] else ['\n'])

end Obfuscator.Yaml
