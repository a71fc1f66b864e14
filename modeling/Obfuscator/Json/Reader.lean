/-
Reading JSON values from text.

Every JSON document is read, with blanks wherever they are allowed; anything
that is not one is refused. A string may spell a character outside the basic
plane by two escaped surrogates; a surrogate without its partner is refused.
Numbers are kept as they are written.
-/
import Obfuscator.Json.Basic
import Obfuscator.Text.Digit

namespace Obfuscator.Json

/-- What is left of a text after its leading blanks. -/
def skipBlank : List Char → List Char
  | [] => []
  | c :: rest =>
    if c = ' ' ∨ c = '\n' ∨ c = '\r' ∨ c = '\t' then skipBlank rest
    else c :: rest

-- ============================================================== strings

/-- The number that four hexadecimal digits spell. -/
def hexValue4? (a b c d : Char) : Option Nat := do
  let a ← Text.digitValue? 16 a
  let b ← Text.digitValue? 16 b
  let c ← Text.digitValue? 16 c
  let d ← Text.digitValue? 16 d
  return ((a * 16 + b) * 16 + c) * 16 + d

/-- The character that a letter after a backslash stands for. -/
def unescape? (c : Char) : Option Char :=
  if c = '"' then some '"'
  else if c = '\\' then some '\\'
  else if c = '/' then some '/'
  else if c = 'b' then some '\x08'
  else if c = 'f' then some '\x0c'
  else if c = 'n' then some '\n'
  else if c = 'r' then some '\r'
  else if c = 't' then some '\t'
  else none

/-- The inside of a string up to its closing quote, and what follows the
quote. -/
def readString : List Char → Option (List Char × List Char)
  | [] => none
  | '"' :: rest => some ([], rest)
  | '\\' :: 'u' :: a :: b :: c :: d :: rest =>
    match hexValue4? a b c d with
    | none => none
    | some n =>
      if 0xD800 ≤ n ∧ n ≤ 0xDBFF then
        match rest with
        | '\\' :: 'u' :: e :: f :: g :: h :: rest' =>
          match hexValue4? e f g h with
          | none => none
          | some m =>
            if 0xDC00 ≤ m ∧ m ≤ 0xDFFF then
              (readString rest').map fun (s, t) =>
                (Char.ofNat (0x10000 + (n - 0xD800) * 0x400 + (m - 0xDC00))
                  :: s, t)
            else none
        | _ => none
      else if 0xDC00 ≤ n ∧ n ≤ 0xDFFF then none
      else (readString rest).map fun (s, t) => (Char.ofNat n :: s, t)
  | '\\' :: c :: rest =>
    match unescape? c with
    | none => none
    | some e => (readString rest).map fun (s, t) => (e :: s, t)
  | c :: rest =>
    if c.toNat < 0x20 ∨ c = '\\' then none
    else (readString rest).map fun (s, t) => (c :: s, t)

-- ============================================================== numbers

/-- The digits at the start of a text, and the rest. -/
def readDigits (s : List Char) : List Char × List Char :=
  (s.takeWhile Char.isDigit, s.dropWhile Char.isDigit)

/-- The whole part of a number: zero alone, or digits that do not start with
zero. -/
def readWhole (s : List Char) : Option (List Char × List Char) :=
  match s with
  | '0' :: rest => some (['0'], rest)
  | _ =>
    match readDigits s with
    | ([], _) => none
    | digits => some digits

/-- The fraction of a number, with its point; empty if there is none. -/
def readFraction (s : List Char) : Option (List Char × List Char) :=
  match s with
  | '.' :: rest =>
    match readDigits rest with
    | ([], _) => none
    | (digits, rest) => some ('.' :: digits, rest)
  | _ => some ([], s)

/-- The exponent of a number, with its letter; empty if there is none. -/
def readExponent (s : List Char) : Option (List Char × List Char) :=
  match s with
  | e :: rest =>
    if e = 'e' ∨ e = 'E' then
      let (sign, rest) :=
        match rest with
        | '+' :: more => (['+'], more)
        | '-' :: more => (['-'], more)
        | _ => ([], rest)
      match readDigits rest with
      | ([], _) => none
      | (digits, rest) => some (e :: sign ++ digits, rest)
    else some ([], s)
  | [] => some ([], [])

/-- A number as it is written. -/
def readNumber (s : List Char) : Option (List Char × List Char) := do
  let (sign, s) :=
    match s with
    | '-' :: rest => (['-'], rest)
    | _ => ([], s)
  let (whole, s) ← readWhole s
  let (fraction, s) ← readFraction s
  let (exponent, s) ← readExponent s
  return (sign ++ whole ++ fraction ++ exponent, s)

-- =============================================================== values

mutual

/-- A value and what follows it; `fuel` bounds the number of steps. -/
def readValue : (fuel : Nat) → List Char → Option (Json × List Char)
  | 0, _ => none
  | fuel + 1, s =>
    match skipBlank s with
    | 'n' :: 'u' :: 'l' :: 'l' :: rest => some (.null, rest)
    | 't' :: 'r' :: 'u' :: 'e' :: rest => some (.bool true, rest)
    | 'f' :: 'a' :: 'l' :: 's' :: 'e' :: rest => some (.bool false, rest)
    | '"' :: rest => (readString rest).map fun (s, t) =>
      (.string (String.ofList s), t)
    | '[' :: rest =>
      match skipBlank rest with
      | ']' :: rest => some (.array [], rest)
      | rest => (readElements fuel rest).map fun (l, t) => (.array l, t)
    | '{' :: rest =>
      match skipBlank rest with
      | '}' :: rest => some (.object [], rest)
      | rest => (readMembers fuel rest).map fun (l, t) => (.object l, t)
    | rest => (readNumber rest).map fun (n, t) =>
      (.number (String.ofList n), t)

/-- The elements of an array that has some, and what follows its bracket. -/
def readElements : (fuel : Nat) → List Char → Option (List Json × List Char)
  | 0, _ => none
  | fuel + 1, s =>
    match readValue fuel s with
    | none => none
    | some (v, rest) =>
      match skipBlank rest with
      | ',' :: rest => (readElements fuel rest).map fun (l, t) => (v :: l, t)
      | ']' :: rest => some ([v], rest)
      | _ => none

/-- The members of an object that has some, and what follows its brace. -/
def readMembers :
    (fuel : Nat) → List Char → Option (List (String × Json) × List Char)
  | 0, _ => none
  | fuel + 1, s =>
    match skipBlank s with
    | '"' :: rest =>
      match readString rest with
      | none => none
      | some (k, rest) =>
        match skipBlank rest with
        | ':' :: rest =>
          match readValue fuel rest with
          | none => none
          | some (v, rest) =>
            match skipBlank rest with
            | ',' :: rest =>
              (readMembers fuel rest).map fun (l, t) =>
                ((String.ofList k, v) :: l, t)
            | '}' :: rest => some ([(String.ofList k, v)], rest)
            | _ => none
        | _ => none
    | _ => none

end

/-- The value a text spells, blanks around it left out. -/
def parse? (text : String) : Option Json :=
  match readValue (2 * text.length + 2) text.toList with
  | some (v, rest) => if (skipBlank rest).isEmpty then some v else none
  | none => none

end Obfuscator.Json
