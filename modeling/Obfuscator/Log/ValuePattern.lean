/-
Values that a directive asks for.

A value is a truth value, a number or a pattern for texts, a regular
expression. Since no stretch of work is ever begun, no value is ever
compared with one; what matters is whether it can be asked for at all. Every
truth value and every number without a plus sign is a pattern, too, so only
the others have to be looked at.

A closing brace would end the value, so whatever needs one in a pattern is a
fault. A pattern that looks for the ends of words over all of Unicode is
none that can be asked for.
-/
import Obfuscator.Text.Alphanumeric
import Obfuscator.Text.Blank
import Obfuscator.Text.Digit

namespace Obfuscator.Log

/-- Why a value cannot be asked for. -/
inductive PatternFault
  | malformed
  /-- The ends of words over all of Unicode are looked for. -/
  | unicodeBoundary
  deriving DecidableEq, Repr

def PatternFault.message : PatternFault → String
  | malformed => "error building NFA"
  | unicodeBoundary =>
    "unsupported regex feature for DFAs: cannot build DFAs for regexes " ++
      "with Unicode word boundaries; switch to ASCII word boundaries, or " ++
      "heuristically enable Unicode word boundaries or use a different " ++
      "regex engine"

-- ================================================================ numbers

/-- Whether a text is a number without a sign, infinity and the undefined
number included. -/
def isUnsignedNumber (s : List Char) : Bool :=
  let point := s.dropWhile Char.isDigit
  let fraction :=
    match point with
    | '.' :: rest => rest
    | _ => []
  let exponent :=
    match point with
    | '.' :: _ => fraction.dropWhile Char.isDigit
    | _ => point
  let hasDigit := s.head?.any Char.isDigit || fraction.head?.any Char.isDigit
  let named := ["inf", "infinity", "nan"].any fun word =>
    s.map Char.toLower == word.toList
  named || hasDigit &&
    match exponent with
    | [] => true
    | c :: rest =>
      let digits :=
        match rest with
        | '+' :: digits => digits
        | '-' :: digits => digits
        | _ => rest
      (c = 'e' || c = 'E') && !digits.isEmpty && digits.all Char.isDigit

namespace Pattern

/-- How a stretch of a pattern is read. -/
structure Mode where
  /-- Over all of Unicode, or over bytes. -/
  unicode : Bool := true
  /-- With white space and comments that count for nothing. -/
  verbose : Bool := false
  deriving DecidableEq, Repr

/-- What is left of a text after white space and comments; `comment` says
whether it starts inside a comment. -/
def skipIgnored (comment : Bool) : List Char → List Char
  | [] => []
  | c :: rest =>
    if comment then skipIgnored (c ≠ '\n') rest
    else if c = '#' then skipIgnored true rest
    else if Text.isBlank c then skipIgnored false rest
    else c :: rest

/-- What is left of a text after what counts for nothing in a mode. -/
def Mode.skip (m : Mode) (s : List Char) : List Char :=
  if m.verbose then skipIgnored false s else s

-- ================================================================ escapes

/-- What a backslash and what follows it stand for. -/
inductive Escape
  /-- A character; `byte` says whether it is given as a byte. -/
  | literal (c : Char) (byte : Bool)
  /-- Digits, blanks or word characters, or all others. -/
  | set (negated : Bool)
  /-- The characters of a kind. -/
  | kind
  /-- An end of a word, or a place that is none. -/
  | boundary
  /-- An end of the text. -/
  | anchor
  deriving DecidableEq, Repr

/-- The characters that stand for themselves after a backslash. -/
def isEscapable (c : Char) : Bool :=
  c.toNat < 0x80 && !c.isAlphanum && c ≠ '<' && c ≠ '>'

/-- The names of kinds of characters that are a single letter. -/
def kindNames : List Char := ['c', 'l', 'm', 'n', 'p', 's', 'z']

/-- Reads a character that is given by so many hexadecimal digits. -/
def readCode (size : Nat) (s : List Char) : Option (Char × List Char) :=
  match Text.spelled? 16 (s.take size) with
  | none => none
  | some n =>
    if (s.take size).length = size ∧ n.isValidChar then
      some (Char.ofNat n, s.drop size)
    else none

/-- Reads what follows a backslash. -/
def readEscape : List Char → Option (Escape × List Char)
  | [] => none
  | c :: rest =>
    let code (size : Nat) : Option (Escape × List Char) :=
      (readCode size rest).map fun found =>
        (.literal found.1 (size = 2), found.2)
    match c with
    | 'x' => code 2
    | 'u' => code 4
    | 'U' => code 8
    | 'p' | 'P' =>
      match rest with
      | [] => none
      | name :: rest =>
        if kindNames.contains name.toLower then some (.kind, rest) else none
    | 'd' | 's' | 'w' => some (.set false, rest)
    | 'D' | 'S' | 'W' => some (.set true, rest)
    | 'a' => some (.literal '\x07' false, rest)
    | 'f' => some (.literal '\x0c' false, rest)
    | 't' => some (.literal '\t' false, rest)
    | 'n' => some (.literal '\n' false, rest)
    | 'r' => some (.literal '\r' false, rest)
    | 'v' => some (.literal '\x0b' false, rest)
    | 'A' | 'z' => some (.anchor, rest)
    | 'b' | 'B' | '<' | '>' => some (.boundary, rest)
    | c => if isEscapable c then some (.literal c false, rest) else none

/-- Whether an escape can stand for itself in a mode. Over bytes nothing can
be asked for that matches a part of a character. -/
def Escape.fits (m : Mode) : Escape → Bool
  | .literal c byte => m.unicode || !byte || c.toNat < 0x80
  | .set negated => m.unicode || !negated
  | .kind => m.unicode
  | .boundary => true
  | .anchor => true

-- ================================================================ classes

/-- The names of classes inside a class. -/
def classNames : List String :=
  ["alnum", "alpha", "ascii", "blank", "cntrl", "digit", "graph", "lower",
    "print", "punct", "space", "upper", "word", "xdigit"]

/-- Reads a named class, after its opening bracket: whether it is negated,
and what follows. -/
def readNamedClass : List Char → Option (Bool × List Char)
  | ':' :: rest =>
    let negated := rest.head? = some '^'
    let rest := if negated then rest.drop 1 else rest
    match rest.dropWhile (· ≠ ':') with
    | ':' :: ']' :: after =>
      if classNames.contains (String.ofList (rest.takeWhile (· ≠ ':'))) then
        some (negated, after)
      else none
    | _ => none
  | _ => none

/-- Reads the start of a class, after its opening bracket. Dashes stand for
themselves there, and so does a closing bracket. -/
def readClassStart (m : Mode) (s : List Char) : Option (List Char) :=
  let s := m.skip s
  let negated := s.head? = some '^'
  let s := if negated then m.skip (s.drop 1) else s
  if negated ∧ !m.unicode then none
  else
    match s with
    | '-' :: rest => some (rest.dropWhile (· = '-'))
    | ']' :: rest => some rest
    | _ => some s

/-- Reads one member of a class, or one end of a range. -/
def readMember : List Char → Option (Escape × List Char)
  | [] => none
  | '\\' :: rest => readEscape rest
  | c :: rest => some (.literal c false, rest)

/-- Whether something can be a member of a class. -/
def Escape.isMember (m : Mode) : Escape → Bool
  | .literal c _ => m.unicode || c.toNat < 0x80
  | .boundary => false
  | .anchor => false
  | e => e.fits m

/-- Reads a member of a class, or a range of members. -/
def readRange (m : Mode) (s : List Char) : Option (List Char) := do
  let (first, rest) ← readMember s
  if !first.isMember m then none
  match m.skip rest with
  | '-' :: after =>
    let next := (m.skip after).head?
    if next = some ']' ∨ next = some '-' then some ('-' :: after)
    else
      let (last, after) ← readMember (m.skip after)
      match first, last with
      | .literal a _, .literal b _ =>
        if a ≤ b ∧ last.isMember m then some after else none
      | _, _ => none
  | rest => some rest

/-- Reads the rest of a class inside `depth` others. Every step reads at
least one character. -/
def readClass (m : Mode) : (fuel depth : Nat) → List Char → Option (List Char)
  | 0, _, _ => none
  | fuel + 1, depth, s =>
    match m.skip s with
    | [] => none
    | '[' :: rest =>
      match readNamedClass rest with
      | some (negated, rest) =>
        if negated ∧ !m.unicode then none else readClass m fuel depth rest
      | none => (readClassStart m rest).bind fun rest =>
        readClass m fuel (depth + 1) rest
    | ']' :: rest =>
      match depth with
      | 0 => some rest
      | depth + 1 => readClass m fuel depth rest
    | '&' :: '&' :: rest => readClass m fuel depth rest
    | '-' :: '-' :: rest => readClass m fuel depth rest
    | '~' :: '~' :: rest => readClass m fuel depth rest
    | s => (readRange m s).bind fun rest => readClass m fuel depth rest

-- ================================================================= groups

/-- Whether a group can have a name. -/
def isGroupName : List Char → Bool
  | [] => false
  | c :: rest =>
    (c = '_' || Text.isLetter c) &&
      rest.all fun c => c = '_' || c = '.' || c = '[' || c = ']'
        || Text.isAlphanumeric c

/-- What a letter among flags says: it is not there, it sets its flag, or it
unsets it. -/
def flag? (flags : List Char) (letter : Char) : Option Bool :=
  if (flags.takeWhile (· ≠ '-')).contains letter then some true
  else if flags.contains letter then some false
  else none

/-- Whether a text is flags. -/
def areFlags (flags : List Char) : Bool :=
  flags.all (['i', 'm', 's', 'U', 'u', 'R', 'x', '-'].contains ·) &&
    flags.all (fun c => flags.count c = 1) && flags.getLast? ≠ some '-'

/-- A mode changed by flags. -/
def Mode.change (m : Mode) (flags : List Char) : Mode where
  unicode := (flag? flags 'u').getD m.unicode
  verbose := (flag? flags 'x').getD m.verbose

/-- What is known of a pattern at some place. -/
structure Progress where
  mode : Mode := {}
  /-- The modes around the open groups, the innermost first. -/
  enclosing : List Mode := []
  /-- The names of groups so far. -/
  names : List String := []
  /-- Whether there is something before the place that can be repeated. -/
  repeatable : Bool := false
  /-- Whether the ends of words over all of Unicode were looked for. -/
  boundary : Bool := false

/-- Opens a group in a mode of its own. -/
def Progress.enter (p : Progress) (m : Mode) : Progress :=
  { p with mode := m, enclosing := p.mode :: p.enclosing, repeatable := false }

/-- Reads the start of a group with a name. -/
def readNamedGroup (p : Progress) (s : List Char) :
    Option (Progress × List Char) :=
  let name := s.takeWhile (· ≠ '>')
  match s.dropWhile (· ≠ '>') with
  | [] => none
  | _ :: rest =>
    if isGroupName name ∧ !p.names.contains (String.ofList name) then
      some ({ p.enter p.mode with
        names := String.ofList name :: p.names }, rest)
    else none

/-- Reads flags, and whether they are for a group or for what is left of the
one around them. -/
def readFlags (p : Progress) (s : List Char) : Option (Progress × List Char) :=
  let isEnd (c : Char) : Bool := c = ':' || c = ')'
  let flags := s.takeWhile (!isEnd ·)
  match s.dropWhile (!isEnd ·) with
  | [] => none
  | c :: rest =>
    if !areFlags flags then none
    else if c = ':' then some (p.enter (p.mode.change flags), rest)
    else if flags.isEmpty then none
    else
      some ({ p with mode := p.mode.change flags, repeatable := false }, rest)

/-- Reads the start of a group, after its parenthesis. -/
def readGroup (p : Progress) (s : List Char) : Option (Progress × List Char) :=
  match p.mode.skip s with
  | '?' :: '<' :: '=' :: _ => none
  | '?' :: '<' :: '!' :: _ => none
  | '?' :: '<' :: rest => readNamedGroup p rest
  | '?' :: 'P' :: '<' :: rest => readNamedGroup p rest
  | '?' :: rest => readFlags p rest
  | rest => some (p.enter p.mode, rest)

-- =============================================================== patterns

/-- Reads the rest of a pattern. Every step reads at least one character. -/
def read : (fuel : Nat) → Progress → List Char → Option Progress
  | 0, _, _ => none
  | fuel + 1, p, s =>
    let reached : Progress := { p with repeatable := true }
    let again (rest : List Char) : List Char :=
      if rest.head? = some '?' then rest.drop 1 else rest
    match p.mode.skip s with
    | [] => if p.enclosing.isEmpty then some p else none
    | '(' :: rest => (readGroup p rest).bind fun found =>
      read fuel found.1 found.2
    | ')' :: rest =>
      match p.enclosing with
      | [] => none
      | m :: enclosing => read fuel { reached with mode := m, enclosing } rest
    | '|' :: rest => read fuel { p with repeatable := false } rest
    | '[' :: rest =>
      ((readClassStart p.mode rest).bind
        (readClass p.mode (rest.length + 1) 0)).bind fun rest =>
        read fuel reached rest
    | '?' :: rest => if p.repeatable then read fuel p (again rest) else none
    | '*' :: rest => if p.repeatable then read fuel p (again rest) else none
    | '+' :: rest => if p.repeatable then read fuel p (again rest) else none
    | '{' :: _ => none
    | '.' :: rest => if p.mode.unicode then read fuel reached rest else none
    | '\\' :: rest =>
      match readEscape rest with
      | none => none
      | some (e, rest) =>
        if e.fits p.mode then
          read fuel
            { reached with
              boundary := p.boundary || p.mode.unicode && e = .boundary }
            rest
        else none
    | _ :: rest => read fuel reached rest

/-- What is wrong with a pattern, if anything. -/
def fault? (s : List Char) : Option PatternFault :=
  match read (s.length + 1) {} s with
  | none => some .malformed
  | some p => if p.boundary then some .unicodeBoundary else none

end Pattern

/-- What is wrong with a value that is asked for, if anything. -/
def checkValue (s : List Char) : Option PatternFault :=
  match s with
  | '+' :: rest => if isUnsignedNumber rest then none else Pattern.fault? s
  | _ => Pattern.fault? s

end Obfuscator.Log
