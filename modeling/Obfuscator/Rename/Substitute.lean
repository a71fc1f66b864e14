/-
One identifier of a line replaced by another.

An occurrence counts where the boundary rule holds on both of its sides, in the
line as it was before the replacement. Occurrences are taken from left to right
and do not overlap. The empty identifier occurs at every place that is a
boundary, the two ends of the line included.

A boundary pattern is put on both sides of the identifier before anything
else is made of it. So a single backslash, which is no boundary, escapes
what follows it: with an identifier of backslashes alone it comes out even,
and one backslash more than the identifier has is looked for.

A renaming takes patterns only as far as some engine gives them a meaning.
The standard engine knows the boundary rules, which are all that the
built-in profiles ask for. Other engines may know more patterns, and tell
more of one that they refuse.
-/
import Obfuscator.Rename.Boundary

namespace Obfuscator

/-- Whether `name` stands at the start of `line`, bounded on both sides;
`before` is the character in front of the line. -/
def Boundary.bounds (b : Boundary) (name : List Char) (before : Option Char)
    (line : List Char) : Bool :=
  name.isPrefixOf line && b.holds before line.head? &&
    b.holds (if name.isEmpty then before else name.getLast?)
      (line.drop name.length).head?

/-- Replaces the bounded occurrences of `name` in what is left of a line.
`before` is the character read last, and the first `skip` characters belong
to an occurrence that was replaced already. -/
def substituteFrom (b : Boundary) (name new : List Char) :
    (skip : Nat) → (before : Option Char) → List Char → List Char
  | _, before, [] =>
    if name.isEmpty && b.bounds name before [] then new else []
  | skip + 1, _, c :: rest => substituteFrom b name new skip (some c) rest
  | 0, before, c :: rest =>
    if b.bounds name before (c :: rest) then
      if name.isEmpty then
        new ++ c :: substituteFrom b name new 0 (some c) rest
      else new ++ substituteFrom b name new (name.length - 1) (some c) rest
    else c :: substituteFrom b name new 0 (some c) rest

/-- A line with every bounded occurrence of `name` replaced by `new`. -/
def substitute (b : Boundary) (name new line : List Char) : List Char :=
  substituteFrom b name new 0 none line

/-- What is looked for in a line, and the boundary rule for it. -/
structure Matcher where
  boundary : Boundary
  sought : List Char
  deriving DecidableEq, Repr

namespace Matcher

/-- What to look for, given a boundary pattern and an identifier; nothing if
they do not fit together. -/
def of? (pattern identifier : String) : Option Matcher :=
  match Boundary.ofPattern? pattern with
  | some b => some ⟨b, identifier.toList⟩
  | none =>
    if pattern = "\\" ∧ identifier.toList.all (· = '\\') then
      some ⟨.anywhere, '\\' :: identifier.toList⟩
    else none

/-- A line with every occurrence replaced by `new`. -/
def apply (m : Matcher) (new line : List Char) : List Char :=
  substitute m.boundary m.sought new line

end Matcher

-- =============================================================== engines

/-- What gives patterns their meaning. -/
structure PatternEngine where
  /-- For a boundary pattern and an identifier between two of it: how a text
  is put in the place of every match in a line. If the patterns do not
  compile, what the engine says is wrong with them, from the outermost view
  to the innermost. -/
  compile : (boundary identifier : String) →
    Except (List String) ((new line : List Char) → List Char)

/-- The engine that knows the boundary rules and nothing else. It refuses
every other pattern, those with a meaning of their own included, and does
not say why. -/
def PatternEngine.standard : PatternEngine where
  compile boundary identifier :=
    match Matcher.of? boundary identifier with
    | some m => .ok m.apply
    | none => .error []

end Obfuscator
