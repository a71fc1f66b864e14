/-
Replacing every occurrence of a piece of text.
-/
namespace Obfuscator.Text

/-- Replaces the occurrences of `piece` from left to right, none overlapping
another; the first `skip` characters belong to an occurrence that was
replaced already. -/
def replaceFrom (piece new : List Char) : (skip : Nat) → List Char → List Char
  | _, [] => []
  | skip + 1, _ :: rest => replaceFrom piece new skip rest
  | 0, c :: rest =>
    if piece.isPrefixOf (c :: rest) then
      new ++ replaceFrom piece new (piece.length - 1) rest
    else c :: replaceFrom piece new 0 rest

/-- The text with `new` in the place of every occurrence of `piece`, which
is not empty. -/
def replace (piece new s : String) : String :=
  String.ofList (replaceFrom piece.toList new.toList 0 s.toList)

end Obfuscator.Text
