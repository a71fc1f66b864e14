/-
JSON values.

Members of an object keep their order. A number is kept as it is written, so
that an integer too large for a machine word, a fraction and an exponent are
told apart as the writer told them apart.
-/
namespace Obfuscator

/-- A JSON value. -/
inductive Json
  | null
  | bool (b : Bool)
  | number (lexeme : String)
  | string (s : String)
  | array (elements : List Json)
  | object (members : List (String × Json))
  deriving Repr, Inhabited

namespace Json

/-- A natural number as a JSON number. -/
def ofNat (n : Nat) : Json := .number (toString n)

/-- A list of texts as a JSON array. -/
def ofStrings (l : List String) : Json := .array (l.map .string)

/-- A text, or null where there is none. -/
def ofOptionString : Option String → Json
  | none => .null
  | some s => .string s

/-- The member of an object with a given key; the last one, if there are
several. -/
def member? (j : Json) (key : String) : Option Json :=
  match j with
  | .object members => (members.reverse.find? fun m => m.1 = key).map (·.2)
  | _ => none

end Json

end Obfuscator
