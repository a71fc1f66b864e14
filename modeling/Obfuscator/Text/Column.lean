/-
Texts set in columns.
-/
namespace Obfuscator.Text

/-- A text filled up with blanks on the right to at least `width`
characters. -/
def padRight (width : Nat) (s : String) : String :=
  s ++ String.ofList (List.replicate (width - s.length) ' ')

/-- A text filled up with blanks on the left to at least `width` characters. -/
def padLeft (width : Nat) (s : String) : String :=
  String.ofList (List.replicate (width - s.length) ' ') ++ s

theorem length_padRight (width : Nat) (s : String) :
    (padRight width s).length = max width s.length := by
  simp only [padRight, String.length_append, String.length_ofList,
    List.length_replicate]
  omega

end Obfuscator.Text
