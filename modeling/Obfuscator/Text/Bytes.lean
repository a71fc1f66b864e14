/-
Places in a text, counted in bytes.

A text of characters takes one to four bytes for each. A place that is no
boundary between two characters cannot be cut at.
-/
namespace Obfuscator.Text

/-- The number of bytes of a text. -/
def byteLength : List Char → Nat
  | [] => 0
  | c :: rest => c.utf8Size + byteLength rest

/-- A text without its first bytes; nothing if a character straddles the
place. -/
def dropBytes? : Nat → List Char → Option (List Char)
  | 0, s => some s
  | _ + 1, [] => none
  | n + 1, c :: rest =>
    if c.utf8Size ≤ n + 1 then dropBytes? (n + 1 - c.utf8Size) rest else none

/-- The first bytes of a text; nothing if a character straddles the place. -/
def takeBytes? : Nat → List Char → Option (List Char)
  | 0, _ => some []
  | _ + 1, [] => none
  | n + 1, c :: rest =>
    if c.utf8Size ≤ n + 1 then
      (takeBytes? (n + 1 - c.utf8Size) rest).map (c :: ·)
    else none

/-- So many bytes of a text from a place on; nothing if a character
straddles either end. -/
def cut? (start size : Nat) (s : List Char) : Option (List Char) :=
  (dropBytes? start s).bind (takeBytes? size)

-- ============================================== places between characters

theorem byteLength_cons (c : Char) (s : List Char) :
    byteLength (c :: s) = c.utf8Size + byteLength s := rfl

/-- The place after some characters is a place between characters. -/
theorem dropBytes?_append (s t : List Char) :
    dropBytes? (byteLength s) (s ++ t) = some t := by
  induction s with
  | nil => cases t <;> rfl
  | cons c rest ih =>
    have hc := c.utf8Size_pos
    obtain ⟨n, hn⟩ : ∃ n, byteLength (c :: rest) = n + 1 :=
      ⟨byteLength (c :: rest) - 1, by rw [byteLength_cons]; omega⟩
    have hsum := byteLength_cons c rest
    rw [hn, List.cons_append, dropBytes?, if_pos (by omega),
      show n + 1 - c.utf8Size = byteLength rest by omega, ih]

/-- What is taken up to the place after some characters is those characters. -/
theorem takeBytes?_append (s t : List Char) :
    takeBytes? (byteLength s) (s ++ t) = some s := by
  induction s with
  | nil => cases t <;> rfl
  | cons c rest ih =>
    have hc := c.utf8Size_pos
    obtain ⟨n, hn⟩ : ∃ n, byteLength (c :: rest) = n + 1 :=
      ⟨byteLength (c :: rest) - 1, by rw [byteLength_cons]; omega⟩
    have hsum := byteLength_cons c rest
    rw [hn, List.cons_append, takeBytes?, if_pos (by omega),
      show n + 1 - c.utf8Size = byteLength rest by omega, ih, Option.map_some]

/-- A part between two places between characters can be cut out. -/
theorem cut?_append (s t u : List Char) :
    cut? (byteLength s) (byteLength t) (s ++ (t ++ u)) = some t := by
  rw [cut?, dropBytes?_append, Option.bind_some, takeBytes?_append]

end Obfuscator.Text
