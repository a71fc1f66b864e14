/-
A renaming goes over the lines one way.

What was made of some lines stays, whatever lines come behind them, and so
does a failure. That is read off `NamingScheme.rename_eq`, for what occurs
in two texts is what occurs in the one and then in the other. It holds of
every engine, whatever it makes of a boundary pattern.

# Line feeds

How many line feeds come out depends on what an engine does to a line. It is
asked to put the new name in the place of pieces of the line
(`PatternEngine.PutsInPieces`). Then no line gets a line feed
(`newline_notMem_renameLine`), and a line is left empty only if it was empty
and no name was put into it (`renameLine_eq_nil_iff`). That is why a text
that ends in a line feed need not come out as one.

If the engine also takes the boundary pattern for a boundary rule
(`PatternEngine.ReplacesBy`), a name is put into the empty line only for the
empty identifier, and only if boundaries are everywhere
(`forall_apply_nil_eq_nil_iff`). So with a word boundary a text that ends in
a line feed comes out as one.
-/
import Obfuscator.Proofs.Rename.ClosedForm
import Obfuscator.Proofs.Rename.Pieces
import Obfuscator.Proofs.Text.Lines

namespace Obfuscator

-- ================================================================= lines

/-- The lines of two texts with a line feed between them. -/
theorem Text.splitLines_toList_append (first more : String) :
    splitLines (first ++ "\n" ++ more).toList
      = splitLines first.toList ++ splitLines more.toList := by
  rw [String.toList_append, String.toList_append, List.append_assoc]
  exact splitLines_append first.toList more.toList

namespace NamingScheme

variable {s : NamingScheme} {names : List String} {line : List Char}

-- ================================================================ one line

/-- An assignment puts its new name in the place of pieces of a line. -/
theorem putsIn_apply (hengine : s.engine.PutsInPieces) (line : List Char)
    (a : Assignment) :
    PutsIn a.replacement.toList line (s.apply line a) := by
  rw [apply]
  cases hput : s.compile a.identifier with
  | error causes => exact .rest line
  | ok put => exact hengine s.boundary a.identifier put hput _ line

theorem newline_notMem_newName (hstem : '\n' ∉ s.stem.toList) (k : Nat) :
    '\n' ∉ (s.newName k).toList := by
  rw [toList_newName, List.mem_append]
  rintro (h | h)
  · exact hstem h
  · have hdigit := Text.isLowerHexDigit_of_mem_hexPadded h
    exact absurd hdigit (by decide)

/-- No line gets a line feed. -/
theorem newline_notMem_renameLine (hengine : s.engine.PutsInPieces)
    (hstem : '\n' ∉ s.stem.toList) (hline : '\n' ∉ line)
    (names : List String) :
    '\n' ∉ s.renameLine (s.tableOf names) line := by
  have hentries : ∀ a ∈ (s.tableOf names).entries,
      '\n' ∉ a.replacement.toList := by
    intro a ha
    obtain ⟨-, k, hk⟩ := exists_of_mem_entries_tableOf ha
    rw [hk]
    exact newline_notMem_newName hstem k
  unfold renameLine
  generalize (s.tableOf names).entries = entries at hentries ⊢
  induction entries generalizing line with
  | nil => exact hline
  | cons a rest ih =>
      obtain ⟨ha, hrest⟩ := List.forall_mem_cons.1 hentries
      refine ih (fun hmem => ?_) hrest
      exact ((putsIn_apply hengine line a).mem_or_mem hmem).elim hline ha

/-- A line is left empty only if it was empty and no name is put into the
empty line. -/
theorem renameLine_eq_nil_iff (hengine : s.engine.PutsInPieces) :
    s.renameLine (s.tableOf names) line = []
      ↔ line = [] ∧ ∀ a ∈ (s.tableOf names).entries, s.apply [] a = [] := by
  have hentries : ∀ a ∈ (s.tableOf names).entries,
      a.replacement.toList ≠ [] := by
    intro a ha
    obtain ⟨-, k, hk⟩ := exists_of_mem_entries_tableOf ha
    rw [hk]
    exact s.toList_newName_ne_nil k
  unfold renameLine
  generalize (s.tableOf names).entries = entries at hentries ⊢
  induction entries generalizing line with
  | nil => simp
  | cons a rest ih =>
      obtain ⟨ha, hrest⟩ := List.forall_mem_cons.1 hentries
      rw [List.forall_mem_cons, ← and_assoc]
      refine (ih hrest).trans (and_congr_left fun _ =>
        ⟨fun hnil => ?_, fun h => ?_⟩)
      · obtain rfl := (putsIn_apply hengine line a).eq_nil ha hnil
        exact ⟨rfl, hnil⟩
      · rw [h.1, h.2]

-- ============================================================== more lines

/-- A text that fails goes on failing, with the same error, whatever lines
come behind it. -/
theorem rename_append_of_eq_error {first : String} {e : RenameError}
    (h : s.rename first = .error e) (more : String) :
    s.rename (first ++ "\n" ++ more) = .error e := by
  rw [rename_eq_error_iff] at h ⊢
  rw [Text.splitLines_toList_append, List.flatMap_append, firstRefusal?_append,
    h, Option.some_or]

/-- A text that is renamed begins with what its first lines are renamed to. -/
theorem exists_of_rename_append_eq_ok {first more : String} {r : Renaming}
    (h : s.rename (first ++ "\n" ++ more) = .ok r) :
    ∃ r₁ rest, s.rename first = .ok r₁ ∧ r.text = r₁.text ++ "\n" ++ rest := by
  obtain ⟨hnone, htext, -⟩ := rename_eq_ok_iff.1 h
  rw [Text.splitLines_toList_append, List.flatMap_append, firstRefusal?_append,
    Option.or_eq_none_iff] at hnone
  have hne : ∀ seen (text : String),
      s.renamedLines seen (Text.splitLines text.toList) ≠ [] :=
    fun seen text => renamedLines_ne_nil_iff.2 (Text.splitLines_ne_nil _)
  have hparts : ∀ a b : List Char,
      String.ofList (a ++ '\n' :: b) = .ofList a ++ "\n" ++ .ofList b :=
    fun a b => String.toList_inj.1 (by simp)
  rw [Text.splitLines_toList_append, renamedLines_append,
    Text.joinLines_append (hne _ first) (hne _ more), hparts] at htext
  exact ⟨⟨_, _⟩, _, rename_eq_ok_iff.2 ⟨hnone.1, rfl, rfl⟩, htext⟩

-- ============================================================= line feeds

variable {text : String} {r : Renaming}

/-- As many line feeds come out as there are in the text. -/
theorem count_newline_of_rename_eq_ok (hengine : s.engine.PutsInPieces)
    (hstem : '\n' ∉ s.stem.toList) (h : s.rename text = .ok r) :
    r.text.toList.count '\n' = text.toList.count '\n' := by
  obtain ⟨-, htext, -⟩ := rename_eq_ok_iff.1 h
  have hin : ∀ line ∈ Text.splitLines text.toList, '\n' ∉ line :=
    fun line hline => Text.newline_notMem_of_mem_splitLines hline
  have hout : ∀ out ∈ s.renamedLines [] (Text.splitLines text.toList),
      '\n' ∉ out := by
    intro out hmem
    obtain ⟨line, hline, names, rfl⟩ := exists_of_mem_renamedLines _ hmem
    exact newline_notMem_renameLine hengine hstem (hin line hline) names
  calc r.text.toList.count '\n'
      = (s.renamedLines [] (Text.splitLines text.toList)).length - 1 := by
        rw [htext, String.toList_ofList, Text.count_joinLines hout]
    _ = (Text.splitLines text.toList).length - 1 := by rw [length_renamedLines]
    _ = text.toList.count '\n' := by
        rw [← Text.count_joinLines hin, Text.joinLines_splitLines]

/-- A text comes out with a line feed at its end if it has one and no name
is put into the empty line behind it. -/
theorem getLast?_of_rename_eq_ok (hengine : s.engine.PutsInPieces)
    (hstem : '\n' ∉ s.stem.toList) (h : s.rename text = .ok r) :
    r.text.toList.getLast? = some '\n'
      ↔ text.toList.getLast? = some '\n'
        ∧ ∀ a ∈ r.table.entries, s.apply [] a = [] := by
  obtain ⟨-, htext, htable⟩ := rename_eq_ok_iff.1 h
  obtain ⟨front, last, hlines⟩ : ∃ front last,
      Text.splitLines text.toList = front ++ [last] :=
    ⟨_, _, (List.dropLast_append_getLast
      (Text.splitLines_ne_nil text.toList)).symm⟩
  have hlast : '\n' ∉ last :=
    Text.newline_notMem_of_mem_splitLines (by rw [hlines]; simp)
  have hin : text.toList.getLast? = some '\n' ↔ front ≠ [] ∧ last = [] := by
    rw [← Text.joinLines_splitLines text.toList, hlines]
    exact Text.getLast?_joinLines_concat hlast
  -- the last line is renamed by the table that is left in the end
  have hout : s.renamedLines [] (Text.splitLines text.toList)
      = s.renamedLines [] front ++ [s.renameLine r.table last] := by
    rw [htable, discovered, hlines, renamedLines_append, List.flatMap_append,
      List.flatMap_singleton, List.nil_append]
    rfl
  have hkept : '\n' ∉ s.renameLine r.table last := by
    rw [htable]
    exact newline_notMem_renameLine hengine hstem hlast _
  rw [htext, String.toList_ofList, hout, Text.getLast?_joinLines_concat hkept,
    renamedLines_ne_nil_iff, hin, htable, renameLine_eq_nil_iff hengine,
    and_assoc]

/-- By a boundary rule a name is put into the empty line only for the empty
identifier, and only if boundaries are everywhere. -/
theorem apply_nil_eq_nil_iff {b : Boundary}
    (hrule : s.engine.ReplacesBy s.boundary b) {a : Assignment}
    (hcompile : s.Compiles a.identifier) (hnew : a.replacement.toList ≠ []) :
    s.apply [] a = [] ↔ ¬(b = .anywhere ∧ a.identifier = "") := by
  obtain ⟨put, hput⟩ := hcompile
  obtain ⟨hplaced, hkept⟩ :=
    hrule a.identifier put hput a.replacement.toList []
  have hempty : a.identifier.toList = [] ↔ a.identifier = "" :=
    String.toList_eq_nil_iff
  rw [← hempty, ← Boundary.standsIn_nil_iff, apply, hput]
  constructor
  · intro hnil hstands
    have hinside := hplaced hstands
    rw [show put a.replacement.toList [] = [] from hnil] at hinside
    exact hnew (List.infix_nil.1 hinside)
  · exact hkept

/-- By a boundary rule no name is put into the empty line, unless the empty
identifier is looked for and boundaries are everywhere. -/
theorem forall_apply_nil_eq_nil_iff {b : Boundary}
    (hrule : s.engine.ReplacesBy s.boundary b) (h : s.rename text = .ok r) :
    (∀ a ∈ r.table.entries, s.apply [] a = [])
      ↔ ¬(b = .anywhere ∧ "" ∈ s.candidates) := by
  obtain ⟨hnone, -, htable⟩ := rename_eq_ok_iff.1 h
  rw [htable]
  have hentry :
      ∀ a ∈ (s.tableOf (s.discovered (Text.splitLines text.toList))).entries,
        a.identifier ∈ s.candidates
        ∧ (s.apply [] a = [] ↔ ¬(b = .anywhere ∧ a.identifier = "")) := by
    intro a ha
    obtain ⟨hfound, k, hk⟩ := exists_of_mem_entries_tableOf ha
    have hoccurs := List.mem_eraseDups.1 hfound
    obtain ⟨line, -, hline⟩ := List.mem_flatMap.1 hoccurs
    refine ⟨mem_candidates_of_mem_occurring hline,
      apply_nil_eq_nil_iff hrule ?_ ?_⟩
    · exact firstRefusal?_eq_none_iff.1 hnone _ hoccurs
    · rw [hk]
      exact s.toList_newName_ne_nil k
  constructor
  · rintro hall ⟨hanywhere, hempty⟩
    -- the empty identifier occurs in the first line, so it has an entry
    obtain ⟨line, rest, hlines⟩ :=
      List.exists_cons_of_ne_nil (Text.splitLines_ne_nil text.toList)
    have hfirst : line ∈ Text.splitLines text.toList := by simp [hlines]
    have hfound : "" ∈ s.discovered (Text.splitLines text.toList) :=
      mem_discovered_iff.2 ⟨hempty, line, hfirst, List.nil_infix⟩
    rw [← map_identifier_tableOf s
      (s.discovered (Text.splitLines text.toList))] at hfound
    obtain ⟨a, ha, hidentifier⟩ := List.mem_map.1 hfound
    exact (hentry a ha).2.1 (hall a ha) ⟨hanywhere, hidentifier⟩
  · intro hno a ha
    refine (hentry a ha).2.2 fun h => hno ⟨h.1, ?_⟩
    rw [← h.2]
    exact (hentry a ha).1

-- ================================================================ one way

/-- Whatever is looked for, and whatever lines come behind a text: its
failure stays, and so does what was made of it. If new names have no line
feed in them, as many line feeds come out as went in, and there is one at
the end if there was and no name is put into the empty line behind it. By a
boundary rule one is put there only if boundaries are everywhere and the
empty identifier is looked for. -/
theorem rename_one_way (s : NamingScheme) :
    (∀ (first more : String) (e : RenameError), s.rename first = .error e →
      s.rename (first ++ "\n" ++ more) = .error e)
    ∧ (∀ (first more : String) (r : Renaming),
      s.rename (first ++ "\n" ++ more) = .ok r →
      ∃ r₁ rest, s.rename first = .ok r₁ ∧ r.text = r₁.text ++ "\n" ++ rest)
    ∧ ('\n' ∉ s.stem.toList → s.engine.PutsInPieces →
      ∀ (text : String) (r : Renaming), s.rename text = .ok r →
        r.text.toList.count '\n' = text.toList.count '\n'
        ∧ (r.text.toList.getLast? = some '\n'
          ↔ text.toList.getLast? = some '\n'
            ∧ ∀ a ∈ r.table.entries, s.apply [] a = [])
        ∧ ∀ b : Boundary, s.engine.ReplacesBy s.boundary b →
          (r.text.toList.getLast? = some '\n'
            ↔ text.toList.getLast? = some '\n'
              ∧ ¬(b = .anywhere ∧ "" ∈ s.candidates))) := by
  refine ⟨fun first more e h => rename_append_of_eq_error h more,
    fun first more r h => exists_of_rename_append_eq_ok h,
    fun hstem hengine text r h => ?_⟩
  have hend := getLast?_of_rename_eq_ok hengine hstem h
  refine ⟨count_newline_of_rename_eq_ok hengine hstem h, hend,
    fun b hrule => ?_⟩
  rw [hend, forall_apply_nil_eq_nil_iff hrule h]

/-- A scheme with a candidate inside words, and one that is found on a later
line only. -/
def lateScheme : NamingScheme where
  candidates := ["data", "lue"]
  stem := "_0x"
  boundary := "(?-u:\\b)"

/-- A text that begins with what is made of its first line and keeps both
its line feeds, and one that is refused for its first line. -/
theorem rename_one_way_lateScheme :
    (∃ r r₁ rest, lateScheme.rename ("value" ++ "\n" ++ "data lue\n") = .ok r
      ∧ lateScheme.rename "value" = .ok r₁ ∧ r.text = r₁.text ++ "\n" ++ rest
      ∧ r.text.toList.count '\n' = 2 ∧ r.text.toList.getLast? = some '\n')
    ∧ { lateScheme with boundary := "(" }.rename ("lue" ++ "\n" ++ "data")
      = .error (.invalidBoundary "lue" []) := by
  obtain ⟨-, hstays, hnewlines⟩ := rename_one_way lateScheme
  obtain ⟨hfails, -⟩ := rename_one_way { lateScheme with boundary := "(" }
  have hok :
      ∃ r, lateScheme.rename ("value" ++ "\n" ++ "data lue\n") = .ok r :=
    ⟨⟨_, _⟩, rename_eq_ok_iff.2 ⟨by decide +kernel, rfl, rfl⟩⟩
  have herror : { lateScheme with boundary := "(" }.rename "lue"
      = .error (.invalidBoundary "lue" []) :=
    rename_eq_error_iff.2 (by decide +kernel)
  obtain ⟨r, hr⟩ := hok
  obtain ⟨r₁, rest, hr₁, htext⟩ := hstays _ _ r hr
  obtain ⟨hcount, -, hrules⟩ :=
    hnewlines (by decide) PatternEngine.putsInPieces_standard _ r hr
  have hend := hrules .asciiWord
    (PatternEngine.replacesBy_standard (by decide))
  refine ⟨⟨r, r₁, rest, hr, hr₁, htext, ?_, hend.2 (by decide)⟩,
    hfails _ _ _ herror⟩
  rw [hcount]
  decide

/-- A scheme that puts a name everywhere, into the empty line too. -/
def emptyScheme : NamingScheme where
  candidates := [""]
  stem := "_0x"
  boundary := ""

/-- The line feed at the end of a text need not be at the end of what it is
renamed to. -/
theorem rename_emptyScheme :
    emptyScheme.engine.PutsInPieces ∧ '\n' ∉ emptyScheme.stem.toList
      ∧ ∃ r, emptyScheme.rename "a\n" = .ok r
        ∧ r.text = "_0x0000a_0x0000\n_0x0000"
        ∧ "a\n".toList.getLast? = some '\n'
          ∧ r.text.toList.getLast? ≠ some '\n' := by
  have hrename : emptyScheme.rename "a\n"
      = .ok ⟨"_0x0000a_0x0000\n_0x0000", emptyScheme.tableOf [""]⟩ :=
    rename_eq_ok_iff.2
      ⟨by decide +kernel, by decide +kernel, by decide +kernel⟩
  exact ⟨PatternEngine.putsInPieces_standard,
    by decide, _, hrename, rfl, by decide, by decide⟩

end NamingScheme

end Obfuscator
