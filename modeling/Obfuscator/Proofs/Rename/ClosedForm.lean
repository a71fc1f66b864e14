/-
A renaming in one equation.

The search and the renaming of lines go hand in hand, a table is carried
along, and any candidate may be the end of it. All of that is settled by one
list: what occurs in the lines, line after line (`NamingScheme.occurring`).
A renaming fails if something in that list does not compile, and on the
first of it (`firstRefusal?`). Otherwise each line is renamed by the table
of what occurs up to that line (`renamedLines`), and the table of the whole
list is left in the end (`rename_eq`).

# The engine

`discover_tableOf` is the step, for one line: the search ends in the table
of what was found before and what the line adds. The induction is on the
candidates and goes over any identifiers found before. It asks one thing of
them, that they compile, for only then the first identifier that is refused
is also the first that is refused and new. What is found keeps that up, so
the lines of a text follow one after the other (`renameLines_tableOf`).
-/
import Obfuscator.Proofs.Rename.Discovery

namespace Obfuscator

namespace NamingScheme

variable {s : NamingScheme} {seen names : List String} {line : List Char}
  {lines : List (List Char)}

-- =================================================== statement vocabulary

/-- An identifier fits between two of the boundary pattern. -/
def Compiles (s : NamingScheme) (c : String) : Prop :=
  ∃ put, s.compile c = .ok put

/-- The error on an identifier that does not compile. -/
def refusal? (s : NamingScheme) (c : String) : Option RenameError :=
  match s.compile c with
  | .error causes => some (.invalidBoundary c causes)
  | .ok _ => none

/-- The error on the first of some identifiers that does not compile. -/
def firstRefusal? (s : NamingScheme) (names : List String) :
    Option RenameError :=
  names.findSome? s.refusal?

/-- Each line renamed by the table of what occurs up to it, if `seen` occurs
before them all. -/
def renamedLines (s : NamingScheme) :
    (seen : List String) → List (List Char) → List (List Char)
  | _, [] => []
  | seen, line :: rest =>
    s.renameLine (s.tableOf (seen ++ s.occurring line).eraseDups) line
      :: s.renamedLines (seen ++ s.occurring line) rest

-- ================================================================ refusal

section Refusal

variable {c : String} {causes : List String}

/-- A candidate is refused for the reasons that the engine gives. -/
theorem refusal?_eq_some_iff {e : RenameError} :
    s.refusal? c = some e
      ↔ ∃ causes, s.compile c = .error causes
        ∧ e = .invalidBoundary c causes := by
  unfold refusal?
  cases s.compile c with
  | error causes => simp [eq_comm]
  | ok put => simp

/-- What compiles is what is not refused. -/
theorem refusal?_eq_none_iff : s.refusal? c = none ↔ s.Compiles c := by
  unfold refusal? Compiles
  cases s.compile c with
  | error causes => simp
  | ok put => simp

theorem refusal?_of_error (h : s.compile c = .error causes) :
    s.refusal? c = some (.invalidBoundary c causes) :=
  refusal?_eq_some_iff.2 ⟨causes, h, rfl⟩

instance (s : NamingScheme) : DecidablePred s.Compiles := fun _ =>
  decidable_of_iff _ refusal?_eq_none_iff

/-- The first refusal is sought in one list after the other. -/
theorem firstRefusal?_append (s : NamingScheme) (names more : List String) :
    s.firstRefusal? (names ++ more)
      = (s.firstRefusal? names).or (s.firstRefusal? more) :=
  List.findSome?_append

/-- Nothing is refused if everything compiles. -/
theorem firstRefusal?_eq_none_iff :
    s.firstRefusal? names = none ↔ ∀ c ∈ names, s.Compiles c := by
  rw [firstRefusal?, List.findSome?_eq_none_iff]
  simp only [refusal?_eq_none_iff]

/-- A candidate that is refused is the first. -/
theorem firstRefusal?_cons_of_error (h : s.compile c = .error causes)
    (names : List String) :
    s.firstRefusal? (c :: names) = some (.invalidBoundary c causes) := by
  rw [firstRefusal?, List.findSome?_cons, refusal?_of_error h]

/-- One that compiles is passed over. -/
theorem firstRefusal?_cons_of_compiles (h : s.Compiles c)
    (names : List String) :
    s.firstRefusal? (c :: names) = s.firstRefusal? names := by
  rw [firstRefusal?, List.findSome?_cons, refusal?_eq_none_iff.2 h]
  rfl

end Refusal

-- ========================================================== renamed lines

theorem length_renamedLines (s : NamingScheme) (lines : List (List Char)) :
    ∀ seen, (s.renamedLines seen lines).length = lines.length := by
  induction lines with
  | nil => intro seen; rfl
  | cons line rest ih =>
      intro seen; rw [renamedLines, List.length_cons, ih, List.length_cons]

/-- There is a renamed line if there is a line. -/
theorem renamedLines_ne_nil_iff :
    s.renamedLines seen lines ≠ [] ↔ lines ≠ [] := by
  rw [← List.length_pos_iff, length_renamedLines, List.length_pos_iff]

/-- Further lines change nothing about those before them. -/
theorem renamedLines_append (s : NamingScheme)
    (lines more : List (List Char)) :
    ∀ seen, s.renamedLines seen (lines ++ more)
      = s.renamedLines seen lines
        ++ s.renamedLines (seen ++ lines.flatMap s.occurring) more := by
  induction lines with
  | nil => intro seen; rw [List.flatMap_nil, List.append_nil]; rfl
  | cons line rest ih =>
      intro seen
      rw [List.cons_append, renamedLines, renamedLines, ih, List.flatMap_cons,
        List.cons_append, List.append_assoc]

/-- A line that comes out is a line that went in, renamed by some table. -/
theorem exists_of_mem_renamedLines {out : List Char} :
    ∀ seen, out ∈ s.renamedLines seen lines →
      ∃ line ∈ lines, ∃ names, out = s.renameLine (s.tableOf names) line := by
  induction lines with
  | nil => intro seen h; cases h
  | cons line rest ih =>
      intro seen h
      rcases List.mem_cons.1 h with rfl | h
      · exact ⟨line, List.mem_cons_self, _, rfl⟩
      · obtain ⟨line', hline', hout⟩ := ih _ h
        exact ⟨line', List.mem_cons_of_mem line hline', hout⟩

-- ================================================================ one line

/-- The search of a line fails on the first identifier that it refuses, and
otherwise adds what the line has. -/
theorem discover_tableOf (line : List Char) :
    ∀ (candidates seen : List String), (∀ c ∈ seen, s.Compiles c) →
      s.discover line candidates (s.tableOf seen.eraseDups)
        = match s.firstRefusal? (candidates.filter fun c =>
          c.toList <:+: line) with
          | some e => .error e
          | none => .ok
              (s.tableOf (seen ++ candidates.filter fun c =>
                c.toList <:+: line).eraseDups) := by
  intro candidates
  induction candidates with
  | nil =>
      intro seen _
      rw [List.filter_nil, List.append_nil]
      rfl
  | cons c rest ih =>
      intro seen hseen
      rw [discover]
      by_cases hline : c.toList <:+: line
      · have hoccurs : occursIn c.toList line = true :=
          (occursIn_eq_true_iff _ _).2 hline
        have hmore : s.Compiles c → ∀ d ∈ seen ++ [c], s.Compiles d := by
          intro hc d hd
          rcases List.mem_append.1 hd with hd | hd
          · exact hseen d hd
          · rwa [List.mem_singleton.1 hd]
        rw [List.filter_cons_of_pos (by simpa using hline), hoccurs,
          Bool.true_and, List.append_cons seen c (List.filter _ rest)]
        by_cases hold : c ∈ seen
        · have hassigned : (s.tableOf seen.eraseDups).assigned c = true :=
            assigned_tableOf_iff.2 (by simpa using hold)
          rw [hassigned, if_neg (by decide),
            firstRefusal?_cons_of_compiles (hseen c hold),
            ← eraseDups_concat_of_mem hold]
          exact ih (seen ++ [c]) (hmore (hseen c hold))
        · have hassigned : (s.tableOf seen.eraseDups).assigned c = false := by
            rw [← Bool.not_eq_true, assigned_tableOf_iff]
            simpa using hold
          rw [hassigned, if_pos (by decide), assign_tableOf,
            ← eraseDups_concat_of_notMem hold]
          cases hcompile : s.compile c with
          | error causes => rw [firstRefusal?_cons_of_error hcompile]
          | ok put =>
              have hc : s.Compiles c := ⟨put, hcompile⟩
              rw [firstRefusal?_cons_of_compiles hc]
              exact ih (seen ++ [c]) (hmore hc)
      · have hoccurs : occursIn c.toList line = false := by
          rwa [← Bool.not_eq_true, occursIn_eq_true_iff]
        rw [List.filter_cons_of_neg (by simpa using hline), hoccurs,
          Bool.false_and, if_neg (by decide)]
        exact ih seen hseen

-- =============================================================== the text

/-- Lines fail on the first identifier that they refuse, and otherwise each
is renamed by what occurs up to it. -/
theorem renameLines_tableOf :
    ∀ (lines : List (List Char)) (seen : List String),
      (∀ c ∈ seen, s.Compiles c) →
      s.renameLines lines (s.tableOf seen.eraseDups)
        = match s.firstRefusal? (lines.flatMap s.occurring) with
          | some e => .error e
          | none => .ok (s.renamedLines seen lines,
              s.tableOf (seen ++ lines.flatMap s.occurring).eraseDups) := by
  intro lines
  induction lines with
  | nil =>
      intro seen _
      rw [List.flatMap_nil, List.append_nil]
      rfl
  | cons line rest ih =>
      intro seen hseen
      rw [renameLines, discover_tableOf line s.candidates seen hseen,
        List.flatMap_cons, firstRefusal?_append, ← occurring]
      cases hline : s.firstRefusal? (s.occurring line) with
      | some e => rfl
      | none =>
          have hmore : ∀ c ∈ seen ++ s.occurring line, s.Compiles c :=
            fun c hc => (List.mem_append.1 hc).elim (hseen c)
              (firstRefusal?_eq_none_iff.1 hline c)
          rw [Option.none_or, ← List.append_assoc]
          simp only [ih _ hmore]
          cases s.firstRefusal? (rest.flatMap s.occurring) with
          | some e => rfl
          | none => rfl

/-- A renaming fails on the first identifier of a text that does not
compile, and otherwise renames each line by what occurs up to it. -/
theorem rename_eq (s : NamingScheme) (text : String) :
    s.rename text
      = match s.firstRefusal? ((Text.splitLines text.toList).flatMap
        s.occurring) with
        | some e => .error e
        | none =>
          .ok ⟨.ofList (Text.joinLines
            (s.renamedLines [] (Text.splitLines text.toList))),
            s.tableOf (s.discovered (Text.splitLines text.toList))⟩ := by
  have hnone : ∀ c ∈ ([] : List String), s.Compiles c := by simp
  have hlines := renameLines_tableOf (Text.splitLines text.toList) [] hnone
  rw [rename, show ({} : NameTable) = s.tableOf [].eraseDups from rfl, hlines]
  cases s.firstRefusal?
    ((Text.splitLines text.toList).flatMap s.occurring) with
  | some e => rfl
  | none => rfl

variable {text : String}

/-- A renaming fails on the first identifier of the text that does not
compile. -/
theorem rename_eq_error_iff {e : RenameError} :
    s.rename text = .error e
      ↔ s.firstRefusal? ((Text.splitLines text.toList).flatMap s.occurring)
        = some e := by
  rw [rename_eq]
  cases s.firstRefusal?
    ((Text.splitLines text.toList).flatMap s.occurring) with
  | some e => simp
  | none => simp

/-- A renaming gives a text if nothing in it is refused. -/
theorem rename_eq_ok_iff {r : Renaming} :
    s.rename text = .ok r
      ↔ s.firstRefusal? ((Text.splitLines text.toList).flatMap s.occurring)
        = none
        ∧ r.text = .ofList (Text.joinLines
          (s.renamedLines [] (Text.splitLines text.toList)))
        ∧ r.table = s.tableOf (s.discovered
          (Text.splitLines text.toList)) := by
  rw [rename_eq]
  cases s.firstRefusal?
    ((Text.splitLines text.toList).flatMap s.occurring) with
  | some e => simp
  | none =>
      obtain ⟨out, t⟩ := r
      simp [eq_comm]

/-- After a text the table is that of the identifiers found in its lines. -/
theorem table_of_rename_eq_ok {r : Renaming} (h : s.rename text = .ok r) :
    r.table = s.tableOf (s.discovered (Text.splitLines text.toList)) :=
  (rename_eq_ok_iff.1 h).2.2

end NamingScheme

end Obfuscator
