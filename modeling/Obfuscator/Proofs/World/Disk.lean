/-
What a write leaves of the rest of a disk.

A write changes one place (`lookup_set`), and that place is no directory
before or after it. So every way through directories stays open
(`walk_set`), the one to the directory that is written to among them.
Therefore what was written can be read (`readText_of_writeText_eq_ok`), and
what stands beside it is read as before (`readText_writeText_of_ne`). A way
can end at a file only if the last part of the path is a name
(`exists_fileName?_of_readText`).
-/
import Obfuscator.Proofs.World.Path
import Obfuscator.World.Disk

namespace Obfuscator.World.Disk

-- ============================================================ the tree

/-- What is found in a list of entries after one was set. -/
theorem find?_setEntry (l : Location) (e : Entry) (m : Location) :
    ∀ entries : List (Location × Entry),
      ((setEntry l e entries).find? fun x => decide (x.1 = m)).map (·.2)
        = if l = m then some e
          else (entries.find? fun x => decide (x.1 = m)).map (·.2) := by
  intro entries
  induction entries with
  | nil =>
      rw [setEntry, List.find?_cons]
      by_cases hm : l = m
      · simp [hm]
      · simp [hm]
  | cons x rest ih =>
      obtain ⟨k, f⟩ := x
      by_cases hk : k = l
      · subst hk
        rw [setEntry, if_pos rfl, List.find?_cons, List.find?_cons]
        by_cases hm : k = m
        · simp [hm]
        · simp [hm]
      · rw [setEntry, if_neg hk, List.find?_cons, List.find?_cons]
        by_cases hm : k = m
        · subst hm
          simp [Ne.symm hk]
        · simp [hm, ih]

/-- Setting a place other than the root changes that place and no other. -/
theorem lookup_set (d : Disk) {l : Location} (hl : l ≠ []) (e : Entry)
    (m : Location) :
    (d.set l e).lookup m = if l = m then some e else d.lookup m := by
  cases m with
  | nil => rw [if_neg hl]; rfl
  | cons n rest => exact find?_setEntry l e (n :: rest) d.entries

theorem ne_nil_of_lookup {d : Disk} {l : Location}
    (h : d.lookup l ≠ some .directory) :
    l ≠ [] := by
  rintro rfl
  exact h rfl

-- ============================================================= the way

/-- A way through directories stays open when a file is put where none of
them is. -/
theorem walk_set {d : Disk} {l : Location} (h : d.lookup l ≠ some .directory)
    (content : ByteArray) :
    ∀ (way : List Segment) (start stop : Location),
      d.walk start way = .ok stop →
      (d.set l (.file content)).walk start way = .ok stop := by
  intro way
  induction way with
  | nil => intro start stop hwalk; exact hwalk
  | cons s rest ih =>
      intro start stop hwalk
      cases s with
      | here => exact ih start stop hwalk
      | up => exact ih start.tail stop hwalk
      | name n =>
          rw [walk] at hwalk ⊢
          unfold child at hwalk ⊢
          by_cases hlong : maxName < n.utf8ByteSize
          · rw [if_pos hlong] at hwalk
            cases hwalk
          · rw [if_neg hlong] at hwalk ⊢
            have hne : l ≠ n :: start := by
              rintro rfl
              cases hthere : d.lookup (n :: start) with
              | none => rw [hthere] at hwalk; cases hwalk
              | some e =>
                  cases e with
                  | directory => exact h hthere
                  | file c => rw [hthere] at hwalk; cases hwalk
            rw [lookup_set d (ne_nil_of_lookup h), if_neg hne]
            cases hthere : d.lookup (n :: start) with
            | none => rw [hthere] at hwalk; cases hwalk
            | some e =>
                cases e with
                | directory =>
                    rw [hthere] at hwalk
                    exact ih (n :: start) stop hwalk
                | file c => rw [hthere] at hwalk; cases hwalk

/-- So does the way up to the last part of a path. -/
theorem walkToParent_set {d : Disk} {l k : Location} {last : Segment}
    {p : Path} (h : d.lookup l ≠ some .directory) (content : ByteArray)
    (hwalk : d.walkToParent p = .ok (k, last)) :
    (d.set l (.file content)).walkToParent p = .ok (k, last) := by
  unfold walkToParent at hwalk ⊢
  cases hlast : p.segments.getLast? with
  | none =>
      rw [hlast] at hwalk
      exact hwalk
  | some s =>
      simp only [hlast] at hwalk ⊢
      cases hway : d.walk (if p.absolute then [] else d.workingDirectory)
          p.segments.dropLast with
      | error e =>
          rw [hway] at hwalk
          cases hwalk
      | ok stop =>
          rw [hway] at hwalk
          have hopen : (d.set l (.file content)).walk
              (if p.absolute then []
                else (d.set l (.file content)).workingDirectory)
              p.segments.dropLast = .ok stop := walk_set h content _ _ _ hway
          rw [hopen]
          exact hwalk

/-- The place of a directory. -/
def folder (d : Disk) (directory : String) : Except OsError Location :=
  d.walk
    (if (Path.ofString directory).absolute then [] else d.workingDirectory)
    (Path.ofString directory).segments

/-- The path of a name inside a directory leads to the directory first. -/
theorem walkToParent_join {n : String} (h : Path.IsName n) (d : Disk)
    (directory : String) :
    d.walkToParent (Path.ofString (Path.join directory n))
      = (d.folder directory).map fun l => (l, .name n) := by
  rw [Path.ofString_join h]
  unfold walkToParent folder
  simp only [List.getLast?_concat, List.dropLast_concat]
  split
  · next e hwalk => rw [hwalk]; rfl
  · next l hwalk => rw [hwalk]; rfl

-- =========================================================== one file

/-- The bytes of a text are read as that text. -/
theorem fromUTF8?_toUTF8 (s : String) :
    String.fromUTF8? s.toUTF8 = some s := by
  unfold String.fromUTF8?
  rw [String.toUTF8_eq_toByteArray, dif_pos s.isValidUTF8]
  rfl

/-- A write that goes through has put a file where its path leads, and there
was no directory. -/
structure Writes (d : Disk) (path content : String) (l : Location) (n : String)
    (made : Disk) :
    Prop where
  possible : checkText path = .ok ()
  way : d.walkToParent (Path.ofString path) = .ok (l, .name n)
  named : (Path.ofString path).directoryOnly = false
  short : n.utf8ByteSize ≤ maxName
  free : d.lookup (n :: l) ≠ some .directory
  made : made = d.set (n :: l) (.file content.toUTF8)

variable {d made : Disk} {path content : String}

/-- What a write that goes through has done. -/
theorem exists_writes_of_writeText_eq_ok
    (h : d.writeText path content = .ok made) :
    ∃ l n, d.Writes path content l n made := by
  unfold writeText at h
  cases hcheck : checkText path with
  | error e => rw [hcheck] at h; cases h
  | ok u =>
      simp only [hcheck] at h
      cases hwalk : d.walkToParent (Path.ofString path) with
      | error e => rw [hwalk] at h; cases h
      | ok stop =>
          obtain ⟨l, last⟩ := stop
          rw [hwalk] at h
          cases last with
          | here => cases h
          | up => cases h
          | name n =>
              dsimp only at h
              by_cases hdirectory : (Path.ofString path).directoryOnly = true
              · rw [if_pos hdirectory] at h
                cases h
              rw [if_neg hdirectory, child] at h
              by_cases hlong : maxName < n.utf8ByteSize
              · rw [if_pos hlong] at h
                cases h
              rw [if_neg hlong] at h
              have hfree : d.lookup (n :: l) ≠ some .directory := by
                intro hthere
                rw [hthere] at h
                cases h
              refine ⟨l, n, hcheck, hwalk,
                by simpa using hdirectory, Nat.not_lt.1 hlong, hfree, ?_⟩
              split at h
              · cases h
              · cases h
              · exact (Except.ok.inj h).symm

/-- What was written can be read. -/
theorem readText_of_writeText_eq_ok (h : d.writeText path content = .ok made) :
    made.readText path = .ok content := by
  obtain ⟨l, n, hpossible, hway, hnamed, hshort, hfree, rfl⟩ :=
    exists_writes_of_writeText_eq_ok h
  have hthere : (d.set (n :: l) (.file content.toUTF8)).lookup (n :: l)
      = some (.file content.toUTF8) := by
    rw [lookup_set d (List.cons_ne_nil n l), if_pos rfl]
  have hentry : (d.set (n :: l) (.file content.toUTF8)).entry
    (Path.ofString path)
      = .ok (.file content.toUTF8) := by
    unfold entry child
    rw [walkToParent_set hfree content.toUTF8 hway]
    simp only [if_neg (Nat.not_lt.2 hshort), hthere, hnamed,
      Bool.false_eq_true, if_false]
  unfold readText
  simp only [hpossible, hentry, fromUTF8?_toUTF8]

/-- What stands under another name in the same directory is read as before. -/
theorem readText_writeText_of_ne {directory m n : String} (hm : Path.IsName m)
    (hn : Path.IsName n) (hne : m ≠ n)
    (h : d.writeText (Path.join directory m) content = .ok made) :
    made.readText (Path.join directory n)
      = d.readText (Path.join directory n) := by
  obtain ⟨l, k, -, hway, -, -, hfree, rfl⟩ :=
    exists_writes_of_writeText_eq_ok h
  rw [walkToParent_join hm] at hway
  cases hfolder : d.folder directory with
  | error e =>
      rw [hfolder] at hway
      cases hway
  | ok stop =>
      rw [hfolder] at hway
      obtain rfl : stop = l := congrArg Prod.fst (Except.ok.inj hway)
      obtain rfl : m = k :=
        Segment.name.inj (congrArg Prod.snd (Except.ok.inj hway))
      have hbefore : d.walkToParent (Path.ofString (Path.join directory n))
          = .ok (stop, .name n) := by
        rw [walkToParent_join hn, hfolder]
        rfl
      have hother :
          (d.set (m :: stop) (.file content.toUTF8)).lookup (n :: stop)
            = d.lookup (n :: stop) := by
        rw [lookup_set d (List.cons_ne_nil m stop), if_neg fun h =>
          hne (List.cons.inj h).1]
      unfold readText entry child
      simp only [walkToParent_set hfree content.toUTF8 hbefore,
        hbefore, hother]

-- ========================================================== any file

/-- A way that ends at a name is a path whose last part is that name. -/
theorem getLast?_of_walkToParent {d : Disk} {p : Path} {l : Location}
    {n : String} (h : d.walkToParent p = .ok (l, .name n)) :
    p.segments.getLast? = some (.name n) := by
  unfold walkToParent at h
  cases hlast : p.segments.getLast? with
  | none =>
      rw [hlast] at h
      cases h
  | some last =>
      simp only [hlast] at h
      split at h
      · cases h
      · cases h
        rfl

/-- Only a path whose last part is a name leads to a file. -/
theorem exists_getLast?_of_entry {d : Disk} {p : Path} {content : ByteArray}
    (h : d.entry p = .ok (.file content)) :
    ∃ n, p.segments.getLast? = some (.name n) := by
  unfold entry at h
  split at h
  · cases h
  · cases h
  · cases h
  · next n hwalk => exact ⟨n, getLast?_of_walkToParent hwalk⟩

/-- Only a path with a file name can be read. -/
theorem exists_fileName?_of_readText {d : Disk} {path text : String}
    (h : d.readText path = .ok text) : ∃ n, Path.fileName? path = some n := by
  unfold readText at h
  split at h
  · cases h
  · split at h
    · cases h
    · cases h
    · next hentry =>
      obtain ⟨n, hlast⟩ := exists_getLast?_of_entry hentry
      exact ⟨n, Path.fileName?_of_getLast? hlast⟩

end Obfuscator.World.Disk
