/-
Putting files into a directory, one after the other.

A run of writes that go through leads from one state of a file system to
another (`Puts`). The writing of a list is such a run, up to the end of
the list or up to a file that is refused (`Ends`): the step is one file
(`Ends.cons`), and the whole list follows by induction
(`ends_putFiles`). For a set the directory is made first
(`store_cases`).

What that leaves follows from what writes do. Where texts are kept, the
last file of every name has its text (`Texts.textAt_of_puts`). Where
files have places, no place changes but those of the files that were
tried, inside the directory (`Layout.exists_tried_of_lookup_ne`).
-/
import Obfuscator.Proofs.Artifact.Storing
import Obfuscator.Proofs.World.Layout

namespace Obfuscator

open World (FileSystem OsError Path)

-- =============================================================== files

/-- No later file of the list has the name of this one. -/
def Artifact.IsLast (a : Artifact) (files : List Artifact) : Prop :=
  ∃ earlier later, files = earlier ++ a :: later
    ∧ ∀ b ∈ later, b.name ≠ a.name

variable {a : Artifact}

theorem Artifact.IsLast.mem {files : List Artifact}
    (h : a.IsLast files) : a ∈ files := by
  obtain ⟨earlier, later, rfl, -⟩ := h
  exact List.mem_append_right earlier List.mem_cons_self

theorem Artifact.not_isLast_nil (a : Artifact) : ¬a.IsLast [] :=
  fun h => nomatch h.mem

/-- The last file of a name is the first of a list, with none of that
name after it, or it is the last one of the others. -/
theorem Artifact.isLast_cons {b : Artifact} {files : List Artifact}
    (h : a.IsLast (b :: files)) :
    (a = b ∧ ∀ c ∈ files, c.name ≠ a.name) ∨ a.IsLast files := by
  obtain ⟨earlier, later, hfiles, hlater⟩ := h
  cases earlier with
  | nil =>
      obtain ⟨rfl, rfl⟩ := List.cons.inj hfiles
      exact .inl ⟨rfl, hlater⟩
  | cons c more =>
      obtain ⟨-, rfl⟩ := List.cons.inj hfiles
      exact .inr ⟨more, later, rfl, hlater⟩

-- ======================================================= runs of writes

section

variable (F : FileSystem) (directory : String)

/-- All files of a list are put into a directory, one after the other. -/
inductive Puts : F.State → List Artifact → F.State → Prop
  | nil (d : F.State) : Puts d [] d
  | cons {d between after : F.State} (a : Artifact)
    {rest : List Artifact}
    (write : F.writeText d (Path.join directory a.name) a.content
      = (between, .ok ()))
    (puts : Puts between rest after) : Puts d (a :: rest) after

/-- How the writing of a list ends: which files are tried, what is left,
and what is told of it. -/
inductive Ends (before : F.State) :
    (files tried : List Artifact) → (after : F.State) →
      Except ArtifactError (List WrittenArtifact) → Prop
  /-- All files are put there, and each is reported. -/
  | all {files : List Artifact} {after : F.State}
    (puts : Puts F directory before files after) :
    Ends before files files after
      (.ok (files.map (Artifact.written directory)))
  /-- Some files are put there, and the next one is refused. -/
  | refused {put : List Artifact} {between after : F.State}
    (a : Artifact) (rest : List Artifact) (reason : OsError)
    (puts : Puts F directory before put between)
    (write : F.writeText between (Path.join directory a.name) a.content
      = (after, .error reason)) :
    Ends before (put ++ a :: rest) (put ++ [a]) after
      (.error (.file (Path.join directory a.name) reason))

end

variable {F : FileSystem} {directory : String}
  {before between after : F.State} {files tried rest : List Artifact}
  {result : Except ArtifactError (List WrittenArtifact)}

/-- One file that is put there, and then those after it. -/
theorem Ends.cons
    (hwrite : F.writeText before (Path.join directory a.name) a.content
      = (between, .ok ()))
    (h : Ends F directory between rest tried after result) :
    Ends F directory before (a :: rest) (a :: tried) after
      (result.map (a.written directory :: ·)) := by
  cases h with
  | all puts => exact .all (.cons a hwrite puts)
  | refused b rest reason puts write =>
      exact .refused b rest reason (.cons a hwrite puts) write

/-- Writing a list of files is a run of writes that go through, up to
the first that does not. -/
theorem ends_putFiles (F : FileSystem) (directory : String) :
    ∀ (files : List Artifact) (d : F.State),
      Ends F directory d files (F.tried directory files d)
        (F.putFiles directory files d).1
        (F.putFiles directory files d).2 := by
  intro files
  induction files with
  | nil => intro d; exact .all (.nil d)
  | cons a rest ih =>
      intro d
      rw [FileSystem.putFiles, FileSystem.tried]
      cases hwrite :
          F.writeText d (Path.join directory a.name) a.content with
      | mk made result =>
          cases result with
          | error reason => exact .refused a rest reason (.nil d) hwrite
          | ok u => exact .cons hwrite (ih made)

/-- Storing ends with the directory, or goes on with the files. -/
theorem store_cases (F : FileSystem) (d : F.State) (directory : String)
    (files : List Artifact) :
    (∃ left reason, F.createDirectories d directory
          = (left, .error reason)
        ∧ F.store d directory files
          = (left, .error (.directory directory reason)))
      ∨ ∃ made, F.createDirectories d directory = (made, .ok ())
        ∧ Ends F directory made files (F.tried directory files made)
          (F.store d directory files).1
          (F.store d directory files).2 := by
  unfold FileSystem.store
  cases F.createDirectories d directory with
  | mk made result =>
      cases result with
      | error reason => exact .inl ⟨made, reason, rfl, rfl⟩
      | ok u => exact .inr ⟨made, rfl, ends_putFiles F directory files made⟩

/-- A list that ends well was put there as a whole. -/
theorem Ends.of_ok {written : List WrittenArtifact}
    (h : Ends F directory before files tried after (.ok written)) :
    Puts F directory before files after ∧ tried = files
      ∧ written = files.map (Artifact.written directory) := by
  cases h with
  | all puts => exact ⟨puts, rfl, rfl⟩

/-- If a set was stored, its files were put into the directory, and each
is reported. -/
theorem puts_of_store_eq_ok {d : F.State}
    {written : List WrittenArtifact}
    (h : (F.store d directory files).2 = .ok written) :
    ∃ made, F.createDirectories d directory = (made, .ok ())
      ∧ Puts F directory made files (F.store d directory files).1
      ∧ written = files.map (Artifact.written directory) := by
  rcases store_cases F d directory files with
    ⟨left, reason, -, hstore⟩ | ⟨made, hmade, hends⟩
  · rw [hstore] at h
    cases h
  · rw [h] at hends
    obtain ⟨hputs, -, hwritten⟩ := hends.of_ok
    exact ⟨made, hmade, hputs, hwritten⟩

/-- A list that ends with a file was put there up to that one. -/
theorem Ends.of_file {path : String} {reason : OsError}
    (h : Ends F directory before files tried after
      (.error (.file path reason))) :
    ∃ put a rest between, files = put ++ a :: rest ∧ tried = put ++ [a]
      ∧ Puts F directory before put between
      ∧ path = Path.join directory a.name
      ∧ F.writeText between path a.content = (after, .error reason) := by
  cases h with
  | refused a rest reason puts write =>
      exact ⟨_, a, rest, _, rfl, rfl, puts, rfl, write⟩

/-- No list of files ends with the directory. -/
theorem Ends.not_directory {path : String} {reason : OsError} :
    ¬Ends F directory before files tried after
      (.error (.directory path reason)) :=
  nofun

/-- Only files of the list are tried. -/
theorem Ends.mem_of_mem_tried
    (h : Ends F directory before files tried after result)
    (ha : a ∈ tried) : a ∈ files := by
  cases h with
  | all puts => exact ha
  | refused b rest reason puts write =>
      rcases List.mem_append.1 ha with ha | ha
      · exact List.mem_append_left _ ha
      · rw [List.mem_singleton.1 ha]
        exact List.mem_append_right _ List.mem_cons_self

-- =========================================================== the texts

namespace World.FileSystem

/-- One file has its text where it was put. -/
theorem Texts.textAt_of_write (T : F.Texts)
    (hwrite : F.writeText before (Path.join directory a.name) a.content
      = (after, .ok ())) :
    T.textAt after (Path.join directory a.name) = some a.content := by
  have hwritten :
      (F.writeText before (Path.join directory a.name) a.content).2
        = .ok () := by
    rw [hwrite]
  have htext := T.textAt_writeText hwritten
  rwa [hwrite] at htext

/-- One file leaves the text under another name alone, refused or
not. -/
theorem Texts.textAt_of_write_of_ne (T : F.Texts)
    {outcome : Except OsError Unit} {n : String} (hn : Path.IsName n)
    (hname : Path.IsName a.name) (hne : a.name ≠ n)
    (hwrite : F.writeText before (Path.join directory a.name) a.content
      = (after, outcome)) :
    T.textAt after (Path.join directory n)
      = T.textAt before (Path.join directory n) := by
  have htext : T.textAt
      (F.writeText before (Path.join directory a.name) a.content).1
        (Path.join directory n)
      = T.textAt before (Path.join directory n) :=
    T.textAt_writeText_of_ne hname hn hne
  rwa [hwrite] at htext

/-- What is put beside a file under other names leaves its text. -/
theorem Texts.textAt_of_puts_of_ne (T : F.Texts) {n : String}
    (hn : Path.IsName n) (h : Puts F directory before files after)
    (hnames : ∀ b ∈ files, Path.IsName b.name)
    (hother : ∀ b ∈ files, b.name ≠ n) :
    T.textAt after (Path.join directory n)
      = T.textAt before (Path.join directory n) := by
  induction h with
  | nil d => rfl
  | cons b hwrite _ ih =>
      obtain ⟨hname, hnames⟩ := List.forall_mem_cons.1 hnames
      obtain ⟨hne, hother⟩ := List.forall_mem_cons.1 hother
      rw [ih hnames hother, T.textAt_of_write_of_ne hn hname hne hwrite]

/-- The last file of every name has its text. -/
theorem Texts.textAt_of_puts (T : F.Texts)
    (h : Puts F directory before files after)
    (hnames : ∀ b ∈ files, Path.IsName b.name)
    (ha : a.IsLast files) :
    T.textAt after (Path.join directory a.name) = some a.content := by
  induction h with
  | nil d => exact absurd ha a.not_isLast_nil
  | cons b hwrite hputs ih =>
      obtain ⟨hname, hrest⟩ := List.forall_mem_cons.1 hnames
      rcases Artifact.isLast_cons ha with ⟨rfl, hother⟩ | ha
      · rw [T.textAt_of_puts_of_ne hname hputs hrest hother]
        exact T.textAt_of_write hwrite
      · exact ih hrest ha

-- ========================================================== the places

variable (L : F.Layout) {p : L.Place}

/-- One file changes nothing but its place, refused or not. -/
theorem Layout.eq_inside_of_lookup_ne {outcome : Except OsError Unit}
    (hname : Path.IsName a.name)
    (hwrite : F.writeText before (Path.join directory a.name) a.content
      = (after, outcome))
    (h : L.lookup after p ≠ L.lookup before p) :
    p = L.inside (L.placeOf before directory) a.name := by
  rw [← L.placeOf_join hname]
  have hchanged : L.lookup
      (F.writeText before (Path.join directory a.name) a.content).1 p
        ≠ L.lookup before p := by
    rwa [hwrite]
  exact L.lookup_writeText hchanged

/-- A run of writes changes nothing but the places of its files, and
leaves the directory where it is. -/
theorem Layout.placeOf_and_exists_of_puts
    (h : Puts F directory before files after)
    (hnames : ∀ b ∈ files, Path.IsName b.name) :
    L.placeOf after directory = L.placeOf before directory
      ∧ ∀ p, L.lookup after p ≠ L.lookup before p →
        ∃ b ∈ files, p = L.inside (L.placeOf before directory) b.name := by
  induction h with
  | nil d => exact ⟨rfl, fun p hp => absurd rfl hp⟩
  | @cons d between after b rest hwrite hputs ih =>
      obtain ⟨hname, hnames⟩ := List.forall_mem_cons.1 hnames
      obtain ⟨hplace, hchanged⟩ := ih hnames
      have hstays : L.placeOf between directory
          = L.placeOf d directory := by
        have hmade := L.placeOf_writeText d (Path.join directory b.name)
          b.content directory
        rwa [hwrite] at hmade
      rw [hstays] at hplace hchanged
      refine ⟨hplace, fun p hp => ?_⟩
      by_cases hlater : L.lookup after p = L.lookup between p
      · rw [hlater] at hp
        exact ⟨b, List.mem_cons_self,
          L.eq_inside_of_lookup_ne hname hwrite hp⟩
      · obtain ⟨c, hc, hinside⟩ := hchanged p hlater
        exact ⟨c, List.mem_cons_of_mem b hc, hinside⟩

/-- Writing a list changes nothing but the places of the files that are
tried. -/
theorem Layout.exists_tried_of_lookup_ne
    (h : Ends F directory before files tried after result)
    (hnames : ∀ b ∈ files, Path.IsName b.name)
    (hp : L.lookup after p ≠ L.lookup before p) :
    ∃ b ∈ tried, p = L.inside (L.placeOf before directory) b.name := by
  cases h with
  | all puts => exact (L.placeOf_and_exists_of_puts puts hnames).2 p hp
  | @refused put between _ b rest reason puts write =>
      obtain ⟨hput, hleft⟩ := List.forall_mem_append.1 hnames
      obtain ⟨hplace, hchanged⟩ :=
        L.placeOf_and_exists_of_puts puts hput
      by_cases hlast : L.lookup after p = L.lookup between p
      · rw [hlast] at hp
        obtain ⟨c, hc, hinside⟩ := hchanged p hp
        exact ⟨c, List.mem_append_left _ hc, hinside⟩
      · have hname := hleft b List.mem_cons_self
        have hinside := L.eq_inside_of_lookup_ne hname write hlast
        rw [hplace] at hinside
        exact ⟨b, List.mem_concat_self, hinside⟩

end World.FileSystem

end Obfuscator
