/-
What may be asked of a file system.

The program is carried out on any file system, and most of what it does
asks nothing of it. Of the files that it leaves more can be said where
a file system keeps what it is given (`FileSystem.Texts`): a text that
was written is there, and a write leaves alone what stands beside it
under another name. To say what is left alone as a whole takes places,
and which of them an operation may touch (`FileSystem.Layout`).

Nothing is asked about rights, or about room. An operation may be
refused for any reason; one that is refused may have done a part of its
work, so that a file is cut short; and a text may be there that nobody
can read. What is ruled out is links, for with them one file has
several names.

A tree on a disk is of this kind (`FileSystem.layoutTree`), and so is a
tree that minds rights and runs out of room
(`FileSystem.layoutGuarded`).
-/
import Obfuscator.Proofs.World.Directories
import Obfuscator.Proofs.World.Machine

namespace Obfuscator.World

namespace FileSystem

-- ============================================================== laws

/-- The texts that files hold, whoever may read them. -/
structure Texts (F : FileSystem) where
  /-- The text of the file to which a path leads. -/
  textAt : F.State → (path : String) → Option String
  /-- Whoever may read a file reads its text. -/
  textAt_of_readText : ∀ {d path text},
    F.readText d path = .ok text → textAt d path = some text
  /-- A text that was written is there. -/
  textAt_writeText : ∀ {d path text},
    (F.writeText d path text).2 = .ok () →
      textAt (F.writeText d path text).1 path = some text
  /-- Whether it is refused or not, a write leaves other names of the
  directory alone. -/
  textAt_writeText_of_ne : ∀ {d directory m n text}, Path.IsName m →
    Path.IsName n → m ≠ n →
      textAt (F.writeText d (Path.join directory m) text).1
          (Path.join directory n)
        = textAt d (Path.join directory n)

/-- The places of a file system, and what operations do to them,
refused or not. -/
structure Layout (F : FileSystem) extends Texts F where
  Place : Type
  /-- What is at a place, if anything. -/
  lookup : F.State → Place → Option Entry
  /-- Where a path leads, whether or not there is anything. -/
  placeOf : F.State → (path : String) → Place
  /-- The place of a name inside a directory. -/
  inside : Place → (name : String) → Place
  placeOf_join : ∀ {d directory n}, Path.IsName n →
    placeOf d (Path.join directory n) = inside (placeOf d directory) n
  /-- The places to which the names on a path lead, one after the
  other. -/
  way : F.State → (path : String) → List Place
  /-- The directory of a path is there, or can be made. -/
  CanMake : F.State → (path : String) → Prop
  createDirectories_eq_ok_iff : ∀ d path,
    (F.createDirectories d path).2 = .ok () ↔ CanMake d path
  /-- Making a directory makes directories on the way, where there was
  nothing. -/
  lookup_createDirectories : ∀ d path p,
    lookup (F.createDirectories d path).1 p ≠ lookup d p →
      p ∈ way d path ∧ lookup d p = none
        ∧ lookup (F.createDirectories d path).1 p = some .directory
  /-- A write changes nothing but the place to which its path leads. -/
  lookup_writeText : ∀ {d path text p},
    lookup (F.writeText d path text).1 p ≠ lookup d p →
      p = placeOf d path
  /-- No path leads elsewhere afterwards. -/
  placeOf_createDirectories : ∀ d path other,
    placeOf (F.createDirectories d path).1 other = placeOf d other
  placeOf_writeText : ∀ d path text other,
    placeOf (F.writeText d path text).1 other = placeOf d other

/-- Making a directory makes no file, and none goes. -/
theorem Layout.lookup_createDirectories_file_iff {F : FileSystem}
    (L : F.Layout) (d : F.State) (path : String) (p : L.Place)
    (content : ByteArray) :
    L.lookup (F.createDirectories d path).1 p = some (.file content)
      ↔ L.lookup d p = some (.file content) := by
  by_cases hsame :
      L.lookup (F.createDirectories d path).1 p = L.lookup d p
  · rw [hsame]
  · obtain ⟨-, hnone, hmade⟩ := L.lookup_createDirectories d path p hsame
    rw [hnone, hmade]
    exact iff_of_false nofun nofun

end FileSystem

-- ========================================================== the tree

namespace Disk

variable {d : Disk} {path text : String}

/-- A write goes through, or leaves a disk as it is. -/
theorem write_cases (d : Disk) (path text : String) :
    (∃ made, d.writeText path text = .ok made
        ∧ d.write path text = (made, .ok ()))
      ∨ ∃ e, d.write path text = (d, .error e) := by
  unfold write
  cases d.writeText path text with
  | ok made => exact .inl ⟨made, rfl, rfl⟩
  | error e => exact .inr ⟨e, rfl⟩

/-- A write that is refused leaves a disk as it is. -/
theorem eq_of_write_eq_error {made : Disk} {e : OsError}
    (h : d.write path text = (made, .error e)) : made = d := by
  rcases d.write_cases path text with ⟨_, -, hmade⟩ | ⟨e, hleft⟩
  · rw [hmade] at h
    cases h
  · rw [hleft] at h
    exact (Prod.mk.inj h).1.symm

/-- What was written can be read. -/
theorem readText_write (h : (d.write path text).2 = .ok ()) :
    (d.write path text).1.readText path = .ok text := by
  rcases d.write_cases path text with ⟨made, hwrite, hmade⟩ | ⟨e, hleft⟩
  · rw [hmade]
    exact readText_of_writeText_eq_ok hwrite
  · rw [hleft] at h
    cases h

/-- Another name in the same directory is read as before. -/
theorem readText_write_of_ne {directory m n : String}
    (hm : Path.IsName m) (hn : Path.IsName n) (hne : m ≠ n) :
    (d.write (Path.join directory m) text).1.readText
        (Path.join directory n)
      = d.readText (Path.join directory n) := by
  rcases d.write_cases (Path.join directory m) text with
    ⟨made, hwrite, hmade⟩ | ⟨e, hleft⟩
  · rw [hmade]
    exact readText_writeText_of_ne hm hn hne hwrite
  · rw [hleft]

/-- A write changes nothing but the place to which its path leads. -/
theorem eq_placeOf_of_lookup_write {p : Location}
    (h : (d.write path text).1.lookup p ≠ d.lookup p) :
    p = d.placeOf path := by
  rcases d.write_cases path text with ⟨made, hwrite, hmade⟩ | ⟨e, hleft⟩
  · obtain ⟨l, n, hwrites⟩ := exists_writes_of_writeText_eq_ok hwrite
    rw [placeOf_eq_of_walkToParent hwrites.way]
    by_contra hne
    rw [hmade, hwrites.made, lookup_set d (List.cons_ne_nil n l),
      if_neg fun heq => hne heq.symm] at h
    exact h rfl
  · rw [hleft] at h
    exact absurd rfl h

/-- Paths lead where they led before. -/
theorem placeOf_write (d : Disk) (path text other : String) :
    (d.write path text).1.placeOf other = d.placeOf other := by
  rcases d.write_cases path text with ⟨made, hwrite, hmade⟩ | ⟨e, hleft⟩
  · obtain ⟨l, n, hwrites⟩ := exists_writes_of_writeText_eq_ok hwrite
    rw [hmade, hwrites.made]
    rfl
  · rw [hleft]

theorem placeOf_createDirectories (d : Disk) (path other : String) :
    (d.createDirectories path).1.placeOf other = d.placeOf other := by
  rw [placeOf, placeOf, (d.extends_createDirectories path).start_eq]

/-- A name leads on from where its directory is. -/
theorem placeOf_join {directory n : String} (hn : Path.IsName n) :
    d.placeOf (Path.join directory n) = n :: d.placeOf directory := by
  rw [placeOf, placeOf, start, start, Path.ofString_join hn]
  exact destination_append _ [.name n] _

/-- Making a directory makes directories on the way, where there was
nothing. -/
theorem lookup_createDirectories (d : Disk) (path : String) (p : Location)
    (h : (d.createDirectories path).1.lookup p ≠ d.lookup p) :
    p ∈ d.stopsOf (Path.ofString path) ∧ d.lookup p = none
      ∧ (d.createDirectories path).1.lookup p = some .directory := by
  rcases (d.extends_createDirectories path).lookup p with
    heq | ⟨hplace, hnone, hmade⟩
  · exact absurd heq h
  · exact ⟨mem_stopsOf_of_mem_madeFor hplace, hnone, hmade⟩

end Disk

namespace FileSystem

/-- The texts of a tree are what can be read. -/
def textsTree : tree.Texts where
  textAt d path := (Disk.readText d path).toOption
  textAt_of_readText h := congrArg Except.toOption h
  textAt_writeText h := congrArg Except.toOption (Disk.readText_write h)
  textAt_writeText_of_ne hm hn hne :=
    congrArg Except.toOption (Disk.readText_write_of_ne hm hn hne)

/-- The text of a file of a tree is the one that is read. -/
theorem textAt_textsTree {d : Disk} {path text : String} :
    textsTree.textAt d path = some text
      ↔ d.readText path = .ok text := by
  show (d.readText path).toOption = some text ↔ _
  cases d.readText path with
  | error e => exact iff_of_false nofun nofun
  | ok t => simp [Except.toOption]

/-- The places of a tree. -/
def layoutTree : tree.Layout where
  toTexts := textsTree
  Place := Location
  lookup := Disk.lookup
  placeOf := Disk.placeOf
  inside l n := n :: l
  placeOf_join := Disk.placeOf_join
  way d path := Disk.stopsOf d (Path.ofString path)
  CanMake := Disk.CanMake
  createDirectories_eq_ok_iff := Disk.createDirectories_eq_ok_iff
  lookup_createDirectories := Disk.lookup_createDirectories
  lookup_writeText := Disk.eq_placeOf_of_lookup_write
  placeOf_createDirectories := Disk.placeOf_createDirectories
  placeOf_writeText := Disk.placeOf_write

-- =================================================== rights and room

/-- What a write of a tree leaves where some paths may not be touched,
and a file has room for so many characters: of a longer text the
beginning is written, and then it is refused. -/
def guardedWrite (permits : String → Bool) (room : Nat) (d : Disk)
    (path text : String) : Disk × Except OsError Unit :=
  if !permits path then (d, .error .permissionDenied)
  else if text.length ≤ room then d.write path text
  else
    ((d.write path (String.ofList (text.toList.take room))).1,
      .error (.other "No space left on device" 28))

/-- Reading a file of a tree where some paths may not be touched. -/
def guardedRead (permits : String → Bool) (d : Disk) (path : String) :
    Except OsError String :=
  if permits path then d.readText path else .error .permissionDenied

/-- Making a directory of a tree where some paths may not be touched. -/
def guardedCreate (permits : String → Bool) (d : Disk) (path : String) :
    Disk × Except OsError Unit :=
  if permits path then d.createDirectories path
  else (d, .error .permissionDenied)

/-- A tree in which some paths may not be touched, and files have room
for so many characters. -/
def guarded (permits : String → Bool) (room : Nat) : FileSystem where
  State := Disk
  isFile := Disk.isFile
  readText := guardedRead permits
  createDirectories := guardedCreate permits
  writeText := guardedWrite permits room

variable {permits : String → Bool} {room : Nat} {d : Disk}
  {path text : String}

/-- A guarded write leaves a tree as some write would, which is the one
that was asked for if it is not refused, or it leaves it as it is. -/
theorem guardedWrite_cases (permits : String → Bool) (room : Nat)
    (d : Disk) (path text : String) :
    (∃ part, (guardedWrite permits room d path text).1
          = (d.write path part).1
        ∧ ((guardedWrite permits room d path text).2 = .ok () →
          part = text ∧ (d.write path part).2 = .ok ()))
      ∨ ∃ e, guardedWrite permits room d path text = (d, .error e) := by
  unfold guardedWrite
  split
  · exact .inr ⟨_, rfl⟩
  · split
    · exact .inl ⟨text, rfl, fun h => ⟨rfl, h⟩⟩
    · exact .inl ⟨_, rfl, nofun⟩

theorem readText_of_guardedRead
    (h : guardedRead permits d path = .ok text) :
    d.readText path = .ok text := by
  unfold guardedRead at h
  split at h
  · exact h
  · cases h

/-- What was written is there in full. -/
theorem readText_guardedWrite
    (h : (guardedWrite permits room d path text).2 = .ok ()) :
    (guardedWrite permits room d path text).1.readText path
      = .ok text := by
  rcases guardedWrite_cases permits room d path text with
    ⟨part, hleft, hpart⟩ | ⟨e, hleft⟩
  · obtain ⟨rfl, hwritten⟩ := hpart h
    rw [hleft]
    exact Disk.readText_write hwritten
  · rw [hleft] at h
    cases h

/-- Another name in the same directory is left alone, even by a write that
is cut short. -/
theorem readText_guardedWrite_of_ne {directory m n : String}
    (hm : Path.IsName m) (hn : Path.IsName n) (hne : m ≠ n) :
    (guardedWrite permits room d (Path.join directory m) text).1.readText
        (Path.join directory n)
      = d.readText (Path.join directory n) := by
  rcases guardedWrite_cases permits room d (Path.join directory m) text
    with ⟨part, hleft, -⟩ | ⟨e, hleft⟩
  · rw [hleft]
    exact Disk.readText_write_of_ne hm hn hne
  · rw [hleft]

/-- So is every other place. -/
theorem eq_placeOf_of_lookup_guardedWrite {p : Location}
    (h : (guardedWrite permits room d path text).1.lookup p
      ≠ d.lookup p) : p = d.placeOf path := by
  rcases guardedWrite_cases permits room d path text with
    ⟨part, hleft, -⟩ | ⟨e, hleft⟩
  · rw [hleft] at h
    exact Disk.eq_placeOf_of_lookup_write h
  · rw [hleft] at h
    exact absurd rfl h

theorem placeOf_guardedWrite (permits : String → Bool) (room : Nat)
    (d : Disk) (path text other : String) :
    (guardedWrite permits room d path text).1.placeOf other
      = d.placeOf other := by
  rcases guardedWrite_cases permits room d path text with
    ⟨part, hleft, -⟩ | ⟨e, hleft⟩
  · rw [hleft, Disk.placeOf_write]
  · rw [hleft]

/-- A directory can be made if that is permitted and the tree can make
it. -/
theorem guardedCreate_eq_ok_iff (permits : String → Bool) (d : Disk)
    (path : String) :
    (guardedCreate permits d path).2 = .ok ()
      ↔ permits path ∧ d.CanMake path := by
  unfold guardedCreate
  split
  · next h => rw [Disk.createDirectories_eq_ok_iff, and_iff_right h]
  · next h => exact iff_of_false nofun fun hcan => h hcan.1

/-- Directories are made on the way alone, if that is permitted. -/
theorem lookup_guardedCreate (permits : String → Bool) (d : Disk)
    (path : String) (p : Location)
    (h : (guardedCreate permits d path).1.lookup p ≠ d.lookup p) :
    p ∈ d.stopsOf (Path.ofString path) ∧ d.lookup p = none
      ∧ (guardedCreate permits d path).1.lookup p
        = some .directory := by
  unfold guardedCreate at h ⊢
  split at h
  · next hpermits =>
    rw [if_pos hpermits]
    exact d.lookup_createDirectories path p h
  · exact absurd rfl h

theorem placeOf_guardedCreate (permits : String → Bool) (d : Disk)
    (path other : String) :
    (guardedCreate permits d path).1.placeOf other
      = d.placeOf other := by
  unfold guardedCreate
  split
  · exact d.placeOf_createDirectories path other
  · rfl

/-- What is in a guarded tree is there for those as well who may not
read it. -/
def layoutGuarded (permits : String → Bool) (room : Nat) :
    (guarded permits room).Layout where
  textAt d path := (Disk.readText d path).toOption
  textAt_of_readText h :=
    congrArg Except.toOption (readText_of_guardedRead h)
  textAt_writeText h :=
    congrArg Except.toOption (readText_guardedWrite h)
  textAt_writeText_of_ne hm hn hne :=
    congrArg Except.toOption (readText_guardedWrite_of_ne hm hn hne)
  Place := Location
  lookup := Disk.lookup
  placeOf := Disk.placeOf
  inside l n := n :: l
  placeOf_join := Disk.placeOf_join
  way d path := Disk.stopsOf d (Path.ofString path)
  CanMake d path := permits path ∧ Disk.CanMake d path
  createDirectories_eq_ok_iff := guardedCreate_eq_ok_iff permits
  lookup_createDirectories := lookup_guardedCreate permits
  lookup_writeText := eq_placeOf_of_lookup_guardedWrite
  placeOf_createDirectories := placeOf_guardedCreate permits
  placeOf_writeText := placeOf_guardedWrite permits room

/-- A text for which there is no room is cut short. -/
example :
    let F := guarded (fun _ => true) 3
    (layoutGuarded (fun _ => true) 3).textAt
        (F.writeText ({} : Disk) "a" "mod a;").1 "a"
      = some "mod" := by
  decide +kernel

end FileSystem

end Obfuscator.World
