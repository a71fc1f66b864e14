/-
Ways on a disk.

On a disk without links a way leads to one place, whatever is on the disk
(`destination`), and passes the places of its names (`stops`). It can be
followed exactly if each of these is open, a directory with a name that is
not too long (`walk_eq_ok_iff`); else it ends where something is missing, or
where a file or a name that is too long bars it (`walk_eq_error`). So it can
be told from the stops of a path whether it leads to a directory
(`isDirectory_iff`), and nothing else has to be known of how it is followed.
-/
import Obfuscator.Proofs.World.Disk

namespace Obfuscator.World

-- ========================================================= ways and stops

/-- Where a way leads from a place if every name on it is that of a
directory. -/
def destination : Location → List Segment → Location
  | l, [] => l
  | l, .here :: rest => destination l rest
  | l, .up :: rest => destination l.tail rest
  | l, .name n :: rest => destination (n :: l) rest

/-- The places to which the names on a way lead, in order. -/
def stops : Location → List Segment → List Location
  | _, [] => []
  | l, .here :: rest => stops l rest
  | l, .up :: rest => stops l.tail rest
  | l, .name n :: rest => (n :: l) :: stops (n :: l) rest

/-- The stops of a way after another start where that one ends. -/
theorem stops_append (a b : List Segment) :
    ∀ l, stops l (a ++ b) = stops l a ++ stops (destination l a) b := by
  induction a with
  | nil => intro l; rfl
  | cons s rest ih =>
      intro l
      cases s with
      | here => exact ih l
      | up => exact ih l.tail
      | name n => exact congrArg ((n :: l) :: ·) (ih (n :: l))

/-- A way after another leads on from where that one ends. -/
theorem destination_append (a b : List Segment) :
    ∀ l, destination l (a ++ b) = destination (destination l a) b := by
  induction a with
  | nil => intro l; rfl
  | cons s rest ih =>
      intro l
      cases s with
      | here => exact ih l
      | up => exact ih l.tail
      | name n => exact ih (n :: l)

/-- Single dots add no stops. -/
theorem stops_filter (way : List Segment) :
    ∀ l, stops l (way.filter (· ≠ .here)) = stops l way := by
  induction way with
  | nil => intro l; rfl
  | cons s rest ih =>
      intro l
      cases s with
      | here => exact ih l
      | up => exact ih l.tail
      | name n => exact congrArg ((n :: l) :: ·) (ih (n :: l))

/-- The parts that matter have the stops of all parts. -/
theorem Path.stops_components (p : Path) (l : Location) :
    stops l p.components = stops l p.segments := by
  unfold components
  split
  · next rest _ hsegments =>
    rw [hsegments]
    exact stops_filter rest l
  · exact stops_filter _ l

namespace Disk

-- =========================================================== open places

/-- The name of a place is no longer than names may be. -/
def NameFits : Location → Prop
  | [] => True
  | n :: _ => n.utf8ByteSize ≤ maxName

instance : DecidablePred NameFits
  | [] => .isTrue trivial
  | n :: _ => inferInstanceAs (Decidable (n.utf8ByteSize ≤ maxName))

/-- A place is a directory that a way can pass. -/
structure IsOpen (d : Disk) (m : Location) : Prop where
  fits : NameFits m
  there : d.lookup m = some .directory

/-- A place holds a file, or nothing can have its name. -/
def IsBarred (d : Disk) (m : Location) : Prop :=
  ¬NameFits m ∨ ∃ content, d.lookup m = some (.file content)

/-- A barred place is not open. -/
theorem IsBarred.not_isOpen {d : Disk} {m : Location} (h : d.IsBarred m) :
    ¬d.IsOpen m := by
  rintro ⟨hfits, hthere⟩
  rcases h with hlong | ⟨content, hfile⟩
  · exact hlong hfits
  · rw [hthere] at hfile
    cases hfile

theorem not_isOpen_of_none {d : Disk} {m : Location} (h : d.lookup m = none) :
    ¬d.IsOpen m := by
  rintro ⟨-, hthere⟩
  rw [h] at hthere
  cases hthere

/-- What a name leads to in a directory: an open place, a missing one, a
file, or none at all. -/
theorem child_cases (d : Disk) (l : Location) (n : String) :
    (d.IsOpen (n :: l) ∧ d.child l n = .ok (some .directory))
      ∨ (NameFits (n :: l) ∧ d.lookup (n :: l) = none ∧ d.child l n = .ok none)
      ∨ (∃ content, d.lookup (n :: l) = some (.file content)
        ∧ d.child l n = .ok (some (.file content)))
      ∨ (¬NameFits (n :: l) ∧ d.child l n = .error .nameTooLong) := by
  unfold child
  by_cases hlong : maxName < n.utf8ByteSize
  · rw [if_pos hlong]
    exact .inr (.inr (.inr ⟨Nat.not_le.2 hlong, rfl⟩))
  · have hfits : NameFits (n :: l) := Nat.not_lt.1 hlong
    rw [if_neg hlong]
    cases hthere : d.lookup (n :: l) with
    | none => exact .inr (.inl ⟨hfits, rfl, rfl⟩)
    | some e =>
        cases e with
        | directory => exact .inl ⟨⟨hfits, hthere⟩, rfl⟩
        | file content => exact .inr (.inr (.inl ⟨content, rfl, rfl⟩))

/-- A way can be followed exactly if all its stops are open, and leads to
its destination. -/
theorem walk_eq_ok_iff {d : Disk} (way : List Segment) :
    ∀ {l stop : Location}, d.walk l way = .ok stop
      ↔ stop = destination l way ∧ ∀ m ∈ stops l way, d.IsOpen m := by
  induction way with
  | nil =>
      intro l stop
      simp [walk, destination, stops, eq_comm]
  | cons s rest ih =>
      intro l stop
      cases s with
      | here => exact ih
      | up => exact ih
      | name n =>
          rw [walk, destination, stops, List.forall_mem_cons]
          rcases d.child_cases l n with ⟨hopen, hchild⟩ | ⟨-, hnone, hchild⟩
            | ⟨content, hfile, hchild⟩ | ⟨hlong, hchild⟩
          · rw [hchild]
            exact ih.trans (and_congr_right fun _ =>
              (and_iff_right hopen).symm)
          · rw [hchild]
            exact iff_of_false (by simp) fun h =>
              not_isOpen_of_none hnone h.2.1
          · rw [hchild]
            exact iff_of_false (by simp) fun h =>
              IsBarred.not_isOpen (.inr ⟨content, hfile⟩) h.2.1
          · rw [hchild]
            exact iff_of_false (by simp) fun h => hlong h.2.1.fits

/-- A way that cannot be followed is barred at a stop, or something is
missing there. -/
theorem walk_eq_error {d : Disk} {e : OsError} (way : List Segment) :
    ∀ {l : Location}, d.walk l way = .error e →
      (e = .notFound ∧ ∃ m ∈ stops l way, d.lookup m = none)
        ∨ (e ≠ .notFound ∧ ∃ m ∈ stops l way, d.IsBarred m) := by
  induction way with
  | nil => intro l h; cases h
  | cons s rest ih =>
      intro l h
      cases s with
      | here => exact ih h
      | up => exact ih h
      | name n =>
          rw [walk] at h
          have hfirst : n :: l ∈ stops l (.name n :: rest) :=
            List.mem_cons_self
          rcases d.child_cases l n with ⟨hopen, hchild⟩ | ⟨-, hnone, hchild⟩
            | ⟨content, hfile, hchild⟩ | ⟨hlong, hchild⟩
          · rw [hchild] at h
            rcases ih h with ⟨he, m, hm, hnone⟩ | ⟨hne, m, hm, hbarred⟩
            · exact .inl ⟨he, m, List.mem_cons_of_mem _ hm, hnone⟩
            · exact .inr ⟨hne, m, List.mem_cons_of_mem _ hm, hbarred⟩
          · rw [hchild] at h
            cases h
            exact .inl ⟨rfl, _, hfirst, hnone⟩
          · rw [hchild] at h
            cases h
            exact .inr ⟨by decide, _, hfirst, .inr ⟨content, hfile⟩⟩
          · rw [hchild] at h
            cases h
            exact .inr ⟨by decide, _, hfirst, .inl hlong⟩

-- ============================================================== paths

/-- The place where a path starts. -/
def start (d : Disk) (p : Path) : Location :=
  if p.absolute then [] else d.workingDirectory

/-- The stops of a path. -/
def stopsOf (d : Disk) (p : Path) : List Location :=
  stops (d.start p) p.segments

/-- Where a path leads, whether or not there is anything. -/
def placeOf (d : Disk) (text : String) : Location :=
  destination (d.start (Path.ofString text)) (Path.ofString text).segments

/-- A path whose last part is a name leads to that name behind the way to
it. -/
theorem placeOf_eq_of_walkToParent {d : Disk} {text : String} {l : Location}
    {n : String} (h : d.walkToParent (Path.ofString text) = .ok (l, .name n)) :
    d.placeOf text = n :: l := by
  obtain ⟨front, hsegments⟩ :=
    List.getLast?_eq_some_iff.1 (getLast?_of_walkToParent h)
  unfold walkToParent at h
  simp only [hsegments, List.getLast?_concat, List.dropLast_concat] at h
  cases hwalk : d.walk (d.start (Path.ofString text)) front with
  | error e =>
      rw [start] at hwalk
      rw [hwalk] at h
      cases h
  | ok stop =>
      obtain ⟨rfl, -⟩ := (walk_eq_ok_iff _).1 hwalk
      rw [start] at hwalk
      rw [hwalk] at h
      cases h
      rw [placeOf, hsegments, destination_append]
      rfl

/-- The stops before the last part of a path. -/
def stopsAbove (d : Disk) (p : Path) : List Location :=
  stops (d.start p) p.segments.dropLast

/-- The place of the last part of a path, if that is a name. -/
def lastStop (d : Disk) (p : Path) : List Location :=
  match p.segments.getLast? with
  | some (.name n) => [n :: destination (d.start p) p.segments.dropLast]
  | _ => []

/-- The stops of a path are those above its last part, and that of the
last part itself. -/
theorem stopsOf_eq (d : Disk) (p : Path) :
    d.stopsOf p = d.stopsAbove p ++ d.lastStop p := by
  unfold stopsOf stopsAbove lastStop
  cases hlast : p.segments.getLast? with
  | none =>
      rw [List.getLast?_eq_none_iff] at hlast
      rw [hlast]
      rfl
  | some s =>
      obtain ⟨front, hfront⟩ := List.getLast?_eq_some_iff.1 hlast
      rw [hfront, List.dropLast_concat, stops_append]
      cases s with
      | here => rfl
      | up => rfl
      | name n => rfl

/-- A way up to the last part of a path ends at that part, if all before it
is open; and else where something is missing, or barred. -/
theorem walkToParent_cases (d : Disk) (p : Path) :
    ((∀ k ∈ d.stopsAbove p, d.IsOpen k)
        ∧ ((∃ l n, d.walkToParent p = .ok (l, .name n)
          ∧ d.lastStop p = [n :: l])
          ∨ (∃ l, d.walkToParent p = .ok (l, .here) ∧ d.lastStop p = [])
          ∨ (∃ l, d.walkToParent p = .ok (l, .up) ∧ d.lastStop p = [])))
      ∨ (d.walkToParent p = .error .notFound
        ∧ ∃ k ∈ d.stopsAbove p, d.lookup k = none)
      ∨ (∃ e, e ≠ .notFound ∧ d.walkToParent p = .error e
        ∧ ∃ k ∈ d.stopsAbove p, d.IsBarred k) := by
  unfold walkToParent stopsAbove lastStop start
  cases hlast : p.segments.getLast? with
  | none =>
      rw [List.getLast?_eq_none_iff] at hlast
      rw [hlast]
      exact .inl ⟨nofun, .inr (.inl ⟨_, rfl, rfl⟩)⟩
  | some s =>
      cases hwalk : d.walk (if p.absolute then [] else d.workingDirectory)
        p.segments.dropLast with
      | error e =>
          rcases walk_eq_error _ hwalk with ⟨rfl, hmissing⟩ | ⟨hne, hbarred⟩
          · exact .inr (.inl ⟨by simp only [hwalk], hmissing⟩)
          · exact .inr (.inr ⟨e, hne, by simp only [hwalk], hbarred⟩)
      | ok l =>
          obtain ⟨rfl, hopen⟩ := (walk_eq_ok_iff _).1 hwalk
          refine .inl ⟨hopen, ?_⟩
          simp only [hwalk]
          cases s with
          | name n => exact .inl ⟨_, n, rfl, rfl⟩
          | here => exact .inr (.inl ⟨_, rfl, rfl⟩)
          | up => exact .inr (.inr ⟨_, rfl, rfl⟩)

/-- A path leads to a directory exactly if all its stops are open. -/
theorem isDirectory_iff (d : Disk) (p : Path) :
    d.isDirectory p = true ↔ ∀ m ∈ d.stopsOf p, d.IsOpen m := by
  rw [stopsOf_eq, List.forall_mem_append]
  unfold isDirectory entry
  rcases d.walkToParent_cases p with
    ⟨hopen, ⟨l, n, hwalk, hlast⟩ | ⟨l, hwalk, hlast⟩ | ⟨l, hwalk, hlast⟩⟩
    | ⟨hwalk, k, hk, hnone⟩ | ⟨e, hne, hwalk, k, hk, hbarred⟩
  · rw [hwalk, hlast, List.forall_mem_singleton, and_iff_right hopen]
    rcases d.child_cases l n with ⟨hthere, hchild⟩ | ⟨hfits, hnone, hchild⟩
      | ⟨content, hfile, hchild⟩ | ⟨hlong, hchild⟩
    · simp only [hchild, hthere]
    · simp only [hchild]
      exact iff_of_false nofun (not_isOpen_of_none hnone)
    · simp only [hchild]
      refine iff_of_false ?_ (IsBarred.not_isOpen (.inr ⟨content, hfile⟩))
      cases p.directoryOnly with
      | false => nofun
      | true => nofun
    · simp only [hchild]
      exact iff_of_false nofun fun h => hlong h.fits
  · rw [hwalk, hlast]
    exact iff_of_true rfl ⟨hopen, nofun⟩
  · rw [hwalk, hlast]
    exact iff_of_true rfl ⟨hopen, nofun⟩
  · rw [hwalk]
    exact iff_of_false nofun fun h => not_isOpen_of_none hnone (h.1 k hk)
  · rw [hwalk]
    exact iff_of_false nofun fun h => hbarred.not_isOpen (h.1 k hk)

end Disk

end Obfuscator.World
