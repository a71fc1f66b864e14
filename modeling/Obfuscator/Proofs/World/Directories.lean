/-
Making a directory, with those above it that are missing.

A directory can be made exactly if each stop on the way to it is open or can
be opened (`CanMake`, `createDirectories_eq_ok_iff`): no file is in the way,
no name is too long, and where nothing is there is something to make. A path
that ends in a single dot asks for nothing to be made at its last stop,
which has to be there.

What is made is made one path after the other, the ancestors first. The step
(`makesWay_cons`) is one path on top of those above it; from it, by
induction on the segments, follows the whole chain
(`makesWay_properPrefixes`). In all cases the disk that is left has more
directories on the way, and is else what it was (`Extends`).
-/
import Mathlib.Data.List.Induction
import Obfuscator.Proofs.World.Way

namespace Obfuscator.World.Disk

-- ====================================================== one directory

/-- Making one directory makes it at the place of the last part, or fails
because something above is missing, or for a reason on the way, which may be
that all is there already. -/
theorem createDirectory_cases (d : Disk) (p : Path) :
    ((∀ k ∈ d.stopsAbove p, d.IsOpen k)
        ∧ ∃ m, d.lastStop p = [m] ∧ NameFits m ∧ d.lookup m = none
          ∧ d.createDirectory p = .ok (d.set m .directory))
      ∨ (d.createDirectory p = .error .notFound
        ∧ ∃ k ∈ d.stopsAbove p, d.lookup k = none)
      ∨ (∃ e, e ≠ .notFound ∧ d.createDirectory p = .error e
        ∧ ((∀ k ∈ d.stopsOf p, d.IsOpen k)
          ∨ ∃ k ∈ d.stopsOf p, d.IsBarred k)) := by
  rw [stopsOf_eq]
  unfold createDirectory
  rcases d.walkToParent_cases p with
    ⟨hopen, ⟨l, n, hwalk, hlast⟩ | ⟨l, hwalk, hlast⟩ | ⟨l, hwalk, hlast⟩⟩
    | ⟨hwalk, hmissing⟩ | ⟨e, hne, hwalk, k, hk, hbarred⟩
  · rw [hwalk, hlast]
    have hplace : n :: l ∈ d.stopsAbove p ++ [n :: l] := List.mem_concat_self
    rcases d.child_cases l n with ⟨hthere, hchild⟩ | ⟨hfits, hnone, hchild⟩
      | ⟨content, hfile, hchild⟩ | ⟨hlong, hchild⟩
    · refine .inr (.inr ⟨.alreadyExists, nofun,
        by simp only [hchild], .inl ?_⟩)
      rw [List.forall_mem_append, List.forall_mem_singleton]
      exact ⟨hopen, hthere⟩
    · exact .inl ⟨hopen, n :: l, rfl, hfits, hnone, by simp only [hchild]⟩
    · exact .inr (.inr ⟨.alreadyExists, nofun, by simp only [hchild],
        .inr ⟨_, hplace, .inr ⟨content, hfile⟩⟩⟩)
    · exact .inr (.inr ⟨.nameTooLong, nofun, by simp only [hchild],
        .inr ⟨_, hplace, .inl hlong⟩⟩)
  · rw [hwalk, hlast, List.append_nil]
    exact .inr (.inr ⟨.alreadyExists, nofun, rfl, .inl hopen⟩)
  · rw [hwalk, hlast, List.append_nil]
    exact .inr (.inr ⟨.alreadyExists, nofun, rfl, .inl hopen⟩)
  · rw [hwalk]
    exact .inr (.inl ⟨rfl, hmissing⟩)
  · rw [hwalk]
    exact .inr (.inr ⟨e, hne, rfl,
      .inr ⟨k, List.mem_append_left _ hk, hbarred⟩⟩)

-- ==================================================== more directories

/-- A disk has more directories than another, each at one of the given
places, and is else the same. -/
structure Extends (d made : Disk) (places : List Location) : Prop where
  workingDirectory : made.workingDirectory = d.workingDirectory
  lookup : ∀ m, made.lookup m = d.lookup m
    ∨ m ∈ places ∧ d.lookup m = none ∧ made.lookup m = some .directory

namespace Extends

variable {d made whole : Disk} {places more : List Location} {m : Location}

theorem refl (d : Disk) (places : List Location) : Extends d d places :=
  ⟨rfl, fun _ => .inl rfl⟩

theorem mono (h : Extends d made places) (hsub : ∀ m ∈ places, m ∈ more) :
    Extends d made more :=
  ⟨h.workingDirectory, fun m => (h.lookup m).imp_right (And.imp_left (hsub m))⟩

/-- What was extended twice was extended. -/
theorem trans (h : Extends d made places) (h' : Extends made whole places) :
    Extends d whole places := by
  refine ⟨h'.workingDirectory.trans h.workingDirectory, fun m => ?_⟩
  rcases h'.lookup m with heq | ⟨hm, hnone, hthere⟩
  · rw [heq]
    exact h.lookup m
  · refine .inr ⟨hm, ?_, hthere⟩
    rcases h.lookup m with heq | ⟨-, hfree, -⟩
    · rw [← heq, hnone]
    · exact hfree

/-- Making a directory where nothing is. -/
theorem set (h : d.lookup m = none) : Extends d (d.set m .directory) [m] := by
  have hroot : m ≠ [] := by
    rintro rfl
    cases h
  refine ⟨rfl, fun k => ?_⟩
  rw [lookup_set d hroot]
  by_cases hk : m = k
  · subst hk
    rw [if_pos rfl]
    exact .inr ⟨List.mem_singleton_self m, h, rfl⟩
  · rw [if_neg hk]
    exact .inl rfl

/-- A directory that was made can be passed. -/
theorem isOpen_set (h : d.lookup m = none) (hfits : NameFits m) :
    (d.set m .directory).IsOpen m := by
  have hroot : m ≠ [] := by
    rintro rfl
    cases h
  exact ⟨hfits, by rw [lookup_set d hroot, if_pos rfl]⟩

theorem start_eq (h : Extends d made places) (p : Path) :
    made.start p = d.start p := by
  rw [start, start, h.workingDirectory]

theorem stopsOf_eq (h : Extends d made places) (p : Path) :
    made.stopsOf p = d.stopsOf p := by
  rw [stopsOf, stopsOf, h.start_eq]

theorem stopsAbove_eq (h : Extends d made places) (p : Path) :
    made.stopsAbove p = d.stopsAbove p := by
  rw [stopsAbove, stopsAbove, h.start_eq]

theorem lastStop_eq (h : Extends d made places) (p : Path) :
    made.lastStop p = d.lastStop p := by
  rw [lastStop, lastStop, h.start_eq]

theorem isOpen (h : Extends d made places) (hm : d.IsOpen m) :
    made.IsOpen m := by
  refine ⟨hm.fits, ?_⟩
  rcases h.lookup m with heq | ⟨-, hnone, -⟩
  · rw [heq, hm.there]
  · exact absurd hm (not_isOpen_of_none hnone)

/-- No file is made, and none goes. -/
theorem lookup_file_iff (h : Extends d made places) (m : Location)
    (content : ByteArray) :
    made.lookup m = some (.file content)
      ↔ d.lookup m = some (.file content) := by
  rcases h.lookup m with heq | ⟨-, hnone, hthere⟩
  · rw [heq]
  · rw [hnone, hthere]
    exact iff_of_false nofun nofun

/-- No place is barred by a directory that is made, and none is freed. -/
theorem isBarred_iff (h : Extends d made places) :
    made.IsBarred m ↔ d.IsBarred m :=
  or_congr_right (exists_congr fun content => h.lookup_file_iff m content)

end Extends

-- ============================================================ the chain

/-- A place is a directory, or nothing is there and it is one of those where
directories are made. -/
structure CanOpen (d : Disk) (free : List Location) (m : Location) : Prop where
  fits : NameFits m
  there : d.lookup m = some .directory ∨ d.lookup m = none ∧ m ∈ free

instance (d : Disk) (free : List Location) : DecidablePred (d.CanOpen free) :=
  fun m =>
    decidable_of_iff
      (NameFits m
        ∧ (d.lookup m = some .directory ∨ d.lookup m = none ∧ m ∈ free))
      ⟨fun h => ⟨h.1, h.2⟩, fun h => ⟨h.fits, h.there⟩⟩

/-- Making directories at free places opens a way if it can be opened, and
fails if not. -/
structure MakesWay (d : Disk) (way free : List Location)
    (made : Disk × Except OsError Unit) :
    Prop where
  grows : Extends d made.1 free
  ok_iff : made.2 = .ok () ↔ ∀ m ∈ way, d.CanOpen free m
  opens : made.2 = .ok () → ∀ m ∈ way, made.1.IsOpen m

variable {d made : Disk} {way free : List Location} {m : Location} {p : Path}

/-- What is open at last could be opened. -/
theorem Extends.canOpen (h : Extends d made free) (hm : made.IsOpen m) :
    d.CanOpen free m := by
  refine ⟨hm.fits, ?_⟩
  rcases h.lookup m with heq | ⟨hfree, hnone, -⟩
  · exact .inl (heq.symm.trans hm.there)
  · exact .inr ⟨hnone, hfree⟩

/-- What can be opened can be opened with more places free. -/
theorem CanOpen.mono {more : List Location} (h : d.CanOpen more m)
    (hm : m ∈ more → m ∈ free) :
    d.CanOpen free m :=
  ⟨h.fits, h.there.imp_right (And.imp_right hm)⟩

/-- A barred place cannot be opened. -/
theorem IsBarred.not_canOpen (h : d.IsBarred m) : ¬d.CanOpen free m := by
  rintro ⟨hfits, hthere⟩
  rcases h with hlong | ⟨content, hfile⟩
  · exact hlong hfits
  · rw [hfile] at hthere
    rcases hthere with hdirectory | ⟨hnone, -⟩
    · cases hdirectory
    · cases hnone

/-- If all of a way is open at last, the way was made. -/
theorem makesWay_of_isOpen (hgrows : Extends d made free)
    (hopen : ∀ m ∈ way, made.IsOpen m) :
    MakesWay d way free (made, .ok ()) where
  grows := hgrows
  ok_iff := iff_of_true rfl fun m hm => hgrows.canOpen (hopen m hm)
  opens := fun _ => hopen

/-- If one of its places cannot be opened, the way could not be made. -/
theorem makesWay_of_not_canOpen (hgrows : Extends d made free) (e : OsError)
    (hm : m ∈ way) (h : ¬d.CanOpen free m) :
    MakesWay d way free (made, .error e) where
  grows := hgrows
  ok_iff := iff_of_false nofun fun hall => h (hall m hm)
  opens := nofun

/-- The end of a chain whose first path fails for a reason on the way. -/
theorem createChain_of_error {above : List Path} {e : OsError}
    (hne : e ≠ .notFound) (h : d.createDirectory p = .error e) :
    d.createChain (p :: above)
      = (d, if d.isDirectory p then .ok () else .error e) := by
  rw [createChain, h]
  cases e with
  | notFound => exact absurd rfl hne
  | _ => rfl

/-- The last directory of a way is made where nothing is. -/
theorem makesWay_of_set (hgrows : Extends d made free)
    (habove : ∀ k ∈ d.stopsAbove p, made.IsOpen k) (hlast : d.lastStop p = [m])
    (hfree : m ∈ free) (hfits : NameFits m) (hnone : made.lookup m = none) :
    MakesWay d (d.stopsOf p) free (made.set m .directory, .ok ()) := by
  have hset := Extends.set hnone
  refine makesWay_of_isOpen
    (hgrows.trans (hset.mono (by simpa using hfree))) ?_
  rw [stopsOf_eq, hlast, List.forall_mem_append, List.forall_mem_singleton]
  exact ⟨fun k hk => hset.isOpen (habove k hk), Extends.isOpen_set hnone hfits⟩

/-- The second attempt at a path, when the chain above has opened the places
`named`. -/
theorem makesWay_again {named : List Location}
    (hgrows : Extends d made (named ++ d.lastStop p))
    (hopens : ∀ m ∈ named, made.IsOpen m)
    (hnamed : d.lastStop p ≠ [] → ∀ m ∈ d.stopsAbove p, m ∈ named) :
    MakesWay d (d.stopsOf p) (named ++ d.lastStop p)
      (match made.createDirectory p with
        | .ok whole => (whole, .ok ())
        | .error e =>
          (made, if made.isDirectory p then .ok () else .error e)) := by
  have hdirectory := made.isDirectory_iff p
  have hcases := made.createDirectory_cases p
  rw [hgrows.stopsOf_eq] at hdirectory
  rw [hgrows.stopsOf_eq, hgrows.stopsAbove_eq, hgrows.lastStop_eq] at hcases
  rcases hcases with ⟨habove, m, hlast, hfits, hnone, hmade⟩
    | ⟨hmissing, k, hk, hnone⟩
    | ⟨e, -, herror, hopen | ⟨k, hk, hbarred⟩⟩
  · rw [hmade]
    exact makesWay_of_set hgrows habove hlast (by simp [hlast]) hfits hnone
  · -- what is still missing is not among the places that were opened,
    -- so it is nowhere named
    have hplace : k ∈ d.stopsOf p := d.stopsOf_eq p ▸ List.mem_append_left _ hk
    have hclosed : ¬made.IsOpen k := not_isOpen_of_none hnone
    have hnot : ¬made.isDirectory p = true :=
      fun h => hclosed (hdirectory.1 h k hplace)
    simp only [hmissing, if_neg hnot]
    refine makesWay_of_not_canOpen hgrows _ hplace fun hcan => ?_
    have hother : k ∉ named := fun h => hclosed (hopens k h)
    rcases hcan.there with hthere | ⟨-, hfree⟩
    · exact hclosed (hgrows.isOpen ⟨hcan.fits, hthere⟩)
    · rcases List.mem_append.1 hfree with h | h
      · exact hother h
      · exact hother (hnamed (List.ne_nil_of_mem h) k hk)
  · simp only [herror, if_pos (hdirectory.2 hopen)]
    exact makesWay_of_isOpen hgrows hopen
  · have hnot : ¬made.isDirectory p = true :=
      fun h => hbarred.not_isOpen (hdirectory.1 h k hk)
    simp only [herror, if_neg hnot]
    exact makesWay_of_not_canOpen hgrows e hk
      (hgrows.isBarred_iff.1 hbarred).not_canOpen

/-- One path on top of those above it: if the chain above opens the places
`named`, the whole opens the stops of the path, provided that they go
through the places `named`. -/
theorem makesWay_cons {above : List Path} {named : List Location}
    (h : MakesWay d named named (d.createChain above))
    (hthrough : ∀ m ∈ named, m ∈ d.stopsOf p)
    (hnamed : d.lastStop p ≠ [] → ∀ m ∈ d.stopsAbove p, m ∈ named) :
    MakesWay d (d.stopsOf p) (named ++ d.lastStop p)
      (d.createChain (p :: above)) := by
  rcases d.createDirectory_cases p with ⟨habove, m, hlast, hfits, hnone, hmade⟩
    | ⟨hmissing, -⟩
    | ⟨e, hne, herror, hopen | ⟨k, hk, hbarred⟩⟩
  · rw [createChain, hmade]
    exact makesWay_of_set (Extends.refl d _) habove hlast
      (by simp [hlast]) hfits hnone
  · -- something above is missing, so the chain above is made first
    have hgrows : Extends d (d.createChain above).1 (named ++ d.lastStop p) :=
      h.grows.mono fun m => List.mem_append_left _
    rw [createChain, hmissing]
    cases hchain : d.createChain above with
    | mk made result =>
        rw [hchain] at h hgrows
        cases result with
        | error e =>
            obtain ⟨m, hm, hnot⟩ : ∃ m ∈ named, ¬d.CanOpen named m := by
              by_contra hall
              simp only [not_exists, not_and, not_not] at hall
              cases h.ok_iff.2 hall
            exact makesWay_of_not_canOpen hgrows e (hthrough m hm)
              fun hcan => hnot (hcan.mono fun _ => hm)
        | ok u => exact makesWay_again hgrows (h.opens rfl) hnamed
  · rw [createChain_of_error hne herror,
      if_pos ((d.isDirectory_iff p).2 hopen)]
    exact makesWay_of_isOpen (Extends.refl d _) hopen
  · have hnot : ¬d.isDirectory p = true := fun hdirectory =>
      hbarred.not_isOpen ((d.isDirectory_iff p).1 hdirectory k hk)
    rw [createChain_of_error hne herror, if_neg hnot]
    exact makesWay_of_not_canOpen (Extends.refl d _) e hk hbarred.not_canOpen

-- =============================================== the directories of a path

/-- The beginnings of a longer list are those of its rest, and the first
segment alone. -/
theorem properPrefixes_cons (s : Segment) {rest : List Segment}
    (h : rest ≠ []) :
    Path.properPrefixes (s :: rest) = (Path.properPrefixes rest).map (s :: ·)
      ++ [[s]] := by
  cases rest with
  | nil => exact absurd rfl h
  | cons t more => rfl

/-- The longest beginning is the list without its last segment, and the
others are those of that. -/
theorem properPrefixes_concat (t s : Segment) (front : List Segment) :
    Path.properPrefixes (front ++ [t] ++ [s])
      = (front ++ [t]) :: Path.properPrefixes (front ++ [t]) := by
  induction front with
  | nil => rfl
  | cons r rest ih =>
      rw [List.cons_append, List.cons_append,
        properPrefixes_cons r (by simp), ih, properPrefixes_cons r (by simp)]
      rfl

/-- The directories above a way open all its stops but the last. -/
theorem makesWay_properPrefixes (d : Disk) (absolute : Bool)
    (front : List Segment) :
    ∀ s : Segment,
      MakesWay d (stops (if absolute then [] else d.workingDirectory) front)
        (stops (if absolute then [] else d.workingDirectory) front)
        (d.createChain ((Path.properPrefixes (front ++ [s])).map
          fun segments => ⟨absolute, segments, false⟩)) := by
  induction front using List.reverseRecOn with
  | nil => exact fun s => makesWay_of_isOpen (Extends.refl d _) nofun
  | append_singleton front t ih =>
      intro s
      let p : Path := ⟨absolute, front ++ [t], false⟩
      have habove : d.stopsAbove p
          = stops (if absolute then [] else d.workingDirectory) front :=
        congrArg (stops _) List.dropLast_concat
      have hpath := ih t
      rw [← habove] at hpath
      have hwhole := makesWay_cons hpath
        (fun m hm => d.stopsOf_eq p ▸ List.mem_append_left _ hm)
        (fun _ m hm => hm)
      rw [← stopsOf_eq] at hwhole
      rw [properPrefixes_concat]
      exact hwhole

/-- Without the last part, the parts that matter have the stops of all
parts, unless the last of those is a single dot. -/
theorem stops_dropLast_components {p : Path} {s : Segment}
    (hlast : p.segments.getLast? = some s) (hs : s ≠ .here) (l : Location) :
    stops l p.components.dropLast = stops l p.segments.dropLast := by
  obtain ⟨front, hfront⟩ := List.getLast?_eq_some_iff.1 hlast
  have hkept : ∀ way : List Segment,
      (way ++ [s]).filter (· ≠ .here) = way.filter (· ≠ .here) ++ [s] := by
    intro way
    rw [List.filter_append, List.filter_singleton]
    simp [hs]
  unfold Path.components
  rw [hfront, List.dropLast_concat]
  split
  · next rest _ hsegments =>
    cases front with
    | nil =>
        injection hsegments with hhere
        exact absurd hhere hs
    | cons t more =>
        rw [List.cons_append] at hsegments
        obtain ⟨rfl, rfl⟩ := List.cons.inj hsegments
        rw [hkept, ← List.cons_append, List.dropLast_concat]
        exact stops_filter more l
  · rw [hkept, List.dropLast_concat]
    exact stops_filter front l

/-- The parts that matter without the last have no stops that the path has
not. -/
theorem mem_stopsOf_of_mem_dropLast {d : Disk} {p : Path} {m : Location}
    (hm : m ∈ stops (d.start p) p.components.dropLast) : m ∈ d.stopsOf p := by
  obtain ⟨last, hwhole⟩ := List.dropLast_prefix p.components
  rw [stopsOf, ← p.stops_components, ← hwhole, stops_append]
  exact List.mem_append_left _ hm

/-- The places where directories are made for a path: those of the parts
that matter without the last, and that of the last part of all. A single dot
at the end asks for nothing to be made. -/
def madeFor (d : Disk) (p : Path) : List Location :=
  stops (d.start p) p.components.dropLast ++ d.lastStop p

/-- Directories are made on the way alone. -/
theorem mem_stopsOf_of_mem_madeFor {d : Disk} {p : Path} {m : Location}
    (hm : m ∈ d.madeFor p) :
    m ∈ d.stopsOf p := by
  rcases List.mem_append.1 hm with hm | hm
  · exact mem_stopsOf_of_mem_dropLast hm
  · rw [stopsOf_eq]
    exact List.mem_append_right _ hm

/-- A path with the directories above it opens its stops. -/
theorem makesWay_ancestors (d : Disk) (p : Path) :
    MakesWay d (d.stopsOf p) (d.madeFor p)
      (d.createChain (p :: p.ancestors)) := by
  refine makesWay_cons ?_ ?_ ?_
  · unfold Path.ancestors
    cases hlast : p.components.getLast? with
    | none =>
        rw [List.getLast?_eq_none_iff] at hlast
        rw [hlast]
        exact makesWay_of_isOpen (Extends.refl d _) nofun
    | some s =>
        obtain ⟨front, hfront⟩ := List.getLast?_eq_some_iff.1 hlast
        rw [hfront, List.dropLast_concat]
        exact makesWay_properPrefixes d p.absolute front s
  · exact fun m hm => mem_stopsOf_of_mem_dropLast hm
  · intro hname m hm
    unfold lastStop at hname
    split at hname
    · next n hlast =>
      rw [stops_dropLast_components hlast nofun]
      exact hm
    · exact absurd rfl hname

/-- A directory can be made: the text can be a path, and each stop of the
path is a directory or can become one. -/
structure CanMake (d : Disk) (text : String) : Prop where
  possible : text = "" ∨ checkText text = .ok ()
  way : ∀ m ∈ d.stopsOf (Path.ofString text),
    d.CanOpen (d.madeFor (Path.ofString text)) m

instance (d : Disk) : DecidablePred d.CanMake := fun text =>
  decidable_of_iff ((text = "" ∨ checkText text = .ok ())
      ∧ ∀ m ∈ d.stopsOf (Path.ofString text),
        d.CanOpen (d.madeFor (Path.ofString text)) m)
    ⟨fun h => ⟨h.1, h.2⟩, fun h => ⟨h.possible, h.way⟩⟩

/-- A text that can be a path has the way to it opened, and any other is
refused. -/
theorem createDirectories_cases (d : Disk) (text : String) :
    ((text = "" ∨ checkText text = .ok ())
        ∧ MakesWay d (d.stopsOf (Path.ofString text))
          (d.madeFor (Path.ofString text))
          (d.createDirectories text))
      ∨ (¬(text = "" ∨ checkText text = .ok ())
        ∧ ∃ e, d.createDirectories text = (d, .error e)) := by
  unfold createDirectories
  by_cases hempty : text = ""
  · subst hempty
    exact .inl ⟨.inl rfl, makesWay_of_isOpen (Extends.refl d _) nofun⟩
  · rw [if_neg (by simpa using hempty)]
    cases hcheck : checkText text with
    | error e => exact .inr ⟨by simp [hempty], e, rfl⟩
    | ok u => exact .inl ⟨.inr rfl, d.makesWay_ancestors _⟩

/-- Making a directory fails exactly if it cannot be made. -/
theorem createDirectories_eq_ok_iff (d : Disk) (text : String) :
    (d.createDirectories text).2 = .ok () ↔ d.CanMake text := by
  rcases d.createDirectories_cases text with ⟨hpossible, h⟩ | ⟨hnot, e, h⟩
  · rw [h.ok_iff]
    exact ⟨fun hway => ⟨hpossible, hway⟩, CanMake.way⟩
  · rw [h]
    exact iff_of_false nofun fun hcan => hnot hcan.possible

/-- Behind a single dot nothing is made. -/
example : ({} : Disk).CanMake "out/new" ∧ ¬({} : Disk).CanMake "out/." := by
  decide +kernel

/-- Whether it fails or not, making a directory adds directories on the way
and changes nothing else. -/
theorem extends_createDirectories (d : Disk) (text : String) :
    Extends d (d.createDirectories text).1
      (d.madeFor (Path.ofString text)) := by
  rcases d.createDirectories_cases text with ⟨-, h⟩ | ⟨-, e, h⟩
  · exact h.grows
  · rw [h]
    exact Extends.refl d _

end Obfuscator.World.Disk
