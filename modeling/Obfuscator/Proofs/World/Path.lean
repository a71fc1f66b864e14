/-
Where the path of a name inside a directory leads.

`Path.join` works on texts and has three cases: no directory, a directory
whose text ends in a slash, and any other. Read as paths the three come to
the same: the parts of the directory and then the name (`ofString_join`).
For that the name must be one part that means itself, which is what `IsName`
says. Two names in one directory are then two paths (`join_injective`). The
file name of a path is its last part, so there is no slash in it.
-/
import Mathlib.Data.List.Basic
import Obfuscator.World.Path

namespace Obfuscator.World

-- ==================================================== the parts of a text

/-- Text without a slash is one part. -/
theorem splitSlash_of_notMem :
    ∀ l : List Char, '/' ∉ l → splitSlash l = [l] := by
  intro l
  induction l with
  | nil => intro _; rfl
  | cons c rest ih =>
      intro hl
      rw [List.mem_cons, not_or] at hl
      have hc : c ≠ '/' := fun hc => hl.1 hc.symm
      rw [splitSlash, if_neg hc, ih hl.2]

/-- A text has at least one part. -/
theorem splitSlash_ne_nil : ∀ l : List Char, splitSlash l ≠ [] := by
  intro l
  cases l with
  | nil => exact List.cons_ne_nil _ _
  | cons c rest =>
      rw [splitSlash]
      split
      · exact List.cons_ne_nil _ _
      · split
        · exact List.cons_ne_nil _ _
        · exact List.cons_ne_nil _ _

/-- A slash ends one part and begins the next. -/
theorem splitSlash_append_slash (b : List Char) :
    ∀ a : List Char, splitSlash (a ++ '/' :: b)
      = splitSlash a ++ splitSlash b := by
  intro a
  induction a with
  | nil => rfl
  | cons c rest ih =>
      by_cases hc : c = '/'
      · rw [List.cons_append, splitSlash, if_pos hc, splitSlash, if_pos hc, ih]
        rfl
      · rw [List.cons_append, splitSlash, if_neg hc, splitSlash, if_neg hc, ih]
        cases hparts : splitSlash rest with
        | nil => exact absurd hparts (splitSlash_ne_nil rest)
        | cons part parts => rfl

/-- No part has a slash in it. -/
theorem slash_notMem_of_mem_splitSlash :
    ∀ (l : List Char), ∀ part ∈ splitSlash l, '/' ∉ part := by
  intro l
  induction l with
  | nil => simp [splitSlash]
  | cons c rest ih =>
      intro part hpart
      rw [splitSlash] at hpart
      by_cases hc : c = '/'
      · rw [if_pos hc, List.mem_cons] at hpart
        rcases hpart with rfl | hpart
        · exact List.not_mem_nil
        · exact ih part hpart
      · rw [if_neg hc] at hpart
        cases hparts : splitSlash rest with
        | nil => exact absurd hparts (splitSlash_ne_nil rest)
        | cons first parts =>
            rw [hparts] at hpart ih
            rcases List.mem_cons.1 hpart with rfl | hpart
            · rw [List.mem_cons, not_or]
              exact ⟨fun h => hc h.symm, ih first List.mem_cons_self⟩
            · exact ih part (List.mem_cons_of_mem first hpart)

-- ================================================================= names

/-- A text that is one part of a path and means itself: no slash is in it,
and it is neither empty nor made of one or two dots. -/
structure Path.IsName (n : String) : Prop where
  noSlash : '/' ∉ n.toList
  ofPart : Segment.ofPart? n.toList = some (.name n)

/-- Any part longer than two characters means itself. -/
theorem Segment.ofPart?_of_length {n : String} (h : 2 < n.toList.length) :
    Segment.ofPart? n.toList = some (.name n) := by
  unfold Segment.ofPart?
  split
  · next heq => rw [heq] at h; simp at h
  · next heq => rw [heq] at h; simp at h
  · next heq => rw [heq] at h; simp at h
  · rw [String.ofList_toList]

/-- A part that means a name is that name. -/
theorem Segment.eq_of_ofPart?_eq_name {part : List Char} {n : String}
    (h : Segment.ofPart? part = some (.name n)) : n.toList = part := by
  unfold Segment.ofPart? at h
  split at h
  · cases h
  · cases h
  · cases h
  · cases h
    exact String.toList_ofList

namespace Path

/-- A name is no path from the root. -/
theorem IsName.isAbsolute_eq_false {n : String} (h : IsName n) :
    isAbsolute n = false := by
  unfold isAbsolute
  rw [decide_eq_false_iff_not]
  intro hhead
  exact h.noSlash (List.mem_of_head? hhead)

theorem IsName.toList_ne_nil {n : String} (h : IsName n) : n.toList ≠ [] := by
  intro hnil
  have hpart := h.ofPart
  rw [hnil] at hpart
  cases hpart

/-- The path of a text in which a name stands behind a slash. -/
theorem ofString_of_toList {n : String} (h : IsName n) {text : String}
    {l : List Char} (ht : text.toList = l ++ '/' :: n.toList) :
    ofString text
      = { absolute := (l ++ ['/']).head? = some '/'
          segments := (splitSlash l).filterMap Segment.ofPart? ++ [.name n]
          directoryOnly := false } := by
  have hhead : text.toList.head? = (l ++ ['/']).head? := by
    rw [ht]
    cases l with
    | nil => rfl
    | cons c rest => rfl
  have hsegments : (splitSlash text.toList).filterMap Segment.ofPart?
      = (splitSlash l).filterMap Segment.ofPart? ++ [.name n] := by
    rw [ht, splitSlash_append_slash, splitSlash_of_notMem _ h.noSlash,
      List.filterMap_append]
    simp [h.ofPart]
  have hlast : text.toList.getLast? ≠ some '/' := by
    rw [ht, List.append_cons, List.getLast?_append_of_ne_nil _ h.toList_ne_nil]
    exact fun hlast => h.noSlash (List.mem_of_getLast? hlast)
  unfold ofString
  rw [hhead, hsegments, decide_eq_false hlast]

/-- A slash at the end adds no part. -/
theorem filterMap_splitSlash_concat (l : List Char) :
    (splitSlash (l ++ ['/'])).filterMap Segment.ofPart?
      = (splitSlash l).filterMap Segment.ofPart? := by
  rw [splitSlash_append_slash, List.filterMap_append]
  exact List.append_nil _

/-- The path of a name inside a directory has the parts of the directory and
then the name. -/
theorem ofString_join {n : String} (h : IsName n) (directory : String) :
    ofString (join directory n)
      = { absolute := (ofString directory).absolute
          segments := (ofString directory).segments ++ [.name n]
          directoryOnly := false } := by
  unfold join
  rw [h.isAbsolute_eq_false]
  by_cases hempty : directory = ""
  · subst hempty
    have hhead : n.toList.head? ≠ some '/' :=
      fun hhead => h.noSlash (List.mem_of_head? hhead)
    have hlast : n.toList.getLast? ≠ some '/' :=
      fun hlast => h.noSlash (List.mem_of_getLast? hlast)
    have hnone : false = true ∨ "".isEmpty = true := by decide
    rw [if_pos hnone]
    unfold ofString
    rw [splitSlash_of_notMem _ h.noSlash, decide_eq_false hhead,
      decide_eq_false hlast, List.filterMap_cons, h.ofPart]
    rfl
  · have hnot : ¬(false = true ∨ directory.isEmpty = true) := by simp [hempty]
    rw [if_neg hnot]
    by_cases hslash : directory.toList.getLast? = some '/'
    · obtain ⟨l, hl⟩ := List.getLast?_eq_some_iff.1 hslash
      have htext : (directory ++ n).toList = l ++ '/' :: n.toList := by
        rw [String.toList_append, hl, List.append_assoc]
        rfl
      rw [if_pos hslash, ofString_of_toList h htext, ofString, hl,
        filterMap_splitSlash_concat]
    · have htext : (directory ++ "/" ++ n).toList
        = directory.toList ++ '/' :: n.toList := by
        rw [String.toList_append, String.toList_append, List.append_assoc]
        rfl
      have hhead : (directory.toList ++ ['/']).head?
          = directory.toList.head? :=
        List.head?_append_of_ne_nil _ (by simpa using hempty)
      rw [if_neg hslash, ofString_of_toList h htext, hhead]
      rfl

/-- Two names in one directory have two paths. -/
theorem join_injective {directory m n : String} (hm : IsName m) (hn : IsName n)
    (h : join directory m = join directory n) : m = n := by
  have hpath := ofString_join hm directory
  rw [h, ofString_join hn directory] at hpath
  have hsegments := congrArg Path.segments hpath
  have hname := List.append_cancel_left hsegments
  injection hname with hname
  injection hname with hname
  exact hname.symm

-- ============================================================ file names

theorem mem_segments_of_mem_components {p : Path} {s : Segment}
    (h : s ∈ p.components) :
    s ∈ p.segments := by
  unfold components at h
  split at h
  · next rest _ hsegments =>
    rw [hsegments]
    rcases List.mem_cons.1 h with rfl | h
    · exact List.mem_cons_self
    · exact List.mem_cons_of_mem _ (List.mem_of_mem_filter h)
  · exact List.mem_of_mem_filter h

/-- A file name has no slash in it. -/
theorem slash_notMem_of_fileName? {text n : String}
    (h : fileName? text = some n) :
    '/' ∉ n.toList := by
  unfold fileName? at h
  split at h
  · next n' hlast =>
    obtain rfl : n' = n := Option.some.inj h
    have hsegment :=
      mem_segments_of_mem_components (List.mem_of_getLast? hlast)
    obtain ⟨part, hpart, hname⟩ := List.mem_filterMap.1 hsegment
    rw [Segment.eq_of_ofPart?_eq_name hname]
    exact slash_notMem_of_mem_splitSlash _ part hpart
  · cases h

/-- A path whose last part is a name has that file name. -/
theorem fileName?_of_getLast? {text n : String}
    (h : (ofString text).segments.getLast? = some (.name n)) :
    fileName? text = some n := by
  obtain ⟨before, hbefore⟩ := List.getLast?_eq_some_iff.1 h
  have hkept : ∀ front : List Segment,
    ((front ++ [Segment.name n]).filter (· ≠ Segment.here)).getLast?
      = some (.name n) := by
    intro front
    rw [List.filter_append]
    exact List.getLast?_concat
  have hlast : (ofString text).components.getLast? = some (.name n) := by
    unfold components
    split
    · next rest _ hsegments =>
      rw [hbefore] at hsegments
      cases before with
      | nil => cases hsegments
      | cons s front =>
          rw [List.cons_append] at hsegments
          obtain ⟨-, rfl⟩ := List.cons.inj hsegments
          rw [List.getLast?_cons, hkept front]
          rfl
    · rw [hbefore]
      exact hkept before
  unfold fileName?
  rw [hlast]

end Path

end Obfuscator.World
