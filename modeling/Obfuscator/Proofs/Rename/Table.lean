/-
The table of names while a text is read.

A table is told by the lines read so far and by nothing else: which
candidates it has, in which order, under which names, and the number it goes
on with (`NamingScheme.Records`). The order is by the place where a
candidate is found, first the line and then the list of candidates
(`NamingScheme.place`). Where in a line it stands has no part in it.

# The invariant

What the lines leave is told without the search: `Records.eq_tableOf` says
that no two tables record the same lines, and `records_tableOf` that the
table of what was found in them records them. Behind the second stands the
order, by induction on the lines from the last one
(`pairwise_place_discovered`): one more line leaves the places of what is
found already and puts all that is new behind it, for nothing new has a
place in an earlier line.

So one line takes a table that records some lines to one that records this
line too (`Records.discover`), and many lines do so one by one
(`Records.renameLines`). Names are told apart by their numbers alone, so it
makes no difference how many there are.
-/
import Mathlib.Data.List.Sort
import Mathlib.Data.Prod.Lex
import Obfuscator.Proofs.Rename.Failure
import Obfuscator.Proofs.Text.Lines

namespace Obfuscator

namespace NamingScheme

variable {s : NamingScheme} {lines : List (List Char)} {line : List Char}
  {c : String}
  {t t' : NameTable}

-- =================================================== statement vocabulary

/-- The number of the first line that has an identifier somewhere; that of
the lines if none has. -/
def firstLine (lines : List (List Char)) (c : String) : Nat :=
  lines.findIdx fun line => c.toList <:+: line

/-- Where a candidate is found: in which line first, and as which of the
candidates. -/
def place (s : NamingScheme) (lines : List (List Char)) (c : String) :
    ℕ ×ₗ ℕ :=
  toLex (firstLine lines c, s.candidates.idxOf c)

/-- What a table holds when some lines were read. -/
structure Records (s : NamingScheme) (lines : List (List Char))
    (t : NameTable) : Prop where
  /-- It has the candidates that occur in a line, and nothing else. -/
  found_iff : ∀ c, c ∈ t.entries.map Assignment.identifier
    ↔ c ∈ s.candidates ∧ ∃ line ∈ lines, c.toList <:+: line
  /-- They stand in the order of their places. -/
  ordered : (t.entries.map Assignment.identifier).Pairwise fun c d =>
    s.place lines c < s.place lines d
  /-- Each is given the stem and its number in hexadecimal, of at least four
  digits. -/
  named : ∀ k a, t.entries[k]? = some a →
    a.replacement = s.stem ++ String.ofList ((Nat.toDigits 16 k).leftpad 4 '0')
  /-- Each compiles between two boundaries. -/
  compiled : ∀ a ∈ t.entries, s.Compiles a.identifier
  /-- The next number is the number of entries. -/
  counted : t.next = t.entries.length

-- =============================================================== places

/-- What occurs in some lines is found in one of them. -/
theorem firstLine_lt (h : ∃ line ∈ lines, c.toList <:+: line) :
    firstLine lines c < lines.length := by
  obtain ⟨line, hline, hoccurs⟩ := h
  exact List.findIdx_lt_length_of_exists ⟨line, hline, by simpa using hoccurs⟩

/-- Further lines do not change where it is found. -/
theorem firstLine_append (h : ∃ line ∈ lines, c.toList <:+: line)
    (more : List (List Char)) :
    firstLine (lines ++ more) c = firstLine lines c := by
  have hlt := firstLine_lt h
  unfold firstLine at hlt ⊢
  rw [List.findIdx_append, if_pos hlt]

/-- What occurs in the last line and in no other is found there. -/
theorem firstLine_concat (hnone : ¬∃ line ∈ lines, c.toList <:+: line)
    (hline : c.toList <:+: line) :
    firstLine (lines ++ [line]) c = lines.length := by
  have hend : firstLine lines c = lines.length := by
    refine List.findIdx_eq_length.2 fun l hl => ?_
    simpa using fun hoccurs => hnone ⟨l, hl, hoccurs⟩
  unfold firstLine at hend ⊢
  rw [List.findIdx_append, hend, if_neg (Nat.lt_irrefl _)]
  simp [hline]

/-- One more line adds what occurs in it and was not found before. -/
theorem discovered_concat (s : NamingScheme) (lines : List (List Char))
    (line : List Char) :
    s.discovered (lines ++ [line])
      = s.discovered lines
        ++ (s.occurring line).eraseDups.filter fun c =>
          c ∉ s.discovered lines := by
  have hold : ∀ c, (!(lines.flatMap s.occurring).elem c)
      = decide (c ∉ s.discovered lines) := by
    intro c
    rw [Bool.eq_iff_iff, Bool.not_eq_true', ← Bool.not_eq_true, List.elem_iff,
      decide_eq_true_eq, discovered, List.mem_eraseDups]
  rw [discovered, List.flatMap_append, List.flatMap_singleton,
    List.eraseDups_append, List.removeAll, eraseDups_filter, ← discovered]
  simp only [hold]

/-- Identifiers are found in the order of their places. -/
theorem pairwise_place_discovered (s : NamingScheme)
    (lines : List (List Char)) :
    (s.discovered lines).Pairwise fun c d =>
      s.place lines c < s.place lines d := by
  induction lines using List.reverseRecOn with
  | nil => exact .nil
  | append_singleton lines line ih =>
      let new := (s.occurring line).eraseDups.filter fun c =>
        c ∉ s.discovered lines
      have hold : ∀ c ∈ s.discovered lines,
          s.place (lines ++ [line]) c = s.place lines c := by
        intro c hc
        unfold place
        rw [firstLine_append (mem_discovered_iff.1 hc).2]
      have hnew : ∀ c ∈ new,
          s.place (lines ++ [line]) c
            = toLex (lines.length, s.candidates.idxOf c) := by
        intro c hc
        rw [List.mem_filter, List.mem_eraseDups, mem_occurring_iff,
          decide_eq_true_eq, mem_discovered_iff] at hc
        obtain ⟨⟨hcandidate, hoccurs⟩, hnone⟩ := hc
        unfold place
        rw [firstLine_concat (fun h => hnone ⟨hcandidate, h⟩) hoccurs]
      have hlisted : new.Pairwise fun c d =>
          s.candidates.idxOf c < s.candidates.idxOf d := by
        show ((s.occurring line).eraseDups.filter _).Pairwise _
        rw [occurring, eraseDups_filter]
        exact ((pairwise_idxOf_eraseDups s.candidates).filter _).filter _
      rw [discovered_concat, List.pairwise_append]
      refine ⟨?_, ?_, ?_⟩
      · refine ih.imp_of_mem fun {c d} hc hd hlt => ?_
        rwa [hold c hc, hold d hd]
      · refine hlisted.imp_of_mem fun {c d} hc hd hlt => ?_
        rw [hnew c hc, hnew d hd, Prod.Lex.toLex_lt_toLex]
        exact .inr ⟨rfl, hlt⟩
      · intro c hc d hd
        rw [hold c hc, hnew d hd, place, Prod.Lex.toLex_lt_toLex]
        exact .inl (firstLine_lt (mem_discovered_iff.1 hc).2)

-- ============================================================== records

/-- The table of what was found in lines records them, if all of it
compiles. -/
theorem records_tableOf (hcompile : ∀ c ∈ s.discovered lines, s.Compiles c) :
    s.Records lines (s.tableOf (s.discovered lines)) where
  found_iff c := by rw [map_identifier_tableOf, mem_discovered_iff]
  ordered := by
    rw [map_identifier_tableOf]
    exact pairwise_place_discovered s lines
  named k a h := by
    rw [tableOf, List.getElem?_mapIdx, Option.map_eq_some_iff] at h
    obtain ⟨c, -, rfl⟩ := h
    exact newName_eq s k
  compiled a ha := hcompile a.identifier (exists_of_mem_entries_tableOf ha).1
  counted := by
    show (s.discovered lines).length = _
    rw [tableOf, List.length_mapIdx]

namespace Records

/-- The candidates that occur go by their places in one order only. -/
theorem map_identifier_eq (h : s.Records lines t) :
    t.entries.map Assignment.identifier = s.discovered lines := by
  have hirrefl : Std.Irrefl fun c d => s.place lines c < s.place lines d :=
    ⟨fun c => lt_irrefl (s.place lines c)⟩
  have hantisymm : Std.Antisymm fun c d => s.place lines c < s.place lines d :=
    ⟨fun c d hcd hdc => absurd hdc (lt_asymm hcd)⟩
  refine h.ordered.eq_of_mem_iff (pairwise_place_discovered s lines)
    fun c => ?_
  rw [h.found_iff, mem_discovered_iff]

/-- Everything that was found compiles. -/
theorem compiles (h : s.Records lines t) :
    ∀ c ∈ s.discovered lines, s.Compiles c := by
  intro c hc
  rw [← h.map_identifier_eq, List.mem_map] at hc
  obtain ⟨a, ha, rfl⟩ := hc
  exact h.compiled a ha

/-- An entry has the new name of its place. -/
theorem replacement_eq (h : s.Records lines t) {k : Nat} {a : Assignment}
    (ha : t.entries[k]? = some a) : a.replacement = s.newName k := by
  rw [newName_eq]
  exact h.named k a ha

/-- The lines that were read settle the table. -/
theorem eq_tableOf (h : s.Records lines t) :
    t = s.tableOf (s.discovered lines) := by
  have hentries : t.entries = (s.tableOf (s.discovered lines)).entries := by
    rw [← h.map_identifier_eq]
    refine List.ext_getElem? fun k => ?_
    rw [tableOf, List.getElem?_mapIdx, List.getElem?_map]
    cases hk : t.entries[k]? with
    | none => rfl
    | some a =>
        show some a = some ⟨a.identifier, s.newName k⟩
        rw [← h.replacement_eq hk]
  have hnext : t.next = (s.tableOf (s.discovered lines)).next := by
    rw [h.counted, ← h.map_identifier_eq]
    exact (List.length_map _).symm
  cases t
  cases hentries
  cases hnext
  rfl

/-- No candidate is in a table twice. -/
theorem nodup_identifiers (h : s.Records lines t) :
    (t.entries.map Assignment.identifier).Nodup := by
  rw [h.map_identifier_eq]
  exact nodup_eraseDups _

/-- No name is in a table twice. -/
theorem nodup_replacements (h : s.Records lines t) :
    (t.entries.map Assignment.replacement).Nodup := by
  refine List.pairwise_iff_getElem.2 fun i j hi hj hij heq => ?_
  rw [List.length_map] at hi hj
  rw [List.getElem_map, List.getElem_map,
    h.replacement_eq (List.getElem?_eq_getElem hi),
    h.replacement_eq (List.getElem?_eq_getElem hj)] at heq
  exact absurd (newName_injective s heq) (Nat.ne_of_lt hij)

/-- Before the first line there is nothing in a table. -/
theorem nil (s : NamingScheme) : s.Records [] {} := by
  have hnothing : ∀ c ∈ s.discovered [], s.Compiles c := by simp [discovered]
  exact records_tableOf hnothing

-- ============================================================= one line

/-- One more line is recorded by the search for what is in it. -/
theorem discover (h : s.Records lines t)
    (hline : s.discover line s.candidates t = .ok t') :
    s.Records (lines ++ [line]) t' := by
  have hcompile : ∀ c ∈ lines.flatMap s.occurring, s.Compiles c :=
    fun c hc => h.compiles c (List.mem_eraseDups.2 hc)
  have hmore : (lines ++ [line]).flatMap s.occurring
      = lines.flatMap s.occurring ++ s.occurring line := by
    rw [List.flatMap_append, List.flatMap_singleton]
  rw [h.eq_tableOf, discovered, discover_tableOf line s.candidates _ hcompile,
    ← occurring, ← hmore] at hline
  cases hrefused : s.firstRefusal? (s.occurring line) with
  | some e =>
      rw [hrefused] at hline
      cases hline
  | none =>
      rw [hrefused] at hline
      obtain rfl := Except.ok.inj hline
      refine records_tableOf fun c hc => ?_
      rw [discovered, List.mem_eraseDups, hmore, List.mem_append] at hc
      exact hc.elim (hcompile c) (firstRefusal?_eq_none_iff.1 hrefused c)

end Records

-- ============================================================= all lines

variable {rest before after more out : List (List Char)}

/-- What lines that are renamed do one after the other. -/
theorem exists_of_renameLines_cons_eq_ok
    (h : s.renameLines (line :: rest) t = .ok (out, t')) :
    ∃ t₁ more, s.discover line s.candidates t = .ok t₁
      ∧ s.renameLines rest t₁ = .ok (more, t')
        ∧ out = s.renameLine t₁ line :: more := by
  rw [renameLines] at h
  cases hline : s.discover line s.candidates t with
  | error e =>
      rw [hline] at h
      cases h
  | ok t₁ =>
      simp only [hline] at h
      cases hrest : s.renameLines rest t₁ with
      | error e =>
          rw [hrest] at h
          cases h
      | ok next =>
          rw [hrest] at h
          cases h
          exact ⟨t₁, _, rfl, hrest, rfl⟩

/-- Lines that are renamed may be parted anywhere, and the table is handed
over. -/
theorem exists_of_renameLines_append_eq_ok
    (h : s.renameLines (before ++ after) t = .ok (out, t')) :
    ∃ first t₁ more, s.renameLines before t = .ok (first, t₁)
      ∧ s.renameLines after t₁ = .ok (more, t') ∧ out = first ++ more := by
  induction before generalizing t out with
  | nil => exact ⟨[], t, out, rfl, h, rfl⟩
  | cons line rest ih =>
      obtain ⟨t₁, next, hline, hnext, rfl⟩ :=
        exists_of_renameLines_cons_eq_ok h
      obtain ⟨first, t₂, more, hfirst, hmore, rfl⟩ := ih hnext
      refine ⟨s.renameLine t₁ line :: first, t₂, more, ?_, hmore, rfl⟩
      simp only [renameLines, hline, hfirst]

/-- Further lines are recorded one by one. -/
theorem Records.renameLines (h : s.Records lines t)
    (hmore : s.renameLines more t = .ok (out, t')) :
    s.Records (lines ++ more) t' := by
  induction more generalizing lines t out with
  | nil =>
      cases hmore
      rwa [List.append_nil]
  | cons line rest ih =>
      obtain ⟨t₁, next, hline, hnext, -⟩ :=
        exists_of_renameLines_cons_eq_ok hmore
      rw [List.append_cons]
      exact ih (h.discover hline) hnext

/-- A renaming goes over the lines of a text with an empty table. -/
theorem exists_renameLines_of_rename_eq_ok {text : String} {r : Renaming}
    (h : s.rename text = .ok r) :
    ∃ out, s.renameLines (Text.splitLines text.toList) {} = .ok (out, r.table)
      ∧ r.text = .ofList (Text.joinLines out) := by
  unfold rename at h
  cases hlines : s.renameLines (Text.splitLines text.toList) {} with
  | error e =>
      rw [hlines] at h
      cases h
  | ok next =>
      rw [hlines] at h
      cases h
      exact ⟨next.1, rfl, rfl⟩

/-- While a text is renamed, the table that one line hands to the next has
the candidates that occur in the lines read so far, each of them once, by
the line that has them first and then by their place among the candidates.
Their names are numbered from zero in this order, the next number is how
many there are, and no name is there twice, not even where numbers are too
long for four digits. -/
theorem table_after_lines {text : String} {r : Renaming}
    (h : s.rename text = .ok r) (n : Nat) :
    ∃ out more t,
      s.renameLines ((Text.splitLines text.toList).take n) {} = .ok (out, t)
      ∧ s.renameLines ((Text.splitLines text.toList).drop n) t
        = .ok (more, r.table)
      ∧ r.text = .ofList (Text.joinLines (out ++ more))
      ∧ s.Records ((Text.splitLines text.toList).take n) t
      ∧ (t.entries.map Assignment.identifier).Nodup
      ∧ (t.entries.map Assignment.replacement).Nodup
      ∧ ∀ k a, t.entries[k]? = some a →
          (a.replacement.length = s.stem.length + 4 ↔ k ≤ 0xffff) := by
  obtain ⟨all, hall, htext⟩ := exists_renameLines_of_rename_eq_ok h
  rw [← List.take_append_drop n (Text.splitLines text.toList)] at hall
  obtain ⟨out, t, more, hbefore, hafter, rfl⟩ :=
    exists_of_renameLines_append_eq_ok hall
  have hrecords := (Records.nil s).renameLines hbefore
  rw [List.nil_append] at hrecords
  refine ⟨out, more, t, hbefore, hafter, htext, hrecords,
    hrecords.nodup_identifiers, hrecords.nodup_replacements, fun k a ha => ?_⟩
  rw [hrecords.replacement_eq ha]
  exact length_newName_eq_iff s k

/-- The lines come before the candidates, and a candidate that is listed
twice has one name. -/
example :
    let s : NamingScheme :=
      { candidates := ["value", "data", "value", "lue"], stem := "_0x",
        boundary := "" }
    let lines := ["lue = 1".toList, "data = value".toList]
    (s.renameLines lines {}).toOption.map (·.2)
      = some ⟨[⟨"lue", "_0x0000"⟩, ⟨"value", "_0x0001"⟩, ⟨"data", "_0x0002"⟩],
          3⟩ := by
  decide +kernel

-- ======================================================== a long table

/-- A scheme with so many candidates, each of them a piece of the next. -/
def ladderScheme (n : Nat) : NamingScheme where
  candidates := (List.range n).map fun k =>
    String.ofList (List.replicate k 'a')
  stem := "_0x"
  boundary := ""

/-- A text of one line that has all of these candidates. -/
def ladderText (n : Nat) : String := String.ofList (List.replicate n 'a')

theorem splitLines_ladderText (n : Nat) :
    Text.splitLines (ladderText n).toList = [List.replicate n 'a'] := by
  have hno : '\n' ∉ List.replicate n 'a' := by
    intro h
    exact absurd (List.eq_of_mem_replicate h) (by decide)
  rw [ladderText, String.toList_ofList, Text.splitLines_of_notMem hno]

/-- A ladder is renamed without a fault. -/
theorem exists_rename_ladderText (n : Nat) :
    ∃ r, (ladderScheme n).rename (ladderText n) = .ok r := by
  have hanywhere : Boundary.ofPattern? "" = some .anywhere := by decide
  exact exists_rename_eq_ok (fun c _ => compiles_of_standard rfl hanywhere c)
    (ladderText n)

/-- All of the candidates are found, so there are tables of every length. -/
theorem discovered_ladderText (n : Nat) :
    (ladderScheme n).discovered
    [List.replicate n 'a'] = (ladderScheme n).candidates := by
  have hall : (ladderScheme n).occurring (List.replicate n 'a')
      = (ladderScheme n).candidates := by
    refine List.filter_eq_self.2 fun c hc => ?_
    obtain ⟨k, hk, rfl⟩ := List.mem_map.1 hc
    have hsplit : List.replicate n 'a'
        = List.replicate k 'a' ++ List.replicate (n - k) 'a' := by
      rw [List.replicate_append_replicate,
        Nat.add_sub_of_le (List.mem_range.1 hk).le]
    rw [decide_eq_true_eq, String.toList_ofList, hsplit]
    exact (List.prefix_append _ _).isInfix
  have hnodup : (ladderScheme n).candidates.Nodup := by
    refine List.Nodup.map (fun j k h => ?_) List.nodup_range
    have hlength := congrArg String.length h
    rwa [String.length_ofList, String.length_ofList, List.length_replicate,
      List.length_replicate] at hlength
  rw [discovered, List.flatMap_singleton, hall, eraseDups_of_nodup hnodup]

/-- A table that goes one beyond the numbers of four digits. -/
theorem table_after_lines_ladderText :
    ∃ r out t, (ladderScheme 0x10001).rename (ladderText 0x10001) = .ok r
      ∧ (ladderScheme 0x10001).renameLines [List.replicate 0x10001 'a'] {}
        = .ok (out, t)
      ∧ t.next = 0x10001
      ∧ (t.entries.map Assignment.replacement).Nodup
      ∧ ∃ a, t.entries[0x10000]? = some a ∧ a.replacement = "_0x10000" := by
  obtain ⟨r, hr⟩ := exists_rename_ladderText 0x10001
  obtain ⟨out, -, t, hscan, -, -, hrecords, -, hnodup, -⟩ :=
    table_after_lines hr 1
  rw [splitLines_ladderText, List.take_of_length_le (Nat.le_refl 1)]
    at hscan hrecords
  have hlength : t.entries.length = 0x10001 := by
    rw [← List.length_map (f := Assignment.identifier),
      hrecords.map_identifier_eq, discovered_ladderText, ladderScheme,
      List.length_map, List.length_range]
  have hlast : 0x10000 < t.entries.length := by omega
  have hentry : t.entries[0x10000]? = some t.entries[0x10000] :=
    List.getElem?_eq_getElem hlast
  refine ⟨r, out, t, hr, hscan,
    by rw [hrecords.counted, hlength], hnodup, _, hentry, ?_⟩
  rw [hrecords.named 0x10000 _ hentry]
  decide

end NamingScheme

end Obfuscator
