/-
Renaming as one substitution of whole words.

A renaming looks for its candidates anywhere in a line, and puts the names
that it has by then into the line one after the other. With the word
boundary over ASCII, and words for candidates, all of that comes to one
thing: every word of the text that is a candidate becomes the new name with
the number under which it was found, and nothing else is touched.

# The engine

Putting in one name is a function on words (`Matching.lean`), and so is one
after the other (`Words.lean`). A name that was put in is not changed again
if no candidate stands in it as a word; that is the only thing asked of the
new names, and the induction is on the names of the table
(`foldl_apply_mapIdx`). What is left is that a line does without the names
which are found later: a candidate that is a word of the line occurs in the
line, so it has its name by then (`mem_occurring_of_mem_words`), and keeps
its number.
-/
import Obfuscator.Proofs.Rename.Failure
import Obfuscator.Proofs.Rename.Matching

namespace Obfuscator

open Text (IsWord words mapWords)

namespace NamingScheme

-- =============================================================== schemes

/-- A scheme that looks for words: its candidates are words, its boundary
pattern is the word boundary over ASCII, and its engine takes that pattern
for what it is. -/
structure SeeksWords (s : NamingScheme) : Prop where
  candidates : ∀ c ∈ s.candidates, IsWord c.toList
  boundary : s.boundary = "(?-u:\\b)"
  engine : s.engine.Seeks "(?-u:\\b)" .asciiWord

/-- No candidate stands as a word in a new name that may be given. -/
def NamesKeepClear (s : NamingScheme) : Prop :=
  ∀ k < s.candidates.eraseDups.length, ∀ w ∈ words (s.newName k).toList,
    String.ofList w ∉ s.candidates

instance : DecidablePred NamesKeepClear := fun s =>
  inferInstanceAs (Decidable (∀ k < s.candidates.eraseDups.length, _))

/-- What becomes of a word if these identifiers are found in this order: a
candidate becomes the new name with the number of its place, and any other
word stays. -/
def renamed (s : NamingScheme) (names : List String) (w : List Char) :
    List Char :=
  if String.ofList w ∈ s.candidates then
    (s.newName (names.idxOf (String.ofList w))).toList
  else w

variable {s : NamingScheme} {c : String} {line : List Char}

-- ============================================================= new names

/-- Behind a stem of word characters, a number makes a word. -/
theorem isWord_newName (hstem : ∀ a ∈ s.stem.toList, isAsciiWord a = true)
    (k : Nat) :
    IsWord (s.newName k).toList := by
  refine ⟨s.toList_newName_ne_nil k, fun a ha => ?_⟩
  rw [toList_newName] at ha
  rcases List.mem_append.1 ha with ha | ha
  · exact hstem a ha
  · exact Text.isAsciiWord_of_isLowerHexDigit
      (Text.isLowerHexDigit_of_mem_hexPadded ha)

/-- A new name that is a word has no other word in it. -/
theorem namesKeepClear_of_notMem
    (hstem : ∀ a ∈ s.stem.toList, isAsciiWord a = true)
    (hno : ∀ k < s.candidates.eraseDups.length, s.newName k ∉ s.candidates) :
    s.NamesKeepClear := by
  intro k hk w hw
  rw [(isWord_newName hstem k).words_eq, List.mem_singleton] at hw
  rw [hw, String.ofList_toList]
  exact hno k hk

-- ================================================================ one line

/-- Every candidate compiles, and all its places are replaced. -/
theorem SeeksWords.exists_compile (h : s.SeeksWords) (hc : c ∈ s.candidates) :
    ∃ put, s.compile c = .ok put
      ∧ ∀ new line, Boundary.asciiWord.ReplacesAll c.toList new [] line
        (put new line) := by
  rw [compile, h.boundary]
  exact h.engine c (h.candidates c hc)

theorem SeeksWords.compiles (h : s.SeeksWords) (hc : c ∈ s.candidates) :
    s.Compiles c := by
  obtain ⟨put, hput, -⟩ := h.exists_compile hc
  exact ⟨put, hput⟩

/-- Putting in one name replaces one word. -/
theorem SeeksWords.apply_eq_mapWords (h : s.SeeksWords) (hc : c ∈ s.candidates)
    (new : String) (line : List Char) :
    s.apply line ⟨c, new⟩
      = mapWords (fun w => if w = c.toList then new.toList else w) line := by
  obtain ⟨put, hput, hall⟩ := h.exists_compile hc
  rw [apply, hput]
  exact (hall new.toList line).eq_mapWords (h.candidates c hc)
    (.inl Text.endsApart_nil)

/-- Putting in names one after the other replaces words at once, if none of
them stands as a word in a name. -/
theorem SeeksWords.foldl_apply_mapIdx (h : s.SeeksWords) :
    ∀ (names : List String) (new : Nat → String) (line : List Char),
      (∀ c ∈ names, c ∈ s.candidates) →
      (∀ k < names.length, ∀ w ∈ words (new k).toList,
        String.ofList w ∉ names) →
        (names.mapIdx fun k c => (⟨c, new k⟩ : Assignment)).foldl s.apply line
          = mapWords (fun w =>
              if String.ofList w ∈ names then
                (new (names.idxOf (String.ofList w))).toList
              else w) line := by
  intro names
  induction names with
  | nil =>
      intro new line _ _
      exact (Text.mapWords_eq_self fun w _ => if_neg List.not_mem_nil).symm
  | cons c rest ih =>
      intro new line hnames hclear
      obtain ⟨hc, hrest⟩ := List.forall_mem_cons.1 hnames
      have hlater : ∀ k < rest.length, ∀ w ∈ words (new (k + 1)).toList,
          String.ofList w ∉ rest := by
        intro k hk w hw hmem
        exact hclear (k + 1) (Nat.succ_lt_succ hk) w hw
          (List.mem_cons_of_mem c hmem)
      rw [List.mapIdx_cons, List.foldl_cons, h.apply_eq_mapWords hc,
        ih (fun k => new (k + 1)) _ hrest hlater, Text.mapWords_mapWords]
      refine Text.mapWords_congr fun w hw => ?_
      by_cases hwc : w = c.toList
      · -- the name that was put in is left alone by the others
        subst hwc
        rw [if_pos rfl, String.ofList_toList, if_pos List.mem_cons_self,
          List.idxOf_cons_self]
        refine Text.mapWords_eq_self fun v hv => if_neg fun hmem => ?_
        exact hclear 0 (Nat.zero_lt_succ _) v hv (List.mem_cons_of_mem c hmem)
      · have hne : c ≠ String.ofList w := by
          rintro rfl
          exact hwc String.toList_ofList.symm
        rw [if_neg hwc, (Text.isWord_of_mem_words hw).mapWords_eq,
          List.idxOf_cons_ne _ hne]
        simp only [List.mem_cons, hne.symm, false_or]

/-- A candidate that is a word of a line is found in it. -/
theorem mem_occurring_of_mem_words {w : List Char} (hw : w ∈ words line)
    (hc : String.ofList w ∈ s.candidates) :
    String.ofList w ∈ s.occurring line := by
  refine mem_occurring_iff.2 ⟨hc, ?_⟩
  rw [String.toList_ofList]
  exact Text.infix_of_mem_words hw

/-- A line is renamed as the whole text is, as soon as it was searched. -/
theorem SeeksWords.renameLine_tableOf (h : s.SeeksWords)
    (hclear : s.NamesKeepClear) {seen : List String}
    (hseen : ∀ c ∈ seen, c ∈ s.candidates) (line : List Char)
    (more : List String) :
    s.renameLine (s.tableOf (seen ++ s.occurring line).eraseDups) line
      = mapWords (s.renamed (seen ++ s.occurring line ++ more).eraseDups)
        line := by
  have hfound : ∀ c ∈ (seen ++ s.occurring line).eraseDups,
      c ∈ s.candidates := by
    intro c hc
    exact mem_candidates_of_mem_append_occurring hseen c
      (List.mem_eraseDups.1 hc)
  have hlength : (seen ++ s.occurring line).eraseDups.length
      ≤ s.candidates.eraseDups.length :=
    length_eraseDups_le_candidates fun c hc =>
      hfound c (List.mem_eraseDups.2 hc)
  have hnames : ∀ k < (seen ++ s.occurring line).eraseDups.length,
      ∀ w ∈ words (s.newName k).toList,
        String.ofList w ∉ (seen ++ s.occurring line).eraseDups :=
    fun k hk w hw hmem => hclear k (hk.trans_le hlength) w hw (hfound _ hmem)
  refine (h.foldl_apply_mapIdx _ s.newName line hfound hnames).trans ?_
  refine Text.mapWords_congr fun w hw => ?_
  rw [renamed]
  by_cases hc : String.ofList w ∈ s.candidates
  · have hmem : String.ofList w ∈ seen ++ s.occurring line :=
      List.mem_append_right seen (mem_occurring_of_mem_words hw hc)
    rw [if_pos hc, if_pos (List.mem_eraseDups.2 hmem),
      idxOf_eraseDups_append hmem]
  · rw [if_neg hc, if_neg fun hmem => hc (hfound _ hmem)]

-- =============================================================== the text

/-- All lines are renamed as one text is. -/
theorem SeeksWords.renamedLines_eq (h : s.SeeksWords)
    (hclear : s.NamesKeepClear) :
    ∀ (lines : List (List Char)) (seen : List String),
      (∀ c ∈ seen, c ∈ s.candidates) →
      s.renamedLines seen lines
        = lines.map (mapWords (s.renamed
          (seen ++ lines.flatMap s.occurring).eraseDups)) := by
  intro lines
  induction lines with
  | nil =>
      intro seen _
      rfl
  | cons line rest ih =>
      intro seen hseen
      rw [renamedLines, h.renameLine_tableOf hclear hseen line
        (rest.flatMap s.occurring),
        ih _ (mem_candidates_of_mem_append_occurring hseen), List.flatMap_cons,
        List.map_cons,
        ← List.append_assoc]

/-- A candidate that is a word of a text is found in it. -/
theorem mem_discovered_of_mem_words {text w : List Char} (hw : w ∈ words text)
    (hc : String.ofList w ∈ s.candidates) :
    String.ofList w ∈ s.discovered (Text.splitLines text) := by
  rw [← Text.joinLines_splitLines text, Text.words_joinLines] at hw
  obtain ⟨line, hline, hw⟩ := List.mem_flatMap.1 hw
  exact List.mem_eraseDups.2 (List.mem_flatMap.2 ⟨line, hline,
    mem_occurring_of_mem_words hw hc⟩)

/-- What a renaming that looks for words gives. -/
theorem SeeksWords.exists_rename_eq_ok (h : s.SeeksWords)
    (hclear : s.NamesKeepClear) (text : String) :
    ∃ r, s.rename text = .ok r ∧ r.text.toList
      = mapWords (s.renamed (s.discovered (Text.splitLines text.toList)))
        text.toList := by
  obtain ⟨r, hr⟩ :=
    NamingScheme.exists_rename_eq_ok (fun _ hc => h.compiles hc) text
  obtain ⟨-, htext, -⟩ := rename_eq_ok_iff.1 hr
  refine ⟨r, hr, ?_⟩
  rw [htext, String.toList_ofList, h.renamedLines_eq hclear _ [] (by simp),
    ← Text.mapWords_joinLines, Text.joinLines_splitLines]
  rfl

/-- Whatever text is renamed, and whatever stands between its words: every
word that is a candidate becomes the new name with the number of its place
among the identifiers found, and it was found. Those are the identifiers
that have a name in the end, in the order of their names. -/
theorem rename_whole_words (h : s.SeeksWords) (hclear : s.NamesKeepClear)
    (text : String) :
    let names := s.discovered (Text.splitLines text.toList)
    ∃ r, s.rename text = .ok r
      ∧ r.text.toList = mapWords (s.renamed names) text.toList
      ∧ (∀ w ∈ words text.toList, String.ofList w ∈ s.candidates →
        String.ofList w ∈ names)
      ∧ r.table = s.tableOf names := by
  intro names
  obtain ⟨r, hr, hout⟩ := h.exists_rename_eq_ok hclear text
  exact ⟨r, hr, hout, fun w hw hc => mem_discovered_of_mem_words hw hc,
    table_of_rename_eq_ok hr⟩

/-- A scheme with a candidate inside another one, one that is listed twice,
and a stem that is more than a word. -/
def trialScheme : NamingScheme where
  candidates := ["value", "data", "lue", "value"]
  stem := "$0-x"
  boundary := "(?-u:\\b)"

theorem seeksWords_trialScheme : trialScheme.SeeksWords :=
  ⟨by decide, rfl, PatternEngine.seeks_standard (by decide)⟩

theorem namesKeepClear_trialScheme : trialScheme.NamesKeepClear := by
  decide +kernel

/-- Words are renamed, and parts of words are not. -/
theorem rename_trialScheme :
    trialScheme.SeeksWords ∧ trialScheme.NamesKeepClear
      ∧ ∃ r, trialScheme.rename "metadata\r\nødata, lue\nvalue lue" = .ok r
        ∧ r.text = "metadata\r\nø$0-x0000, $0-x0001\n$0-x0002 $0-x0001" := by
  refine ⟨seeksWords_trialScheme, namesKeepClear_trialScheme, ?_⟩
  obtain ⟨r, hr, hout, -⟩ :=
    rename_whole_words seeksWords_trialScheme namesKeepClear_trialScheme
    "metadata\r\nødata, lue\nvalue lue"
  refine ⟨r, hr, String.toList_inj.1 (hout.trans ?_)⟩
  decide +kernel

end NamingScheme

end Obfuscator
