/-
Where the two word boundaries are one.

The word boundary over ASCII and the one over all of Unicode differ on
characters of words outside ASCII only. At a place with a character of an
ASCII word on one side they agree, as long as no such character stands on
the other side (`Boundary.holds_unicodeWord_eq`). An identifier that is a
word begins and ends at places of that kind. So in a line in which nothing
else is to be found, an unmixed one, both rules have the same matches
(`Boundary.matches_unicodeWord_iff`).

A line changes while names are put into it, and stays unmixed: a word is
replaced by a word, and what stands beside it is what stood there before
(`Unmixed.mapWords`). That is the invariant which carries the agreement over
all the names of a table, and so over a text.
-/
import Obfuscator.Proofs.Rename.WholeWords
import Obfuscator.Proofs.Text.Lines

namespace Obfuscator

open Text (IsWord StartsApart words mapWords)

-- ============================================================ characters

/-- The characters of words that are not in ASCII. -/
def isWideWord (c : Char) : Bool :=
  decide (0x80 ≤ c.toNat) && isUnicodeWord c

/-- One is a character of an ASCII word, and the other a character of a word
outside ASCII. -/
def Mixed (a b : Char) : Prop :=
  isAsciiWord a = true ∧ isWideWord b = true ∨ isWideWord a = true
    ∧ isAsciiWord b = true

/-- No character of an ASCII word stands beside a character of a word
outside ASCII. -/
def Unmixed (line : List Char) : Prop :=
  line.IsChain fun a b => ¬Mixed a b

instance (a b : Char) : Decidable (Mixed a b) :=
  inferInstanceAs (Decidable (_ ∨ _))

instance : DecidablePred Unmixed := fun line =>
  inferInstanceAs (Decidable (line.IsChain fun a b => ¬Mixed a b))

variable {a b c : Char}

/-- The characters of words within ASCII are in ASCII. -/
theorem toNat_lt_of_isAsciiWord (h : isAsciiWord c = true) :
    c.toNat < 0x80 := by
  have hbelow : ∀ d : Char, d.toNat < 0x80 → c.val ≤ d.val → c.toNat < 0x80 :=
    fun d hd hle => Nat.lt_of_le_of_lt (UInt32.le_iff_toNat_le.1 hle) hd
  have hletter : c.isAlpha = (decide ('A'.val ≤ c.val ∧ c.val ≤ 'Z'.val)
      || decide ('a'.val ≤ c.val) && decide (c.val ≤ 'z'.val)) := rfl
  simp only [isAsciiWord, Char.isAlphanum, hletter, Char.isDigit,
    Bool.or_eq_true, Bool.and_eq_true, decide_eq_true_eq] at h
  rcases h with ((⟨-, hupper⟩ | ⟨-, hlower⟩) | ⟨-, hdigit⟩) | rfl
  · exact hbelow 'Z' (by decide) hupper
  · exact hbelow 'z' (by decide) hlower
  · exact hbelow '9' (by decide) hdigit
  · decide

/-- No character of ASCII is a wide one. -/
theorem isWideWord_eq_false_of_lt (h : c.toNat < 0x80) :
    isWideWord c = false := by
  rw [isWideWord, decide_eq_false (by omega), Bool.false_and]

/-- A character of a word is one of an ASCII word or one outside ASCII. -/
theorem isUnicodeWord_eq (c : Char) :
    isUnicodeWord c = (isAsciiWord c || isWideWord c) := by
  by_cases hc : c.toNat < 0x80
  · rw [isWideWord_eq_false_of_lt hc, Bool.or_false, isUnicodeWord, if_pos hc]
  · have hascii : isAsciiWord c = false := by
      rw [← Bool.not_eq_true]
      exact fun h => hc (toNat_lt_of_isAsciiWord h)
    rw [hascii, Bool.false_or, isWideWord, decide_eq_true (by omega),
      Bool.true_and]

theorem mixed_comm : Mixed a b ↔ Mixed b a := by
  rw [Mixed, Mixed, or_comm, and_comm, and_comm (a := isAsciiWord a = true)]

/-- Beside a character of an ASCII word, the two classes are one. -/
theorem isUnicodeWord_of_not_mixed (ha : isAsciiWord a = true)
    (h : ¬Mixed a b) :
    isUnicodeWord b = isAsciiWord b := by
  have hb : isWideWord b = false := by
    rw [← Bool.not_eq_true]
    exact fun hb => h (.inl ⟨ha, hb⟩)
  rw [isUnicodeWord_eq, hb, Bool.or_false]

/-- The characters of words within ASCII are such over Unicode as well. -/
theorem isUnicodeWord_of_isAsciiWord (h : isAsciiWord c = true) :
    isUnicodeWord c = true := by
  rw [isUnicodeWord_eq, h, Bool.true_or]

-- ================================================================= lines

variable {s w before after new done rest out : List Char}
  {f : List Char → List Char}

/-- Two texts are unmixed together if each is, and where they meet. -/
theorem unmixed_append_iff :
    Unmixed (before ++ after) ↔ Unmixed before ∧ Unmixed after
    ∧ ∀ a ∈ before.getLast?, ∀ b ∈ after.head?, ¬Mixed a b :=
  List.isChain_append

/-- Nothing but ASCII is unmixed. -/
theorem unmixed_of_forall_lt (h : ∀ c ∈ s, c.toNat < 0x80) : Unmixed s := by
  refine List.isChain_iff_forall_rel_of_append_cons_cons.2
    fun a b front back hs => ?_
  have ha : isWideWord a = false :=
    isWideWord_eq_false_of_lt (h a (by simp [hs]))
  have hb : isWideWord b = false :=
    isWideWord_eq_false_of_lt (h b (by simp [hs]))
  simp [Mixed, ha, hb]

/-- A word within ASCII is unmixed. -/
theorem unmixed_of_isWord (hw : IsWord w) : Unmixed w :=
  unmixed_of_forall_lt fun c hc => toNat_lt_of_isAsciiWord (hw.2 c hc)

/-- A line in which words are replaced by words stays unmixed. -/
theorem Unmixed.mapWords (hf : ∀ w, IsWord w → IsWord (f w)) (h : Unmixed s) :
    Unmixed (mapWords f s) := by
  induction s using Text.induction_on_words with
  | nil => exact h
  | other c rest hc ih =>
      obtain ⟨hhead, hrest⟩ := List.isChain_cons.1 h
      rw [Text.mapWords_cons hc]
      refine List.isChain_cons.2 ⟨fun b hb hmixed => ?_, ih hrest⟩
      -- a word cannot come to stand beside `c` that did not stand there before
      rcases hmixed with ⟨hascii, -⟩ | ⟨hwide, hascii⟩
      · rw [hc] at hascii
        cases hascii
      · have hapart : StartsApart rest := by
          intro d hd
          rw [← Bool.not_eq_true]
          exact fun hd' => hhead d hd (.inr ⟨hwide, hd'⟩)
        have hb' := Text.startsApart_mapWords hapart b hb
        rw [hascii] at hb'
        cases hb'
  | word w rest hw hapart ih =>
      obtain ⟨-, hrest, hjoint⟩ := unmixed_append_iff.1 h
      rw [Text.mapWords_append (.inr hapart), hw.mapWords_eq]
      refine unmixed_append_iff.2 ⟨unmixed_of_isWord (hf w hw), ih hrest,
        fun a ha b hb => ?_⟩
      cases rest with
      | nil => cases hb
      | cons d rest =>
          have hd : isAsciiWord d = false := hapart d rfl
          rw [Text.mapWords_cons hd] at hb
          obtain rfl : d = b := Option.some.inj hb
          have hlast := List.getLast_mem_getLast? hw.1
          have hkept := hjoint _ hlast d rfl
          rintro (⟨-, hwide⟩ | ⟨-, hascii⟩)
          · exact hkept (.inl ⟨hw.2 _ (List.mem_of_mem_getLast? hlast), hwide⟩)
          · rw [hd] at hascii
            cases hascii

-- =============================================================== matches

namespace Boundary

/-- At a place beside a character of an ASCII word the two rules agree. -/
theorem holds_unicodeWord_eq {x y : Option Char}
    (hplace : ∀ a ∈ x, ∀ b ∈ y, ¬Mixed a b)
    (hword : (∃ a ∈ x, isAsciiWord a = true) ∨ ∃ b ∈ y, isAsciiWord b = true) :
    unicodeWord.holds x y = asciiWord.holds x y := by
  rcases hword with ⟨a, rfl, ha⟩ | ⟨b, rfl, hb⟩
  · have hy : y.any isUnicodeWord = y.any isAsciiWord := by
      cases y with
      | none => rfl
      | some b => exact isUnicodeWord_of_not_mixed ha (hplace a rfl b rfl)
    rw [holds, holds, hy, Option.any_some, Option.any_some,
      isUnicodeWord_of_isAsciiWord ha, ha]
  · have hx : x.any isUnicodeWord = x.any isAsciiWord := by
      cases x with
      | none => rfl
      | some a =>
          exact isUnicodeWord_of_not_mixed hb fun h =>
            hplace a rfl b rfl (mixed_comm.1 h)
    rw [holds, holds, hx, Option.any_some, Option.any_some,
      isUnicodeWord_of_isAsciiWord hb, hb]

/-- A word of an unmixed line has the same matches under both rules. -/
theorem matches_unicodeWord_iff (hw : IsWord w)
    (h : Unmixed (before ++ (w ++ after))) :
    unicodeWord.Matches w before after ↔ asciiWord.Matches w before after := by
  have hfirst : w.head hw.1 ∈ (w ++ after).head? := by
    rw [List.head?_append_of_ne_nil _ hw.1]
    exact List.head_mem_head? hw.1
  have hlast : w.getLast hw.1 ∈ (before ++ w).getLast? := by
    rw [List.getLast?_append_of_ne_nil _ hw.1]
    exact List.getLast_mem_getLast? hw.1
  obtain ⟨-, -, hleft⟩ := unmixed_append_iff.1 h
  rw [← List.append_assoc] at h
  obtain ⟨-, -, hright⟩ := unmixed_append_iff.1 h
  have hopens :=
    holds_unicodeWord_eq hleft (.inr ⟨_, hfirst, hw.2 _ (List.head_mem hw.1)⟩)
  have hcloses :=
    holds_unicodeWord_eq hright (.inl ⟨_, hlast,
      hw.2 _ (List.getLast_mem hw.1)⟩)
  constructor
  · exact fun hmatch =>
      ⟨hopens.symm.trans hmatch.opens, hcloses.symm.trans hmatch.closes⟩
  · exact fun hmatch =>
      ⟨hopens.trans hmatch.opens, hcloses.trans hmatch.closes⟩

/-- Replacing the matches of a word in an unmixed line is the same under
both rules. -/
theorem ReplacesAll.asciiWord_of_unicodeWord (hw : IsWord w)
    (h : unicodeWord.ReplacesAll w new done rest out)
    (hline : Unmixed (done ++ rest)) :
    asciiWord.ReplacesAll w new done rest out := by
  induction h with
  | none nowhere =>
      refine .none fun before after hrest hmatch => ?_
      subst hrest
      rw [← List.append_assoc] at hline
      exact nowhere before after rfl
        ((matches_unicodeWord_iff hw hline).2 hmatch)
  | @first done before after out found leftmost more ih =>
      have hfound : Unmixed (done ++ before ++ (w ++ after)) := by
        rwa [List.append_assoc]
      refine .first ((matches_unicodeWord_iff hw hfound).1 found) ?_ (ih ?_)
      · intro earlier later hsplit hmatch
        have hearlier : Unmixed (done ++ earlier ++ (w ++ later)) := by
          rwa [List.append_assoc, ← hsplit]
        exact leftmost earlier later hsplit
          ((matches_unicodeWord_iff hw hearlier).2 hmatch)
      · simpa only [List.append_assoc] using hline

end Boundary

namespace NamingScheme

variable {s : NamingScheme} {line : List Char} {names seen : List String}
  {lines : List (List Char)}

/-- The same scheme with the word boundary over all of Unicode. -/
def overUnicode (s : NamingScheme) : NamingScheme :=
  { s with boundary := "\\b" }

-- ================================================================ one line

/-- Over Unicode every candidate compiles too, and all its places are
replaced. -/
theorem SeeksWords.exists_compile_overUnicode (h : s.SeeksWords)
    (hunicode : s.engine.Seeks "\\b" .unicodeWord) {c : String}
    (hc : c ∈ s.candidates) :
    ∃ put, s.overUnicode.compile c = .ok put
      ∧ ∀ new line, Boundary.unicodeWord.ReplacesAll c.toList new [] line
        (put new line) :=
  hunicode c (h.candidates c hc)

/-- Putting one name into an unmixed line is the same under both rules. -/
theorem SeeksWords.apply_overUnicode (h : s.SeeksWords)
    (hunicode : s.engine.Seeks "\\b" .unicodeWord) {c : String}
    (hc : c ∈ s.candidates) (new : String) (hline : Unmixed line) :
    s.overUnicode.apply line ⟨c, new⟩ = s.apply line ⟨c, new⟩ := by
  obtain ⟨put, hput, hall⟩ := h.exists_compile_overUnicode hunicode hc
  have hascii :=
    (hall new.toList line).asciiWord_of_unicodeWord (h.candidates c hc) hline
  rw [h.apply_eq_mapWords hc, apply, hput]
  exact hascii.eq_mapWords (h.candidates c hc) (.inl Text.endsApart_nil)

/-- A name that is a word leaves a line unmixed. -/
theorem SeeksWords.unmixed_apply (h : s.SeeksWords) {c : String}
    (hc : c ∈ s.candidates) {new : String} (hnew : IsWord new.toList)
    (hline : Unmixed line) :
    Unmixed (s.apply line ⟨c, new⟩) := by
  rw [h.apply_eq_mapWords hc]
  refine hline.mapWords fun w hw => ?_
  by_cases hwc : w = c.toList
  · rwa [if_pos hwc]
  · rwa [if_neg hwc]

/-- An unmixed line is renamed in the same way under both rules. -/
theorem SeeksWords.renameLine_overUnicode (h : s.SeeksWords)
    (hunicode : s.engine.Seeks "\\b" .unicodeWord)
    (hstem : ∀ a ∈ s.stem.toList, isAsciiWord a = true)
    (hnames : ∀ c ∈ names, c ∈ s.candidates) (hline : Unmixed line) :
    s.overUnicode.renameLine (s.tableOf names) line
      = s.renameLine (s.tableOf names) line := by
  have hentries : ∀ a ∈ (s.tableOf names).entries,
      a.identifier ∈ s.candidates ∧ IsWord a.replacement.toList := by
    intro a ha
    obtain ⟨hfound, k, hk⟩ := exists_of_mem_entries_tableOf ha
    rw [hk]
    exact ⟨hnames _ hfound, isWord_newName hstem k⟩
  unfold renameLine
  generalize (s.tableOf names).entries = entries at hentries ⊢
  induction entries generalizing line with
  | nil => rfl
  | cons a rest ih =>
      obtain ⟨⟨hidentifier, hword⟩, hrest⟩ := List.forall_mem_cons.1 hentries
      rw [List.foldl_cons, List.foldl_cons,
        h.apply_overUnicode hunicode hidentifier _ hline]
      exact ih (h.unmixed_apply hidentifier hword hline) hrest

-- =============================================================== the text

/-- Unmixed lines are renamed in the same way under both rules. -/
theorem SeeksWords.renamedLines_overUnicode (h : s.SeeksWords)
    (hunicode : s.engine.Seeks "\\b" .unicodeWord)
    (hstem : ∀ a ∈ s.stem.toList, isAsciiWord a = true)
    (hseen : ∀ c ∈ seen, c ∈ s.candidates)
    (hlines : ∀ line ∈ lines, Unmixed line) :
    s.overUnicode.renamedLines seen lines = s.renamedLines seen lines := by
  induction lines generalizing seen with
  | nil => rfl
  | cons line rest ih =>
      obtain ⟨hline, hrest⟩ := List.forall_mem_cons.1 hlines
      have hmore : ∀ c ∈ seen ++ s.occurring line, c ∈ s.candidates :=
        mem_candidates_of_mem_append_occurring hseen
      have hfound : ∀ c ∈ (seen ++ s.occurring line).eraseDups,
          c ∈ s.candidates :=
        fun c hc => hmore c (List.mem_eraseDups.1 hc)
      have hhead := h.renameLine_overUnicode hunicode hstem hfound hline
      have htail := ih hmore hrest
      rw [renamedLines, renamedLines, ← hhead, ← htail]
      rfl

/-- A text of unmixed lines is renamed in the same way under both rules. -/
theorem SeeksWords.exists_rename_overUnicode (h : s.SeeksWords)
    (hunicode : s.engine.Seeks "\\b" .unicodeWord)
    (hstem : ∀ a ∈ s.stem.toList, isAsciiWord a = true) {text : String}
    (htext : ∀ line ∈ Text.splitLines text.toList, Unmixed line) :
    ∃ r, s.overUnicode.rename text = .ok r ∧ s.rename text = .ok r := by
  obtain ⟨r, hr⟩ :=
    NamingScheme.exists_rename_eq_ok (fun _ hc => h.compiles hc) text
  obtain ⟨-, hlines, htable⟩ := rename_eq_ok_iff.1 hr
  refine ⟨r, rename_eq_ok_iff.2 ⟨?_, ?_, htable⟩, hr⟩
  · refine firstRefusal?_eq_none_iff.2 fun c hc => ?_
    obtain ⟨line, -, hoccurs⟩ := List.mem_flatMap.1 hc
    obtain ⟨put, hput, -⟩ := h.exists_compile_overUnicode hunicode
      (mem_candidates_of_mem_occurring hoccurs)
    exact ⟨put, hput⟩
  · rw [h.renamedLines_overUnicode hunicode hstem (by simp) htext]
    exact hlines

/-- Candidates and a stem of word characters are all that is asked for: in a
text of unmixed lines, and so in one of ASCII, names are put in at the same
places under both rules. -/
theorem rename_unicode_eq_ascii {engine : PatternEngine}
    (hascii : engine.Seeks "(?-u:\\b)" .asciiWord)
    (hunicode : engine.Seeks "\\b" .unicodeWord) {candidates : List String}
    (hcandidates : ∀ c ∈ candidates, IsWord c.toList) {stem : String}
    (hstem : ∀ a ∈ stem.toList, isAsciiWord a = true) :
    (∀ text : String, (∀ line ∈ Text.splitLines text.toList, Unmixed line) →
      ∃ r, rename ⟨candidates, stem, "\\b", engine⟩ text = .ok r
        ∧ rename ⟨candidates, stem, "(?-u:\\b)", engine⟩ text = .ok r)
    ∧ ∀ text : String, (∀ c ∈ text.toList, c.toNat < 0x80) →
      ∃ r, rename ⟨candidates, stem, "\\b", engine⟩ text = .ok r
        ∧ rename ⟨candidates, stem, "(?-u:\\b)", engine⟩ text = .ok r := by
  have hseeks : SeeksWords ⟨candidates, stem, "(?-u:\\b)", engine⟩ :=
    ⟨hcandidates, rfl, hascii⟩
  refine ⟨fun text htext =>
    hseeks.exists_rename_overUnicode hunicode hstem htext, fun text htext =>
      hseeks.exists_rename_overUnicode hunicode hstem fun line hline => ?_⟩
  refine unmixed_of_forall_lt fun c hc => ?_
  exact htext c (Text.mem_and_ne_newline_of_mem_splitLines hline hc).1

/-- Letters outside ASCII may stand anywhere but beside a word. -/
theorem rename_unicode_eq_ascii_greek :
    ∃ r, rename ⟨["data", "lue"], "x_", "\\b",
      .standard⟩ "λδ = data(é)\nmetadata ø, lue" = .ok r
      ∧ rename ⟨["data", "lue"], "x_", "(?-u:\\b)",
        .standard⟩ "λδ = data(é)\nmetadata ø, lue"
        = .ok r := by
  have hcandidates : ∀ c ∈ ["data", "lue"], IsWord c.toList := by decide
  have hstem : ∀ a ∈ "x_".toList, isAsciiWord a = true :=
    List.all_eq_true.1 (by decide)
  have hboth := rename_unicode_eq_ascii
    (PatternEngine.seeks_standard (by decide))
    (PatternEngine.seeks_standard (by decide)) hcandidates hstem
  exact hboth.1 _ (by decide +kernel)

end NamingScheme

end Obfuscator
