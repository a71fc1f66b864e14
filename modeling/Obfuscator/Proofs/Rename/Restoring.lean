/-
A renaming can be undone.

With a stem of word characters a new name is one word, and no name is given
twice, however many digits the numbers have (`newName_injective`). If no
candidate and no word of the text is a new name, then every new name in the
new text was put there, and tells which identifier it stands for. Putting
that back gives the text that was renamed. So two words of a text are
different exactly if their images are.

All of it is about one word: a word that is renamed and put back is the word
(`restored_renamed`). The rest is `Text.mapWords_mapWords`.
-/
import Obfuscator.Proofs.Rename.WholeWords

namespace Obfuscator

open Text (IsWord words mapWords)

namespace NamingScheme

variable {s : NamingScheme} {names : List String} {text w : List Char}

-- =========================================================== fresh names

/-- The stem is made of word characters, and no new name that may be given
is a candidate or stands in the text. -/
structure GivesFreshNames (s : NamingScheme) (text : List Char) : Prop where
  stem : ∀ a ∈ s.stem.toList, isAsciiWord a = true
  candidates : ∀ k < s.candidates.eraseDups.length, s.newName k ∉ s.candidates
  text : ∀ k < s.candidates.eraseDups.length, (s.newName k).toList ∉ words text

/-- Fresh names keep clear of the candidates. -/
theorem GivesFreshNames.namesKeepClear (h : s.GivesFreshNames text) :
    s.NamesKeepClear :=
  namesKeepClear_of_notMem h.stem h.candidates

-- ============================================================= restoring

/-- What a word was before, if these identifiers were found in this order:
the new name with a number stands for the identifier at that place, and any
other word for itself. -/
def restored (s : NamingScheme) (names : List String) (w : List Char) :
    List Char :=
  match names.zipIdx.find? fun e => s.newName e.2 = String.ofList w with
  | some e => e.1.toList
  | none => w

/-- A new name is restored to the identifier of its number. -/
theorem restored_newName (s : NamingScheme) {k : Nat} (hk : k < names.length) :
    s.restored names (s.newName k).toList = names[k].toList := by
  have hentry : (names[k], k) ∈ names.zipIdx := by
    rw [List.mem_zipIdx_iff_getElem?, List.getElem?_eq_getElem hk]
  rw [restored, String.ofList_toList]
  cases hfind : names.zipIdx.find? fun e => s.newName e.2 = s.newName k with
  | none =>
      have hno := List.find?_eq_none.1 hfind _ hentry
      simp at hno
  | some e =>
      have hnumber : e.2 = k :=
        s.newName_injective (by simpa using List.find?_some hfind)
      have hplace :=
        List.mem_zipIdx_iff_getElem?.1 (List.mem_of_find?_eq_some hfind)
      rw [hnumber, List.getElem?_eq_getElem hk] at hplace
      exact congrArg String.toList (Option.some.inj hplace).symm

/-- Every other word stays as it is. -/
theorem restored_of_forall_ne
    (h : ∀ k < names.length, (s.newName k).toList ≠ w) :
    s.restored names w = w := by
  have hnone : names.zipIdx.find? (fun e => s.newName e.2 = String.ofList w)
      = none := by
    rw [List.find?_eq_none]
    intro e he hname
    obtain ⟨hlt, -⟩ :=
      List.getElem?_eq_some_iff.1 (List.mem_zipIdx_iff_getElem?.1 he)
    refine h e.2 hlt ?_
    rw [of_decide_eq_true hname, String.toList_ofList]
  rw [restored, hnone]

/-- A word of a text that is renamed is a word again, and stands for what it
was. -/
theorem GivesFreshNames.restored_renamed (h : s.GivesFreshNames text)
    (hw : w ∈ words text) :
    IsWord (s.renamed (s.discovered (Text.splitLines text)) w)
      ∧ s.restored (s.discovered (Text.splitLines text))
          (s.renamed (s.discovered (Text.splitLines text)) w) = w := by
  rw [renamed]
  by_cases hc : String.ofList w ∈ s.candidates
  · have hfound : String.ofList w ∈ s.discovered (Text.splitLines text) :=
      mem_discovered_of_mem_words hw hc
    rw [if_pos hc]
    refine ⟨isWord_newName h.stem _, ?_⟩
    rw [restored_newName s (List.idxOf_lt_length_of_mem hfound),
      List.getElem_idxOf, String.toList_ofList]
  · rw [if_neg hc]
    refine ⟨Text.isWord_of_mem_words hw,
      restored_of_forall_ne fun k hk hname => ?_⟩
    have hbound := s.length_discovered_le (Text.splitLines text)
    exact h.text k (hk.trans_le hbound) (hname ▸ hw)

-- ============================================================ the text

/-- Whatever text is renamed: if no candidate and no word of it is a new
name, the text can be had back from what it became, and two of its words are
one exactly if their images are. -/
theorem restore_rename {text : String} (h : s.SeeksWords)
    (hfresh : s.GivesFreshNames text.toList) :
    let names := s.discovered (Text.splitLines text.toList)
    ∃ r, s.rename text = .ok r
      ∧ mapWords (s.restored names) r.text.toList = text.toList
      ∧ words r.text.toList = (words text.toList).map (s.renamed names)
      ∧ ∀ v ∈ words text.toList, ∀ w ∈ words text.toList,
          s.renamed names v = s.renamed names w ↔ v = w := by
  intro names
  obtain ⟨r, hr, hout⟩ := h.exists_rename_eq_ok hfresh.namesKeepClear text
  refine ⟨r, hr, ?_, ?_, fun v hv w hw =>
    ⟨fun hsame => ?_, fun hsame => by rw [hsame]⟩⟩
  · rw [hout, Text.mapWords_mapWords]
    refine Text.mapWords_eq_self fun w hw => ?_
    obtain ⟨hword, hback⟩ := hfresh.restored_renamed hw
    exact hword.mapWords_eq.trans hback
  · have hone : ∀ w ∈ words text.toList,
      words (s.renamed names w) = [s.renamed names w] :=
      fun w hw => (hfresh.restored_renamed hw).1.words_eq
    rw [hout, Text.words_mapWords, List.flatMap_congr hone,
      ← List.map_eq_flatMap]
  · -- both stand for what they were
    calc v = s.restored names (s.renamed names v) :=
      (hfresh.restored_renamed hv).2.symm
      _ = s.restored names (s.renamed names w) := congrArg _ hsame
      _ = w := (hfresh.restored_renamed hw).2

/-- A scheme for a text that has words like new names, but with too high a
number and in upper case. -/
def freshScheme : NamingScheme where
  candidates := ["value", "data", "value"]
  stem := "_0x"
  boundary := "(?-u:\\b)"

theorem seeksWords_freshScheme : freshScheme.SeeksWords :=
  ⟨by decide, rfl, PatternEngine.seeks_standard (by decide)⟩

theorem givesFreshNames_freshScheme :
    freshScheme.GivesFreshNames
      "_0x0002 = metadata\ndata(value, _0X0000)".toList := by
  refine ⟨List.all_eq_true.1 (by decide), ?_, ?_⟩ <;> decide +kernel

/-- A text with words that look like new names is restored. -/
theorem restore_rename_freshScheme :
    ∃ r, freshScheme.rename "_0x0002 = metadata\ndata(value, _0X0000)" = .ok r
      ∧ mapWords (freshScheme.restored ["data", "value"]) r.text.toList
        = "_0x0002 = metadata\ndata(value, _0X0000)".toList := by
  have hnames : freshScheme.discovered
      (Text.splitLines "_0x0002 = metadata\ndata(value, _0X0000)".toList)
        = ["data", "value"] := by
    decide +kernel
  obtain ⟨r, hr, hback, -⟩ :=
    restore_rename seeksWords_freshScheme givesFreshNames_freshScheme
  rw [hnames] at hback
  exact ⟨r, hr, hback⟩

end NamingScheme

end Obfuscator
