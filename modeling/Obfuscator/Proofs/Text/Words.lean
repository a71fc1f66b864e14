/-
The words of a text.

A word is a run of letters, digits and underscores, all of them ASCII, that
goes on as far as it can. A text falls into tokens: its words, and each
other character by itself (`tokens`). Nothing is lost, and a text may be cut
anywhere but inside a word (`tokens_append`). Everything else about words
follows from these two.

A function on words makes a function on texts, `mapWords`, which leaves the
other characters alone. What it puts in the place of a word may be any text;
it never grows together with what stands beside it, because beside a word
there is no character of a word. So one such function after another is one
such function (`mapWords_mapWords`), and the words of the new text are those
of the pieces that were put in (`words_mapWords`).
-/
import Mathlib.Data.List.SplitBy
import Mathlib.Data.List.TakeWhile
import Obfuscator.Rename.Boundary
import Obfuscator.Text.Lines

namespace Obfuscator.Text

-- ================================================================ tokens

/-- Letters, digits and underscores, and at least one of them. -/
def IsWord (w : List Char) : Prop := w ≠ [] ∧ ∀ c ∈ w, isAsciiWord c = true

-- the characters of the word are gone through, not all there are
instance : DecidablePred IsWord := fun w =>
  @instDecidableAnd _ _ inferInstance
    (List.decidableBAll (fun c => isAsciiWord c = true) w)

/-- Two neighbours belong to one word. -/
def sameWord (a b : Char) : Bool := isAsciiWord a && isAsciiWord b

/-- The words of a text and its other characters, in order. -/
def tokens (s : List Char) : List (List Char) := s.splitBy sameWord

/-- The words of a text, in order. -/
def words (s : List Char) : List (List Char) :=
  (tokens s).filter fun t => IsWord t

/-- A text with every word replaced by what `f` makes of it. -/
def mapWords (f : List Char → List Char) (s : List Char) : List Char :=
  (tokens s).flatMap fun t => if IsWord t then f t else t

-- =============================================================== cutting

/-- A text does not begin inside a word. -/
def StartsApart (s : List Char) : Prop := ∀ c ∈ s.head?, isAsciiWord c = false

/-- A text does not end inside a word. -/
def EndsApart (s : List Char) : Prop := ∀ c ∈ s.getLast?, isAsciiWord c = false

/-- No word goes on from the first text into the second. -/
def Apart (a b : List Char) : Prop := EndsApart a ∨ StartsApart b

variable {a b s w : List Char} {c : Char} {f g : List Char → List Char}

/-- How a text starts is told by its first part, if that is not empty. -/
theorem startsApart_append_iff (ha : a ≠ []) :
    StartsApart (a ++ b) ↔ StartsApart a := by
  rw [StartsApart, StartsApart, List.head?_append_of_ne_nil _ ha]

theorem endsApart_append_iff (hb : b ≠ []) :
    EndsApart (a ++ b) ↔ EndsApart b := by
  rw [EndsApart, EndsApart, List.getLast?_append_of_ne_nil _ hb]

theorem endsApart_nil : EndsApart [] := fun c hc => by cases hc

theorem endsApart_of_append (h : EndsApart (a ++ b)) : EndsApart b := by
  by_cases hb : b = []
  · rw [hb]
    exact endsApart_nil
  · exact (endsApart_append_iff hb).1 h

/-- A text that begins with none of the characters of words starts apart.
-/
theorem startsApart_cons (hc : isAsciiWord c = false) (rest : List Char) :
    StartsApart (c :: rest) := by
  intro d hd
  obtain rfl : c = d := Option.some.inj hd
  exact hc

theorem endsApart_singleton (hc : isAsciiWord c = false) : EndsApart [c] :=
  startsApart_cons hc []

theorem not_isWord_singleton (hc : isAsciiWord c = false) : ¬IsWord [c] := by
  intro h
  rw [h.2 c List.mem_cons_self] at hc
  cases hc

/-- Nothing that begins with a word starts apart. -/
theorem IsWord.not_startsApart (hw : IsWord w) (b : List Char) :
    ¬StartsApart (w ++ b) := by
  intro h
  have hhead : w.head hw.1 ∈ w.head? := List.head_mem_head? hw.1
  have hapart := (startsApart_append_iff hw.1).1 h _ hhead
  rw [hw.2 _ (List.mem_of_mem_head? hhead)] at hapart
  cases hapart

theorem IsWord.not_endsApart (hw : IsWord w) (a : List Char) :
    ¬EndsApart (a ++ w) := by
  intro h
  have hlast : w.getLast hw.1 ∈ w.getLast? := List.getLast_mem_getLast? hw.1
  have hapart := (endsApart_append_iff hw.1).1 h _ hlast
  rw [hw.2 _ (List.mem_of_mem_getLast? hlast)] at hapart
  cases hapart

/-- A text may be cut anywhere but inside a word. -/
theorem tokens_append (h : Apart a b) :
    tokens (a ++ b) = tokens a ++ tokens b := by
  refine List.splitBy_append fun x hx y hy => ?_
  rw [sameWord, Bool.and_eq_false_iff]
  rcases h with ha | hb
  · exact .inl (ha x hx)
  · exact .inr (hb y hy)

/-- A character that is not of a word is a token of its own. -/
theorem tokens_cons (hc : isAsciiWord c = false) (rest : List Char) :
    tokens (c :: rest) = [c] :: tokens rest :=
  tokens_append (.inl (endsApart_singleton hc))

/-- A word is one token. -/
theorem IsWord.tokens_eq (hw : IsWord w) : tokens w = [w] := by
  refine List.splitBy_of_isChain hw.1
    (List.isChain_iff_forall_rel_of_append_cons_cons.2 fun {x y _ _} hxy => ?_)
  rw [sameWord, hw.2 x (by simp [hxy]), hw.2 y (by simp [hxy])]
  rfl

/-- Nothing is lost. -/
theorem flatten_tokens (s : List Char) : (tokens s).flatten = s :=
  List.flatten_splitBy sameWord s

/-- Every text is empty, or goes on behind a character that is not of a
word, or behind a word that ends there. -/
theorem induction_on_words {motive : List Char → Prop} (nil : motive [])
    (other : ∀ c rest, isAsciiWord c = false → motive rest →
      motive (c :: rest))
    (word : ∀ w rest, IsWord w → StartsApart rest → motive rest →
      motive (w ++ rest)) :
    ∀ s, motive s := by
  have hbounded : ∀ (n : Nat) (s : List Char), s.length ≤ n → motive s := by
    intro n
    induction n with
    | zero =>
        intro s hs
        rw [List.length_eq_zero_iff.1 (Nat.le_zero.1 hs)]
        exact nil
    | succ n ih =>
        intro s hs
        cases s with
        | nil => exact nil
        | cons c rest =>
            cases hc : isAsciiWord c with
            | false =>
                refine other c rest hc (ih rest ?_)
                rw [List.length_cons] at hs
                omega
            | true =>
                have hlength :=
                  (List.dropWhile_sublist isAsciiWord (l := rest)).length_le
                have hword : IsWord (c :: rest.takeWhile isAsciiWord) := by
                  refine ⟨List.cons_ne_nil _ _,
                    List.forall_mem_cons.2 ⟨hc, ?_⟩⟩
                  exact fun d hd => List.mem_takeWhile_imp hd
                have hapart : StartsApart (rest.dropWhile isAsciiWord) := by
                  intro d hd
                  have hhead := List.head?_dropWhile_not isAsciiWord rest
                  rw [Option.mem_def.1 hd] at hhead
                  simpa using hhead
                have hshort : (rest.dropWhile isAsciiWord).length ≤ n := by
                  rw [List.length_cons] at hs
                  omega
                have hsplit := word _ _ hword hapart (ih _ hshort)
                rwa [List.cons_append, List.takeWhile_append_dropWhile]
                  at hsplit
  exact fun s => hbounded s.length s (Nat.le_refl _)

-- ================================================================= words

/-- The words of two texts that meet apart are those of the one and those
of the other. -/
theorem words_append (h : Apart a b) :
    words (a ++ b) = words a ++ words b := by
  rw [words, tokens_append h, List.filter_append]
  rfl

/-- A character that is in no word adds none. -/
theorem words_cons (hc : isAsciiWord c = false) (rest : List Char) :
    words (c :: rest) = words rest := by
  have hno : ¬IsWord [c] := not_isWord_singleton hc
  rw [words, tokens_cons hc, List.filter_cons_of_neg (by simpa using hno)]
  rfl

/-- A word is its only word. -/
theorem IsWord.words_eq (hw : IsWord w) : words w = [w] := by
  rw [words, hw.tokens_eq]
  exact List.filter_cons_of_pos (by simpa using hw)

/-- The words of a text are words. -/
theorem isWord_of_mem_words (h : w ∈ words s) : IsWord w := by
  simpa using (List.mem_filter.1 h).2

/-- A word of a text is one that stands in it and goes on to neither side. -/
theorem mem_words_iff : w ∈ words s ↔
    IsWord w ∧ ∃ before after, s = before ++ (w ++ after) ∧ EndsApart before
      ∧ StartsApart after := by
  constructor
  · intro h
    refine ⟨isWord_of_mem_words h, ?_⟩
    induction s using induction_on_words with
    | nil => cases h
    | other c rest hc ih =>
        rw [words_cons hc] at h
        obtain ⟨before, after, rfl, hbefore, hafter⟩ := ih h
        refine ⟨[c] ++ before, after, rfl, ?_, hafter⟩
        by_cases hnil : before = []
        · rw [hnil]
          exact endsApart_singleton hc
        · exact (endsApart_append_iff hnil).2 hbefore
    | word v rest hv hapart ih =>
        rw [words_append (.inr hapart), hv.words_eq] at h
        rcases List.mem_cons.1 h with rfl | h
        · exact ⟨[], rest, rfl, endsApart_nil, hapart⟩
        · obtain ⟨before, after, rfl, hbefore, hafter⟩ := ih h
          have hne : before ≠ [] := by
            rintro rfl
            exact (isWord_of_mem_words h).not_startsApart after hapart
          refine ⟨v ++ before, after, by simp, ?_, hafter⟩
          exact (endsApart_append_iff hne).2 hbefore
  · rintro ⟨hw, before, after, rfl, hbefore, hafter⟩
    rw [words_append (.inl hbefore), words_append (.inr hafter), hw.words_eq]
    simp

/-- A word of a text is a piece of it. -/
theorem infix_of_mem_words (h : w ∈ words s) : w <:+: s := by
  obtain ⟨-, before, after, rfl, -, -⟩ := mem_words_iff.1 h
  exact ⟨before, after, by simp⟩

-- ============================================================== mapWords

/-- Words are replaced in each of two texts that meet apart. -/
theorem mapWords_append (h : Apart a b) :
    mapWords f (a ++ b) = mapWords f a ++ mapWords f b := by
  rw [mapWords, tokens_append h, List.flatMap_append]
  rfl

/-- A character that is in no word stays. -/
theorem mapWords_cons (hc : isAsciiWord c = false) (rest : List Char) :
    mapWords f (c :: rest) = c :: mapWords f rest := by
  rw [mapWords, tokens_cons hc, List.flatMap_cons,
    if_neg (not_isWord_singleton hc)]
  rfl

/-- A word is replaced as a whole. -/
theorem IsWord.mapWords_eq (hw : IsWord w) : mapWords f w = f w := by
  rw [mapWords, hw.tokens_eq, List.flatMap_singleton, if_pos hw]

/-- What is made of a text depends on what is made of its words. -/
theorem mapWords_congr (h : ∀ w ∈ words s, f w = g w) :
    mapWords f s = mapWords g s := by
  refine List.flatMap_congr fun t ht => ?_
  by_cases hword : IsWord t
  · rw [if_pos hword, if_pos hword,
      h t (List.mem_filter.2 ⟨ht, by simpa using hword⟩)]
  · rw [if_neg hword, if_neg hword]

/-- A text all of whose words are kept is kept. -/
theorem mapWords_eq_self (h : ∀ w ∈ words s, f w = w) : mapWords f s = s := by
  have hid : mapWords id s = s := by
    simp [mapWords, List.flatMap_id', flatten_tokens]
  rw [mapWords_congr (g := id) h, hid]

/-- What stands behind a word keeps its first character. -/
theorem startsApart_mapWords (h : StartsApart s) :
    StartsApart (mapWords f s) := by
  cases s with
  | nil => exact h
  | cons c rest =>
      have hc : isAsciiWord c = false := h c rfl
      rw [mapWords_cons hc]
      exact startsApart_cons hc _

/-- The words of a new text are those of what was put in. -/
theorem words_mapWords (f : List Char → List Char) (s : List Char) :
    words (mapWords f s) = (words s).flatMap fun w => words (f w) := by
  induction s using induction_on_words with
  | nil => rfl
  | other c rest hc ih =>
      rw [mapWords_cons hc, words_cons hc, words_cons hc, ih]
  | word w rest hw hapart ih =>
      rw [mapWords_append (.inr hapart), hw.mapWords_eq,
        words_append (.inr (startsApart_mapWords hapart)),
        words_append (.inr hapart),
        hw.words_eq, ih, List.flatMap_append, List.flatMap_singleton]

/-- One function on words after another is one function on words. -/
theorem mapWords_mapWords (f g : List Char → List Char) (s : List Char) :
    mapWords g (mapWords f s) = mapWords (fun w => mapWords g (f w)) s := by
  induction s using induction_on_words with
  | nil => rfl
  | other c rest hc ih =>
      rw [mapWords_cons hc, mapWords_cons hc, mapWords_cons hc, ih]
  | word w rest hw hapart ih =>
      rw [mapWords_append (.inr hapart), hw.mapWords_eq,
        mapWords_append (.inr (startsApart_mapWords hapart)),
        mapWords_append (.inr hapart),
        hw.mapWords_eq, ih]

-- ================================================================= lines

/-- A line feed ends a word. -/
theorem isAsciiWord_newline : isAsciiWord '\n' = false := by decide

/-- The words of a text are those of its lines. -/
theorem words_joinLines : ∀ lines : List (List Char),
    words (joinLines lines) = lines.flatMap words := by
  intro lines
  induction lines with
  | nil => rfl
  | cons line rest ih =>
      cases hrest : rest with
      | nil => simp [joinLines]
      | cons next more =>
          rw [← hrest, joinLines_cons (by simp [hrest]),
            words_append (.inr (startsApart_cons isAsciiWord_newline _)),
            words_cons isAsciiWord_newline, ih, List.flatMap_cons]

/-- A text is changed word by word as its lines are. -/
theorem mapWords_joinLines (f : List Char → List Char) :
    ∀ lines : List (List Char),
    mapWords f (joinLines lines) = joinLines (lines.map (mapWords f)) := by
  intro lines
  induction lines with
  | nil => rfl
  | cons line rest ih =>
      cases hrest : rest with
      | nil => rfl
      | cons next more =>
          rw [← hrest, joinLines_cons (by simp [hrest]),
            mapWords_append (.inr (startsApart_cons isAsciiWord_newline _)),
            mapWords_cons isAsciiWord_newline, ih, List.map_cons,
            joinLines_cons (by simp [hrest])]

end Obfuscator.Text
