/-
What an engine does to a line.

Of any engine it may be asked that it puts the new name in the place of
pieces of a line and keeps what is between them
(`PatternEngine.PutsInPieces`). Every character then comes from the line or
from the name, and nothing is left only of nothing.

Of an engine that takes a pattern for a boundary rule more is known: the
name is put in exactly if the identifier stands in the line between two
boundaries (`PatternEngine.ReplacesBy`). In the empty line nothing stands
but the empty identifier, and only if boundaries are everywhere
(`Boundary.standsIn_nil_iff`).

The standard engine is of both kinds. For the second, an identifier of at
least one character is a matter of its matches (`Boundary.ReplacesAll`); the
empty one has no matches of that sort, as the next would be found where the
last one was, and so it has an induction of its own
(`Boundary.substituteFrom_nil`).
-/
import Obfuscator.Proofs.Rename.Matching

namespace Obfuscator

-- ================================================================ pieces

/-- `out` is `line` with `new` in the place of some pieces of it, none
overlapping another. -/
inductive PutsIn (new : List Char) : (line out : List Char) → Prop
  | rest (line : List Char) : PutsIn new line line
  | piece (before piece : List Char) {after out : List Char}
      (more : PutsIn new after out) :
      PutsIn new (before ++ (piece ++ after)) (before ++ (new ++ out))

/-- Whatever the engine makes of patterns, it puts a text in the place of
pieces of a line. -/
def PatternEngine.PutsInPieces (e : PatternEngine) : Prop :=
  ∀ pattern identifier put, e.compile pattern identifier = .ok put →
    ∀ new line, PutsIn new line (put new line)

namespace PutsIn

variable {new line out : List Char}

/-- A character in front is kept. -/
theorem cons (h : PutsIn new line out) (c : Char) :
    PutsIn new (c :: line) (c :: out) := by
  cases h with
  | rest => exact .rest _
  | piece before piece more => exact .piece (c :: before) piece more

/-- A piece in front is replaced. -/
theorem replace (h : PutsIn new line out) (piece : List Char) :
    PutsIn new (piece ++ line) (new ++ out) :=
  .piece [] piece h

/-- Every character comes from the line or from what was put in. -/
theorem mem_or_mem {c : Char} (h : PutsIn new line out) (hc : c ∈ out) :
    c ∈ line ∨ c ∈ new := by
  induction h with
  | rest => exact .inl hc
  | piece before piece more ih =>
      rcases List.mem_append.1 hc with hc | hc
      · exact .inl (List.mem_append_left _ hc)
      · rcases List.mem_append.1 hc with hc | hc
        · exact .inr hc
        · refine (ih hc).imp_left fun hc => ?_
          exact List.mem_append_right before (List.mem_append_right piece hc)

/-- Nothing is left only of nothing. -/
theorem eq_nil (h : PutsIn new line out) (hnew : new ≠ []) (hout : out = []) :
    line = [] := by
  cases h with
  | rest => exact hout
  | piece before piece more => simp [hnew] at hout

end PutsIn

/-- Reading a line character by character puts the new text in the place of
pieces of it. -/
theorem putsIn_substituteFrom (b : Boundary) (name new : List Char)
    (line : List Char) :
    ∀ (skip : Nat) (before : Option Char),
      PutsIn new (line.drop skip)
        (substituteFrom b name new skip before line) := by
  induction line with
  | nil =>
      intro skip before
      rw [List.drop_nil, substituteFrom]
      split
      · have hput : PutsIn new ([] ++ []) (new ++ []) :=
          (PutsIn.rest []).replace []
        rwa [List.append_nil, List.append_nil] at hput
      · exact .rest []
  | cons c rest ih =>
      intro skip before
      cases skip with
      | succ skip =>
          rw [substituteFrom, List.drop_succ_cons]
          exact ih skip (some c)
      | zero =>
          rw [substituteFrom, List.drop_zero]
          split
          · split
            · exact ((ih 0 (some c)).cons c).replace []
            · have hmore := (ih (name.length - 1) (some c)).replace
                (c :: rest.take (name.length - 1))
              rwa [List.cons_append, List.take_append_drop] at hmore
          · exact (ih 0 (some c)).cons c

/-- What the standard engine makes of two patterns is a matcher that puts
the new text in. -/
theorem PatternEngine.exists_of_compile_standard {pattern identifier : String}
    {put : List Char → List Char → List Char}
    (h : standard.compile pattern identifier = .ok put) :
    ∃ m, Matcher.of? pattern identifier = some m ∧ put = m.apply := by
  simp only [standard] at h
  split at h
  · next m hm => exact ⟨m, hm, (Except.ok.inj h).symm⟩
  · cases h

/-- The standard engine is of this kind. -/
theorem PatternEngine.putsInPieces_standard : standard.PutsInPieces := by
  intro pattern identifier put hput new line
  obtain ⟨m, -, rfl⟩ := exists_of_compile_standard hput
  exact putsIn_substituteFrom m.boundary m.sought new line 0 none

-- ======================================================== boundary rules

namespace Boundary

variable {b : Boundary} {sought new line done rest out : List Char}

/-- A text stands somewhere in a line with boundaries on both of its sides. -/
def StandsIn (b : Boundary) (sought line : List Char) : Prop :=
  ∃ before after, line = before ++ (sought ++ after)
    ∧ b.Matches sought before after

/-- In the empty line nothing but the empty text stands, and only between
boundaries that are everywhere. -/
theorem standsIn_nil_iff :
    b.StandsIn sought [] ↔ b = .anywhere ∧ sought = [] := by
  constructor
  · rintro ⟨before, after, hline, hopens, -⟩
    obtain ⟨rfl, hmore⟩ := List.append_eq_nil_iff.1 hline.symm
    obtain ⟨rfl, rfl⟩ := List.append_eq_nil_iff.1 hmore
    refine ⟨?_, rfl⟩
    cases b with
    | anywhere => rfl
    | asciiWord => cases hopens
    | unicodeWord => cases hopens
  · rintro ⟨rfl, rfl⟩
    exact ⟨[], [], rfl, rfl, rfl⟩

end Boundary

/-- With the pattern on both of its sides an identifier is looked for by the
boundary rule: the new text is put into a line in which it stands between
boundaries, and any other line is kept. -/
def PatternEngine.ReplacesBy (e : PatternEngine) (pattern : String)
    (b : Boundary) : Prop :=
  ∀ identifier put, e.compile pattern identifier = .ok put → ∀ new line,
    (b.StandsIn identifier.toList line → new <:+: put new line)
      ∧ (¬b.StandsIn identifier.toList line → put new line = line)

namespace Boundary

variable {b : Boundary} {sought new line rest out : List Char}

-- ===================================================== the standard engine

/-- The two cases of a line whose matches are all replaced. -/
theorem ReplacesAll.infix_or_eq (h : b.ReplacesAll sought new [] line out) :
    (b.StandsIn sought line → new <:+: out)
      ∧ (¬b.StandsIn sought line → out = line) := by
  cases h with
  | none nowhere =>
      refine ⟨?_, fun _ => rfl⟩
      rintro ⟨before, after, hline, hmatch⟩
      exact absurd hmatch (nowhere before after hline)
  | @first _ before after out found leftmost more =>
      refine ⟨fun _ => ⟨before, out, List.append_assoc ..⟩, fun hno => ?_⟩
      exact absurd ⟨before, after, rfl, found⟩ hno

/-- There is a boundary somewhere in what is left of a line, its two ends
included; `last` is the character in front of it. -/
def HasPlace (b : Boundary) (last : Option Char) (rest : List Char) : Prop :=
  ∃ before after, rest = before ++ after
    ∧ b.holds (before.getLast?.or last) after.head? = true

/-- Where nothing follows there is one place, the end. -/
theorem hasPlace_nil_iff {last : Option Char} :
    b.HasPlace last [] ↔ b.holds last none = true := by
  constructor
  · rintro ⟨before, after, hline, hholds⟩
    obtain ⟨rfl, rfl⟩ := List.append_eq_nil_iff.1 hline.symm
    exact hholds
  · exact fun hholds => ⟨[], [], rfl, hholds⟩

/-- A place is in front of the next character, or further on. -/
theorem hasPlace_cons_iff {last : Option Char} {c : Char} :
    b.HasPlace last (c :: rest)
      ↔ b.holds last (some c) = true ∨ b.HasPlace (some c) rest := by
  have hlast : ∀ more : List Char,
      (c :: more).getLast?.or last = more.getLast?.or (some c) := by
    intro more
    rw [List.getLast?_cons]
    cases more.getLast? with
    | none => rfl
    | some d => rfl
  constructor
  · rintro ⟨before, after, hline, hholds⟩
    cases before with
    | nil =>
        obtain rfl : c :: rest = after := hline
        exact .inl hholds
    | cons d more =>
        obtain ⟨rfl, rfl⟩ := List.cons.inj hline
        rw [hlast] at hholds
        exact .inr ⟨more, after, rfl, hholds⟩
  · rintro (hholds | ⟨before, after, rfl, hholds⟩)
    · exact ⟨[], c :: rest, rfl, hholds⟩
    · refine ⟨c :: before, after, rfl, ?_⟩
      rwa [hlast]

/-- The empty text stands in a line wherever there is a boundary. -/
theorem standsIn_nil_left_iff : b.StandsIn [] line ↔ b.HasPlace none line := by
  refine exists_congr fun before =>
    exists_congr fun after => and_congr_right fun _ => ?_
  rw [Option.or_none]
  refine ⟨Matches.opens, fun h => ⟨h, ?_⟩⟩
  rwa [List.append_nil]

/-- The new text is put in wherever there is a boundary, and what has none
is kept. -/
theorem substituteFrom_nil (b : Boundary) (new : List Char) :
    ∀ (rest : List Char) (last : Option Char),
      (b.HasPlace last rest → new <:+: substituteFrom b [] new 0 last rest)
        ∧ (¬b.HasPlace last rest →
          substituteFrom b [] new 0 last rest = rest) := by
  have hbounds : ∀ (last : Option Char) (rest : List Char),
      b.bounds [] last rest = b.holds last rest.head? := by
    intro last rest
    simp [bounds]
  intro rest
  induction rest with
  | nil =>
      intro last
      rw [hasPlace_nil_iff, substituteFrom, hbounds, List.head?_nil]
      cases b.holds last none with
      | true => exact ⟨fun _ => List.infix_refl new, fun hno => absurd rfl hno⟩
      | false => exact ⟨fun h => absurd h Bool.false_ne_true, fun _ => rfl⟩
  | cons c rest ih =>
      intro last
      obtain ⟨hplaced, hkept⟩ := ih (some c)
      rw [hasPlace_cons_iff, substituteFrom, hbounds, List.head?_cons]
      cases b.holds last (some c) with
      | true => exact ⟨fun _ => ⟨[], _, rfl⟩, fun hno => absurd (.inl rfl) hno⟩
      | false =>
          refine ⟨?_, fun hno =>
            congrArg (c :: ·) (hkept fun h => hno (.inr h))⟩
          rintro (hholds | hplace)
          · cases hholds
          · obtain ⟨front, back, hout⟩ := hplaced hplace
            exact ⟨c :: front, back, congrArg (c :: ·) hout⟩

end Boundary

/-- The standard engine looks for identifiers by the rules that it knows. -/
theorem PatternEngine.replacesBy_standard {pattern : String} {b : Boundary}
    (h : Boundary.ofPattern? pattern = some b) :
    standard.ReplacesBy pattern b := by
  intro identifier put hput new line
  rw [compile_standard h] at hput
  obtain rfl := Except.ok.inj hput
  by_cases hempty : identifier.toList = []
  · have hall := Boundary.substituteFrom_nil b new line none
    rw [← Boundary.standsIn_nil_left_iff] at hall
    rw [Matcher.apply, hempty]
    exact hall
  · exact (Boundary.replacesAll_substituteFrom b hempty new line.length line []
      (Nat.le_refl _)).infix_or_eq

end Obfuscator
