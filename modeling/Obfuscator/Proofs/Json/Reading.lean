/-
A JSON value is read back from the text it is written as.

The text of a value is followed by something, and the reader must stop where
the value ends. So all is said of a text with something behind it: of a
string in quotes, whatever follows; of a number, if nothing follows that
could belong to it (`EndsNumber`); and of a value in the layout over several
lines, where only a comma or a new line can follow. The induction is on the
value, its elements and its members together, and takes the reader's fuel
along: a value takes no more steps than its text has characters, because an
array or an object spends a bracket, a comma and a line on what it costs
(`readValue_prettyChars`).

Numbers are kept as they are written, so it is asked of a value that its
numbers are natural ones, as they are written in decimal (`HasNaturals`).
-/
import Obfuscator.Json.Printer
import Obfuscator.Json.Reader
import Obfuscator.Proofs.Text.Decimal

namespace Obfuscator.Json

open Text (hexDigit hexPadded hexReversed)

-- ================================================================ blanks

/-- Spaces are skipped, however many there are. -/
theorem skipBlank_spaces (k : Nat) (s : List Char) :
    skipBlank (List.replicate k ' ' ++ s) = skipBlank s := by
  induction k with
  | zero => rfl
  | succ k ih =>
      rw [List.replicate_succ, List.cons_append, skipBlank, if_pos (by decide)]
      exact ih

/-- The indentation of a line is skipped with the line end before it. -/
theorem skipBlank_newline (level : Nat) (s : List Char) :
    skipBlank (newline level ++ s) = skipBlank s := by
  rw [newline, List.cons_append, skipBlank, if_pos (by decide)]
  exact skipBlank_spaces (2 * level) s

/-- A character that is not skipped. -/
def IsSolid (c : Char) : Prop := c ≠ ' ' ∧ c ≠ '\n' ∧ c ≠ '\r' ∧ c ≠ '\t'

instance (c : Char) : Decidable (IsSolid c) :=
  inferInstanceAs (Decidable (_ ∧ _))

/-- Nothing is skipped in front of a character that is no blank. -/
theorem skipBlank_cons {c : Char} (h : IsSolid c) (s : List Char) :
    skipBlank (c :: s) = c :: s := by
  obtain ⟨hspace, hfeed, hreturn, htab⟩ := h
  rw [skipBlank, if_neg]
  intro hblank
  rcases hblank with hc | hc | hc | hc
  · exact hspace hc
  · exact hfeed hc
  · exact hreturn hc
  · exact htab hc

-- =============================================================== strings

/-- Of the four digits of a control character the first two are zeros. -/
theorem hexPadded_four {n : Nat} (h : n < 0x20) :
    hexPadded 4 n = ['0', '0', hexDigit (n / 16), hexDigit (n % 16)] := by
  have hzero : hexReversed 0 = [] := by rw [hexReversed, dif_pos rfl]
  unfold hexPadded
  by_cases hn : n = 0
  · rw [hn, hzero]
    decide
  · rw [hexReversed, dif_neg hn]
    by_cases hsmall : n < 16
    · rw [Nat.div_eq_of_lt hsmall, hzero, Nat.mod_eq_of_lt hsmall]
      rfl
    · have hhigh : n / 16 = 1 := by omega
      have hone : hexReversed 1 = ['1'] := by
        rw [hexReversed, dif_neg (by decide), Nat.div_eq_of_lt (by decide),
          hzero]
        decide
      rw [hhigh, hone]
      rfl

/-- The digits of a control character are read back. -/
theorem hexValue4?_control {n : Nat} (h : n < 0x20) :
    hexValue4? '0' '0' (hexDigit (n / 16)) (hexDigit (n % 16)) = some n := by
  have hall : ∀ k : Fin 0x20,
      hexValue4? '0' '0' (hexDigit (k / 16)) (hexDigit (k % 16))
        = some k.val := by
    decide
  exact hall ⟨n, h⟩

/-- The three ways in which a character is written inside a string. -/
theorem escapeChar_cases (c : Char) :
    (∃ a, escapeChar c = ['\\', a] ∧ a ≠ 'u' ∧ unescape? a = some c)
      ∨ (c.toNat < 0x20 ∧ escapeChar c = '\\' :: 'u' :: hexPadded 4 c.toNat)
      ∨ (c ≠ '"' ∧ c ≠ '\\' ∧ ¬ c.toNat < 0x20 ∧ escapeChar c = [c]) := by
  unfold escapeChar
  split
  case isTrue h => exact .inl ⟨'"', rfl, by decide, by rw [h]; rfl⟩
  case isFalse hquote =>
    split
    case isTrue h => exact .inl ⟨'\\', rfl, by decide, by rw [h]; rfl⟩
    case isFalse hslash =>
      split
      case isTrue h => exact .inl ⟨'b', rfl, by decide, by rw [h]; rfl⟩
      case isFalse =>
        split
        case isTrue h => exact .inl ⟨'f', rfl, by decide, by rw [h]; rfl⟩
        case isFalse =>
          split
          case isTrue h => exact .inl ⟨'n', rfl, by decide, by rw [h]; rfl⟩
          case isFalse =>
            split
            case isTrue h => exact .inl ⟨'r', rfl, by decide, by rw [h]; rfl⟩
            case isFalse =>
              split
              case isTrue h => exact .inl ⟨'t', rfl, by decide, by rw [h]; rfl⟩
              case isFalse =>
                split
                case isTrue h => exact .inr (.inl ⟨h, rfl⟩)
                case isFalse h => exact .inr (.inr ⟨hquote, hslash, h, rfl⟩)

/-- An escape with a letter stands for one character. -/
theorem readString_letter {a c : Char} (ha : a ≠ 'u')
    (h : unescape? a = some c) (rest : List Char) :
    readString ('\\' :: a :: rest) = (readString rest).map fun (s, t) =>
      (c :: s, t) := by
  rw [readString.eq_def]
  split
  case h_1 heq => cases heq
  case h_2 heq => cases heq
  case h_3 heq => cases heq; exact absurd rfl ha
  case h_4 heq => cases heq; rw [h]
  case h_5 hslash heq => cases heq; exact (hslash _ _ rfl rfl).elim

/-- An escape with four digits stands for the control character of that
number. -/
theorem readString_control {n : Nat} (h : n < 0x20) (rest : List Char) :
    readString ('\\' :: 'u' :: (hexPadded 4 n ++ rest))
      = (readString rest).map fun (s, t) => (Char.ofNat n :: s, t) := by
  rw [hexPadded_four h]
  show readString ('\\' :: 'u' :: '0' :: '0' :: hexDigit (n / 16)
    :: hexDigit (n % 16) :: rest) = _
  rw [readString, hexValue4?_control h]
  simp only
  rw [if_neg (by omega), if_neg (by omega)]

/-- A character that needs no escape stands for itself. -/
theorem readString_plain {c : Char} (hquote : c ≠ '"') (hslash : c ≠ '\\')
    (hcontrol : ¬ c.toNat < 0x20) (rest : List Char) :
    readString (c :: rest) = (readString rest).map fun (s, t) =>
      (c :: s, t) := by
  rw [readString.eq_def]
  split
  case h_1 heq => cases heq
  case h_2 heq => cases heq; exact absurd rfl hquote
  case h_3 heq => cases heq; exact absurd rfl hslash
  case h_4 heq => cases heq; exact absurd rfl hslash
  case h_5 heq =>
    cases heq
    rw [if_neg]
    intro h
    rcases h with h | h
    · exact hcontrol h
    · exact hslash h

/-- One character is read back. -/
theorem readString_escapeChar (c : Char) (rest : List Char) :
    readString (escapeChar c ++ rest) = (readString rest).map fun (s, t) =>
      (c :: s, t) := by
  rcases escapeChar_cases c with
    ⟨a, heq, ha, hletter⟩ | ⟨hcontrol, heq⟩ | ⟨hquote, hslash, hlow, heq⟩
  · rw [heq]
    exact readString_letter ha hletter rest
  · rw [heq]
    show readString ('\\' :: 'u' :: (hexPadded 4 c.toNat ++ rest)) = _
    rw [readString_control hcontrol, Char.ofNat_toNat]
  · rw [heq]
    exact readString_plain hquote hslash hlow rest

/-- The inside of a string is read back up to the closing quote. -/
theorem readString_escape (s rest : List Char) :
    readString (escape s ++ '"' :: rest) = some (s, rest) := by
  induction s with
  | nil => rw [escape, List.flatMap_nil, List.nil_append, readString]
  | cons c s ih =>
      have hcons : escape (c :: s) = escapeChar c ++ escape s :=
        List.flatMap_cons ..
      rw [hcons, List.append_assoc, readString_escapeChar, ih]
      rfl

-- =============================================================== numbers

/-- No number goes on here. -/
def EndsNumber (rest : List Char) : Prop :=
  ∀ c ∈ rest.head?, c.isDigit = false ∧ c ≠ '.' ∧ c ≠ 'e' ∧ c ≠ 'E'

theorem endsNumber_nil : EndsNumber [] := by
  intro c hc
  cases hc

/-- Every character that is no digit, no point and no letter of an
exponent ends a number. -/
theorem endsNumber_cons {c : Char}
    (h : c.isDigit = false ∧ c ≠ '.' ∧ c ≠ 'e' ∧ c ≠ 'E') (rest : List Char) :
    EndsNumber (c :: rest) := by
  intro d hd
  cases hd
  exact h

theorem endsNumber_newline (level : Nat) (rest : List Char) :
    EndsNumber (newline level ++ rest) :=
  endsNumber_cons (by decide) _

/-- Digits are read up to the end of the number. -/
theorem readDigits_append {digits rest : List Char}
    (hdigits : ∀ c ∈ digits, c.isDigit = true) (h : EndsNumber rest) :
    readDigits (digits ++ rest) = (digits, rest) := by
  unfold readDigits
  rw [List.takeWhile_append_of_pos hdigits,
    List.dropWhile_append_of_pos hdigits]
  cases rest with
  | nil => simp
  | cons c rest =>
      have hc : c.isDigit = false := (h c rfl).1
      rw [List.takeWhile_cons_of_neg (by simp [hc]),
        List.dropWhile_cons_of_neg (by simp [hc]), List.append_nil]

/-- A number that is written out is read as a whole; its first digit is a
zero only if it is zero. -/
theorem readWhole_toString (n : Nat) {rest : List Char} (h : EndsNumber rest) :
    readWhole ((toString n).toList ++ rest)
      = some ((toString n).toList, rest) := by
  by_cases hn : n = 0
  · rw [hn]
    rfl
  · have hhead := Text.head?_toDigits_ne_zero hn
    have hread : readDigits ((toString n).toList ++ rest)
        = ((toString n).toList, rest) :=
      readDigits_append (fun c hc => Text.isDigit_of_mem_toString hc) h
    obtain ⟨c, digits, hdigits, -⟩ := Text.exists_toString_eq_cons n
    rw [← Text.toList_toString, hdigits] at hhead
    have hc : c ≠ '0' := fun hc => hhead (by rw [hc]; rfl)
    rw [hdigits, List.cons_append] at hread ⊢
    rw [readWhole.eq_def]
    split
    case h_1 heq => cases heq; exact absurd rfl hc
    case h_2 => rw [hread]

/-- No fraction is found where a number ends. -/
theorem readFraction_of_endsNumber {rest : List Char} (h : EndsNumber rest) :
    readFraction rest = some ([], rest) := by
  unfold readFraction
  split
  case h_1 => exact absurd rfl (h '.' rfl).2.1
  case h_2 => rfl

theorem readExponent_of_endsNumber {rest : List Char} (h : EndsNumber rest) :
    readExponent rest = some ([], rest) := by
  unfold readExponent
  split
  case h_1 e rest =>
    rw [if_neg]
    intro he
    rcases he with he | he
    · exact (h e rfl).2.2.1 he
    · exact (h e rfl).2.2.2 he
  case h_2 => rfl

/-- A natural number is read back. -/
theorem readNumber_toString (n : Nat) {rest : List Char}
    (h : EndsNumber rest) :
    readNumber ((toString n).toList ++ rest)
      = some ((toString n).toList, rest) := by
  have hwhole := readWhole_toString n h
  have hsign : ∀ s, (toString n).toList ++ rest ≠ '-' :: s := by
    intro s hs
    obtain ⟨c, digits, hdigits, hc⟩ := Text.exists_toString_eq_cons n
    rw [hdigits, List.cons_append] at hs
    exact Text.ne_of_isDigit hc (by decide) (List.cons.inj hs).1
  unfold readNumber
  split
  next sign text hsplit =>
    split at hsplit
    case h_1 s hs => exact absurd hs (hsign s)
    case h_2 =>
      cases hsplit
      simp only [Option.bind_eq_bind, hwhole, Option.bind_some,
        readFraction_of_endsNumber h, readExponent_of_endsNumber h,
        List.append_nil, List.nil_append]
      rfl

-- ================================================================ values

mutual

/-- All numbers of a value are natural numbers. -/
def HasNaturals : Json → Prop
  | .null => True
  | .bool _ => True
  | .number lexeme => ∃ n : Nat, lexeme = toString n
  | .string _ => True
  | .array elements => ElementsHaveNaturals elements
  | .object members => MembersHaveNaturals members
termination_by structural j => j

/-- All numbers of several values are natural numbers. -/
def ElementsHaveNaturals : List Json → Prop
  | [] => True
  | v :: rest => HasNaturals v ∧ ElementsHaveNaturals rest
termination_by structural l => l

/-- All numbers of several members are natural numbers. -/
def MembersHaveNaturals : List (String × Json) → Prop
  | [] => True
  | (_, v) :: rest => HasNaturals v ∧ MembersHaveNaturals rest
termination_by structural l => l

end

/-- An array has no numbers but naturals if none of its elements has
others. -/
theorem elementsHaveNaturals_iff {l : List Json} :
    ElementsHaveNaturals l ↔ ∀ v ∈ l, HasNaturals v := by
  induction l with
  | nil => exact ⟨fun _ => List.forall_mem_nil _, fun _ => trivial⟩
  | cons v rest ih => rw [List.forall_mem_cons, ElementsHaveNaturals, ih]

/-- A character that a value can start with: no blank, and no end of an
array. -/
def StartsValue (c : Char) : Prop := IsSolid c ∧ c ≠ ']'

instance (c : Char) : Decidable (StartsValue c) :=
  inferInstanceAs (Decidable (_ ∧ _))

theorem startsValue_of_isDigit {c : Char} (h : c.isDigit = true) :
    StartsValue c := by
  have hne : ∀ d : Char, d.isDigit = false → c ≠ d :=
    fun d hd => Text.ne_of_isDigit h hd
  exact ⟨⟨hne _ (by decide), hne _ (by decide), hne _ (by decide),
    hne _ (by decide)⟩, hne _ (by decide)⟩

/-- What a value is written as starts as a value can start. -/
theorem exists_prettyChars_eq_cons (level : Nat) {j : Json}
    (h : j.HasNaturals) :
    ∃ c s, prettyChars level j = c :: s ∧ StartsValue c := by
  cases j with
  | null => exact ⟨_, _, rfl, by decide⟩
  | bool b =>
      cases b with
      | false => exact ⟨_, _, rfl, by decide⟩
      | true => exact ⟨_, _, rfl, by decide⟩
  | number lexeme =>
      obtain ⟨n, hn⟩ := h
      obtain ⟨c, s, hdigits, hc⟩ := Text.exists_toString_eq_cons n
      refine ⟨c, s, ?_, startsValue_of_isDigit hc⟩
      rw [prettyChars, hn, hdigits]
  | string s => exact ⟨_, _, rfl, by decide⟩
  | array elements =>
      cases elements with
      | nil => exact ⟨_, _, rfl, by decide⟩
      | cons v rest => exact ⟨_, _, rfl, by decide⟩
  | object members =>
      cases members with
      | nil => exact ⟨_, _, rfl, by decide⟩
      | cons m rest => exact ⟨_, _, rfl, by decide⟩

/-- A text that starts with a digit is read as a number. -/
theorem readValue_of_isDigit (fuel : Nat) {c : Char} (hc : c.isDigit = true)
    (s : List Char) :
    readValue (fuel + 1) (c :: s)
      = (readNumber (c :: s)).map fun (n, t) =>
        (.number (String.ofList n), t) := by
  have hne : ∀ d : Char, d.isDigit = false → c ≠ d :=
    fun d hd => Text.ne_of_isDigit hc hd
  rw [readValue, skipBlank_cons (startsValue_of_isDigit hc).1]
  split
  case h_1 heq => cases heq; exact absurd rfl (hne _ (by decide))
  case h_2 heq => cases heq; exact absurd rfl (hne _ (by decide))
  case h_3 heq => cases heq; exact absurd rfl (hne _ (by decide))
  case h_4 heq => cases heq; exact absurd rfl (hne _ (by decide))
  case h_5 heq => cases heq; exact absurd rfl (hne _ (by decide))
  case h_6 heq => cases heq; exact absurd rfl (hne _ (by decide))
  case h_7 => rfl

/-- An array that has elements is read as its elements. -/
theorem readValue_array (fuel level : Nat) {c : Char} (hc : StartsValue c)
    (s : List Char) :
    readValue (fuel + 1) ('[' :: (newline level ++ (c :: s)))
      = (readElements fuel (c :: s)).map fun (l, t) => (.array l, t) := by
  rw [readValue, skipBlank_cons (by decide)]
  simp only
  rw [skipBlank_newline, skipBlank_cons hc.1]
  split
  case h_1 heq => cases heq; exact absurd rfl hc.2
  case h_2 => rfl

/-- An object that has members is read as its members. -/
theorem readValue_object (fuel level : Nat) (s : List Char) :
    readValue (fuel + 1) ('{' :: (newline level ++ ('"' :: s)))
      = (readMembers fuel ('"' :: s)).map fun (l, t) => (.object l, t) := by
  rw [readValue, skipBlank_cons (by decide)]
  simp only
  rw [skipBlank_newline, skipBlank_cons (by decide)]
  split
  case h_1 heq => cases heq
  case h_2 => rfl

/-- Blanks in front of a value do not count. -/
theorem readValue_of_skipBlank (fuel : Nat) {s s' : List Char}
    (h : skipBlank s = skipBlank s') :
    readValue fuel s = readValue fuel s' := by
  cases fuel with
  | zero => rw [readValue, readValue]
  | succ fuel => rw [readValue, readValue, h]

/-- Indentation in front of elements does not count. -/
theorem readElements_newline (fuel level : Nat) (s : List Char) :
    readElements fuel (newline level ++ s) = readElements fuel s := by
  cases fuel with
  | zero => rw [readElements, readElements]
  | succ fuel =>
      rw [readElements, readElements,
        readValue_of_skipBlank fuel (skipBlank_newline level s)]

theorem readMembers_newline (fuel level : Nat) (s : List Char) :
    readMembers fuel (newline level ++ s) = readMembers fuel s := by
  cases fuel with
  | zero => rw [readMembers, readMembers]
  | succ fuel => rw [readMembers, readMembers, skipBlank_newline]

-- ================================================== elements and members

/-- An element and the end of the array behind it. -/
theorem readElements_last {fuel outer : Nat} {s rest : List Char} {v : Json}
    (h : readValue fuel s = some (v, newline outer ++ ']' :: rest)) :
    readElements (fuel + 1) s = some ([v], rest) := by
  rw [readElements, h]
  simp only
  rw [skipBlank_newline, skipBlank_cons (by decide)]
  rfl

/-- An element and more of them behind it. -/
theorem readElements_more {fuel level : Nat} {s rest rest' : List Char}
    {v : Json} {l : List Json}
    (h : readValue fuel s = some (v, ',' :: (newline level ++ rest)))
    (hmore : readElements fuel rest = some (l, rest')) :
    readElements (fuel + 1) s = some (v :: l, rest') := by
  rw [readElements, h]
  simp only
  rw [skipBlank_cons (by decide)]
  simp only
  rw [readElements_newline, hmore]
  rfl

/-- The key of a member, and its value up to what follows. -/
theorem readMembers_key (fuel : Nat) (k : String) {v : Json}
    {s rest after : List Char} (h : readValue fuel s = some (v, rest)) :
    (skipBlank rest = '}' :: after →
        readMembers (fuel + 1) (quote k ++ ':' :: ' ' :: s)
          = some ([(k, v)], after))
      ∧ (skipBlank rest = ',' :: after →
        readMembers (fuel + 1) (quote k ++ ':' :: ' ' :: s)
          = (readMembers fuel after).map fun (l, t) => ((k, v) :: l, t)) := by
  have hquote : quote k ++ ':' :: ' ' :: s
      = '"' :: (escape k.toList ++ '"' :: ':' :: ' ' :: s) := by
    simp [quote]
  have hvalue : readValue fuel (' ' :: s) = some (v, rest) := by
    rw [readValue_of_skipBlank fuel (show skipBlank (' ' :: s) = skipBlank s
      from rfl), h]
  rw [hquote, readMembers, skipBlank_cons (by decide)]
  simp only
  rw [readString_escape]
  simp only
  rw [skipBlank_cons (by decide)]
  simp only
  rw [hvalue, String.ofList_toList]
  constructor
  · intro hrest
    simp only [hrest]
  · intro hrest
    simp only [hrest]

/-- A member and the end of the object behind it. -/
theorem readMembers_last {fuel outer : Nat} {s rest : List Char}
    {k : String} {v : Json}
    (h : readValue fuel s = some (v, newline outer ++ '}' :: rest)) :
    readMembers (fuel + 1) (quote k ++ ':' :: ' ' :: s)
      = some ([(k, v)], rest) := by
  refine (readMembers_key fuel k h).1 ?_
  rw [skipBlank_newline, skipBlank_cons (by decide)]

/-- A member and more of them behind it. -/
theorem readMembers_more {fuel level : Nat} {s rest rest' : List Char}
    {k : String} {v : Json} {l : List (String × Json)}
    (h : readValue fuel s = some (v, ',' :: (newline level ++ rest)))
    (hmore : readMembers fuel rest = some (l, rest')) :
    readMembers (fuel + 1) (quote k ++ ':' :: ' ' :: s)
      = some ((k, v) :: l, rest') := by
  rw [(readMembers_key fuel k h).2 (skipBlank_cons (by decide) _),
    readMembers_newline, hmore, Option.map_some]

-- ============================================================= the whole

/-- A line end takes one character, and two for each level of indentation.
-/
theorem length_newline (level : Nat) :
    (newline level).length = 2 * level + 1 := by
  rw [newline, List.length_cons, List.length_replicate]

/-- Elements begin with what begins the first of them. -/
theorem exists_prettyElements_eq_cons (level : Nat) {v : Json}
    (more : List Json) (h : v.HasNaturals) :
    ∃ c s, prettyElements level (v :: more) = c :: s ∧ StartsValue c := by
  obtain ⟨c, s, hchars, hc⟩ := exists_prettyChars_eq_cons level h
  cases more with
  | nil => exact ⟨c, s, by rw [prettyElements, hchars], hc⟩
  | cons w more => exact ⟨c, _, by rw [prettyElements, hchars]; rfl, hc⟩

/-- Members begin with the quote of the first key. -/
theorem exists_prettyMembers_eq_cons (level : Nat) (m : String × Json)
    (more : List (String × Json)) :
    ∃ s, prettyMembers level (m :: more) = '"' :: s := by
  cases more with
  | nil => exact ⟨_, rfl⟩
  | cons m' more => exact ⟨_, rfl⟩

mutual

/-- A value is read back from its text, whatever follows that does not
belong to a number. -/
theorem readValue_prettyChars :
    ∀ (j : Json) (fuel level : Nat) (rest : List Char),
      j.HasNaturals → EndsNumber rest →
      (prettyChars level j).length < fuel →
      readValue fuel (prettyChars level j ++ rest) = some (j, rest)
  | _, 0, _, _, _, _, hfuel => absurd hfuel (Nat.not_lt_zero _)
  | .null, _ + 1, _, _, _, _, _ => rfl
  | .bool true, _ + 1, _, _, _, _, _ => rfl
  | .bool false, _ + 1, _, _, _, _, _ => rfl
  | .number lexeme, fuel + 1, level, rest, hj, hrest, _ => by
      obtain ⟨n, hn⟩ := hj
      obtain ⟨c, s, hdigits, hc⟩ := Text.exists_toString_eq_cons n
      have hread := readNumber_toString n hrest
      rw [prettyChars, hn]
      rw [hdigits, List.cons_append] at hread ⊢
      rw [readValue_of_isDigit fuel hc, hread, ← hdigits]
      simp only [Option.map_some, String.ofList_toList]
  | .string s, fuel + 1, level, rest, _, _, _ => by
      rw [prettyChars, quote, List.cons_append, List.cons_append, readValue,
        skipBlank_cons (by decide), List.append_assoc]
      simp only [List.singleton_append, readString_escape, Option.map_some,
        String.ofList_toList]
  | .array [], _ + 1, _, _, _, _, _ => rfl
  | .object [], _ + 1, _, _, _, _, _ => rfl
  | .array (v :: more), fuel + 1, level, rest, hj, _, hfuel => by
      have hshape : prettyChars level (.array (v :: more)) ++ rest
          = '[' :: (newline (level + 1)
            ++ (prettyElements (level + 1) (v :: more)
              ++ (newline level ++ ']' :: rest))) := by
        simp [prettyChars]
      have hlen :
          (prettyElements (level + 1) (v :: more)).length + 1 < fuel := by
        simp only [prettyChars, List.length_append, List.length_cons,
          List.length_nil, length_newline] at hfuel
        omega
      have hread := readElements_prettyElements (v :: more) fuel
        (level + 1) level rest (List.cons_ne_nil v more) hj hlen
      obtain ⟨c, s, hfirst, hc⟩ :=
        exists_prettyElements_eq_cons (level + 1) more hj.1
      rw [hshape]
      rw [hfirst, List.cons_append] at hread ⊢
      rw [readValue_array fuel (level + 1) hc, hread, Option.map_some]
  | .object (m :: more), fuel + 1, level, rest, hj, _, hfuel => by
      have hshape : prettyChars level (.object (m :: more)) ++ rest
          = '{' :: (newline (level + 1)
            ++ (prettyMembers (level + 1) (m :: more)
              ++ (newline level ++ '}' :: rest))) := by
        simp [prettyChars]
      have hlen :
          (prettyMembers (level + 1) (m :: more)).length + 1 < fuel := by
        simp only [prettyChars, List.length_append, List.length_cons,
          List.length_nil, length_newline] at hfuel
        omega
      have hread := readMembers_prettyMembers (m :: more) fuel
        (level + 1) level rest (List.cons_ne_nil m more) hj hlen
      obtain ⟨s, hfirst⟩ := exists_prettyMembers_eq_cons (level + 1) m more
      rw [hshape]
      rw [hfirst, List.cons_append] at hread ⊢
      rw [readValue_object fuel (level + 1), hread, Option.map_some]

/-- Elements are read back up to the end of their array. -/
theorem readElements_prettyElements :
    ∀ (l : List Json) (fuel level outer : Nat) (rest : List Char), l ≠ [] →
      ElementsHaveNaturals l → (prettyElements level l).length + 1 < fuel →
      readElements fuel (prettyElements level l
        ++ (newline outer ++ ']' :: rest)) = some (l, rest)
  | _, 0, _, _, _, _, _, hfuel => absurd hfuel (Nat.not_lt_zero _)
  | [], _ + 1, _, _, _, hne, _, _ => absurd rfl hne
  | [v], fuel + 1, level, outer, rest, _, hl, hfuel => by
      rw [prettyElements] at hfuel ⊢
      exact readElements_last (readValue_prettyChars v fuel level _ hl.1
        (endsNumber_newline outer _) (by omega))
  | v :: w :: more, fuel + 1, level, outer, rest, _, hl, hfuel => by
      simp only [prettyElements, List.length_append, List.length_cons,
        length_newline] at hfuel
      have hmore := readElements_prettyElements
        (w :: more) fuel level outer rest
        (List.cons_ne_nil w more) hl.2 (by omega)
      have hfirst := readValue_prettyChars v fuel level
        (',' :: (newline level ++ (prettyElements level (w :: more)
          ++ (newline outer ++ ']' :: rest)))) hl.1
            (endsNumber_cons (by decide) _) (by omega)
      have hshape : prettyElements level (v :: w :: more)
        ++ (newline outer ++ ']' :: rest)
          = prettyChars level v ++ ','
            :: (newline level ++ (prettyElements level (w :: more)
            ++ (newline outer ++ ']' :: rest))) := by
        simp [prettyElements]
      rw [hshape]
      exact readElements_more hfirst hmore

/-- Members are read back up to the end of their object. -/
theorem readMembers_prettyMembers :
    ∀ (l : List (String × Json)) (fuel level outer : Nat) (rest : List Char),
      l ≠ [] → MembersHaveNaturals l →
      (prettyMembers level l).length + 1 < fuel →
      readMembers fuel (prettyMembers level l
        ++ (newline outer ++ '}' :: rest)) = some (l, rest)
  | _, 0, _, _, _, _, _, hfuel => absurd hfuel (Nat.not_lt_zero _)
  | [], _ + 1, _, _, _, hne, _, _ => absurd rfl hne
  | [(k, v)], fuel + 1, level, outer, rest, _, hl, hfuel => by
      simp only [prettyMembers, List.length_append, List.length_cons] at hfuel
      have hshape : prettyMembers level [(k, v)]
        ++ (newline outer ++ '}' :: rest)
          = quote k ++ ':' :: ' ' :: (prettyChars level v
            ++ (newline outer ++ '}' :: rest)) := by
        simp [prettyMembers]
      rw [hshape]
      exact readMembers_last (readValue_prettyChars v fuel level _ hl.1
        (endsNumber_newline outer _) (by omega))
  | (k, v) :: m :: more, fuel + 1, level, outer, rest, _, hl, hfuel => by
      simp only [prettyMembers, List.length_append, List.length_cons,
        length_newline] at hfuel
      have hmore := readMembers_prettyMembers (m :: more) fuel level outer rest
        (List.cons_ne_nil m more) hl.2 (by omega)
      have hfirst := readValue_prettyChars v fuel level
        (',' :: (newline level ++ (prettyMembers level (m :: more)
          ++ (newline outer ++ '}' :: rest)))) hl.1
            (endsNumber_cons (by decide) _) (by omega)
      have hshape : prettyMembers level ((k, v) :: m :: more)
        ++ (newline outer ++ '}' :: rest)
          = quote k ++ ':' :: ' ' :: (prettyChars level v ++ ','
            :: (newline level
            ++ (prettyMembers level (m :: more)
              ++ (newline outer ++ '}' :: rest)))) := by
        simp [prettyMembers]
      rw [hshape]
      exact readMembers_more hfirst hmore

end

/-- A value whose numbers are natural is read back from its text over
several lines. -/
theorem parse?_pretty {j : Json} (h : j.HasNaturals) :
    parse? j.pretty = some j := by
  have hlen : (prettyChars 0 j).length < 2 * (pretty j).length + 2 := by
    rw [pretty, String.length_ofList]
    omega
  have hread := readValue_prettyChars j (2 * (pretty j).length + 2) 0
    [] h endsNumber_nil hlen
  rw [List.append_nil] at hread
  unfold parse?
  rw [show (pretty j).toList
    = prettyChars 0 j by rw [pretty, String.toList_ofList], hread]
  rfl

/-- Two values whose numbers are natural are not written alike. -/
theorem pretty_injective {j j' : Json} (h : j.HasNaturals)
    (h' : j'.HasNaturals) (heq : j.pretty = j'.pretty) : j = j' := by
  have hread := parse?_pretty h
  rw [heq, parse?_pretty h'] at hread
  exact (Option.some_inj.1 hread).symm

end Obfuscator.Json
