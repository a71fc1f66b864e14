/-
What a registry knows after any registrations.

Two things of its history: which languages were registered, in the order in
which they were first, and the profile that was registered last for each of
them (`Keeps`). A language without one is looked up as the standard language
is, and that one is built in if it was not registered either. So no lookup
fails, and the copy of the standard profile which the registry keeps beside
the others is never behind them.

# The engine

A registration adds its language at the end unless it is there
(`languages_put`), and is found when its own language is looked up and at no
other time (`find?_put`): these are the two inductions on the profiles. What
one registration keeps is `Keeps.register`, and with it any number of them
do (`Keeps.foldl_register`).
-/
import Mathlib.Data.List.Nodup
import Obfuscator.Listing

namespace Obfuscator

-- ================================================= statement vocabulary

/-- The profile that a history ends with as far as one language is
concerned. -/
def IsLatest (history : List Profile) (l : Language) (p : Profile) : Prop :=
  ∃ before after, history = before ++ p :: after ∧ p.language = l
    ∧ ∀ q ∈ after, q.language ≠ l

/-- Which registration of a language was the first. -/
def firstRegistration (history : List Profile) (l : Language) : Nat :=
  (history.map (·.language)).idxOf l

/-- A registry that knows a history of registrations. -/
structure Registry.Keeps (reg : Registry) (history : List Profile) : Prop where
  /-- No language is listed twice. -/
  once : reg.languages.Nodup
  /-- The languages are those that were registered. -/
  registered : ∀ l, l ∈ reg.languages ↔ ∃ p ∈ history, p.language = l
  /-- They stand in the order of their first registrations. -/
  inOrder : reg.languages.Pairwise fun k l =>
    firstRegistration history k < firstRegistration history l
  /-- There is one entry in the listing for each of them, in the same order. -/
  listing : reg.listing = reg.languages.map fun l =>
    ListingEntry.ofProfile (reg.profile l)
  /-- The profile of each is the one that was registered last. -/
  latest : ∀ l ∈ reg.languages, IsLatest history l (reg.profile l)
  /-- Any other language has the profile of the standard language. -/
  unregistered : ∀ l, l ∉ reg.languages → reg.profile l = reg.profile .standard
  /-- That one is built in as long as it is not registered. -/
  builtin : .standard ∉ reg.languages →
    reg.profile .standard = Profile.javascript
  /-- The fallback is the profile of the standard language. -/
  fallback : reg.fallback = reg.profile .standard

-- ============================================================== histories

/-- What was registered last is the latest of its language. -/
theorem IsLatest.concat_self (history : List Profile) (p : Profile) :
    IsLatest (history ++ [p]) p.language p :=
  ⟨history, [], rfl, rfl, by simp⟩

/-- A registration for another language changes nothing. -/
theorem IsLatest.concat {history : List Profile} {l : Language} {p q : Profile}
    (h : IsLatest history l p) (hq : q.language ≠ l) :
    IsLatest (history ++ [q]) l p := by
  obtain ⟨before, after, rfl, hp, hafter⟩ := h
  refine ⟨before, after ++ [q], by simp, hp, ?_⟩
  intro r hr
  rcases List.mem_append.1 hr with hr | hr
  · exact hafter r hr
  · obtain rfl := List.mem_singleton.1 hr
    exact hq

/-- The first registration of a language stays the first. -/
theorem firstRegistration_concat {history : List Profile} {l : Language}
    (h : ∃ p ∈ history, p.language = l) (q : Profile) :
    firstRegistration (history ++ [q]) l = firstRegistration history l := by
  have hmem : l ∈ history.map (·.language) := List.mem_map.2 h
  rw [firstRegistration, List.map_append, List.idxOf_append_of_mem hmem,
    firstRegistration]

/-- A language that is registered for the first time comes after all others. -/
theorem firstRegistration_lt {history : List Profile} {l : Language}
    {q : Profile} (h : ∃ p ∈ history, p.language = l)
    (hq : ¬∃ p ∈ history, p.language = q.language) :
    firstRegistration (history ++ [q]) l
      < firstRegistration (history ++ [q]) q.language := by
  have hmem : l ∈ history.map (·.language) := List.mem_map.2 h
  have hnot : q.language ∉ history.map (·.language) :=
    fun hm => hq (List.mem_map.1 hm)
  rw [firstRegistration_concat h, firstRegistration, firstRegistration,
    List.map_append, List.idxOf_append_of_notMem hnot]
  exact Nat.lt_of_lt_of_le (List.idxOf_lt_length_of_mem hmem)
    (Nat.le_add_right ..)

namespace Registry

-- ======================================================= one registration

/-- A registration adds its language at the end unless it is there. -/
theorem languages_put (p : Profile) :
    ∀ ps : List Profile,
      (put p ps).map (·.language)
        = if p.language ∈ ps.map (·.language) then ps.map (·.language)
          else ps.map (·.language) ++ [p.language] := by
  intro ps
  induction ps with
  | nil => rfl
  | cons q rest ih =>
      rw [put]
      by_cases hq : q.language = p.language
      · simp [hq]
      · rw [if_neg hq, List.map_cons, ih]
        by_cases hrest : p.language ∈ rest.map (·.language)
        · simp [hrest]
        · simp [hrest, Ne.symm hq]

/-- A registration is found for its own language and for no other. -/
theorem find?_put (p : Profile) (l : Language) :
    ∀ ps : List Profile,
      (put p ps).find? (fun q => decide (q.language = l))
        = if p.language = l then some p
          else ps.find? fun q => decide (q.language = l) := by
  intro ps
  induction ps with
  | nil => by_cases hp : p.language = l <;> simp [put, hp]
  | cons q rest ih =>
      rw [put]
      by_cases hq : q.language = p.language
      · by_cases hp : p.language = l <;> simp [hq, hp]
      · rw [if_neg hq, List.find?_cons, List.find?_cons, ih]
        by_cases hp : p.language = l
        · have hother : q.language ≠ l := hp ▸ hq
          simp [hp, hother]
        · simp [hp]

variable {reg : Registry} {p : Profile} {l : Language} {history : List Profile}

/-- What is found for a language is a profile of it. -/
theorem exists_find?_of_mem_languages (hl : l ∈ reg.languages) :
    ∃ q, reg.profiles.find? (fun q => decide (q.language = l)) = some q
      ∧ q ∈ reg.profiles ∧ q.language = l := by
  have hsome : (reg.profiles.find? fun q =>
      decide (q.language = l)).isSome := by
    obtain ⟨q, hq, hlanguage⟩ := List.mem_map.1 hl
    exact List.find?_isSome.2 ⟨q, hq, decide_eq_true hlanguage⟩
  obtain ⟨q, hfind⟩ := Option.isSome_iff_exists.1 hsome
  have hlanguage := List.find?_some hfind
  exact ⟨q, hfind, List.mem_of_find?_eq_some hfind,
    of_decide_eq_true hlanguage⟩

/-- A language that is new comes last, and one that is known stays where
it is. -/
theorem languages_register (reg : Registry) (p : Profile) :
    (reg.register p).languages
      = if p.language ∈ reg.languages then reg.languages
        else reg.languages ++ [p.language] :=
  languages_put p reg.profiles

theorem mem_languages_register :
    l ∈ (reg.register p).languages ↔ l ∈ reg.languages ∨ l = p.language := by
  rw [languages_register]
  split
  · next hp => exact ⟨Or.inl, fun h => h.elim id fun heq => heq ▸ hp⟩
  · rw [List.mem_append, List.mem_singleton]

theorem profile_register_self : (reg.register p).profile p.language = p := by
  rw [profile, register, find?_put, if_pos rfl, Option.getD_some]

/-- A registration for another language is seen in the fallback only. -/
theorem profile_register_of_ne (hp : p.language ≠ l)
    (hfallback : (reg.register p).fallback = reg.fallback
      ∨ l ∈ reg.languages) :
    (reg.register p).profile l = reg.profile l := by
  have hfind :
      (reg.register p).profiles.find? (fun q => decide (q.language = l))
        = reg.profiles.find? fun q => decide (q.language = l) := by
    rw [register, find?_put, if_neg hp]
  rw [profile, profile, hfind]
  rcases hfallback with hfallback | hl
  · rw [hfallback]
  · obtain ⟨q, hq, -, -⟩ := exists_find?_of_mem_languages hl
    rw [hq, Option.getD_some, Option.getD_some]

-- =========================================================== any registry

/-- A language without a profile gets the fallback. -/
theorem profile_of_notMem (hl : l ∉ reg.languages) :
    reg.profile l = reg.fallback := by
  have hfind : reg.profiles.find? (fun q => decide (q.language = l))
      = none := by
    refine List.find?_eq_none.2 fun q hq hlanguage => hl ?_
    exact List.mem_map.2 ⟨q, hq, of_decide_eq_true hlanguage⟩
  rw [profile, hfind, Option.getD_none]

/-- A profile is in force for its language if no other one has it. -/
theorem profile_of_mem (honce : reg.languages.Nodup) (hp : p ∈ reg.profiles) :
    reg.profile p.language = p := by
  have hl : p.language ∈ reg.languages := List.mem_map_of_mem hp
  obtain ⟨q, hfind, hq, hlanguage⟩ := exists_find?_of_mem_languages hl
  rw [profile, hfind, Option.getD_some]
  exact List.inj_on_of_nodup_map honce hq hp hlanguage

/-- Each language is listed with its profile. -/
theorem listing_eq (honce : reg.languages.Nodup) :
    reg.listing = reg.languages.map fun l =>
      ListingEntry.ofProfile (reg.profile l) := by
  rw [listing, languages, List.map_map]
  refine List.map_congr_left fun p hp => ?_
  rw [Function.comp_apply, profile_of_mem honce hp]

-- ============================================================ any history

namespace Keeps

/-- Nothing registered yet. -/
theorem empty : Registry.empty.Keeps [] where
  once := List.nodup_nil
  registered l := by simp [languages, Registry.empty]
  inOrder := .nil
  listing := rfl
  latest l hl := by cases hl
  unregistered l _ := rfl
  builtin _ := rfl
  fallback := rfl

/-- Languages stay in the order in which they were first registered. -/
theorem inOrder_register (h : reg.Keeps history) (p : Profile) :
    (reg.register p).languages.Pairwise fun k l =>
      firstRegistration (history ++ [p]) k
        < firstRegistration (history ++ [p]) l := by
  have hbefore : reg.languages.Pairwise fun k l =>
      firstRegistration (history ++ [p]) k
        < firstRegistration (history ++ [p]) l := by
    refine h.inOrder.imp_of_mem fun {k l} hk hl hlt => ?_
    rw [firstRegistration_concat ((h.registered k).1 hk),
      firstRegistration_concat ((h.registered l).1 hl)]
    exact hlt
  rw [languages_register]
  split
  · exact hbefore
  · next hp =>
    refine List.pairwise_append.2 ⟨hbefore, List.pairwise_singleton ..,
      fun k hk l hl => ?_⟩
    obtain rfl := List.mem_singleton.1 hl
    exact firstRegistration_lt ((h.registered k).1 hk)
      (mt (h.registered p.language).2 hp)

/-- The fallback follows the standard language, whether that is what is
registered or not. -/
theorem fallback_register (h : reg.Keeps history) (p : Profile) :
    (reg.register p).fallback = (reg.register p).profile .standard := by
  by_cases hp : p.language = .standard
  · rw [← hp, profile_register_self]
    exact if_pos hp
  · have hsame : (reg.register p).fallback = reg.fallback := if_neg hp
    rw [profile_register_of_ne hp (Or.inl hsame), hsame]
    exact h.fallback

/-- One registration. -/
theorem register (h : reg.Keeps history) (p : Profile) :
    (reg.register p).Keeps (history ++ [p]) := by
  have honce : (reg.register p).languages.Nodup := by
    rw [languages_register]
    split
    · exact h.once
    · next hp =>
      rw [← List.concat_eq_append]
      exact h.once.concat hp
  have hfallback := h.fallback_register p
  constructor
  case once => exact honce
  case registered =>
    intro l
    rw [mem_languages_register, h.registered]
    simp [or_and_right, exists_or, eq_comm]
  case inOrder => exact h.inOrder_register p
  case listing => exact listing_eq honce
  case latest =>
    intro l hl
    by_cases hp : p.language = l
    · subst hp
      rw [profile_register_self]
      exact .concat_self history p
    · have hbefore : l ∈ reg.languages :=
        (mem_languages_register.1 hl).resolve_right (Ne.symm hp)
      rw [profile_register_of_ne hp (Or.inr hbefore)]
      exact (h.latest l hbefore).concat hp
  case unregistered =>
    intro l hl
    rw [profile_of_notMem hl, hfallback]
  case builtin =>
    intro hstandard
    have hbefore : Language.standard ∉ reg.languages
        ∧ p.language ≠ .standard := by
      rw [mem_languages_register, not_or] at hstandard
      exact ⟨hstandard.1, Ne.symm hstandard.2⟩
    rw [profile_register_of_ne hbefore.2 (Or.inl (if_neg hbefore.2))]
    exact h.builtin hbefore.1
  case fallback => exact hfallback

/-- Any number of registrations. -/
theorem foldl_register :
    ∀ (later : List Profile) {reg : Registry} {history : List Profile},
      reg.Keeps history →
      (later.foldl Registry.register reg).Keeps (history ++ later) := by
  intro later
  induction later with
  | nil =>
      intro reg history h
      rw [List.append_nil]
      exact h
  | cons p rest ih =>
      intro reg history h
      have hrest := ih (h.register p)
      rw [List.append_assoc, List.singleton_append] at hrest
      exact hrest

end Keeps

/-- Whatever is registered, and whether or not the built-in profiles were
before, the registry knows its history: every language once and in the order
of the first registrations, the profile registered last for each, and for
any other language what there is for the standard language. -/
theorem keeps_registrations (later : List Profile) :
    (later.foldl register empty).Keeps later
      ∧ (later.foldl register standard).Keeps (builtin ++ later) :=
  ⟨Keeps.empty.foldl_register later,
    Keeps.foldl_register later (Keeps.empty.foldl_register builtin)⟩

end Registry

end Obfuscator
