/-
Which documents give options, and what they give.

A document is read entry by entry, and the first entry at fault ends it.
This file says what comes of that without the reading: a document gives
options exactly if every entry names a field, no field is named twice, and
every value is of the kind of its field (`IsConfiguration`); the options
then hold what the entries give and nothing else. So neither the order of
the entries nor the spelling of their keys matters, as long as there is no
fault; if there is one, the order decides which fault is told.

# The engine

`Settled` is what the reading knows of the entries behind it. An entry keeps
it (`Settled.snoc`) or is at fault (`Settled.setEntry_eq_error`), and which
of the two it is depends on the entries behind it alone
(`IsConfiguration.snoc_or_fault`). So the reading gets through any entries
without a fault to whatever follows them (`exists_settled`), and the first
entry with a fault is where it ends.
-/
import Mathlib.Data.List.Induction
import Mathlib.Data.List.Perm.Basic
import Obfuscator.Options.Document

namespace Obfuscator

-- ================================================= statement vocabulary

namespace Field

/-- A key that names a field, in either of its spellings. -/
def Names (f : Field) (key : String) : Prop := key = f.name ∨ key = f.camelName

instance (f : Field) (key : String) : Decidable (f.Names key) :=
  inferInstanceAs (Decidable (key = f.name ∨ key = f.camelName))

/-- A value of the kind that a field takes: a truth value for a switch, a
string for a credential. -/
def Takes : Field → Toml.Value → Prop
  | switch _, v => ∃ b, v = .boolean b
  | credential _, v => ∃ key, v = .string key

end Field

/-- The value that options hold for a field. -/
def Options.value (o : Options) : Field → Toml.Value
  | .switch s => .boolean (o.isOn s)
  | .credential c => .string (o.credential c)

/-- Entries that give a field a value. -/
def Gives (es : Toml.Entries) (f : Field) (v : Toml.Value) : Prop :=
  ∃ key, f.Names key ∧ (key, v) ∈ es

/-- Entries without a fault. -/
structure IsConfiguration (es : Toml.Entries) : Prop where
  /-- Every entry names a field. -/
  known : ∀ e ∈ es, ∃ f : Field, f.Names e.1
  /-- No two entries name one field, be it in one spelling or in two. -/
  once : es.Pairwise fun d e => ∀ f : Field, f.Names d.1 → ¬f.Names e.1
  /-- Every value is of the kind of its field. -/
  kinds : ∀ f v, Gives es f v → f.Takes v

/-- What is wrong with an entry that stands behind others. Each fault rules
out those before it. -/
inductive EntryFault.Of (before : Toml.Entries) (key : String)
    (v : Toml.Value) :
    EntryFault → Prop
  | unknownKey (hkey : ∀ f : Field, ¬f.Names key) :
      Of before key v (.unknownKey key)
  | duplicateField {f : Field} (hkey : f.Names key)
      (hgiven : ∃ w, Gives before f w) :
      Of before key v (.duplicateField f)
  | wrongKind {f : Field} (hkey : f.Names key) (hnew : ∀ w, ¬Gives before f w)
      (hkind : ¬f.Takes v) : Of before key v (.wrongKind f v.unexpected)

/-- Two entries that give one value to one field, each in a spelling of its
own. -/
def Respells (d e : String × Toml.Value) : Prop :=
  d.2 = e.2 ∧ ∃ f : Field, f.Names d.1 ∧ f.Names e.1

/-- The same settings, in another order and with any keys in their other
spelling. -/
def SameSettings (es es' : Toml.Entries) : Prop :=
  ∃ respelled : Toml.Entries, List.Forall₂ Respells es respelled
    ∧ respelled.Perm es'

-- ================================================================ fields

namespace Field

theorem mem_all (f : Field) : f ∈ all := by
  cases f with
  | switch s => cases s <;> decide
  | credential c => cases c <;> decide

/-- The sixteen spellings are all different. -/
theorem Names.unique {f g : Field} {key : String} (hf : f.Names key)
    (hg : g.Names key) :
    f = g := by
  have htable : ∀ f ∈ all, ∀ g ∈ all, ∀ key ∈ [f.name, f.camelName],
      g.Names key → f = g := by decide
  refine htable f (mem_all f) g (mem_all g) key ?_ hg
  rcases hf with rfl | rfl
  · exact List.mem_cons_self
  · exact List.mem_cons_of_mem _ List.mem_cons_self

/-- A key is looked up as the field that it names. -/
theorem ofKey?_eq_some_iff {f : Field} {key : String} :
    ofKey? key = some f ↔ f.Names key := by
  constructor
  · intro h
    have hspelled := List.find?_some h
    simp only [Bool.or_eq_true, decide_eq_true_eq] at hspelled
    exact hspelled.imp Eq.symm Eq.symm
  · intro h
    cases hfound : ofKey? key with
    | none =>
        have hnot := List.find?_eq_none.1 hfound f (mem_all f)
        simp only [Bool.or_eq_true, decide_eq_true_eq, not_or] at hnot
        rcases h with rfl | rfl
        · exact absurd rfl hnot.1
        · exact absurd rfl hnot.2
    | some g =>
        have hspelled := List.find?_some hfound
        simp only [Bool.or_eq_true, decide_eq_true_eq] at hspelled
        rw [Names.unique (hspelled.imp Eq.symm Eq.symm) h]

/-- A key is unknown exactly if it names no field. -/
theorem ofKey?_eq_none_iff {key : String} :
    ofKey? key = none ↔ ∀ f : Field, ¬f.Names key := by
  simp only [Option.eq_none_iff_forall_ne_some, ne_eq, ofKey?_eq_some_iff]

end Field

-- =============================================================== options

namespace Options

variable {o o' : Options} {f : Field} {v : Toml.Value}

/-- Options that hold the same values are the same. -/
theorem ext_value (h : ∀ f, o.value f = o'.value f) : o = o' := by
  have hswitch : ∀ s, o.isOn s = o'.isOn s :=
    fun s => Toml.Value.boolean.inj (h (.switch s))
  have hkey : ∀ c, o.credential c = o'.credential c := fun c =>
    Toml.Value.string.inj (h (.credential c))
  obtain ⟨rename, junk, mutate, canary, executable, hardware,
    license, api⟩ := o
  obtain ⟨rename', junk', mutate', canary', executable', hardware',
    license', api'⟩ := o'
  obtain rfl : rename = rename' := hswitch .renameVariables
  obtain rfl : junk = junk' := hswitch .injectJunk
  obtain rfl : mutate = mutate' := hswitch .mutate
  obtain rfl : canary = canary' := hswitch .injectCanary
  obtain rfl : executable = executable' := hswitch .generateExecutable
  obtain rfl : hardware = hardware' := hswitch .bindHardware
  obtain rfl : license = license' := hkey .licenseKey
  obtain rfl : api = api' := hkey .apiKey
  rfl

/-- Turning a switch sets that field and no other. -/
theorem value_turn (o : Options) (s : Switch) (b : Bool) (g : Field) :
    (o.turn s b).value g
      = if g = .switch s then .boolean b else o.value g := by
  cases g with
  | switch t => cases s <;> cases t <;> rfl
  | credential c => cases s <;> cases c <;> rfl

theorem value_setCredential (o : Options) (c : Credential) (key : String)
    (g : Field) :
    (o.setCredential c key).value g
      = if g = .credential c then .string key else o.value g := by
  cases g with
  | switch t => cases c <;> cases t <;> rfl
  | credential d => cases c <;> cases d <;> rfl

/-- A value of its kind is set, and no other field changes. -/
theorem exists_setField_eq_ok (o : Options) (h : f.Takes v) :
    ∃ o', o.setField f v = .ok o'
      ∧ ∀ g, o'.value g = if g = f then v else o.value g := by
  cases f with
  | switch s =>
      obtain ⟨b, rfl⟩ := h
      exact ⟨o.turn s b, rfl, value_turn o s b⟩
  | credential c =>
      obtain ⟨key, rfl⟩ := h
      exact ⟨o.setCredential c key, rfl, value_setCredential o c key⟩

/-- A value of another kind is refused. -/
theorem setField_eq_error (o : Options) (h : ¬f.Takes v) :
    o.setField f v = .error (.wrongKind f v.unexpected) := by
  cases f with
  | switch s =>
      cases v with
      | boolean b => exact absurd ⟨b, rfl⟩ h
      | _ => rfl
  | credential c =>
      cases v with
      | string key => exact absurd ⟨key, rfl⟩ h
      | _ => rfl

end Options

-- ====================================================== one more entry

variable {before after es es' : Toml.Entries} {key : String} {v w : Toml.Value}
  {f : Field}

/-- What a longer document gives was given before, or is in its last
entry. -/
theorem gives_snoc :
    Gives (before ++ [(key, v)]) f w ↔ Gives before f w
      ∨ (f.Names key ∧ w = v) := by
  simp only [Gives, List.mem_append, List.mem_singleton, Prod.mk.injEq]
  constructor
  · rintro ⟨k, hk, hmem | ⟨rfl, rfl⟩⟩
    · exact Or.inl ⟨k, hk, hmem⟩
    · exact Or.inr ⟨hk, rfl⟩
  · rintro (⟨k, hk, hmem⟩ | ⟨hk, rfl⟩)
    · exact ⟨k, hk, Or.inl hmem⟩
    · exact ⟨key, hk, Or.inr ⟨rfl, rfl⟩⟩

/-- A field that no entry names is not given. -/
theorem not_gives (h : ∀ e ∈ es, ¬f.Names e.1) (v : Toml.Value) :
    ¬Gives es f v := by
  rintro ⟨key, hkey, hmem⟩
  exact h (key, v) hmem hkey

theorem not_gives_nil (f : Field) (v : Toml.Value) : ¬Gives [] f v :=
  not_gives (by simp) v

namespace IsConfiguration

theorem nil : IsConfiguration [] where
  known := by simp
  once := .nil
  kinds := fun f v hgives => absurd hgives (not_gives_nil f v)

/-- One more entry without a fault. -/
theorem snoc (h : IsConfiguration before) (hkey : f.Names key)
    (hnew : ∀ w, ¬Gives before f w) (hkind : f.Takes v) :
    IsConfiguration (before ++ [(key, v)]) where
  known := by
    intro e he
    rcases List.mem_append.1 he with he | he
    · exact h.known e he
    · obtain rfl := List.mem_singleton.1 he
      exact ⟨f, hkey⟩
  once := by
    refine List.pairwise_append.2 ⟨h.once, List.pairwise_singleton _ _, ?_⟩
    intro d hd e he g hg hg'
    obtain rfl := List.mem_singleton.1 he
    obtain rfl := hkey.unique hg'
    exact hnew d.2 ⟨d.1, hg, hd⟩
  kinds := by
    intro g w hgives
    rcases gives_snoc.1 hgives with hgives | ⟨hg, rfl⟩
    · exact h.kinds g w hgives
    · exact hg.unique hkey ▸ hkind

/-- The entries in front of others have no fault if there is none in all of
them. -/
theorem of_append (h : IsConfiguration (before ++ after)) :
    IsConfiguration before where
  known := fun e he => h.known e (List.mem_append_left _ he)
  once := (List.pairwise_append.1 h.once).1
  kinds := fun g w ⟨k, hk, hmem⟩ =>
    h.kinds g w ⟨k, hk, List.mem_append_left _ hmem⟩

/-- The entry behind entries has no fault if there is none in all of them. -/
theorem last (h : IsConfiguration (before ++ [(key, v)])) :
    ∃ f : Field, f.Names key ∧ (∀ w, ¬Gives before f w) ∧ f.Takes v := by
  obtain ⟨f, hkey⟩ :=
    h.known (key, v) (List.mem_append_right _ List.mem_cons_self)
  refine ⟨f, hkey, ?_, h.kinds f v (gives_snoc.2 (Or.inr ⟨hkey, rfl⟩))⟩
  rintro w ⟨k, hk, hmem⟩
  exact (List.pairwise_append.1 h.once).2.2 (k, w) hmem
    (key, v) List.mem_cons_self f hk hkey

/-- Behind entries without a fault, an entry has a fault or makes one more
of them. -/
theorem snoc_or_fault (h : IsConfiguration before) (key : String)
    (v : Toml.Value) :
    IsConfiguration (before ++ [(key, v)])
      ∨ ∃ fault, EntryFault.Of before key v fault := by
  by_cases hkey : ∃ f : Field, f.Names key
  · obtain ⟨f, hkey⟩ := hkey
    by_cases hgiven : ∃ w, Gives before f w
    · exact Or.inr ⟨_, .duplicateField hkey hgiven⟩
    · have hnew : ∀ w, ¬Gives before f w := not_exists.1 hgiven
      by_cases hkind : f.Takes v
      · exact Or.inl (h.snoc hkey hnew hkind)
      · exact Or.inr ⟨_, .wrongKind hkey hnew hkind⟩
  · exact Or.inr ⟨_, .unknownKey (not_exists.1 hkey)⟩

/-- Entries are without a fault, or there is a first one that has one. -/
theorem or_exists_fault (es : Toml.Entries) :
    IsConfiguration es ∨ ∃ before key v after fault,
      es = before ++ (key, v) :: after
      ∧ IsConfiguration before ∧ EntryFault.Of before key v fault := by
  induction es using List.reverseRecOn with
  | nil => exact Or.inl .nil
  | append_singleton es e ih =>
      obtain ⟨key, v⟩ := e
      rcases ih with h | ⟨before, k, w, after, fault, rfl, h, hfault⟩
      · rcases h.snoc_or_fault key v with hsnoc | ⟨fault, hfault⟩
        · exact Or.inl hsnoc
        · exact Or.inr ⟨es, key, v, [], fault, rfl, h, hfault⟩
      · refine Or.inr ⟨before, k, w, after ++ [(key, v)], fault, ?_, h, hfault⟩
        rw [List.append_assoc, List.cons_append]

end IsConfiguration

-- =========================================================== the reading

/-- What is settled when some entries were read: the options hold what they
give, and the fields that were named are known. -/
structure Settled (before : Toml.Entries) (o : Options) (given : List Field) :
    Prop where
  accepted : IsConfiguration before
  length_eq : given.length = before.length
  mem_iff : ∀ f, f ∈ given ↔ ∃ v, Gives before f v
  value_eq : ∀ f v, Gives before f v → o.value f = v
  value_default : ∀ f, (∀ v, ¬Gives before f v) →
    o.value f = ({} : Options).value f

namespace Settled

variable {o : Options} {given : List Field}

/-- Without entries the options are as they are by default. -/
theorem nil : Settled [] {} [] where
  accepted := .nil
  length_eq := rfl
  mem_iff := by simp [not_gives_nil]
  value_eq := fun f v hgives => absurd hgives (not_gives_nil f v)
  value_default := fun _ _ => rfl

/-- An entry without a fault is read, and settles its field. -/
theorem snoc (h : Settled before o given)
    (haccepted : IsConfiguration (before ++ [(key, v)])) :
    ∃ o' f, o.setEntry given key v = .ok (o', f)
      ∧ Settled (before ++ [(key, v)]) o' (f :: given) := by
  obtain ⟨f, hkey, hnew, hkind⟩ := haccepted.last
  have hgiven : f ∉ given := by
    rw [h.mem_iff]
    exact not_exists.2 hnew
  obtain ⟨o', hset, hvalue⟩ := Options.exists_setField_eq_ok o hkind
  refine ⟨o', f, ?_, ?_⟩
  · simp only [Options.setEntry, Field.ofKey?_eq_some_iff.2 hkey,
      if_neg hgiven, hset]
    rfl
  · refine ⟨haccepted, by simp [h.length_eq], ?_, ?_, ?_⟩
    · intro g
      rw [List.mem_cons, h.mem_iff]
      simp only [gives_snoc]
      constructor
      · rintro (rfl | ⟨w, hw⟩)
        · exact ⟨v, Or.inr ⟨hkey, rfl⟩⟩
        · exact ⟨w, Or.inl hw⟩
      · rintro ⟨w, hw | ⟨hg, rfl⟩⟩
        · exact Or.inr ⟨w, hw⟩
        · exact Or.inl (hg.unique hkey)
    · intro g w hgives
      rw [hvalue]
      rcases gives_snoc.1 hgives with hgives | ⟨hg, rfl⟩
      · have hne : g ≠ f := fun heq => hnew w (heq ▸ hgives)
        rw [if_neg hne]
        exact h.value_eq g w hgives
      · rw [if_pos (hg.unique hkey)]
    · intro g hnone
      have hne : g ≠ f :=
        fun heq => hnone v (gives_snoc.2 (Or.inr ⟨heq ▸ hkey, rfl⟩))
      rw [hvalue, if_neg hne]
      exact h.value_default g fun w hw => hnone w (gives_snoc.2 (Or.inl hw))

/-- An entry with a fault is refused for it. -/
theorem setEntry_eq_error (h : Settled before o given) {fault : EntryFault}
    (hfault : EntryFault.Of before key v fault) :
    o.setEntry given key v = .error fault := by
  cases hfault with
  | unknownKey hkey =>
      simp only [Options.setEntry, Field.ofKey?_eq_none_iff.2 hkey]
  | duplicateField hkey hgiven =>
      simp only [Options.setEntry, Field.ofKey?_eq_some_iff.2 hkey,
        if_pos ((h.mem_iff _).2 hgiven)]
  | wrongKind hkey hnew hkind =>
      have hgiven := mt (h.mem_iff _).1 (not_exists.2 hnew)
      simp only [Options.setEntry, Field.ofKey?_eq_some_iff.2 hkey,
        if_neg hgiven, Options.setField_eq_error o hkind]
      rfl

end Settled

namespace Options

/-- The reading gets through entries without a fault to whatever follows
them. -/
theorem exists_settled :
    ∀ (middle before : Toml.Entries) (o : Options) (given : List Field),
      Settled before o given → IsConfiguration (before ++ middle) →
        ∃ o' given', Settled (before ++ middle) o' given'
          ∧ ∀ after, ofEntriesFrom o given (middle ++ after)
            = ofEntriesFrom o' given' after := by
  intro middle
  induction middle with
  | nil =>
      intro before o given h _
      exact ⟨o, given, by rwa [List.append_nil], fun after => rfl⟩
  | cons e middle ih =>
      intro before o given h haccepted
      obtain ⟨key, v⟩ := e
      rw [List.append_cons] at haccepted
      obtain ⟨o₁, f, hentry, h₁⟩ := h.snoc haccepted.of_append
      obtain ⟨o₂, given₂, h₂, hrest⟩ :=
        ih (before ++ [(key, v)]) o₁ (f :: given) h₁ haccepted
      refine ⟨o₂, given₂, by rwa [List.append_cons], fun after => ?_⟩
      rw [List.cons_append, ofEntriesFrom, hentry]
      exact hrest after

/-- A document without a fault gives options, and these are settled by its
entries. -/
theorem exists_ofEntries_eq_ok (h : IsConfiguration es) :
    ∃ o given, ofEntries es = .ok o ∧ Settled es o given := by
  obtain ⟨o, given, hsettled, hread⟩ := exists_settled es [] {} [] .nil h
  refine ⟨o, given, ?_, hsettled⟩
  have hend := hread []
  rw [List.append_nil] at hend
  exact hend

/-- The first entry with a fault is what is complained of. -/
theorem ofEntries_eq_error {fault : EntryFault} (h : IsConfiguration before)
    (hfault : EntryFault.Of before key v fault) (after : Toml.Entries) :
    ofEntries (before ++ (key, v) :: after)
      = .error (.entry (before.length + 1) fault) := by
  obtain ⟨o, given, hsettled, hread⟩ := exists_settled before [] {} [] .nil h
  rw [List.nil_append] at hsettled
  rw [ofEntries, hread, ofEntriesFrom, hsettled.setEntry_eq_error hfault,
    hsettled.length_eq]

/-- A document is refused for its first entry with a fault, and for the
first fault of that entry. -/
theorem ofEntries_eq_error_iff (es : Toml.Entries) (e : DocumentError) :
    ofEntries es = .error e ↔
      ∃ before key v after fault, es = before ++ (key, v) :: after
        ∧ IsConfiguration before ∧ EntryFault.Of before key v fault
        ∧ e = .entry (before.length + 1) fault := by
  constructor
  · intro herror
    rcases IsConfiguration.or_exists_fault es with
      h | ⟨before, key, v, after, fault, rfl, h, hfault⟩
    · obtain ⟨o, given, hok, -⟩ := exists_ofEntries_eq_ok h
      rw [hok] at herror
      cases herror
    · rw [ofEntries_eq_error h hfault after] at herror
      exact ⟨before, key, v, after, fault, rfl, h, hfault,
        (Except.error.inj herror).symm⟩
  · rintro ⟨before, key, v, after, fault, rfl, h, hfault, rfl⟩
    exact ofEntries_eq_error h hfault after

/-- Options are given for entries without a fault only, and are settled by
them. -/
theorem exists_settled_of_ofEntries_eq_ok {o : Options}
    (hok : ofEntries es = .ok o) :
    ∃ given, Settled es o given := by
  rcases IsConfiguration.or_exists_fault es with
    h | ⟨before, key, v, after, fault, rfl, h, hfault⟩
  · obtain ⟨o', given, hok', hsettled⟩ := exists_ofEntries_eq_ok h
    rw [hok] at hok'
    obtain rfl := Except.ok.inj hok'
    exact ⟨given, hsettled⟩
  · rw [ofEntries_eq_error h hfault after] at hok
    cases hok

end Options

-- ==================================================== order and spelling

/-- Two spellings of a key name the same field. -/
theorem Respells.names_iff {d e : String × Toml.Value} (h : Respells d e)
    (f : Field) :
    f.Names d.1 ↔ f.Names e.1 := by
  obtain ⟨-, g, hd, he⟩ := h
  constructor
  · intro hf
    exact hf.unique hd ▸ he
  · intro hf
    exact hf.unique he ▸ hd

/-- Every entry in the new spelling was there in the old one. -/
theorem exists_respells_of_mem {e : String × Toml.Value}
    (h : List.Forall₂ Respells es es') (he : e ∈ es') :
    ∃ d ∈ es, Respells d e := by
  induction h with
  | nil => cases he
  | cons hde _ ih =>
      rcases List.mem_cons.1 he with rfl | he
      · exact ⟨_, List.mem_cons_self, hde⟩
      · obtain ⟨d, hd, hrespells⟩ := ih he
        exact ⟨d, List.mem_cons_of_mem _ hd, hrespells⟩

namespace IsConfiguration

/-- Other spellings make no fault. -/
theorem respelled (h : IsConfiguration es)
    (hsame : List.Forall₂ Respells es es') :
    IsConfiguration es' where
  known := by
    intro e he
    obtain ⟨d, hd, hrespells⟩ := exists_respells_of_mem hsame he
    obtain ⟨f, hf⟩ := h.known d hd
    exact ⟨f, (hrespells.names_iff f).1 hf⟩
  once := by
    have honce := h.once
    clear h
    induction hsame with
    | nil => exact .nil
    | cons hde hrest ih =>
        obtain ⟨hfirst, honce⟩ := List.pairwise_cons.1 honce
        refine List.pairwise_cons.2 ⟨?_, ih honce⟩
        intro e' he' f hf hf'
        obtain ⟨d', hd', hrespells⟩ := exists_respells_of_mem hrest he'
        exact hfirst d' hd' f ((hde.names_iff f).2 hf)
          ((hrespells.names_iff f).2 hf')
  kinds := by
    rintro f v ⟨key, hkey, hmem⟩
    obtain ⟨d, hd, hrespells⟩ := exists_respells_of_mem hsame hmem
    obtain rfl : d.2 = v := hrespells.1
    exact h.kinds f d.2 ⟨d.1, (hrespells.names_iff f).2 hkey, hd⟩

/-- Nor does another order. -/
theorem perm (h : IsConfiguration es) (hperm : es.Perm es') :
    IsConfiguration es' where
  known := fun e he => h.known e (hperm.mem_iff.2 he)
  once := by
    refine h.once.perm hperm ?_
    intro d e hde f he hd
    exact hde f hd he
  kinds := fun f v ⟨key, hkey, hmem⟩ =>
    h.kinds f v ⟨key, hkey, hperm.mem_iff.2 hmem⟩

end IsConfiguration

namespace SameSettings

/-- A document of the same settings is without a fault as well. -/
theorem isConfiguration (hsame : SameSettings es es')
    (h : IsConfiguration es) :
    IsConfiguration es' := by
  obtain ⟨respelled, hrespelled, hperm⟩ := hsame
  exact (h.respelled hrespelled).perm hperm

/-- What is given afterwards was given before. -/
theorem gives_of_gives (hsame : SameSettings es es') (hgives : Gives es' f v) :
    Gives es f v := by
  obtain ⟨respelled, hrespelled, hperm⟩ := hsame
  obtain ⟨key, hkey, hmem⟩ := hgives
  obtain ⟨d, hd, hrespells⟩ :=
    exists_respells_of_mem hrespelled (hperm.mem_iff.2 hmem)
  obtain rfl : d.2 = v := hrespells.1
  exact ⟨d.1, (hrespells.names_iff f).2 hkey, hd⟩

theorem symm (hsame : SameSettings es es') : SameSettings es' es := by
  obtain ⟨respelled, hrespelled, hperm⟩ := hsame
  have hback : List.Forall₂ Respells respelled es := by
    refine hrespelled.flip.imp ?_
    rintro e d ⟨hvalue, f, hd, he⟩
    exact ⟨hvalue.symm, f, he, hd⟩
  exact List.perm_comp_forall₂ hperm.symm hback

/-- Documents of the same settings give the same values. -/
theorem gives_iff (hsame : SameSettings es es') :
    Gives es' f v ↔ Gives es f v :=
  ⟨hsame.gives_of_gives, hsame.symm.gives_of_gives⟩

/-- Entries of the same settings give the same options. -/
theorem ofEntries_eq_ok (hsame : SameSettings es es') {o : Options}
    (hok : Options.ofEntries es = .ok o) : Options.ofEntries es' = .ok o := by
  obtain ⟨given, hsettled⟩ := Options.exists_settled_of_ofEntries_eq_ok hok
  obtain ⟨o', given', hok', hsettled'⟩ :=
    Options.exists_ofEntries_eq_ok (hsame.isConfiguration hsettled.accepted)
  have hsame : o' = o := by
    refine Options.ext_value fun f => ?_
    by_cases hgiven : ∃ v, Gives es f v
    · obtain ⟨v, hv⟩ := hgiven
      rw [hsettled.value_eq f v hv,
        hsettled'.value_eq f v (hsame.gives_iff.2 hv)]
    · have hnone : ∀ v, ¬Gives es f v := not_exists.1 hgiven
      have hnone' : ∀ v, ¬Gives es' f v :=
        fun v hv => hnone v (hsame.gives_iff.1 hv)
      rw [hsettled.value_default f hnone, hsettled'.value_default f hnone']
  rw [hok', hsame]

end SameSettings

-- ============================================================ the whole

namespace Options

/-- A text that is a document gives what its entries give. -/
theorem ofDocument_of_parse {text : String} (h : Toml.parse text = .ok es) :
    ofDocument text = ofEntries es := by
  simp only [ofDocument, h]

/-- What a document gives. It gives options exactly if its entries are
without a fault; these hold the value of every field that is given and the
default of every other, so that any document of the same settings gives the
same options. A document that gives none is refused for its first entry with
a fault, and for the first of the faults of that entry. -/
theorem ofDocument_by_entries (text : String) (es : Toml.Entries)
    (h : Toml.parse text = .ok es) :
    ((∃ o, ofDocument text = .ok o) ↔ IsConfiguration es)
      ∧ (∀ o, ofDocument text = .ok o →
          (∀ f v, Gives es f v → o.value f = v)
            ∧ (∀ f, (∀ v, ¬Gives es f v) → o.value f = ({} : Options).value f)
            ∧ ∀ text' es', Toml.parse text' = .ok es' → SameSettings es es' →
                ofDocument text' = .ok o)
      ∧ ∀ e, ofDocument text = .error e ↔
          ∃ before key v after fault, es = before ++ (key, v) :: after
            ∧ IsConfiguration before ∧ EntryFault.Of before key v fault
            ∧ e = .entry (before.length + 1) fault := by
  rw [ofDocument_of_parse h]
  refine ⟨⟨?_, ?_⟩, ?_, ofEntries_eq_error_iff es⟩
  · rintro ⟨o, hok⟩
    obtain ⟨given, hsettled⟩ := exists_settled_of_ofEntries_eq_ok hok
    exact hsettled.accepted
  · intro haccepted
    obtain ⟨o, given, hok, -⟩ := exists_ofEntries_eq_ok haccepted
    exact ⟨o, hok⟩
  · intro o hok
    obtain ⟨given, hsettled⟩ := exists_settled_of_ofEntries_eq_ok hok
    refine ⟨hsettled.value_eq, hsettled.value_default, ?_⟩
    intro text' es' h' hsame
    rw [ofDocument_of_parse h']
    exact hsame.ofEntries_eq_ok hok

/-- A document whose second entry names the field of the first in its other
spelling, and has a table for a value; the third entry names no field. -/
def trialDocument : String :=
  "junkCodeInjection = true\njunk_code_injection = \x7bx = 1\x7d\nother = 0\n"

/-- The entries of that document. -/
def trialEntries : Toml.Entries :=
  [("junkCodeInjection", .boolean true),
    ("junk_code_injection", .table .braces [("x", .integer 1)]),
    ("other", .integer 0)]

/-- A document without a fault, and another one of the same settings. -/
def trialSettings : String := "junkCodeInjection = true\nlicense_key = \"K\"\n"

def trialRespelling : String :=
  "licenseKey = \"K\"\njunk_code_injection = true\n"

/-- The entries of the two. -/
def settingsEntries : Toml.Entries :=
  [("junkCodeInjection", .boolean true), ("license_key", .string "K")]

def respellingEntries : Toml.Entries :=
  [("licenseKey", .string "K"), ("junk_code_injection", .boolean true)]

theorem isConfiguration_firstEntry :
    IsConfiguration [("junkCodeInjection", .boolean true)] :=
  IsConfiguration.nil.snoc (f := .switch .injectJunk) (by decide)
    (not_gives_nil _) ⟨true, rfl⟩

theorem isConfiguration_settingsEntries : IsConfiguration settingsEntries :=
  isConfiguration_firstEntry.snoc (f := .credential .licenseKey) (by decide)
    (not_gives (by decide)) ⟨"K", rfl⟩

/-- The two documents differ in the spelling and the order of their keys.
-/
theorem sameSettings_respellingEntries :
    SameSettings settingsEntries respellingEntries := by
  refine ⟨[("junk_code_injection", .boolean true),
    ("licenseKey", .string "K")], ?_, .swap ..⟩
  refine .cons ⟨rfl, .switch .injectJunk, ?_, ?_⟩
    (.cons ⟨rfl, .credential .licenseKey, ?_, ?_⟩ .nil) <;> decide

/-- The first document is refused for the second entry, and there for the
repeated field. The others give the same options. -/
theorem ofDocument_trialDocument :
    Toml.parse trialDocument = .ok trialEntries
      ∧ (¬∃ o, ofDocument trialDocument = .ok o)
      ∧ ofDocument trialDocument
          = .error (.entry 2 (.duplicateField (.switch .injectJunk)))
      ∧ ∃ o, ofDocument trialSettings = .ok o
        ∧ ofDocument trialRespelling = .ok o
          ∧ o.value (.switch .injectJunk) = .boolean true
          ∧ o.value (.switch .mutate) = .boolean false
          ∧ o.value (.credential .licenseKey) = .string "K" := by
  -- the parser recurses on the text, so it computes once that is spelled out
  have hparse : Toml.parse trialDocument = .ok trialEntries := by
    simp only [Toml.parse, trialDocument, String.reduceToList]
    with_unfolding_all rfl
  obtain ⟨-, -, herror⟩ :=
    ofDocument_by_entries trialDocument trialEntries hparse
  have hrefused : ofDocument trialDocument
      = .error (.entry 2 (.duplicateField (.switch .injectJunk))) := by
    refine (herror _).2 ⟨[("junkCodeInjection", .boolean true)], _, _,
      [("other", .integer 0)], _, rfl, isConfiguration_firstEntry, ?_, rfl⟩
    exact .duplicateField (by decide)
      ⟨.boolean true, "junkCodeInjection", by decide, List.mem_cons_self⟩
  have hnone : ¬∃ o, ofDocument trialDocument = .ok o := by
    rintro ⟨o, hok⟩
    rw [hrefused] at hok
    cases hok
  -- the other two
  have hsettings : Toml.parse trialSettings = .ok settingsEntries := by
    simp only [Toml.parse, trialSettings, String.reduceToList]
    rfl
  have hrespelling : Toml.parse trialRespelling
      = .ok respellingEntries := by
    simp only [Toml.parse, trialRespelling, String.reduceToList]
    rfl
  obtain ⟨haccepted, hgives, -⟩ :=
    ofDocument_by_entries trialSettings settingsEntries hsettings
  obtain ⟨o, hok⟩ := haccepted.2 isConfiguration_settingsEntries
  obtain ⟨hvalue, hdefault, hsame⟩ := hgives o hok
  have hrespelled : ofDocument trialRespelling = .ok o :=
    hsame trialRespelling respellingEntries hrespelling
      sameSettings_respellingEntries
  have hjunk : Gives settingsEntries (.switch .injectJunk) (.boolean true) :=
    ⟨"junkCodeInjection", by decide, List.mem_cons_self⟩
  have hkey : Gives settingsEntries (.credential .licenseKey) (.string "K") :=
    ⟨"license_key", by decide, List.mem_cons_of_mem _ List.mem_cons_self⟩
  have hmutate : ∀ v, ¬Gives settingsEntries (.switch .mutate) v :=
    not_gives (by decide)
  exact ⟨hparse, hnone, hrefused, o, hok, hrespelled, hvalue _ _ hjunk,
    hdefault _ hmutate, hvalue _ _ hkey⟩

end Options

end Obfuscator
