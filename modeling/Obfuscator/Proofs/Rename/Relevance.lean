/-
Which candidates a renaming depends on.

What a renaming does is settled by what occurs in each line, and of that
each identifier counts where it comes first (`NamingScheme.rename_congr`). A
candidate that occurs in no line, or that is listed before, is not in
question there. So it may be left out of the list, and put into it, without
a change: not in the text, not in the numbers of the names, and not in the
error either (`rename_relevant`, `rename_of_extra`).

The engine is the same on both sides and nothing is asked of it. All the
work is in two lists that are equal up to repeated elements, which is kept
where lists are put together (`eraseDups_append_congr`).
-/
import Obfuscator.Pass
import Obfuscator.Proofs.Rename.ClosedForm

namespace Obfuscator

namespace NamingScheme

variable {s : NamingScheme} {candidates seen seen' : List String}
  {lines : List (List Char)}
  {text : String}

-- ==================================================== the same occurs

/-- The same occurs in each line, up to what is repeated in it. -/
def SameOccurring (s s' : NamingScheme) (lines : List (List Char)) : Prop :=
  ∀ line ∈ lines, (s.occurring line).eraseDups = (s'.occurring line).eraseDups

/-- Schemes with the same occurring candidates find the same names. -/
theorem SameOccurring.eraseDups_flatMap {s s' : NamingScheme}
    (h : s.SameOccurring s' lines) :
    (lines.flatMap s.occurring).eraseDups
      = (lines.flatMap s'.occurring).eraseDups := by
  induction lines with
  | nil => rfl
  | cons line rest ih =>
      obtain ⟨hline, hrest⟩ := List.forall_mem_cons.1 h
      rw [List.flatMap_cons, List.flatMap_cons]
      exact eraseDups_append_congr hline (ih hrest)

/-- Where the same occurs, each line is renamed by the same table. -/
theorem SameOccurring.renamedLines_eq
    (h : ({ s with candidates } : NamingScheme).SameOccurring s lines)
    (hseen : seen.eraseDups = seen'.eraseDups) :
    ({ s with candidates } : NamingScheme).renamedLines seen lines
      = s.renamedLines seen' lines := by
  induction lines generalizing seen seen' with
  | nil => rfl
  | cons line rest ih =>
      obtain ⟨hline, hrest⟩ := List.forall_mem_cons.1 h
      have hfound := eraseDups_append_congr hseen hline
      rw [renamedLines, renamedLines, hfound, ih hrest hfound]
      rfl

/-- The first that is refused is refused where it comes first. -/
theorem firstRefusal?_congr {names more : List String}
    (h : names.eraseDups = more.eraseDups) :
    s.firstRefusal? names = s.firstRefusal? more := by
  rw [firstRefusal?, firstRefusal?, ← findSome?_eraseDups, h,
    findSome?_eraseDups]

/-- A renaming depends on what occurs in each line, up to what is repeated
in it. -/
theorem rename_congr
    (h : ({ s with candidates } : NamingScheme).SameOccurring s
      (Text.splitLines text.toList)) :
    ({ s with candidates } : NamingScheme).rename text = s.rename text := by
  rw [rename_eq, rename_eq, discovered, h.eraseDups_flatMap,
    h.renamedLines_eq rfl, ← firstRefusal?_congr h.eraseDups_flatMap]
  rfl

-- ==================================================== what may be left out

/-- The candidates that occur in a text, each one once. -/
def relevant (s : NamingScheme) (text : String) : List String :=
  s.candidates.eraseDups.filter fun c => ∃ line ∈ Text.splitLines text.toList,
    c.toList <:+: line

/-- Candidates that do not occur, or are repeated, may be left out. -/
theorem rename_relevant (s : NamingScheme) (text : String) :
    { s with candidates := s.relevant text }.rename text = s.rename text := by
  refine rename_congr fun line hline => ?_
  have hfilter : (s.relevant text).filter (fun c => c.toList <:+: line)
      = s.candidates.eraseDups.filter fun c => c.toList <:+: line := by
    rw [relevant, List.filter_filter]
    refine List.filter_congr fun c _ => ?_
    rw [Bool.eq_iff_iff, Bool.and_eq_true, decide_eq_true_eq,
      decide_eq_true_eq]
    exact and_iff_left_of_imp fun hoccurs => ⟨line, hline, hoccurs⟩
  rw [occurring, occurring, hfilter, ← eraseDups_filter,
    eraseDups_of_nodup (nodup_eraseDups _)]

/-- Candidates that do not occur, or are listed before, may be put in
anywhere. -/
theorem rename_of_extra {before extra after : List String}
    (hextra : ∀ c ∈ extra, c ∈ before
      ∨ ∀ line ∈ Text.splitLines text.toList, ¬c.toList <:+: line) :
    { s with candidates := before ++ extra ++ after }.rename text
      = { s with candidates := before ++ after }.rename text := by
  refine rename_congr (s := { s with candidates := before ++ after })
    fun line hline => ?_
  have hbefore : (before.filter (fun c => c.toList <:+: line)
      ++ extra.filter fun c => c.toList <:+: line).eraseDups
        = (before.filter fun c => c.toList <:+: line).eraseDups := by
    refine eraseDups_append_of_subset fun c hc => ?_
    obtain ⟨hc, hoccurs⟩ := List.mem_filter.1 hc
    have hpiece : c.toList <:+: line := by simpa using hoccurs
    have hlisted := (hextra c hc).resolve_right fun hno =>
      hno line hline hpiece
    exact List.mem_filter.2 ⟨hlisted, hoccurs⟩
  rw [occurring, occurring, List.filter_append, List.filter_append,
    List.filter_append]
  exact eraseDups_append_congr hbefore rfl

/-- Lines in which nothing occurs are left as they are. -/
theorem renamedLines_of_occurring_eq_nil
    (h : ∀ line ∈ lines, s.occurring line = []) :
    s.renamedLines [] lines = lines := by
  induction lines with
  | nil => rfl
  | cons line rest ih =>
      obtain ⟨hline, hrest⟩ := List.forall_mem_cons.1 h
      rw [renamedLines, hline, List.append_nil, ih hrest]
      rfl

/-- A text in which no candidate occurs is renamed to itself, and no name is
given. -/
theorem rename_of_none_occurring
    (hnone : ∀ c ∈ s.candidates,
      ∀ line ∈ Text.splitLines text.toList, ¬c.toList <:+: line) :
    s.rename text = .ok ⟨text, {}⟩ := by
  have hoccurring : ∀ line ∈ Text.splitLines text.toList,
      s.occurring line = [] := by
    intro line hline
    refine List.filter_eq_nil_iff.2 fun c hc => ?_
    simpa using hnone c hc line hline
  have hall : (Text.splitLines text.toList).flatMap s.occurring = [] :=
    List.flatMap_eq_nil_iff.2 hoccurring
  refine rename_eq_ok_iff.2
    ⟨by rw [hall]; rfl, ?_, by rw [discovered, hall]; rfl⟩
  rw [renamedLines_of_occurring_eq_nil hoccurring, Text.joinLines_splitLines,
    String.ofList_toList]

/-- Whatever is looked for, and whatever the boundary pattern: a renaming is
the same, text, names and error, without the candidates that occur in no
line and without repeated ones. So neither has an effect where it is added
to a list, or to that of a profile, and a text in which nothing occurs is
left as it is. -/
theorem rename_reads_relevant (s : NamingScheme) (text : String) :
    { s with candidates := s.relevant text }.rename text = s.rename text
    ∧ (∀ before extra after : List String,
      (∀ c ∈ extra, c ∈ before
        ∨ ∀ line ∈ Text.splitLines text.toList, ¬c.toList <:+: line) →
      { s with candidates := before ++ extra ++ after }.rename text
        = { s with candidates := before ++ after }.rename text)
    ∧ (∀ (p : Profile) (before extra after : List String),
      (∀ c ∈ extra, c ∈ Profile.baseIdentifiers
        ∨ ∀ line ∈ Text.splitLines text.toList, ¬c.toList <:+: line) →
      (Pass.namingScheme { p with identifiers := before ++ extra ++ after }
        s.engine).rename text
        = (Pass.namingScheme { p with identifiers := before ++ after }
          s.engine).rename text)
    ∧ ((∀ c ∈ s.candidates, ∀ line ∈ Text.splitLines text.toList,
      ¬c.toList <:+: line) → s.rename text = .ok ⟨text, {}⟩) := by
  refine ⟨rename_relevant s text, fun before extra after => rename_of_extra,
    fun p before extra after hextra => ?_, rename_of_none_occurring⟩
  have hlisted : { Pass.namingScheme p s.engine with
        candidates := Profile.baseIdentifiers ++ before ++ extra
          ++ after }.rename text
      = { Pass.namingScheme p s.engine with
        candidates := Profile.baseIdentifiers ++ before ++ after }.rename
          text :=
    rename_of_extra fun c hc =>
      (hextra c hc).imp_left fun hbase => List.mem_append_left before hbase
  simpa only [Pass.namingScheme, Profile.candidates, List.append_assoc]
    using hlisted

/-- A scheme with a candidate that is listed twice, and a boundary pattern
that does not compile. -/
def longScheme : NamingScheme where
  candidates := ["data", "value", "data", "lue", "value", "item"]
  stem := "_0x"
  boundary := "("

/-- Candidates that occur nowhere do not count, and neither does a second
mention. -/
theorem rename_reads_relevant_longScheme :
    { longScheme with candidates := ["value", "lue"] }.rename "lue\nvalue"
        = longScheme.rename "lue\nvalue"
      ∧ { longScheme with
          candidates := ["value", "lue"] ++ ["value", "data"] ++ ["x"] }.rename
          "lue\nvalue"
        = { longScheme with candidates := ["value", "lue"] ++ ["x"] }.rename
          "lue\nvalue"
      ∧ (Pass.namingScheme
          { Registry.standard.profile .python with
            identifiers := ["self"] ++ ["data"] ++ [] }).rename
            "self.data"
        = (Pass.namingScheme
          { Registry.standard.profile .python with
            identifiers := ["self"] ++ [] }).rename
            "self.data"
      ∧ longScheme.rename "x = y\n" = .ok ⟨"x = y\n", {}⟩ := by
  have hrelevant : longScheme.relevant "lue\nvalue" = ["value", "lue"] := by
    decide
  obtain ⟨hpruned, hadded, -, -⟩ :=
    rename_reads_relevant longScheme "lue\nvalue"
  obtain ⟨-, -, hprofile, -⟩ :=
    rename_reads_relevant (Pass.namingScheme
      (Registry.standard.profile .python)) "self.data"
  obtain ⟨-, -, -, hkept⟩ := rename_reads_relevant longScheme "x = y\n"
  rw [hrelevant] at hpruned
  exact ⟨hpruned, hadded _ _ _ (by decide), hprofile _ _ _ _ (by decide),
    hkept (by decide)⟩

end NamingScheme

end Obfuscator
