/-
What an integrity check becomes when its secret is filled in.

A template is any text, so there may be marks next to each other in it,
halves of marks and single braces. Filling in a secret nevertheless leaves
no mark behind: the mark begins and ends in a brace, which no secret has in
it, and a secret of eight digits is one longer than what follows the opening
brace, so that it keeps what stands before it from what stands behind it.
Where there is a mark at all, the secret can be read off the result.
-/
import Obfuscator.Proofs.Run.Standard
import Obfuscator.Proofs.Text.Marks

namespace Obfuscator

/-- What stands between the braces of the mark. -/
def placeholderBody : List Char := ['s', 'e', 'c', 'r', 'e', 't']

/-- The placeholder is a word between braces. -/
theorem toList_secretPlaceholder :
    Profile.secretPlaceholder.toList
      = '\x7b' :: (placeholderBody ++ ['\x7d']) := by
  decide

/-- A secret is made of small hexadecimal digits alone. -/
theorem IsSecret.notMem {secret : String} (h : IsSecret secret) {a : Char}
    (ha : Text.isLowerHexDigit a = false) : a ∉ secret.toList := by
  intro hin
  rw [h.2 a hin] at ha
  cases ha

/-- A secret has eight characters. -/
theorem IsSecret.length_toList {secret : String} (h : IsSecret secret) :
    secret.toList.length = 8 := by
  rw [String.length_toList]
  exact h.1

namespace Profile

variable (p : Profile)

/-- Filling a template in works on its characters. -/
theorem toList_renderCanary (secret : String) :
    (p.renderCanary secret).toList
      = Text.replaceFrom secretPlaceholder.toList secret.toList 0
        p.canaryTemplate.toList := by
  rw [renderCanary, Text.replace, String.toList_ofList]

/-- A template falls into pieces between its marks in just one way. With a
secret filled in it is these pieces with the secret between each two, there
is no mark in it, and if there was one in the template no other secret gives
the same. -/
theorem renderCanary_joins_pieces (secret : String)
    (hsecret : IsSecret secret) :
    ∃ pieces,
      (∀ other, Text.CutsAt secretPlaceholder.toList
        p.canaryTemplate.toList other ↔ other = pieces)
        ∧ (p.renderCanary secret).toList = secret.toList.intercalate pieces
        ∧ ¬ secretPlaceholder.toList <:+: (p.renderCanary secret).toList
        ∧ (secretPlaceholder.toList <:+: p.canaryTemplate.toList →
            ∀ other, IsSecret other →
              p.renderCanary other = p.renderCanary secret →
              other = secret) := by
  have hmark : secretPlaceholder.toList ≠ [] := by decide
  have hopening : '\x7b' ∉ placeholderBody ++ ['\x7d'] := by decide
  obtain ⟨pieces, hcuts, hnew⟩ :=
    Text.exists_cutsAt hmark p.canaryTemplate.toList
  have hrender : ∀ s, (p.renderCanary s).toList
      = s.toList.intercalate pieces := by
    intro s
    rw [toList_renderCanary, hnew]
  refine ⟨pieces, fun other =>
    ⟨fun hother => ?_, fun hother => ?_⟩, hrender secret, ?_, ?_⟩
  · rw [toList_secretPlaceholder] at hother hcuts
    exact hother.unique hopening hcuts
  · rw [hother]
    exact hcuts
  · rw [hrender, toList_secretPlaceholder]
    refine Text.not_infix_intercalate (hsecret.notMem (by decide))
      (hsecret.notMem (by decide))
      ?_ fun piece hpiece => ?_
    · rw [hsecret.length_toList]
      decide
    · rw [← toList_secretPlaceholder]
      exact hcuts.clean piece hpiece
  · intro hin other hother hsame
    have hlen : other.toList.length = secret.toList.length := by
      rw [hother.length_toList, hsecret.length_toList]
    have hjoined : other.toList.intercalate pieces
        = secret.toList.intercalate pieces := by
      rw [← hrender, ← hrender, hsame]
    exact String.toList_inj.1
      (Text.eq_of_intercalate_eq (hcuts.two_le_length hin) hlen hjoined)

/-- A profile whose template has two marks in a row, between braces, and
parts of marks. -/
def tightProfile : Profile :=
  { Profile.javascript with
    canaryTemplate :=
      "\x7b\x7bsecret\x7d\x7bsecret\x7d\x7dsecret\x7d\x7bsecret" }

/-- What becomes of that template has no mark left, and tells its secret.
-/
theorem renderCanary_tightProfile :
    IsSecret "ecedecae"
      ∧ secretPlaceholder.toList <:+: tightProfile.canaryTemplate.toList
      ∧ ¬ secretPlaceholder.toList
        <:+: (tightProfile.renderCanary "ecedecae").toList
      ∧ ∀ other, IsSecret other →
          tightProfile.renderCanary other
            = tightProfile.renderCanary "ecedecae" →
            other = "ecedecae" := by
  have hsecret : IsSecret "ecedecae" :=
    ⟨by decide, List.all_eq_true.1 (by decide)⟩
  have hmarked : secretPlaceholder.toList
      <:+: tightProfile.canaryTemplate.toList := by decide
  obtain ⟨pieces, -, -, hclean, hunambiguous⟩ :=
    renderCanary_joins_pieces tightProfile "ecedecae" hsecret
  exact ⟨hsecret, hmarked, hclean, hunambiguous hmarked⟩

end Profile

end Obfuscator
