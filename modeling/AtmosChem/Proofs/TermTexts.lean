import AtmosChem.Equation.Term
import AtmosChem.Proofs.Cutting
import AtmosChem.Proofs.Trimming

/-!
# The terms of a text

The terms of a side are the texts between its plus signs, without braces, outer blanks and empty
texts.  Two equations say all of this: `termTexts_append_plus` cuts a text at a plus sign, and
`termTexts_of_not_mem` is for texts without one.

* `termTexts_pad`: blanks around a text make no difference to its terms.
-/

namespace AtmosChem

open Text

theorem termTexts_append_plus (a b : List Char) :
    termTexts (a ++ '+' :: b) = termTexts a ++ termTexts b := by
  rw [termTexts, splitOn_append_cons, List.map_append, List.filter_append]
  rfl

theorem termTexts_of_not_mem {s : List Char} (h : '+' ∉ s) :
    termTexts s = if strip s = [] then [] else [strip s] := by
  rw [termTexts, splitOn_of_not_mem h]
  by_cases he : strip s = [] <;> simp [he]

@[simp] theorem termTexts_nil : termTexts [] = [] := by
  rw [termTexts_of_not_mem List.not_mem_nil, if_pos (show strip [] = [] from rfl)]

/-- The terms of texts with plus signs between them. -/
theorem termTexts_intercalate (texts : List (List Char)) :
    termTexts (['+'].intercalate texts) = texts.flatMap termTexts := by
  induction texts with
  | nil => exact termTexts_nil
  | cons s texts ih =>
    cases texts with
    | nil => rw [List.intercalate_singleton, List.flatMap_singleton]
    | cons t texts =>
      rw [List.intercalate_cons_cons, List.append_assoc, List.singleton_append,
        termTexts_append_plus, ih]
      rfl

theorem not_brace_of_isBlank {c : Char} (h : isBlank c = true) : c ≠ '\x7b' ∧ c ≠ '\x7d' := by
  constructor <;> rintro rfl <;> exact absurd h (by decide)

theorem withoutBraces_of_not_mem {s : List Char} (h₁ : '\x7b' ∉ s) (h₂ : '\x7d' ∉ s) :
    withoutBraces s = s := by
  refine List.filter_eq_self.2 ?_
  intro c hc
  have hn₁ : c ≠ '\x7b' := fun he => h₁ (he ▸ hc)
  have hn₂ : c ≠ '\x7d' := fun he => h₂ (he ▸ hc)
  simp [hn₁, hn₂]

theorem withoutBraces_of_blanks {s : List Char} (h : ∀ c ∈ s, isBlank c = true) :
    withoutBraces s = s :=
  withoutBraces_of_not_mem (fun hm => (not_brace_of_isBlank (h _ hm)).1 rfl)
    fun hm => (not_brace_of_isBlank (h _ hm)).2 rfl

theorem strip_pad {lead trail : List Char} (hl : ∀ c ∈ lead, isBlank c = true)
    (ht : ∀ c ∈ trail, isBlank c = true) (s : List Char) :
    strip (lead ++ s ++ trail) = strip s := by
  have he : withoutBraces (lead ++ s ++ trail) = lead ++ withoutBraces s ++ trail := by
    rw [← withoutBraces_of_blanks hl, ← withoutBraces_of_blanks ht]
    simp [withoutBraces]
  rw [strip, he, trim_pad hl ht, strip]

/-- **Blanks around a text** make no difference to its terms. -/
theorem termTexts_pad {lead trail : List Char} (hl : ∀ c ∈ lead, isBlank c = true)
    (ht : ∀ c ∈ trail, isBlank c = true) (s : List Char) :
    termTexts (lead ++ s ++ trail) = termTexts s := by
  have hplus : isBlank '+' = false := by decide
  -- the cut at the first plus sign takes the blanks in front, the rest is a shorter text
  induction hn : s.length using Nat.strongRecOn generalizing lead s with
  | ind n ih =>
    cases hc : cutAt '+' s with
    | none =>
      have hs : '+' ∉ s := cutAt_eq_none_iff.1 hc
      have hpad : '+' ∉ lead ++ s ++ trail := by
        simp [hs, not_mem_of_blanks hl hplus, not_mem_of_blanks ht hplus]
      rw [termTexts_of_not_mem hpad, termTexts_of_not_mem hs, strip_pad hl ht]
    | some p =>
      obtain ⟨a, b⟩ := p
      have ha : '+' ∉ a := not_mem_of_cutAt hc
      have hla : '+' ∉ lead ++ a := by simp [ha, not_mem_of_blanks hl hplus]
      have hs := eq_append_of_cutAt hc
      have hlen : b.length < n := by
        rw [← hn, hs, List.length_append, List.length_cons]
        omega
      have he : lead ++ s ++ trail = (lead ++ a) ++ '+' :: ([] ++ b ++ trail) := by simp [hs]
      have hstrip := strip_pad hl isBlank_of_mem_nil a
      rw [List.append_nil] at hstrip
      rw [he, hs, termTexts_append_plus, termTexts_append_plus, ih b.length hlen (by simp) b rfl,
        termTexts_of_not_mem hla, termTexts_of_not_mem ha, hstrip]

theorem termTexts_of_blanks {s : List Char} (h : ∀ c ∈ s, isBlank c = true) :
    termTexts s = [] := by
  have hpad := termTexts_pad h isBlank_of_mem_nil []
  rwa [List.append_nil, List.append_nil, termTexts_nil] at hpad

theorem termTexts_trimStart (s : List Char) : termTexts (trimStart s) = termTexts s := by
  obtain ⟨lead, hl, he⟩ := exists_eq_trimStart s
  have h := termTexts_pad hl isBlank_of_mem_nil (trimStart s)
  rw [List.append_nil, ← he] at h
  exact h.symm

theorem termTexts_trimEnd (s : List Char) : termTexts (trimEnd s) = termTexts s := by
  obtain ⟨trail, ht, he⟩ := exists_eq_trimEnd s
  have h := termTexts_pad isBlank_of_mem_nil ht (trimEnd s)
  rw [List.nil_append, ← he] at h
  exact h.symm

end AtmosChem
