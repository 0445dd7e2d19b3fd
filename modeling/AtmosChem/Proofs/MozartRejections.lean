import AtmosChem.Proofs.MozartBlocks
import Mathlib.Data.List.Infix

/-!
# Which sections of MOZART are rejected

The equations of a section are collected line by line, and what is missing is found at different
places: a bracket where a block is opened, an arrow at a line that cannot go on with an equation, at
the next opening or at the end.  All this together is one condition on the texts of a section
(`WellFormed`), which does not mention the reader.

* `exists_collect_iff_wellFormed`: sections are collected exactly if they are well-formed.
* `Structural.of_collect`: what is missing otherwise is an arrow or a bracket.
* `translate_rejects`: **which sections are rejected**, and with what, whatever else is wrong with
  their equations.
-/

namespace AtmosChem.Mozart

open Text

/-! ### Well-formed sections -/

/-- The texts of a section: what is left of its lines without their comments and outer blanks. -/
def texts (lines : List (List Char)) : List (List Char) :=
  (lines.map clean).filter fun text => text ≠ []

/-- Texts are well-formed if all brackets are closed, each block begins with an equation, and so does
what stands before the blocks. -/
structure WellFormed (texts : List (List Char)) : Prop extends Complete texts where
  led : ∀ text ∈ (preamble texts).head?, arrow <:+: text

instance (lines : List (List Char)) : Decidable (Complete lines) :=
  decidable_of_iff ((∀ line ∈ lines, isOpening line = true → ']' ∈ line) ∧
      ∀ b ∈ blocks lines, ∃ body ∈ firstBody? b.lines, arrow <:+: body)
    ⟨fun h => ⟨h.1, h.2⟩, fun h => ⟨h.closed, h.begun⟩⟩

instance (texts : List (List Char)) : Decidable (WellFormed texts) :=
  decidable_of_iff (Complete texts ∧ ∀ text ∈ (preamble texts).head?, arrow <:+: text)
    ⟨fun h => ⟨h.1, h.2⟩, fun h => ⟨h.toComplete, h.led⟩⟩

/-- Lines without a text have no pieces. -/
theorem sectionPieces_eq_texts (lines : List (List Char)) :
    sectionPieces lines = (texts lines).flatMap pieces := by
  rw [sectionPieces_eq, texts]
  induction lines.map clean with
  | nil => rfl
  | cons text rest ih =>
    rw [List.flatMap_cons, ih]
    by_cases htext : text = []
    · rw [htext, pieces_nil]
      rfl
    · rw [List.filter_cons_of_pos (by simpa using htext), List.flatMap_cons]

/-- What stands before the blocks has no labels, so it begins with its first text. -/
theorem firstBody?_preamble {texts : List (List Char)} (h : [] ∉ texts) :
    firstBody? (preamble texts) = (preamble texts).head? := by
  cases texts with
  | nil => rfl
  | cons text rest =>
    cases ho : isOpening text with
    | true =>
      rw [preamble_cons_of_opening ho]
      rfl
    | false =>
      have htext : text ≠ [] := fun he => h (he ▸ List.mem_cons_self)
      rw [preamble_cons_of_not_opening ho, firstBody?_cons,
        bodyOf_of_head (head?_of_not_opening ho), if_neg htext, List.head?_cons]

/-- **Sections are collected** exactly if they are well-formed. -/
theorem exists_collect_iff_wellFormed (lines : List (List Char)) :
    (∃ es, collect lines = .ok es) ↔ WellFormed (texts lines) := by
  have hne : [] ∉ texts lines := by simp [texts]
  rw [exists_collect_iff, sectionPieces_eq_texts, State.completes_flatMap_pieces,
    firstBody?_preamble hne]
  have hled : State.start.Admits (preamble (texts lines)).head? ↔
      ∀ text ∈ (preamble (texts lines)).head?, arrow <:+: text := by
    cases (preamble (texts lines)).head? <;>
      simp [State.Admits, State.start, State.unfinished?, State.inEquation]
  rw [hled]
  exact ⟨fun h => ⟨h.1, h.2⟩, fun h => ⟨h.toComplete, h.led⟩⟩

/-! ### What is missing -/

/-- Whether a failure is a missing arrow or a missing bracket. -/
def Structural (e : Failure) : Prop :=
  ∃ separator ∈ [Separator.arrow, Separator.bracket], ∃ line, e = .missingSeparator separator line

namespace Structural

theorem arrow (line : String) : Structural (.missingSeparator .arrow line) :=
  ⟨.arrow, by decide, line, rfl⟩

theorem bracket (line : String) : Structural (.missingSeparator .bracket line) :=
  ⟨.bracket, by decide, line, rfl⟩

theorem of_unfinished? {q : State} {e : Failure} (h : q.unfinished? = some e) : Structural e := by
  rw [State.unfinished?] at h
  cases hb : q.block with
  | none => simp [hb] at h
  | some b =>
    by_cases hcount : b.count = 0
    · simp only [hb, if_pos hcount, Option.some.injEq] at h
      exact h ▸ arrow _
    · simp [hb, hcount] at h

theorem of_readPiece {q : State} {p : Piece} {e : Failure} (h : q.readPiece p = .error e) :
    Structural e := by
  cases p with
  | opening label line =>
    rw [State.readPiece] at h
    cases hu : q.unfinished? with
    | none => simp [hu] at h
    | some e' =>
      simp only [hu, Except.error.injEq] at h
      exact h ▸ of_unfinished? hu
  | unclosed line =>
    rw [State.readPiece] at h
    cases hu : q.unfinished? with
    | none =>
      simp only [hu, Except.error.injEq] at h
      exact h ▸ bracket _
    | some e' =>
      simp only [hu, Except.error.injEq] at h
      exact h ▸ of_unfinished? hu
  | arrow left right => simp [State.readPiece] at h
  | text line =>
    rw [State.readPiece] at h
    split at h
    · split at h
      · simp at h
      · exact Except.error.inj h ▸ arrow _
    · exact Except.error.inj h ▸ arrow _

theorem of_run {q : State} {ps : List Piece} {e : Failure} (h : q.run ps = .error e) :
    Structural e := by
  induction ps generalizing q with
  | nil => simp at h
  | cons p ps ih =>
    rw [State.run_cons] at h
    rcases error_of_bind h with hp | ⟨r, -, hr⟩
    · exact of_readPiece hp
    · exact ih hr

/-- **Collecting fails** only where an arrow or a bracket is missing. -/
theorem of_collect {lines : List (List Char)} {e : Failure} (h : collect lines = .error e) :
    Structural e := by
  rw [collect_eq] at h
  rcases error_of_bind h with hrun | ⟨q, -, hfinish⟩
  · exact of_run hrun
  · exact of_unfinished? (State.finish_eq_error_iff.1 hfinish)

end Structural

/-- **Which sections are rejected.**  The equations of a section are collected exactly if its texts
are well-formed.  Otherwise an arrow or a bracket is missing, and this is what the translation of
the section fails with, before it looks at any equation. -/
theorem translate_rejects (lines : List (List Char)) :
    ((∃ es, collect lines = .ok es) ↔ WellFormed (texts lines)) ∧
      (¬ WellFormed (texts lines) →
        ∃ separator ∈ [Separator.arrow, Separator.bracket], ∃ line,
          collect lines = .error (.missingSeparator separator line) ∧
          translate lines = .ofExcept (.error (.missingSeparator separator line))) := by
  refine ⟨exists_collect_iff_wellFormed lines, ?_⟩
  intro hno
  rw [← exists_collect_iff_wellFormed] at hno
  cases hc : collect lines with
  | ok es => exact absurd ⟨es, hc⟩ hno
  | error e =>
    obtain ⟨separator, hseparator, line, rfl⟩ := Structural.of_collect hc
    exact ⟨separator, hseparator, line, rfl, by rw [translate, hc]⟩

/-- A section whose first equation has a term without a species, and whose last bracket is not
closed. -/
def unclosedLines : List (List Char) :=
  ["2.0 + hv -> O ! no species".toList, "[RXN1]".toList, "O3 -> O2".toList, "[RXN2 NO -> O3".toList]

/-- Without the last line the term is found, and with it the bracket. -/
theorem translate_rejects_unclosedLines :
    (∃ es, collect unclosedLines.dropLast = .ok es) ∧
    (translate unclosedLines.dropLast).outcome = .error (.malformedTerm "2.0") ∧
    ∃ separator ∈ [Separator.arrow, Separator.bracket], ∃ line,
      collect unclosedLines = .error (.missingSeparator separator line) ∧
      translate unclosedLines = .ofExcept (.error (.missingSeparator separator line)) :=
  ⟨(translate_rejects unclosedLines.dropLast).1.2 (by decide +kernel), rfl,
    (translate_rejects unclosedLines).2 (by decide +kernel)⟩

end AtmosChem.Mozart
