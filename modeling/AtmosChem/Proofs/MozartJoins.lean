import AtmosChem.Proofs.Contributions
import AtmosChem.Proofs.MozartRejections

/-!
# Sections of MOZART one behind the other

A line that opens a block forgets what has been read before it: the count of the new block begins
at one, and no line goes on with an equation that stands before the block (`State.InBlock`).  What
has been collected until then is only carried along (`State.after`).  So lines that begin with a
block can stand behind any others, and what becomes of all of them is what becomes of the two parts.

* `State.readPiece_after`, `State.run_after`: one piece, and all that are left.
* `collect_append`: the equations of two parts of a section.
* `translate_append`: **sections are translated block by block**.
-/

namespace AtmosChem.Mozart

open Text

/-! ### What is carried along -/

namespace State

/-- The same state after equations that have been collected before, the latest of them first. -/
def after (q : State) (es : List SubEquation) : State := { q with equations := q.equations ++ es }

/-- A block is open, and all its equations are in the state. -/
def InBlock (q : State) : Prop := ∃ b, q.block = some b ∧ b.count ≤ q.equations.length

theorem unfinished?_after (q : State) (es : List SubEquation) :
    (q.after es).unfinished? = q.unfinished? := rfl

theorem finish_after (q : State) (es : List SubEquation) :
    (q.after es).finish = q.finish.map fun fs => es.reverse ++ fs := by
  rw [finish, finish, unfinished?_after]
  cases q.unfinished? with
  | some e => rfl
  | none =>
    show Except.ok (q.equations ++ es).reverse = .ok (es.reverse ++ q.equations.reverse)
    rw [List.reverse_append]

theorem mayContinue_after {q : State} (h : q.InBlock) (es : List SubEquation) :
    (q.after es).mayContinue = q.mayContinue := by
  obtain ⟨b, hb, -⟩ := h
  have hb' : (q.after es).block = some b := hb
  rw [mayContinue, mayContinue, hb, hb']

theorem nextLabel_after {q : State} (h : q.InBlock) (es : List SubEquation) :
    (q.after es).nextLabel = q.nextLabel := by
  obtain ⟨b, hb, -⟩ := h
  have hb' : (q.after es).block = some b := hb
  rw [nextLabel, nextLabel, hb, hb']

/-- A line that goes on with an equation finds it in the state. -/
theorem exists_equation_of_mayContinue {q : State} (h : q.InBlock) (hm : q.mayContinue = true) :
    ∃ e es, q.equations = e :: es := by
  obtain ⟨b, hb, hcount⟩ := h
  rw [mayContinue, hb] at hm
  have hpos : b.count ≠ 0 := by simpa using hm
  cases he : q.equations with
  | nil =>
    rw [he, List.length_nil] at hcount
    omega
  | cons e es => exact ⟨e, es, rfl⟩

/-- **Every piece** leaves a block open whose equations are in the state. -/
theorem inBlock_readPiece {q r : State} {p : Piece} (hq : q.InBlock)
    (h : q.readPiece p = .ok r) : r.InBlock := by
  cases p with
  | opening label line =>
    obtain ⟨-, rfl⟩ := readPiece_opening_eq_ok_iff.1 h
    exact ⟨⟨label, line, 0⟩, rfl, Nat.zero_le _⟩
  | unclosed line => exact absurd h (q.readPiece_unclosed_ne_ok r line)
  | arrow left right =>
    obtain ⟨b, hb, hcount⟩ := hq
    rw [readPiece] at h
    rw [← Except.ok.inj h]
    refine ⟨{ b with count := b.count + 1 }, ?_, Nat.succ_le_succ hcount⟩
    show q.nextLabel.2 = _
    rw [nextLabel, hb]
  | text line =>
    obtain ⟨b, hb, hcount⟩ := hq
    obtain ⟨-, e, es, he, rfl⟩ := readPiece_text_eq_ok_iff.1 h
    rw [he] at hcount
    exact ⟨b, hb, hcount⟩

/-- **A piece in a block** does not look at what has been collected before the block. -/
theorem readPiece_after {q : State} (h : q.InBlock) (es : List SubEquation) (p : Piece) :
    (q.after es).readPiece p = (q.readPiece p).map fun r => r.after es := by
  cases p with
  | opening label line =>
    rw [readPiece, readPiece, unfinished?_after]
    cases q.unfinished? <;> rfl
  | unclosed line =>
    rw [readPiece, readPiece, unfinished?_after]
    cases q.unfinished? <;> rfl
  | arrow left right =>
    rw [readPiece, readPiece, nextLabel_after h]
    rfl
  | text line =>
    rw [readPiece, readPiece, mayContinue_after h]
    cases hm : q.mayContinue with
    | true =>
      obtain ⟨e, fs, he⟩ := exists_equation_of_mayContinue h hm
      have he' : (q.after es).equations = e :: (fs ++ es) := by
        rw [after, he, List.cons_append]
      rw [he, he']
      rfl
    | false =>
      cases (q.after es).equations <;> cases q.equations <;> rfl

/-- **Pieces in a block** do not either. -/
theorem run_after {q : State} (h : q.InBlock) (es : List SubEquation) (ps : List Piece) :
    (q.after es).run ps = (q.run ps).map fun r => r.after es := by
  induction ps generalizing q with
  | nil => rfl
  | cons p ps ih =>
    rw [run_cons, run_cons, readPiece_after h]
    cases hp : q.readPiece p with
    | error e => rfl
    | ok r => exact ih (inBlock_readPiece h hp)

end State

/-! ### Where a block is opened -/

/-- Whether a piece opens a block, or tries to. -/
def Piece.opens : Piece → Bool
  | .opening .. => true
  | .unclosed _ => true
  | .arrow .. => false
  | .text _ => false

namespace State

/-- **Pieces that begin with a block** are read behind others as they are alone. -/
theorem bind_finish_of_opens (q : State) {ps : List Piece}
    (h : ∀ p ∈ ps.head?, p.opens = true) :
    (q.run ps).bind finish =
      q.finish.bind fun es => ((start.run ps).bind finish).map fun fs => es ++ fs := by
  cases ps with
  | nil =>
    show q.finish = q.finish.bind fun es => .ok (es ++ [])
    cases q.finish with
    | error e => rfl
    | ok es => exact congrArg Except.ok (List.append_nil es).symm
  | cons p ps =>
    have hp : p.opens = true := h p rfl
    rw [run_cons, run_cons, finish]
    cases p with
    | arrow left right => exact absurd hp Bool.false_ne_true
    | text line => exact absurd hp Bool.false_ne_true
    | unclosed line =>
      rw [readPiece, readPiece]
      cases q.unfinished? <;> rfl
    | opening label line =>
      rw [readPiece]
      cases q.unfinished? with
      | some e => rfl
      | none =>
        -- the state that a label opens, with nothing read before it
        have hopen : InBlock ⟨some ⟨label, line, 0⟩, []⟩ := ⟨_, rfl, Nat.le_refl 0⟩
        show ((State.after ⟨some ⟨label, line, 0⟩, []⟩ q.equations).run ps).bind finish =
          ((State.run ⟨some ⟨label, line, 0⟩, []⟩ ps).bind finish).map
            fun fs => q.equations.reverse ++ fs
        rw [run_after hopen]
        cases State.run ⟨some ⟨label, line, 0⟩, []⟩ ps with
        | error e => rfl
        | ok r => exact r.finish_after q.equations

end State

/-! ### Lines that begin with a block -/

/-- Whether the first text of lines, if they have one, opens a block. -/
def BeginsWithBlock (lines : List (List Char)) : Prop :=
  ∀ text ∈ (texts lines).head?, isOpening text = true

instance (lines : List (List Char)) : Decidable (BeginsWithBlock lines) :=
  inferInstanceAs (Decidable (∀ text ∈ (texts lines).head?, isOpening text = true))

theorem BeginsWithBlock.opens {lines : List (List Char)} (h : BeginsWithBlock lines) :
    ∀ p ∈ (sectionPieces lines).head?, p.opens = true := by
  rw [sectionPieces_eq_texts]
  cases ht : texts lines with
  | nil => simp
  | cons text rest =>
    obtain ⟨s, rfl⟩ := exists_of_isOpening (h text (by rw [ht]; rfl))
    intro p hp
    rw [List.flatMap_cons, pieces] at hp
    cases hc : cutAt ']' s with
    | none =>
      rw [hc] at hp
      rw [← Option.some.inj hp]
      rfl
    | some parts =>
      rw [hc] at hp
      rw [← Option.some.inj hp]
      rfl

/-- **Two parts of a section**, the second of which begins with a block, are collected one after the
other. -/
theorem collect_append (xs : List (List Char)) {ys : List (List Char)} (h : BeginsWithBlock ys) :
    collect (xs ++ ys) = (collect xs).bind fun es => (collect ys).map fun fs => es ++ fs := by
  rw [collect_eq, collect_eq, collect_eq, sectionPieces_append, State.bind_finish_append]
  cases State.start.run (sectionPieces xs) with
  | error e => rfl
  | ok q => exact q.bind_finish_of_opens h.opens

/-- **Sections are translated block by block.**  Behind lines that are translated, other lines that
begin with a block become what they become alone: if they are translated, then all lines are, and
their translation is the two translations together; if not, then all lines fail, and as the second
ones alone. -/
theorem translate_append {xs ys : List (List Char)} {t : Translation}
    (hxs : (translate xs).outcome = .ok t) (hys : BeginsWithBlock ys) :
    (translate (xs ++ ys)).outcome = (translate ys).outcome.map t.merge := by
  cases hx : collect xs with
  | error e => simp [translate, hx] at hxs
  | ok es =>
    have hes : (Translation.ofEquations (es.map SubEquation.equation)).outcome = .ok t := by
      simpa only [translate, hx] using hxs
    have hall := collect_append xs hys
    rw [hx] at hall
    cases hy : collect ys with
    | error e =>
      rw [hy] at hall
      have hall : collect (xs ++ ys) = .error e := hall
      simp only [translate, hy, hall]
      rfl
    | ok fs =>
      rw [hy] at hall
      have hall : collect (xs ++ ys) = .ok (es ++ fs) := hall
      simp only [translate, hy, hall, List.map_append]
      rw [Translation.outcome_ofEquations_append, hes]
      rfl

/-- A block behind a comment, whose equation goes on over a line. -/
def wrappedBlock : List (List Char) :=
  ["! photolysis".toList, "[b] NO + hv ->".toList, " O3 ; ! wrapped".toList]

/-- A block that begins with what looks like the continuation of an equation. -/
def headlessBlock : List (List Char) := ["[b]".toList, "+ O3".toList]

theorem translate_append_blocks :
    (translate mozartLines).outcome = .ok mozartTranslation ∧
    BeginsWithBlock wrappedBlock ∧
    (translate (mozartLines ++ wrappedBlock)).outcome =
      .ok (mozartTranslation.merge ⟨[⟨"b (1)", .photolysis, sampleSides⟩], []⟩) ∧
    BeginsWithBlock headlessBlock ∧
    (translate (mozartLines ++ headlessBlock)).outcome =
      .error (.missingSeparator .arrow "+ O3") := by
  have h : (translate mozartLines).outcome = .ok mozartTranslation := rfl
  have hwrapped : BeginsWithBlock wrappedBlock := by decide +kernel
  have hheadless : BeginsWithBlock headlessBlock := by decide +kernel
  refine ⟨h, hwrapped, ?_, hheadless, ?_⟩
  · rw [translate_append h hwrapped]
    rfl
  · rw [translate_append h hheadless]
    rfl

end AtmosChem.Mozart
