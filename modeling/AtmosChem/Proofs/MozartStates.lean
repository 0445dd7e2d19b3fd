import AtmosChem.Proofs.MozartPieces

/-!
# What the rest of a section sees

A block remembers the line that opened it, but this line is looked at only as long as the block has
no equation.  Afterwards it does not belong to what the rest of a section sees of a state
(`State.seen`): states that look the same end the same.

* `State.seen_readPiece`, `State.run_congr`: one piece, and all that are left.
* `State.inEquation`, `inEquation_of_endsInEquation`: whether the next text goes on with an
  equation.
-/

namespace AtmosChem.Mozart

open Text

/-! ### States that look the same -/

/-- A block without the line that opened it, if the block has an equation. -/
def Block.seen (b : Block) : Block := if b.count = 0 then b else { b with openedBy := [] }

@[simp] theorem Block.seen_seen (b : Block) : b.seen.seen = b.seen := by
  by_cases hb : b.count = 0 <;> simp [Block.seen, hb]

namespace State

/-- What the rest of a section sees of a state. -/
def seen (q : State) : State := { q with block := q.block.map Block.seen }

@[simp] theorem equations_seen (q : State) : q.seen.equations = q.equations := rfl

theorem seen_with_equations (q : State) (es : List SubEquation) :
    seen { q.seen with equations := es } = seen { q with equations := es } := by
  have h : Block.seen ∘ Block.seen = Block.seen := funext Block.seen_seen
  simp only [seen, Option.map_map, h]

theorem unfinished?_seen (q : State) : q.seen.unfinished? = q.unfinished? := by
  obtain ⟨block, equations⟩ := q
  cases block with
  | none => rfl
  | some b =>
    by_cases hb : b.count = 0 <;> simp [seen, unfinished?, Block.seen, hb]

theorem mayContinue_seen (q : State) : q.seen.mayContinue = q.mayContinue := by
  obtain ⟨block, equations⟩ := q
  cases block with
  | none => rfl
  | some b =>
    by_cases hb : b.count = 0 <;> simp [seen, mayContinue, Block.seen, hb]

theorem nextLabel_seen (q : State) :
    q.seen.nextLabel.1 = q.nextLabel.1 ∧
      q.seen.nextLabel.2.map Block.seen = q.nextLabel.2.map Block.seen := by
  obtain ⟨block, equations⟩ := q
  cases block with
  | none => exact ⟨rfl, rfl⟩
  | some b =>
    by_cases hb : b.count = 0 <;> simp [seen, nextLabel, Block.seen, hb]

/-- **A piece reads what is seen.** -/
theorem seen_readPiece (q : State) (p : Piece) :
    (q.seen.readPiece p).map seen = (q.readPiece p).map seen := by
  cases p with
  | opening label line =>
    simp only [readPiece, unfinished?_seen]
    cases q.unfinished? <;> rfl
  | unclosed line => simp only [readPiece, unfinished?_seen]
  | arrow left right =>
    obtain ⟨h₁, h₂⟩ := q.nextLabel_seen
    simp only [readPiece, equations_seen, h₁]
    simp only [Except.map, seen, Except.ok.injEq, State.mk.injEq, and_true]
    exact h₂
  | text line =>
    simp only [readPiece, equations_seen, mayContinue_seen]
    cases q.equations with
    | nil => rfl
    | cons e es =>
      cases q.mayContinue with
      | false => rfl
      | true =>
        simp only [if_true, Except.map, Except.ok.injEq]
        exact q.seen_with_equations _

theorem finish_seen (q : State) : q.seen.finish = q.finish := by
  rw [finish, finish, unfinished?_seen, equations_seen]

theorem readPiece_congr {q r : State} (h : q.seen = r.seen) (p : Piece) :
    (q.readPiece p).map seen = (r.readPiece p).map seen := by
  rw [← q.seen_readPiece, h, r.seen_readPiece]

/-- What looks the same goes on the same. -/
theorem bind_congr {α : Type} {x y : Except Failure State} (h : x.map seen = y.map seen)
    {f : State → Except Failure α} (hf : ∀ {q r}, q.seen = r.seen → f q = f r) :
    x.bind f = y.bind f := by
  cases x with
  | error e =>
    cases y with
    | error e' => rw [Except.error.inj h]
    | ok r => simp [Except.map] at h
  | ok q =>
    cases y with
    | error e' => simp [Except.map] at h
    | ok r => exact hf (Except.ok.inj h)

theorem bind_finish_append (q : State) (ps qs : List Piece) :
    (q.run (ps ++ qs)).bind finish = (q.run ps).bind fun r => (r.run qs).bind finish := by
  rw [run_append]
  cases q.run ps <;> rfl

/-- **States that look the same end the same.** -/
theorem run_congr {q r : State} (h : q.seen = r.seen) (ps : List Piece) :
    (q.run ps).bind finish = (r.run ps).bind finish := by
  induction ps generalizing q r with
  | nil =>
    change q.finish = r.finish
    rw [← finish_seen, h, finish_seen]
  | cons p ps ih =>
    rw [← List.singleton_append, bind_finish_append, bind_finish_append, run_singleton,
      run_singleton]
    exact bind_congr (readPiece_congr h p) ih

theorem run_append_congr {q : State} {ps qs : List Piece}
    (h : (q.run ps).map seen = (q.run qs).map seen) (rest : List Piece) :
    (q.run (ps ++ rest)).bind finish = (q.run (qs ++ rest)).bind finish := by
  rw [bind_finish_append, bind_finish_append]
  exact bind_congr h fun hqr => run_congr hqr rest

end State

/-! ### Inside an equation -/

namespace State

/-- Whether the next text goes on with an equation. -/
def inEquation (q : State) : Bool := !q.equations.isEmpty && q.mayContinue

theorem exists_of_inEquation {q : State} (h : q.inEquation = true) :
    ∃ e es, q.equations = e :: es ∧ q.mayContinue = true := by
  rw [inEquation, Bool.and_eq_true] at h
  cases he : q.equations with
  | nil => simp [he] at h
  | cons e es => exact ⟨e, es, rfl, h.2⟩

theorem inEquation_of_arrow {q r : State} {left right : List Char}
    (h : q.readPiece (.arrow left right) = .ok r) : r.inEquation = true := by
  rw [readPiece] at h
  rw [← Except.ok.inj h, inEquation, mayContinue, nextLabel]
  cases q.block <;> rfl

theorem inEquation_of_text {q r : State} {line : List Char}
    (h : q.readPiece (.text line) = .ok r) : r.inEquation = true := by
  obtain ⟨hm, e, es, -, rfl⟩ := readPiece_text_eq_ok_iff.1 h
  rw [mayContinue] at hm
  rw [inEquation, mayContinue]
  cases hb : q.block with
  | none => rfl
  | some b => simpa [hb] using hm

/-- A text without an arrow is read only inside an equation. -/
theorem exists_readPiece_text_iff {q : State} {line : List Char} :
    (∃ r, q.readPiece (.text line) = .ok r) ↔ q.inEquation = true := by
  constructor
  · rintro ⟨r, hr⟩
    obtain ⟨hm, e, es, he, -⟩ := readPiece_text_eq_ok_iff.1 hr
    simp [inEquation, hm, he]
  · intro h
    obtain ⟨e, es, he, hm⟩ := exists_of_inEquation h
    exact ⟨_, readPiece_text_eq_ok_iff.2 ⟨hm, e, es, he, rfl⟩⟩

end State

/-- Whether lines, the latest one first, end inside an equation: with the line of an arrow and lines
that go on with it. -/
def endsInEquation : List (List Char) → Bool
  | [] => false
  | line :: lines =>
    isArrowLine (clean line) ||
      (clean line == [] || isContinuation (clean line)) && endsInEquation lines

theorem inEquation_of_endsInEquation {q r : State} {lines : List (List Char)}
    (hl : endsInEquation lines = true) (h : q.run (sectionPieces lines.reverse) = .ok r) :
    r.inEquation = true := by
  induction lines generalizing r with
  | nil => simp [endsInEquation] at hl
  | cons line lines ih =>
    rw [List.reverse_cons, sectionPieces_append] at h
    obtain ⟨q', hq, hr⟩ := State.exists_of_run_append h
    rw [sectionPieces_cons, sectionPieces_nil, List.append_nil] at hr
    simp only [endsInEquation, Bool.or_eq_true, Bool.and_eq_true, beq_iff_eq] at hl
    rcases hl with harrow | ⟨hblank | htext, hl⟩
    · obtain ⟨left, right, -, ⟨-, hp⟩ | ⟨rest, label, body, -, -, hp⟩⟩ := isArrowLine_cases harrow
      · rw [hp, State.run_singleton] at hr
        exact State.inEquation_of_arrow hr
      · rw [hp, ← List.singleton_append] at hr
        obtain ⟨q'', -, hr⟩ := State.exists_of_run_append hr
        rw [State.run_singleton] at hr
        exact State.inEquation_of_arrow hr
    · rw [hblank, pieces_nil, State.run_nil] at hr
      rw [← Except.ok.inj hr]
      exact ih hl hq
    · rw [pieces_of_isContinuation htext, State.run_singleton] at hr
      exact State.inEquation_of_text hr

end AtmosChem.Mozart
