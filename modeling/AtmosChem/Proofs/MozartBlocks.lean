import AtmosChem.Proofs.MozartHeadings
import AtmosChem.Proofs.MozartStates

/-!
# The blocks of a section of MOZART

A line that begins with a bracket opens a block, which lasts up to the next such line.  The lines of
a section are thus its preamble, before the first of them, and its blocks (`preamble`, `blocks`);
all lines here have been cleaned.

* `labels_flatMap_pieces`: the arrow lines of the preamble and of each block are counted from one.
* `State.completes_flatMap_pieces`: **which lines can be read to their end**.
* `complete_of_collect`: if the equations of a section can be collected, then all brackets are
  closed and each block begins with an equation.
-/

namespace AtmosChem.Mozart

open Text

/-! ### Openings, preamble and blocks -/

/-- Whether a line opens a block. -/
def isOpening (line : List Char) : Bool := line.head? == some '['

/-- The label in the brackets that a line begins with. -/
def bracketLabel (line : List Char) : List Char := trim (before ']' line.tail)

/-- A block: its label and its lines, the one with the label first. -/
structure LineBlock where
  label : List Char
  lines : List (List Char)
deriving DecidableEq, Repr

/-- The lines before the first block. -/
def preamble (lines : List (List Char)) : List (List Char) :=
  lines.takeWhile fun line => !isOpening line

/-- The blocks of lines. -/
def blocks : List (List Char) → List LineBlock
  | [] => []
  | line :: rest =>
    if isOpening line then ⟨bracketLabel line, line :: preamble rest⟩ :: blocks rest
    else blocks rest

theorem preamble_cons_of_opening {line : List Char} (h : isOpening line = true)
    (rest : List (List Char)) : preamble (line :: rest) = [] := by
  rw [preamble, List.takeWhile_cons_of_neg]
  simp [h]

theorem preamble_cons_of_not_opening {line : List Char} (h : isOpening line = false)
    (rest : List (List Char)) : preamble (line :: rest) = line :: preamble rest := by
  rw [preamble, List.takeWhile_cons_of_pos, preamble]
  simp [h]

theorem blocks_cons_of_opening {line : List Char} (h : isOpening line = true)
    (rest : List (List Char)) :
    blocks (line :: rest) = ⟨bracketLabel line, line :: preamble rest⟩ :: blocks rest := by
  rw [blocks, if_pos h]

theorem blocks_cons_of_not_opening {line : List Char} (h : isOpening line = false)
    (rest : List (List Char)) : blocks (line :: rest) = blocks rest := by
  rw [blocks, if_neg]
  simp [h]

theorem exists_of_isOpening {line : List Char} (h : isOpening line = true) :
    ∃ rest, line = '[' :: rest := by
  cases line with
  | nil => simp [isOpening] at h
  | cons c rest => exact ⟨rest, by rw [Option.some.inj (eq_of_beq h)]⟩

theorem head?_of_not_opening {line : List Char} (h : isOpening line = false) :
    line.head? ≠ some '[' := ne_of_beq_false h

/-! ### The labels of a block -/

/-- The number of equations that begin on lines. -/
def arrowCount (lines : List (List Char)) : Nat := lines.countP isArrowLine

theorem arrowCount_cons (line : List Char) (lines : List (List Char)) :
    arrowCount (line :: lines) = (if isArrowLine line then 1 else 0) + arrowCount lines := by
  rw [arrowCount, arrowCount, List.countP_cons, Nat.add_comm]

/-- The first labels after a label in brackets, or after none. -/
def firstLabels (open? : Option (List Char)) (count : Nat) : List (List Char) :=
  (List.range' 1 count).map (labelAt open?)

/-- The labels of the equations of lines, block by block. -/
def lineLabels (lines : List (List Char)) : List (List Char) :=
  firstLabels none (arrowCount (preamble lines)) ++
    (blocks lines).flatMap fun b => firstLabels (some b.label) (arrowCount b.lines)

/-- Labels counted on from some number. -/
theorem map_labelAt_append (open? : Option (List Char)) (n k l : Nat) :
    (List.range' (n + 1) k).map (labelAt open?) ++
        (List.range' (n + k + 1) l).map (labelAt open?) =
      (List.range' (n + 1) (k + l)).map (labelAt open?) := by
  rw [← List.map_append, Nat.add_right_comm, List.range'_append_1]

theorem labels_bodyPieces (open? : Option (List Char)) (n : Nat) (body : List Char)
    (ps : List Piece) :
    labels open? n (bodyPieces body ++ ps) =
      (List.range' (n + 1) (if occurs arrow body then 1 else 0)).map (labelAt open?) ++
        labels open? (n + if occurs arrow body then 1 else 0) ps := by
  cases hc : cutAtWord arrow body with
  | some p =>
    obtain ⟨left, right⟩ := p
    rw [bodyPieces_of_some hc, occurs, hc]
    rfl
  | none =>
    rw [occurs_eq_false_iff.2 hc]
    by_cases hb : body = []
    · rw [hb, bodyPieces_nil]
      rfl
    · rw [bodyPieces_of_none hb hc]
      rfl

/-- A line that opens no block counts on. -/
theorem labels_pieces_of_not_opening {line : List Char} (h : isOpening line = false)
    (open? : Option (List Char)) (n : Nat) (ps : List Piece) :
    labels open? n (pieces line ++ ps) =
      (List.range' (n + 1) (if isArrowLine line then 1 else 0)).map (labelAt open?) ++
        labels open? (n + if isArrowLine line then 1 else 0) ps := by
  have hh := head?_of_not_opening h
  rw [pieces_of_head hh, labels_bodyPieces, isArrowLine, bodyOf_of_head hh]

/-- A line that opens a block begins a count under its label. -/
theorem labels_pieces_of_opening {line : List Char} (h : isOpening line = true)
    (hclosed : ']' ∈ line) (open? : Option (List Char)) (n : Nat) (ps : List Piece) :
    labels open? n (pieces line ++ ps) =
      firstLabels (some (bracketLabel line)) (if isArrowLine line then 1 else 0) ++
        labels (some (bracketLabel line)) (if isArrowLine line then 1 else 0) ps := by
  obtain ⟨rest, rfl⟩ := exists_of_isOpening h
  have hmem : ']' ∈ rest := by simpa using hclosed
  cases hc : cutAt ']' rest with
  | none => exact absurd hmem (cutAt_eq_none_iff.1 hc)
  | some p =>
    obtain ⟨label, body⟩ := p
    have hlabel : bracketLabel ('[' :: rest) = trim label := by
      rw [bracketLabel, List.tail_cons, before, hc]
      rfl
    rw [pieces_of_cut hc, List.cons_append, labels, labels_bodyPieces, isArrowLine,
      bodyOf_of_cut hc, hlabel, Nat.zero_add, Nat.zero_add, firstLabels]

/-- **Equations are counted from one**, in the preamble and again in each block. -/
theorem labels_flatMap_pieces {lines : List (List Char)}
    (hclosed : ∀ line ∈ lines, isOpening line = true → ']' ∈ line)
    (open? : Option (List Char)) (n : Nat) :
    labels open? n (lines.flatMap pieces) =
      (List.range' (n + 1) (arrowCount (preamble lines))).map (labelAt open?) ++
        (blocks lines).flatMap fun b => firstLabels (some b.label) (arrowCount b.lines) := by
  induction lines generalizing open? n with
  | nil => rfl
  | cons line rest ih =>
    have ih := ih fun l hl => hclosed l (List.mem_cons_of_mem line hl)
    rw [List.flatMap_cons]
    cases ho : isOpening line with
    | true =>
      have hline := hclosed line List.mem_cons_self ho
      have hcount := map_labelAt_append (some (bracketLabel line)) 0
        (if isArrowLine line then 1 else 0) (arrowCount (preamble rest))
      rw [Nat.zero_add, Nat.zero_add] at hcount
      rw [labels_pieces_of_opening ho hline, ih, preamble_cons_of_opening ho,
        blocks_cons_of_opening ho, List.flatMap_cons, arrowCount_cons, ← List.append_assoc,
        firstLabels, hcount]
      rfl
    | false =>
      rw [labels_pieces_of_not_opening ho, ih, preamble_cons_of_not_opening ho,
        blocks_cons_of_not_opening ho, arrowCount_cons, ← List.append_assoc, map_labelAt_append]

/-! ### Sections that can be collected -/

theorem sectionPieces_eq (lines : List (List Char)) :
    sectionPieces lines = (lines.map clean).flatMap pieces := by
  rw [List.flatMap_map]
  rfl

/-- The first body of lines that holds something. -/
def firstBody? (lines : List (List Char)) : Option (List Char) :=
  (lines.map bodyOf).find? fun body => body ≠ []

theorem firstBody?_cons (line : List Char) (lines : List (List Char)) :
    firstBody? (line :: lines) =
      if bodyOf line = [] then firstBody? lines else some (bodyOf line) := by
  rw [firstBody?, List.map_cons, List.find?_cons, firstBody?]
  by_cases hb : bodyOf line = [] <;> simp [hb]

/-- Lines are complete if all brackets are closed and each block begins with an equation. -/
structure Complete (lines : List (List Char)) : Prop where
  closed : ∀ line ∈ lines, isOpening line = true → ']' ∈ line
  begun : ∀ b ∈ blocks lines, ∃ body ∈ firstBody? b.lines, arrow <:+: body

theorem complete_nil : Complete [] := ⟨by simp, by simp [blocks]⟩

theorem complete_cons_of_not_opening {line : List Char} (h : isOpening line = false)
    (lines : List (List Char)) : Complete (line :: lines) ↔ Complete lines := by
  constructor
  · rintro ⟨hclosed, hbegun⟩
    rw [blocks_cons_of_not_opening h] at hbegun
    exact ⟨(List.forall_mem_cons.1 hclosed).2, hbegun⟩
  · rintro ⟨hclosed, hbegun⟩
    refine ⟨List.forall_mem_cons.2 ⟨fun ho => by simp [h] at ho, hclosed⟩, ?_⟩
    rwa [blocks_cons_of_not_opening h]

theorem complete_cons_of_opening {line : List Char} (h : isOpening line = true)
    (lines : List (List Char)) :
    Complete (line :: lines) ↔
      Complete lines ∧ ']' ∈ line ∧
        ∃ body ∈ firstBody? (line :: preamble lines), arrow <:+: body := by
  constructor
  · rintro ⟨hclosed, hbegun⟩
    rw [blocks_cons_of_opening h] at hbegun
    obtain ⟨hline, hlines⟩ := List.forall_mem_cons.1 hclosed
    obtain ⟨hfirst, hrest⟩ := List.forall_mem_cons.1 hbegun
    exact ⟨⟨hlines, hrest⟩, hline h, hfirst⟩
  · rintro ⟨⟨hclosed, hbegun⟩, hline, hfirst⟩
    refine ⟨List.forall_mem_cons.2 ⟨fun _ => hline, hclosed⟩, ?_⟩
    rw [blocks_cons_of_opening h]
    exact List.forall_mem_cons.2 ⟨hfirst, hbegun⟩

/-- A block that begins with an equation has one. -/
theorem Complete.counted {lines : List (List Char)} (h : Complete lines) :
    ∀ b ∈ blocks lines, 1 ≤ arrowCount b.lines := by
  intro b hb
  obtain ⟨body, hbody, harrow⟩ := h.begun b hb
  obtain ⟨line, hline, rfl⟩ := List.mem_map.1 (List.mem_of_find?_eq_some hbody)
  exact List.countP_pos_iff.2 ⟨line, hline, (occurs_arrow_iff _).2 harrow⟩

namespace State

/-- Whether pieces can be read so that no block is left unfinished. -/
def Completes (q : State) (ps : List Piece) : Prop :=
  ∃ r, q.run ps = .ok r ∧ r.unfinished? = none

theorem completes_cons_of_ok {q r : State} {p : Piece} (h : q.readPiece p = .ok r)
    (ps : List Piece) : q.Completes (p :: ps) ↔ r.Completes ps := by
  rw [Completes, run_cons, h]
  rfl

theorem not_completes_cons {q : State} {p : Piece} (h : ∀ r, q.readPiece p ≠ .ok r)
    (ps : List Piece) : ¬ q.Completes (p :: ps) := by
  rintro ⟨r, hr, -⟩
  rw [run_cons] at hr
  obtain ⟨q', hq, -⟩ := exists_of_bind hr
  exact h q' hq

/-- Whether the first body of what follows can come: one without an arrow only inside an equation,
and none at all if no block is unfinished. -/
def Admits (q : State) : Option (List Char) → Prop
  | none => q.unfinished? = none
  | some body => q.inEquation = true ∨ arrow <:+: body

/-- Inside an equation anything can come. -/
theorem admits_of_inEquation {q : State} (h : q.inEquation = true)
    (body? : Option (List Char)) : q.Admits body? := by
  cases body? with
  | some body => exact Or.inl h
  | none =>
    obtain ⟨-, -, -, hm⟩ := exists_of_inEquation h
    rw [mayContinue] at hm
    rw [Admits, unfinished?]
    cases hb : q.block with
    | none => rfl
    | some b => simp_all

/-- After the label of a block an equation must come. -/
theorem admits_opened_iff (q : State) (label line : List Char) (body? : Option (List Char)) :
    State.Admits { q with block := some ⟨label, line, 0⟩ } body? ↔
      ∃ body ∈ body?, arrow <:+: body := by
  cases body? <;> simp [Admits, unfinished?, inEquation, mayContinue]

/-- A body can come if it is admitted, and then anything can come. -/
theorem completes_bodyPieces {P : Prop} {ps : List Piece} {next : Option (List Char)}
    (hps : ∀ q : State, q.Completes ps ↔ P ∧ q.Admits next) (q : State) (body : List Char) :
    q.Completes (bodyPieces body ++ ps) ↔
      P ∧ q.Admits (if body = [] then next else some body) := by
  by_cases hne : body = []
  · rw [if_pos hne, hne, bodyPieces_nil, List.nil_append]
    exact hps q
  have hinside : ∀ {p : Piece} {r : State}, q.readPiece p = .ok r → r.inEquation = true →
      (q.Completes ([p] ++ ps) ↔ P) := by
    intro p r hp hr
    rw [List.singleton_append, completes_cons_of_ok hp, hps]
    exact and_iff_left (admits_of_inEquation hr next)
  rw [if_neg hne, Admits, ← occurs_arrow_iff, occurs]
  cases hc : cutAtWord arrow body with
  | some p =>
    obtain ⟨left, right⟩ := p
    have hread : q.readPiece (.arrow left right) = .ok _ := rfl
    rw [bodyPieces_of_some hc, hinside hread (inEquation_of_arrow hread)]
    simp
  | none =>
    rw [bodyPieces_of_none hne hc]
    by_cases hq : q.inEquation = true
    · obtain ⟨r, hr⟩ : ∃ r, q.readPiece (.text body) = .ok r := exists_readPiece_text_iff.2 hq
      rw [hinside hr (inEquation_of_text hr), hq]
      simp
    · have hno : ∀ r, q.readPiece (.text body) ≠ .ok r := fun r hr =>
        hq (exists_readPiece_text_iff.1 ⟨r, hr⟩)
      refine iff_of_false (not_completes_cons hno ps) ?_
      simp [hq]

/-- **Lines can be read to their end** if they are complete and what stands before their blocks is
admitted. -/
theorem completes_flatMap_pieces (q : State) (lines : List (List Char)) :
    q.Completes (lines.flatMap pieces) ↔
      Complete lines ∧ q.Admits (firstBody? (preamble lines)) := by
  induction lines generalizing q with
  | nil => simp [Completes, Admits, firstBody?, preamble, complete_nil]
  | cons line rest ih =>
    rw [List.flatMap_cons]
    cases ho : isOpening line with
    | false =>
      have hh := head?_of_not_opening ho
      rw [pieces_of_head hh, completes_bodyPieces ih, complete_cons_of_not_opening ho,
        preamble_cons_of_not_opening ho, firstBody?_cons, bodyOf_of_head hh]
    | true =>
      rw [complete_cons_of_opening ho, preamble_cons_of_opening ho]
      obtain ⟨text, rfl⟩ := exists_of_isOpening ho
      cases hc : cutAt ']' text with
      | none =>
        have hno : ']' ∉ '[' :: text := by simpa using cutAt_eq_none_iff.1 hc
        rw [pieces, hc]
        refine iff_of_false (not_completes_cons (q.readPiece_unclosed_ne_ok · _) _) ?_
        rintro ⟨⟨-, hclosed, -⟩, -⟩
        exact hno hclosed
      | some p =>
        obtain ⟨label, body⟩ := p
        have hclosed : ']' ∈ '[' :: text := by simp [eq_append_of_cutAt hc]
        rw [pieces_of_cut hc, List.cons_append]
        change _ ↔ _ ∧ q.unfinished? = none
        cases hu : q.unfinished? with
        | some e =>
          refine iff_of_false (not_completes_cons ?_ _) (by simp)
          intro r hr
          simp [(readPiece_opening_eq_ok_iff.1 hr).1] at hu
        | none =>
          rw [completes_cons_of_ok (readPiece_opening_eq_ok_iff.2 ⟨hu, rfl⟩),
            completes_bodyPieces ih, ← bodyOf_of_cut hc, ← firstBody?_cons, admits_opened_iff]
          simp [hclosed]

end State

/-- **A section can be collected** if its pieces can be read to their end. -/
theorem exists_collect_iff (lines : List (List Char)) :
    (∃ es, collect lines = .ok es) ↔ State.start.Completes (sectionPieces lines) := by
  rw [collect_eq, State.Completes]
  cases hq : State.start.run (sectionPieces lines) with
  | error e => simp [Except.bind]
  | ok q =>
    change (∃ es, q.finish = .ok es) ↔ _
    simp [State.finish_eq_ok_iff]

/-- **Sections that can be collected are complete.** -/
theorem complete_of_collect {lines : List (List Char)} {es : List SubEquation}
    (h : collect lines = .ok es) : Complete (lines.map clean) := by
  have hc := (exists_collect_iff lines).1 ⟨es, h⟩
  rw [sectionPieces_eq, State.completes_flatMap_pieces] at hc
  exact hc.1

/-- **The labels of a section** are those of its lines, block by block. -/
theorem labels_collect {lines : List (List Char)} {es : List SubEquation}
    (h : collect lines = .ok es) : es.map SubEquation.label = lineLabels (lines.map clean) := by
  rw [(headings_collect h).1, sectionPieces_eq,
    labels_flatMap_pieces (complete_of_collect h).closed]
  rfl

end AtmosChem.Mozart
