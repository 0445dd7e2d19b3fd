import AtmosChem.Proofs.MozartPieces

/-!
# The headings of a section of MOZART

Each equation of a section has a label and a text left of its arrow.  The labels are counted by the
machine that reads the section; `labels` says the same of the pieces alone, without the machine: a
label in brackets begins a new count.  What has been read and what is to come always make up the
same list, whatever piece is read next (`State.headings_readPiece`).

* `headings_collect`: the equations collected are the arrow lines, under these labels.
-/

namespace AtmosChem.Mozart

open Text

namespace SubEquation

@[simp] theorem label_start (label left right : List Char) :
    (start label left right).label = label := by
  rw [start]
  split <;> rfl

@[simp] theorem reactants_start (label left right : List Char) :
    (start label left right).reactants = left := by
  rw [start]
  split <;> rfl

@[simp] theorem label_continueWith (e : SubEquation) (line : List Char) :
    (e.continueWith line).label = e.label := by
  rw [continueWith]
  split
  · rfl
  · split <;> rfl

@[simp] theorem reactants_continueWith (e : SubEquation) (line : List Char) :
    (e.continueWith line).reactants = e.reactants := by
  rw [continueWith]
  split
  · rfl
  · split <;> rfl

end SubEquation

/-! ### The labels of a section -/

/-- The label of an equation: its place after the label in brackets, or in the section if there is
none yet. -/
def labelAt : Option (List Char) → Nat → List Char
  | some label, n => label ++ [' ', '('] ++ Decimal.decimalText n ++ [')']
  | none, n => 'R' :: Decimal.decimalText n

/-- The labels of the arrows among pieces, after a label in brackets or none and a number of arrows
since then. -/
def labels : Option (List Char) → Nat → List Piece → List (List Char)
  | _, _, [] => []
  | _, _, .opening label _ :: ps => labels (some label) 0 ps
  | open?, n, .arrow _ _ :: ps => labelAt open? (n + 1) :: labels open? (n + 1) ps
  | open?, n, .unclosed _ :: ps => labels open? n ps
  | open?, n, .text _ :: ps => labels open? n ps

/-- The text left of the arrow of a piece. -/
def Piece.left? : Piece → Option (List Char)
  | .arrow left _ => some left
  | _ => none

namespace State

/-- The label in brackets that was read last. -/
def openLabel (q : State) : Option (List Char) := q.block.map Block.label

/-- The number of equations since then. -/
def counted (q : State) : Nat := (q.block.map Block.count).getD q.equations.length

theorem nextLabel_eq (q : State) : q.nextLabel.1 = labelAt q.openLabel (q.counted + 1) := by
  rw [nextLabel, openLabel, counted]
  cases q.block <;> rfl

theorem openLabel_arrow (q : State) (es : List SubEquation) :
    openLabel ⟨q.nextLabel.2, es⟩ = q.openLabel := by
  rw [nextLabel, openLabel, openLabel]
  cases q.block <;> rfl

theorem counted_arrow (q : State) (e : SubEquation) :
    counted ⟨q.nextLabel.2, e :: q.equations⟩ = q.counted + 1 := by
  rw [nextLabel, counted, counted]
  cases q.block <;> rfl

/-- **A piece adds what it has**: the labels that have been read and those to come stay the same,
and so do the texts left of the arrows. -/
theorem headings_readPiece {q r : State} {p : Piece} (h : q.readPiece p = .ok r)
    (ps : List Piece) :
    q.equations.reverse.map SubEquation.label ++ labels q.openLabel q.counted (p :: ps) =
        r.equations.reverse.map SubEquation.label ++ labels r.openLabel r.counted ps ∧
      q.equations.reverse.map SubEquation.reactants ++ (p :: ps).filterMap Piece.left? =
        r.equations.reverse.map SubEquation.reactants ++ ps.filterMap Piece.left? := by
  cases p with
  | opening label line =>
    obtain ⟨-, rfl⟩ := readPiece_opening_eq_ok_iff.1 h
    exact ⟨rfl, rfl⟩
  | unclosed line => exact absurd h (q.readPiece_unclosed_ne_ok r line)
  | arrow left right =>
    rw [readPiece] at h
    rw [← Except.ok.inj h, openLabel_arrow, counted_arrow, labels]
    simp [nextLabel_eq, Piece.left?]
  | text line =>
    obtain ⟨-, e, es, he, rfl⟩ := readPiece_text_eq_ok_iff.1 h
    have hcounted : counted { q with equations := e.continueWith line :: es } = q.counted := by
      rw [counted, counted, he]
      rfl
    rw [hcounted, labels, List.filterMap_cons_none rfl]
    simp [he, openLabel]

/-- **A run adds the labels of its arrows**, and the texts left of them. -/
theorem headings_run {q r : State} {ps : List Piece} (h : q.run ps = .ok r) :
    r.equations.reverse.map SubEquation.label =
        q.equations.reverse.map SubEquation.label ++ labels q.openLabel q.counted ps ∧
      r.equations.reverse.map SubEquation.reactants =
        q.equations.reverse.map SubEquation.reactants ++ ps.filterMap Piece.left? := by
  induction ps generalizing q with
  | nil =>
    rw [← Except.ok.inj h, labels, List.append_nil, List.filterMap_nil, List.append_nil]
    exact ⟨rfl, rfl⟩
  | cons p ps ih =>
    obtain ⟨q', hq, hr⟩ := exists_of_bind (run_cons q p ps ▸ h)
    obtain ⟨hlabels, hlefts⟩ := ih hr
    obtain ⟨hlabels', hlefts'⟩ := headings_readPiece hq ps
    exact ⟨hlabels.trans hlabels'.symm, hlefts.trans hlefts'.symm⟩

end State

/-! ### Arrow lines -/

/-- The text left of the arrow of a cleaned line, behind its label. -/
def leftOf (line : List Char) : List Char := ((cutAtWord arrow (bodyOf line)).map Prod.fst).getD []

theorem filterMap_left?_bodyPieces (body : List Char) :
    (bodyPieces body).filterMap Piece.left? = ((cutAtWord arrow body).map Prod.fst).toList := by
  cases hc : cutAtWord arrow body with
  | some p =>
    obtain ⟨left, right⟩ := p
    rw [bodyPieces_of_some hc]
    rfl
  | none =>
    by_cases hb : body = []
    · rw [hb, bodyPieces_nil]
      rfl
    · rw [bodyPieces_of_none hb hc]
      rfl

/-- A line has one arrow if it is an arrow line, and none if not. -/
theorem filterMap_left?_pieces (line : List Char) :
    (pieces line).filterMap Piece.left? = if isArrowLine line then [leftOf line] else [] := by
  have hbody : (pieces line).filterMap Piece.left? =
      ((cutAtWord arrow (bodyOf line)).map Prod.fst).toList := by
    unfold pieces bodyOf
    split
    next rest =>
      cases hc : cutAt ']' rest with
      | none => rfl
      | some p => exact filterMap_left?_bodyPieces (trim p.2)
    · exact filterMap_left?_bodyPieces line
  rw [hbody, isArrowLine, occurs, leftOf]
  cases cutAtWord arrow (bodyOf line) <;> rfl

theorem filterMap_left?_sectionPieces (lines : List (List Char)) :
    (sectionPieces lines).filterMap Piece.left? =
      ((lines.map clean).filter isArrowLine).map leftOf := by
  induction lines with
  | nil => rfl
  | cons line lines ih =>
    rw [sectionPieces_cons, List.filterMap_append, ih, filterMap_left?_pieces, List.map_cons,
      List.filter_cons]
    split <;> rfl

/-- **The equations collected are the arrow lines**, under the labels that are due to them. -/
theorem headings_collect {lines : List (List Char)} {es : List SubEquation}
    (h : collect lines = .ok es) :
    es.map SubEquation.label = labels none 0 (sectionPieces lines) ∧
      es.map SubEquation.reactants = ((lines.map clean).filter isArrowLine).map leftOf := by
  rw [collect_eq] at h
  obtain ⟨q, hq, hfinish⟩ := exists_of_bind h
  obtain ⟨hlabels, hlefts⟩ := State.headings_run hq
  rw [(State.finish_eq_ok_iff.1 hfinish).2, hlabels, hlefts, filterMap_left?_sectionPieces]
  exact ⟨rfl, rfl⟩

end AtmosChem.Mozart
