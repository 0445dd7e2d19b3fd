import AtmosChem.Proofs.MozartPieces
import AtmosChem.Proofs.Outcomes
import AtmosChem.Proofs.SpelledNumbers
import AtmosChem.Proofs.WrittenSides

/-!
# Sections of MOZART as they are written

A section of MOZART is written block by block: a label in brackets, on a line of its own or in front
of the first equation, and one line for each equation of the block.  `WrittenBlock` is such a block
and `WrittenBlock.lines` its lines.

The lines are read by way of their pieces (`WrittenBlock.sectionPieces_lines`): an opening, then an
arrow for each equation.  The run over one block counts its equations (`run_arrows`), the run over
all blocks appends them (`run_blocks`).

* `outcome_translate_lines`: written blocks become what their labels, terms and coefficients say.
-/

namespace AtmosChem.Mozart

open Text

/-! ### Equations -/

theorem SubEquation.start_append {products : List Char} (h : ';' ∉ products)
    (label left tail : List Char) :
    start label left (products ++ ';' :: tail) = ⟨label, left, products, some tail⟩ := by
  simp only [start, cutAt_append h]

/-- An equation as it is written in a block. -/
structure WrittenEquation where
  reactants : List WrittenTerm
  products : List WrittenTerm
  coefficients : Option (List Char)
  species_plain : ∀ t ∈ reactants ++ products,
    ';' ∉ t.species ∧ '!' ∉ t.species ∧ occurs arrow t.species = false
  coefficients_plain : ∀ s ∈ coefficients, '!' ∉ s
  coefficients_tight : ∀ s ∈ coefficients, Tight s

namespace WrittenEquation

/-- The coefficients behind their semicolon, if there are any. -/
def tail (e : WrittenEquation) : List Char := e.coefficients.elim [] fun s => [' ', ';', ' '] ++ s

/-- The line of an equation. -/
def line (e : WrittenEquation) : List Char :=
  (side e.reactants ++ [' ']) ++ '-' :: '>' :: (' ' :: (side e.products ++ e.tail))

/-- The text left of the arrow, once the line has been trimmed. -/
def left (e : WrittenEquation) : List Char := trimStart (side e.reactants ++ [' '])

/-- The text right of the arrow, once the line has been trimmed. -/
def right (e : WrittenEquation) : List Char := trimEnd (' ' :: (side e.products ++ e.tail))

theorem trim_line (e : WrittenEquation) : trim e.line = e.left ++ '-' :: '>' :: e.right := by
  have hright := trimEnd_append_cons (c := '>') (by decide) [] (' ' :: (side e.products ++ e.tail))
  rw [List.nil_append, List.nil_append] at hright
  rw [line, trim_append_cons (by decide), hright]
  rfl

theorem comment_not_mem_line (e : WrittenEquation) : '!' ∉ e.line := by
  have hterm : ∀ t ∈ e.reactants ++ e.products, '!' ∉ t.text := fun t ht =>
    t.not_mem_text (by decide) (by decide) (e.species_plain t ht).2.1
  have hrs : '!' ∉ side e.reactants :=
    not_mem_side (by decide) fun t ht => hterm t (List.mem_append_left _ ht)
  have hps : '!' ∉ side e.products :=
    not_mem_side (by decide) fun t ht => hterm t (List.mem_append_right _ ht)
  have htail : '!' ∉ e.tail := by
    rw [tail]
    cases hc : e.coefficients with
    | none => simp
    | some s => simpa using e.coefficients_plain s hc
  simp [line, hrs, hps, htail]

/-! #### The arrow -/

theorem cutAtWord_text {t : WrittenTerm} (h : occurs arrow t.species = false) :
    cutAtWord arrow t.text = none := by
  have hlead : '-' ∉ t.lead := by
    intro hm
    exact absurd (t.lead_blank _ hm) (by decide)
  have hfront : '-' ∉ t.front := by
    intro hm
    rcases WrittenTerm.mem_front hm with hc | hc
    · exact absurd hc (by decide)
    · exact absurd hc (by decide)
  have htrail : ∀ c ∈ t.trail, c ∉ arrow := fun c hc =>
    not_mem_arrow_of_isBlank (t.trail_blank c hc)
  have hspecies := occurs_eq_false_iff.1 h
  rw [arrow] at hspecies htrail ⊢
  refine cutAtWord_append_eq_none ?_ htrail
  rw [WrittenTerm.body, cutAtWord_append_of_not_mem hlead, cutAtWord_append_of_not_mem hfront,
    hspecies]
  rfl

theorem cutAtWord_side {ts : List WrittenTerm}
    (h : ∀ t ∈ ts, occurs arrow t.species = false) : cutAtWord arrow (side ts) = none := by
  induction ts with
  | nil => rfl
  | cons t ts ih =>
    have ht := cutAtWord_text (h t List.mem_cons_self)
    cases ts with
    | nil => rwa [side_singleton]
    | cons u ts =>
      rw [side_cons_cons, cutAtWord_append_cons (by decide) (by decide) ht,
        ih fun v hv => h v (List.mem_cons_of_mem t hv)]
      rfl

theorem cutAtWord_reactants (e : WrittenEquation) :
    cutAtWord arrow (side e.reactants ++ [' ']) = none := by
  have hside : cutAtWord arrow (side e.reactants) = none :=
    cutAtWord_side fun t ht => (e.species_plain t (List.mem_append_left _ ht)).2.2
  exact cutAtWord_append_eq_none hside (forall_mem_of_all (by decide))

theorem head_left_ne (e : WrittenEquation) (s : List Char) :
    (e.left ++ '-' :: s).head? ≠ some '[' := by
  rw [left]
  cases hr : e.reactants with
  | nil => simp [show trimStart [' '] = [] from rfl]
  | cons t ts =>
    obtain ⟨rest, hs⟩ := exists_side_cons t ts
    have hbody : ∀ c ∈ (t.body ++ (t.trail ++ rest ++ [' '])).head?, isBlank c = false := by
      cases hb : t.body with
      | nil => exact absurd hb t.body_ne_nil
      | cons c s =>
        have hhead := t.tight_body.head
        rw [hb] at hhead
        simpa using hhead
    have hside : trimStart (side (t :: ts) ++ [' ']) = t.body ++ (t.trail ++ rest ++ [' ']) := by
      have he : side (t :: ts) ++ [' '] = t.lead ++ (t.body ++ (t.trail ++ rest ++ [' '])) := by
        simp [hs, WrittenTerm.text]
      rw [he, trimStart_append_of_blanks t.lead_blank, trimStart_of_head hbody]
    have hne := t.head_body_ne (c := '[') (by decide) (by decide) (by decide +kernel)
    rw [hside]
    cases hb : t.body with
    | nil => exact absurd hb t.body_ne_nil
    | cons c s => simpa [hb] using hne

/-- **The line of an equation is one arrow.** -/
theorem bodyPieces_trim_line (e : WrittenEquation) :
    bodyPieces (trim e.line) = [.arrow e.left e.right] :=
  bodyPieces_trim_arrow e.cutAtWord_reactants _

theorem pieces_clean_line (e : WrittenEquation) :
    pieces (clean e.line) = [.arrow e.left e.right] := by
  rw [clean_of_not_mem e.comment_not_mem_line, ← e.bodyPieces_trim_line]
  refine pieces_of_head ?_
  rw [e.trim_line]
  exact e.head_left_ne _

/-! #### What is read -/

/-- The equation that is read under a label. -/
def equation (label : List Char) (e : WrittenEquation) : Equation where
  label := String.ofList label
  sides := ⟨.ofTerms e.reactants e.products, e.reactants.any WrittenTerm.isPhoton⟩
  rate := classifyCoefficients (AtmosChem.coefficients (e.coefficients.getD []))
    (e.reactants.any WrittenTerm.isPhoton) !e.products.isEmpty
  notices := []

end WrittenEquation

theorem coefficients_trimEnd_cons_space {s : List Char} (h : Tight s) :
    AtmosChem.coefficients (trimEnd (' ' :: s)) = AtmosChem.coefficients s := by
  cases s with
  | nil => rfl
  | cons c rest =>
    have hlast : ∀ d ∈ (' ' :: c :: rest).getLast?, isBlank d = false := by simpa using h.last
    rw [trimEnd_of_last hlast, coefficients_cons_space]

namespace WrittenEquation

theorem semicolon_not_mem_products (e : WrittenEquation) : ';' ∉ ' ' :: side e.products := by
  have hside : ';' ∉ side e.products := by
    refine not_mem_side (by decide) ?_
    intro t ht
    exact t.not_mem_text (by decide) (by decide) (e.species_plain t (List.mem_append_right _ ht)).1
  simpa using hside

theorem start_of_none (e : WrittenEquation) (label : List Char) (h : e.coefficients = none) :
    SubEquation.start label e.left e.right =
      ⟨label, e.left, trimEnd (' ' :: side e.products), none⟩ := by
  have hright : e.right = trimEnd (' ' :: side e.products) := by
    rw [right, tail, h, Option.elim_none, List.append_nil]
  have hcut : cutAt ';' e.right = none := by
    rw [cutAt_eq_none_iff, hright]
    obtain ⟨trail, -, he⟩ := exists_eq_trimEnd (' ' :: side e.products)
    intro hm
    refine e.semicolon_not_mem_products ?_
    rw [he]
    exact List.mem_append_left _ hm
  rw [hright] at hcut ⊢
  simp only [SubEquation.start, hcut]

theorem start_of_some (e : WrittenEquation) (label : List Char) {s : List Char}
    (h : e.coefficients = some s) :
    SubEquation.start label e.left e.right =
      ⟨label, e.left, ' ' :: side e.products ++ [' '], some (trimEnd (' ' :: s))⟩ := by
  have hright : e.right = (' ' :: side e.products ++ [' ']) ++ ';' :: trimEnd (' ' :: s) := by
    rw [right, tail, h, ← trimEnd_append_cons (by decide)]
    simp
  have hsemicolon : ';' ∉ ' ' :: side e.products ++ [' '] := by
    simpa using e.semicolon_not_mem_products
  rw [hright, SubEquation.start_append hsemicolon]

/-- The products and the coefficients are found in the text right of the arrow. -/
theorem start_left_right (e : WrittenEquation) (label : List Char) :
    ∃ products tail, SubEquation.start label e.left e.right = ⟨label, e.left, products, tail⟩ ∧
      termTexts products = e.products.map WrittenTerm.body ∧
      AtmosChem.coefficients (tail.getD []) =
        AtmosChem.coefficients (e.coefficients.getD []) := by
  have hblank : ∀ c ∈ [' '], isBlank c = true := forall_mem_of_all (by decide)
  cases hc : e.coefficients with
  | none =>
    refine ⟨_, _, e.start_of_none label hc, ?_, rfl⟩
    have hpad := termTexts_pad hblank isBlank_of_mem_nil (side e.products)
    rw [List.append_nil, List.singleton_append] at hpad
    rw [termTexts_trimEnd, hpad, termTexts_side]
  | some s =>
    refine ⟨_, _, e.start_of_some label hc, ?_, ?_⟩
    · rw [← List.singleton_append, termTexts_pad hblank hblank, termTexts_side]
    · exact coefficients_trimEnd_cons_space (e.coefficients_tight s hc)

/-- **A written equation is read back.** -/
theorem equation_start (e : WrittenEquation) (label : List Char) :
    (SubEquation.start label e.left e.right).equation = .ok (e.equation label) := by
  obtain ⟨products, tail, hstart, hproducts, htail⟩ := e.start_left_right label
  have hreactants : termTexts e.left = e.reactants.map WrittenTerm.body := by
    have hblank : ∀ c ∈ [' '], isBlank c = true := forall_mem_of_all (by decide)
    have hpad := termTexts_pad isBlank_of_mem_nil hblank (side e.reactants)
    rw [List.nil_append] at hpad
    rw [left, termTexts_trimStart, hpad, termTexts_side]
  rw [hstart, SubEquation.equation]
  simp only [read_sides hreactants hproducts, htail, equation,
    ← Stoichiometry.hasProducts_ofTerms e.reactants e.products]
  rfl

end WrittenEquation

/-! ### Blocks -/

/-- A block as it is written: a label, on a line of its own or not, and the block's equations. -/
structure WrittenBlock where
  label : List Char
  ownLine : Bool
  first : WrittenEquation
  rest : List WrittenEquation
  label_plain : ∀ c ∈ [']', '!'], c ∉ label

/-- The label of the equation at some place of a block. -/
def numbered (label : List Char) (n : Nat) : List Char :=
  label ++ [' ', '('] ++ Decimal.decimalText n ++ [')']

theorem ofList_numbered_one (label : List Char) :
    String.ofList (numbered label 1) = String.ofList label ++ " (1)" := by
  have hone : numbered label 1 = label ++ " (1)".toList := by
    rw [numbered, List.append_assoc, List.append_assoc]
    rfl
  rw [hone, String.ofList_append, String.ofList_toList]

namespace WrittenBlock

/-- The label in its brackets. -/
def bracket (b : WrittenBlock) : List Char := '[' :: (b.label ++ [']'])

/-- The line that opens the block. -/
def openingLine (b : WrittenBlock) : List Char :=
  if b.ownLine then b.bracket else b.bracket ++ b.first.line

/-- The lines of a block. -/
def lines (b : WrittenBlock) : List (List Char) :=
  if b.ownLine then b.openingLine :: b.first.line :: b.rest.map WrittenEquation.line
  else b.openingLine :: b.rest.map WrittenEquation.line

/-- The equations of a block, named after the label and counted from one. -/
def equations (b : WrittenBlock) : List Equation :=
  ((b.first :: b.rest).zipIdx 1).map fun p => p.1.equation (numbered (trim b.label) p.2)

/-- The piece of an equation's line. -/
def piece (e : WrittenEquation) : Piece := .arrow e.left e.right

theorem sectionPieces_map_line (es : List WrittenEquation) :
    sectionPieces (es.map WrittenEquation.line) = es.map piece := by
  induction es with
  | nil => rfl
  | cons e es ih =>
    rw [List.map_cons, sectionPieces_cons, e.pieces_clean_line, ih]
    rfl

/-- The label of a block in front of the block's first equation, or of nothing. -/
theorem pieces_bracket_append (b : WrittenBlock) {body : List Char} (h : '!' ∉ body) :
    ∃ opened, pieces (clean (b.bracket ++ body)) =
      .opening (trim b.label) opened :: bodyPieces (trim body) := by
  have hlabel := b.label_plain
  have hline : b.bracket ++ body = '[' :: (b.label ++ ']' :: body) := by simp [bracket]
  have hcomment : '!' ∉ b.label ++ body := by simp [h, hlabel '!' (by decide)]
  rw [hline, pieces_clean_bracketed (hlabel ']' (by decide)) hcomment]
  exact ⟨_, rfl⟩

/-- **The pieces of a block** are an opening and an arrow for each equation. -/
theorem sectionPieces_lines (b : WrittenBlock) :
    ∃ opened, sectionPieces b.lines =
      .opening (trim b.label) opened :: (b.first :: b.rest).map piece := by
  cases ho : b.ownLine with
  | true =>
    obtain ⟨opened, hp⟩ := b.pieces_bracket_append List.not_mem_nil
    rw [List.append_nil, trim_nil, bodyPieces_nil] at hp
    refine ⟨opened, ?_⟩
    rw [lines, openingLine, if_pos ho, if_pos ho, sectionPieces_cons, hp, ← List.map_cons,
      sectionPieces_map_line]
    rfl
  | false =>
    obtain ⟨opened, hp⟩ := b.pieces_bracket_append b.first.comment_not_mem_line
    have hno : ¬ b.ownLine = true := by rw [ho]; decide
    refine ⟨opened, ?_⟩
    rw [lines, openingLine, if_neg hno, if_neg hno, sectionPieces_cons, hp,
      b.first.bodyPieces_trim_line, sectionPieces_map_line]
    rfl

end WrittenBlock

/-! ### The run over blocks -/

/-- The equations of a block as texts, counted on from some place. -/
def collected (label : List Char) (n : Nat) (es : List WrittenEquation) : List SubEquation :=
  (es.zipIdx (n + 1)).map fun p => .start (numbered label p.2) p.1.left p.1.right

namespace State

/-- **Equations are counted**: each arrow takes the next number of the block. -/
theorem run_arrows (es : List WrittenEquation) (label openedBy : List Char) (n : Nat)
    (before : List SubEquation) :
    run ⟨some ⟨label, openedBy, n⟩, before⟩ (es.map WrittenBlock.piece) =
      .ok ⟨some ⟨label, openedBy, n + es.length⟩, (collected label n es).reverse ++ before⟩ := by
  induction es generalizing n before with
  | nil => rfl
  | cons e es ih =>
    have hstep : readPiece ⟨some ⟨label, openedBy, n⟩, before⟩ (WrittenBlock.piece e) =
        .ok ⟨some ⟨label, openedBy, n + 1⟩,
          .start (numbered label (n + 1)) e.left e.right :: before⟩ := rfl
    have hcollected : collected label n (e :: es) =
        .start (numbered label (n + 1)) e.left e.right :: collected label (n + 1) es := rfl
    rw [List.map_cons, run_cons, hstep]
    show run _ _ = _
    rw [ih, hcollected, List.reverse_cons, List.append_assoc, List.length_cons,
      Nat.add_assoc, Nat.add_comm 1]
    rfl

/-- **A block adds its equations** and leaves itself open with all of them counted. -/
theorem run_block (b : WrittenBlock) {q : State} (h : q.unfinished? = none) :
    ∃ r : State, q.run (sectionPieces b.lines) = .ok r ∧ r.unfinished? = none ∧
      r.equations = (collected (trim b.label) 0 (b.first :: b.rest)).reverse ++ q.equations := by
  obtain ⟨opened, hp⟩ := b.sectionPieces_lines
  refine ⟨⟨some ⟨trim b.label, opened, 0 + (b.first :: b.rest).length⟩, _⟩, ?_, ?_, rfl⟩
  · rw [hp, run_cons, readPiece, h]
    exact run_arrows (b.first :: b.rest) (trim b.label) opened 0 q.equations
  · simp [unfinished?]

theorem run_blocks (bs : List WrittenBlock) {q : State} (h : q.unfinished? = none) :
    ∃ r : State, q.run (sectionPieces (bs.flatMap WrittenBlock.lines)) = .ok r ∧
      r.unfinished? = none ∧
      r.equations = (bs.flatMap fun b =>
        collected (trim b.label) 0 (b.first :: b.rest)).reverse ++ q.equations := by
  induction bs generalizing q with
  | nil => exact ⟨q, rfl, h, rfl⟩
  | cons b bs ih =>
    obtain ⟨r, hr, hopen, heqs⟩ := run_block b h
    obtain ⟨r', hr', hopen', heqs'⟩ := ih hopen
    refine ⟨r', ?_, hopen', ?_⟩
    · rw [List.flatMap_cons, sectionPieces_append, run_append, hr]
      exact hr'
    · rw [heqs', heqs, List.flatMap_cons, List.reverse_append, List.append_assoc]

end State

theorem collect_lines (bs : List WrittenBlock) :
    collect (bs.flatMap WrittenBlock.lines) =
      .ok (bs.flatMap fun b => collected (trim b.label) 0 (b.first :: b.rest)) := by
  obtain ⟨r, hr, hopen, heqs⟩ := State.run_blocks bs (q := State.start) rfl
  rw [collect_eq, hr]
  show State.finish r = _
  rw [State.finish, hopen, heqs]
  simp [State.start]

theorem map_equation_collected (b : WrittenBlock) :
    (collected (trim b.label) 0 (b.first :: b.rest)).map SubEquation.equation =
      b.equations.map .ok := by
  rw [collected, WrittenBlock.equations, List.map_map, List.map_map]
  refine List.map_congr_left ?_
  intro p _
  exact p.1.equation_start (numbered (trim b.label) p.2)

/-- **Written blocks are read back.**  A section becomes what its equations say, one after the other
in the order in which they are written. -/
theorem outcome_translate_lines (bs : List WrittenBlock) :
    (translate (bs.flatMap WrittenBlock.lines)).outcome =
      .ok (((bs.flatMap WrittenBlock.equations).map Equation.translation).foldr
        .merge .empty) := by
  have hequations : (bs.flatMap fun b => collected (trim b.label) 0 (b.first :: b.rest)).map
      SubEquation.equation = (bs.flatMap WrittenBlock.equations).map .ok := by
    rw [List.map_flatMap, List.map_flatMap, funext map_equation_collected]
  rw [translate, collect_lines]
  simp only [hequations]
  exact Translation.outcome_ofEquations_ok _

/-- The equation on the line `2*NO + hv -> .5 O3`. -/
def photolysisOfNO : WrittenEquation where
  reactants := [twoNO, photonTerm]
  products := [halfO3]
  coefficients := none
  species_plain := by decide
  coefficients_plain := by decide
  coefficients_tight := by simp

/-- The block `[ jno]` with a photolysis on the same line and an equation whose one coefficient is
no number. -/
def blockOfNO : WrittenBlock where
  label := [' ', 'j', 'n', 'o']
  ownLine := false
  first := photolysisOfNO
  rest := [{
    reactants := [halfO3]
    products := [twoNO]
    coefficients := some ['k']
    species_plain := by decide
    coefficients_plain := by decide
    coefficients_tight := by
      rintro s ⟨⟩
      exact trim_eq_self_iff.1 (by decide) }]
  label_plain := forall_mem_of_all (by decide)

theorem outcome_translate_blockOfNO :
    (translate ["[ jno]2*NO + hv -> .5 O3".toList, ".5 O3 -> 2*NO  ; k".toList]).outcome =
      .ok ⟨[⟨"jno (1)", .photolysis, ⟨[("NO", 0.0 + 2.0)], [("O3", 0.0 + 0.5)]⟩⟩],
        ["jno (2)"]⟩ := by
  have hlines : [blockOfNO].flatMap WrittenBlock.lines =
      ["[ jno]2*NO + hv -> .5 O3".toList, ".5 O3 -> 2*NO  ; k".toList] := by decide +kernel
  have h := outcome_translate_lines [blockOfNO]
  rw [hlines] at h
  exact h

end AtmosChem.Mozart
