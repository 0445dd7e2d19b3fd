import AtmosChem.Equation.Kpp
import AtmosChem.Proofs.Outcomes
import AtmosChem.Proofs.WrittenSides

/-!
# Lines of KPP as they are written

An equation of KPP is written on one line: a label in angle brackets, in braces or not at all, the
two sides with an equals sign between them, a colon, a rate and a semicolon.  `WrittenEquation` is
such an equation, `WrittenEquation.line` its line.

Six cuts find the parts of a line again, and each of them looks at raw text.  None goes astray,
because no part has the separator that ends it: `cut_line` collects this.

* `outcome_translateLine_line`: a written equation becomes what its label, terms and rate say.
-/

namespace AtmosChem.Kpp

open Text

/-! ### Labels -/

/-- How an equation is labelled. -/
inductive Labelling
  | angles (label : List Char)
  | braces (label : List Char)
  | absent

namespace Labelling

/-- What the label says. -/
def label : Labelling → List Char
  | angles l => l
  | braces l => l
  | absent => []

/-- A label with its brackets. -/
def text : Labelling → List Char
  | angles l => '<' :: l ++ ['>']
  | braces l => '\x7b' :: l ++ ['\x7d']
  | absent => []

/-- The label of the equation at some place. -/
def name (index : Nat) : Labelling → List Char
  | angles l => trim l
  | braces l => trim l
  | absent => generatedLabel index

end Labelling

/-- The characters that no label has. -/
def labelMarks : List Char := ['<', '>', '\x7b', '\x7d', '=', '+']

theorem filter_ne_eq_self {c : Char} {s : List Char} (h : c ∉ s) :
    (s.filter fun d => d ≠ c) = s := by
  refine List.filter_eq_self.2 ?_
  intro d hd
  rw [decide_eq_true_eq]
  rintro rfl
  exact h hd

theorem cutLabel?_angles {l : List Char} (h : ∀ c ∈ labelMarks, c ∉ l) (rest : List Char) :
    cutLabel? ('<' :: l ++ '>' :: rest) = some (trim l, rest) := by
  have hplus : '+' ∉ '<' :: l ++ ['>'] := by simp [h '+' (by decide)]
  have hfirst : '>' ∈ before '+' ('<' :: l ++ '>' :: rest) := by
    rw [List.append_cons, before_append_of_not_mem hplus]
    simp
  have hclose : '>' ∉ '<' :: l := by simp [h '>' (by decide)]
  have hfilter : (('<' :: l).filter fun c => c ≠ '<') = l := by
    rw [List.filter_cons, if_neg (by decide), filter_ne_eq_self (h '<' (by decide))]
  rw [cutLabel?, if_pos hfirst, cutAt_append hclose, Option.map_some, hfilter]

theorem cutLabel?_braces {l rest : List Char} (h : ∀ c ∈ labelMarks, c ∉ l)
    (hrest : '>' ∉ rest) : cutLabel? ('\x7b' :: l ++ '\x7d' :: rest) = some (trim l, rest) := by
  have hplus : '+' ∉ '\x7b' :: l ++ ['\x7d'] := by simp [h '+' (by decide)]
  have hangle : '>' ∉ before '+' ('\x7b' :: l ++ '\x7d' :: rest) := by
    intro hm
    have hm' := mem_of_mem_before hm
    simp [h '>' (by decide), hrest] at hm'
  have hfirst : '\x7d' ∈ before '+' ('\x7b' :: l ++ '\x7d' :: rest) := by
    rw [List.append_cons, before_append_of_not_mem hplus]
    simp
  have hclose : '\x7d' ∉ '\x7b' :: l := by simp [h '\x7d' (by decide)]
  have hfilter : (('\x7b' :: l).filter fun c => c ≠ '\x7b') = l := by
    rw [List.filter_cons, if_neg (by decide), filter_ne_eq_self (h '\x7b' (by decide))]
  rw [cutLabel?, if_neg hangle, if_pos hfirst, cutAt_append hclose, Option.map_some, hfilter]

theorem cutLabel?_of_not_mem {left : List Char} (h₁ : '>' ∉ left) (h₂ : '\x7d' ∉ left) :
    cutLabel? left = none := by
  rw [cutLabel?, if_neg fun hm => h₁ (mem_of_mem_before hm),
    if_neg fun hm => h₂ (mem_of_mem_before hm)]

/-! ### Lines -/

/-- The characters that keep the parts of a line apart. -/
def lineMarks : List Char := ['=', ':', ';', '<', '>']

/-- An equation as it is written on a line. -/
structure WrittenEquation where
  labelling : Labelling
  reactants : List WrittenTerm
  products : List WrittenTerm
  rate : List Char
  label_plain : ∀ c ∈ labelMarks, c ∉ labelling.label
  species_plain : ∀ t ∈ reactants ++ products, ∀ c ∈ lineMarks, c ∉ t.species
  rate_plain : ';' ∉ rate

namespace WrittenEquation

/-- The line of an equation. -/
def line (e : WrittenEquation) : List Char :=
  (e.labelling.text ++ side e.reactants) ++
    '=' :: (side e.products ++ ':' :: (e.rate ++ [';']))

theorem not_mem_side_of_mem_lineMarks {ts : List WrittenTerm} {c : Char}
    (h : ∀ t ∈ ts, ∀ c ∈ lineMarks, c ∉ t.species) (hc : c ∈ lineMarks) : c ∉ side ts := by
  have hmark : ∀ d ∈ lineMarks, d ≠ '+' ∧ isAmountChar d = false ∧ isBlank d = false :=
    forall_mem_of_all (by decide)
  obtain ⟨hplus, hamount, hblank⟩ := hmark c hc
  exact not_mem_side hplus fun t ht => t.not_mem_text hamount hblank (h t ht c hc)

theorem brace_not_mem_side (ts : List WrittenTerm) : '\x7d' ∉ side ts :=
  not_mem_side (by decide) fun t _ =>
    t.not_mem_text (by decide) (by decide) (t.species_plain _ (by simp))

theorem not_mem_reactants (e : WrittenEquation) {c : Char} (hc : c ∈ lineMarks) :
    c ∉ side e.reactants :=
  not_mem_side_of_mem_lineMarks (fun t ht => e.species_plain t (List.mem_append_left _ ht)) hc

theorem not_mem_products (e : WrittenEquation) {c : Char} (hc : c ∈ lineMarks) :
    c ∉ side e.products :=
  not_mem_side_of_mem_lineMarks (fun t ht => e.species_plain t (List.mem_append_right _ ht)) hc

theorem cutLabel?_left (e : WrittenEquation) (index : Nat) :
    (cutLabel? (e.labelling.text ++ side e.reactants)).getD
        (generatedLabel index, e.labelling.text ++ side e.reactants) =
      (e.labelling.name index, side e.reactants) := by
  have hplain := e.label_plain
  have hangle : '>' ∉ side e.reactants := e.not_mem_reactants (by decide)
  cases hl : e.labelling with
  | angles l =>
    rw [hl] at hplain
    change ∀ c ∈ labelMarks, c ∉ l at hplain
    rw [Labelling.text, List.append_assoc, List.singleton_append, cutLabel?_angles hplain]
    rfl
  | braces l =>
    rw [hl] at hplain
    change ∀ c ∈ labelMarks, c ∉ l at hplain
    rw [Labelling.text, List.append_assoc, List.singleton_append, cutLabel?_braces hplain hangle]
    rfl
  | absent =>
    rw [Labelling.text, List.nil_append,
      cutLabel?_of_not_mem hangle (brace_not_mem_side e.reactants)]
    rfl

theorem equals_not_mem_left (e : WrittenEquation) :
    '=' ∉ e.labelling.text ++ side e.reactants := by
  have hplain := e.label_plain '=' (by decide)
  have hside : '=' ∉ side e.reactants := e.not_mem_reactants (by decide)
  cases hl : e.labelling with
  | angles l =>
    rw [hl, Labelling.label] at hplain
    simpa [Labelling.text, hside] using hplain
  | braces l =>
    rw [hl, Labelling.label] at hplain
    simpa [Labelling.text, hside] using hplain
  | absent => simpa [Labelling.text] using hside

/-- **The parts of a line are found again.** -/
theorem cut_line (e : WrittenEquation) (index : Nat) :
    Parts.cut index e.line =
      .ok ⟨e.labelling.name index, side e.reactants, side e.products, e.rate⟩ := by
  have hcolon : ':' ∉ side e.products := e.not_mem_products (by decide)
  have hrate : before ';' (e.rate ++ [';']) = e.rate := before_append e.rate_plain
  simp only [Parts.cut, line, cutAt_append e.equals_not_mem_left, cutAt_append hcolon,
    e.cutLabel?_left index, hrate]

end WrittenEquation

/-! ### What becomes of a line -/

namespace WrittenEquation

/-- The equation that is written on a line, at its place in the section. -/
def equation (e : WrittenEquation) (index : Nat) : Equation where
  label := String.ofList (e.labelling.name index)
  sides := ⟨.ofTerms e.reactants e.products, e.reactants.any WrittenTerm.isPhoton⟩
  rate := classifyExpression e.rate (e.reactants.any WrittenTerm.isPhoton) !e.products.isEmpty
  notices :=
    if countsAsZero e.rate (e.reactants.any WrittenTerm.isPhoton) then
      [.notANumber (String.ofList (trim e.rate))]
    else []

/-- **A written equation is read back.** -/
theorem readEquation_line (e : WrittenEquation) (index : Nat) :
    readEquation index e.line = .ok (e.equation index) := by
  have hsides := read_sides (termTexts_side e.reactants) (termTexts_side e.products)
  rw [readEquation, e.cut_line index]
  show Parts.equation _ = _
  rw [Parts.equation, hsides, equation, ← Stoichiometry.hasProducts_ofTerms e.reactants e.products]
  rfl

end WrittenEquation

/-- **A written equation becomes what its parts say**: the amounts of each side in order under the
label, with the law of the rate.  It is a photolysis if a photon is among the reactants. -/
theorem outcome_translateLine_line (e : WrittenEquation) (index : Nat) :
    (translateLine index e.line).outcome =
      .ok (.ofRate (String.ofList (e.labelling.name index)) (.ofTerms e.reactants e.products)
        (classifyExpression e.rate (e.reactants.any WrittenTerm.isPhoton)
          !e.products.isEmpty)) := by
  rw [outcome_translateLine, e.readEquation_line index]
  rfl

/-- The equation on the line `<R1>2*NO + hv=.5 O3: 1.0D-3;`. -/
def photolysisOfNO : WrittenEquation where
  labelling := .angles ['R', '1']
  reactants := [twoNO, photonTerm]
  products := [halfO3]
  rate := " 1.0D-3".toList
  label_plain := forall_mem_of_all (by decide)
  species_plain := by
    intro t ht
    obtain rfl | rfl | rfl : t = twoNO ∨ t = photonTerm ∨ t = halfO3 := by simpa using ht
    · exact forall_mem_of_all (by decide)
    · exact forall_mem_of_all (by decide)
    · exact forall_mem_of_all (by decide)
  rate_plain := by decide +kernel

theorem outcome_translateLine_photolysisOfNO :
    (translateLine 1 "<R1>2*NO + hv=.5 O3: 1.0D-3;".toList).outcome =
      .ok ⟨[⟨"R1", .photolysis, ⟨[("NO", 0.0 + 2.0)], [("O3", 0.0 + 0.5)]⟩⟩], []⟩ := by
  have hline : photolysisOfNO.line = "<R1>2*NO + hv=.5 O3: 1.0D-3;".toList := by decide +kernel
  have h := outcome_translateLine_line photolysisOfNO 1
  rw [hline] at h
  exact h

end AtmosChem.Kpp
