import AtmosChem.Proofs.KppLines
import AtmosChem.Proofs.MozartSections
import AtmosChem.Proofs.WrittenRates

/-!
# Equations in both formats

An equation can be written in either format:

    <L> R = P : rate ;
    [L] R -> P ; coefficients

`CommonEquation` is what the two lines share.  The lines are cut at different places and in a
different order, but the parts come out the same: the label, and sides with the same terms
(`kppLine_outcome`, `mozartLine_outcome`).  So the formats agree wherever the rate and the
coefficients have the same law: they give the same failure, or one reaction each.
-/

namespace AtmosChem

open Text

/-- The characters that end a side in one of the formats. -/
def sideMarks : List Char := ['!', ';', ':', '=', '>']

/-- The label and the sides of an equation, as texts.  The sides need not be sums of terms. -/
structure CommonEquation where
  label : List Char
  reactants : List Char
  products : List Char
  label_tight : Tight label
  label_plain : ∀ c ∈ ['!', ']'] ++ Kpp.labelMarks, c ∉ label
  sides_plain : ∀ c ∈ sideMarks, c ∉ reactants ++ products

/-! ### Usual texts -/

/-- Letters and digits. -/
def isLabelChar (c : Char) : Bool := isAlphabetic c || c.isDigit

/-- The characters of terms and of what stands between them. -/
def isSideChar (c : Char) : Bool := isLabelChar c || isBlank c || ['_', '.', '*', '+'].contains c

theorem isBlank_of_isLabelChar {c : Char} (h : isLabelChar c = true) : isBlank c = false := by
  rcases Bool.or_eq_true_iff.1 h with hc | hc
  · exact isBlank_of_isAlphabetic hc
  · exact isBlank_of_isAmountChar (by simp [isAmountChar, hc])

/-- An equation from a label of letters and digits and from sides of terms. -/
def CommonEquation.ofTexts (label reactants products : List Char)
    (hlabel : ∀ c ∈ label, isLabelChar c = true)
    (hsides : ∀ c ∈ reactants ++ products, isSideChar c = true) : CommonEquation where
  label := label
  reactants := reactants
  products := products
  label_tight := tight_of_forall fun c hc => isBlank_of_isLabelChar (hlabel c hc)
  label_plain := by
    have hmarks : ∀ c ∈ ['!', ']'] ++ Kpp.labelMarks, isLabelChar c = false :=
      forall_mem_of_all (by decide +kernel)
    intro c hc hm
    exact absurd (hlabel c hm) (by simp [hmarks c hc])
  sides_plain := by
    have hmarks : ∀ c ∈ sideMarks, isSideChar c = false := forall_mem_of_all (by decide +kernel)
    intro c hc hm
    exact absurd (hsides c hm) (by simp [hmarks c hc])

/-! ### Sides -/

/-- What is read from the sides of an equation depends on their terms only. -/
theorem Sides.read_congr {rs rs' ps ps' : List Char} (hr : termTexts rs = termTexts rs')
    (hp : termTexts ps = termTexts ps') : Sides.read rs ps = Sides.read rs' ps' := by
  rw [read, read, hr, hp]

theorem termTexts_padded (s : List Char) : termTexts (padded s) = termTexts s :=
  termTexts_pad isBlank_of_mem_space isBlank_of_mem_space s

namespace CommonEquation

variable (e : CommonEquation)

theorem not_mem_reactants {c : Char} (hc : c ∈ sideMarks) : c ∉ e.reactants :=
  fun hm => e.sides_plain c hc (List.mem_append_left _ hm)

theorem not_mem_products {c : Char} (hc : c ∈ sideMarks) : c ∉ e.products :=
  fun hm => e.sides_plain c hc (List.mem_append_right _ hm)

/-! ### The line of KPP -/

/-- The line of KPP. -/
def kppLine (rate : List Char) : List Char :=
  ('<' :: e.label ++ '>' :: padded e.reactants) ++
    '=' :: (padded e.products ++ ':' :: (padded rate ++ [';']))

theorem cut_kppLine {rate : List Char} (h : ';' ∉ rate) (index : Nat) :
    Kpp.Parts.cut index (e.kppLine rate) =
      .ok ⟨e.label, padded e.reactants, padded e.products, padded rate⟩ := by
  have hlabel : ∀ c ∈ Kpp.labelMarks, c ∉ e.label := fun c hc =>
    e.label_plain c (List.mem_append_right _ hc)
  have hequals : '=' ∉ '<' :: e.label ++ '>' :: padded e.reactants := by
    have hl := hlabel '=' (by decide)
    have hr := not_mem_padded (by decide) (e.not_mem_reactants (c := '=') (by decide))
    simp [hl, hr]
  have hcolon : ':' ∉ padded e.products :=
    not_mem_padded (by decide) (e.not_mem_products (by decide))
  have hrate : before ';' (padded rate ++ [';']) = padded rate :=
    before_append (not_mem_padded (by decide) h)
  simp only [Kpp.Parts.cut, kppLine, cutAt_append hequals, cutAt_append hcolon,
    Kpp.cutLabel?_angles hlabel, trim_of_tight e.label_tight, hrate, Option.getD_some]

theorem kppLine_outcome {rate : List Char} (h : ';' ∉ rate) (index : Nat) :
    (Kpp.translateLine index (e.kppLine rate)).outcome =
      (Sides.read e.reactants e.products).map fun sides =>
        .ofRate (String.ofList e.label) sides.stoichiometry
          (classifyExpression (padded rate) sides.photon sides.stoichiometry.hasProducts) := by
  have hsides : Sides.read (padded e.reactants) (padded e.products) =
      Sides.read e.reactants e.products :=
    Sides.read_congr (termTexts_padded _) (termTexts_padded _)
  rw [Kpp.outcome_translateLine, Kpp.readEquation, e.cut_kppLine h index]
  change (Kpp.Parts.equation _).map Equation.translation = _
  rw [Kpp.Parts.equation, hsides]
  cases Sides.read e.reactants e.products <;> rfl

/-! ### The line of MOZART -/

/-- The line of MOZART. -/
def mozartLine (cs : List Char) : List Char :=
  '[' :: (e.label ++ ']' ::
    (padded e.reactants ++ '-' :: '>' :: (padded e.products ++ ';' :: ' ' :: cs)))

/-- The equation of that line, as texts. -/
def subEquation (cs : List Char) : Mozart.SubEquation where
  label := Mozart.numbered e.label 1
  reactants := trimStart (padded e.reactants)
  products := padded e.products
  coefficients := some (trimEnd (' ' :: cs))

theorem pieces_mozartLine {cs : List Char} (h : '!' ∉ cs) :
    ∃ opened, Mozart.pieces (Mozart.clean (e.mozartLine cs)) =
      [.opening e.label opened,
        .arrow (trimStart (padded e.reactants))
          (padded e.products ++ ';' :: trimEnd (' ' :: cs))] := by
  have hcomment : '!' ∉ e.label ++
      (padded e.reactants ++ '-' :: '>' :: (padded e.products ++ ';' :: ' ' :: cs)) := by
    have hl := e.label_plain '!' (by decide)
    have hr := not_mem_padded (by decide) (e.not_mem_reactants (c := '!') (by decide))
    have hp := not_mem_padded (by decide) (e.not_mem_products (c := '!') (by decide))
    simp [hl, hr, hp, h]
  have harrow : cutAtWord Mozart.arrow (padded e.reactants) = none :=
    cutAtWord_eq_none (c := '>') (by decide)
      (not_mem_padded (by decide) (e.not_mem_reactants (by decide)))
  have hright : trimEnd (padded e.products ++ ';' :: ' ' :: cs) =
      padded e.products ++ ';' :: trimEnd (' ' :: cs) :=
    trimEnd_append_cons (by decide) _ _
  rw [mozartLine, Mozart.pieces_clean_bracketed (e.label_plain ']' (by decide)) hcomment,
    Mozart.bodyPieces_trim_arrow harrow, hright, trim_of_tight e.label_tight]
  exact ⟨_, rfl⟩

theorem collect_mozartLine {cs : List Char} (h : '!' ∉ cs) :
    Mozart.collect [e.mozartLine cs] = .ok [e.subEquation cs] := by
  have hsemicolon : ';' ∉ padded e.products :=
    not_mem_padded (by decide) (e.not_mem_products (by decide))
  obtain ⟨opened, hp⟩ := e.pieces_mozartLine h
  rw [Mozart.collect_eq, Mozart.sectionPieces_cons, hp, Mozart.sectionPieces_nil, subEquation,
    ← Mozart.SubEquation.start_append hsemicolon]
  rfl

theorem mozartLine_outcome {parts : List (List Char)} {xs : List Float} (h : Spells parts xs) :
    (Mozart.translate [e.mozartLine (commaList parts)]).outcome =
      (Sides.read e.reactants e.products).map fun sides =>
        .ofRate (String.ofList (Mozart.numbered e.label 1)) sides.stoichiometry
          (classifyCoefficients xs sides.photon sides.stoichiometry.hasProducts) := by
  have hsides : Sides.read (e.subEquation (commaList parts)).reactants
      (e.subEquation (commaList parts)).products = Sides.read e.reactants e.products :=
    Sides.read_congr ((termTexts_trimStart _).trans (termTexts_padded _)) (termTexts_padded _)
  rw [Mozart.translate, e.collect_mozartLine (h.not_mem_commaList (by decide) (by decide))]
  change (Translation.ofEquations [(e.subEquation (commaList parts)).equation]).outcome = _
  rw [Translation.outcome_ofEquations_singleton, Mozart.SubEquation.equation, hsides]
  simp only [subEquation, Option.getD_some, h.coefficients_eq]
  cases Sides.read e.reactants e.products <;> rfl

/-! ### Agreement -/

/-- Whether the lines of both formats come to the same: the same failure, or one reaction each, with
the same law and sides, named after the label and after its first equation. -/
def Agree (index : Nat) (rate cs : List Char) : Prop :=
  (∃ failure, (Kpp.translateLine index (e.kppLine rate)).outcome = .error failure ∧
    (Mozart.translate [e.mozartLine cs]).outcome = .error failure) ∨
  ∃ law sides,
    (Kpp.translateLine index (e.kppLine rate)).outcome =
      .ok ⟨[⟨String.ofList e.label, law, sides⟩], []⟩ ∧
    (Mozart.translate [e.mozartLine cs]).outcome =
      .ok ⟨[⟨String.ofList e.label ++ " (1)", law, sides⟩], []⟩

theorem agree_of_sameLaw {rate : List Char} {parts : List (List Char)} {xs : List Float}
    (hrate : ';' ∉ rate) (hparts : Spells parts xs) (h : SameLaw rate xs) (index : Nat) :
    e.Agree index rate (commaList parts) := by
  rw [Agree, e.kppLine_outcome hrate, e.mozartLine_outcome hparts]
  cases Sides.read e.reactants e.products with
  | error failure => exact Or.inl ⟨failure, rfl, rfl⟩
  | ok sides =>
    obtain ⟨law, hkpp, hmozart⟩ := h sides.photon sides.stoichiometry.hasProducts
    refine Or.inr ⟨law, sides.stoichiometry, ?_, ?_⟩
    · simp only [Except.map, hkpp]
      rfl
    · simp only [Except.map, hmozart, Mozart.ofList_numbered_one]
      rfl

/-- **Both formats agree** on their common equations, whatever the sides are: on rates that are a
number, on Arrhenius rates without a power if the activation changes its sign, and on falloffs if
the broadening factor is added.  A text that stands for a number has no mark of either format, so
nothing else is asked of these texts. -/
theorem formats_agree (index : Nat) :
    (∀ x a, Spells [x] [a] → e.Agree index x x) ∧
    (∀ x y z a b, Spells [x, y, z] [a, b, -b] →
      e.Agree index (callText arrheniusName [x, y]) (commaList [x, z])) ∧
    (∀ k n q m k₀ n₀ kInf m₀, Spells [k, n, q, m] [k₀, n₀, kInf, m₀] →
      e.Agree index (callText troeName ([k, n, q, m] ++ placeholders))
        (commaList ([k, n, q, m] ++ [broadeningText]))) := by
  refine ⟨?_, ?_, ?_⟩
  · intro x a h
    have hrate : ';' ∉ x := h.plain x List.mem_cons_self ';' (by decide)
    have hagree := e.agree_of_sameLaw hrate h (sameLaw_number h) index
    rwa [commaList, List.intercalate_singleton] at hagree
  · intro x y z a b h
    obtain ⟨hx, hy, hz⟩ : coefficient? x = some a ∧ coefficient? y = some b ∧
        coefficient? z = some (-b) := by simpa [Spells] using h
    have hxy : Spells [x, y] [a, b] := by simp [Spells, hx, hy]
    have hxz : Spells [x, z] [a, -b] := by simp [Spells, hx, hz]
    have hrate : ';' ∉ callText arrheniusName [x, y] :=
      not_mem_callText (by decide) (by decide) fun s hs => hxy.plain s hs ';' (by decide)
    exact e.agree_of_sameLaw hrate hxz (sameLaw_arrhenius hxy) index
  · intro k n q m k₀ n₀ kInf m₀ h
    have hcs : Spells ([k, n, q, m] ++ [broadeningText]) [k₀, n₀, kInf, m₀, 0.6] := by
      rw [Spells, List.map_append, h, List.map_singleton, coefficient?_broadeningText]
      rfl
    have hrate : ';' ∉ callText troeName ([k, n, q, m] ++ placeholders) :=
      not_mem_callText (by decide) (by decide) fun s hs =>
        plain_of_mem_append_placeholders h s hs ';' (by decide)
    exact e.agree_of_sameLaw hrate hcs (sameLaw_troe h) index

end CommonEquation

/-- The equation of ozone and nitrogen oxide. -/
def titration : CommonEquation :=
  .ofTexts "R1".toList "O3 + NO".toList "NO2 + O2".toList (forall_mem_of_all (by decide +kernel))
    (forall_mem_of_all (by decide +kernel))

theorem formats_agree_titration :
    titration.kppLine (callText arrheniusName ["3.0D-12".toList, "1500.0_dp".toList]) =
      "<R1> O3 + NO = NO2 + O2 : ARR_ab(3.0D-12, 1500.0_dp) ;".toList ∧
    titration.mozartLine (commaList ["3.0D-12".toList, "-1500.0".toList]) =
      "[R1] O3 + NO -> NO2 + O2 ; 3.0D-12, -1500.0".toList ∧
    titration.Agree 7 "3.0D-12".toList "3.0D-12".toList ∧
    titration.Agree 7 (callText arrheniusName ["3.0D-12".toList, "1500.0_dp".toList])
      (commaList ["3.0D-12".toList, "-1500.0".toList]) ∧
    titration.Agree 7 (callText troeName (["1".toList, "2 ".toList, ".5".toList, "0".toList] ++
        placeholders))
      (commaList (["1".toList, "2 ".toList, ".5".toList, "0".toList] ++ [broadeningText])) := by
  obtain ⟨hnumber, harrhenius, htroe⟩ := titration.formats_agree 7
  refine ⟨by decide +kernel, by decide +kernel, ?_, ?_, ?_⟩
  · exact hnumber _ 3.0e-12 rfl
  · exact harrhenius _ _ _ 3.0e-12 1500.0 rfl
  · exact htroe _ _ _ _ (Float.ofScientific 1 true 0) (Float.ofScientific 2 true 0) 0.5 0.0 rfl

end AtmosChem
