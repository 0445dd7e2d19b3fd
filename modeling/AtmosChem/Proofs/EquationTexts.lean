import AtmosChem.Proofs.AmountSums

/-!
# Equations as texts

Both formats find the texts of an equation before they read it: two sides and a rate
(`EquationText`).  An equation that is read is what its texts say (`EquationText.Reads`), and all
its reactions have the same sides.  So what holds of all reactions of a translation is a matter of
the texts of its equations, whatever the format (`Format.forall_reactions_iff`).
-/

namespace AtmosChem

/-! ### Rates as texts -/

/-- The text of a rate: an expression, as KPP writes it, or a list of coefficients, as MOZART
does. -/
inductive RateText
  | expression (s : List Char)
  | coefficients (s : List Char)

namespace RateText

/-- The classification of a rate. -/
def classify (photon hasProducts : Bool) : RateText → Classification Float
  | expression s => classifyExpression s photon hasProducts
  | coefficients s => classifyCoefficients (AtmosChem.coefficients s) photon hasProducts

end RateText

/-! ### Equations as texts -/

/-- An equation before it is read: its sides and its rate. -/
structure EquationText where
  reactants : List Char
  products : List Char
  rate : RateText

namespace EquationText

/-- Whether a photon is among the reactants. -/
def photon (w : EquationText) : Bool := (termTexts w.reactants).any isPhoton

/-- The terms of the reactants, photons aside. -/
def reactantTerms (w : EquationText) : List Term :=
  Term.readAll ((termTexts w.reactants).filter fun t => !isPhoton t)

/-- The terms of the products. -/
def productTerms (w : EquationText) : List Term := Term.readAll (termTexts w.products)

/-- What the rate turns out to be. -/
def classification (w : EquationText) : Classification Float :=
  w.rate.classify w.photon (!(Amounts.addAll [] w.productTerms).isEmpty)

/-- Whether an equation is what the texts say. -/
structure Reads (w : EquationText) (e : Equation) : Prop where
  sides : Sides.read w.reactants w.products = .ok e.sides
  rate : e.rate = w.rate.classify e.sides.photon e.sides.stoichiometry.hasProducts

end EquationText

/-- What reading the sides of an equation gives. -/
theorem Sides.eq_of_read {reactants products : List Char} {s : Sides}
    (h : Sides.read reactants products = .ok s) :
    s = ⟨⟨Amounts.addAll [] (Term.readAll ((termTexts reactants).filter fun t => !isPhoton t)),
      Amounts.addAll [] (Term.readAll (termTexts products))⟩, (termTexts reactants).any isPhoton⟩ := by
  obtain ⟨rs, hrs, h⟩ := exists_of_bind h
  obtain ⟨ps, hps, h⟩ := exists_of_bind h
  rw [← Except.ok.inj h, Amounts.addAll_of_addTerms hrs, Amounts.addAll_of_addTerms hps]

theorem EquationText.Reads.rate_eq {w : EquationText} {e : Equation} (h : w.Reads e) :
    e.rate = w.classification := by
  rw [h.rate, Sides.eq_of_read h.sides]
  rfl

/-- All reactions of an equation have its sides. -/
theorem Translation.forall_stoichiometry_ofRate_iff {p : Stoichiometry → Prop} (label : String)
    (sides : Stoichiometry) (c : Classification Float) :
    (∀ r ∈ (ofRate label sides c).reactions, p r.stoichiometry) ↔ (c.laws ≠ [] → p sides) := by
  cases c <;> simp [ofRate, Classification.laws]

theorem EquationText.Reads.forall_stoichiometry_iff {p : Stoichiometry → Prop} {w : EquationText}
    {e : Equation} (h : w.Reads e) :
    (∀ r ∈ e.translation.reactions, p r.stoichiometry) ↔
      (w.classification.laws ≠ [] → p e.sides.stoichiometry) := by
  rw [Equation.translation, Translation.forall_stoichiometry_ofRate_iff, h.rate_eq]

/-! ### Sections -/

/-- The texts of the parts of a line of KPP. -/
def Kpp.Parts.text (p : Parts) : EquationText := ⟨p.reactants, p.products, .expression p.rate⟩

/-- The texts of an equation of MOZART. -/
def Mozart.SubEquation.text (s : SubEquation) : EquationText :=
  ⟨s.reactants, s.products, .coefficients (s.coefficients.getD [])⟩

theorem Kpp.Parts.reads_text {p : Parts} {e : Equation} (h : p.equation = .ok e) :
    p.text.Reads e := by
  obtain ⟨sides, hsides, h⟩ := exists_of_bind h
  rw [← Except.ok.inj h]
  exact ⟨hsides, rfl⟩

theorem Mozart.SubEquation.reads_text {s : SubEquation} {e : Equation} (h : s.equation = .ok e) :
    s.text.Reads e := by
  obtain ⟨sides, hsides, h⟩ := exists_of_bind h
  rw [← Except.ok.inj h]
  exact ⟨hsides, rfl⟩

namespace Format

/-- The texts of the equations in the lines of a section. -/
def equationTexts : Format → List (List Char) → List EquationText
  | kpp, lines => (Kpp.numbered lines).filterMap fun p =>
    (Kpp.Parts.cut p.2 p.1).toOption.map Kpp.Parts.text
  | mozart, lines => ((Mozart.collect lines).toOption.getD []).map Mozart.SubEquation.text

end Format

/-! ### All reactions -/

/-- **What holds of all reactions of a translation** is a matter of its equations, one by one. -/
theorem Translation.forall_reactions_iff {α : Type} {xs : List α}
    {read : α → Except Failure Equation} {text : α → Option EquationText} {t : Translation}
    {p : Reaction → Prop} {q : EquationText → Prop}
    (hread : ∀ x e, read x = .ok e → ∃ w, text x = some w ∧ w.Reads e)
    (hpq : ∀ w e, w.Reads e → ((∀ r ∈ e.translation.reactions, p r) ↔ q w))
    (h : (ofEquations (xs.map read)).outcome = .ok t) :
    (∀ r ∈ t.reactions, p r) ↔ ∀ w ∈ xs.filterMap text, q w := by
  obtain ⟨es, hes, rfl⟩ := outcome_ofEquations_eq_ok_iff.1 h
  clear h
  induction xs generalizing es with
  | nil =>
    rw [List.map_eq_nil_iff.1 hes.symm]
    simp [empty]
  | cons x xs ih =>
    cases es with
    | nil => simp at hes
    | cons e es =>
      rw [List.map_cons, List.map_cons, List.cons.injEq] at hes
      obtain ⟨w, hw, hreads⟩ := hread x e hes.1
      rw [List.filterMap_cons, hw, List.forall_mem_cons, ← ih es hes.2, ← hpq w e hreads,
        List.map_cons, List.foldr_cons, merge, List.forall_mem_append]

/-- **What holds of all reactions of a section** is a matter of the texts of its equations. -/
theorem Format.forall_reactions_iff {f : Format} {lines : List (List Char)} {t : Translation}
    {p : Reaction → Prop} {q : EquationText → Prop}
    (hpq : ∀ w e, w.Reads e → ((∀ r ∈ e.translation.reactions, p r) ↔ q w))
    (h : (f.equations lines).outcome = .ok t) :
    (∀ r ∈ t.reactions, p r) ↔ ∀ w ∈ f.equationTexts lines, q w := by
  cases f with
  | kpp =>
    rw [equations, Kpp.translate_eq] at h
    refine Translation.forall_reactions_iff ?_ hpq h
    intro p e he
    obtain ⟨parts, hparts, he⟩ := exists_of_bind he
    exact ⟨parts.text, by rw [hparts]; rfl, parts.reads_text he⟩
  | mozart =>
    rw [equations, Mozart.translate] at h
    cases hc : Mozart.collect lines with
    | error e => simp [hc] at h
    | ok es =>
      simp only [hc] at h
      have htexts : ∀ (s : Mozart.SubEquation) (e : Equation), s.equation = .ok e →
          ∃ w, (some ∘ Mozart.SubEquation.text) s = some w ∧ w.Reads e :=
        fun s e he => ⟨s.text, rfl, s.reads_text he⟩
      have hall := Translation.forall_reactions_iff htexts hpq h
      rw [List.filterMap_eq_map] at hall
      simpa [equationTexts, hc, Except.toOption] using hall

end AtmosChem
