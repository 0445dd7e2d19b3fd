import AtmosChem.Proofs.EquationTexts

/-!
# Finite rates

Where the parameters of a rate law come from.  A law takes numbers from the text of its rate as they
are, or with their signs changed; all else in it is constant.  There is one exception: TROEE takes
the product of its factor and its low limit.  So a law has finite parameters if and only if the
numbers that it takes are finite (`RateText.finite_laws_iff`).

Nothing makes these numbers finite.  A text may write a number that is greater than all doubles, or
the name of a double that is none, and the product may be out of range.
-/

namespace AtmosChem

open Decimal

/-! ### Laws -/

namespace RateLaw

/-- Whether all parameters of a law are finite. -/
def Finite (l : RateLaw Float) : Prop := ∀ p ∈ l.parameters, p.2.isFinite = true

instance (l : RateLaw Float) : Decidable l.Finite :=
  inferInstanceAs (Decidable (∀ p ∈ l.parameters, p.2.isFinite = true))

theorem finite_arrhenius_iff (p : Arrhenius Float) :
    (arrhenius p).Finite ↔ ∀ x ∈ p.toList, x.isFinite = true := by
  simp [Finite, parameters, Arrhenius.names, Arrhenius.toList]

theorem finite_troe_iff (p : Falloff Float) :
    (troe p).Finite ↔ ∀ x ∈ p.toList, x.isFinite = true := by
  simp [Finite, parameters, Falloff.names, Falloff.toList]

theorem finite_firstOrderLoss_iff (a : Float) :
    (firstOrderLoss a).Finite ↔ a.isFinite = true := by
  simp [Finite, parameters]

theorem finite_photolysis : photolysis.Finite := nofun

end RateLaw

/-- The numbers that stand in laws whatever their rate says. -/
theorem isFinite_constants : (0.0 : Float).isFinite = true ∧ (1.0 : Float).isFinite = true ∧
    (0.6 : Float).isFinite = true ∧ (300.0 : Float).isFinite = true := by
  decide +kernel

theorem finite_constant_iff (a : Float) :
    (RateLaw.arrhenius (.constant a)).Finite ↔ a.isFinite = true := by
  simp [RateLaw.finite_arrhenius_iff, Arrhenius.toList, Arrhenius.constant, isFinite_constants]

namespace Family

/-- The numbers that the law of a family takes from a list of coefficients. -/
def taken (family : Family) (cs : List Float) : List Float :=
  match family, cs with
  | .troeE, a :: b :: k₀ :: rest => a * k₀ :: b :: rest.take 3
  | _, _ => cs.take family.arity

/-- **The law of a family is finite** if and only if the numbers that it takes are. -/
theorem finite_law?_iff {family : Family} {cs : List Float} {l : RateLaw Float}
    (h : family.law? cs = some l) : l.Finite ↔ ∀ x ∈ family.taken cs, x.isFinite = true := by
  fun_cases law? family cs <;> simp only [law?, Option.some.injEq, reduceCtorEq] at h <;> subst h
  all_goals simp [RateLaw.finite_arrhenius_iff, RateLaw.finite_troe_iff, Arrhenius.toList,
    Arrhenius.constant, Falloff.toList, Falloff.between, troeLaw, troeELaw, taken, arity,
    isFinite_neg, isFinite_constants]
  all_goals grind

theorem finite_classify_iff {family : Family} {cs : List Float}
    (h : (family.classify cs : Classification Float).laws ≠ []) :
    (∀ l ∈ (family.classify cs).laws, l.Finite) ↔ ∀ x ∈ family.taken cs, x.isFinite = true := by
  rw [classify] at h ⊢
  cases hl : family.law? cs with
  | none => simp [hl, Classification.laws] at h
  | some l => simpa [Classification.laws] using finite_law?_iff hl

end Family

theorem finite_k45 : ∀ l ∈ (k45 : Classification Float).laws, l.Finite := by decide +kernel

theorem finite_k57 : ∀ l ∈ (k57 : Classification Float).laws, l.Finite := by decide +kernel

/-! ### Rates as texts -/

namespace RateText

/-- The numbers that laws take from the text of a rate.  A photolysis takes none, and neither do the
sums of two laws. -/
def taken (photon : Bool) : RateText → List Float
  | expression s =>
    match RateForm.of s photon with
    | .call family => family.taken (callCoefficients s)
    | .plain => (plainRate? s).toList
    | _ => []
  | coefficients s => if photon then [] else AtmosChem.coefficients s

theorem finite_plain_iff (s : List Char) (hasProducts : Bool) :
    (∀ l ∈ (classifyPlain s hasProducts).laws, l.Finite) ↔
      ∀ x ∈ (plainRate? s).toList, x.isFinite = true := by
  rw [classifyPlain]
  cases plainRate? s with
  | none => simp [Classification.laws, finite_constant_iff, isFinite_constants]
  | some a =>
    cases hasProducts <;>
      simp [Classification.laws, finite_constant_iff, RateLaw.finite_firstOrderLoss_iff]

theorem finite_expression_iff {s : List Char} {photon hasProducts : Bool}
    (h : (classifyExpression s photon hasProducts).laws ≠ []) :
    (∀ l ∈ (classifyExpression s photon hasProducts).laws, l.Finite) ↔
      ∀ x ∈ (expression s).taken photon, x.isFinite = true := by
  rw [classifyExpression] at h ⊢
  rw [taken]
  cases hform : RateForm.of s photon with
  | photolysis => simp [Classification.laws, RateLaw.finite_photolysis]
  | call family =>
    simp only [hform] at h
    exact Family.finite_classify_iff h
  | k45 => simpa using finite_k45
  | k57 => simpa using finite_k57
  | plain => exact finite_plain_iff s hasProducts
  | foreign name => simp [hform, Classification.laws] at h

theorem finite_coefficients_iff {cs : List Float} {photon hasProducts : Bool}
    (h : (classifyCoefficients cs photon hasProducts).laws ≠ []) :
    (∀ l ∈ (classifyCoefficients cs photon hasProducts).laws, l.Finite) ↔
      ∀ x ∈ (if photon then [] else cs), x.isFinite = true := by
  cases photon with
  | true => simp [classifyCoefficients, Classification.laws, RateLaw.finite_photolysis]
  | false =>
    simp only [classifyCoefficients, Bool.false_eq_true, if_false] at h ⊢
    split at h
    · simp [Classification.laws] at h
    · cases hasProducts with
      | true =>
        rw [if_pos rfl] at h ⊢
        exact Family.finite_classify_iff h
      | false => simp [Classification.laws, RateLaw.finite_firstOrderLoss_iff]
    · exact Family.finite_classify_iff h
    · exact Family.finite_classify_iff h
    · simp [Classification.laws] at h

/-- **The laws of a rate are finite** if and only if the numbers that they take are. -/
theorem finite_laws_iff {r : RateText} {photon hasProducts : Bool}
    (h : (r.classify photon hasProducts).laws ≠ []) :
    (∀ l ∈ (r.classify photon hasProducts).laws, l.Finite) ↔
      ∀ x ∈ r.taken photon, x.isFinite = true := by
  cases r with
  | expression s => exact finite_expression_iff h
  | coefficients s => exact finite_coefficients_iff h

end RateText

end AtmosChem
