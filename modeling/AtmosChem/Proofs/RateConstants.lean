import Mathlib.Analysis.SpecialFunctions.Log.Base
import Mathlib.Analysis.SpecialFunctions.Pow.Real
import AtmosChem.Rate.Family

/-!
# Rate constants

What a rate law means is its **rate constant**, a real number that depends on the air around: on its
temperature, its pressure and its density.  Laws and families of source rates are generic in the
type of their parameters, so both can be read over the reals, and a translation can be said to keep
the meaning of a rate.

* `RateLaw.rate?`, `Classification.rate?`: the rate constants of laws, by the formulas of MICM.
* `Family.sourceRate?`: the rate constants that the sources mean by a list of coefficients.
* `rate?_classify`: the two are the same, for all families but one.

The exception is the falloff with a factor in front, which is the matter of
`AtmosChem.Proofs.FalloffFactor`.
-/

namespace AtmosChem

/-- What the air is like where a reaction happens. -/
structure Air where
  temperature : ℝ
  pressure : ℝ
  density : ℝ
  temperature_pos : 0 < temperature
  density_pos : 0 < density

/-! ### The formulas of MICM -/

/-- The rate constant of an Arrhenius law. -/
noncomputable def Arrhenius.rate (p : Arrhenius ℝ) (air : Air) : ℝ :=
  p.factor * Real.exp (p.activation / air.temperature) *
    (air.temperature / p.reference) ^ p.power * (1 + p.pressure * air.pressure)

/-- The rate constant in a limit of a falloff. -/
noncomputable def Limit.value (l : Limit ℝ) (air : Air) : ℝ :=
  l.factor * Real.exp (l.activation / air.temperature) * (air.temperature / 300) ^ l.power

/-- The decimal logarithm. -/
noncomputable def log10 (x : ℝ) : ℝ := Real.logb 10 x

/-- The rate constant of a falloff. -/
noncomputable def Falloff.rate (p : Falloff ℝ) (air : Air) : ℝ :=
  let low := p.low.value air * air.density
  let high := p.high.value air
  low / (1 + low / high) * p.broadening ^ (p.width / (p.width + log10 (low / high) ^ 2))

/-- The rate constant of a law, if there is a formula for it.  A photolysis has a rate from outside;
a ternary chemical activation is left to the solver. -/
noncomputable def RateLaw.rate? (law : RateLaw ℝ) (air : Air) : Option ℝ :=
  match law with
  | .arrhenius p => some (p.rate air)
  | .troe p => some (p.rate air)
  | .firstOrderLoss factor => some factor
  | .ternaryChemicalActivation _ => none
  | .photolysis => none

/-- The rate constant of a classified rate: that of its law, or the sum of those of its laws. -/
noncomputable def Classification.rate? (c : Classification ℝ) (air : Air) : Option ℝ :=
  match c with
  | .single law => law.rate? air
  | .pair first second =>
    (first.rate? air).bind fun x => (second.rate? air).map fun y => x + y
  | .unknown _ => none

/-! ### What the sources mean -/

/-- An Arrhenius rate as KPP writes it. -/
noncomputable def sourceArrhenius (a b c : ℝ) (air : Air) : ℝ :=
  a * Real.exp (-b / air.temperature) * (air.temperature / 300) ^ c

/-- The falloff between a rate at low density, multiplied by the density, and one at high density,
with a broadening factor. -/
noncomputable def blend (low high broadening : ℝ) : ℝ :=
  low / (1 + low / high) * broadening ^ (1 / (1 + log10 (low / high) ^ 2))

/-- A falloff as both sources write it, with powers of `300 / T`. -/
noncomputable def sourceFalloff (k₀ n kInf m broadening : ℝ) (air : Air) : ℝ :=
  blend (k₀ * (300 / air.temperature) ^ n * air.density) (kInf * (300 / air.temperature) ^ m)
    broadening

/-- The factor in front of a falloff of the family `TROEE`. -/
noncomputable def sourceFactor (a b : ℝ) (air : Air) : ℝ := a * Real.exp (-b / air.temperature)

/-- The rate constant that a source means by a list of coefficients.  A falloff may be followed by
a temperature and a density, which are those of the air. -/
noncomputable def Family.sourceRate? (family : Family) (cs : List ℝ) (air : Air) : Option ℝ :=
  match family, cs with
  | .arrheniusAbc, [a, b, c] => some (sourceArrhenius a b c air)
  | .arrheniusAb, [a, b] => some (sourceArrhenius a b 0 air)
  | .arrheniusAc, [a, c] => some (sourceArrhenius a 0 c air)
  | .mozartArrhenius, [a] => some a
  | .mozartArrhenius, [a, c] => some (a * Real.exp (c / air.temperature))
  | .troe, [k₀, n, kInf, m] => some (sourceFalloff k₀ n kInf m 0.6 air)
  | .troe, [k₀, n, kInf, m, _, _] => some (sourceFalloff k₀ n kInf m 0.6 air)
  | .troeE, [a, b, k₀, n, kInf, m] =>
    some (sourceFactor a b air * sourceFalloff k₀ n kInf m 0.6 air)
  | .troeE, [a, b, k₀, n, kInf, m, _, _] =>
    some (sourceFactor a b air * sourceFalloff k₀ n kInf m 0.6 air)
  | .mozartTroe, [k₀, n, kInf, m, fc] => some (sourceFalloff k₀ n kInf m fc air)
  | _, _ => none

/-- The rate constant `k45` of RACM. -/
noncomputable def sourceK45 (air : Air) : ℝ :=
  let k₀ := 2.4e-14 * Real.exp (460 / air.temperature)
  let k₂ := 2.7e-17 * Real.exp (2199 / air.temperature)
  let k₃ := 6.5e-34 * Real.exp (1335 / air.temperature) * air.density
  k₀ + k₃ / (1 + k₃ / k₂)

/-! ### Laws -/

theorem zero_scientific : (0.0 : ℝ) = 0 := by norm_num

theorem one_scientific : (1.0 : ℝ) = 1 := by norm_num

/-- Every Arrhenius law of a family refers to 300 K and leaves the pressure out of account. -/
theorem Arrhenius.rate_eq (a b c : ℝ) (air : Air) :
    Arrhenius.rate ⟨a, b, c, 300.0, 0.0⟩ air =
      a * Real.exp (c / air.temperature) * (air.temperature / 300) ^ b := by
  have href : (300.0 : ℝ) = 300 := by norm_num
  rw [rate, href, zero_scientific, zero_mul, add_zero, mul_one]

/-- A power of `300 / T` is one of `T / 300` with the other sign. -/
theorem Limit.value_power (k n : ℝ) (air : Air) :
    Limit.value ⟨k, -n, 0.0⟩ air = k * (300 / air.temperature) ^ n := by
  rw [value, zero_scientific, zero_div, Real.exp_zero, mul_one, Real.rpow_neg_eq_inv_rpow, inv_div]

theorem Limit.value_activation (k c : ℝ) (air : Air) :
    Limit.value ⟨k, 0.0, c⟩ air = k * Real.exp (c / air.temperature) := by
  rw [value, zero_scientific, Real.rpow_zero, mul_one]

theorem Falloff.rate_eq (low high : Limit ℝ) (broadening : ℝ) (air : Air) :
    Falloff.rate ⟨low, high, broadening, 1.0⟩ air =
      blend (low.value air * air.density) (high.value air) broadening := by
  rw [rate, blend, one_scientific]

/-- Without width a falloff is not broadened, whatever its broadening factor is raised to. -/
theorem Falloff.rate_of_width_zero (low high : Limit ℝ) (air : Air) :
    Falloff.rate ⟨low, high, 1.0, 0.0⟩ air =
      low.value air * air.density / (1 + low.value air * air.density / high.value air) := by
  rw [rate, one_scientific, Real.one_rpow, mul_one]

/-- The falloffs of both sources: the powers of the limits change their signs. -/
theorem Falloff.rate_powers (k₀ n kInf m broadening : ℝ) (air : Air) :
    Falloff.rate ⟨⟨k₀, -n, 0.0⟩, ⟨kInf, -m, 0.0⟩, broadening, 1.0⟩ air =
      sourceFalloff k₀ n kInf m broadening air := by
  rw [rate_eq, Limit.value_power, Limit.value_power, sourceFalloff]

/-! ### Meanings are kept -/

/-- **Every family but one keeps its meaning.** -/
theorem Family.rate?_classify {family : Family} (h : family ≠ .troeE) (cs : List ℝ) (air : Air) :
    (family.classify cs).rate? air = family.sourceRate? cs air := by
  fun_cases sourceRate? family cs air
  case case1 a b c => exact congrArg some (Arrhenius.rate_eq a c (-b) air)
  case case2 a b =>
    refine congrArg some ((Arrhenius.rate_eq a 0.0 (-b) air).trans ?_)
    rw [sourceArrhenius, zero_scientific]
  case case3 a c =>
    refine congrArg some ((Arrhenius.rate_eq a c 0.0 air).trans ?_)
    rw [sourceArrhenius, zero_scientific, neg_zero]
  case case4 a =>
    refine congrArg some ((Arrhenius.rate_eq a 0.0 0.0 air).trans ?_)
    rw [zero_scientific, zero_div, Real.exp_zero, Real.rpow_zero, mul_one, mul_one]
  case case5 a c =>
    refine congrArg some ((Arrhenius.rate_eq a 0.0 c air).trans ?_)
    rw [zero_scientific, Real.rpow_zero, mul_one]
  case case6 k₀ n kInf m => exact congrArg some (Falloff.rate_powers k₀ n kInf m 0.6 air)
  case case7 k₀ n kInf m _ _ => exact congrArg some (Falloff.rate_powers k₀ n kInf m 0.6 air)
  case case8 => exact absurd rfl h
  case case9 => exact absurd rfl h
  case case10 k₀ n kInf m fc => exact congrArg some (Falloff.rate_powers k₀ n kInf m fc air)
  case case11 h₁ h₂ h₃ h₄ h₅ h₆ h₇ h₈ h₉ h₁₀ =>
    have hnone : family.law? cs = none := by
      unfold law?
      split <;> grind
    rw [classify, hnone]
    rfl

theorem rate?_k45 (air : Air) : (k45 : Classification ℝ).rate? air = some (sourceK45 air) := by
  have harrhenius : Arrhenius.rate ⟨2.4e-14, 0.0, 460.0, 300.0, 0.0⟩ air =
      2.4e-14 * Real.exp (460 / air.temperature) := by
    have h₀ : (460.0 : ℝ) = 460 := by norm_num
    rw [Arrhenius.rate_eq, zero_scientific, Real.rpow_zero, mul_one, h₀]
  have hfalloff : Falloff.rate ⟨⟨6.5e-34, 0.0, 1335.0⟩, ⟨2.7e-17, 0.0, 2199.0⟩, 1.0, 0.0⟩ air =
      let k₃ := 6.5e-34 * Real.exp (1335 / air.temperature) * air.density
      k₃ / (1 + k₃ / (2.7e-17 * Real.exp (2199 / air.temperature))) := by
    have h₂ : (2199.0 : ℝ) = 2199 := by norm_num
    have h₃ : (1335.0 : ℝ) = 1335 := by norm_num
    rw [Falloff.rate_of_width_zero, Limit.value_activation, Limit.value_activation, h₂, h₃]
  exact congrArg some (congrArg₂ (fun x y => x + y) harrhenius hfalloff)

/-- **Rate constants keep their meaning**: those of the laws that a source rate is translated to are
those that the source means, at every temperature, pressure and density.  The falloffs with a
factor in front are left out here. -/
theorem rate?_eq_sourceRate? (air : Air) :
    (∀ (family : Family) (cs : List ℝ), family ≠ .troeE →
      (family.classify cs).rate? air = family.sourceRate? cs air) ∧
    (k45 : Classification ℝ).rate? air = some (sourceK45 air) := by
  refine ⟨?_, rate?_k45 air⟩
  intro family cs h
  exact Family.rate?_classify h cs air

/-- Air of 300 K and of density one. -/
def warmAir : Air where
  temperature := 300
  pressure := 0
  density := 1
  temperature_pos := by norm_num
  density_pos := by norm_num

/-- At equal limits a falloff is half of them, times the broadening factor. -/
theorem rate?_troe_warmAir :
    (Family.troe.classify [2, 3, 2, 1]).rate? warmAir = some 0.6 ∧
    (Family.troe.classify [2, 3, 2, 1, 300, 1]).rate? warmAir = some 0.6 := by
  have hmeaning := (rate?_eq_sourceRate? warmAir).1 .troe
  have hsource : sourceFalloff 2 3 2 1 0.6 warmAir = 0.6 := by
    norm_num [sourceFalloff, blend, log10, warmAir]
  constructor
  · rw [hmeaning [2, 3, 2, 1] nofun]
    exact congrArg some hsource
  · rw [hmeaning [2, 3, 2, 1, 300, 1] nofun]
    exact congrArg some hsource

end AtmosChem
