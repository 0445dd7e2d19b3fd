import AtmosChem.Proofs.RateConstants

/-!
# Falloffs with a factor in front

The family `TROEE` is a falloff with a factor `A * exp (-B / T)`.  Its law has the factor in the
limit at low density alone: the limit at high density is that of the falloff without a factor.  A
falloff is multiplied by a factor if **both** its limits are (`blend_mul_mul`), and it grows with
its limit at high density (`blend_lt_blend`).  So the rate constant of the law is the product of the
factor and the falloff if and only if the factor is one; it is less than the product for every
greater factor and more for every smaller one.

The second fact needs some analysis.  A falloff is its rate at low density times a damping that
depends on the quotient `x` of its limits alone (`damping`).  The damping has a part that falls with
`x` and a broadening that falls up to `x = 1` and rises from there; `damping_lt_of_one_le` compares
their slopes in `log x`, which are at least `1 / 2` and at most `log (5 / 3) / log 10`.
-/

namespace AtmosChem

/-! ### The damping of a falloff -/

/-- The damping of a falloff with the usual broadening factor at a quotient of its limits. -/
noncomputable def damping (x : ℝ) : ℝ := 0.6 ^ (1 / (1 + log10 x ^ 2)) / (1 + x)

theorem blend_eq_mul_damping (low high : ℝ) : blend low high 0.6 = low * damping (low / high) := by
  rw [blend, damping]
  ring

theorem damping_pos {x : ℝ} (hx : 0 < x) : 0 < damping x :=
  div_pos (Real.rpow_pos_of_pos (by norm_num) _) (by linarith)

theorem log_damping {x : ℝ} (hx : 0 < x) :
    Real.log (damping x) = 1 / (1 + log10 x ^ 2) * Real.log 0.6 - Real.log (1 + x) := by
  have hbroad : (0 : ℝ) < 0.6 ^ (1 / (1 + log10 x ^ 2)) :=
    Real.rpow_pos_of_pos (by norm_num) _
  rw [damping, Real.log_div hbroad.ne' (by linarith), Real.log_rpow (by norm_num)]

/-- Up to quotient one both parts of the damping fall. -/
theorem damping_lt_of_le_one {x y : ℝ} (hx : 0 < x) (hxy : x < y) (hy : y ≤ 1) :
    damping y < damping x := by
  have hu : log10 x < log10 y := Real.logb_lt_logb (by norm_num) hx hxy
  have hv : log10 y ≤ 0 := Real.logb_nonpos (by norm_num) (hx.trans hxy).le hy
  have hsq : log10 y ^ 2 < log10 x ^ 2 := by nlinarith
  have hexponent : 1 / (1 + log10 x ^ 2) < 1 / (1 + log10 y ^ 2) :=
    one_div_lt_one_div_of_lt (by positivity) (by linarith)
  have hbroad : (0.6 : ℝ) ^ (1 / (1 + log10 y ^ 2)) <
      0.6 ^ (1 / (1 + log10 x ^ 2)) :=
    Real.rpow_lt_rpow_of_exponent_gt (by norm_num) (by norm_num) hexponent
  exact div_lt_div₀ hbroad (by linarith) (Real.rpow_nonneg (by norm_num) _) (by linarith)

/-- The broadening rises at most with slope one in the decimal logarithm of the quotient. -/
theorem one_div_sub_one_div_le {u v : ℝ} (h : u ≤ v) :
    1 / (1 + u ^ 2) - 1 / (1 + v ^ 2) ≤ v - u := by
  have hu : 0 < 1 + u ^ 2 := by positivity
  have hv : 0 < 1 + v ^ 2 := by positivity
  have hsum : u + v ≤ (1 + u ^ 2) * (1 + v ^ 2) := by
    nlinarith [sq_nonneg (u - 1 / 2), sq_nonneg (v - 1 / 2), sq_nonneg (u * v)]
  have hmul : (u + v) * (v - u) ≤ (1 + u ^ 2) * (1 + v ^ 2) * (v - u) :=
    mul_le_mul_of_nonneg_right hsum (sub_nonneg.2 h)
  rw [div_sub_div 1 1 hu.ne' hv.ne', div_le_iff₀ (mul_pos hu hv)]
  linarith

/-- From quotient one on the other part falls with slope at least one half. -/
theorem log_sub_log_lt {x y : ℝ} (hx : 1 ≤ x) (hxy : x < y) :
    (Real.log y - Real.log x) / 2 < Real.log (1 + y) - Real.log (1 + x) := by
  have hx₀ : 0 < x := by linarith
  have hy₀ : 0 < y := by linarith
  have hprod : 0 < (y - x) * (x * y - 1) := mul_pos (by linarith) (by nlinarith)
  have hlt : y * (1 + x) ^ 2 < x * (1 + y) ^ 2 := by linarith
  have hlog := Real.log_lt_log (by positivity) hlt
  rw [Real.log_mul hy₀.ne' (by positivity), Real.log_mul hx₀.ne' (by positivity), Real.log_pow,
    Real.log_pow] at hlog
  push_cast at hlog
  linarith

theorem neg_log_lt : -Real.log 0.6 < Real.log 10 / 2 := by
  have hlog : 0 < Real.log (0.6 ^ 2 * 10) := Real.log_pos (by norm_num)
  rw [Real.log_mul (by norm_num) (by norm_num), Real.log_pow] at hlog
  push_cast at hlog
  linarith

theorem damping_lt_of_one_le {x y : ℝ} (hx : 1 ≤ x) (hxy : x < y) : damping y < damping x := by
  have hx₀ : 0 < x := by linarith
  have hy₀ : 0 < y := by linarith
  have hten : 0 < Real.log 10 := Real.log_pos (by norm_num)
  have hlogs : 0 < Real.log y - Real.log x := sub_pos.2 (Real.log_lt_log hx₀ hxy)
  have hc : 0 < -Real.log 0.6 := neg_pos.2 (Real.log_neg (by norm_num) (by norm_num))
  -- the broadening rises by less than half of what the logarithm does
  have hbroad : (1 / (1 + log10 x ^ 2) - 1 / (1 + log10 y ^ 2)) * -Real.log 0.6 ≤
      (Real.log y - Real.log x) / 2 := by
    have hu : log10 x ≤ log10 y := (Real.logb_lt_logb (by norm_num) hx₀ hxy).le
    calc (1 / (1 + log10 x ^ 2) - 1 / (1 + log10 y ^ 2)) * -Real.log 0.6
        ≤ (log10 y - log10 x) * -Real.log 0.6 :=
          mul_le_mul_of_nonneg_right (one_div_sub_one_div_le hu) hc.le
      _ = (Real.log y - Real.log x) / Real.log 10 * -Real.log 0.6 := by
          rw [log10, log10, Real.logb, Real.logb, sub_div]
      _ ≤ (Real.log y - Real.log x) / Real.log 10 * (Real.log 10 / 2) :=
          mul_le_mul_of_nonneg_left neg_log_lt.le (div_pos hlogs hten).le
      _ = (Real.log y - Real.log x) / 2 := by field_simp
  have hfall := log_sub_log_lt hx hxy
  rw [← Real.log_lt_log_iff (damping_pos hy₀) (damping_pos hx₀), log_damping hy₀, log_damping hx₀]
  linarith

/-- **The damping falls** with the quotient of the limits. -/
theorem damping_lt {x y : ℝ} (hx : 0 < x) (hxy : x < y) : damping y < damping x := by
  rcases le_or_gt y 1 with hy | hy
  · exact damping_lt_of_le_one hx hxy hy
  · rcases le_or_gt 1 x with hx₁ | hx₁
    · exact damping_lt_of_one_le hx₁ hxy
    · calc damping y < damping 1 := damping_lt_of_one_le le_rfl hy
        _ < damping x := damping_lt_of_le_one hx hx₁ le_rfl

/-! ### Factors and limits -/

/-- **A falloff grows with its limit at high density.** -/
theorem blend_lt_blend {low high high' : ℝ} (hl : 0 < low) (hh : 0 < high) (h : high < high') :
    blend low high 0.6 < blend low high' 0.6 := by
  rw [blend_eq_mul_damping, blend_eq_mul_damping]
  refine mul_lt_mul_of_pos_left (damping_lt ?_ ?_) hl
  · exact div_pos hl (hh.trans h)
  · exact div_lt_div_of_pos_left hl hh h

/-- **A falloff is multiplied by a factor** if both its limits are. -/
theorem blend_mul_mul {factor : ℝ} (h : 0 < factor) (low high broadening : ℝ) :
    blend (factor * low) (factor * high) broadening = factor * blend low high broadening := by
  rw [blend, blend, mul_div_mul_left low high h.ne']
  ring

/-- A factor in the low limit only is less than a factor in front if it is above one, more than a
factor in front if it is below one. -/
theorem compare_blend {factor low high : ℝ} (hf : 0 < factor) (hl : 0 < low) (hh : 0 < high) :
    (1 < factor → blend (factor * low) high 0.6 < factor * blend low high 0.6) ∧
    (factor < 1 → factor * blend low high 0.6 < blend (factor * low) high 0.6) := by
  have hfl : 0 < factor * low := mul_pos hf hl
  rw [← blend_mul_mul hf]
  constructor
  · intro h
    exact blend_lt_blend hfl hh (lt_mul_of_one_lt_left hh h)
  · intro h
    exact blend_lt_blend hfl (mul_pos hf hh) (mul_lt_of_lt_one_left hh h)

theorem blend_eq_iff {factor low high : ℝ} (hf : 0 < factor) (hl : 0 < low) (hh : 0 < high) :
    blend (factor * low) high 0.6 = factor * blend low high 0.6 ↔ factor = 1 := by
  obtain ⟨hless, hmore⟩ := compare_blend hf hl hh
  constructor
  · intro h
    rcases lt_trichotomy factor 1 with hlt | heq | hgt
    · exact absurd h (hmore hlt).ne'
    · exact heq
    · exact absurd h (hless hgt).ne
  · rintro rfl
    rw [one_mul, one_mul]

/-! ### The law of a falloff with a factor -/

theorem Limit.value_factor (a b k n : ℝ) (air : Air) :
    Limit.value ⟨a * k, -n, -b⟩ air =
      sourceFactor a b air * (k * (300 / air.temperature) ^ n) := by
  rw [value, sourceFactor, Real.rpow_neg_eq_inv_rpow, inv_div]
  ring

theorem sourceFactor_pos {a : ℝ} (h : 0 < a) (b : ℝ) (air : Air) : 0 < sourceFactor a b air :=
  mul_pos h (Real.exp_pos _)

theorem limit_pos {k : ℝ} (h : 0 < k) (n : ℝ) (air : Air) :
    0 < k * (300 / air.temperature) ^ n :=
  mul_pos h (Real.rpow_pos_of_pos (div_pos (by norm_num) air.temperature_pos) n)

/-- The law of a falloff with a factor has the factor in its low limit. -/
theorem Family.rate?_troeELaw (a b k₀ n kInf m : ℝ) (air : Air) :
    (troeELaw a b k₀ n kInf m).rate? air =
      some (blend (sourceFactor a b air * (k₀ * (300 / air.temperature) ^ n * air.density))
        (kInf * (300 / air.temperature) ^ m) 0.6) := by
  rw [troeELaw, RateLaw.rate?, Falloff.between, Falloff.rate_eq, Limit.value_factor,
    Limit.value_power, mul_assoc]

/-- With the factor in both its limits a law is the product of the factor and the falloff. -/
theorem RateLaw.rate?_factor {a : ℝ} (h : 0 < a) (b k₀ n kInf m : ℝ) (air : Air) :
    (RateLaw.troe (.between ⟨a * k₀, -n, -b⟩ ⟨a * kInf, -m, -b⟩)).rate? air =
      some (sourceFactor a b air * sourceFalloff k₀ n kInf m 0.6 air) := by
  rw [rate?, Falloff.between, Falloff.rate_eq, Limit.value_factor, Limit.value_factor, mul_assoc,
    blend_mul_mul (sourceFactor_pos h b air), sourceFalloff]

/-- **A falloff with a factor** has the factor in its low limit, with the temperature and the
density among the coefficients or without.  It is the product of the factor and the falloff if and
only if the factor is one, less than it for every greater factor and more for every smaller one.
With the factor in both limits a law would be the product. -/
theorem rate?_troeE {a k₀ kInf : ℝ} (ha : 0 < a) (hk : 0 < k₀) (hi : 0 < kInf) (b n m : ℝ)
    (air : Air) :
    ∃ rate falloff : ℝ,
      (Family.troeE.classify [a, b, k₀, n, kInf, m]).rate? air = some rate ∧
      (∀ t d, (Family.troeE.classify [a, b, k₀, n, kInf, m, t, d]).rate? air = some rate) ∧
      (Family.troe.classify [k₀, n, kInf, m]).rate? air = some falloff ∧
      rate = blend (sourceFactor a b air * (k₀ * (300 / air.temperature) ^ n * air.density))
        (kInf * (300 / air.temperature) ^ m) 0.6 ∧
      (rate = sourceFactor a b air * falloff ↔ sourceFactor a b air = 1) ∧
      (1 < sourceFactor a b air → rate < sourceFactor a b air * falloff) ∧
      (sourceFactor a b air < 1 → sourceFactor a b air * falloff < rate) ∧
      (RateLaw.troe (.between ⟨a * k₀, -n, -b⟩ ⟨a * kInf, -m, -b⟩)).rate? air =
        some (sourceFactor a b air * falloff) := by
  have hfactor := sourceFactor_pos ha b air
  have hlow := mul_pos (limit_pos hk n air) air.density_pos
  have hhigh := limit_pos hi m air
  obtain ⟨hless, hmore⟩ := compare_blend hfactor hlow hhigh
  have hlaw := Family.rate?_troeELaw a b k₀ n kInf m air
  refine ⟨_, sourceFalloff k₀ n kInf m 0.6 air, hlaw, fun _ _ => hlaw, ?_, rfl, ?_, hless,
    hmore, ?_⟩
  · exact congrArg some (Falloff.rate_powers k₀ n kInf m 0.6 air)
  · exact blend_eq_iff hfactor hlow hhigh
  · exact RateLaw.rate?_factor ha b k₀ n kInf m air

/-- A factor of two in front of a falloff with equal limits. -/
theorem rate?_troeE_twice :
    ∃ rate falloff : ℝ,
      (Family.troeE.classify [2, 0, 1, 0, 1, 0]).rate? warmAir = some rate ∧
      (Family.troeE.classify [2, 0, 1, 0, 1, 0, 300, 1]).rate? warmAir = some rate ∧
      (Family.troe.classify [1, 0, 1, 0]).rate? warmAir = some falloff ∧ rate < 2 * falloff := by
  have htwo : sourceFactor 2 0 warmAir = 2 := by norm_num [sourceFactor]
  obtain ⟨rate, falloff, hrate, hrate', hfalloff, -, -, hless, -⟩ :=
    rate?_troeE two_pos one_pos one_pos 0 0 0 warmAir
  rw [htwo] at hless
  exact ⟨rate, falloff, hrate, hrate' 300 1, hfalloff, hless one_lt_two⟩

/-- **A falloff with a factor is not always the product** of the two. -/
theorem not_forall_rate?_troeE :
    ¬ ∀ (a b k₀ n kInf m : ℝ) (air : Air), 0 < a → 0 < k₀ → 0 < kInf →
      (Family.troeE.classify [a, b, k₀, n, kInf, m]).rate? air =
        ((Family.troe.classify [k₀, n, kInf, m]).rate? air).map fun x =>
          a * Real.exp (-b / air.temperature) * x := by
  intro h
  have heq := h 2 0 1 0 1 0 warmAir two_pos one_pos one_pos
  have hlaw := Family.rate?_troeELaw 2 0 1 0 1 0 warmAir
  have hfalloff : (Family.troe.classify [1, 0, 1, 0]).rate? warmAir =
      some (sourceFalloff 1 0 1 0 0.6 warmAir) :=
    congrArg some (Falloff.rate_powers 1 0 1 0 0.6 warmAir)
  have hlow := mul_pos (limit_pos one_pos 0 warmAir) warmAir.density_pos
  have hhigh := limit_pos one_pos 0 warmAir
  have hone := (blend_eq_iff (sourceFactor_pos two_pos 0 warmAir) hlow hhigh).1
  rw [hfalloff] at heq
  have htwo : sourceFactor 2 0 warmAir = 1 := hone (Option.some.inj (hlaw.symm.trans heq))
  norm_num [sourceFactor] at htwo

end AtmosChem
