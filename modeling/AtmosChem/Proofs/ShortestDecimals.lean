import Mathlib
import AtmosChem.Proofs.FiniteDoubles

/-!
# Shortest decimals tell doubles apart

The decimal of a double lies in the interval of the double (`Span.holds_shortest`): with 17 digits
the grid is finer than the interval is wide, so a point of it is found.  And the intervals of two
doubles have no point in common.  In units of `2 ^ -1076` they reach from one natural number to the
next of an increasing sequence (`bound`); where two intervals meet, the bound belongs to the one
whose mantissa is even.

* `Span.Holds`: the points of an interval.
* `Span.holds_shortest`: the shortest decimal is one of them.
* `eq_of_holds`: no point is in two intervals.
* `eq_of_value_eq`: two doubles whose decimals have the same value are equal.
-/

namespace AtmosChem.Decimal

/-! ### Digits -/

theorem tenTo_eq (k : Nat) : tenTo k = 10 ^ k := rfl

theorem twoTo_eq (k : Nat) : twoTo k = 2 ^ k := rfl

theorem natOf_append_digits (ds es : List Digit) :
    natOf (ds ++ es) = natOf ds * 10 ^ es.length + natOf es := by
  induction es using List.reverseRecOn with
  | nil => simp [natOf]
  | append_singleton es e ih =>
    rw [← List.append_assoc, natOf_append, natOf_append, ih, List.length_append,
      List.length_singleton, pow_succ]
    ring

theorem natOf_lt (ds : List Digit) : natOf ds < 10 ^ ds.length := by
  induction ds using List.reverseRecOn with
  | nil => simp [natOf]
  | append_singleton ds d ih =>
    have hd := d.isLt
    rw [natOf_append, List.length_append, List.length_singleton, pow_succ]
    omega

theorem lt_ten_pow_length (n : Nat) : n < 10 ^ (digitsOf n).length := by
  have h := natOf_lt (digitsOf n)
  rwa [natOf_digitsOf] at h

theorem ten_pow_length_le {n : Nat} (h : 0 < n) : 10 ^ ((digitsOf n).length - 1) ≤ n := by
  obtain ⟨d, ds, hds, hd⟩ := exists_digitsOf_eq_cons h
  have hn := natOf_digitsOf n
  have hpos : 1 ≤ d.val := Nat.one_le_iff_ne_zero.2 fun hz => hd (Fin.ext hz)
  have hfirst : natOf [d] = d.val := by simp [natOf]
  rw [hds, ← List.singleton_append, natOf_append_digits, hfirst] at hn
  rw [hds, List.length_cons, Nat.add_sub_cancel]
  calc 10 ^ ds.length = 1 * 10 ^ ds.length := (Nat.one_mul _).symm
    _ ≤ d.val * 10 ^ ds.length := Nat.mul_le_mul_right _ hpos
    _ ≤ n := by omega

/-! ### Values -/

/-- The value of a decimal. -/
def Scaled.value (d : Scaled) : ℚ := d.coefficient * (10 : ℚ) ^ d.exponent

theorem Scaled.value_reduce (fuel : Nat) (d : Scaled) : (reduce fuel d).value = d.value := by
  induction fuel generalizing d with
  | zero => rfl
  | succ fuel ih =>
    rw [reduce]
    split
    next h =>
      have hten : (d.coefficient : ℚ) = (d.coefficient / 10 : Nat) * 10 := by
        exact_mod_cast (Nat.div_mul_cancel (Nat.dvd_of_mod_eq_zero h.2)).symm
      rw [ih, value, value, zpow_add_one₀ (by norm_num), hten]
      ring
    next => rfl

/-- A power of ten over its denominator. -/
theorem ten_zpow_mul (e : ℤ) : (10 : ℚ) ^ e * 10 ^ (-e).toNat = 10 ^ e.toNat := by
  rw [← zpow_natCast, ← zpow_natCast, ← zpow_add₀ (by norm_num)]
  congr 1
  omega

/-! ### Intervals -/

namespace Span

/-- Whether a number lies in an interval. -/
def Holds (s : Span) (q : ℚ) : Prop :=
  if s.closed then s.low ≤ q * s.denominator ∧ q * s.denominator ≤ s.high
  else s.low < q * s.denominator ∧ q * s.denominator < s.high

variable (s : Span) (e : ℤ)

/-- A bound, over the denominator of a grid. -/
theorem cast_mul_tenTo (b : Nat) : ((b * tenTo (-e).toNat : Nat) : ℚ) = b * 10 ^ (-e).toNat := by
  rw [tenTo_eq]
  push_cast
  rfl

/-- A point of a grid, over the denominator of the grid. -/
theorem cast_gridPoint (c : Nat) : ((c * (s.denominator * tenTo e.toNat) : Nat) : ℚ) =
    Scaled.value ⟨c, e⟩ * s.denominator * 10 ^ (-e).toNat := by
  rw [Scaled.value, mul_right_comm, mul_assoc (c : ℚ), ten_zpow_mul, tenTo_eq]
  push_cast
  ring

theorem contains_iff (v c : Nat) :
    contains
        { s with value := v, low := s.low * tenTo (-e).toNat, high := s.high * tenTo (-e).toNat }
        (c * (s.denominator * tenTo e.toNat)) = true ↔ s.Holds (Scaled.value ⟨c, e⟩) := by
  have hup : (0 : ℚ) < 10 ^ (-e).toNat := by positivity
  have hle : ∀ b : Nat, b * tenTo (-e).toNat ≤ c * (s.denominator * tenTo e.toNat) ↔
      (b : ℚ) ≤ Scaled.value ⟨c, e⟩ * s.denominator := by
    intro b
    rw [← Nat.cast_le (α := ℚ), cast_gridPoint, cast_mul_tenTo, mul_le_mul_iff_left₀ hup]
  have hge : ∀ b : Nat, c * (s.denominator * tenTo e.toNat) ≤ b * tenTo (-e).toNat ↔
      Scaled.value ⟨c, e⟩ * s.denominator ≤ (b : ℚ) := by
    intro b
    rw [← Nat.cast_le (α := ℚ), cast_gridPoint, cast_mul_tenTo, mul_le_mul_iff_left₀ hup]
  rw [contains, Holds]
  dsimp only
  cases s.closed
  · simp only [Bool.false_eq_true, if_false, Bool.and_eq_true, decide_eq_true_eq]
    rw [← not_le, ← not_le, hle, hge, not_le, not_le]
  · simp only [if_true, Bool.and_eq_true, decide_eq_true_eq]
    rw [hle, hge]

/-- **A grid point that is taken** lies in the interval. -/
theorem holds_of_gridPoint? {tie : Tie} {c : Nat} (h : s.gridPoint? tie e = some c) :
    s.Holds (Scaled.value ⟨c, e⟩) := by
  rw [gridPoint?] at h
  dsimp only at h
  split at h
  next hbelow habove =>
    have hb := (contains_iff s e _ _).1 hbelow
    have ha := (contains_iff s e _ _).1 habove
    split at h
    · exact Option.some.inj h ▸ hb
    · split at h
      · exact Option.some.inj h ▸ ha
      · obtain rfl := Option.some.inj h
        cases tie with
        | up => exact ha
        | toEven =>
          rw [Tie.choose]
          split
          · exact hb
          · exact ha
  next hbelow _ => exact Option.some.inj h ▸ (contains_iff s e _ _).1 hbelow
  next _ habove => exact Option.some.inj h ▸ (contains_iff s e _ _).1 habove
  next => exact absurd h (by simp)

/-- A point outside the interval is at a bound or beyond it. -/
theorem le_or_le_of_not_contains {s : Span} {p : Nat} (h : s.contains p = false) :
    p ≤ s.low ∨ s.high ≤ p := by
  rw [contains] at h
  split at h <;> simp only [Bool.and_eq_false_iff, decide_eq_false_iff_not] at h <;> omega

/-- **A grid that is finer than the interval is wide** has a point in it. -/
theorem exists_gridPoint? (tie : Tie) (hlow : s.low < s.value) (hhigh : s.value < s.high)
    (hden : 0 < s.denominator)
    (hwide : s.denominator * tenTo e.toNat < (s.high - s.low) * tenTo (-e).toNat) :
    ∃ c, s.gridPoint? tie e = some c := by
  have hup := tenTo_pos (-e).toNat
  have hstep : 0 < s.denominator * tenTo e.toNat := Nat.mul_pos hden (tenTo_pos _)
  rw [gridPoint?]
  dsimp only
  split
  · split
    · exact ⟨_, rfl⟩
    · split <;> exact ⟨_, rfl⟩
  · exact ⟨_, rfl⟩
  · exact ⟨_, rfl⟩
  next hbelow habove =>
    -- the value lies between two points that both are outside
    have hlow' := Nat.mul_lt_mul_of_pos_right hlow hup
    have hhigh' := Nat.mul_lt_mul_of_pos_right hhigh hup
    have hb := le_or_le_of_not_contains hbelow
    have ha := le_or_le_of_not_contains habove
    dsimp only at hb ha
    rw [Nat.sub_mul] at hwide
    generalize s.denominator * tenTo e.toNat = step at *
    generalize s.low * tenTo (-e).toNat = low at *
    generalize s.high * tenTo (-e).toNat = high at *
    generalize s.value * tenTo (-e).toNat = value at *
    have hdown := Nat.div_mul_le_self value step
    have hrise : value < (value / step + 1) * step := by
      rw [Nat.mul_comm]
      exact Nat.lt_mul_div_succ value hstep
    rw [Nat.add_one_mul] at ha hrise
    omega

/-- **The magnitude** of a value is not above it. -/
theorem ten_zpow_magnitude_le (hvalue : 0 < s.value) (hden : 0 < s.denominator) :
    (10 : ℚ) ^ s.magnitude * s.denominator ≤ s.value := by
  have hlength : ∀ n, 1 ≤ (digitsOf n).length := fun n =>
    List.length_pos_iff.2 (digitsOf_ne_nil n)
  rw [magnitude]
  split
  next hle =>
    have hq := ten_pow_length_le (Nat.div_pos hle hden)
    have hcast : (10 : ℚ) ^ (((digitsOf (s.value / s.denominator)).length : ℤ) - 1) =
        (10 ^ ((digitsOf (s.value / s.denominator)).length - 1) : Nat) := by
      rw [← Nat.cast_one, ← Nat.cast_sub (hlength _), zpow_natCast]
      push_cast
      rfl
    rw [hcast, ← Nat.cast_mul, Nat.cast_le]
    exact (Nat.mul_le_mul_right _ hq).trans (Nat.div_mul_le_self _ _)
  next hlt =>
    have hk := hlength (s.denominator / s.value)
    have hbelow := lt_ten_pow_length (s.denominator / s.value)
    dsimp only
    generalize (digitsOf (s.denominator / s.value)).length = k at hk hbelow ⊢
    split
    next heq =>
      have hpow : (10 : ℚ) ^ (1 - (k : ℤ)) * 10 ^ (k - 1) = 1 := by
        rw [← zpow_natCast, ← zpow_add₀ (by norm_num), Nat.cast_sub hk]
        norm_num
      rw [heq, tenTo_eq]
      push_cast
      rw [mul_left_comm, hpow, mul_one]
    next =>
      have hden' : s.denominator ≤ s.value * 10 ^ k := by
        rw [Nat.mul_comm]
        exact ((Nat.div_lt_iff_lt_mul hvalue).1 hbelow).le
      rw [zpow_neg, zpow_natCast, inv_mul_le_iff₀ (by positivity), mul_comm]
      exact_mod_cast hden'

/-- **The shortest decimal lies in the interval**, if a grid of 17 digits is fine enough. -/
theorem holds_shortest (tie : Tie) (hlow : s.low < s.value) (hhigh : s.value < s.high)
    (hden : 0 < s.denominator) (hwide : s.value < (s.high - s.low) * 10 ^ 16) :
    s.Holds (s.shortest tie).value := by
  have hfine : ∃ c, s.gridPoint? tie (s.magnitude - 16) = some c := by
    refine exists_gridPoint? s _ tie hlow hhigh hden ?_
    have hmagnitude := ten_zpow_magnitude_le s (Nat.zero_lt_of_lt hlow) hden
    have hstep : (10 : ℚ) ^ (s.magnitude - 16) * s.denominator < (s.high - s.low : Nat) := by
      rw [zpow_sub₀ (by norm_num), div_mul_eq_mul_div, div_lt_iff₀ (by positivity)]
      refine hmagnitude.trans_lt ?_
      exact_mod_cast hwide
    have hscaled := mul_lt_mul_of_pos_right hstep
      (show (0 : ℚ) < 10 ^ (-(s.magnitude - 16)).toNat by positivity)
    rw [mul_right_comm, ten_zpow_mul, mul_comm] at hscaled
    rw [tenTo_eq, tenTo_eq]
    exact_mod_cast hscaled
  obtain ⟨c, hc⟩ := hfine
  have hfound : ∃ d, (List.range 17).findSome? (fun (n : Nat) =>
      (s.gridPoint? tie (s.magnitude - n)).map fun c => (⟨c, s.magnitude - n⟩ : Scaled)) =
        some d := by
    rw [← Option.isSome_iff_exists, List.findSome?_isSome_iff]
    refine ⟨16, by decide, ?_⟩
    rw [Option.isSome_map]
    exact Option.isSome_iff_exists.2 ⟨c, hc⟩
  obtain ⟨d, hd⟩ := hfound
  obtain ⟨n, -, hn⟩ := List.exists_of_findSome?_eq_some hd
  obtain ⟨c', hc', rfl⟩ := Option.map_eq_some_iff.1 hn
  rw [shortest, hd, Option.getD_some, Scaled.value_reduce]
  exact holds_of_gridPoint? s _ hc'

end Span

/-! ### The intervals of doubles -/

/-- The mantissa of the double with the given fields. -/
def mantissa (field fraction : Nat) : Nat := if field = 0 then fraction else 2 ^ 52 + fraction

/-- Whether the double below a double is only half as far as the one above. -/
def isNarrow (field fraction : Nat) : Bool := decide (1 < field) && fraction == 0

/-- The lower bound of the interval of a double, in units of `2 ^ -1076`. -/
def lowerBound (field fraction : Nat) : Nat :=
  (4 * mantissa field fraction - if isNarrow field fraction then 1 else 2) * 2 ^ (field - 1)

/-- The interval of the double in the given place, if zero is in the first and all others follow in
their order. -/
def spanAt (k : Nat) : Span := Span.ofFields (k / 2 ^ 52) (k % 2 ^ 52)

/-- The lower bound of the interval in the given place. -/
def bound (k : Nat) : Nat := lowerBound (k / 2 ^ 52) (k % 2 ^ 52)

theorem ofFields_eq (field fraction : Nat) : Span.ofFields field fraction =
    Span.ofBinary (mantissa field fraction) (((field - 1 : Nat) : ℤ) - 1074)
      (isNarrow field fraction) := by
  rcases field with _ | _ | field
  · rfl
  · simp [Span.ofFields, mantissa, isNarrow, twoTo_eq]
  · have hexponent : (field : ℤ) + 1 + 1 - 1075 = field + 1 - 1074 := by ring
    simp [Span.ofFields, mantissa, isNarrow, twoTo_eq, hexponent]

theorem upperBound_eq (field : Nat) {fraction : Nat} (h : fraction < 2 ^ 52) :
    (4 * mantissa field fraction + 2) * 2 ^ (field - 1) =
      bound (field * 2 ^ 52 + fraction + 1) := by
  rcases Nat.lt_or_ge (fraction + 1) (2 ^ 52) with hlt | hge
  · have hdiv : (field * 2 ^ 52 + fraction + 1) / 2 ^ 52 = field := by omega
    have hmod : (field * 2 ^ 52 + fraction + 1) % 2 ^ 52 = fraction + 1 := by omega
    have hnarrow : isNarrow field (fraction + 1) = false := by simp [isNarrow]
    have hmantissa : mantissa field (fraction + 1) = mantissa field fraction + 1 := by
      rw [mantissa, mantissa]
      split <;> rfl
    rw [bound, hdiv, hmod, lowerBound, hnarrow, hmantissa, if_neg (by decide)]
    rfl
  · obtain rfl : fraction = 2 ^ 52 - 1 := by omega
    have hdiv : (field * 2 ^ 52 + (2 ^ 52 - 1) + 1) / 2 ^ 52 = field + 1 := by omega
    have hmod : (field * 2 ^ 52 + (2 ^ 52 - 1) + 1) % 2 ^ 52 = 0 := by omega
    rw [bound, hdiv, hmod, lowerBound, Nat.add_sub_cancel]
    rcases field with _ | field
    · rfl
    · have hnarrow : isNarrow (field + 1 + 1) 0 = true := by simp [isNarrow]
      rw [hnarrow, if_pos rfl, mantissa, mantissa, if_neg (by omega), if_neg (by omega),
        Nat.add_sub_cancel, pow_succ]
      ring

/-- **The interval of a double ends** where that of the next one begins. -/
theorem bound_succ (k : Nat) : bound (k + 1) =
    (4 * mantissa (k / 2 ^ 52) (k % 2 ^ 52) + 2) * 2 ^ (k / 2 ^ 52 - 1) := by
  rw [upperBound_eq (k / 2 ^ 52) (Nat.mod_lt k (by norm_num)), Nat.div_add_mod']

theorem strictMono_bound : StrictMono bound := by
  refine strictMono_nat_of_lt_succ fun k => ?_
  rw [bound_succ, bound, lowerBound]
  exact Nat.mul_lt_mul_of_pos_right (by omega) (by positivity)

/-- The bounds over one denominator for all doubles. -/
theorem factor_mul_unit (g : Nat) :
    twoTo ((g : ℤ) - 1074 - 2).toNat * twoTo 1076 =
      2 ^ g * twoTo (2 - ((g : ℤ) - 1074)).toNat := by
  rw [twoTo_eq, twoTo_eq, twoTo_eq, ← pow_add, ← pow_add]
  congr 1
  omega

theorem holds_ofBinary_iff (m g : Nat) (narrow : Bool) (q : ℚ) :
    (Span.ofBinary m ((g : ℤ) - 1074) narrow).Holds q ↔
      if m % 2 = 0 then
        ((4 * m - if narrow then 1 else 2) * 2 ^ g : Nat) ≤ q * twoTo 1076 ∧
          q * twoTo 1076 ≤ ((4 * m + 2) * 2 ^ g : Nat)
      else
        ((4 * m - if narrow then 1 else 2) * 2 ^ g : Nat) < q * twoTo 1076 ∧
          q * twoTo 1076 < ((4 * m + 2) * 2 ^ g : Nat) := by
  have hfactor := congrArg (Nat.cast (R := ℚ)) (factor_mul_unit g)
  have hden : (0 : ℚ) < twoTo (2 - ((g : ℤ) - 1074)).toNat := Nat.cast_pos.2 (twoTo_pos _)
  have hunit : (0 : ℚ) < twoTo 1076 := Nat.cast_pos.2 (twoTo_pos _)
  rw [Span.Holds, Span.ofBinary]
  dsimp only
  generalize twoTo ((g : ℤ) - 1074 - 2).toNat = factor at hfactor ⊢
  generalize twoTo (2 - ((g : ℤ) - 1074)).toNat = den at hfactor hden ⊢
  generalize twoTo 1076 = unit at hfactor hunit ⊢
  have hbound : ∀ a : Nat, ((a * factor : Nat) : ℚ) * unit = ((a * 2 ^ g : Nat) : ℚ) * den := by
    intro a
    push_cast at hfactor ⊢
    rw [mul_assoc, hfactor, mul_assoc]
  have hle : ∀ a : Nat, ((a * factor : Nat) : ℚ) ≤ q * den ↔
      ((a * 2 ^ g : Nat) : ℚ) ≤ q * unit := by
    intro a
    rw [← mul_le_mul_iff_left₀ hunit, hbound, mul_right_comm, mul_le_mul_iff_left₀ hden]
  have hge : ∀ a : Nat, q * den ≤ ((a * factor : Nat) : ℚ) ↔
      q * unit ≤ ((a * 2 ^ g : Nat) : ℚ) := by
    intro a
    rw [← mul_le_mul_iff_left₀ hunit, hbound, mul_right_comm, mul_le_mul_iff_left₀ hden]
  simp only [beq_iff_eq]
  split
  · rw [hle, hge]
  · rw [← not_le, ← not_le, hle, hge, not_le, not_le]

theorem mantissa_pos {field fraction : Nat} (h : ¬(field = 0 ∧ fraction = 0)) :
    0 < mantissa field fraction := by
  rw [mantissa]
  split <;> omega

/-- Below `2 ^ 53`, and `2 ^ 52` itself if the interval is narrow: 17 digits are enough. -/
theorem mantissa_lt {field fraction : Nat} (h : fraction < 2 ^ 52) :
    4 * mantissa field fraction < (if isNarrow field fraction then 3 else 4) * 10 ^ 16 := by
  cases hnarrow : isNarrow field fraction with
  | false =>
    rw [if_neg Bool.false_ne_true, mantissa]
    split <;> omega
  | true =>
    obtain ⟨hfield, hfraction⟩ := Bool.and_eq_true_iff.1 hnarrow
    have hpos : field ≠ 0 := by
      have := of_decide_eq_true hfield
      omega
    rw [if_pos rfl, mantissa, if_neg hpos, beq_iff_eq.1 hfraction]
    norm_num

theorem mantissa_mod_two (k : Nat) : mantissa (k / 2 ^ 52) (k % 2 ^ 52) % 2 = k % 2 := by
  rw [mantissa]
  split <;> omega

/-- **The interval of a double** reaches from its bound to the next; the bounds belong to it if the
double is even. -/
theorem holds_iff (k : Nat) (q : ℚ) : (spanAt k).Holds q ↔
      if k % 2 = 0 then bound k ≤ q * twoTo 1076 ∧ q * twoTo 1076 ≤ bound (k + 1)
      else bound k < q * twoTo 1076 ∧ q * twoTo 1076 < bound (k + 1) := by
  rw [spanAt, ofFields_eq, holds_ofBinary_iff, mantissa_mod_two, bound_succ]
  rfl

/-- **No point is in two intervals.**  Two that follow each other have a bound in common, but it
belongs to one of them only. -/
theorem not_holds_of_lt {k k' : Nat} {q : ℚ} (hk : k < k') (h : (spanAt k).Holds q) :
    ¬(spanAt k').Holds q := by
  intro h'
  rw [holds_iff] at h h'
  have hle : (bound (k + 1) : ℚ) ≤ bound k' := by
    exact_mod_cast strictMono_bound.monotone hk
  split at h <;> split at h'
  next heven heven' =>
    have heq : bound (k + 1) = bound k' := by
      exact_mod_cast le_antisymm hle (h'.1.trans h.2)
    have hnext := strictMono_bound.injective heq
    omega
  · exact absurd (h'.1.trans_le h.2) (not_lt.2 hle)
  · exact absurd (h'.1.trans_lt h.2) (not_lt.2 hle)
  · exact absurd (h'.1.trans h.2) (not_lt.2 hle)

theorem eq_of_holds {k k' : Nat} {q : ℚ} (h : (spanAt k).Holds q) (h' : (spanAt k').Holds q) :
    k = k' := by
  rcases Nat.lt_trichotomy k k' with hk | hk | hk
  · exact absurd h' (not_holds_of_lt hk h)
  · exact hk
  · exact absurd h (not_holds_of_lt hk h')

/-! ### Decimals of doubles -/

theorem holds_shortest_ofBinary (tie : Tie) {m : Nat} (e : ℤ) {narrow : Bool} (hm : 0 < m)
    (hwide : 4 * m < (if narrow then 3 else 4) * 10 ^ 16) :
    (Span.ofBinary m e narrow).Holds ((Span.ofBinary m e narrow).shortest tie).value := by
  have hfactor := twoTo_pos (e - 2).toNat
  refine Span.holds_shortest _ tie ?_ ?_ (twoTo_pos _) ?_
  · exact Nat.mul_lt_mul_of_pos_right (by split <;> omega) hfactor
  · exact Nat.mul_lt_mul_of_pos_right (by omega) hfactor
  · show 4 * m * twoTo (e - 2).toNat <
      ((4 * m + 2) * twoTo (e - 2).toNat -
        (4 * m - if narrow then 1 else 2) * twoTo (e - 2).toNat) * 10 ^ 16
    have hwidth : 4 * m + 2 - (4 * m - if narrow then 1 else 2) = if narrow then 3 else 4 := by
      split <;> omega
    rw [← Nat.sub_mul, hwidth, Nat.mul_right_comm _ _ (10 ^ 16)]
    exact Nat.mul_lt_mul_of_pos_right hwide hfactor

/-- **The decimal of a double** lies in the interval of the double. -/
theorem holds_of_ofFields {tie : Tie} {negative negative' : Bool} {field fraction : Nat}
    {d : Scaled} (hfraction : fraction < 2 ^ 52)
    (h : Value.ofFields tie negative field fraction = .finite negative' d) :
    negative = negative' ∧ (Span.ofFields field fraction).Holds d.value := by
  rw [Value.ofFields] at h
  split at h
  · split at h <;> exact absurd h (by simp)
  · split at h
    next hzero =>
      obtain ⟨rfl, rfl⟩ := hzero
      simp only [Value.finite.injEq] at h
      obtain ⟨rfl, rfl⟩ := h
      have hvalue : (⟨0, 0⟩ : Scaled).value = 0 := by simp [Scaled.value]
      have hbound : bound 0 = 0 := rfl
      refine ⟨rfl, (holds_iff 0 _).2 ?_⟩
      rw [if_pos rfl, hvalue, zero_mul, hbound]
      exact ⟨le_of_eq Nat.cast_zero, Nat.cast_nonneg _⟩
    next hne =>
      simp only [Value.finite.injEq] at h
      obtain ⟨rfl, rfl⟩ := h
      refine ⟨rfl, ?_⟩
      rw [ofFields_eq]
      exact holds_shortest_ofBinary tie _ (mantissa_pos hne) (mantissa_lt hfraction)

/-- A double is its bits. -/
theorem eq_of_toBits_eq {x y : Float} (h : x.toBits = y.toBits) : x = y := by
  obtain ⟨⟨bits, hvalid⟩⟩ := x
  obtain ⟨⟨bits', hvalid'⟩⟩ := y
  obtain rfl : bits = bits' := h
  rfl

/-- **Two doubles are equal** if their decimals have one sign and one value. -/
theorem eq_of_value_eq {tie tie' : Tie} {x y : Float} {negative : Bool} {d d' : Scaled}
    (hx : Value.ofFloat tie x = .finite negative d)
    (hy : Value.ofFloat tie' y = .finite negative d') (h : d.value = d'.value) : x = y := by
  -- the place of a double is its bits without the sign
  have hfields : ∀ b : Nat, b / twoTo 52 % twoTo 11 = b % 2 ^ 63 / 2 ^ 52 ∧
      b % twoTo 52 = b % 2 ^ 63 % 2 ^ 52 := by
    intro b
    rw [twoTo_eq, twoTo_eq]
    omega
  have hlt : ∀ b : Nat, b % twoTo 52 < 2 ^ 52 := fun b => Nat.mod_lt b (twoTo_pos 52)
  obtain ⟨hsign, hholds⟩ := holds_of_ofFields (hlt _) hx
  obtain ⟨hsign', hholds'⟩ := holds_of_ofFields (hlt _) hy
  rw [(hfields _).1, (hfields _).2, ← spanAt] at hholds hholds'
  have hplace := eq_of_holds hholds (h ▸ hholds')
  have htop : (x.toBits.toNat / twoTo 63 == 1) = (y.toBits.toNat / twoTo 63 == 1) :=
    hsign.trans hsign'.symm
  rw [Bool.eq_iff_iff, beq_iff_eq, beq_iff_eq, twoTo_eq] at htop
  have hxlt := x.toBits.toNat_lt
  have hylt := y.toBits.toNat_lt
  refine eq_of_toBits_eq (UInt64.toNat_inj.1 ?_)
  omega

end AtmosChem.Decimal
