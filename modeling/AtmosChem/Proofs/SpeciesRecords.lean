import Mathlib
import AtmosChem.Proofs.FiniteMechanisms
import AtmosChem.Proofs.ShortestDecimals

/-!
# The document of the species determines them

A text determines the document that it is of, and the document determines the species: kind,
tolerance and formula are told by the fields that a record has, the tolerance by its numeral.  A
numeral has the value of the decimal that it is laid out from (`Layout.magnitude_numeral`), and that
tells the double.

Tolerances have to be finite: all others are written as null.

* `Json.ofFloat_inj`: a finite double is told by its number.
* `Species.toJson_inj`: a species is told by its record.
* `Mechanism.speciesText_eq_iff`: two mechanisms have the same document of species if and only if
  they have the same species.
-/

namespace AtmosChem

open Decimal (Layout Numeral Value)

/-! ### Numerals -/

namespace Decimal

theorem natOf_replicate_zero (k : Nat) : natOf (List.replicate k 0) = 0 := by
  induction k with
  | zero => rfl
  | succ k ih =>
    rw [List.replicate_succ', natOf_append, ih]
    rfl

theorem natOf_paddedDigits (width n : Nat) : natOf (paddedDigits width n) = n := by
  rw [paddedDigits, natOf_append_digits, natOf_replicate_zero, Nat.zero_mul, Nat.zero_add]
  split
  next h => rw [h]; rfl
  next => exact natOf_digitsOf n

theorem length_paddedDigits {width n : Nat} (h : n < 10 ^ width) :
    (paddedDigits width n).length = width := by
  have hlength : (if n = 0 then [] else digitsOf n).length ≤ width := by
    split
    · exact Nat.zero_le width
    next hn =>
      have hle := ten_pow_length_le (Nat.pos_of_ne_zero hn)
      have hlt := (Nat.pow_lt_pow_iff_right (by norm_num)).1 (hle.trans_lt h)
      omega
  rw [paddedDigits, List.length_append, List.length_replicate]
  omega

/-- The value of a numeral without its sign. -/
def Numeral.magnitude (n : Numeral) : ℚ :=
  (n.whole + natOf n.fraction / 10 ^ n.fraction.length) * (10 : ℚ) ^ n.exponent.getD 0

/-- A decimal laid out without digits after its point, or with a zero there. -/
theorem magnitude_whole (negative : Bool) {c : Nat} {e : ℤ} (he : 0 ≤ e) {zeros : List Digit}
    (hzeros : natOf zeros = 0) :
    Numeral.magnitude ⟨negative, c * tenTo e.toNat, zeros, none⟩ = Scaled.value ⟨c, e⟩ := by
  have hpow : (10 : ℚ) ^ e = 10 ^ e.toNat := by
    rw [← zpow_natCast, Int.toNat_of_nonneg he]
  rw [Numeral.magnitude, Scaled.value, hzeros, hpow, tenTo_eq]
  simp

/-- A decimal laid out with its point between its digits. -/
theorem magnitude_positional (negative : Bool) {c : Nat} {e : ℤ} (he : e < 0) :
    Numeral.magnitude ⟨negative, c / tenTo e.natAbs,
      paddedDigits e.natAbs (c % tenTo e.natAbs), none⟩ = Scaled.value ⟨c, e⟩ := by
  have hpow : (10 : ℚ) ^ e = (10 ^ e.natAbs)⁻¹ := by
    rw [← zpow_natCast, ← zpow_neg]
    congr 1
    omega
  have hunit : (10 : ℚ) ^ e.natAbs ≠ 0 := by positivity
  have hc : (c : ℚ) = 10 ^ e.natAbs * (c / 10 ^ e.natAbs : Nat) + (c % 10 ^ e.natAbs : Nat) := by
    exact_mod_cast (Nat.div_add_mod c (10 ^ e.natAbs)).symm
  rw [Numeral.magnitude, Scaled.value, tenTo_eq, natOf_paddedDigits,
    length_paddedDigits (Nat.mod_lt c (by positivity)), hpow]
  dsimp only
  rw [Option.getD_none, zpow_zero, mul_one, hc]
  field_simp

/-- A decimal laid out with its point after its first digit. -/
theorem magnitude_exponential (negative : Bool) {c : Nat} {e : ℤ} {d : Digit} {ds : List Digit}
    (h : digitsOf c = d :: ds) :
    Numeral.magnitude ⟨negative, d.val, ds, some (e + (d :: ds).length - 1)⟩ =
      Scaled.value ⟨c, e⟩ := by
  have hfirst : natOf [d] = d.val := by simp [natOf]
  have hc : c = d.val * 10 ^ ds.length + natOf ds := by
    rw [← natOf_digitsOf c, h, ← List.singleton_append, natOf_append_digits, hfirst]
  have hpow : (10 : ℚ) ^ (e + ((d :: ds).length : ℤ) - 1) = 10 ^ e * 10 ^ ds.length := by
    rw [← zpow_natCast, ← zpow_add₀ (by norm_num), List.length_cons]
    congr 1
    push_cast
    ring
  have hunit : (10 : ℚ) ^ ds.length ≠ 0 := by positivity
  rw [Numeral.magnitude, Scaled.value, Option.getD_some, hpow, hc]
  push_cast
  field_simp

/-- **A numeral has the value** of the decimal that it is laid out from. -/
theorem Layout.magnitude_numeral (l : Layout) (negative : Bool) (d : Scaled) :
    (l.numeral negative d).magnitude = d.value := by
  rw [numeral]
  dsimp only
  split
  · split
    next he => exact magnitude_whole negative he (by split <;> rfl)
    next he => exact magnitude_positional negative (not_le.1 he)
  · cases hds : digitsOf d.coefficient with
    | nil => exact absurd hds (digitsOf_ne_nil _)
    | cons first ds => exact magnitude_exponential negative hds

theorem Layout.negative_numeral (l : Layout) (negative : Bool) (d : Scaled) :
    (l.numeral negative d).negative = negative := by
  rw [numeral]
  dsimp only
  split
  · split <;> rfl
  · split <;> rfl

end Decimal

/-! ### Records -/

theorem Json.ofText_injective : Function.Injective ofText := by
  intro s s' h
  rwa [ofText, ofText, string.injEq, Option.some.injEq] at h

/-- **A finite double is told by its number.** -/
theorem Json.ofFloat_inj {x y : Float} (hx : x.isFinite = true) (h : ofFloat x = ofFloat y) :
    x = y := by
  obtain ⟨negative, d, hd⟩ := (Decimal.isFinite_iff_ofFloat Layout.document.tie x).1 hx
  rw [ofFloat, hd, ofFloat] at h
  cases hy : Value.ofFloat Layout.document.tie y with
  | notANumber => simp [hy] at h
  | infinite negative => simp [hy] at h
  | finite negative' d' =>
    simp only [hy, number.injEq] at h
    have hsign := congrArg Numeral.negative h
    have hvalue := congrArg Numeral.magnitude h
    rw [Layout.negative_numeral, Layout.negative_numeral] at hsign
    rw [Layout.magnitude_numeral, Layout.magnitude_numeral] at hvalue
    exact Decimal.eq_of_value_eq hd (hsign ▸ hy) hvalue

namespace Species

/-- What stands under a key in the record of a species, if the record has the key. -/
def field? (s : Species) (key : String) : Option Json :=
  s.toJson.fields?.bind fun fields => fields.lookup key

variable (s : Species)

theorem field?_name : s.field? "name" = some (.ofText s.name) := by
  rw [field?, toJson, Json.fields?_record]
  rfl

theorem field?_formula : s.field? "__formula" = s.formula.map Json.ofText := by
  rw [field?, toJson, Json.fields?_record]
  cases s.formula <;> cases s.role <;> rfl

theorem field?_tolerance : s.field? "absolute tolerance" = s.role.tolerance?.map Json.ofFloat := by
  rw [field?, toJson, Json.fields?_record]
  cases s.formula <;> cases s.role <;> rfl

variable {s}

/-- **A species is told by its record**, if its tolerance is finite. -/
theorem toJson_inj {s' : Species} (hs : ∀ x ∈ s.role.tolerance?, x.isFinite = true)
    (h : s.toJson = s'.toJson) : s = s' := by
  have hfield : ∀ key, s.field? key = s'.field? key := fun key => by rw [field?, h, field?]
  have hname := hfield "name"
  have hformula := hfield "__formula"
  have htolerance := hfield "absolute tolerance"
  rw [field?_name, field?_name, Option.some.injEq] at hname
  rw [field?_formula, field?_formula] at hformula
  rw [field?_tolerance, field?_tolerance] at htolerance
  have hrole : s.role = s'.role := by
    cases hr : s.role with
    | fixed =>
      cases hr' : s'.role with
      | fixed => rfl
      | solved y => simp [hr, hr', Role.tolerance?] at htolerance
    | solved x =>
      cases hr' : s'.role with
      | fixed => simp [hr, hr', Role.tolerance?] at htolerance
      | solved y =>
        rw [hr, hr'] at htolerance
        rw [hr] at hs
        exact congrArg Role.solved (Json.ofFloat_inj (hs x rfl) (Option.some.inj htolerance))
  obtain ⟨name, role, formula⟩ := s
  obtain ⟨name', role', formula'⟩ := s'
  rw [Species.mk.injEq]
  exact ⟨Json.ofText_injective hname, hrole, Option.map_injective Json.ofText_injective hformula⟩

theorem map_toJson_inj {ss ss' : List Species}
    (hss : ∀ s ∈ ss, ∀ x ∈ s.role.tolerance?, x.isFinite = true)
    (h : ss.map toJson = ss'.map toJson) : ss = ss' := by
  induction ss generalizing ss' with
  | nil => exact (List.map_eq_nil_iff.1 h.symm).symm
  | cons s ss ih =>
    obtain ⟨s', rest, rfl, hs, hrest⟩ := List.map_eq_cons_iff.1 h.symm
    rw [List.forall_mem_cons] at hss
    rw [toJson_inj hss.1 hs.symm, ih hss.2 hrest.symm]

end Species

namespace Mechanism

/-- **The document of the species determines them**: two mechanisms with finite tolerances have the
same text if and only if they have the same species, in the same order. -/
theorem speciesText_eq_iff {m m' : Mechanism} (hm : ∀ x ∈ m.tolerances, x.isFinite = true) :
    m.speciesText = m'.speciesText ↔ m.species = m'.species := by
  constructor
  · intro h
    have hdocument : m.speciesJson = m'.speciesJson := by
      have hread := congrArg Json.read? h
      rwa [speciesText, speciesText, Json.read?_render, Json.read?_render, Option.some.injEq]
        at hread
    have hrecords : m.species.map Species.toJson = m'.species.map Species.toJson := by
      simpa [speciesJson, Json.record] using hdocument
    refine Species.map_toJson_inj ?_ hrecords
    intro s hs x hx
    exact hm x (List.mem_filterMap.2 ⟨s, hs, hx⟩)
  · intro h
    rw [speciesText, speciesText, speciesJson, speciesJson, h]

/-- A formula that could be taken for the fields after it. -/
def quotedFormula : Mechanism where
  name := "m"
  species := [⟨"O3", .solved defaultTolerance, some "O3\",\n\"tracer type\": \"CONSTANT"⟩]
  reactions := []

/-- The fields themselves. -/
def fixedOzone : Mechanism where
  name := "m"
  species := [⟨"O3", .fixed, some "O3"⟩]
  reactions := []

theorem speciesText_eq_iff_quotedFormula :
    (∀ x ∈ quotedFormula.tolerances, x.isFinite = true) ∧
    (quotedFormula.speciesText = fixedOzone.speciesText ↔
      quotedFormula.species = fixedOzone.species) ∧
    quotedFormula.speciesText ≠ fixedOzone.speciesText := by
  have hfinite : ∀ x ∈ quotedFormula.tolerances, x.isFinite = true :=
    List.forall_mem_singleton.2 (by decide +kernel : defaultTolerance.isFinite = true)
  refine ⟨hfinite, speciesText_eq_iff hfinite, ?_⟩
  intro h
  have hspecies := (speciesText_eq_iff hfinite).1 h
  exact absurd (congrArg (List.map fun s => s.role.isFixed) hspecies) (by decide)

end Mechanism

end AtmosChem
