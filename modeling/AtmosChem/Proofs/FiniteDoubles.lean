import Mathlib
import AtmosChem.Proofs.WrittenDocuments

/-!
# Finite doubles

A double is infinite or no number if all bits of its exponent field are set (`exponentField`).
Changing a sign and adding to zero do not change that; sums and products may.

Documents write the finite doubles as numbers and the others as null (`Json.nullFree_ofFloat_iff`).
-/

namespace AtmosChem

namespace Decimal

open Float.Model (Format UnpackedFloat)
open Float.Model.UnpackedFloat

/-! ### The exponent field -/

/-- The exponent field of the bits of a double. -/
def exponentField (b : BitVec 64) : Nat := (@unpackExponent Format.binary64 b).toNat

theorem exponentField_lt (b : BitVec 64) : exponentField b < 2048 :=
  (@unpackExponent Format.binary64 b).isLt

theorem exponentField_eq (b : BitVec 64) :
    exponentField b = b.toNat / twoTo 52 % twoTo 11 := by
  simp [exponentField, unpackExponent, BitVec.extractLsb_toNat, Nat.shiftRight_eq_div_pow, twoTo]

theorem exponentField_eq_iff (b : BitVec 64) :
    exponentField b = 2047 ↔ @unpackExponent Format.binary64 b = -1#_ :=
  ⟨fun h => BitVec.eq_of_toNat_eq h, fun h => congrArg BitVec.toNat h⟩

theorem isFinite_unpack_iff (b : BitVec 64) :
    (unpack Format.binary64 b).isFinite = true ↔ exponentField b ≠ 2047 := by
  rw [unpack, ne_eq, exponentField_eq_iff]
  split
  next h => split <;> simp [isFinite, h]
  next h =>
    split
    · split <;> simpa [isFinite] using h
    · simpa [isFinite] using h

/-! ### Packing what has been unpacked -/

/-- Whether the exponent of a number fits into its field. -/
def Fits : UnpackedFloat → Prop
  | .finite _ _ e _ => (e + 1075).toNat < 2047
  | _ => True

/-- What has been unpacked fits. -/
theorem fits_unpack (b : BitVec 64) : Fits (unpack Format.binary64 b) := by
  have hlt := exponentField_lt b
  rw [unpack]
  split
  · split <;> trivial
  next hne =>
    have hfield : exponentField b ≠ 2047 := fun h => hne ((exponentField_eq_iff b).1 h)
    split
    next hzero =>
      have hleast : exponentField b = 0 := congrArg BitVec.toNat hzero
      split
      · trivial
      · show ((exponentField b : Int) - (1023 + 52) + 1 + 1075).toNat < 2047
        omega
    · show ((exponentField b : Int) - (1023 + 52) + 1075).toNat < 2047
      omega

theorem exponentField_packComponents (s : Sign) (e : BitVec 11) (m : BitVec 52) :
    exponentField (packComponents Format.binary64 s e m) = e.toNat := by
  rw [exponentField, unpackExponent_packComponents]

theorem exponentField_pack_finite {s : Sign} {m : Nat} {e : Int} {hm : 0 < m}
    (h : (e + 1075).toNat < 2047) :
    exponentField (pack Format.binary64 (.finite s m e hm)) ≠ 2047 := by
  have hbias : (e + Format.binary64.exponentBias +
      Format.binary64.mantissaBitsWithoutImplicit).toNat = (e + 1075).toNat := by
    show (e + 1023 + 52).toNat = (e + 1075).toNat
    omega
  have hpow : 2 ^ Format.binary64.exponentBits = 2048 := rfl
  rw [pack, hbias]
  split
  next hbig => omega
  next =>
    split
    next =>
      rw [exponentField_packComponents, BitVec.toNat_ofNat]
      omega
    next =>
      rw [exponentField_packComponents]
      decide

/-- **Packing keeps what fits finite.** -/
theorem isFinite_unpack_pack {u : UnpackedFloat} (h : Fits u) :
    (unpack Format.binary64 (pack Format.binary64 u)).isFinite = u.isFinite := by
  cases u with
  | notANumber => rfl
  | infinity s => cases s <;> rfl
  | zero s => cases s <;> rfl
  | finite s m e hm => exact (isFinite_unpack_iff _).2 (exponentField_pack_finite h)

/-- A double fits. -/
theorem fits_toModel (x : Float) : Fits x.toModel.unpack := fits_unpack x.toModel.toBits.toBitVec

theorem fits_neg {u : UnpackedFloat} (h : Fits u) : Fits u.neg := by
  cases u <;> exact h

theorem isFinite_unpackedNeg (u : UnpackedFloat) : u.neg.isFinite = u.isFinite := by
  cases u <;> rfl

/-! ### Operations -/

/-- **Changing the sign** keeps a double finite. -/
theorem isFinite_neg (x : Float) : (-x).isFinite = x.isFinite := by
  show (unpack Format.binary64 (pack Format.binary64 x.toModel.unpack.neg)).isFinite =
    x.toModel.unpack.isFinite
  rw [isFinite_unpack_pack (fits_neg (fits_toModel x)), isFinite_unpackedNeg]

/-- **Adding to zero** keeps a double finite. -/
theorem isFinite_zero_add (x : Float) : (0.0 + x).isFinite = x.isFinite := by
  have hsum : (add Format.binary64 (.zero .positive) x.toModel.unpack).isFinite =
      x.toModel.unpack.isFinite ∧ Fits (add Format.binary64 (.zero .positive) x.toModel.unpack) := by
    have hfits := fits_toModel x
    cases hx : x.toModel.unpack with
    | zero s => cases s <;> exact ⟨rfl, trivial⟩
    | finite s m e hm =>
      rw [hx] at hfits
      exact ⟨rfl, hfits⟩
    | _ => exact ⟨rfl, trivial⟩
  show (unpack Format.binary64 (pack Format.binary64
    (add Format.binary64 (.zero .positive) x.toModel.unpack))).isFinite = x.toModel.unpack.isFinite
  rw [isFinite_unpack_pack hsum.2, hsum.1]

/-- A double is finite if and only if its value is. -/
theorem isFinite_iff_ofFloat (tie : Tie) (x : Float) :
    x.isFinite = true ↔ ∃ negative d, Value.ofFloat tie x = .finite negative d := by
  have hfield : x.toBits.toNat / twoTo 52 % twoTo 11 = exponentField x.toBits.toBitVec := by
    rw [exponentField_eq]
    rfl
  have hfinite : x.isFinite = true ↔ exponentField x.toBits.toBitVec ≠ 2047 :=
    isFinite_unpack_iff x.toBits.toBitVec
  rw [hfinite, Value.ofFloat, hfield, Value.ofFields]
  split
  next h => split <;> simp [h]
  next h => split <;> simp [h]

end Decimal

namespace Json

/-- Whether null stands nowhere in a value. -/
def NullFree (v : Json) : Prop := Lexeme.null ∉ v.lexemes

/-- **A double is written as a number** if and only if it is finite. -/
theorem nullFree_ofFloat_iff (x : Float) : (ofFloat x).NullFree ↔ x.isFinite = true := by
  rw [Decimal.isFinite_iff_ofFloat Decimal.Layout.document.tie, ofFloat, NullFree]
  split
  next negative d h => simp [h, lexemes]
  next h => simpa [lexemes] using fun negative d hd => h negative d hd

end Json

end AtmosChem
