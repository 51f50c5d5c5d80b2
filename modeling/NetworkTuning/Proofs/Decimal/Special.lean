import Mathlib
import NetworkTuning.Proofs.Decimal.Digits

/-!
# Doubles that are not finite

An infinity and NaN are written by name and read back as they were (`float?_fixed_special`): their
exponent field is the largest one, and bits that are valid are fixed by what they unpack to.
-/

open Float.Model Float.Model.UnpackedFloat

namespace NetworkTuning.Decimal

/-- A double is packed from what it unpacks to. -/
theorem eq_pack {x : Float} {u : UnpackedFloat} (h : x.toModel.unpack = u) :
    x = .ofModel (Float.Model.pack u) := by
  have hbits := pack_unpack_of_valid x.toModel.valid
  change UnpackedFloat.pack Format.binary64 x.toModel.unpack = x.toModel.toBits.toBitVec at hbits
  obtain ⟨⟨⟨bits⟩, valid⟩⟩ := x
  subst h
  simp only [Float.Model.pack, hbits]

theorem exponentField_eq (x : Float) :
    exponentField x = (@unpackExponent Format.binary64 x.toBits.toBitVec).toNat := by
  rw [unpackExponent_def]
  show (x.toBits >>> 52).toNat % 2048 = _
  simp [BitVec.extractLsb'_toNat]

/-- What is not finite has no exact value. -/
theorem ofFloat?_special {x : Float} (special : x.isFinite = false) : Binary.ofFloat? x = none := by
  have hfield : exponentField x = 2047 := by
    rw [exponentField_eq]
    change (UnpackedFloat.unpack Format.binary64 x.toBits.toBitVec).isFinite = false at special
    unfold UnpackedFloat.unpack at special
    dsimp only at special
    by_cases hlargest : @unpackExponent Format.binary64 x.toBits.toBitVec =
        -BitVec.ofNat Format.binary64.exponentBits 1
    · rw [hlargest]
      rfl
    · rw [if_neg hlargest] at special
      split at special
      · split at special <;> cases special
      · cases special
  simp only [Binary.ofFloat?, if_pos hfield]

/-- **Infinities and NaN come back as they were**, for any number of places. -/
theorem float?_fixed_special (places : Nat) {x : Float} (special : x.isFinite = false) :
    float? (fixed places x).toList = some x := by
  have hclass : x.toModel.unpack.isFinite = false := special
  have htext : fixed places x = (special? x).getD "NaN" := by
    simp only [fixed, ofFloat?_special special]
  rw [htext]
  cases hx : x.toModel.unpack with
  | notANumber =>
    obtain rfl := eq_pack hx
    decide +kernel
  | infinity s =>
    obtain rfl := eq_pack hx
    cases s <;> decide +kernel
  | zero | finite =>
    rw [hx] at hclass
    cases hclass

end NetworkTuning.Decimal
