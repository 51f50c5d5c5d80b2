import NetworkTuning.Proofs.Decimal.Special
import NetworkTuning.Proofs.Double.Arithmetic

/-!
# Exact values of doubles

The mantissa and the exponent that are read from the bits of a double are those of the real number
that it stands for (`exists_binary`), and what is rounded on natural numbers is that real number
(`ratio_eq`, `roundTiesToEven_eq`). So a conversion of a double to whole units is the rounding of a
real to a whole number.
-/

open Float.Model Float.Model.UnpackedFloat

namespace NetworkTuning.Decimal

open Double

/-- A sign bit as a sign. -/
def signOf (negative : Bool) : Sign := if negative then .negative else .positive

/-- The real number that an exact value is. -/
noncomputable def Binary.real (b : Binary) : ℝ :=
  Double.signed (signOf b.negative) (size b.mantissa b.exponent)

/-- An exact value is positive unless it is negated or nothing. -/
theorem Binary.real_pos_iff (b : Binary) : 0 < b.real ↔ ¬(b.negative = true ∨ b.mantissa = 0) := by
  have hsize := (Nat.cast_pos (α := ℝ) (n := b.mantissa))
  have hpower : (0 : ℝ) < 2 ^ b.exponent := by positivity
  cases hsign : b.negative with
  | true =>
    have hnonpos : b.real ≤ 0 := by
      rw [Binary.real, hsign]
      exact neg_nonpos.mpr (by positivity)
    simp [not_lt.mpr hnonpos]
  | false =>
    have hreal : b.real = size b.mantissa b.exponent := by
      rw [Binary.real, hsign]
      rfl
    rw [hreal, size, mul_pos_iff_of_pos_right hpower, hsize, Nat.pos_iff_ne_zero]
    simp

/-! ## Fields of the bits -/

theorem fractionField_eq (x : Float) :
    fractionField x = (@unpackMantissa Format.binary64 x.toBits.toBitVec).toNat := by
  rw [unpackMantissa_def]
  show x.toBits.toNat % 2 ^ 52 = _
  simp [BitVec.extractLsb'_toNat]

theorem signOf_signBit (x : Float) :
    signOf (signBit x) = Sign.ofBitVec (@unpackSign Format.binary64 x.toBits.toBitVec) := by
  have hbits : x.toBits.toNat < 2 ^ 64 := UInt64.toNat_lt _
  have hfield : (@unpackSign Format.binary64 x.toBits.toBitVec).toNat =
      x.toBits.toNat / 2 ^ 63 := by
    rw [unpackSign_def, BitVec.extractLsb'_toNat]
    show x.toBits.toNat >>> 63 % 2 ^ 1 = _
    rw [Nat.shiftRight_eq_div_pow]
    omega
  have hzero : @unpackSign Format.binary64 x.toBits.toBitVec = 0#1 ↔
      ¬0x8000000000000000 ≤ x.toBits.toNat := by
    rw [← BitVec.toNat_inj, hfield, BitVec.toNat_ofNat]
    omega
  simp only [signOf, signBit, Sign.ofBitVec, hzero, decide_eq_true_eq, ite_not]

theorem exponentField_eq_largest (x : Float) :
    exponentField x = 2047 ↔ @unpackExponent Format.binary64 x.toBits.toBitVec = -1#11 := by
  rw [exponentField_eq, ← BitVec.toNat_inj]
  rfl

theorem exponentField_eq_zero (x : Float) :
    exponentField x = 0 ↔ @unpackExponent Format.binary64 x.toBits.toBitVec = 0#11 := by
  rw [exponentField_eq, ← BitVec.toNat_inj]
  rfl

/-- **What is read from the bits is what the double stands for.** -/
theorem exists_binary {x : Float} {r : ℝ} (h : Means x r) :
    ∃ b, Binary.ofFloat? x = some b ∧ b.real = r := by
  have hbias : (Format.binary64.exponentBias : ℤ) = 1023 := rfl
  have happend := toNat_one_append (@unpackMantissa Format.binary64 x.toBits.toBitVec)
  change value? (UnpackedFloat.unpack Format.binary64 x.toBits.toBitVec) = _ at h
  unfold UnpackedFloat.unpack at h
  simp only [Binary.ofFloat?, exponentField_eq_largest, exponentField_eq_zero, Binary.real]
  dsimp only at h
  split_ifs at h with hlargest hinfinite hsmallest hzero
  · cases hs : Sign.ofBitVec (@unpackSign Format.binary64 x.toBits.toBitVec) <;> rw [hs] at h <;>
      cases h
  · cases h
  -- what is left is finite, and read field by field
  all_goals
    rw [if_neg hlargest]
    replace h := EReal.coe_injective (Option.some.inj h)
  · rw [if_pos hsmallest]
    refine ⟨_, rfl, ?_⟩
    rw [← h, signOf_signBit, fractionField_eq, hzero]
    cases Sign.ofBitVec (@unpackSign Format.binary64 x.toBits.toBitVec) <;> simp [Double.signed]
  · rw [if_pos hsmallest]
    refine ⟨_, rfl, ?_⟩
    rw [← h, signOf_signBit, fractionField_eq, hsmallest, hbias]
    rfl
  · rw [if_neg hsmallest]
    refine ⟨_, rfl, ?_⟩
    rw [← h, signOf_signBit, fractionField_eq, exponentField_eq, happend, hbias]
    rfl

/-! ## Rounding on natural numbers -/

/-- The two halves of an exact value, scaled. -/
theorem ratio_eq (b : Binary) (places : ℕ) :
    0 < (b.ratio places).2 ∧
      ((b.ratio places).1 : ℝ) / (b.ratio places).2 = size b.mantissa b.exponent * 10 ^ places := by
  have hexponent : (b.exponent.toNat : ℤ) - (-b.exponent).toNat = b.exponent := by omega
  have hpower : (2 : ℝ) ^ b.exponent.toNat / 2 ^ (-b.exponent).toNat = 2 ^ b.exponent := by
    rw [← zpow_natCast, ← zpow_natCast, ← zpow_sub₀ two_ne_zero, hexponent]
  refine ⟨Nat.pow_pos two_pos, ?_⟩
  simp only [Binary.ratio, Nat.pow_eq, Nat.cast_mul, Nat.cast_pow, Nat.cast_ofNat]
  rw [size, ← hpower]
  ring

/-- Rounding a quotient of natural numbers rounds it as a real. -/
theorem roundTiesToEven_eq (n : ℕ) {d : ℕ} (hd : 0 < d) :
    (roundTiesToEven n d : ℤ) = toEven (n / d) := by
  have hpos : (0 : ℝ) < d := by exact_mod_cast hd
  have hfloor : ⌊(n / d : ℝ)⌋ = (n / d : ℕ) := by
    rw [← Nat.floor_div_eq_div (K := ℝ), Int.natCast_floor_eq_floor (by positivity)]
  have hbelow : Int.fract (n / d : ℝ) < 1 / 2 ↔ 2 * (n % d) < d := by
    rw [Int.fract_div_natCast_eq_div_natCast_mod, div_lt_iff₀ hpos, ← @Nat.cast_lt ℝ]
    push_cast
    constructor <;> intro h <;> linarith
  have habove : 1 / 2 < Int.fract (n / d : ℝ) ↔ d < 2 * (n % d) := by
    rw [Int.fract_div_natCast_eq_div_natCast_mod, lt_div_iff₀ hpos, ← @Nat.cast_lt ℝ]
    push_cast
    constructor <;> intro h <;> linarith
  unfold roundTiesToEven toEven
  simp only [hfloor, hbelow, habove]
  split_ifs <;> omega

end NetworkTuning.Decimal
