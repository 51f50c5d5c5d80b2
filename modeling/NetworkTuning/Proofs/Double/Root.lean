import NetworkTuning.Proofs.Double.Arithmetic

/-!
# Square roots of doubles

A root is computed as the whole root of a mantissa that was moved to an even place, with the
remainder telling how what is left compares with a half, which it never equals
(`represents_sqrt`). So the root of a double is the root of the real that it stands for, rounded
(`Means.sqrt`). What is negative has none (`not_means_sqrt`).
-/

open Float.Model Float.Model.UnpackedFloat

namespace NetworkTuning.Double

/-! ## Mantissas -/

/-- How the rest of a root compares with nothing and with a half is told by what its whole part
leaves of the square. -/
theorem fract_sqrt (n : ℕ) :
    (Int.fract √(n : ℝ) = 0 ↔ n - n.sqrt * n.sqrt = 0) ∧
      (1 / 2 ≤ Int.fract √(n : ℝ) ↔ n.sqrt < n - n.sqrt * n.sqrt) ∧
      Int.fract √(n : ℝ) ≠ 1 / 2 := by
  have hfloor : ⌊√(n : ℝ)⌋ = n.sqrt := Real.floor_real_sqrt_eq_nat_sqrt
  have hfract : Int.fract √(n : ℝ) = √n - n.sqrt := by rw [Int.fract, hfloor, Int.cast_natCast]
  have hnonneg := Int.fract_nonneg √(n : ℝ)
  have hs : (0 : ℝ) ≤ n.sqrt := Nat.cast_nonneg _
  obtain ⟨k, hk⟩ : ∃ k, n.sqrt * n.sqrt + k = n := ⟨_, Nat.add_sub_cancel' (Nat.sqrt_le n)⟩
  have hrest : n - n.sqrt * n.sqrt = k := by omega
  have hsquare : √(n : ℝ) * √n = n.sqrt * n.sqrt + k := by
    rw [Real.mul_self_sqrt (Nat.cast_nonneg n)]
    exact_mod_cast hk.symm
  rw [hrest]
  rw [hfract] at hnonneg ⊢
  generalize (√(n : ℝ)) = r at hsquare hnonneg ⊢
  generalize n.sqrt = s at hsquare hnonneg hs ⊢
  refine ⟨?_, ?_, ?_⟩
  · rw [← @Nat.cast_eq_zero ℝ]
    constructor <;> intro h <;> nlinarith
  · rw [← Nat.succ_le_iff, ← @Nat.cast_le ℝ, Nat.cast_succ]
    constructor
    · intro h
      have hmore : (s : ℝ) < k := by nlinarith
      exact_mod_cast Nat.succ_le_of_lt (by exact_mod_cast hmore)
    · intro h
      by_contra hless
      nlinarith
  · intro h
    have hquarter : (4 * k : ℝ) = 4 * s + 1 := by nlinarith
    have hnat : 4 * k = 4 * s + 1 := by exact_mod_cast hquarter
    omega

/-- What is kept of the rest of a whole root. -/
def rootAccuracy (n : ℕ) : Accuracy :=
  if n - n.sqrt * n.sqrt = 0 then .exact
  else .inexact (if n - n.sqrt * n.sqrt ≤ n.sqrt then .lt else .gt)

/-- A root is its whole part, with what is left of the square for what follows. -/
theorem represents_sqrt (n : ℕ) :
    Represents (.ofMantissaAndAccuracy n.sqrt (rootAccuracy n)) √n := by
  obtain ⟨hzero, hhalf, hother⟩ := fract_sqrt n
  have hfloor : ⌊√(n : ℝ)⌋ = n.sqrt := Real.floor_real_sqrt_eq_nat_sqrt
  refine ⟨?_, ?_, ?_⟩
  · rw [hfloor]
    unfold rootAccuracy
    split_ifs <;> rfl
  · rw [hhalf]
    unfold rootAccuracy
    split_ifs with hnone hless
    · simp [ExtendedMantissa.ofMantissaAndAccuracy, hnone]
    · simp [ExtendedMantissa.ofMantissaAndAccuracy, hless]
    · simp [ExtendedMantissa.ofMantissaAndAccuracy, not_le.mp hless]
  · rw [Ne, hzero, and_iff_left hother]
    unfold rootAccuracy
    split_ifs with hnone <;> simp [ExtendedMantissa.ofMantissaAndAccuracy, hnone]

/-- The place to which the root of a mantissa is computed. -/
def rootPlace (m : ℕ) (e : ℤ) : ℤ :=
  min (e.ediv 2) (Format.binary64.targetExponent ((totalExponent m e + 1).ediv 2))

theorem rootPlace_eq (m : ℕ) (e : ℤ) :
    rootPlace m e = min (e / 2) (max ((m.log2 + e + 2) / 2 - 53) (-1074)) := by
  show min (e / 2) (max ((m.log2 + 1 + e + 1 : ℤ) / 2 - 53) (-1074)) = _
  congr 3
  omega

variable {m : ℕ} {e : ℤ}

/-- A mantissa that was moved there has the root of the size. -/
theorem at_sqrt (m : ℕ) {t : ℤ} (ht : t ≤ e / 2) :
    At (m * 2 ^ (e - 2 * t).toNat).sqrt t (rootAccuracy (m * 2 ^ (e - 2 * t).toNat))
      √(m * 2 ^ e) := by
  have hcast : ((e - 2 * t).toNat : ℤ) = e - 2 * t := Int.toNat_of_nonneg (by omega)
  have hmoved : √((m * 2 ^ (e - 2 * t).toNat : ℕ) : ℝ) = √(m * 2 ^ e) / 2 ^ t := by
    have hstep : (0 : ℝ) < 2 ^ t := by positivity
    have hsize : ((m * 2 ^ (e - 2 * t).toNat : ℕ) : ℝ) = m * 2 ^ e / (2 ^ t * 2 ^ t) := by
      push_cast
      rw [← zpow_natCast, hcast, zpow_sub₀ two_ne_zero, two_mul, zpow_add₀ two_ne_zero,
        mul_div_assoc]
    rw [hsize, Real.sqrt_div (by positivity), Real.sqrt_mul_self hstep.le]
  exact ⟨hmoved ▸ represents_sqrt _⟩

/-- There the root has enough digits to reach below its last place. -/
theorem le_place_sqrt (hm : 0 < m) :
    rootPlace m e ≤
      place (m * 2 ^ (e - 2 * rootPlace m e).toNat).sqrt (rootPlace m e) := by
  have hplace := rootPlace_eq m e
  generalize rootPlace m e = t at hplace ⊢
  rw [place_eq]
  by_cases hsmall : t ≤ -1074
  · omega
  · have hcast : ((e - 2 * t).toNat : ℤ) = e - 2 * t := Int.toNat_of_nonneg (by omega)
    generalize (e - 2 * t).toNat = k at hcast ⊢
    have hdigits : 52 ≤ (m * 2 ^ k).sqrt.log2 := by
      have hlow : 2 ^ 52 * 2 ^ 52 ≤ m * 2 ^ k :=
        calc 2 ^ 52 * 2 ^ 52 = 2 ^ 104 := rfl
          _ ≤ 2 ^ (m.log2 + k) := Nat.pow_le_pow_right two_pos (by omega)
          _ = 2 ^ m.log2 * 2 ^ k := pow_add ..
          _ ≤ m * 2 ^ k := Nat.mul_le_mul_right _ (Nat.log2_self_le hm.ne')
      have hroot : 2 ^ 52 ≤ (m * 2 ^ k).sqrt := Nat.le_sqrt.mpr hlow
      exact (Nat.le_log2 (by omega)).mpr hroot
    omega

/-! ## Doubles -/

/-- Roots of reals are computed and then rounded. -/
theorem sqrt_spec {u : UnpackedFloat} {x : ℝ} (hx : value? u = some (x : EReal)) (hnonneg : 0 ≤ x) :
    Canonical (UnpackedFloat.sqrt Format.binary64 u) ∧
      value? (UnpackedFloat.sqrt Format.binary64 u) = some (nearest √x : ℝ) := by
  rcases real_cases hx with ⟨s, rfl, rfl⟩ | ⟨s, m, e, p, rfl, rfl⟩
  · rw [Real.sqrt_zero, nearest_zero]
    exact ⟨trivial, rfl⟩
  · have hpos := size_pos p e
    cases s with
    | negative => exact absurd hnonneg (not_le.mpr (neg_neg_of_pos hpos))
    | positive =>
      have hsqrt : UnpackedFloat.sqrt Format.binary64 (.finite .positive m e p) =
          roundWithAccuracy Format.binary64 .positive
            (m * 2 ^ (e - 2 * rootPlace m e).toNat).sqrt (rootPlace m e)
            (rootAccuracy (m * 2 ^ (e - 2 * rootPlace m e).toNat)) := by
        simp only [UnpackedFloat.sqrt, sqrtCore, Nat.shiftLeft_eq]
        rfl
      rw [hsqrt, nearest_of_nonneg (Real.sqrt_nonneg _)]
      exact roundWithAccuracy_spec .positive (at_sqrt m (min_le_left _ _)) (Real.sqrt_pos.mpr hpos)
        (le_place_sqrt p)

variable {x : Float}

theorem Means.sqrt {a : ℝ} (hx : Means x a) (hnonneg : 0 ≤ a) : Means x.sqrt (rounded √a) := by
  obtain ⟨canonical, hvalue⟩ := sqrt_spec hx hnonneg
  exact value?_pack canonical hvalue

/-- What is negative or no number has no root. -/
theorem not_means_sqrt (hx : ∀ a, Means x a → a < 0) (c : EReal) : ¬Means x.sqrt c := by
  have hnone : x.toModel.unpack.sqrt Format.binary64 = .notANumber := by
    cases hu : x.toModel.unpack with
    | notANumber => rfl
    | infinity s =>
      cases s with
      | negative => rfl
      | positive => exact absurd (hx ⊤ (by rw [Means, hu]; rfl)) not_top_lt
    | zero s => exact absurd (hx (0 : ℝ) (by rw [Means, hu]; rfl)) (lt_irrefl _)
    | finite s m e p =>
      cases s with
      | negative => rfl
      | positive =>
        refine absurd (hx (size m e : ℝ) (by rw [Means, hu]; rfl)) (not_lt.mpr ?_)
        exact EReal.coe_nonneg.mpr (size_pos p e).le
  show ¬value? (Float.Model.pack (UnpackedFloat.sqrt Format.binary64 _)).unpack = _
  rw [hnone, unpack_pack_nan]
  nofun

end NetworkTuning.Double
