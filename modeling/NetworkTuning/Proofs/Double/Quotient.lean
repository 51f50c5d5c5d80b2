import NetworkTuning.Proofs.Double.Extremes

/-!
# Quotients of doubles

A quotient of mantissas is computed to at least 53 digits, with a remainder that tells how what is
left compares with a half (`represents_div`). So dividing doubles is dividing the reals that they
stand for, and rounding (`Means.div`), and a double is not made larger by dividing it by what is at
least one (`UpTo.div`).
-/

open Float.Model Float.Model.UnpackedFloat

namespace NetworkTuning.Double

/-! ## Mantissas -/

/-- What is kept of a remainder: whether it is at least a half, and whether it is neither nothing
nor a half. -/
theorem bits_of_remainder (q r : ℕ) {d : ℕ} (hd : 0 < d) :
    let em := ExtendedMantissa.ofMantissaAndAccuracy q (accuracyOfFraction r d)
    em.mantissa = q ∧ (em.roundBit = true ↔ d ≤ 2 * r) ∧
      (em.stickyBit = true ↔ r ≠ 0 ∧ 2 * r ≠ d) := by
  unfold accuracyOfFraction
  split_ifs with hrest
  · simp [ExtendedMantissa.ofMantissaAndAccuracy, hrest, hd.ne']
  · rcases lt_trichotomy (2 * r) d with h | h | h
    · rw [compare_lt_iff_lt.mpr h]
      simp [ExtendedMantissa.ofMantissaAndAccuracy, hrest, h, h.ne]
    · rw [compare_eq_iff_eq.mpr h]
      simp [ExtendedMantissa.ofMantissaAndAccuracy, hrest, h]
    · rw [compare_gt_iff_gt.mpr h]
      simp [ExtendedMantissa.ofMantissaAndAccuracy, hrest, h.le, h.ne']

/-- A quotient of whole numbers is its whole part, with the remainder for what follows. -/
theorem represents_div (n : ℕ) {d : ℕ} (hd : 0 < d) :
    Represents (.ofMantissaAndAccuracy (n / d) (accuracyOfFraction (n % d) d)) (n / d) := by
  have hpos : (0 : ℝ) < d := by exact_mod_cast hd
  have hfract : Int.fract (n / d : ℝ) = (n % d : ℕ) / d := Int.fract_div_natCast_eq_div_natCast_mod
  obtain ⟨hmantissa, hround, hsticky⟩ := bits_of_remainder (n / d) (n % d) hd
  refine ⟨?_, hround.trans ?_, hsticky.trans (and_congr (not_congr ?_) (not_congr ?_))⟩
  · rw [hmantissa, ← Int.natCast_floor_eq_floor (by positivity), Nat.floor_div_eq_div]
  · rw [hfract, div_le_div_iff₀ two_pos hpos, one_mul, mul_comm]
    exact_mod_cast Iff.rfl
  · rw [hfract, div_eq_zero_iff, or_iff_left hpos.ne', Nat.cast_eq_zero]
  · rw [hfract, div_eq_div_iff hpos.ne' two_ne_zero, one_mul, mul_comm]
    exact_mod_cast Iff.rfl

variable {m₁ m₂ : ℕ} {e₁ e₂ : ℤ}

/-- At any place up to that of the quotient, mantissas that are moved there have the quotient of the
sizes. -/
theorem at_div (m₁ : ℕ) (hm₂ : 0 < m₂) {t : ℤ} (ht : t ≤ e₁ - e₂) :
    At (m₁ * 2 ^ (e₁ - e₂ - t).toNat / m₂) t
      (accuracyOfFraction (m₁ * 2 ^ (e₁ - e₂ - t).toNat % m₂) m₂)
      (m₁ * 2 ^ e₁ / (m₂ * 2 ^ e₂)) := by
  have hcast : ((e₁ - e₂ - t).toNat : ℤ) = e₁ - e₂ - t := Int.toNat_of_nonneg (by omega)
  have hmoved : ((m₁ * 2 ^ (e₁ - e₂ - t).toNat : ℕ) : ℝ) / m₂ =
      m₁ * 2 ^ e₁ / (m₂ * 2 ^ e₂) / 2 ^ t := by
    push_cast
    rw [← zpow_natCast, hcast, zpow_sub₀ two_ne_zero, zpow_sub₀ two_ne_zero]
    have h₂ : (2 : ℝ) ^ e₂ ≠ 0 := by positivity
    have ht' : (2 : ℝ) ^ t ≠ 0 := by positivity
    have hm : (m₂ : ℝ) ≠ 0 := by positivity
    field_simp
  exact ⟨hmoved ▸ represents_div _ hm₂⟩

/-- The place to which a quotient of mantissas is computed. -/
def quotientPlace (m₁ : ℕ) (e₁ : ℤ) (m₂ : ℕ) (e₂ : ℤ) : ℤ :=
  min (e₁ - e₂) (Format.binary64.targetExponent (totalExponent m₁ e₁ - totalExponent m₂ e₂))

theorem quotientPlace_eq (m₁ : ℕ) (e₁ : ℤ) (m₂ : ℕ) (e₂ : ℤ) :
    quotientPlace m₁ e₁ m₂ e₂ =
      min (e₁ - e₂) (max (m₁.log2 + e₁ - (m₂.log2 + e₂) - 53) (-1074)) := by
  show min (e₁ - e₂) (max ((m₁.log2 + 1 + e₁ : ℤ) - (m₂.log2 + 1 + e₂) - 53) (-1074)) = _
  congr 2
  omega

/-- There the quotient has enough digits to reach below its last place. -/
theorem le_place_div (hm₁ : 0 < m₁) (hm₂ : 0 < m₂) :
    quotientPlace m₁ e₁ m₂ e₂ ≤
      place (m₁ * 2 ^ (e₁ - e₂ - quotientPlace m₁ e₁ m₂ e₂).toNat / m₂)
        (quotientPlace m₁ e₁ m₂ e₂) := by
  have hplace := quotientPlace_eq m₁ e₁ m₂ e₂
  generalize quotientPlace m₁ e₁ m₂ e₂ = t at hplace ⊢
  rw [place_eq]
  by_cases hsmall : t ≤ -1074
  · omega
  · have hcast : ((e₁ - e₂ - t).toNat : ℤ) = e₁ - e₂ - t := Int.toNat_of_nonneg (by omega)
    generalize (e₁ - e₂ - t).toNat = k at hcast ⊢
    have hdigits : 52 ≤ (m₁ * 2 ^ k / m₂).log2 := by
      have hlow : 2 ^ (m₁.log2 + k) ≤ m₁ * 2 ^ k := by
        rw [pow_add]
        exact Nat.mul_le_mul_right _ (Nat.log2_self_le hm₁.ne')
      have hquotient : 2 ^ 52 ≤ m₁ * 2 ^ k / m₂ := by
        rw [Nat.le_div_iff_mul_le hm₂]
        calc 2 ^ 52 * m₂ ≤ 2 ^ 52 * 2 ^ (m₂.log2 + 1) :=
              Nat.mul_le_mul_left _ Nat.lt_log2_self.le
          _ = 2 ^ (52 + (m₂.log2 + 1)) := (pow_add ..).symm
          _ ≤ 2 ^ (m₁.log2 + k) := Nat.pow_le_pow_right two_pos (by omega)
          _ ≤ m₁ * 2 ^ k := hlow
      exact (Nat.le_log2 (by omega)).mpr hquotient
    omega

/-! ## Unpacked doubles -/

theorem signed_div (s t : Sign) (x y : ℝ) : signed (s / t) (x / y) = signed s x / signed t y := by
  cases s <;> cases t
  · exact (neg_div_neg_eq x y).symm
  · exact (neg_div y x).symm
  · exact (div_neg x).symm
  · rfl

/-- Quotients of reals are computed and then rounded. -/
theorem div_spec {a b : UnpackedFloat} {x y : ℝ} (hx : value? a = some (x : EReal))
    (hy : value? b = some (y : EReal)) (hzero : y ≠ 0) :
    Canonical (UnpackedFloat.div Format.binary64 a b) ∧
      value? (UnpackedFloat.div Format.binary64 a b) = some (nearest (x / y) : ℝ) := by
  rcases real_cases hy with ⟨s₂, rfl, rfl⟩ | ⟨s₂, m₂, e₂, p₂, rfl, rfl⟩
  · exact absurd rfl hzero
  · rcases real_cases hx with ⟨s₁, rfl, rfl⟩ | ⟨s₁, m₁, e₁, p₁, rfl, rfl⟩
    · rw [zero_div, nearest_zero]
      exact ⟨trivial, rfl⟩
    · have hpos : 0 < (m₁ * 2 ^ e₁ : ℝ) / (m₂ * 2 ^ e₂) := by positivity
      have hdiv : UnpackedFloat.div Format.binary64 (.finite s₁ m₁ e₁ p₁) (.finite s₂ m₂ e₂ p₂) =
          roundWithAccuracy Format.binary64 (s₁ / s₂)
            (m₁ * 2 ^ (e₁ - e₂ - quotientPlace m₁ e₁ m₂ e₂).toNat / m₂)
            (quotientPlace m₁ e₁ m₂ e₂)
            (accuracyOfFraction
              (m₁ * 2 ^ (e₁ - e₂ - quotientPlace m₁ e₁ m₂ e₂).toNat % m₂) m₂) := by
        simp only [UnpackedFloat.div, divCore, Nat.shiftLeft_eq, quotientPlace]
      rw [hdiv, ← signed_div, nearest_signed _ hpos.le]
      exact roundWithAccuracy_spec _ (at_div m₁ p₂ (min_le_left _ _)) hpos (le_place_div p₁ p₂)

/-! ## Doubles -/

theorem Means.div {x y : Float} {a b : ℝ} (hx : Means x a) (hy : Means y b) (hb : b ≠ 0) :
    Means (x / y) (rounded (a / b)) := by
  obtain ⟨canonical, hvalue⟩ := div_spec hx hy hb
  exact value?_pack canonical hvalue

/-- A real divided by infinity is nothing. -/
theorem Means.div_top {x y : Float} {a : ℝ} (hx : Means x a) (hy : Means y ⊤) :
    Means (x / y) (0 : ℝ) := by
  show value? (Float.Model.pack (UnpackedFloat.div Format.binary64 _ _)).unpack = _
  rw [value?_eq_top hy]
  rcases real_cases hx with ⟨s, h, -⟩ | ⟨s, m, e, p, h, -⟩ <;> rw [h] <;>
    exact congrArg value? (unpack_pack_zero _)

namespace UpTo

variable {x y : Float} {k l : ℕ}

/-- A small double stays as small when it is divided by one that is at least one. -/
theorem div (hx : UpTo x k) {b : ℝ} (hy : Means y b) (hb : 1 ≤ b) (fits : k < 1024) :
    UpTo (x / y) k := by
  obtain ⟨a, ha, ha0, hak⟩ := hx
  have hquotient : a / b ≤ (2 ^ k : ℕ) := (div_le_self ha0 hb).trans hak
  obtain ⟨r, hr, hr0, hrk⟩ :=
    rounded_upTo (div_nonneg ha0 (zero_le_one.trans hb)) hquotient fits
  exact ⟨r, hr ▸ ha.div hy (by positivity), hr0, hrk⟩

theorem isFinite (hx : UpTo x k) : x.isFinite = true := by
  obtain ⟨r, hr, -⟩ := hx
  exact isFinite_iff.mpr ⟨r, hr⟩

end UpTo

end NetworkTuning.Double
