import NetworkTuning.Decimal.Reading
import NetworkTuning.Proofs.Double.Quotient
import NetworkTuning.Proofs.Double.Words

/-!
# The nearest double to a decimal number

What is read of a decimal number is the double nearest to it, with ties to even, and an infinity
where the number is beyond the doubles (`means_nearest`). Numbers whose size is far from that of any
double are not computed: those that are too small round to zero (`nearest_of_tiny`), and those that
are too large are beyond the largest double.
-/

open Float.Model Float.Model.UnpackedFloat

namespace NetworkTuning.Decimal

open Double

variable {m : ℕ} {e : ℤ}

/-! ## Powers of ten -/

/-- Whether an unpacked double of a whole number is just that number. -/
def isWhole (u : UnpackedFloat) (n : ℕ) : Bool :=
  match u with
  | .finite .positive m e _ => -52 ≤ e && m * 2 ^ (e + 52).toNat == n * 2 ^ 52
  | _ => false

theorem value?_of_isWhole {u : UnpackedFloat} {n : ℕ} (whole : isWhole u n = true) :
    value? u = some ((n : ℝ) : EReal) := by
  rcases u with _ | _ | _ | ⟨_ | _, m, e, p⟩ <;> try cases whole
  rw [isWhole, Bool.and_eq_true, decide_eq_true_iff, beq_iff_eq] at whole
  obtain ⟨hleast, hsize⟩ := whole
  have hreal : (m : ℝ) * 2 ^ (e + 52).toNat = n * 2 ^ 52 := by exact_mod_cast hsize
  have hcast : ((e + 52).toNat : ℤ) = e + 52 := Int.toNat_of_nonneg (by omega)
  rw [← zpow_natCast, hcast, zpow_add₀ two_ne_zero, ← mul_assoc] at hreal
  have hvalue : (m : ℝ) * 2 ^ e = n := mul_right_cancel₀ (by positivity) hreal
  exact congrArg (fun r : ℝ => some (r : EReal)) hvalue

theorem isWhole_exactPower : ∀ k : Fin Float.exactlyRepresentablePowersOfTen.size,
    isWhole (Float.exactlyRepresentablePowersOfTen[k]).toModel.unpack (10 ^ (k : ℕ)) = true := by
  decide +kernel

/-- The powers of ten of the table are exact. -/
theorem means_exactPower {n : ℕ} (inside : n < Float.exactlyRepresentablePowersOfTen.size) :
    Means Float.exactlyRepresentablePowersOfTen[n] (10 ^ n : ℝ) := by
  have h := value?_of_isWhole (isWhole_exactPower ⟨n, inside⟩)
  rwa [Nat.cast_pow, Nat.cast_ofNat] at h

/-! ## Numbers that are computed -/

theorem value?_scientific (nonzero : m ≠ 0) (least : -(2 ^ 11 + (m.log2 : ℤ)) ≤ e)
    (most : e ≤ 2 ^ 11) :
    Canonical (UnpackedFloat.ofScientific Format.binary64 m e) ∧
      value? (UnpackedFloat.ofScientific Format.binary64 m e) =
        some (Double.nearest (m * 10 ^ e) : ℝ) := by
  have hm : 0 < m := Nat.pos_of_ne_zero nonzero
  have hpower (n : ℕ) : 0 < 10 ^ n := by positivity
  unfold UnpackedFloat.ofScientific
  rw [dif_neg nonzero, if_neg (not_lt.mpr most), if_neg (not_lt.mpr least)]
  by_cases hsign : 0 ≤ e
  · lift e to ℕ using hsign
    have hsize : ((m * 2 ^ 53 * 10 ^ e : ℕ) : ℝ) * 2 ^ (-53 : ℤ) = m * 10 ^ (e : ℤ) := by
      have hone : ((2 ^ 53 : ℕ) : ℝ) * 2 ^ (-53 : ℤ) = 1 := by norm_num
      rw [Nat.cast_mul, Nat.cast_mul, mul_right_comm, mul_assoc (m : ℝ), hone, mul_one,
        Nat.cast_pow, Nat.cast_ofNat, zpow_natCast]
    have hat := at_exact (m * 2 ^ 53 * 10 ^ e) (-53)
    rw [hsize] at hat
    have hplace : -53 ≤ place (m * 2 ^ 53 * 10 ^ e) (-53) := by
      have hdigits : 52 ≤ (m * 2 ^ 53 * 10 ^ e).log2 := by
        refine (Nat.le_log2 (by positivity)).mpr ?_
        calc 2 ^ 52 ≤ 1 * 2 ^ 53 * 1 := by norm_num
          _ ≤ m * 2 ^ 53 * 10 ^ e := Nat.mul_le_mul (Nat.mul_le_mul_right _ hm) (hpower e)
      rw [place_eq]
      omega
    have hpositive : (0 : ℝ) < m * 10 ^ (e : ℤ) := by positivity
    rw [if_pos (Int.natCast_nonneg e), nearest_of_nonneg hpositive.le]
    have hmul := roundWithAccuracy_spec .positive hat hpositive hplace
    simp only [Nat.shiftLeft_eq, UnpackedFloat.mul]
    exact hmul
  · obtain ⟨n, rfl⟩ : ∃ n : ℕ, e = -n := ⟨(-e).toNat, by omega⟩
    have hdiv := div_spec (a := .finite .positive m 0 hm)
      (b := .finite .positive (10 ^ n) 0 (hpower n)) (x := m) (y := (10 ^ n : ℕ))
      (by simp [value?, Double.signed]) (by simp [value?, Double.signed]) (by positivity)
    rw [if_neg hsign]
    have hsize : (m : ℝ) / (10 ^ n : ℕ) = m * 10 ^ (-n : ℤ) := by
      rw [zpow_neg, zpow_natCast, div_eq_mul_inv, Nat.cast_pow, Nat.cast_ofNat]
    rw [hsize] at hdiv
    simpa only [neg_neg, Int.toNat_natCast] using hdiv

theorem means_ofScientific (nonzero : m ≠ 0) (least : -(2 ^ 11 + (m.log2 : ℤ)) ≤ e)
    (most : e ≤ 2 ^ 11) :
    Means (Float.ofScientific m (e < 0) e.natAbs) (rounded (m * 10 ^ e)) := by
  unfold Float.ofScientific
  split
  next h =>
    have hword : m.toUInt64.toNat = m := UInt64.toNat_ofNat_of_lt' (h.1.trans (by norm_num))
    have hmantissa : Means m.toUInt64.toFloat (m : ℝ) := by
      have h := means_toFloat_of_lt (hword.symm ▸ h.1)
      rwa [hword] at h
    have hpower := means_exactPower (n := e.natAbs) (Nat.lt_succ_of_le h.2)
    split
    next hneg =>
      have hsize : (m : ℝ) / 10 ^ e.natAbs = m * 10 ^ e := by
        have he : e = -(e.natAbs : ℤ) := by
          have := of_decide_eq_true hneg
          omega
        rw [div_eq_mul_inv, ← zpow_natCast, ← zpow_neg, ← he]
      exact hsize ▸ hmantissa.div hpower (by positivity)
    next hneg =>
      have hsize : (m : ℝ) * 10 ^ e.natAbs = m * 10 ^ e := by
        have he : e = (e.natAbs : ℤ) := by
          have := of_decide_eq_false (Bool.not_eq_true _ ▸ hneg)
          omega
        rw [← zpow_natCast, ← he]
      exact hsize ▸ hmantissa.mul hpower
  next =>
    obtain ⟨canonical, hvalue⟩ := value?_scientific nonzero least most
    have hexponent : (if decide (e < 0) = true then Int.negOfNat e.natAbs
        else Int.ofNat e.natAbs) = e := by
      by_cases hneg : e < 0
      · rw [if_pos (decide_eq_true hneg), Int.negOfNat_eq, Int.ofNat_eq_natCast]
        omega
      · rw [if_neg (by simpa using hneg), Int.ofNat_eq_natCast]
        omega
    rw [hexponent]
    exact value?_pack canonical hvalue

/-! ## Numbers far from the doubles -/

/-- What is no more than half of the smallest double rounds to zero. -/
theorem nearest_of_tiny {x : ℝ} (nonneg : 0 ≤ x) (tiny : x ≤ 2 ^ (-1075 : ℤ)) :
    Double.nearest x = 0 := by
  have hstep : (0 : ℝ) < 2 ^ lastPlace x := by positivity
  have hquotient : x / 2 ^ lastPlace x ≤ 1 / 2 := by
    have hone : (1 : ℝ) ≤ 2 := by norm_num
    have hleast : (2 : ℝ) ^ (-1074 : ℤ) ≤ 2 ^ lastPlace x :=
      zpow_le_zpow_right₀ hone (le_max_right _ _)
    have hhalf : (2 : ℝ) ^ (-1075 : ℤ) = 1 / 2 * 2 ^ (-1074 : ℤ) := by
      rw [show (-1075 : ℤ) = -1 + -1074 from rfl, zpow_add₀ two_ne_zero, zpow_neg_one, one_div]
    rw [div_le_iff₀ hstep]
    linarith
  have hzero : toEven (x / 2 ^ lastPlace x) = 0 := by
    refine le_antisymm (not_lt.mp (toEven_pos_iff.not.mpr (not_lt.mpr hquotient))) ?_
    exact le_toEven (by exact_mod_cast div_nonneg nonneg hstep.le)
  rw [nearest_of_nonneg nonneg, magnitude, hzero, Int.cast_zero, zero_mul]

/-- What is beyond the doubles rounds to infinity. -/
theorem rounded_of_huge {x : ℝ} (huge : limit ≤ x) : rounded x = ⊤ := by
  have hlimit : Double.nearest limit = limit := by
    have h := nearest_of_fits (m := 1) (e := 1024) (by norm_num) (by norm_num)
    rwa [Nat.cast_one, one_mul] at h
  exact bounded_of_ge (hlimit ▸ nearest_mono huge)

theorem two_pow_le_ten_pow : (2 : ℝ) ^ (1200 : ℤ) ≤ 10 ^ (400 : ℤ) := by
  calc (2 : ℝ) ^ (1200 : ℕ) = (2 ^ 3) ^ 400 := pow_mul 2 3 400
    _ ≤ 10 ^ (400 : ℕ) := pow_le_pow_left₀ (by norm_num) (by norm_num) 400

/-- A number lies between the powers of ten that its digits tell. -/
theorem digits_bounds (nonzero : m ≠ 0) :
    10 ^ ((digits m).length - 1) ≤ m ∧ m < 10 ^ (digits m).length := by
  have hten : 1 < 10 := by decide
  have hlength : 0 < (digits m).length := Nat.length_toDigits_pos
  refine ⟨?_, (Nat.length_toDigits_le_iff hten hlength).mp le_rfl⟩
  by_cases hone : (digits m).length = 1
  · rw [hone]
    exact Nat.pos_of_ne_zero nonzero
  · by_contra hless
    have h := (Nat.length_toDigits_le_iff hten (by omega)).mpr (not_le.mp hless)
    rw [digits] at hlength
    rw [digits] at h
    omega

/-- **What is read of a decimal number is the double nearest to it.** -/
theorem means_nearest (m : ℕ) (e : ℤ) : Means (nearest m e) (rounded (m * 10 ^ e)) := by
  have hten : (1 : ℝ) ≤ 10 := by norm_num
  unfold nearest
  by_cases hm : m = 0
  · rw [if_pos hm, hm, Nat.cast_zero, zero_mul, means_zero.rounded_eq]
    exact means_zero
  · obtain ⟨hlow, hhigh⟩ := digits_bounds hm
    have hlength : 0 < (digits m).length := Nat.length_toDigits_pos
    generalize (digits m).length = l at hlow hhigh hlength
    have hpositive : (0 : ℝ) ≤ m * 10 ^ e := by positivity
    have hpower {k : ℕ} : (10 : ℝ) ^ k * 10 ^ e = 10 ^ (k + e) := by
      rw [← zpow_natCast, ← zpow_add₀ (by norm_num)]
    simp only [if_neg hm]
    split
    next hlarge =>
      have hhuge : limit ≤ m * 10 ^ e := by
        have hdigits : (10 : ℝ) ^ (l - 1) ≤ m := by exact_mod_cast hlow
        calc limit ≤ 2 ^ (1200 : ℤ) := zpow_le_zpow_right₀ one_le_two (by norm_num)
          _ ≤ 10 ^ (400 : ℤ) := two_pow_le_ten_pow
          _ ≤ 10 ^ (((l - 1 : ℕ) : ℤ) + e) := zpow_le_zpow_right₀ hten (by omega)
          _ = 10 ^ (l - 1) * 10 ^ e := hpower.symm
          _ ≤ m * 10 ^ e := mul_le_mul_of_nonneg_right hdigits (by positivity)
      rw [rounded_of_huge hhuge]
      rfl
    next =>
      split
      next hsmall =>
        have htiny : (m * 10 ^ e : ℝ) ≤ 2 ^ (-1075 : ℤ) := by
          have hdigits : (m : ℝ) ≤ 10 ^ l := by exact_mod_cast hhigh.le
          calc (m * 10 ^ e : ℝ) ≤ 10 ^ l * 10 ^ e :=
                mul_le_mul_of_nonneg_right hdigits (by positivity)
            _ = 10 ^ (l + e) := hpower
            _ ≤ 10 ^ (-400 : ℤ) := zpow_le_zpow_right₀ hten (by omega)
            _ ≤ 2 ^ (-1200 : ℤ) := by
                rw [zpow_neg, zpow_neg]
                exact inv_anti₀ (by positivity) two_pow_le_ten_pow
            _ ≤ 2 ^ (-1075 : ℤ) := zpow_le_zpow_right₀ one_le_two (by norm_num)
        rw [rounded, nearest_of_tiny hpositive htiny, ← nearest_zero, ← rounded,
          means_zero.rounded_eq]
        exact means_zero
      next =>
        have hlog : l - 1 ≤ m.log2 :=
          (Nat.le_log2 hm).mpr ((Nat.pow_le_pow_left (by decide) _).trans hlow)
        exact means_ofScientific hm (by omega) (by omega)

end NetworkTuning.Decimal
