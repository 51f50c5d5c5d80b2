import NetworkTuning.Proofs.Double.Root
import NetworkTuning.Proofs.Load.Logarithm

/-!
# Signs of tolerances

The precision of a score is a share of one (`precision_share`), and one for what is below one
(`precision_of_lt_one`). So the tolerance of a score has the sign of the score where it is the
product of the two or its root, and is never negative where it is the square; where it is a
logarithm, it is negative as soon as the product is below one (`Approximation.nonneg_apply_iff`).
-/

open Float.Model Float.Model.UnpackedFloat

namespace NetworkTuning

open Double

variable {x : Float}

/-! ## Powers of ten -/

theorem powerOnto_atLeastOne {product base : Float} (hproduct : AtLeastOne product)
    (hbase : AtLeastOne base) (fuel n : ℕ) : AtLeastOne (powerOnto product base fuel n) := by
  induction fuel generalizing product base n with
  | zero => exact hproduct
  | succ fuel ih =>
    have hnext : AtLeastOne (if n % 2 = 1 then product * base else product) := by
      split
      · exact hproduct.mul hbase
      · exact hproduct
    simp only [powerOnto]
    split
    · exact hnext
    · exact ih hnext (hbase.mul hbase) _

/-- A power of ten that is not above one is a share of it. -/
theorem powerOfTen_share (n : ℕ) : UpTo (powerOfTen (-n)) 0 := by
  have hten : AtLeastOne 10.0 := by
    have hint : (10.0 : Float) = Float.ofInt 10 := by decide +kernel
    refine ⟨_, hint ▸ means_ofInt (by norm_num), ?_⟩
    exact_mod_cast (by norm_num : (1 : ℝ) ≤ 10)
  have hone : AtLeastOne 1.0 := ⟨_, means_one, le_rfl⟩
  simp only [powerOfTen]
  split_ifs with hneg
  · rcases (powerOnto_atLeastOne hone hten 64 (-n : ℤ).natAbs).cases with htop | ⟨a, ha, h1⟩
    · exact ⟨0, means_one.div_top htop, le_rfl, Nat.cast_nonneg _⟩
    · exact upTo_one.div ha h1 (by norm_num)
  · obtain rfl : n = 0 := by omega
    exact upTo_one

theorem powerOfTen_zero : Means (powerOfTen 0) (1 : ℝ) := by
  have h : powerOfTen 0 = 1.0 := rfl
  rw [h]
  exact means_one

/-! ## Precisions -/

/-- A double that is not negative is cut to the number that a word takes of it. -/
theorem cut_of_nonneg (hx : ¬x < 0.0) :
    (-cut x).toInt = -(min 0x7FFFFFFF x.toUInt32.toNat : ℕ) := by
  rw [cut, if_neg hx, ← Int32.ofInt_neg, Int32.toInt_ofInt_of_le] <;> omega

section

variable {score accuracy : Float} {a : ℝ}

/-- The digits of a score times the accuracy, which are cut to the zeros of its precision. -/
def zerosOf (score accuracy : Float) : Float := (wholeDigits score).toUInt32.toFloat * accuracy

theorem precision_eq (hacc : Means accuracy a) (nonneg : 0 ≤ a) :
    precision score accuracy =
      powerOfTen (-(min 0x7FFFFFFF (zerosOf score accuracy).toUInt32.toNat : ℕ)) := by
  have hproduct := (means_toFloat32 (wholeDigits score).toUInt32).mul hacc
  have hnonneg : ¬zerosOf score accuracy < 0.0 := by
    rw [zerosOf, hproduct.lt_iff means_zero, not_lt, ← means_zero.rounded_eq]
    exact rounded_mono (mul_nonneg (Nat.cast_nonneg _) nonneg)
  exact congrArg powerOfTen (cut_of_nonneg hnonneg)

/-- **A precision is a share of one.** -/
theorem precision_share (hacc : Means accuracy a) (nonneg : 0 ≤ a) :
    UpTo (precision score accuracy) 0 := by
  rw [precision_eq hacc nonneg]
  exact powerOfTen_share _

/-- What is below one has one digit, and hence no zeros. -/
theorem precision_of_lt_one {s : ℝ} (hscore : Means score s) (small : s < 1)
    (hacc : Means accuracy a) (nonneg : 0 ≤ a) (below : a < 1) :
    Means (precision score accuracy) (1 : ℝ) := by
  have hless : score < 1.0 := (hscore.lt_iff means_one).mpr (EReal.coe_lt_coe_iff.mpr small)
  have hdigits : wholeDigits score = 1 := by simp [wholeDigits, hless]
  have hzeros : Means (zerosOf score accuracy) a := by
    have h := (means_toFloat32 1).mul hacc
    rw [zerosOf, hdigits]
    rwa [show (1 : UInt32).toNat = 1 from rfl, Nat.cast_one, one_mul, hacc.rounded_eq] at h
  have hnone : (zerosOf score accuracy).toUInt32.toNat = 0 := by
    by_contra hsome
    have hone := ((cutTo_toUInt32 hzeros).le_iff 1 one_pos (by decide)).mp
      (Nat.one_le_iff_ne_zero.mpr hsome)
    rw [Nat.cast_one, EReal.coe_le_coe_iff] at hone
    exact absurd below (not_lt.mpr hone)
  rw [precision_eq hacc nonneg, hnone]
  exact powerOfTen_zero

/-- A score times its precision is a real of the sign of the score. -/
theorem means_mul_precision {s : ℝ} (hscore : Means score s) (hacc : Means accuracy a)
    (nonneg : 0 ≤ a) (below : a < 1) :
    ∃ p : ℝ, Means (score * precision score accuracy) p ∧ (0 ≤ p ↔ 0 ≤ s) ∧ (s < 1 → p = s) := by
  by_cases hsmall : s < 1
  · have hproduct := hscore.mul (precision_of_lt_one hscore hsmall hacc nonneg below)
    rw [mul_one, hscore.rounded_eq] at hproduct
    exact ⟨s, hproduct, Iff.rfl, fun _ => rfl⟩
  · have hs : 0 ≤ s := zero_le_one.trans (not_lt.mp hsmall)
    obtain ⟨q, hq, hq0, hq1⟩ : UpTo (precision score accuracy) 0 := precision_share hacc nonneg
    rw [pow_zero, Nat.cast_one] at hq1
    have hproduct := hscore.mul hq
    have hlow : ((0 : ℝ) : EReal) ≤ rounded (s * q) :=
      means_zero.rounded_eq ▸ rounded_mono (mul_nonneg hs hq0)
    have hhigh : rounded (s * q) ≤ s :=
      hscore.rounded_eq ▸ rounded_mono (mul_le_of_le_one_right hs hq1)
    obtain ⟨p, hp, hp0, -⟩ := exists_real_of_between hlow hhigh
    exact ⟨p, hp ▸ hproduct, iff_of_true hp0 hs, fun h => absurd h hsmall⟩

end

/-! ## Tolerances -/

/-- Where an approximation is a number that is not negative. -/
def Approximation.NonnegAt (f : Approximation) (x : Float) : Prop :=
  match f with
  | identity | squareRoot => 0.0 ≤ x
  | square => True
  | commonLogarithm | naturalLogarithm => 1.0 ≤ x

/-- **An approximation of a real is a number that is not negative just where `NonnegAt` says.** -/
theorem Approximation.nonneg_apply_iff (f : Approximation) {p : ℝ} (hx : Means x p) :
    0.0 ≤ f.apply x ↔ f.NonnegAt x := by
  cases f with
  | identity => rw [apply, NonnegAt]
  | squareRoot =>
    rw [apply, NonnegAt, means_zero.le_iff hx, EReal.coe_le_coe_iff]
    by_cases hp : 0 ≤ p
    · refine iff_of_true ?_ hp
      rw [means_zero.le_iff (hx.sqrt hp), ← means_zero.rounded_eq]
      exact rounded_mono (Real.sqrt_nonneg p)
    · refine iff_of_false (fun h => ?_) hp
      obtain ⟨c, hc, -⟩ := nonneg_iff_exists.mp h
      refine not_means_sqrt (fun a ha => ?_) c hc
      rw [ha.unique hx]
      exact EReal.coe_neg'.mpr (not_le.mp hp)
  | square =>
    refine iff_of_true ?_ trivial
    rw [apply, means_zero.le_iff (hx.mul hx), ← means_zero.rounded_eq]
    exact rounded_mono (mul_self_nonneg p)
  | commonLogarithm =>
    rw [IsLogarithm.nonneg_iff (.inl rfl) hx, NonnegAt, means_one.le_iff hx, EReal.coe_le_coe_iff]
  | naturalLogarithm =>
    rw [IsLogarithm.nonneg_iff (.inr rfl) hx, NonnegAt, means_one.le_iff hx, EReal.coe_le_coe_iff]

/-- What is no logarithm is not negative where its argument is not. -/
theorem Approximation.nonnegAt_of_nonneg {f : Approximation} (other : ¬f.IsLogarithm)
    (nonneg : 0.0 ≤ x) : f.NonnegAt x := by
  cases f with
  | identity | squareRoot => exact nonneg
  | square => trivial
  | commonLogarithm => exact absurd (.inl rfl) other
  | naturalLogarithm => exact absurd (.inr rfl) other

end NetworkTuning
