import NetworkTuning.Load.Tolerance
import NetworkTuning.Proofs.Decimal.Value
import NetworkTuning.Proofs.Double.Quotient
import NetworkTuning.Proofs.Double.Words

/-!
# Signs of logarithms

A logarithm of a positive real is a real, and it is negative exactly below one, whatever the
platform computes (`IsLogarithm.of_pos`): both bounds that it is held between have that sign, since
a double below one stays far enough away from it (`means_sub_one_of_lt`). Zero has the logarithm
minus infinity (`IsLogarithm.of_zero`), and what is negative has none, so that only what is at least
one has a logarithm that is not negative (`IsLogarithm.nonneg_iff`).
-/

open Float.Model Float.Model.UnpackedFloat

namespace NetworkTuning

open Double Decimal

variable {x : Float} {r : ℝ}

/-! ## Bounds -/

/-- What lies between powers of two still does when it is rounded. -/
theorem rounded_between {j k : ℤ} (least : -1074 ≤ j) (most : k < 1024) (above : 2 ^ j ≤ r)
    (below : r ≤ 2 ^ k) : ∃ q : ℝ, rounded r = q ∧ 2 ^ j ≤ q ∧ q ≤ 2 ^ k := by
  have hone : (1 : ℝ) ≤ 2 := by norm_num
  have hjk : j ≤ k := (zpow_le_zpow_iff_right₀ one_lt_two).mp (above.trans below)
  have hpower {i : ℤ} (hi : -1074 ≤ i) : nearest (2 ^ i) = 2 ^ i := by
    have h := nearest_of_fits (m := 1) (by norm_num) hi
    rwa [Nat.cast_one, one_mul] at h
  have hlow : 2 ^ j ≤ nearest r := (hpower least).symm.trans_le (nearest_mono above)
  have hhigh : nearest r ≤ 2 ^ k := (nearest_mono below).trans_eq (hpower (least.trans hjk))
  refine ⟨nearest r, bounded_of_lt ?_, hlow, hhigh⟩
  rw [abs_of_pos (lt_of_lt_of_le (by positivity) hlow)]
  exact hhigh.trans_lt (zpow_lt_zpow_right₀ one_lt_two most)

/-- What is held between two reals is a real between them, whatever it was. -/
theorem means_heldBetween {least most : Float} {a b : ℝ} (ha : Means least a) (hb : Means most b)
    (y : Float) : ∃ c : ℝ, Means (heldBetween least most y) c ∧ min a b ≤ c ∧ c ≤ max a b := by
  unfold heldBetween
  split_ifs with hleast hmost
  · obtain ⟨a', c, ha', hc, hac⟩ := means_of_le hleast
    obtain ⟨c', b', hc', hb', hcb⟩ := means_of_le hmost
    rw [ha'.unique ha] at hac
    rw [hc'.unique hc, hb'.unique hb] at hcb
    obtain ⟨c, rfl, hac, hcb⟩ := exists_real_of_between hac hcb
    exact ⟨c, hc, min_le_of_left_le hac, le_max_of_le_right hcb⟩
  · exact ⟨b, hb, min_le_right a b, le_max_right a b⟩
  · exact ⟨a, ha, min_le_left a b, le_max_left a b⟩

/-- A double below one keeps a last place away from it. -/
theorem means_sub_one_of_lt (hx : Means x r) (positive : 0 < r) (small : r < 1) :
    ∃ q : ℝ, Means (x - 1.0) q ∧ -1 ≤ q ∧ q ≤ -2 ^ (-53 : ℤ) := by
  have hplace : r ≤ size (2 ^ 53 - 1) (-53) :=
    hx.le_of_lt_two_pow (by norm_num) (by norm_num; exact small)
  have hgap : (2 : ℝ) ^ (-53 : ℤ) ≤ 1 - r := by
    have hsize : size (2 ^ 53 - 1) (-53) = 1 - 2 ^ (-53 : ℤ) := by norm_num
    linarith
  obtain ⟨q, hq, hlow, hhigh⟩ := rounded_between (k := 0) (by norm_num) (by norm_num) hgap
    (by norm_num; exact positive.le)
  have hsub := hx.sub means_one
  rw [← neg_sub, rounded_neg, hq, ← EReal.coe_neg] at hsub
  rw [zpow_zero] at hhigh
  exact ⟨-q, hsub, neg_le_neg hhigh, neg_le_neg hlow⟩

theorem means_sub_one_of_ge (hx : Means x r) (large : 1 ≤ r) :
    ∃ q : ℝ, Means (x - 1.0) q ∧ 0 ≤ q := by
  have hsub := hx.sub means_one
  have hhigh : rounded (r - 1) ≤ r := hx.rounded_eq ▸ rounded_mono (by linarith)
  have hlow : ((0 : ℝ) : EReal) ≤ rounded (r - 1) :=
    means_zero.rounded_eq ▸ rounded_mono (by linarith)
  obtain ⟨q, hq, hq0, -⟩ := exists_real_of_between hlow hhigh
  exact ⟨q, hq ▸ hsub, hq0⟩

/-! ## Decades -/

theorem decadeOfNat_le (fuel n : ℕ) : decadeOfNat fuel n ≤ fuel := by
  fun_induction decadeOfNat fuel n <;> omega

theorem decadeBelowOne_le (fuel numerator denominator : ℕ) :
    decadeBelowOne fuel numerator denominator ≤ fuel := by
  fun_induction decadeBelowOne fuel numerator denominator <;> omega

/-- A positive real has a decade, which is negative below one. -/
theorem decade?_of_pos (hx : Means x r) (positive : 0 < r) :
    ∃ k : ℤ, decade? x = some k ∧ k.natAbs ≤ 400 ∧ (k < 0 ↔ r < 1) := by
  obtain ⟨b, hb, rfl⟩ := exists_binary hx
  have hsign := b.real_pos_iff.mp positive
  obtain ⟨hpos, hquotient⟩ := ratio_eq b 0
  have hreal : b.real = size b.mantissa b.exponent := by
    rw [Binary.real, Bool.eq_false_of_not_eq_true (not_or.mp hsign).1]
    rfl
  rw [pow_zero, mul_one, ← hreal] at hquotient
  have hless : b.real < 1 ↔ (b.ratio 0).1 < (b.ratio 0).2 := by
    rw [← hquotient, div_lt_one (by exact_mod_cast hpos), Nat.cast_lt]
  simp only [decade?, hb, if_neg hsign]
  split_ifs with hlarge
  · refine ⟨_, rfl, ?_, ?_⟩
    · rw [Int.natAbs_natCast]
      exact decadeOfNat_le _ _
    · rw [hless]
      omega
  · refine ⟨_, rfl, ?_, ?_⟩
    · rw [Int.natAbs_negOfNat]
      exact decadeBelowOne_le _ _ _
    · rw [hless, decadeBelowOne, if_neg hlarge]
      exact iff_of_true (Int.negSucc_lt_zero _) (not_le.mp hlarge)

/-- Nothing else has one. -/
theorem decade?_eq_none (h : ∀ r : ℝ, Means x r → r ≤ 0) : decade? x = none := by
  by_cases hfinite : x.isFinite = true
  · obtain ⟨r, hr⟩ := isFinite_iff.mp hfinite
    obtain ⟨b, hb, rfl⟩ := exists_binary hr
    have hsign : b.negative = true ∨ b.mantissa = 0 :=
      not_not.mp fun hpos => absurd (h _ hr) (not_le.mpr (b.real_pos_iff.mpr hpos))
    simp only [decade?, hb, if_pos hsign]
  · simp only [decade?, ofFloat?_special (Bool.not_eq_true _ ▸ hfinite)]

/-! ## Logarithms -/

/-- The common and the natural logarithm. -/
def Approximation.IsLogarithm (f : Approximation) : Prop :=
  f = .commonLogarithm ∨ f = .naturalLogarithm

theorem means_fiveHalves : Means 2.5 (5 / 2 : ℝ) := by
  have hbits : (2.5 : Float) = Float.ofBits 0x4004000000000000 := by decide +kernel
  have h : (Float.ofBits 0x4004000000000000).toModel.unpack =
      .finite .positive 5629499534213120 (-51) (by decide) := by rfl
  have hsize : size 5629499534213120 (-51) = 5 / 2 := by norm_num
  rw [hbits, Means, h, ← hsize]
  rfl

/-- In any decade but the one below one, the common logarithm lies between the decade and the next.
-/
theorem log10_between {k : ℤ} (hk : decade? x = some k) (small : k.natAbs ≤ 400) (other : k ≠ -1) :
    ∃ l : ℝ, Means (log10 x) l ∧ k ≤ l ∧ l ≤ (k + 1 : ℤ) := by
  have hleast : Means (Float.ofInt k) (k : ℝ) := means_ofInt (by omega)
  have hmost : Means (Float.ofInt (k + 1)) ((k + 1 : ℤ) : ℝ) := means_ofInt (by omega)
  have hordered : (k : ℝ) ≤ (k + 1 : ℤ) := by exact_mod_cast (by omega : k ≤ k + 1)
  obtain ⟨l, hl, hlow, hhigh⟩ := means_heldBetween hleast hmost (Float.log10 x)
  simp only [log10, hk, if_neg other]
  exact ⟨l, hl, min_eq_left hordered ▸ hlow, max_eq_right hordered ▸ hhigh⟩

theorem log10_of_pos (hx : Means x r) (positive : 0 < r) :
    ∃ l : ℝ, Means (log10 x) l ∧ (l < 0 ↔ r < 1) := by
  obtain ⟨k, hk, hsmall, hsign⟩ := decade?_of_pos hx positive
  by_cases hlast : k = -1
  · have hless : r < 1 := hsign.mp (by omega)
    have hleast : Means (Float.ofInt k) (k : ℝ) := means_ofInt (by omega)
    obtain ⟨q, hq, hlow, hhigh⟩ := means_sub_one_of_lt hx positive hless
    have hpower : (2 : ℝ) ^ (-55 : ℤ) ≤ -q / (5 / 2) := by
      have hpower : (2 : ℝ) ^ (-55 : ℤ) * (5 / 2) ≤ 2 ^ (-53 : ℤ) := by norm_num
      rw [le_div_iff₀ (by norm_num)]
      exact hpower.trans (le_neg.mpr hhigh)
    obtain ⟨c, hc, hpos, -⟩ := rounded_between (k := 0) (by norm_num) (by norm_num) hpower
      (by rw [zpow_zero, div_le_one (by norm_num)]; linarith)
    have hdiv := hq.div means_fiveHalves (by norm_num)
    rw [← neg_neg (q / (5 / 2)), rounded_neg, ← neg_div, hc, ← EReal.coe_neg] at hdiv
    obtain ⟨l, hl, -, hmost⟩ := means_heldBetween hleast hdiv (Float.log10 x)
    simp only [log10, hk, if_pos hlast]
    refine ⟨l, hl, iff_of_true (hmost.trans_lt (max_lt ?_ ?_)) hless⟩
    · rw [hlast]
      norm_num
    · have : (0 : ℝ) < 2 ^ (-55 : ℤ) := by positivity
      linarith
  · obtain ⟨l, hl, hlow, hhigh⟩ := log10_between hk hsmall hlast
    refine ⟨l, hl, ?_⟩
    rw [← hsign]
    by_cases hneg : k < 0
    · refine iff_of_true (hhigh.trans_lt ?_) hneg
      exact_mod_cast (by omega : k + 1 < 0)
    · refine iff_of_false (not_lt.mpr (le_trans ?_ hlow)) hneg
      exact_mod_cast not_lt.mp hneg

theorem naturalLog_of_pos (hx : Means x r) (positive : 0 < r) :
    ∃ l : ℝ, Means (naturalLog x) l ∧ (l < 0 ↔ r < 1) := by
  obtain ⟨k, hk, -, hsign⟩ := decade?_of_pos hx positive
  simp only [naturalLog, hk]
  by_cases hneg : k < 0
  · have hless : r < 1 := hsign.mp hneg
    have hbound : Means (-745.0) ((-745 : ℤ) : ℝ) := by
      have hint : (-745.0 : Float) = Float.ofInt (-745) := by decide +kernel
      rw [hint]
      exact means_ofInt (by norm_num)
    obtain ⟨q, hq, -, hq0⟩ := means_sub_one_of_lt hx positive hless
    obtain ⟨l, hl, -, hmost⟩ := means_heldBetween hbound hq x.log
    rw [if_pos hneg]
    refine ⟨l, hl, iff_of_true (hmost.trans_lt (max_lt (by norm_num) ?_)) hless⟩
    exact hq0.trans_lt (neg_neg_of_pos (by positivity))
  · have hlarge : ¬r < 1 := hsign.not.mp hneg
    obtain ⟨q, hq, hq0⟩ := means_sub_one_of_ge hx (not_lt.mp hlarge)
    obtain ⟨l, hl, hleast, -⟩ := means_heldBetween means_zero hq x.log
    rw [if_neg hneg]
    exact ⟨l, hl, iff_of_false (not_lt.mpr ((le_min le_rfl hq0).trans hleast)) hlarge⟩

namespace Approximation

variable {f : Approximation}

/-- **A logarithm is negative exactly below one.** -/
theorem IsLogarithm.of_pos (logarithm : f.IsLogarithm) (hx : Means x r) (positive : 0 < r) :
    ∃ l : ℝ, Means (f.apply x) l ∧ (l < 0 ↔ r < 1) := by
  rcases logarithm with rfl | rfl
  · exact log10_of_pos hx positive
  · exact naturalLog_of_pos hx positive

/-- What is no positive real has a logarithm of its own kind. -/
theorem IsLogarithm.outside (logarithm : f.IsLogarithm) (h : ∀ r : ℝ, Means x r → r ≤ 0) :
    f.apply x = logarithmOutside x := by
  rcases logarithm with rfl | rfl
  · simp only [apply, log10, decade?_eq_none h]
  · simp only [apply, naturalLog, decade?_eq_none h]

theorem IsLogarithm.of_zero (logarithm : f.IsLogarithm) (hx : Means x (0 : ℝ)) :
    Means (f.apply x) ⊥ := by
  have hzero : (x == 0.0) = true := (hx.beq_iff means_zero).mpr rfl
  rw [logarithm.outside fun r hr => (EReal.coe_injective (hr.unique hx)).le, logarithmOutside,
    if_pos hzero]
  rfl

/-- Of the reals only those from one on have a logarithm that is not negative. -/
theorem IsLogarithm.nonneg_iff (logarithm : f.IsLogarithm) (hx : Means x r) :
    0.0 ≤ f.apply x ↔ 1 ≤ r := by
  rcases lt_trichotomy 0 r with hpos | rfl | hneg
  · obtain ⟨l, hl, hsign⟩ := logarithm.of_pos hx hpos
    rw [means_zero.le_iff hl, EReal.coe_le_coe_iff, ← not_lt, hsign, not_lt]
  · rw [means_zero.le_iff (logarithm.of_zero hx)]
    norm_num
  · have hbelow : ∀ q : ℝ, Means x q → q ≤ 0 := fun q hq =>
      (EReal.coe_injective (hq.unique hx)).trans_le hneg.le
    have hzero : ¬(x == 0.0) = true := fun h =>
      hneg.ne (EReal.coe_injective ((hx.beq_iff means_zero).mp h))
    have hpositive : ¬0.0 < x := fun h =>
      absurd (EReal.coe_lt_coe_iff.mp ((means_zero.lt_iff hx).mp h)) (not_lt.mpr hneg.le)
    rw [logarithm.outside hbelow, logarithmOutside, if_neg hzero, if_neg hpositive]
    exact iff_of_false (by decide +kernel) (not_le.mpr (hneg.trans one_pos))

end Approximation

end NetworkTuning
