import NetworkTuning.Proofs.Decimal.Value
import NetworkTuning.Proofs.Double.Extremes
import NetworkTuning.Settings.Basic

/-!
# Durations from seconds

A double is a duration exactly if it stands for a real from zero to below `2 ^ 64` (`Spans`), and
the duration is that many seconds, rounded to whole nanoseconds (`Lasts`). Rounding never carries
into the bound: the doubles below `2 ^ 64` keep 2048 seconds away from it. At the other end it does
lose something: what is positive but not more than half a nanosecond lasts no time at all
(`Lasts.pos_iff`).
-/

namespace NetworkTuning

open Double Decimal

/-- The number of seconds is one that a duration can have. -/
def Spans (x : Float) : Prop := ∃ r : ℝ, Means x r ∧ 0 ≤ r ∧ r < (2 ^ 64 : ℕ)

/-- The duration is the number of seconds to the nearest nanosecond, a tie to the even one. -/
def Lasts (x : Float) (d : Nanoseconds) : Prop :=
  ∃ r : ℝ, Means x r ∧ (d : ℤ) = toEven (r * 10 ^ 9)

/-- The number of seconds is more than half a nanosecond. -/
def Noticeable (x : Float) : Prop := ∃ r : ℝ, Means x r ∧ 5 / 10 ^ 10 < r

theorem Lasts.pos_iff {x : Float} {d : Nanoseconds} (h : Lasts x d) : 0 < d ↔ Noticeable x := by
  obtain ⟨r, hr, hd⟩ := h
  have hhalf : 5 / 10 ^ 10 < r ↔ 1 / 2 < r * 10 ^ 9 := by
    constructor <;> intro h <;> linarith
  rw [Noticeable, hr.exists_real_iff, hhalf, ← toEven_pos_iff, ← hd]
  exact Int.natCast_pos.symm

/-! ## Conversion -/

/-- Rounding to nanoseconds does not carry into the bound. -/
theorem toEven_nanoseconds_lt_iff {x : Float} {r : ℝ} (h : Means x r) :
    toEven (r * 10 ^ 9) < 2 ^ 64 * 10 ^ 9 ↔ r < (2 ^ 64 : ℕ) := by
  have hbillion : (0 : ℝ) ≤ 10 ^ 9 := by norm_num
  constructor
  · intro hnanos
    by_contra hlarge
    have hbound : ((2 ^ 64 * 10 ^ 9 : ℤ) : ℝ) ≤ r * 10 ^ 9 :=
      calc ((2 ^ 64 * 10 ^ 9 : ℤ) : ℝ) = (2 ^ 64 : ℕ) * 10 ^ 9 := by norm_num
        _ ≤ r * 10 ^ 9 := mul_le_mul_of_nonneg_right (not_lt.mp hlarge) hbillion
    exact absurd hnanos (not_lt.mpr (le_toEven hbound))
  · intro hsmall
    have hplace : r ≤ size (2 ^ 53 - 1) 11 := by
      refine h.le_of_lt_two_pow (by norm_num) ?_
      exact_mod_cast hsmall
    have hbound : r * 10 ^ 9 ≤ (((2 ^ 53 - 1) * 2 ^ 11 * 10 ^ 9 : ℤ) : ℝ) :=
      calc r * 10 ^ 9 ≤ size (2 ^ 53 - 1) 11 * 10 ^ 9 := mul_le_mul_of_nonneg_right hplace hbillion
        _ = (((2 ^ 53 - 1) * 2 ^ 11 * 10 ^ 9 : ℤ) : ℝ) := by norm_num
    exact (toEven_le hbound).trans_lt (by norm_num)

/-- The number of nanoseconds that a real number of seconds is converted to. -/
theorem Nanoseconds.ofSeconds?_of_means {x : Float} {r : ℝ} (h : Means x r) :
    Nanoseconds.ofSeconds? x =
      if 0 ≤ r ∧ r < (2 ^ 64 : ℕ) then some (toEven (r * 10 ^ 9)).toNat else none := by
  obtain ⟨b, hb, hreal⟩ := exists_binary h
  by_cases hnegative : b.negative = true ∧ b.mantissa ≠ 0
  · have hbelow : r < 0 := by
      have hsize := size_pos (Nat.pos_of_ne_zero hnegative.2) b.exponent
      rw [← hreal, Binary.real, hnegative.1]
      exact neg_neg_of_pos hsize
    simp only [Nanoseconds.ofSeconds?, hb, if_pos hnegative]
    rw [if_neg (fun h => absurd h.1 (not_le.mpr hbelow))]
  · have hsize : r = size b.mantissa b.exponent := by
      rw [← hreal, Binary.real]
      cases hsign : b.negative with
      | false => rfl
      | true =>
        rw [show b.mantissa = 0 by tauto]
        simp [signOf, Double.signed, size]
    have hnonneg : 0 ≤ r := by
      rw [hsize]
      positivity
    obtain ⟨hpos, hquotient⟩ := ratio_eq b 9
    have hnanos := roundTiesToEven_eq (b.ratio 9).1 hpos
    rw [hquotient, ← hsize] at hnanos
    have hroom : roundTiesToEven (b.ratio 9).1 (b.ratio 9).2 < UInt64.size * second ↔
        r < (2 ^ 64 : ℕ) := by
      rw [← toEven_nanoseconds_lt_iff h, ← hnanos]
      exact (Int.ofNat_lt (n := _) (m := UInt64.size * second)).symm
    simp only [Nanoseconds.ofSeconds?, hb, if_neg hnegative, hroom, and_iff_right hnonneg]
    rw [← hnanos, Int.toNat_natCast]

theorem Nanoseconds.ofSeconds?_eq_none_iff {x : Float} :
    Nanoseconds.ofSeconds? x = none ↔ ¬Spans x := by
  by_cases hfinite : x.isFinite = true
  · obtain ⟨r, hr⟩ := isFinite_iff.mp hfinite
    rw [Nanoseconds.ofSeconds?_of_means hr, Spans, hr.exists_real_iff]
    by_cases hbounds : 0 ≤ r ∧ r < (2 ^ 64 : ℕ)
    · rw [if_pos hbounds]
      exact iff_of_false (Option.some_ne_none _) (not_not_intro hbounds)
    · rw [if_neg hbounds]
      exact iff_of_true rfl hbounds
  · have hspecial := ofFloat?_special (Bool.not_eq_true _ ▸ hfinite)
    have hnone : Nanoseconds.ofSeconds? x = none := by simp only [Nanoseconds.ofSeconds?, hspecial]
    refine iff_of_true hnone ?_
    rintro ⟨r, hr, -⟩
    exact hfinite (isFinite_iff.mpr ⟨r, hr⟩)

/-- What a conversion gives is the duration. -/
theorem Nanoseconds.ofSeconds?_eq_some {x : Float} {d : Nanoseconds}
    (h : Nanoseconds.ofSeconds? x = some d) : Spans x ∧ Lasts x d := by
  have hspans : Spans x := by
    by_contra hnot
    rw [Nanoseconds.ofSeconds?_eq_none_iff.mpr hnot] at h
    cases h
  refine ⟨hspans, ?_⟩
  obtain ⟨r, hr, hbounds⟩ := hspans
  rw [Nanoseconds.ofSeconds?_of_means hr, if_pos hbounds] at h
  obtain rfl := Option.some.inj h
  have hnonneg : 0 ≤ toEven (r * 10 ^ 9) :=
    le_toEven (by exact_mod_cast mul_nonneg hbounds.1 (by norm_num))
  exact ⟨r, hr, Int.toNat_of_nonneg hnonneg⟩

end NetworkTuning
