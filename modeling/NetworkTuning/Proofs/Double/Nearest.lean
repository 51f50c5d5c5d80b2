import Mathlib

/-!
# Rounding reals to doubles

Rounding is a function on the reals: `nearest x` lies on the grid whose step is the last place of a
double as large as `x`, and of two points equally near it takes the even one. Numbers beyond the
largest double have no double, so `bounded` turns them into infinities, and `rounded` does both.

**Rounding keeps the order** (`nearest_mono`, `rounded_mono`). Between two numbers of one size the
grid is the same. Between numbers of different sizes lies a power of two, which is on both grids,
and neither number is rounded past it. Rounding is odd (`nearest_neg`) and leaves what a double can
hold (`nearest_of_fits`).
-/

namespace NetworkTuning.Double

/-! ## Whole numbers -/

/-- The nearest whole number, of two equally near ones the even one. -/
noncomputable def toEven (y : ℝ) : ℤ :=
  if Int.fract y < 1 / 2 then ⌊y⌋
  else if 1 / 2 < Int.fract y then ⌊y⌋ + 1
  else ⌊y⌋ + ⌊y⌋ % 2

theorem floor_le_toEven (y : ℝ) : ⌊y⌋ ≤ toEven y := by
  unfold toEven
  split_ifs
  · exact le_refl _
  · omega
  · omega

theorem toEven_le_floor_succ (y : ℝ) : toEven y ≤ ⌊y⌋ + 1 := by
  unfold toEven
  split_ifs
  · omega
  · exact le_refl _
  · omega

theorem toEven_intCast (n : ℤ) : toEven n = n := by
  rw [toEven, Int.fract_intCast, Int.floor_intCast, if_pos (by norm_num)]

theorem toEven_mono : Monotone toEven := by
  intro y z hyz
  rcases (Int.floor_mono hyz).lt_or_eq with hlt | heq
  · calc toEven y ≤ ⌊y⌋ + 1 := toEven_le_floor_succ y
      _ ≤ ⌊z⌋ := hlt
      _ ≤ toEven z := floor_le_toEven z
  · -- between the same whole numbers, the one with the larger rest goes up if the other does
    have hfract : Int.fract y ≤ Int.fract z := by
      have hy := Int.floor_add_fract y
      have hz := Int.floor_add_fract z
      rw [heq] at hy
      linarith
    unfold toEven
    rw [heq]
    split_ifs <;> first | omega | linarith

theorem toEven_le {y : ℝ} {n : ℤ} (h : y ≤ n) : toEven y ≤ n :=
  (toEven_mono h).trans_eq (toEven_intCast n)

theorem le_toEven {y : ℝ} {n : ℤ} (h : n ≤ y) : n ≤ toEven y :=
  (toEven_intCast n).symm.trans_le (toEven_mono h)

/-- What is more than half rounds to something, and half a unit does not. -/
theorem toEven_pos_iff {y : ℝ} : 0 < toEven y ↔ 1 / 2 < y := by
  have hhalf : toEven (1 / 2) = 0 := by
    have hfloor : ⌊(1 / 2 : ℝ)⌋ = 0 := by norm_num
    have hfract : Int.fract (1 / 2 : ℝ) = 1 / 2 := by
      rw [Int.fract, hfloor, Int.cast_zero, sub_zero]
    rw [toEven, hfract, hfloor, if_neg (lt_irrefl _), if_neg (lt_irrefl _)]
    rfl
  constructor
  · intro hpos
    by_contra hsmall
    exact absurd (hhalf ▸ toEven_mono (not_lt.mp hsmall)) (not_le.mpr hpos)
  · intro hlarge
    rcases le_or_gt 1 y with hone | hone
    · exact lt_of_lt_of_le one_pos (le_toEven (by exact_mod_cast hone))
    · have hfloor : ⌊y⌋ = 0 := Int.floor_eq_zero_iff.mpr ⟨by linarith, hone⟩
      have hfract : Int.fract y = y := by rw [Int.fract, hfloor, Int.cast_zero, sub_zero]
      rw [toEven, hfract, hfloor, if_neg (not_lt.mpr hlarge.le), if_pos hlarge]
      exact one_pos

/-! ## Positive numbers -/

/-- The size that a mantissa has at an exponent. -/
noncomputable abbrev size (m : ℕ) (e : ℤ) : ℝ := m * 2 ^ e

/-- The exponent of the last place of a double as large as `x`. -/
noncomputable def lastPlace (x : ℝ) : ℤ := max (Int.log 2 x - 52) (-1074)

/-- The nearest point to a number that is not negative, on the grid of its last place. -/
noncomputable def magnitude (x : ℝ) : ℝ := toEven (x / 2 ^ lastPlace x) * 2 ^ lastPlace x

theorem lastPlace_mono {x y : ℝ} (hx : 0 < x) (hxy : x ≤ y) : lastPlace x ≤ lastPlace y :=
  max_le_max_right _ (Int.sub_le_sub_right (Int.log_mono_right hx hxy) _)

/-- Rounding does not pass a point of the grid from below. -/
theorem magnitude_le {x : ℝ} {n : ℤ} (h : x ≤ n * 2 ^ lastPlace x) :
    magnitude x ≤ n * 2 ^ lastPlace x := by
  have hstep : (0 : ℝ) < 2 ^ lastPlace x := by positivity
  have hquotient : x / 2 ^ lastPlace x ≤ n := (div_le_iff₀ hstep).mpr h
  exact mul_le_mul_of_nonneg_right (by exact_mod_cast toEven_le hquotient) hstep.le

/-- Rounding does not pass a point of the grid from above. -/
theorem le_magnitude {x : ℝ} {n : ℤ} (h : n * 2 ^ lastPlace x ≤ x) :
    n * 2 ^ lastPlace x ≤ magnitude x := by
  have hstep : (0 : ℝ) < 2 ^ lastPlace x := by positivity
  have hquotient : n ≤ x / 2 ^ lastPlace x := (le_div_iff₀ hstep).mpr h
  exact mul_le_mul_of_nonneg_right (by exact_mod_cast le_toEven hquotient) hstep.le

theorem magnitude_nonneg {x : ℝ} (hx : 0 ≤ x) : 0 ≤ magnitude x := by
  simpa using le_magnitude (x := x) (n := 0) (by simpa using hx)

theorem magnitude_zero : magnitude 0 = 0 := by
  have h := toEven_intCast 0
  rw [Int.cast_zero] at h
  rw [magnitude, zero_div, h, Int.cast_zero, zero_mul]

/-- A power of two with an exponent from the last place on is a point of the grid. -/
theorem zpow_on_grid {q k : ℤ} (h : q ≤ k) : ∃ n : ℤ, (2 : ℝ) ^ k = n * 2 ^ q := by
  obtain ⟨d, rfl⟩ := Int.le.dest h
  refine ⟨2 ^ d, ?_⟩
  rw [zpow_add₀ two_ne_zero, zpow_natCast, mul_comm]
  push_cast
  rfl

theorem magnitude_mono {x y : ℝ} (hx : 0 ≤ x) (hxy : x ≤ y) : magnitude x ≤ magnitude y := by
  rcases hx.eq_or_lt with rfl | hpos
  · rw [magnitude_zero]
    exact magnitude_nonneg hxy
  · rcases (lastPlace_mono hpos hxy).eq_or_lt with heq | hlt
    · unfold magnitude
      rw [heq]
      have hstep : (0 : ℝ) < 2 ^ lastPlace y := by positivity
      refine mul_le_mul_of_nonneg_right ?_ hstep.le
      exact_mod_cast toEven_mono (div_le_div_of_nonneg_right hxy hstep.le)
    · -- the power of two at which the size of `y` begins parts the two numbers
      have hlog : Int.log 2 x < Int.log 2 y := by unfold lastPlace at hlt; omega
      have hplace : lastPlace y = Int.log 2 y - 52 := by unfold lastPlace at hlt ⊢; omega
      have hbelow : x ≤ 2 ^ Int.log 2 y :=
        ((Int.lt_zpow_iff_log_lt one_lt_two hpos).mpr hlog).le
      have habove : 2 ^ Int.log 2 y ≤ y :=
        Int.zpow_log_le_self one_lt_two (hpos.trans_le hxy)
      obtain ⟨n, hn⟩ := zpow_on_grid (show lastPlace x ≤ Int.log 2 y by omega)
      obtain ⟨l, hl⟩ := zpow_on_grid (show lastPlace y ≤ Int.log 2 y by omega)
      calc magnitude x ≤ n * 2 ^ lastPlace x := magnitude_le (hbelow.trans_eq hn)
        _ = l * 2 ^ lastPlace y := hn.symm.trans hl
        _ ≤ magnitude y := le_magnitude (hl.symm.trans_le habove)

/-- What has at most 53 digits, the last of them not below the smallest place, stays as it is. -/
theorem magnitude_of_fits {m : ℕ} {e : ℤ} (hm : m < 2 ^ 53) (he : -1074 ≤ e) :
    magnitude (m * 2 ^ e) = m * 2 ^ e := by
  rcases Nat.eq_zero_or_pos m with rfl | hpos
  · rw [Nat.cast_zero, zero_mul, magnitude_zero]
  · have hx : (0 : ℝ) < m * 2 ^ e := by positivity
    have hsize : (m : ℝ) * 2 ^ e < 2 ^ (e + 53) := by
      rw [zpow_add₀ two_ne_zero, mul_comm]
      exact mul_lt_mul_of_pos_left (by exact_mod_cast hm) (by positivity)
    have hlog := (Int.lt_zpow_iff_log_lt one_lt_two hx).mp hsize
    have hplace : lastPlace (m * 2 ^ e) ≤ e := by unfold lastPlace; omega
    obtain ⟨n, hn⟩ := zpow_on_grid hplace
    have hgrid : (m : ℝ) * 2 ^ e = ((m * n : ℤ) : ℝ) * 2 ^ lastPlace (m * 2 ^ e) := by
      push_cast
      rw [mul_assoc, ← hn]
    exact le_antisymm ((magnitude_le hgrid.le).trans_eq hgrid.symm)
      (hgrid.trans_le (le_magnitude hgrid.ge))

/-! ## All numbers -/

/-- The nearest point to a number, rounded by its size. -/
noncomputable def nearest (x : ℝ) : ℝ := if 0 ≤ x then magnitude x else -magnitude (-x)

theorem nearest_of_nonneg {x : ℝ} (hx : 0 ≤ x) : nearest x = magnitude x := if_pos hx

theorem nearest_zero : nearest 0 = 0 := (nearest_of_nonneg le_rfl).trans magnitude_zero

theorem nearest_neg (x : ℝ) : nearest (-x) = -nearest x := by
  unfold nearest
  rcases lt_trichotomy x 0 with hx | rfl | hx
  · rw [if_pos (by linarith), if_neg (by linarith), neg_neg]
  · simp only [neg_zero, le_refl, if_true, magnitude_zero]
  · rw [if_neg (by linarith), if_pos hx.le, neg_neg]

theorem nearest_nonneg {x : ℝ} (hx : 0 ≤ x) : 0 ≤ nearest x :=
  (nearest_of_nonneg hx).symm ▸ magnitude_nonneg hx

/-- **Rounding keeps the order.** -/
theorem nearest_mono : Monotone nearest := by
  intro x y hxy
  rcases le_or_gt 0 x with hx | hx
  · rw [nearest_of_nonneg hx, nearest_of_nonneg (hx.trans hxy)]
    exact magnitude_mono hx hxy
  · rcases le_or_gt 0 y with hy | hy
    · have hneg := nearest_nonneg (neg_nonneg.mpr hx.le)
      rw [nearest_neg] at hneg
      linarith [nearest_nonneg hy]
    · rw [nearest, nearest, if_neg (not_le.mpr hx), if_neg (not_le.mpr hy)]
      exact neg_le_neg (magnitude_mono (by linarith) (by linarith))

theorem nearest_of_fits {m : ℕ} {e : ℤ} (hm : m < 2 ^ 53) (he : -1074 ≤ e) :
    nearest (m * 2 ^ e) = m * 2 ^ e :=
  (nearest_of_nonneg (by positivity)).trans (magnitude_of_fits hm he)

/-! ## Beyond the largest double -/

/-- The first number that is too large for a double. -/
noncomputable def limit : ℝ := 2 ^ (1024 : ℤ)

theorem limit_pos : 0 < limit := by
  unfold limit
  positivity

/-- What lies beyond the largest double counts as infinite. -/
noncomputable def bounded (r : ℝ) : EReal :=
  if limit ≤ r then ⊤ else if r ≤ -limit then ⊥ else r

/-- What a double makes of a real number. -/
noncomputable def rounded (x : ℝ) : EReal := bounded (nearest x)

theorem bounded_of_lt {r : ℝ} (h : |r| < limit) : bounded r = r := by
  obtain ⟨hlow, hhigh⟩ := abs_lt.mp h
  rw [bounded, if_neg (not_le.mpr hhigh), if_neg (not_le.mpr hlow)]

theorem bounded_of_ge {r : ℝ} (h : limit ≤ r) : bounded r = ⊤ := if_pos h

theorem bounded_mono : Monotone bounded := by
  intro x y hxy
  unfold bounded
  split_ifs
  · exact le_refl _
  · linarith
  · linarith
  · exact le_top
  · exact le_refl _
  · exact bot_le
  · exact le_top
  · linarith
  · exact_mod_cast hxy

theorem bounded_neg (x : ℝ) : bounded (-x) = -bounded x := by
  have hlimit := limit_pos
  unfold bounded
  split_ifs <;> first | rfl | (exfalso; linarith)

theorem rounded_mono : Monotone rounded := bounded_mono.comp nearest_mono

theorem rounded_neg (x : ℝ) : rounded (-x) = -rounded x := by
  rw [rounded, nearest_neg, bounded_neg, rounded]

end NetworkTuning.Double
