import NetworkTuning.Proofs.Double.Value

/-!
# The bits behind a mantissa

An operation on doubles computes a mantissa and two bits for what follows it: whether the rest is at
least a half, and whether there is anything besides. `Represents` says which numbers such a triple
stands for, and halving keeps it (`Represents.shiftRightOne`), so that it survives any shift to the
last place of the number. There the two bits are just what rounding needs
(`Represents.roundedMantissa`).

**What is computed is `magnitude`** (`roundWithAccuracy_spec`): the result is in the canonical form,
and it stands for the nearest number with the sign it was given.
-/

open Float.Model Float.Model.UnpackedFloat

namespace NetworkTuning.Double

/-! ## Mantissas with a rest -/

/-- The mantissa is the whole part of a number, and the bits tell of the rest whether it is at least
a half, and whether it is neither nothing nor a half. -/
structure Represents (em : ExtendedMantissa) (y : ℝ) : Prop where
  floor : ⌊y⌋ = em.mantissa
  half : em.roundBit = true ↔ 1 / 2 ≤ Int.fract y
  rest : em.stickyBit = true ↔ Int.fract y ≠ 0 ∧ Int.fract y ≠ 1 / 2

theorem represents_natCast (m : ℕ) : Represents (.ofMantissaAndAccuracy m .exact) m := by
  refine ⟨Int.floor_natCast m, ?_, ?_⟩
  · rw [Int.fract_natCast]
    norm_num [ExtendedMantissa.ofMantissaAndAccuracy]
  · rw [Int.fract_natCast]
    norm_num [ExtendedMantissa.ofMantissaAndAccuracy]

namespace Represents

variable {em : ExtendedMantissa} {y : ℝ}

/-- The two bits decide the rounding of the mantissa. -/
theorem roundedMantissa (h : Represents em y) : (em.roundedMantissa : ℤ) = toEven y := by
  obtain ⟨m, half, rest⟩ := em
  obtain ⟨hfloor, hhalf, hrest⟩ := h
  unfold toEven
  rw [hfloor]
  cases half <;> cases rest <;>
    simp only [Bool.false_eq_true, false_iff, true_iff, not_le, not_and_or, not_not] at hhalf hrest
  case false.false => rw [if_pos hhalf]; rfl
  case false.true => rw [if_pos hhalf]; rfl
  case true.false =>
    have heq : Int.fract y = 1 / 2 := hrest.resolve_left (by linarith)
    rw [heq, if_neg (lt_irrefl _), if_neg (lt_irrefl _)]
    simp [ExtendedMantissa.roundedMantissa, ExtendedMantissa.accuracy, Accuracy.roundToNearestEven]
  case true.true =>
    have hlt : 1 / 2 < Int.fract y := lt_of_le_of_ne hhalf (Ne.symm hrest.2)
    rw [if_neg (not_lt.mpr hhalf), if_pos hlt]
    rfl

/-- Halving moves the last digit of the mantissa to the rest. -/
theorem half_eq (h : Represents em y) :
    ⌊y / 2⌋ = (em.mantissa / 2 : ℕ) ∧
      Int.fract (y / 2) = ((em.mantissa % 2 : ℕ) + Int.fract y) / 2 := by
  have hnonneg := Int.fract_nonneg y
  have hless := Int.fract_lt_one y
  have hy : (em.mantissa : ℝ) + Int.fract y = y := by
    have := Int.floor_add_fract y
    rw [h.floor] at this
    exact_mod_cast this
  have hm : (2 : ℝ) * (em.mantissa / 2 : ℕ) + (em.mantissa % 2 : ℕ) = em.mantissa := by
    exact_mod_cast Nat.div_add_mod em.mantissa 2
  have hdigit : ((em.mantissa % 2 : ℕ) : ℝ) ≤ 1 := by
    exact_mod_cast Nat.lt_succ_iff.mp (Nat.mod_lt em.mantissa two_pos)
  have hfloor : ⌊y / 2⌋ = (em.mantissa / 2 : ℕ) := by
    rw [Int.floor_eq_iff, Int.cast_natCast]
    have hzero : (0 : ℝ) ≤ (em.mantissa % 2 : ℕ) := Nat.cast_nonneg _
    constructor <;> linarith
  refine ⟨hfloor, ?_⟩
  rw [Int.fract, hfloor, Int.cast_natCast]
  linarith

/-- The two bits together say whether there is a rest. -/
theorem rest_iff (h : Represents em y) :
    (em.roundBit || em.stickyBit) = true ↔ Int.fract y ≠ 0 := by
  rw [Bool.or_eq_true, h.half, h.rest]
  constructor
  · rintro (h | ⟨h, -⟩)
    · exact (by linarith : 0 < Int.fract y).ne'
    · exact h
  · intro h
    by_cases heq : Int.fract y = 1 / 2
    · exact .inl heq.ge
    · exact .inr ⟨h, heq⟩

/-- Halving keeps what the triple stands for. -/
theorem shiftRightOne (h : Represents em y) : Represents em.shiftRightOne (y / 2) := by
  obtain ⟨hfloor, hfract⟩ := h.half_eq
  have hnonneg := Int.fract_nonneg y
  have hless := Int.fract_lt_one y
  have hlast := Nat.mod_two_eq_zero_or_one em.mantissa
  refine ⟨hfloor, ?_, h.rest_iff.trans ?_⟩
  · rw [hfract]
    rcases hlast with h | h <;> simp [ExtendedMantissa.shiftRightOne, h] <;> linarith
  · rw [hfract]
    rcases hlast with h | h <;> rw [h] <;> push_cast
    · constructor
      · intro hne
        exact ⟨fun h0 => hne (by linarith), fun h1 => by linarith⟩
      · rintro ⟨hne, -⟩ h0
        exact hne (by linarith)
    · constructor
      · intro hne
        exact ⟨fun h0 => by linarith, fun h1 => hne (by linarith)⟩
      · rintro ⟨-, hne⟩ h0
        exact hne (by linarith)

theorem shiftRight (h : Represents em y) (n : ℕ) : Represents (em >>> n) (y / 2 ^ n) := by
  show Represents (n.repeat ExtendedMantissa.shiftRightOne em) _
  induction n with
  | zero =>
    rw [pow_zero, div_one]
    exact h
  | succ n ih =>
    rw [pow_succ, ← div_div]
    exact ih.shiftRightOne

end Represents

/-! ## Shifting to the last place -/

variable {m : ℕ} {e : ℤ} {acc : Accuracy} {x : ℝ}

/-- A mantissa at an exponent stands for a number when it stands for the number in units of that
place. -/
structure At (m : ℕ) (e : ℤ) (acc : Accuracy) (x : ℝ) : Prop where
  represents : Represents (.ofMantissaAndAccuracy m acc) (x / 2 ^ e)

theorem At.shiftToExponent (h : At m e acc x) {q : ℤ} (hq : e ≤ q) :
    Represents (shiftToExponent m e acc q).1 (x / 2 ^ q) ∧ (shiftToExponent m e acc q).2 = q := by
  have hcast : ((q - e).toNat : ℤ) = q - e := Int.toNat_of_nonneg (by omega)
  refine ⟨?_, by simp only [UnpackedFloat.shiftToExponent, hcast]; omega⟩
  have hshift := h.represents.shiftRight (q - e).toNat
  rw [div_div, ← zpow_natCast, hcast, ← zpow_add₀ two_ne_zero, add_sub_cancel] at hshift
  exact hshift

theorem At.bounds (h : At m e acc x) : m * 2 ^ e ≤ x ∧ x < (m + 1) * 2 ^ e := by
  have hstep : (0 : ℝ) < 2 ^ e := by positivity
  have hfloor : ⌊x / 2 ^ e⌋ = (m : ℤ) := by
    rw [h.represents.floor]
    rcases acc with _ | (_ | _ | _) <;> rfl
  obtain ⟨hlow, hhigh⟩ := Int.floor_eq_iff.mp hfloor
  exact ⟨(le_div_iff₀ hstep).mp hlow, (div_lt_iff₀ hstep).mp hhigh⟩

/-- The place to which a mantissa is shifted. -/
def place (m : ℕ) (e : ℤ) : ℤ := Format.binary64.targetExponent (totalExponent m e)

theorem place_eq (m : ℕ) (e : ℤ) : place m e = max (m.log2 + e - 52) (-1074) := by
  show max ((m.log2 + 1 + e : ℤ) - 53) (-1074) = _
  congr 1
  omega

/-- A mantissa that reaches below the last place, or to it, tells where the last place is. -/
theorem At.place_eq_lastPlace (h : At m e acc x) (hx : 0 < x) (he : e ≤ place m e) :
    place m e = lastPlace x := by
  obtain ⟨hlow, hhigh⟩ := h.bounds
  rw [place_eq] at he ⊢
  unfold lastPlace
  rcases Nat.eq_zero_or_pos m with rfl | hm
  · -- without a digit the number is below the smallest place
    have hbelow : x < ((2 : ℕ) : ℝ) ^ e := by simpa using hhigh
    have hlog := (Int.lt_zpow_iff_log_lt one_lt_two hx).mp hbelow
    simp only [Nat.log2_zero] at he ⊢
    omega
  · have hlog : Int.log 2 x = m.log2 + e := by
      have hstep : (0 : ℝ) < 2 ^ e := by positivity
      have hdigits : ((2 : ℕ) : ℝ) ^ (m.log2 + e : ℤ) ≤ x := by
        refine le_trans ?_ hlow
        rw [zpow_add₀ (by norm_num), zpow_natCast]
        exact mul_le_mul_of_nonneg_right (by exact_mod_cast Nat.log2_self_le hm.ne') hstep.le
      have hmore : x < ((2 : ℕ) : ℝ) ^ (m.log2 + e + 1 : ℤ) := by
        refine hhigh.trans_le ?_
        rw [add_right_comm, zpow_add₀ (by norm_num)]
        exact mul_le_mul_of_nonneg_right (by exact_mod_cast Nat.lt_log2_self) hstep.le
      have h1 := (Int.zpow_le_iff_le_log one_lt_two hx).mp hdigits
      have h2 := (Int.lt_zpow_iff_log_lt one_lt_two hx).mp hmore
      omega
    rw [hlog]

/-! ## Rounding -/

/-- The mantissa of a rounded number has at most 53 digits or is the next power of two, and has that
many unless it is at the smallest place. -/
theorem toEven_bounds (hx : 0 < x) :
    toEven (x / 2 ^ lastPlace x) ≤ 2 ^ 53 ∧
      (2 ^ 52 ≤ toEven (x / 2 ^ lastPlace x) ∨ lastPlace x = -1074) := by
  have hstep : (0 : ℝ) < 2 ^ lastPlace x := by positivity
  have hone : (1 : ℝ) ≤ 2 := by norm_num
  have hlow := Int.zpow_log_le_self one_lt_two hx
  have hhigh := Int.lt_zpow_succ_log_self one_lt_two x
  rw [Nat.cast_ofNat] at hlow hhigh
  constructor
  · refine toEven_le ((div_le_iff₀ hstep).mpr (hhigh.le.trans ?_))
    have hexponent : (Int.log 2 x + 1 : ℤ) ≤ 53 + lastPlace x := by unfold lastPlace; omega
    calc (2 : ℝ) ^ (Int.log 2 x + 1) ≤ 2 ^ (53 + lastPlace x) := zpow_le_zpow_right₀ hone hexponent
      _ = ((2 ^ 53 : ℤ) : ℝ) * 2 ^ lastPlace x := by
        rw [zpow_add₀ two_ne_zero]
        norm_num
  · by_cases hsmall : lastPlace x = -1074
    · exact .inr hsmall
    · refine .inl (le_toEven ((le_div_iff₀ hstep).mpr (le_trans (le_of_eq ?_) hlow)))
      have hexponent : Int.log 2 x = 52 + lastPlace x := by unfold lastPlace at hsmall ⊢; omega
      rw [hexponent, zpow_add₀ two_ne_zero]
      norm_num

theorem shift_fits {r : ℕ} {q : ℤ} (hr : r < 2 ^ 53) (hq : -1074 ≤ q) :
    shiftToTargetExponent Format.binary64 r q .exact = (⟨r, false, false⟩, q) := by
  have hplace : place r q ≤ q := by
    have hlog : r.log2 < 53 := by
      rcases Nat.eq_zero_or_pos r with rfl | hpos
      · simp
      · exact (Nat.log2_lt hpos.ne').mpr hr
    rw [place_eq]
    omega
  have hnone : (place r q - q).toNat = 0 := by omega
  show shiftToExponent r q .exact (place r q) = _
  simp only [shiftToExponent, hnone]
  show (_, q + 0) = _
  rw [add_zero]
  rfl

/-- A carry beyond the 53rd digit leaves a power of two, which moves to the next place. -/
theorem shift_carry {q : ℤ} (hq : -1074 ≤ q) :
    shiftToTargetExponent Format.binary64 (2 ^ 53) q .exact = (⟨2 ^ 52, false, false⟩, q + 1) := by
  have hplace : place (2 ^ 53) q = q + 1 := by
    rw [place_eq, Nat.log2_two_pow]
    omega
  have hone : (place (2 ^ 53) q - q).toNat = 1 := by omega
  show shiftToExponent (2 ^ 53) q .exact (place (2 ^ 53) q) = _
  simp only [shiftToExponent, hone]
  rfl

/-- **What is computed is `magnitude`**, with the sign it is given and in the canonical form. -/
theorem roundWithAccuracy_spec (s : Sign) (h : At m e acc x) (hx : 0 < x) (he : e ≤ place m e) :
    Canonical (roundWithAccuracy Format.binary64 s m e acc) ∧
      value? (roundWithAccuracy Format.binary64 s m e acc) =
        some (signed s (magnitude x) : ℝ) := by
  obtain ⟨hrep, hq⟩ := h.shiftToExponent he
  have hrounded := hrep.roundedMantissa
  obtain ⟨hmost, hleast⟩ := toEven_bounds hx
  rw [h.place_eq_lastPlace hx he] at hrounded hq
  have hmin : -1074 ≤ lastPlace x := le_max_right _ _
  have hshift : shiftToTargetExponent Format.binary64 m e acc =
      shiftToExponent m e acc (place m e) := rfl
  unfold roundWithAccuracy magnitude
  simp only
  rw [hshift, h.place_eq_lastPlace hx he, hq]
  rw [← hrounded] at hmost hleast ⊢
  generalize (shiftToExponent m e acc (lastPlace x)).1.roundedMantissa = r at *
  rcases (show r < 2 ^ 53 ∨ r = 2 ^ 53 by omega) with hr | rfl
  · rw [shift_fits hr hmin]
    by_cases hzero : r = 0
    · subst hzero
      refine ⟨trivial, ?_⟩
      rw [dif_pos rfl, Int.cast_natCast, Nat.cast_zero, zero_mul]
      cases s <;> simp [value?, signed]
    · rw [dif_neg hzero]
      refine ⟨⟨hr, hmin, ?_⟩, by rw [Int.cast_natCast]; rfl⟩
      exact hleast.imp_left fun h => by exact_mod_cast h
  · rw [shift_carry hmin, dif_neg (by norm_num)]
    refine ⟨⟨by norm_num, by omega, .inl le_rfl⟩, ?_⟩
    have hcarry : (((2 ^ 52 : ℕ) : ℝ) * 2 ^ (lastPlace x + 1)) =
        ((2 ^ 53 : ℕ) : ℤ) * 2 ^ lastPlace x := by
      rw [zpow_add_one₀ two_ne_zero]
      push_cast
      ring
    rw [← hcarry]
    rfl

/-! ## Exact sizes -/

theorem decreaseExponent_eq (m : ℕ) (e t : ℤ) :
    decreaseExponent m e t = (m * 2 ^ (e - t).toNat, min e t) := by
  have hcast : ((e - t).toNat : ℤ) = max (e - t) 0 := Int.toNat_eq_max _
  simp only [decreaseExponent, Nat.shiftLeft_eq, hcast, Prod.mk.injEq, true_and]
  omega

/-- Decreasing the exponent leaves the size. -/
theorem decreased_size (m : ℕ) (e t : ℤ) :
    ((m * 2 ^ (e - t).toNat : ℕ) : ℝ) * 2 ^ min e t = m * 2 ^ e := by
  have hcast : ((e - t).toNat : ℤ) + min e t = e := by omega
  push_cast
  rw [mul_assoc, ← zpow_natCast, ← zpow_add₀ two_ne_zero, hcast]

theorem at_exact (m : ℕ) (e : ℤ) : At m e .exact (m * 2 ^ e) := by
  have hstep : (2 : ℝ) ^ e ≠ 0 := by positivity
  refine ⟨?_⟩
  rw [mul_div_cancel_right₀ _ hstep]
  exact represents_natCast m

theorem log2_mul_two_pow (hm : 0 < m) (k : ℕ) : (m * 2 ^ k).log2 = m.log2 + k := by
  rw [Nat.log2_eq_iff (by positivity)]
  constructor
  · rw [pow_add]
    exact Nat.mul_le_mul_right _ (Nat.log2_self_le hm.ne')
  · rw [add_right_comm, pow_add]
    exact Nat.mul_lt_mul_of_pos_right Nat.lt_log2_self (by positivity)

theorem round_spec (s : Sign) (hm : 0 < m) (e : ℤ) :
    Canonical (UnpackedFloat.round Format.binary64 s m e) ∧
      value? (UnpackedFloat.round Format.binary64 s m e) =
        some (signed s (magnitude (m * 2 ^ e)) : ℝ) := by
  have hround : UnpackedFloat.round Format.binary64 s m e =
      roundWithAccuracy Format.binary64 s (m * 2 ^ (e - place m e).toNat) (min e (place m e))
        .exact := by
    simp only [UnpackedFloat.round, decreaseExponent_eq, place]
  have hplace : min e (place m e) ≤ place (m * 2 ^ (e - place m e).toNat) (min e (place m e)) := by
    rw [place_eq (m * _), log2_mul_two_pow hm]
    have := place_eq m e
    omega
  have hat := at_exact (m * 2 ^ (e - place m e).toNat) (min e (place m e))
  rw [decreased_size] at hat
  rw [hround]
  exact roundWithAccuracy_spec s hat (size_pos hm e) hplace

/-- **Rounding a whole number of units is rounding on the reals.** -/
theorem normalize_spec (n e : ℤ) (zeroSign : Sign) :
    Canonical (UnpackedFloat.normalize Format.binary64 n e zeroSign) ∧
      value? (UnpackedFloat.normalize Format.binary64 n e zeroSign) =
        some (nearest (n * 2 ^ e) : ℝ) := by
  unfold UnpackedFloat.normalize
  rcases lt_trichotomy n 0 with hn | rfl | hn
  · have hnonneg : 0 ≤ -n := by omega
    have hcast : (((-n).toNat : ℕ) : ℝ) = -n := by exact_mod_cast Int.toNat_of_nonneg hnonneg
    have hround := round_spec .negative (show 0 < (-n).toNat by omega) e
    have hpos := (size_pos (show 0 < (-n).toNat by omega) e).le
    rw [compare_lt_iff_lt.mpr hn]
    rw [hcast] at hround hpos
    have hvalue : nearest (n * 2 ^ e) = signed .negative (magnitude (-n * 2 ^ e)) := by
      rw [← neg_neg (n * 2 ^ e : ℝ), nearest_neg, ← neg_mul, nearest_of_nonneg hpos]
      rfl
    rw [hvalue]
    exact hround
  · rw [compare_eq_iff_eq.mpr rfl, Int.cast_zero, zero_mul, nearest_zero]
    exact ⟨trivial, rfl⟩
  · have hcast : ((n.toNat : ℕ) : ℝ) = n := by exact_mod_cast Int.toNat_of_nonneg hn.le
    have hround := round_spec .positive (show 0 < n.toNat by omega) e
    have hpos := (size_pos (show 0 < n.toNat by omega) e).le
    rw [compare_gt_iff_gt.mpr hn]
    rw [hcast] at hround hpos
    rw [nearest_of_nonneg hpos]
    exact hround

end NetworkTuning.Double
