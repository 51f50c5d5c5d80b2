import NetworkTuning.Proofs.Double.Arithmetic

/-!
# Small, large and infinite doubles

`UpTo x k` bounds a double by a power of two from above and by zero from below; products and sums
keep within such bounds (`UpTo.mul`, `UpTo.add`). Next to the largest double what is far below its
last place is lost, so no sum with a small double is infinite unless the other part is
(`Means.add_small`). An infinity stays what it is whatever real is added, and has no difference from
itself.
-/

open Float.Model Float.Model.UnpackedFloat

namespace NetworkTuning.Double

/-! ## Small doubles -/

/-- The double stands for a real between zero and a power of two. -/
def UpTo (x : Float) (k : ℕ) : Prop := ∃ r : ℝ, Means x r ∧ 0 ≤ r ∧ r ≤ (2 ^ k : ℕ)

theorem nearest_two_pow (k : ℕ) : nearest (2 ^ k : ℕ) = (2 ^ k : ℕ) := by
  have h := nearest_of_fits (m := 1) (e := k) (by norm_num) (by omega)
  rwa [Nat.cast_one, one_mul, zpow_natCast, ← Nat.cast_ofNat, ← Nat.cast_pow] at h

/-- Rounding does not leave the bounds. -/
theorem rounded_upTo {a : ℝ} {k : ℕ} (nonneg : 0 ≤ a) (small : a ≤ (2 ^ k : ℕ))
    (fits : k < 1024) : ∃ r : ℝ, rounded a = r ∧ 0 ≤ r ∧ r ≤ (2 ^ k : ℕ) := by
  have hnonneg := nearest_nonneg nonneg
  have hsmall : nearest a ≤ (2 ^ k : ℕ) := (nearest_mono small).trans_eq (nearest_two_pow k)
  have hlimit : ((2 ^ k : ℕ) : ℝ) < limit := by
    rw [limit, Nat.cast_pow, Nat.cast_ofNat, ← zpow_natCast]
    exact zpow_lt_zpow_right₀ one_lt_two (by exact_mod_cast fits)
  refine ⟨nearest a, bounded_of_lt ?_, hnonneg, hsmall⟩
  rw [abs_of_nonneg hnonneg]
  exact hsmall.trans_lt hlimit

namespace UpTo

variable {x y : Float} {k l : ℕ}

theorem mono (hx : UpTo x k) (h : k ≤ l) : UpTo x l := by
  obtain ⟨r, hr, h0, hk⟩ := hx
  exact ⟨r, hr, h0, hk.trans (Nat.cast_le.mpr (Nat.pow_le_pow_right two_pos h))⟩

theorem mul (hx : UpTo x k) (hy : UpTo y l) (fits : k + l < 1024) : UpTo (x * y) (k + l) := by
  obtain ⟨a, ha, ha0, hak⟩ := hx
  obtain ⟨b, hb, hb0, hbl⟩ := hy
  have hproduct : a * b ≤ (2 ^ (k + l) : ℕ) := by
    rw [pow_add, Nat.cast_mul]
    exact mul_le_mul hak hbl hb0 (Nat.cast_nonneg _)
  obtain ⟨r, hr, hr0, hrk⟩ := rounded_upTo (mul_nonneg ha0 hb0) hproduct fits
  exact ⟨r, hr ▸ ha.mul hb, hr0, hrk⟩

theorem add (hx : UpTo x k) (hy : UpTo y k) (fits : k + 1 < 1024) : UpTo (x + y) (k + 1) := by
  obtain ⟨a, ha, ha0, hak⟩ := hx
  obtain ⟨b, hb, hb0, hbk⟩ := hy
  have hsum : a + b ≤ (2 ^ (k + 1) : ℕ) := by
    rw [pow_succ, mul_two, Nat.cast_add]
    exact add_le_add hak hbk
  obtain ⟨r, hr, hr0, hrk⟩ := rounded_upTo (add_nonneg ha0 hb0) hsum fits
  exact ⟨r, hr ▸ ha.add hb, hr0, hrk⟩

end UpTo

theorem upTo_toFloat (n : UInt64) : UpTo n.toFloat 64 := by
  have hword : (n.toNat : ℝ) ≤ (2 ^ 64 : ℕ) := Nat.cast_le.mpr n.toNat_lt.le
  refine ⟨_, means_toFloat n, nearest_nonneg (Nat.cast_nonneg _), ?_⟩
  exact (nearest_mono hword).trans_eq (nearest_two_pow 64)

/-- What lies between reals is a real. -/
theorem exists_real_of_between {a b : ℝ} {c : EReal} (least : a ≤ c) (most : c ≤ b) :
    ∃ q : ℝ, c = q ∧ a ≤ q ∧ q ≤ b := by
  induction c with
  | top => exact absurd most (not_le.mpr (EReal.coe_lt_top b))
  | bot => exact absurd least (not_le.mpr (EReal.bot_lt_coe a))
  | coe q => exact ⟨q, rfl, EReal.coe_le_coe_iff.mp least, EReal.coe_le_coe_iff.mp most⟩

theorem real_of_between {x y : Float} {r : ℝ} (nonneg : 0.0 ≤ x) (hy : Means y r) (below : x ≤ y) :
    ∃ a : ℝ, Means x a ∧ 0 ≤ a ∧ a ≤ r := by
  obtain ⟨c, hc, hc0⟩ := nonneg_iff_exists.mp nonneg
  obtain ⟨a, rfl, ha0, har⟩ := exists_real_of_between hc0 ((hc.le_iff hy).mp below)
  exact ⟨a, hc, ha0, har⟩

theorem upTo_of_le_one {x : Float} (nonneg : 0.0 ≤ x) (share : x ≤ 1.0) : UpTo x 0 := by
  obtain ⟨a, ha, ha0, ha1⟩ := real_of_between nonneg means_one share
  exact ⟨a, ha, ha0, by rwa [pow_zero, Nat.cast_one]⟩

theorem upTo_one : UpTo 1.0 0 := ⟨1, means_one, zero_le_one, by norm_num⟩

/-! ## Large doubles -/

/-- The largest real that a double stands for. -/
noncomputable def largest : ℝ := size (2 ^ 53 - 1) 971

theorem Means.abs_le_largest {x : Float} {a : ℝ} (hx : Means x a) : |a| ≤ largest := by
  rcases real_cases hx with ⟨s, -, rfl⟩ | ⟨s, m, e, p, h, rfl⟩
  · rw [abs_zero, largest]
    positivity
  · obtain ⟨canonical, hexponent⟩ := unpack_canonical x.toModel.toBits.toBitVec
    change Canonical x.toModel.unpack at canonical
    change ∀ s m e p, x.toModel.unpack = _ → _ at hexponent
    rw [h] at canonical
    have hm : m ≤ 2 ^ 53 - 1 := Nat.le_sub_one_of_lt canonical.1
    rw [abs_signed (size_pos p e).le, largest]
    have he : (2 : ℝ) ^ e ≤ 2 ^ (971 : ℤ) :=
      zpow_le_zpow_right₀ one_le_two (hexponent s m e p h)
    exact mul_le_mul (by exact_mod_cast hm) he (by positivity) (Nat.cast_nonneg _)

/-- Below a power of two, the nearest that a double comes to it is a last place away. -/
theorem Means.le_of_lt_two_pow {x : Float} {a : ℝ} (hx : Means x a) {k : ℤ} (hk : -1074 ≤ k)
    (ha : a < 2 ^ (53 + k)) : a ≤ size (2 ^ 53 - 1) k := by
  rcases real_cases hx with ⟨s, -, rfl⟩ | ⟨s, m, e, p, h, rfl⟩
  · positivity
  · obtain ⟨hm, -, hnormal⟩ : Canonical (.finite s m e p) := h ▸ canonical_toModel x
    cases s with
    | negative =>
      have hnegative := (size_pos p e).le
      exact (neg_nonpos.mpr hnegative).trans (by positivity)
    | positive =>
      have he : e ≤ k := by
        by_contra hlarge
        refine absurd ha (not_lt.mpr ?_)
        have hfull : 2 ^ 52 ≤ m := hnormal.resolve_right (by omega)
        calc (2 : ℝ) ^ (53 + k) = (2 ^ 52 : ℕ) * 2 ^ (k + 1) := by
              rw [Nat.cast_pow, Nat.cast_ofNat, ← zpow_natCast, ← zpow_add₀ two_ne_zero]
              congr 1
              push_cast
              ring
          _ ≤ m * 2 ^ e := mul_le_mul (by exact_mod_cast hfull)
              (zpow_le_zpow_right₀ one_le_two (by omega)) (by positivity) (Nat.cast_nonneg _)
      have hm : m ≤ 2 ^ 53 - 1 := Nat.le_sub_one_of_lt hm
      exact mul_le_mul (by exact_mod_cast hm) (zpow_le_zpow_right₀ one_le_two he)
        (by positivity) (Nat.cast_nonneg _)

/-- What is far below the last place of the largest double is lost. -/
theorem rounded_largest : rounded ((2 ^ 67 : ℕ) + largest) = largest := by
  have hsmall : Means (Float.ofBits 0x4420000000000000) ((2 ^ 67 : ℕ) : ℝ) := by
    have h : (Float.ofBits 0x4420000000000000).toModel.unpack =
        .finite .positive (2 ^ 52) 15 (by decide) := by rfl
    have hpower : size (2 ^ 52) 15 = ((2 ^ 67 : ℕ) : ℝ) := by norm_num
    rw [Means, h, ← hpower]
    rfl
  have hlargest : Means (Float.ofBits 0x7FEFFFFFFFFFFFFF) largest := by
    have h : (Float.ofBits 0x7FEFFFFFFFFFFFFF).toModel.unpack =
        .finite .positive (2 ^ 53 - 1) 971 (by decide) := by rfl
    rw [Means, h]
    rfl
  have hsum := hsmall.add hlargest
  have hlost : Float.ofBits 0x4420000000000000 + Float.ofBits 0x7FEFFFFFFFFFFFFF =
      Float.ofBits 0x7FEFFFFFFFFFFFFF := by decide +kernel
  rw [hlost] at hsum
  exact hsum.unique hlargest

/-- No sum with a small double is infinite unless the other part is. -/
theorem Means.add_small {x y : Float} {b : ℝ} (hx : UpTo x 67) (hy : Means y b) :
    ∃ r : ℝ, Means (x + y) r := by
  obtain ⟨a, ha, ha0, hak⟩ := hx
  obtain ⟨hlow, hhigh⟩ := abs_le.mp hy.abs_le_largest
  have hup : rounded (a + b) ≤ largest :=
    (rounded_mono (add_le_add hak hhigh)).trans_eq rounded_largest
  have hdown : -((2 ^ 67 : ℕ) + largest) ≤ a + b := by
    have hpower : (0 : ℝ) ≤ (2 ^ 67 : ℕ) := Nat.cast_nonneg _
    linarith
  have hdown := rounded_mono hdown
  rw [rounded_neg, rounded_largest, ← EReal.coe_neg] at hdown
  obtain ⟨r, hr, -, -⟩ := exists_real_of_between hdown hup
  exact ⟨r, hr ▸ ha.add hy⟩

/-! ## Infinite doubles -/

namespace Means

variable {x y : Float} {a : ℝ} {b : EReal}

/-- An infinity is left as it is by adding what is not the other one. -/
theorem top_add (hx : Means x ⊤) (hy : Means y b) (other : b ≠ ⊥) : Means (x + y) ⊤ := by
  show value? (Float.Model.pack (UnpackedFloat.add Format.binary64 _ _)).unpack = _
  rw [value?_eq_top hx]
  induction b with
  | bot => exact absurd rfl other
  | top =>
    rw [value?_eq_top hy]
    exact congrArg value? (unpack_pack_infinity .positive)
  | coe r =>
    rcases real_cases hy with ⟨s, h, -⟩ | ⟨s, m, e, p, h, -⟩ <;> rw [h] <;>
      exact congrArg value? (unpack_pack_infinity .positive)

theorem add_top (hx : Means x a) (hy : Means y ⊤) : Means (x + y) ⊤ := by
  show value? (Float.Model.pack (UnpackedFloat.add Format.binary64 _ _)).unpack = _
  rw [value?_eq_top hy]
  rcases real_cases hx with ⟨s, h, -⟩ | ⟨s, m, e, p, h, -⟩ <;> rw [h] <;>
    exact congrArg value? (unpack_pack_infinity .positive)

theorem add_bot (hx : Means x a) (hy : Means y ⊥) : Means (x + y) ⊥ := by
  show value? (Float.Model.pack (UnpackedFloat.add Format.binary64 _ _)).unpack = _
  rw [value?_eq_bot hy]
  rcases real_cases hx with ⟨s, h, -⟩ | ⟨s, m, e, p, h, -⟩ <;> rw [h] <;>
    exact congrArg value? (unpack_pack_infinity .negative)

theorem add_nan (hx : Means x a) (hy : y.toModel.unpack = .notANumber) :
    (x + y).toModel.unpack = .notANumber := by
  show (Float.Model.pack (UnpackedFloat.add Format.binary64 _ _)).unpack = _
  rw [hy]
  rcases real_cases hx with ⟨s, h, -⟩ | ⟨s, m, e, p, h, -⟩ <;> rw [h] <;> exact unpack_pack_nan

theorem top_mul_top (hx : Means x ⊤) (hy : Means y ⊤) : Means (x * y) ⊤ := by
  show value? (Float.Model.pack (UnpackedFloat.mul Format.binary64 _ _)).unpack = _
  rw [value?_eq_top hx, value?_eq_top hy]
  exact congrArg value? (unpack_pack_infinity .positive)

/-- An infinity is left as it is by multiplying it with what is positive. -/
theorem mul_top (hx : Means x a) (positive : 0 < a) (hy : Means y ⊤) :
    Means (x * y) ⊤ ∧ Means (y * x) ⊤ := by
  rcases real_cases hx with ⟨s, -, rfl⟩ | ⟨s, m, e, p, h, rfl⟩
  · exact absurd positive (lt_irrefl _)
  · cases s with
    | negative => exact absurd positive (not_lt.mpr (neg_nonpos.mpr (size_pos p e).le))
    | positive =>
      constructor
      · show value? (Float.Model.pack (UnpackedFloat.mul Format.binary64 _ _)).unpack = _
        rw [h, value?_eq_top hy]
        exact congrArg value? (unpack_pack_infinity .positive)
      · show value? (Float.Model.pack (UnpackedFloat.mul Format.binary64 _ _)).unpack = _
        rw [h, value?_eq_top hy]
        exact congrArg value? (unpack_pack_infinity .positive)

/-- An infinity has no difference from itself. -/
theorem not_sub_self {s : Sign} {c : EReal} (hx : x.toModel.unpack = .infinity s)
    (hy : y.toModel.unpack = .infinity s) : ¬Means (x - y) c := by
  have hsub : UnpackedFloat.sub Format.binary64 (.infinity s) (.infinity s) = .notANumber := by
    cases s <;> rfl
  show ¬value? (Float.Model.pack (UnpackedFloat.sub Format.binary64 _ _)).unpack = _
  rw [hx, hy, hsub, unpack_pack_nan]
  nofun

/-- A real has none but zero. -/
theorem self_sub (hx : Means x a) : Means (x - x) (0 : ℝ) := by
  have h := hx.sub hx
  rwa [sub_self, means_zero.rounded_eq] at h

end Means

/-- The double is a number from one on, or infinite. -/
def AtLeastOne (x : Float) : Prop := ∃ a : EReal, Means x a ∧ 1 ≤ a

namespace AtLeastOne

variable {x y : Float}

theorem cases (hx : AtLeastOne x) : Means x ⊤ ∨ ∃ a : ℝ, Means x a ∧ 1 ≤ a := by
  obtain ⟨a, ha, h1⟩ := hx
  induction a with
  | top => exact .inl ha
  | bot => exact absurd h1 (not_le.mpr (EReal.bot_lt_coe 1))
  | coe a => exact .inr ⟨a, ha, by exact_mod_cast h1⟩

theorem mul (hx : AtLeastOne x) (hy : AtLeastOne y) : AtLeastOne (x * y) := by
  rcases hx.cases with hx | ⟨a, ha, ha1⟩ <;> rcases hy.cases with hy | ⟨b, hb, hb1⟩
  · exact ⟨⊤, hx.top_mul_top hy, le_top⟩
  · exact ⟨⊤, (hb.mul_top (one_pos.trans_le hb1) hx).2, le_top⟩
  · exact ⟨⊤, (ha.mul_top (one_pos.trans_le ha1) hy).1, le_top⟩
  · refine ⟨_, ha.mul hb, ?_⟩
    rw [← EReal.coe_one, ← means_one.rounded_eq]
    exact rounded_mono (one_le_mul_of_one_le_of_one_le ha1 hb1)

end AtLeastOne

/-! ## Distances -/

theorem Means.abs_self_sub {x : Float} {r : ℝ} (hx : Means x r) : Means (x - x).abs (0 : ℝ) := by
  have h := hx.self_sub.abs
  rwa [← EReal.coe_neg, neg_zero, max_self] at h

/-- The distance of a real from itself is below exactly the positive tolerances. -/
theorem abs_self_sub_lt_iff {x : Float} {r : ℝ} (hx : Means x r) (tolerance : Float) :
    (x - x).abs < tolerance ↔ 0.0 < tolerance := by
  rcases means_or_nan tolerance with ⟨c, hc⟩ | hnan
  · rw [hx.abs_self_sub.lt_iff hc, means_zero.lt_iff hc]
  · rw [lt_iff_unpack, lt_iff_unpack, UnpackedFloat.lt, UnpackedFloat.lt, hnan, compare_nan,
      compare_nan]

/-- It lies within exactly those that are not negative. -/
theorem abs_self_sub_le_iff {x : Float} {r : ℝ} (hx : Means x r) (tolerance : Float) :
    (x - x).abs ≤ tolerance ↔ 0.0 ≤ tolerance := by
  rcases means_or_nan tolerance with ⟨c, hc⟩ | hnan
  · rw [hx.abs_self_sub.le_iff hc, means_zero.le_iff hc]
  · rw [le_iff_unpack, le_iff_unpack, UnpackedFloat.le, UnpackedFloat.le, hnan, compare_nan,
      compare_nan]

/-- No distance lies within a tolerance that is negative or no number. -/
theorem nonneg_of_abs_le {x tolerance : Float} (within : x.abs ≤ tolerance) : 0.0 ≤ tolerance := by
  obtain ⟨c, b, hc, hb, hcb⟩ := means_of_le within
  obtain ⟨d, hd⟩ := means_of_abs hc
  refine nonneg_iff_exists.mpr ⟨b, hb, le_trans ?_ hcb⟩
  rw [hc.unique hd.abs]
  rcases le_total 0 d with h | h
  · exact le_max_of_le_left h
  · exact le_max_of_le_right (EReal.neg_nonneg.mpr h)

end NetworkTuning.Double
