import NetworkTuning.Proofs.Double.Rounding

/-!
# Arithmetic on doubles

`Means x a` says that the double `x` stands for `a`, a real number or an infinity. Comparing doubles
compares what they stand for (`Means.le_iff`, `Means.lt_iff`, `Means.beq_iff`), and only numbers
compare at all. An operation on doubles that stand for reals stands for the rounded result of the
operation on the reals (`Means.add`, `Means.sub`, `Means.mul`), so that the order of results follows
from the order on the reals and `rounded_mono`.
-/

open Float.Model Float.Model.UnpackedFloat

namespace NetworkTuning.Double

/-- The double stands for the number. -/
def Means (x : Float) (a : EReal) : Prop := value? x.toModel.unpack = some a

/-! ## Unpacked doubles -/

theorem signed_neg (s : Sign) (r : ℝ) : signed (-s) r = -signed s r := by
  cases s with
  | positive => rfl
  | negative => exact (neg_neg r).symm

theorem apply_mul (s : Sign) (n : ℕ) (q : ℝ) : ((s.apply n : ℤ) : ℝ) * q = signed s (n * q) := by
  cases s with
  | positive => simp [Sign.apply, signed]
  | negative => simp [Sign.apply, signed]

/-- What bits hold needs no rounding. -/
theorem nearest_of_canonical {u : UnpackedFloat} (canonical : Canonical u) {r : ℝ}
    (h : value? u = some (r : EReal)) : nearest r = r := by
  rcases real_cases h with ⟨s, rfl, rfl⟩ | ⟨s, m, e, p, rfl, rfl⟩
  · exact nearest_zero
  · have hfits := nearest_of_fits canonical.1 canonical.2.1
    cases s with
    | positive => exact hfits
    | negative => rw [signed, nearest_neg, hfits]

/-- What is written in the canonical form and stands for a real stands in bits for the same, or is
out of bounds. -/
theorem value?_pack {u : UnpackedFloat} (canonical : Canonical u) {r : ℝ}
    (h : value? u = some (r : EReal)) :
    value? (Float.Model.pack u).unpack = some (bounded r) := by
  rcases real_cases h with ⟨s, rfl, rfl⟩ | ⟨s, m, e, p, rfl, rfl⟩
  · rw [unpack_pack_zero, bounded_of_lt (by rw [abs_zero]; exact limit_pos)]
    rfl
  · exact value?_pack_finite canonical

/-- Sums of reals are computed and then rounded. -/
theorem add_spec {a b : UnpackedFloat} (ca : Canonical a) (cb : Canonical b) {x y : ℝ}
    (hx : value? a = some (x : EReal)) (hy : value? b = some (y : EReal)) :
    Canonical (UnpackedFloat.add Format.binary64 a b) ∧
      value? (UnpackedFloat.add Format.binary64 a b) = some (nearest (x + y) : ℝ) := by
  have hnx := nearest_of_canonical ca hx
  have hny := nearest_of_canonical cb hy
  rcases real_cases hx with ⟨s₁, rfl, rfl⟩ | ⟨s₁, m₁, e₁, p₁, rfl, rfl⟩
  · rcases real_cases hy with ⟨s₂, rfl, rfl⟩ | ⟨s₂, m₂, e₂, p₂, rfl, rfl⟩
    · rw [add_zero, hnx, UnpackedFloat.add]
      split
      · exact ⟨trivial, rfl⟩
      · exact ⟨trivial, rfl⟩
    · rw [zero_add, hny]
      exact ⟨cb, hy⟩
  · rcases real_cases hy with ⟨s₂, rfl, rfl⟩ | ⟨s₂, m₂, e₂, p₂, rfl, rfl⟩
    · rw [add_zero, hnx]
      exact ⟨ca, hx⟩
    · have h₁ := decreased_size m₁ e₁ (min e₁ e₂)
      have h₂ := decreased_size m₂ e₂ (min e₁ e₂)
      rw [min_eq_right (min_le_left _ _)] at h₁
      rw [min_eq_right (min_le_right _ _)] at h₂
      simp only [UnpackedFloat.add, decreaseExponent_eq]
      rw [← h₁, ← h₂, ← apply_mul, ← apply_mul, ← add_mul, ← Int.cast_add]
      exact normalize_spec _ _ _

theorem apply_neg (s : Sign) (n : ℕ) : (-s).apply n = -s.apply n := by
  cases s with
  | positive => rfl
  | negative => exact (neg_neg (n : ℤ)).symm

/-- Subtracting is adding the negative, for infinities and zeros too. -/
theorem sub_eq_add (a b : UnpackedFloat) :
    UnpackedFloat.sub Format.binary64 a b = UnpackedFloat.add Format.binary64 a b.neg := by
  rcases a with _ | _ | _ | ⟨s₁, m₁, e₁, p₁⟩ <;> rcases b with _ | _ | _ | ⟨s₂, m₂, e₂, p₂⟩
  case finite.finite =>
    simp only [UnpackedFloat.sub, UnpackedFloat.add, UnpackedFloat.neg, apply_neg,
      Int.sub_eq_add_neg]
  all_goals rfl

theorem neg_spec {u : UnpackedFloat} (canonical : Canonical u) {r : ℝ}
    (h : value? u = some (r : EReal)) :
    Canonical u.neg ∧ value? u.neg = some ((-r : ℝ) : EReal) := by
  rcases real_cases h with ⟨s, rfl, rfl⟩ | ⟨s, m, e, p, rfl, rfl⟩
  · exact ⟨trivial, by rw [neg_zero]; rfl⟩
  · exact ⟨canonical, by rw [← signed_neg]; rfl⟩

/-- Differences of reals are computed and then rounded. -/
theorem sub_spec {a b : UnpackedFloat} (ca : Canonical a) (cb : Canonical b) {x y : ℝ}
    (hx : value? a = some (x : EReal)) (hy : value? b = some (y : EReal)) :
    Canonical (UnpackedFloat.sub Format.binary64 a b) ∧
      value? (UnpackedFloat.sub Format.binary64 a b) = some (nearest (x - y) : ℝ) := by
  obtain ⟨cneg, hneg⟩ := neg_spec cb hy
  rw [sub_eq_add, sub_eq_add_neg]
  exact add_spec ca cneg hx hneg

theorem nearest_signed (s : Sign) {r : ℝ} (hr : 0 ≤ r) :
    nearest (signed s r) = signed s (magnitude r) := by
  cases s with
  | positive => exact nearest_of_nonneg hr
  | negative => rw [signed, nearest_neg, nearest_of_nonneg hr, signed]

theorem signed_mul (s t : Sign) (x y : ℝ) : signed (s * t) (x * y) = signed s x * signed t y := by
  cases s <;> cases t
  · exact (neg_mul_neg x y).symm
  · exact (neg_mul x y).symm
  · exact (mul_neg x y).symm
  · rfl

/-- Two mantissas have a product that reaches below the last place. -/
theorem le_place_mul {s₁ s₂ : Sign} {m₁ m₂ : ℕ} {e₁ e₂ : ℤ} {p₁ : 0 < m₁} {p₂ : 0 < m₂}
    (c₁ : Canonical (.finite s₁ m₁ e₁ p₁)) (c₂ : Canonical (.finite s₂ m₂ e₂ p₂)) :
    e₁ + e₂ ≤ place (m₁ * m₂) (e₁ + e₂) := by
  have hlog : ∀ {n}, 2 ^ 52 ≤ n → 52 ≤ (n : ℕ).log2 := fun {n} h => (Nat.le_log2 (by omega)).mpr h
  rw [place_eq]
  rcases c₁.2.2 with hm | he₁
  · have := hlog (hm.trans (Nat.le_mul_of_pos_right m₁ p₂))
    omega
  · rcases c₂.2.2 with hm | he₂
    · have := hlog (hm.trans (Nat.le_mul_of_pos_left m₂ p₁))
      omega
    · omega

/-- Products of reals are computed and then rounded. -/
theorem mul_spec {a b : UnpackedFloat} (ca : Canonical a) (cb : Canonical b) {x y : ℝ}
    (hx : value? a = some (x : EReal)) (hy : value? b = some (y : EReal)) :
    Canonical (UnpackedFloat.mul Format.binary64 a b) ∧
      value? (UnpackedFloat.mul Format.binary64 a b) = some (nearest (x * y) : ℝ) := by
  rcases real_cases hx with ⟨s₁, rfl, rfl⟩ | ⟨s₁, m₁, e₁, p₁, rfl, rfl⟩
  · rw [zero_mul, nearest_zero]
    rcases real_cases hy with ⟨s₂, rfl, rfl⟩ | ⟨s₂, m₂, e₂, p₂, rfl, rfl⟩
    · exact ⟨trivial, rfl⟩
    · exact ⟨trivial, rfl⟩
  · rcases real_cases hy with ⟨s₂, rfl, rfl⟩ | ⟨s₂, m₂, e₂, p₂, rfl, rfl⟩
    · rw [mul_zero, nearest_zero]
      exact ⟨trivial, rfl⟩
    · have hproduct : ((m₁ * m₂ : ℕ) : ℝ) * 2 ^ (e₁ + e₂) = m₁ * 2 ^ e₁ * (m₂ * 2 ^ e₂) := by
        rw [zpow_add₀ two_ne_zero]
        push_cast
        ring
      have hpos := size_pos (Nat.mul_pos p₁ p₂) (e₁ + e₂)
      rw [← signed_mul, ← hproduct, nearest_signed _ hpos.le]
      exact roundWithAccuracy_spec _ (at_exact _ _) hpos (le_place_mul ca cb)

/-! ## Comparing -/

theorem canonical_toModel (x : Float) : Canonical x.toModel.unpack :=
  (unpack_canonical x.toModel.toBits.toBitVec).1

theorem le_iff_unpack {x y : Float} : x ≤ y ↔ x.toModel.unpack.le y.toModel.unpack = true :=
  decide_eq_true_iff

theorem lt_iff_unpack {x y : Float} : x < y ↔ x.toModel.unpack.lt y.toModel.unpack = true :=
  decide_eq_true_iff

namespace Means

variable {x y : Float} {a b : EReal}

theorem unique (h : Means x a) (h' : Means x b) : a = b := Option.some.inj (h.symm.trans h')

theorem compare_eq (hx : Means x a) (hy : Means y b) :
    x.toModel.unpack.compare y.toModel.unpack = some (cmp a b) :=
  compare_eq_cmp (canonical_toModel x) (canonical_toModel y) hx hy

theorem le_iff (hx : Means x a) (hy : Means y b) : x ≤ y ↔ a ≤ b := by
  rw [le_iff_unpack, UnpackedFloat.le, compare_eq hx hy]
  rcases lt_trichotomy a b with h | rfl | h
  · simp [(cmp_eq_lt_iff a b).mpr h, h.le]
  · simp [cmp_self_eq_eq]
  · simp [(cmp_eq_gt_iff a b).mpr h, h]

theorem lt_iff (hx : Means x a) (hy : Means y b) : x < y ↔ a < b := by
  rw [lt_iff_unpack, UnpackedFloat.lt, compare_eq hx hy]
  simp [cmp_eq_lt_iff]

theorem beq_iff (hx : Means x a) (hy : Means y b) : (x == y) = true ↔ a = b := by
  show (x.toModel.unpack.compare y.toModel.unpack == some .eq) = true ↔ a = b
  rw [compare_eq hx hy]
  simp

end Means

/-! ## Numbers and infinities -/

theorem value?_eq_none {u : UnpackedFloat} (h : value? u = none) : u = .notANumber := by
  rcases u with (_ | _) | _ | _ | ⟨s, m, e, p⟩
  · cases h
  · cases h
  · rfl
  · cases h
  · cases h

theorem value?_eq_top {u : UnpackedFloat} (h : value? u = some ⊤) : u = .infinity .positive := by
  rcases u with (_ | _) | _ | _ | ⟨s, m, e, p⟩
  · cases Option.some.inj h
  · rfl
  · cases h
  · cases Option.some.inj h
  · cases Option.some.inj h

theorem value?_eq_bot {u : UnpackedFloat} (h : value? u = some ⊥) : u = .infinity .negative := by
  rcases u with (_ | _) | _ | _ | ⟨s, m, e, p⟩
  · rfl
  · cases Option.some.inj h
  · cases h
  · cases Option.some.inj h
  · cases Option.some.inj h

/-- A double is a number or it is not. -/
theorem means_or_nan (x : Float) : (∃ a, Means x a) ∨ x.toModel.unpack = .notANumber := by
  cases h : value? x.toModel.unpack with
  | none => exact .inr (value?_eq_none h)
  | some a => exact .inl ⟨a, h⟩

theorem compare_nan (u : UnpackedFloat) : u.compare .notANumber = none := by
  rcases u with (_ | _) | _ | _ | ⟨_ | _, m, e, p⟩ <;> rfl

/-- Only numbers compare. -/
theorem means_of_le {x y : Float} (h : x ≤ y) : ∃ a b, Means x a ∧ Means y b ∧ a ≤ b := by
  rcases means_or_nan x with ⟨a, hx⟩ | hx
  · rcases means_or_nan y with ⟨b, hy⟩ | hy
    · exact ⟨a, b, hx, hy, (hx.le_iff hy).mp h⟩
    · rw [le_iff_unpack, UnpackedFloat.le, hy, compare_nan] at h
      cases h
  · rw [le_iff_unpack, UnpackedFloat.le, hx] at h
    cases h

theorem means_of_lt {x y : Float} (h : x < y) : ∃ a b, Means x a ∧ Means y b ∧ a < b := by
  rcases means_or_nan x with ⟨a, hx⟩ | hx
  · rcases means_or_nan y with ⟨b, hy⟩ | hy
    · exact ⟨a, b, hx, hy, (hx.lt_iff hy).mp h⟩
    · rw [lt_iff_unpack, UnpackedFloat.lt, hy, compare_nan] at h
      cases h
  · rw [lt_iff_unpack, UnpackedFloat.lt, hx] at h
    cases h

theorem float_le_of_lt {x y : Float} (h : x < y) : x ≤ y := by
  obtain ⟨a, b, hx, hy, hless⟩ := means_of_lt h
  exact (hx.le_iff hy).mpr hless.le

/-- What is said of what a double stands for is said of the one number that it stands for. -/
theorem Means.exists_iff {x : Float} {a : EReal} (h : Means x a) {P : EReal → Prop} :
    (∃ b, Means x b ∧ P b) ↔ P a :=
  ⟨fun ⟨_, hb, hP⟩ => hb.unique h ▸ hP, fun hP => ⟨a, h, hP⟩⟩

theorem Means.exists_real_iff {x : Float} {r : ℝ} (h : Means x r) {P : ℝ → Prop} :
    (∃ q : ℝ, Means x q ∧ P q) ↔ P r :=
  ⟨fun ⟨_, hq, hP⟩ => EReal.coe_injective (hq.unique h) ▸ hP, fun hP => ⟨r, h, hP⟩⟩

/-- What is at least a number, or above it, is a number that is. -/
theorem Means.ge_iff_exists {x y : Float} {b : EReal} (hy : Means y b) :
    y ≤ x ↔ ∃ a, Means x a ∧ b ≤ a := by
  constructor
  · intro h
    obtain ⟨c, a, hc, ha, hle⟩ := means_of_le h
    exact ⟨a, ha, hc.unique hy ▸ hle⟩
  · rintro ⟨a, ha, hle⟩
    exact (hy.le_iff ha).mpr hle

theorem Means.gt_iff_exists {x y : Float} {b : EReal} (hy : Means y b) :
    y < x ↔ ∃ a, Means x a ∧ b < a := by
  constructor
  · intro h
    obtain ⟨c, a, hc, ha, hlt⟩ := means_of_lt h
    exact ⟨a, ha, hc.unique hy ▸ hlt⟩
  · rintro ⟨a, ha, hlt⟩
    exact (hy.lt_iff ha).mpr hlt

/-- The finite doubles are those that stand for reals. -/
theorem isFinite_iff {x : Float} : x.isFinite = true ↔ ∃ r : ℝ, Means x r := by
  change x.toModel.unpack.isFinite = true ↔ ∃ r : ℝ, value? x.toModel.unpack = some (r : EReal)
  rcases x.toModel.unpack with (_ | _) | _ | s | ⟨s, m, e, p⟩
  · exact ⟨fun h => absurd h (by decide), fun ⟨r, h⟩ => by cases h⟩
  · exact ⟨fun h => absurd h (by decide), fun ⟨r, h⟩ => by cases h⟩
  · exact ⟨fun h => absurd h (by decide), fun ⟨r, h⟩ => by cases h⟩
  · exact ⟨fun _ => ⟨0, rfl⟩, fun _ => rfl⟩
  · exact ⟨fun _ => ⟨_, rfl⟩, fun _ => rfl⟩

theorem isNaN_iff {x : Float} : x.isNaN = true ↔ ¬∃ a, Means x a := by
  change x.toModel.unpack.isNaN = true ↔ ¬∃ a, value? x.toModel.unpack = some a
  rcases x.toModel.unpack with (_ | _) | _ | s | ⟨s, m, e, p⟩
  · exact iff_of_false (by decide) fun h => h ⟨_, rfl⟩
  · exact iff_of_false (by decide) fun h => h ⟨_, rfl⟩
  · exact iff_of_true rfl fun ⟨a, h⟩ => by cases h
  · exact iff_of_false (by simp [UnpackedFloat.isNaN]) fun h => h ⟨_, rfl⟩
  · exact iff_of_false (by simp [UnpackedFloat.isNaN]) fun h => h ⟨_, rfl⟩

/-- What equals a double that stands for a number stands for the same. -/
theorem means_of_beq {x y : Float} {b : EReal} (h : (x == y) = true) (hy : Means y b) :
    Means x b := by
  rcases means_or_nan x with ⟨a, hx⟩ | hx
  · rwa [(hx.beq_iff hy).mp h] at hx
  · change (x.toModel.unpack.compare y.toModel.unpack == some .eq) = true at h
    rw [hx] at h
    cases h

/-- A double that stands for a real stands for one that a double can hold. -/
theorem Means.nearest_eq {x : Float} {a : ℝ} (h : Means x a) : nearest a = a :=
  nearest_of_canonical (canonical_toModel x) h

theorem Means.abs_lt_limit {x : Float} {a : ℝ} (h : Means x a) : |a| < limit :=
  Double.abs_lt_limit h

theorem sub_nan (u : UnpackedFloat) :
    UnpackedFloat.sub Format.binary64 u .notANumber = .notANumber := by
  cases u <;> rfl

/-- What a double stands for is left as it is by rounding. -/
theorem Means.rounded_eq {x : Float} {a : ℝ} (h : Means x a) : rounded a = a := by
  rw [rounded, h.nearest_eq, bounded_of_lt h.abs_lt_limit]

/-! ## Operations -/

namespace Means

variable {x y : Float} {a b : ℝ}

theorem sub (hx : Means x a) (hy : Means y b) : Means (x - y) (rounded (a - b)) := by
  obtain ⟨canonical, hvalue⟩ := sub_spec (canonical_toModel x) (canonical_toModel y) hx hy
  exact value?_pack canonical hvalue

theorem add (hx : Means x a) (hy : Means y b) : Means (x + y) (rounded (a + b)) := by
  obtain ⟨canonical, hvalue⟩ := add_spec (canonical_toModel x) (canonical_toModel y) hx hy
  exact value?_pack canonical hvalue

theorem neg (hx : Means x a) : Means (-x) (-a : ℝ) := by
  obtain ⟨canonical, hvalue⟩ := neg_spec (canonical_toModel x) hx
  have hlimit := hx.abs_lt_limit
  refine (value?_pack canonical hvalue).trans (congrArg some (bounded_of_lt ?_))
  rwa [abs_neg]

theorem mul (hx : Means x a) (hy : Means y b) : Means (x * y) (rounded (a * b)) := by
  obtain ⟨canonical, hvalue⟩ := mul_spec (canonical_toModel x) (canonical_toModel y) hx hy
  exact value?_pack canonical hvalue

theorem top_sub (hx : Means x ⊤) (hy : Means y b) : Means (x - y) ⊤ := by
  show value? (Float.Model.pack (UnpackedFloat.sub Format.binary64 _ _)).unpack = _
  rw [value?_eq_top hx]
  rcases real_cases hy with ⟨s, h, -⟩ | ⟨s, m, e, p, h, -⟩ <;> rw [h] <;>
    exact congrArg value? (unpack_pack_infinity .positive)

theorem bot_sub (hx : Means x ⊥) (hy : Means y b) : Means (x - y) ⊥ := by
  show value? (Float.Model.pack (UnpackedFloat.sub Format.binary64 _ _)).unpack = _
  rw [value?_eq_bot hx]
  rcases real_cases hy with ⟨s, h, -⟩ | ⟨s, m, e, p, h, -⟩ <;> rw [h] <;>
    exact congrArg value? (unpack_pack_infinity .negative)

/-- The size of a number is the larger one of it and its negative. -/
theorem abs {c : EReal} (hx : Means x c) : Means x.abs (max c (-c)) := by
  show value? (Float.Model.pack (UnpackedFloat.abs _)).unpack = _
  induction c with
  | top =>
    rw [value?_eq_top hx, UnpackedFloat.abs, unpack_pack_infinity, max_eq_left (by simp)]
    rfl
  | bot =>
    rw [value?_eq_bot hx, UnpackedFloat.abs, unpack_pack_infinity, max_eq_right (by simp)]
    rfl
  | coe r =>
    have hlimit := hx.abs_lt_limit
    have hmax : max (r : EReal) (-r) = (|r| : ℝ) := by
      rw [abs_eq_max_neg, ← EReal.coe_neg, EReal.coe_strictMono.monotone.map_max]
    rw [hmax]
    rcases real_cases hx with ⟨s, h, rfl⟩ | ⟨s, m, e, p, h, rfl⟩
    · rw [h, abs_zero]
      exact congrArg value? (unpack_pack_zero .positive)
    · have canonical := canonical_toModel x
      rw [h] at canonical ⊢
      rw [abs_signed (size_pos p e).le] at hlimit ⊢
      refine (value?_pack_finite (s := .positive) canonical).trans (congrArg some ?_)
      exact bounded_of_lt (by rwa [signed, abs_of_nonneg (size_pos p e).le])

end Means

/-- A difference is a number only if it is one of numbers. -/
theorem means_of_sub {x y : Float} {c : EReal} (h : Means (x - y) c) :
    (∃ a, Means x a) ∧ ∃ b, Means y b := by
  change value? (Float.Model.pack (UnpackedFloat.sub Format.binary64 _ _)).unpack = _ at h
  rcases means_or_nan x with hx | hx
  · rcases means_or_nan y with hy | hy
    · exact ⟨hx, hy⟩
    · rw [hy, sub_nan, unpack_pack_nan] at h
      cases h
  · rw [hx, UnpackedFloat.sub, unpack_pack_nan] at h
    cases h

theorem means_of_abs {x : Float} {c : EReal} (h : Means x.abs c) : ∃ a, Means x a := by
  rcases means_or_nan x with hx | hx
  · exact hx
  · change value? (Float.Model.pack (UnpackedFloat.abs _)).unpack = _ at h
    rw [hx, UnpackedFloat.abs, unpack_pack_nan] at h
    cases h

/-- A whole number becomes the nearest double, which is a real. -/
theorem means_toFloat (n : UInt64) : Means n.toFloat (nearest n.toNat : ℝ) := by
  obtain ⟨canonical, hvalue⟩ := normalize_spec n.toNat 0 .positive
  rw [zpow_zero, mul_one, Int.cast_natCast] at hvalue
  refine (value?_pack canonical hvalue).trans (congrArg some (bounded_of_lt ?_))
  have hword : (n.toNat : ℝ) ≤ (1 : ℕ) * 2 ^ (64 : ℤ) := by
    rw [Nat.cast_one, one_mul]
    exact_mod_cast n.toNat_lt.le
  have hnearest := nearest_mono hword
  rw [nearest_of_fits (by norm_num) (by norm_num), Nat.cast_one, one_mul] at hnearest
  rw [abs_of_nonneg (nearest_nonneg (Nat.cast_nonneg _))]
  exact hnearest.trans_lt (zpow_lt_zpow_right₀ one_lt_two (by norm_num))

theorem zero_eq_toFloat : (0.0 : Float) = (0 : UInt64).toFloat := by decide +kernel

theorem one_eq_toFloat : (1.0 : Float) = (1 : UInt64).toFloat := by decide +kernel

theorem means_zero : Means 0.0 (0 : ℝ) := by
  have h := means_toFloat 0
  rw [show (0 : UInt64).toNat = 0 from rfl, Nat.cast_zero, nearest_zero] at h
  rwa [zero_eq_toFloat]

theorem means_one : Means 1.0 (1 : ℝ) := by
  have hfits := nearest_of_fits (m := 1) (e := 0) (by norm_num) (by norm_num)
  have h := means_toFloat 1
  rw [show (1 : UInt64).toNat = 1 from rfl] at h
  rw [zpow_zero, mul_one] at hfits
  rw [hfits, Nat.cast_one] at h
  rwa [one_eq_toFloat]

theorem nonneg_iff_exists {x : Float} : 0.0 ≤ x ↔ ∃ a : EReal, Means x a ∧ 0 ≤ a :=
  means_zero.ge_iff_exists

theorem pos_iff_exists {x : Float} : 0.0 < x ↔ ∃ a : EReal, Means x a ∧ 0 < a :=
  means_zero.gt_iff_exists

namespace Means

variable {x y : Float} {a : ℝ}

/-- Multiplying by one and adding zero changes nothing but perhaps the sign of a zero. -/
theorem times_one (hx : Means x a) : Means (x * 1.0) a := by
  have h := hx.mul means_one
  rwa [mul_one, hx.rounded_eq] at h

theorem times_zero (hx : Means x a) : Means (x * 0.0) (0 : ℝ) := by
  have h := hx.mul means_zero
  rwa [mul_zero, means_zero.rounded_eq] at h

theorem plus_zero (hx : Means x a) (hy : Means y (0 : ℝ)) : Means (x + y) a := by
  have h := hx.add hy
  rwa [add_zero, hx.rounded_eq] at h

end Means

end NetworkTuning.Double
