import NetworkTuning.Proofs.Double.Nearest

/-!
# What doubles stand for

A double that is a number stands for a real number or for an infinity (`value?`). It is written with
a mantissa and an exponent, and in the one form that its bits can hold (`Canonical`) the order of
what is written is the order of what it stands for (`compare_eq_cmp`). Bits are always read in that
form (`unpack_canonical`). What is written in that form comes back from its bits, unless they have
no room for its exponent: then an infinity comes back, just where `bounded` has one
(`value?_pack_finite`).
-/

open Float.Model Float.Model.UnpackedFloat

namespace NetworkTuning.Double

/-- A size with a sign. -/
noncomputable def signed : Sign → ℝ → ℝ
  | .positive, r => r
  | .negative, r => -r

/-- The number that an unpacked double stands for, if it is one. -/
noncomputable def value? : UnpackedFloat → Option EReal
  | .notANumber => none
  | .infinity .positive => some ⊤
  | .infinity .negative => some ⊥
  | .zero _ => some 0
  | .finite s m e _ => some (signed s (size m e) : ℝ)

/-- The form in which bits hold a double: no more than 53 digits, and 53 of them unless the last
place is the smallest there is. -/
def Canonical : UnpackedFloat → Prop
  | .finite _ m e _ => m < 2 ^ 53 ∧ -1074 ≤ e ∧ (2 ^ 52 ≤ m ∨ e = -1074)
  | _ => True

/-- What stands for a real is a zero, or has a mantissa and an exponent. -/
theorem real_cases {u : UnpackedFloat} {r : ℝ} (h : value? u = some (r : EReal)) :
    (∃ s, u = .zero s ∧ r = 0) ∨
      ∃ s m e p, u = .finite s m e p ∧ r = signed s (m * 2 ^ e) := by
  rcases u with (_ | _) | _ | s | ⟨s, m, e, p⟩
  · cases h
  · cases h
  · cases h
  · exact .inl ⟨s, rfl, by exact_mod_cast (Option.some.inj h).symm⟩
  · exact .inr ⟨s, m, e, p, rfl, by exact_mod_cast (Option.some.inj h).symm⟩

/-! ## Order -/

/-- Among canonical sizes the exponent decides, and then the mantissa. -/
theorem size_lt {m₁ m₂ : ℕ} {e₁ e₂ : ℤ} (h₁ : m₁ < 2 ^ 53) (h₂ : 2 ^ 52 ≤ m₂) (h : e₁ < e₂) :
    (m₁ * 2 ^ e₁ : ℝ) < m₂ * 2 ^ e₂ := by
  have hone : (1 : ℝ) ≤ 2 := by norm_num
  calc (m₁ * 2 ^ e₁ : ℝ) < 2 ^ 53 * 2 ^ e₁ :=
        mul_lt_mul_of_pos_right (by exact_mod_cast h₁) (by positivity)
    _ = 2 ^ 52 * 2 ^ (e₁ + 1) := by
        rw [zpow_add_one₀ two_ne_zero]
        ring
    _ ≤ 2 ^ 52 * 2 ^ e₂ := mul_le_mul_of_nonneg_left (zpow_le_zpow_right₀ hone h) (by positivity)
    _ ≤ m₂ * 2 ^ e₂ := mul_le_mul_of_nonneg_right (by exact_mod_cast h₂) (by positivity)

theorem compare_size {s₁ s₂ : Sign} {m₁ m₂ : ℕ} {e₁ e₂ : ℤ} {p₁ : 0 < m₁} {p₂ : 0 < m₂}
    (c₁ : Canonical (.finite s₁ m₁ e₁ p₁)) (c₂ : Canonical (.finite s₂ m₂ e₂ p₂)) :
    (compare e₁ e₂).then (compare m₁ m₂) = cmp (m₁ * 2 ^ e₁ : ℝ) (m₂ * 2 ^ e₂) := by
  obtain ⟨h₁, l₁, n₁⟩ := c₁
  obtain ⟨h₂, l₂, n₂⟩ := c₂
  rcases lt_trichotomy e₁ e₂ with h | rfl | h
  · have hlt := size_lt h₁ (n₂.resolve_right (by omega)) h
    rw [compare_lt_iff_lt.mpr h, (cmp_eq_lt_iff _ _).mpr hlt, Ordering.lt_then]
  · have hstep : (0 : ℝ) < 2 ^ e₁ := by positivity
    have hmono : StrictMono fun m : ℕ => (m * 2 ^ e₁ : ℝ) := fun a b hab =>
      mul_lt_mul_of_pos_right (by exact_mod_cast hab) hstep
    rw [compare_eq_iff_eq.mpr rfl, Ordering.eq_then, hmono.cmp_map_eq, cmp_eq_compare]
  · have hlt := size_lt h₂ (n₁.resolve_right (by omega)) h
    rw [compare_gt_iff_gt.mpr h, (cmp_eq_gt_iff _ _).mpr hlt, Ordering.gt_then]

theorem size_pos {m : ℕ} (p : 0 < m) (e : ℤ) : (0 : ℝ) < m * 2 ^ e := by positivity

theorem signed_positive_pos {m : ℕ} (p : 0 < m) (e : ℤ) :
    (0 : EReal) < (signed .positive (m * 2 ^ e) : ℝ) := EReal.coe_pos.mpr (size_pos p e)

theorem signed_negative_neg {m : ℕ} (p : 0 < m) (e : ℤ) :
    ((signed .negative (m * 2 ^ e) : ℝ) : EReal) < 0 :=
  EReal.coe_neg'.mpr (neg_neg_of_pos (size_pos p e))

theorem some_lt {x y : EReal} (h : x < y) : some Ordering.lt = some (cmp x y) := by
  rw [(cmp_eq_lt_iff x y).mpr h]

theorem some_gt {x y : EReal} (h : y < x) : some Ordering.gt = some (cmp x y) := by
  rw [(cmp_eq_gt_iff x y).mpr h]

/-- **The order of what is written is the order of what it stands for.** -/
theorem compare_eq_cmp {a b : UnpackedFloat} (ca : Canonical a) (cb : Canonical b) {x y : EReal}
    (hx : value? a = some x) (hy : value? b = some y) : a.compare b = some (cmp x y) := by
  rcases a with (_ | _) | _ | _ | ⟨_ | _, m₁, e₁, p₁⟩ <;> cases hx <;>
    rcases b with (_ | _) | _ | _ | ⟨_ | _, m₂, e₂, p₂⟩ <;> cases hy
  case finite.positive.refl.finite.positive.refl =>
    rw [UnpackedFloat.compare, compare_size ca cb, ← EReal.coe_strictMono.cmp_map_eq]
    rfl
  case finite.negative.refl.finite.negative.refl =>
    have hneg : StrictAnti fun r : ℝ => ((-r : ℝ) : EReal) :=
      EReal.coe_strictMono.comp_strictAnti fun _ _ h => neg_lt_neg h
    rw [UnpackedFloat.compare, compare_size ca cb, cmp_swap, ← hneg.cmp_map_eq]
    rfl
  case finite.negative.refl.finite.positive.refl =>
    exact some_lt ((signed_negative_neg p₁ e₁).trans (signed_positive_pos p₂ e₂))
  case finite.positive.refl.finite.negative.refl =>
    exact some_gt ((signed_negative_neg p₂ e₂).trans (signed_positive_pos p₁ e₁))
  case zero.refl.finite.negative.refl => exact some_gt (signed_negative_neg p₂ e₂)
  case zero.refl.finite.positive.refl => exact some_lt (signed_positive_pos p₂ e₂)
  case finite.negative.refl.zero.refl => exact some_lt (signed_negative_neg p₁ e₁)
  case finite.positive.refl.zero.refl => exact some_gt (signed_positive_pos p₁ e₁)
  -- what is left are equal values, and an infinity against everything else
  all_goals first
    | rw [cmp_self_eq_eq]; rfl
    | exact some_lt (by simp)
    | exact some_gt (by simp)

/-! ## Bits -/

@[simp] theorem unpackSign_packComponents {spec : Format} (s : Sign)
    (e : BitVec spec.exponentBits) (m : BitVec spec.mantissaBitsWithoutImplicit) :
    unpackSign (packComponents spec s e m) = s.toBitVec := by
  ext i hi
  obtain rfl : i = 0 := by omega
  simp [unpackSign, packComponents, BitVec.getLsbD_append, BitVec.getElem_append]

@[simp] theorem ofBitVec_toBitVec (s : Sign) : Sign.ofBitVec s.toBitVec = s := by
  cases s <;> rfl

theorem toNat_one_append (m : BitVec 52) : (1#1 ++ m).toNat = 2 ^ 52 + m.toNat := by
  rw [BitVec.toNat_append, ← Nat.shiftLeft_add_eq_or_of_lt m.isLt]
  rfl

/-- Bits are read in the canonical form, with an exponent that they have room for. -/
theorem unpack_canonical (b : BitVec 64) :
    Canonical (UnpackedFloat.unpack Format.binary64 b) ∧
      ∀ s m e p, UnpackedFloat.unpack Format.binary64 b = .finite s m e p → e ≤ 971 := by
  have hbias : (Format.binary64.exponentBias : ℤ) = 1023 := rfl
  have hmantissa : (@unpackMantissa Format.binary64 b).toNat < 2 ^ 52 := BitVec.isLt _
  have hexponent : (@unpackExponent Format.binary64 b).toNat < 2 ^ 11 := BitVec.isLt _
  have happend := toNat_one_append (@unpackMantissa Format.binary64 b)
  unfold UnpackedFloat.unpack
  dsimp only
  split_ifs with hlargest hinfinite hsmallest hzero
  · exact ⟨trivial, by simp⟩
  · exact ⟨trivial, by simp⟩
  · exact ⟨trivial, by simp⟩
  · have hnone : (@unpackExponent Format.binary64 b).toNat = 0 := congrArg BitVec.toNat hsmallest
    rw [hbias, hnone]
    refine ⟨⟨by omega, by omega, .inr (by omega)⟩, ?_⟩
    intro s m e p h
    cases h
    omega
  · have hsome : (@unpackExponent Format.binary64 b).toNat ≠ 0 := fun h =>
      hsmallest (BitVec.eq_of_toNat_eq h)
    have hless : (@unpackExponent Format.binary64 b).toNat ≠ 2047 := fun h =>
      hlargest (BitVec.eq_of_toNat_eq h)
    rw [hbias]
    refine ⟨⟨by omega, by omega, .inl (by omega)⟩, ?_⟩
    intro s m e p h
    cases h
    omega

theorem unpack_pack_infinity (s : Sign) :
    (Float.Model.pack (.infinity s)).unpack = .infinity s := by
  unfold Float.Model.pack Float.Model.unpack
  simp [UnpackedFloat.pack, UnpackedFloat.unpack, packedInfinity]

theorem unpack_pack_nan : (Float.Model.pack .notANumber).unpack = .notANumber := by
  unfold Float.Model.pack Float.Model.unpack
  simp [UnpackedFloat.pack, UnpackedFloat.unpack, packedNaN]

theorem unpack_pack_zero (s : Sign) : (Float.Model.pack (.zero s)).unpack = .zero s := by
  unfold Float.Model.pack Float.Model.unpack
  simp [UnpackedFloat.pack, UnpackedFloat.unpack, packedZero]

theorem finite_congr {s : Sign} {m n : ℕ} {e f : ℤ} {p : 0 < m} (hm : m = n) (he : e = f) :
    UnpackedFloat.finite s m e p = .finite s n f (hm ▸ p) := by
  subst hm he
  rfl

/-- The largest exponent is that of infinities, and the smallest has no leading digit to add. -/
theorem unpack_normal (s : Sign) {e : BitVec 11} (m : BitVec 52) (hlargest : e ≠ -1#11)
    (hsmallest : e ≠ 0#11) :
    UnpackedFloat.unpack Format.binary64 (packComponents Format.binary64 s e m) =
      .finite s (2 ^ 52 + m.toNat) (e.toNat - 1075) (by positivity) := by
  unfold UnpackedFloat.unpack
  simp only [unpackMantissa_packComponents, unpackExponent_packComponents,
    unpackSign_packComponents, ofBitVec_toBitVec, if_neg hlargest, if_neg hsmallest]
  exact finite_congr (toNat_one_append m) rfl

theorem unpack_subnormal (s : Sign) {m : BitVec 52} (p : 0 < m.toNat) :
    UnpackedFloat.unpack Format.binary64 (packComponents Format.binary64 s 0#11 m) =
      .finite s m.toNat (-1074) p := by
  have hm : m ≠ 0#52 := fun h => p.ne' (congrArg BitVec.toNat h)
  have hexponent : (0#11 : BitVec 11) ≠ -1#11 := by decide
  unfold UnpackedFloat.unpack
  simp only [unpackMantissa_packComponents, unpackExponent_packComponents,
    unpackSign_packComponents, ofBitVec_toBitVec, if_neg hexponent, dif_neg hm, if_true]
  exact finite_congr rfl rfl

section

variable {s : Sign} {m : ℕ} {e : ℤ} {p : 0 < m}

theorem unpack_pack_normal (hfull : 2 ^ 52 ≤ m) (hm : m < 2 ^ 53) (he : -1074 ≤ e)
    (hroom : e ≤ 971) :
    (Float.Model.pack (.finite s m e p)).unpack = .finite s m e p := by
  have hbias : (Format.binary64.exponentBias : ℤ) = 1023 := rfl
  have hlog : m.log2 + 1 = Format.binary64.mantissaBits := by
    have hlow := (Nat.le_log2 p.ne').mpr hfull
    have hhigh := (Nat.log2_lt p.ne').mpr hm
    show m.log2 + 1 = 53
    omega
  have hmantissa : 2 ^ 52 + (BitVec.ofNat 52 m).toNat = m := by
    rw [BitVec.toNat_ofNat]
    omega
  have hexponent : (BitVec.ofNat 11 (e + 1023 + (52 : ℕ)).toNat).toNat = (e + 1075).toNat := by
    rw [BitVec.toNat_ofNat]
    omega
  have hne : ∀ {x : BitVec 11}, (e + 1075).toNat ≠ x.toNat →
      BitVec.ofNat 11 (e + 1023 + (52 : ℕ)).toNat ≠ x := by
    rintro _ h rfl
    exact h hexponent.symm
  unfold Float.Model.pack Float.Model.unpack UnpackedFloat.pack
  dsimp only
  rw [hbias, if_neg (by simp; omega), if_pos hlog]
  refine (unpack_normal s _ ?_ ?_).trans (finite_congr hmantissa ?_)
  · exact hne (by simp; omega)
  · exact hne (by simp; omega)
  · rw [hexponent]
    omega

theorem unpack_pack_subnormal (hm : m < 2 ^ 52) :
    (Float.Model.pack (.finite s m (-1074) p)).unpack = .finite s m (-1074) p := by
  have hlog : ¬m.log2 + 1 = Format.binary64.mantissaBits := by
    have hhigh := (Nat.log2_lt p.ne').mpr hm
    show ¬m.log2 + 1 = 53
    omega
  have hmantissa : (BitVec.ofNat 52 m).toNat = m := by
    rw [BitVec.toNat_ofNat]
    omega
  have hbias : (Format.binary64.exponentBias : ℤ) = 1023 := rfl
  unfold Float.Model.pack Float.Model.unpack UnpackedFloat.pack
  dsimp only
  rw [hbias, if_neg (by simp), if_neg hlog]
  exact (unpack_subnormal s (hmantissa.symm ▸ p)).trans (finite_congr hmantissa rfl)

theorem unpack_pack_overflow (he : 971 < e) :
    (Float.Model.pack (.finite s m e p)).unpack = .infinity s := by
  have hbias : (Format.binary64.exponentBias : ℤ) = 1023 := rfl
  rw [← unpack_pack_infinity]
  unfold Float.Model.pack Float.Model.unpack UnpackedFloat.pack
  dsimp only
  rw [hbias, if_pos (by simp; omega)]

/-- What is written in the canonical form comes back, unless its exponent is too large. -/
theorem unpack_pack_finite (canonical : Canonical (.finite s m e p)) :
    (Float.Model.pack (.finite s m e p)).unpack =
      if e ≤ 971 then .finite s m e p else .infinity s := by
  obtain ⟨hm, he, hnormal⟩ := canonical
  by_cases hroom : e ≤ 971
  · rw [if_pos hroom]
    by_cases hfull : 2 ^ 52 ≤ m
    · exact unpack_pack_normal hfull hm he hroom
    · obtain rfl := hnormal.resolve_left hfull
      exact unpack_pack_subnormal (Nat.not_le.mp hfull)
  · rw [if_neg hroom]
    exact unpack_pack_overflow (Int.not_le.mp hroom)

end

/-! ## Values in bits -/

theorem limit_eq (e : ℤ) : limit = 2 ^ (1024 - e) * 2 ^ e := by
  rw [limit, ← zpow_add₀ two_ne_zero, sub_add_cancel]

theorem size_lt_limit {m : ℕ} {e : ℤ} (hm : m < 2 ^ 53) (he : e ≤ 971) :
    (m * 2 ^ e : ℝ) < limit := by
  have hone : (1 : ℝ) ≤ 2 := by norm_num
  rw [limit_eq e]
  refine mul_lt_mul_of_pos_right ?_ (by positivity)
  calc (m : ℝ) < 2 ^ (53 : ℤ) := by exact_mod_cast hm
    _ ≤ 2 ^ (1024 - e) := zpow_le_zpow_right₀ hone (by omega)

theorem limit_le_size {m : ℕ} {e : ℤ} (hm : 2 ^ 52 ≤ m) (he : 971 < e) : limit ≤ m * 2 ^ e := by
  have hone : (1 : ℝ) ≤ 2 := by norm_num
  rw [limit_eq e]
  refine mul_le_mul_of_nonneg_right ?_ (by positivity)
  calc (2 : ℝ) ^ (1024 - e) ≤ 2 ^ (52 : ℤ) := zpow_le_zpow_right₀ hone (by omega)
    _ ≤ m := by exact_mod_cast hm

theorem abs_signed {s : Sign} {r : ℝ} (hr : 0 ≤ r) : |signed s r| = r := by
  cases s with
  | positive => exact abs_of_nonneg hr
  | negative => exact (abs_neg r).trans (abs_of_nonneg hr)

/-- A double that stands for a real stands for one below the limit. -/
theorem abs_lt_limit {b : BitVec 64} {r : ℝ}
    (h : value? (UnpackedFloat.unpack Format.binary64 b) = some (r : EReal)) : |r| < limit := by
  obtain ⟨canonical, hroom⟩ := unpack_canonical b
  rcases real_cases h with ⟨s, -, rfl⟩ | ⟨s, m, e, p, hu, rfl⟩
  · rw [abs_zero]
    exact limit_pos
  · rw [hu] at canonical
    rw [abs_signed (size_pos p e).le]
    exact size_lt_limit canonical.1 (hroom s m e p hu)

/-- What is written in the canonical form stands for the same in bits, or is out of bounds. -/
theorem value?_pack_finite {s : Sign} {m : ℕ} {e : ℤ} {p : 0 < m}
    (canonical : Canonical (.finite s m e p)) :
    value? (Float.Model.pack (.finite s m e p)).unpack = some (bounded (signed s (m * 2 ^ e))) := by
  rw [unpack_pack_finite canonical]
  obtain ⟨hm, he, hnormal⟩ := canonical
  by_cases hlarge : e ≤ 971
  · have hsize := size_lt_limit hm hlarge
    rw [if_pos hlarge, bounded_of_lt ((abs_signed (size_pos p e).le).trans_lt hsize)]
    rfl
  · have hsize := limit_le_size (hnormal.resolve_right (by omega)) (not_le.mp hlarge)
    rw [if_neg hlarge]
    cases s with
    | positive => rw [signed, bounded_of_ge hsize]; rfl
    | negative => rw [signed, bounded_neg, bounded_of_ge hsize]; rfl

end NetworkTuning.Double
