import NetworkTuning.Proofs.Double.Arithmetic

/-!
# Doubles and words

A double is stored in a word by cutting it to a whole number and holding it within the word's range.
Said of what fits in the word (`CutTo`): it is at most what is stored exactly if it is at most what
the double stands for, be it a real or an infinity (`cutTo_toUInt64` and its siblings). The other
way round a word of up to 32 bits becomes just the number it holds, and so does a longer one below
`2 ^ 53`.
-/

open Float.Model Float.Model.UnpackedFloat

namespace NetworkTuning.Double

/-! ## From doubles -/

/-- A size is cut to the whole numbers up to it. -/
theorem roundToInt_positive (m : ℕ) (e : ℤ) :
    roundToInt .positive m e = ⌊(m * 2 ^ e : ℝ)⌋ := by
  have hat := at_exact (m * 2 ^ (e - 0).toNat) (min e 0)
  rw [decreased_size] at hat
  obtain ⟨hrep, -⟩ := hat.shiftToExponent (min_le_right e 0)
  rw [zpow_zero, div_one] at hrep
  rw [hrep.floor]
  simp only [roundToInt, decreaseExponent_eq]
  rfl

theorem roundToInt_negative (m : ℕ) (e : ℤ) : roundToInt .negative m e ≤ 0 := by
  simp only [roundToInt, Sign.apply]
  omega

/-- What fits is at most the number that a double is cut to exactly if it is at most the double. -/
theorem le_toInt_iff {u : UnpackedFloat} {b : EReal} (h : value? u = some b) {n most : ℕ}
    (positive : 0 < n) (fits : n ≤ most) :
    n ≤ (toInt 0 most u).toNat ↔ ((n : ℝ) : EReal) ≤ b := by
  have hn : (0 : ℝ) < n := by exact_mod_cast positive
  rcases u with (_ | _) | _ | _ | ⟨_ | _, m, e, p⟩ <;> cases h
  case infinity.negative.refl =>
    exact iff_of_false (not_le.mpr positive) (not_le.mpr (EReal.bot_lt_coe _))
  case infinity.positive.refl => exact iff_of_true fits le_top
  case zero.refl =>
    exact iff_of_false (not_le.mpr positive) (not_le.mpr (EReal.coe_pos.mpr hn))
  case finite.negative.refl =>
    have hcut := roundToInt_negative m e
    refine iff_of_false (not_le.mpr ?_) (not_le.mpr ?_)
    · rw [toInt]
      omega
    · exact (signed_negative_neg p e).trans (EReal.coe_pos.mpr hn)
  case finite.positive.refl =>
    rw [EReal.coe_le_coe_iff, toInt, roundToInt_positive, Int.le_toNat (by positivity),
      Int.le_floor, Int.cast_natCast]
    rfl

theorem toNat_ofNatClamp64 (k : ℕ) :
    (UInt64.ofNatClamp k).toNat = min k (UInt64.size - 1) := by
  rcases Nat.lt_or_ge k UInt64.size with h | h
  · rw [UInt64.toNat_ofNatClamp_of_lt h, min_eq_left (Nat.le_sub_one_of_lt h)]
  · rw [UInt64.toNat_ofNatClamp_of_le h, min_eq_right (by omega)]

theorem toNat_ofNatClamp32 (k : ℕ) :
    (UInt32.ofNatClamp k).toNat = min k (UInt32.size - 1) := by
  rcases Nat.lt_or_ge k UInt32.size with h | h
  · rw [UInt32.toNat_ofNatClamp_of_lt h, min_eq_left (Nat.le_sub_one_of_lt h)]
  · rw [UInt32.toNat_ofNatClamp_of_le h, min_eq_right (by omega)]

theorem toNat_ofNatClamp16 (k : ℕ) :
    (UInt16.ofNatClamp k).toNat = min k (UInt16.size - 1) := by
  rcases Nat.lt_or_ge k UInt16.size with h | h
  · rw [UInt16.toNat_ofNatClamp_of_lt h, min_eq_left (Nat.le_sub_one_of_lt h)]
  · rw [UInt16.toNat_ofNatClamp_of_le h, min_eq_right (by omega)]

/-- The whole number is what a double that stands for `b` is cut to, up to `most`. -/
structure CutTo (b : EReal) (most stored : ℕ) : Prop where
  fits : stored ≤ most
  le_iff : ∀ n : ℕ, 0 < n → n ≤ most → (n ≤ stored ↔ ((n : ℝ) : EReal) ≤ b)

namespace CutTo

variable {b : EReal} {most stored n : ℕ}

theorem le_of_le (h : CutTo b most stored) (hn : n ≤ most) (hb : ((n : ℝ) : EReal) ≤ b) :
    n ≤ stored := by
  rcases Nat.eq_zero_or_pos n with rfl | hpos
  · exact Nat.zero_le _
  · exact (h.le_iff n hpos hn).mpr hb

theorem ge_of_ge (h : CutTo b most stored) (hb : b ≤ ((n : ℝ) : EReal)) : stored ≤ n := by
  by_contra hmore
  have hnext := (h.le_iff stored (by omega) h.fits).mp le_rfl
  have hreal : (stored : ℝ) ≤ n := EReal.coe_le_coe_iff.mp (hnext.trans hb)
  exact hmore (by exact_mod_cast hreal)

end CutTo

section

variable {x : Float} {b : EReal}

theorem cutTo_min (hx : Means x b) (most : ℕ) :
    CutTo b most (min (toInt 0 most x.toModel.unpack).toNat most) :=
  ⟨min_le_right _ _, fun _ hpos hn => by rw [le_min_iff, and_iff_left hn, le_toInt_iff hx hpos hn]⟩

theorem cutTo_toUInt64 (hx : Means x b) : CutTo b (UInt64.size - 1) x.toUInt64.toNat := by
  show CutTo b _ (UInt64.ofNatClamp _).toNat
  rw [toNat_ofNatClamp64]
  exact cutTo_min hx (UInt64.size - 1)

theorem cutTo_toUInt32 (hx : Means x b) : CutTo b (UInt32.size - 1) x.toUInt32.toNat := by
  show CutTo b _ (UInt32.ofNatClamp _).toNat
  rw [toNat_ofNatClamp32]
  exact cutTo_min hx (UInt32.size - 1)

theorem cutTo_toUInt16 (hx : Means x b) : CutTo b (UInt16.size - 1) x.toUInt16.toNat := by
  show CutTo b _ (UInt16.ofNatClamp _).toNat
  rw [toNat_ofNatClamp16]
  exact cutTo_min hx (UInt16.size - 1)

end

/-! ## To doubles -/

/-- A whole number below `2 ^ 53` becomes itself. -/
theorem nearest_natCast {n : ℕ} (small : n < 2 ^ 53) : nearest n = n := by
  have h := nearest_of_fits (m := n) (e := 0) small (by norm_num)
  rwa [zpow_zero, mul_one] at h

theorem means_toFloat_of_lt {n : UInt64} (small : n.toNat < 2 ^ 53) :
    Means n.toFloat (n.toNat : ℝ) := nearest_natCast small ▸ means_toFloat n

/-- A word whose double is below `2 ^ 53` becomes itself. -/
theorem toNat_of_means {n : UInt64} {a : ℝ} (h : Means n.toFloat a) (small : a < 2 ^ 53) :
    a = n.toNat := by
  have ha : a = nearest n.toNat := EReal.coe_injective (h.unique (means_toFloat n))
  refine ha.trans (nearest_natCast ?_)
  by_contra hlarge
  have hpower : ((2 ^ 53 : ℕ) : ℝ) ≤ n.toNat := by exact_mod_cast not_lt.mp hlarge
  have hnearest : nearest (2 ^ 53 : ℕ) = (2 ^ 53 : ℕ) := by
    have h := nearest_of_fits (m := 1) (e := 53) (by norm_num) (by norm_num)
    norm_num at h ⊢
    exact h
  have hmono := nearest_mono hpower
  rw [hnearest, ← ha] at hmono
  exact absurd small (not_lt.mpr (by exact_mod_cast hmono))

theorem means_toFloat32 (n : UInt32) : Means n.toFloat (n.toNat : ℝ) := by
  have h := means_toFloat_of_lt (n := n.toUInt64) (n.toNat_lt.trans (by norm_num))
  rwa [UInt32.toNat_toUInt64] at h

theorem means_toFloat16 (n : UInt16) : Means n.toFloat (n.toNat : ℝ) := by
  have h := means_toFloat_of_lt (n := n.toUInt64) (n.toNat_lt.trans (by norm_num))
  rwa [UInt16.toNat_toUInt64] at h

/-- A whole number becomes itself, whatever its sign. -/
theorem means_ofInt {k : ℤ} (small : k.natAbs < 2 ^ 53) : Means (Float.ofInt k) (k : ℝ) := by
  have hnat {n : ℕ} (hn : n < 2 ^ 53) : Means (Float.ofNat n) (n : ℝ) := by
    have hone : Float.exactlyRepresentablePowersOfTen[0] = 1.0 := by decide +kernel
    have hpower : Float.ofNat n = n.toUInt64.toFloat * 1.0 := by
      show Float.ofScientific n false 0 = _
      rw [Float.ofScientific, dif_pos ⟨hn, by decide⟩, ← hone]
      rfl
    have hword : n.toUInt64.toNat = n := UInt64.toNat_ofNat_of_lt' (hn.trans (by norm_num))
    have h := (means_toFloat_of_lt (hword ▸ hn)).times_one
    rwa [hword, ← hpower] at h
  cases k with
  | ofNat n => exact hnat small
  | negSucc n =>
    have h := (hnat small).neg
    rw [Int.natAbs_negSucc] at h
    rw [Int.cast_negSucc]
    exact_mod_cast h

end NetworkTuning.Double
