import NetworkTuning.Profile.Column
import NetworkTuning.Proofs.Double.Words

/-!
# Values by size

The values of each kind are in order of size. Storing a double keeps to that order: what is stored
of a double is at least a value that the double is at least as large as (`Width.atMost_store`), and
at most one that it is at most (`Width.store_atMost`), as long as the value is below `2 ^ 53`, up to
where every word has a double of its own.
-/

open Float.Model Float.Model.UnpackedFloat

namespace NetworkTuning

open Double

/-- Whether a value is at most another one of its kind. A switch that is off is below one that is
on. -/
def Width.AtMost : (w : Width) → w.Value → w.Value → Prop
  | .word64, m, n => m ≤ n
  | .word32, m, n => m ≤ n
  | .word16, m, n => m ≤ n
  | .share, x, y => x ≤ y
  | .switch, a, b => a ≤ b

section

variable {x : Float} {b : EReal} {a : ℝ}

theorem means_switch (on : Bool) : Means (Width.switch.toFloat on) (on.toNat : ℝ) := by
  cases on with
  | false => exact Nat.cast_zero (R := ℝ) ▸ means_zero
  | true => exact Nat.cast_one (R := ℝ) ▸ means_one

/-- **What is stored of a double is at least each value that the double is at least.** -/
theorem Width.atMost_store (w : Width) {v : w.Value} (hv : Means (w.toFloat v) a)
    (small : a < 2 ^ 53) (hx : Means x b) (above : (a : EReal) ≤ b) : w.AtMost v (w.store x) := by
  cases w with
  | word64 =>
    obtain rfl := toNat_of_means hv small
    exact (cutTo_toUInt64 hx).le_of_le (Nat.le_sub_one_of_lt v.toNat_lt) above
  | word32 =>
    obtain rfl := EReal.coe_injective (hv.unique (means_toFloat32 v))
    exact (cutTo_toUInt32 hx).le_of_le (Nat.le_sub_one_of_lt v.toNat_lt) above
  | word16 =>
    obtain rfl := EReal.coe_injective (hv.unique (means_toFloat16 v))
    exact (cutTo_toUInt16 hx).le_of_le (Nat.le_sub_one_of_lt v.toNat_lt) above
  | share =>
    show v ≤ if 0.0 < x then x else 0.0
    split_ifs with hpos
    · exact (hv.le_iff hx).mpr above
    · rw [means_zero.lt_iff hx, not_lt] at hpos
      exact (hv.le_iff means_zero).mpr (above.trans hpos)
  | switch =>
    obtain rfl := EReal.coe_injective (hv.unique (means_switch v))
    cases v with
    | false => exact Bool.false_le _
    | true =>
      have hone : 1 ≤ x.toUInt16.toNat := (cutTo_toUInt16 hx).le_of_le (by decide) above
      have hon : x.toUInt16 ≠ 0 := fun h => by
        rw [h] at hone
        exact absurd hone (by decide)
      exact (bne_iff_ne.mpr hon).ge

/-- **What is stored of a double is at most each value that the double is at most.** -/
theorem Width.store_atMost (w : Width) {v : w.Value} (hv : Means (w.toFloat v) a) (nonneg : 0 ≤ a)
    (small : a < 2 ^ 53) (hx : Means x b) (below : b ≤ a) : w.AtMost (w.store x) v := by
  cases w with
  | word64 =>
    obtain rfl := toNat_of_means hv small
    exact (cutTo_toUInt64 hx).ge_of_ge below
  | word32 =>
    obtain rfl := EReal.coe_injective (hv.unique (means_toFloat32 v))
    exact (cutTo_toUInt32 hx).ge_of_ge below
  | word16 =>
    obtain rfl := EReal.coe_injective (hv.unique (means_toFloat16 v))
    exact (cutTo_toUInt16 hx).ge_of_ge below
  | share =>
    show (if 0.0 < x then x else 0.0) ≤ v
    split_ifs with hpos
    · exact (hx.le_iff hv).mpr below
    · exact (means_zero.le_iff hv).mpr (EReal.coe_nonneg.mpr nonneg)
  | switch =>
    obtain rfl := EReal.coe_injective (hv.unique (means_switch v))
    cases v with
    | false =>
      have hzero : x.toUInt16.toNat ≤ 0 := (cutTo_toUInt16 hx).ge_of_ge below
      have hoff : x.toUInt16 = 0 := UInt16.toNat_inj.mp (Nat.le_zero.mp hzero)
      show (x.toUInt16 != 0) ≤ false
      rw [hoff]
      exact Bool.false_le _
    | true => exact Bool.le_true _

end

end NetworkTuning
