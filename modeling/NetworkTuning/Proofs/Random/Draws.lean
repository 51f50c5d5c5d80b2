import Mathlib
import NetworkTuning.Random.Draws

/-!
# What can be drawn

A word is accepted when the lower half of its product with the bound is not too large, and the
number drawn is the upper half. So every number below the bound is drawn from some word
(`exists_below`): the first word whose product reaches the number has a lower half below the bound,
and the limit for lower halves is never less than that (`le_zone`). No other number is drawn
(`below_lt`).
-/

namespace NetworkTuning.Random

/-- The limit for lower halves lets through whatever is below the bound. -/
theorem le_zone {bound : UInt64} (hbound : 0 < bound.toNat) :
    bound.toNat - 1 ≤ (zone bound).toNat := by
  have hlog : bound.toNat.log2 < 64 := (Nat.log2_lt (by omega)).mpr bound.toNat_lt
  have hshift : ((63 - bound.toNat.log2).toUInt64).toNat = 63 - bound.toNat.log2 := by
    rw [Nat.toUInt64, UInt64.toNat_ofNat']
    omega
  have hfits : bound.toNat * 2 ^ (63 - bound.toNat.log2) < 2 ^ 64 := by
    calc bound.toNat * 2 ^ (63 - bound.toNat.log2)
        < 2 ^ (bound.toNat.log2 + 1) * 2 ^ (63 - bound.toNat.log2) :=
          Nat.mul_lt_mul_of_pos_right Nat.lt_log2_self (Nat.two_pow_pos _)
      _ = 2 ^ 64 := by
          rw [← Nat.pow_add]
          congr 1
          omega
  have hleast : bound.toNat ≤ bound.toNat * 2 ^ (63 - bound.toNat.log2) :=
    Nat.le_mul_of_pos_right _ (Nat.two_pow_pos _)
  have hshifted : (bound <<< (63 - bound.toNat.log2).toUInt64).toNat =
      bound.toNat * 2 ^ (63 - bound.toNat.log2) := by
    rw [UInt64.toNat_shiftLeft, hshift, Nat.shiftLeft_eq]
    rw [Nat.mod_eq_of_lt (show 63 - bound.toNat.log2 < 64 by omega), Nat.mod_eq_of_lt hfits]
  unfold zone
  rw [UInt64.toNat_sub_of_le]
  · rw [hshifted]
    exact Nat.sub_le_sub_right hleast 1
  · rw [UInt64.le_iff_toNat_le, hshifted]
    show 1 ≤ _
    omega

/-- The first product that reaches a multiple of the size passes it by less than the bound. -/
theorem exists_product {bound n size : Nat} (h : n < bound) (small : bound ≤ size) :
    ∃ word, word < size ∧ n * size ≤ word * bound ∧ word * bound < n * size + bound := by
  refine ⟨(n * size + (bound - 1)) / bound, ?_, ?_, ?_⟩
  · rw [Nat.div_lt_iff_lt_mul (by omega)]
    calc n * size + (bound - 1) < n * size + size := by omega
      _ = (n + 1) * size := (Nat.succ_mul n size).symm
      _ ≤ bound * size := Nat.mul_le_mul_right size h
      _ = size * bound := Nat.mul_comm bound size
  · have := Nat.lt_div_mul_add (a := n * size + (bound - 1)) (b := bound) (by omega)
    omega
  · have := Nat.div_mul_le_self (n * size + (bound - 1)) bound
    omega

/-- Some word is accepted as the number. -/
theorem exists_accept {bound n : UInt64} (h : n < bound) : ∃ word, accept? bound word = some n := by
  have hn := UInt64.lt_iff_toNat_lt.mp h
  have hbound := bound.toNat_lt
  have hzone := le_zone (show 0 < bound.toNat by omega)
  obtain ⟨word, hword, hleast, hmost⟩ := exists_product hn (Nat.le_of_lt hbound)
  refine ⟨word.toUInt64, ?_⟩
  have hcast : word.toUInt64.toNat = word := UInt64.toNat_ofNat_of_lt' hword
  have hsize : UInt64.size = 18446744073709551616 := rfl
  have hupper : word * bound.toNat / UInt64.size = n.toNat := by
    rw [hsize]
    omega
  have hlower : word * bound.toNat % UInt64.size ≤ (zone bound).toNat := by
    rw [hsize]
    omega
  simp only [accept?, hcast, if_pos hlower, hupper]
  exact congrArg some (UInt64.ofNat_toNat)

/-- Every number below the bound can be drawn. -/
theorem exists_below {bound n : UInt64} (h : n < bound) :
    ∃ draws : Draws, (draws.below bound).1 = n := by
  obtain ⟨word, haccept⟩ := exists_accept h
  refine ⟨{ listed := [word] }, ?_⟩
  rw [Draws.below, List.length_singleton, Nat.add_comm, Draws.belowIn]
  simp only [Draws.next, haccept]

/-- The number that a word stands for is below the bound. -/
theorem accept?_lt {bound word n : UInt64} (positive : 0 < bound)
    (h : accept? bound word = some n) : n < bound := by
  have hpositive : 0 < bound.toNat := UInt64.lt_iff_toNat_lt.mp positive
  have hbelow : word.toNat * bound.toNat / UInt64.size < bound.toNat :=
    Nat.div_lt_of_lt_mul (Nat.mul_lt_mul_of_pos_right word.toNat_lt hpositive)
  simp only [accept?] at h
  split at h
  · cases h
    rw [UInt64.lt_iff_toNat_lt, Nat.toUInt64,
      UInt64.toNat_ofNat_of_lt' (hbelow.trans bound.toNat_lt)]
    exact hbelow
  · cases h

theorem belowIn_lt {bound : UInt64} (positive : 0 < bound) (fuel : Nat) (draws : Draws) :
    (draws.belowIn bound fuel).1 < bound := by
  induction fuel generalizing draws with
  | zero => exact positive
  | succ fuel ih =>
    rw [Draws.belowIn]
    dsimp only
    cases haccept : accept? bound draws.next.1 with
    | some n => exact accept?_lt positive haccept
    | none => exact ih _

/-- What is drawn is below the bound. -/
theorem below_lt {bound : UInt64} (positive : 0 < bound) (draws : Draws) :
    (draws.below bound).1 < bound := belowIn_lt positive _ draws

end NetworkTuning.Random
