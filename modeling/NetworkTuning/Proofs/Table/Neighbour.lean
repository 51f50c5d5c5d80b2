import NetworkTuning.Proofs.Table.Completeness

/-!
# Where a search ends that finds nothing

In a table in order the keys that do not exceed a target stand before those that do, and their
number is the place where the two parts meet (`exceeds_iff`). The stretch that a search still looks
at always touches this place from both sides, and the last place looked at lies next to the stretch;
so when nothing is left of it, that place is next to where the parts meet (`bisect_missed_beside`).
It holds the last row at or below the target, or the first one above it (`find_missed_beside`). A
target that is no number is exceeded by no key, and the search ends with the last row.
-/

namespace NetworkTuning

/-- Where a property, once it holds, holds of all that follows, it holds from the place on that is
the number of those for which it does not. -/
theorem countP_not_le_iff {α : Type} {P : α → Prop} [DecidablePred P] {l : List α}
    (upward : l.Pairwise fun a b => P a → P b) {i : Nat} {a : α} (row : l[i]? = some a) :
    P a ↔ l.countP (fun b => ¬P b) ≤ i := by
  induction l generalizing i with
  | nil => cases row
  | cons b l ih =>
    obtain ⟨hb, hl⟩ := List.pairwise_cons.mp upward
    by_cases hPb : P b
    · -- it holds from the first one on
      have hall : ∀ c ∈ b :: l, P c := by
        intro c hc
        rcases List.mem_cons.mp hc with rfl | hc
        · exact hPb
        · exact hb c hc hPb
      have hnone : (b :: l).countP (fun b => ¬P b) = 0 :=
        List.countP_eq_zero.mpr fun c hc => by simpa using hall c hc
      rw [hnone]
      exact iff_of_true (hall a (List.mem_of_getElem? row)) (Nat.zero_le i)
    · rw [List.countP_cons_of_pos (by simpa using hPb)]
      cases i with
      | zero =>
        obtain rfl : b = a := Option.some.inj row
        exact iff_of_false hPb (Nat.not_succ_le_zero _)
      | succ i => exact (ih hl row).trans Nat.succ_le_succ_iff.symm

section

variable {rows : Array Profile} {target tolerance : Float} {w : Weights}

/-- How many rows have a key that does not exceed the target. -/
def countUpTo (rows : Array Profile) (target : Float) : Nat :=
  rows.toList.countP fun p => ¬target < p.key.toFloat

/-- In a table in order the keys exceed the target from one place on. -/
theorem exceeds_iff (sorted : rows.toList.Pairwise (·.key ≤ ·.key)) {i : Nat} {p : Profile}
    (row : rows[i]? = some p) : target < p.key.toFloat ↔ countUpTo rows target ≤ i := by
  rw [← Array.getElem?_toList] at row
  exact countP_not_le_iff (P := fun p : Profile => target < p.key.toFloat)
    (sorted.imp fun hle => lt_toFloat_mono hle) row

/-- A search that finds nothing ends next to the place where the keys begin to exceed the target, if
its stretch touches this place and, when it is empty, the last place looked at is next to it. -/
theorem bisect_missed_beside (sorted : rows.toList.Pairwise (·.key ≤ ·.key)) {start length : Nat}
    {closest : Option Nat} (inside : start + length ≤ rows.size)
    (low : start ≤ countUpTo rows target) (high : countUpTo rows target ≤ start + length)
    (near : length = 0 →
      ∃ c, closest = some c ∧ (c + 1 = countUpTo rows target ∨ c = countUpTo rows target))
    (missed : (bisect rows target tolerance w start length closest).found = none) :
    ∃ c, (bisect rows target tolerance w start length closest).closest = some c ∧
      (c + 1 = countUpTo rows target ∨ c = countUpTo rows target) := by
  fun_induction bisect rows target tolerance w start length closest with
  | case1 => exact near rfl
  | case2 start length closest hlen below middle hnone =>
    have hbelow : below = (length - 1) / 2 := rfl
    have hmiddle : middle = start + below := rfl
    have hsize := Array.getElem?_eq_none_iff.mp hnone
    omega
  | case3 => cases missed
  | case4 start length closest hlen below middle p hrow hwithin hless ih =>
    have hbelow : below = (length - 1) / 2 := rfl
    have hmiddle : middle = start + below := rfl
    -- the middle row is above the target, so the parts meet there or before
    have hmeet := (exceeds_iff sorted hrow).mp hless
    exact ih (by omega) low hmeet (fun _ => ⟨middle, rfl, by omega⟩) missed
  | case5 start length closest hlen below middle p hrow hwithin hless ih =>
    have hbelow : below = (length - 1) / 2 := rfl
    have hmiddle : middle = start + below := rfl
    have hmeet := Nat.not_le.mp ((exceeds_iff sorted hrow).not.mp hless)
    exact ih (by omega) hmeet (by omega) (fun _ => ⟨middle, rfl, by omega⟩) missed

/-- **A search that finds nothing ends beside the target.** Whatever the tolerance and the weights,
and whether the target is a number or not: if a search of rows in order, of which there is one at
least, finds none, it ends with the last row whose key does not exceed the target or with the first
one whose key does. -/
theorem find_missed_beside (rows : Array Profile) (target tolerance : Float) (w : Weights)
    (sorted : rows.toList.Pairwise (·.key ≤ ·.key)) (nonempty : rows ≠ #[])
    (missed : (find rows target tolerance w).found = none) :
    ∃ c p, (find rows target tolerance w).closest = some c ∧ rows[c]? = some p ∧
      (c + 1 = countUpTo rows target ∧ ¬target < p.key.toFloat ∧
          (∀ i q, c < i → rows[i]? = some q → target < q.key.toFloat) ∨
        c = countUpTo rows target ∧ target < p.key.toFloat ∧
          ∀ i q, i < c → rows[i]? = some q → ¬target < q.key.toFloat) := by
  have hhigh : countUpTo rows target ≤ 0 + rows.size := by
    rw [Nat.zero_add]
    exact List.countP_le_length
  have hsize : 0 < rows.size := Array.size_pos_iff.mpr nonempty
  obtain ⟨c, hclosest, hbeside⟩ : ∃ c, (find rows target tolerance w).closest = some c ∧
      (c + 1 = countUpTo rows target ∨ c = countUpTo rows target) := by
    rw [find_eq_bisect] at missed ⊢
    exact bisect_missed_beside sorted (by omega) (Nat.zero_le _) hhigh (by omega) missed
  obtain ⟨i, p, hi, hrow⟩ : ∃ i p, (find rows target tolerance w).closest = some i ∧
      rows[i]? = some p :=
    (find_closest rows target tolerance w).resolve_left fun h => nonempty h.1
  obtain rfl : c = i := Option.some.inj (hclosest.symm.trans hi)
  refine ⟨c, p, hclosest, hrow, ?_⟩
  rcases hbeside with hlast | hfirst
  · refine .inl ⟨hlast, (exceeds_iff sorted hrow).not.mpr (by omega), fun i q hlater hq => ?_⟩
    exact (exceeds_iff sorted hq).mpr (by omega)
  · refine .inr ⟨hfirst, (exceeds_iff sorted hrow).mpr (by omega), fun i q hearlier hq => ?_⟩
    exact (exceeds_iff sorted hq).not.mpr (by omega)

/-- Three rows in order. -/
def threeRows : Array Profile :=
  #[{ transferRate := 100 }, { transferRate := 500 }, { transferRate := 900 }]

/-- No key exceeds what is no number, so the search ends with the last row. -/
theorem find_nan_beside : (find threeRows (0.0 / 0.0) 10.0 {}).closest = some 2 := by
  have hcount : countUpTo threeRows (0.0 / 0.0) = 3 := by decide +kernel
  obtain ⟨c, p, hclosest, hrow, ⟨hlast, -⟩ | ⟨hfirst, -⟩⟩ :=
    find_missed_beside threeRows (0.0 / 0.0) 10.0 {} (by decide)
      (Array.ne_empty_of_size_pos (by decide)) (by decide +kernel)
  · rw [hclosest, Nat.succ.inj (hlast.trans hcount)]
  · rw [hfirst, hcount] at hrow
    cases hrow

end

end NetworkTuning
