import Mathlib.Order.Lattice
import NetworkTuning.Table.Search

/-!
# What a search finds and what it misses

A stretch of rows is halved again and again. What is found lies in the stretch and matches, on any
rows at all (`bisect_found`). What is thrown away is a half chosen by one key, so a search misses
nothing only where a match in that half would make the middle row match as well. `Convex` states
just this, and is all that `bisect_missed` asks for: rows between the target and a matching row
match too.
-/

namespace NetworkTuning

/-- A match beyond a row, seen from the target, makes the row itself a match. -/
structure Convex (rows : Array Profile) (target tolerance : Float) (w : Weights) : Prop where
  above : ∀ {i j : Nat} {p q : Profile}, i ≤ j → rows[i]? = some p → rows[j]? = some q →
    target < p.key.toFloat → q.within target tolerance w → p.within target tolerance w
  below : ∀ {i j : Nat} {p q : Profile}, i ≤ j → rows[i]? = some p → rows[j]? = some q →
    ¬ target < q.key.toFloat → p.within target tolerance w → q.within target tolerance w

section Bisect

variable {rows : Array Profile} {target tolerance : Float} {w : Weights}

/-- What a search finds is a row of the stretch, and it matches. -/
theorem bisect_found {start length : Nat} {closest : Option Nat} {i : Nat}
    (found : (bisect rows target tolerance w start length closest).found = some i) :
    start ≤ i ∧ i < start + length ∧
      ∃ p, rows[i]? = some p ∧ p.within target tolerance w := by
  fun_induction bisect rows target tolerance w start length closest with
  | case1 => cases found
  | case2 => cases found
  | case3 start length closest hlen below middle p hrow hwithin =>
    obtain rfl : middle = i := Option.some.inj found
    have hbelow : below = (length - 1) / 2 := rfl
    have hmiddle : middle = start + below := rfl
    exact ⟨by omega, by omega, p, hrow, hwithin⟩
  | case4 start length closest hlen below middle p hrow hwithin hless ih =>
    obtain ⟨hstart, hlast, hmatch⟩ := ih found
    have hbelow : below = (length - 1) / 2 := rfl
    exact ⟨hstart, by omega, hmatch⟩
  | case5 start length closest hlen below middle p hrow hwithin hless ih =>
    obtain ⟨hstart, hlast, hmatch⟩ := ih found
    have hbelow : below = (length - 1) / 2 := rfl
    have hmiddle : middle = start + below := rfl
    exact ⟨by omega, by omega, hmatch⟩

/-- Where matches are convex, a search that finds nothing has missed nothing in its stretch. -/
theorem bisect_missed (convex : Convex rows target tolerance w) {start length : Nat}
    {closest : Option Nat} (inside : start + length ≤ rows.size)
    (missed : (bisect rows target tolerance w start length closest).found = none)
    {i : Nat} {p : Profile} (hstart : start ≤ i) (hlast : i < start + length)
    (row : rows[i]? = some p) : ¬ p.within target tolerance w := by
  fun_induction bisect rows target tolerance w start length closest with
  | case1 => omega
  | case2 start length closest hlen below middle hnone =>
    have hbelow : below = (length - 1) / 2 := rfl
    have hmiddle : middle = start + below := rfl
    have hsize := Array.getElem?_eq_none_iff.mp hnone
    omega
  | case3 => cases missed
  | case4 start length closest hlen below middle q hrow hwithin hless ih =>
    have hbelow : below = (length - 1) / 2 := rfl
    by_cases hi : i < start + below
    · exact ih (by omega) missed hstart hi
    · -- the row lies at or above the middle one, in the half that is thrown away
      intro hmatch
      exact hwithin (convex.above (Nat.not_lt.mp hi) hrow row hless hmatch)
  | case5 start length closest hlen below middle q hrow hwithin hless ih =>
    have hbelow : below = (length - 1) / 2 := rfl
    have hmiddle : middle = start + below := rfl
    by_cases hi : middle < i
    · exact ih (by omega) missed hi (by omega)
    · intro hmatch
      exact hwithin (convex.below (Nat.not_lt.mp hi) row hrow hless hmatch)

/-- A search of a stretch that is not empty ends with a place in it. -/
theorem bisect_closest {start length : Nat} {closest : Option Nat}
    (inside : start + length ≤ rows.size) (some : 0 < length) :
    ∃ i, (bisect rows target tolerance w start length closest).closest = Option.some i ∧
      start ≤ i ∧ i < start + length := by
  fun_induction bisect rows target tolerance w start length closest with
  | case1 => omega
  | case2 start length closest hlen below middle hnone =>
    have hbelow : below = (length - 1) / 2 := rfl
    have hmiddle : middle = start + below := rfl
    have hsize := Array.getElem?_eq_none_iff.mp hnone
    omega
  | case3 start length closest hlen below middle p hrow hwithin =>
    have hbelow : below = (length - 1) / 2 := rfl
    have hmiddle : middle = start + below := rfl
    exact ⟨middle, rfl, by omega, by omega⟩
  | case4 start length closest hlen below middle p hrow hwithin hless ih =>
    have hbelow : below = (length - 1) / 2 := rfl
    have hmiddle : middle = start + below := rfl
    by_cases hnone : below = 0
    · refine ⟨middle, ?_, by omega, by omega⟩
      rw [hnone, bisect, if_pos rfl]
    · obtain ⟨i, hclosest, hstart, hlast⟩ := ih (by omega) (by omega)
      exact ⟨i, hclosest, hstart, by omega⟩
  | case5 start length closest hlen below middle p hrow hwithin hless ih =>
    have hbelow : below = (length - 1) / 2 := rfl
    have hmiddle : middle = start + below := rfl
    by_cases hnone : length - 1 - below = 0
    · refine ⟨middle, ?_, by omega, by omega⟩
      rw [hnone, bisect, if_pos rfl]
    · obtain ⟨i, hclosest, hstart, hlast⟩ := ih (by omega) (by omega)
      exact ⟨i, hclosest, by omega, by omega⟩

/-- Searching all rows halves the stretch of all rows. -/
theorem find_eq_bisect (rows : Array Profile) (target tolerance : Float) (w : Weights) :
    find rows target tolerance w = bisect rows target tolerance w 0 rows.size none := by
  have hlength : ((rows.size : Int) - 1 - 0 + 1).toNat = rows.size := by omega
  simp only [find, findBetween, min_self, max_self, hlength, Int.toNat_zero]

/-- What a search of all rows finds is a row, and it matches. -/
theorem find_found {i : Nat} (found : (find rows target tolerance w).found = some i) :
    ∃ p, rows[i]? = some p ∧ p.within target tolerance w := by
  rw [find_eq_bisect] at found
  exact (bisect_found found).2.2

/-- A search of all rows ends with a row, unless there is none. -/
theorem find_closest (rows : Array Profile) (target tolerance : Float) (w : Weights) :
    (rows = #[] ∧ (find rows target tolerance w).closest = none) ∨
      ∃ i p, (find rows target tolerance w).closest = some i ∧ rows[i]? = some p := by
  rw [find_eq_bisect]
  by_cases hempty : rows = #[]
  · refine .inl ⟨hempty, ?_⟩
    rw [hempty, bisect]
    rfl
  · have hsize : 0 < rows.size := Array.size_pos_iff.mpr hempty
    have hplace : ∃ i, (bisect rows target tolerance w 0 rows.size none).closest = some i ∧
        0 ≤ i ∧ i < 0 + rows.size :=
      bisect_closest (Nat.le_of_eq (Nat.zero_add rows.size)) hsize
    obtain ⟨i, hclosest, -, hlast⟩ := hplace
    refine .inr ⟨i, rows[i], hclosest, Array.getElem?_eq_getElem (by omega)⟩

end Bisect

end NetworkTuning
