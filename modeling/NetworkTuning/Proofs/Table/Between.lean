import NetworkTuning.Proofs.Table.Search

/-!
# Searching between two places

A search may be given any two places, in any order and beyond the rows at either side. What is left
of them after cutting is a stretch of rows, and only that is looked at.

The search is told here by its two ends (`bisectEnds?`), as signed numbers that cross when nothing
is left; told like this it has no answer if it comes to look where there is no row. It always has
one, the one that the search of a stretch gives (`bisectEnds?_eq`). And a stretch is searched as if
its rows were all there are (`bisect_extract`). `findBetween_answers` puts both together with what
is found and where the search ends.
-/

namespace NetworkTuning

/-- The row at a place; there is none below zero. -/
def rowAt? (rows : Array Profile) (place : Int) : Option Profile :=
  if place < 0 then none else rows[place.toNat]?

/-- Searches from `lo` to `hi`, both included. It has no answer if it looks where there is no row.
-/
def bisectEnds? (rows : Array Profile) (target tolerance : Float) (w : Weights) (lo hi : Int)
    (closest : Option Nat) : Option Match :=
  if hi < lo then some ⟨none, closest⟩
  else
    let middle := lo + (hi - lo) / 2
    match rowAt? rows middle with
    | none => none
    | some p =>
      if p.within target tolerance w then some ⟨some middle.toNat, some middle.toNat⟩
      else if target < p.key.toFloat then
        bisectEnds? rows target tolerance w lo (middle - 1) (some middle.toNat)
      else bisectEnds? rows target tolerance w (middle + 1) hi (some middle.toNat)
termination_by (hi - lo + 1).toNat

/-- What a search ends with, with every place moved up. -/
def Match.moved (distance : Nat) (m : Match) : Match :=
  ⟨m.found.map (· + distance), m.closest.map (· + distance)⟩

section

variable {rows : Array Profile} {target tolerance : Float} {w : Weights}

/-! ## The search told by its ends -/

theorem bisectEnds?_crossed {lo hi : Int} (crossed : hi < lo) (closest : Option Nat) :
    bisectEnds? rows target tolerance w lo hi closest = some ⟨none, closest⟩ := by
  rw [bisectEnds?, if_pos crossed]

/-- Where there is a row in the middle, the search looks at it and goes on at one side of it. -/
theorem bisectEnds?_middle {lo hi : Int} (ordered : lo ≤ hi) {middle : Nat}
    (here : lo + (hi - lo) / 2 = middle) {p : Profile} (row : rows[middle]? = some p)
    (closest : Option Nat) :
    bisectEnds? rows target tolerance w lo hi closest =
      if p.within target tolerance w then some ⟨some middle, some middle⟩
      else if target < p.key.toFloat then
        bisectEnds? rows target tolerance w lo (middle - 1) (some middle)
      else bisectEnds? rows target tolerance w (middle + 1) hi (some middle) := by
  have hrow : rowAt? rows (middle : Int) = some p := by
    rw [rowAt?, if_neg (by omega), Int.toNat_natCast, row]
  rw [bisectEnds?, if_neg (by omega)]
  simp only [here, hrow, Int.toNat_natCast]

/-- Told by its ends, the search of a stretch looks at rows only, and ends the same. -/
theorem bisectEnds?_eq {start length : Nat} {closest : Option Nat}
    (inside : start + length ≤ rows.size) :
    bisectEnds? rows target tolerance w start (start + length - 1) closest =
      some (bisect rows target tolerance w start length closest) := by
  fun_induction bisect rows target tolerance w start length closest with
  | case1 start closest => exact bisectEnds?_crossed (by omega) closest
  | case2 start length closest hlen below middle hnone =>
    have hbelow : below = (length - 1) / 2 := rfl
    have hmiddle : middle = start + below := rfl
    have hsize := Array.getElem?_eq_none_iff.mp hnone
    omega
  | case3 start length closest hlen below middle p hrow hwithin =>
    have hhere : (start : Int) + ((start : Int) + length - 1 - start) / 2 = middle := by
      have hmiddle : middle = start + (length - 1) / 2 := rfl
      omega
    rw [bisectEnds?_middle (by omega) hhere hrow, if_pos hwithin]
  | case4 start length closest hlen below middle p hrow hwithin hless ih =>
    have hbelow : below = (length - 1) / 2 := rfl
    have hmiddle : middle = start + below := rfl
    have hhere : (start : Int) + ((start : Int) + length - 1 - start) / 2 = middle := by omega
    have hends : (middle : Int) - 1 = start + below - 1 := by omega
    rw [bisectEnds?_middle (by omega) hhere hrow, if_neg hwithin, if_pos hless, hends]
    exact ih (by omega)
  | case5 start length closest hlen below middle p hrow hwithin hless ih =>
    have hbelow : below = (length - 1) / 2 := rfl
    have hmiddle : middle = start + below := rfl
    have hhere : (start : Int) + ((start : Int) + length - 1 - start) / 2 = middle := by omega
    have hends : (start : Int) + length - 1 =
        (middle + 1 : Nat) + (length - 1 - below : Nat) - 1 := by omega
    rw [bisectEnds?_middle (by omega) hhere hrow, if_neg hwithin, if_neg hless, hends]
    exact ih (by omega)

/-! ## A stretch by itself -/

/-- A stretch is searched as if its rows were all there are. -/
theorem bisect_extract {first stop : Nat} (stops : stop ≤ rows.size) {start length : Nat}
    {closest : Option Nat} (inside : start + length ≤ stop - first) :
    bisect rows target tolerance w (start + first) length (closest.map (· + first)) =
      (bisect (rows.extract first stop) target tolerance w start length closest).moved first := by
  have hrows {i : Nat} (hi : i < stop - first) :
      (rows.extract first stop)[i]? = rows[i + first]? := by
    rw [Array.getElem?_extract, if_pos (by omega), Nat.add_comm]
  fun_induction bisect (rows.extract first stop) target tolerance w start length closest with
  | case1 start closest =>
    rw [bisect, if_pos rfl]
    rfl
  | case2 start length closest hlen below middle hnone =>
    have hbelow : below = (length - 1) / 2 := rfl
    have hmiddle : middle = start + below := rfl
    have hsize := Array.getElem?_eq_none_iff.mp hnone
    rw [Array.size_extract] at hsize
    omega
  | case3 start length closest hlen below middle p hrow hwithin =>
    have hmiddle : start + first + (length - 1) / 2 = middle + first := Nat.add_right_comm ..
    rw [hrows (by omega)] at hrow
    rw [bisect, if_neg hlen]
    simp only [hmiddle, hrow, if_pos hwithin]
    rfl
  | case4 start length closest hlen below middle p hrow hwithin hless ih =>
    have hbelow : below = (length - 1) / 2 := rfl
    have hmiddle : start + first + (length - 1) / 2 = middle + first := Nat.add_right_comm ..
    rw [hrows (by omega)] at hrow
    rw [bisect, if_neg hlen]
    simp only [hmiddle, hrow, if_neg hwithin, if_pos hless]
    exact ih (by omega)
  | case5 start length closest hlen below middle p hrow hwithin hless ih =>
    have hbelow : below = (length - 1) / 2 := rfl
    have hmiddle : start + first + (length - 1) / 2 = middle + first := Nat.add_right_comm ..
    rw [hrows (by omega)] at hrow
    rw [bisect, if_neg hlen]
    simp only [hmiddle, hrow, if_neg hwithin, if_neg hless, Nat.add_right_comm middle first 1]
    exact ih (by omega)

/-! ## Any two places -/

/-- A search that finds a row ends there. -/
theorem bisect_found_closest {start length : Nat} {closest : Option Nat} {i : Nat}
    (found : (bisect rows target tolerance w start length closest).found = some i) :
    (bisect rows target tolerance w start length closest).closest = some i := by
  fun_induction bisect rows target tolerance w start length closest with
  | case1 => cases found
  | case2 => cases found
  | case3 => exact found
  | case4 start length closest hlen below middle p hrow hwithin hless ih => exact ih found
  | case5 start length closest hlen below middle p hrow hwithin hless ih => exact ih found

/-- **Searching between any two places.** Whatever the rows, the two places, the target, the
tolerance and the weights are, the search of what is left of the places looks at rows only, and
ends. A row that it finds lies there, has a score within the tolerance, and is where the search
ended. It has looked at a row unless nothing is left of the places; and it ends as the search of
these rows alone does, with its places moved up. -/
theorem findBetween_answers (rows : Array Profile) (lo hi : Int) (target tolerance : Float)
    (w : Weights) :
    let first := max lo 0
    let last := min hi ((rows.size : Int) - 1)
    let m := findBetween rows lo hi target tolerance w
    bisectEnds? rows target tolerance w first last none = some m ∧
      (∀ i, m.found = some i →
        first ≤ i ∧ i ≤ last ∧
          (∃ p, rows[i]? = some p ∧ (target - p.score w).abs ≤ tolerance) ∧
          m.closest = some i) ∧
      (m.closest = none ↔ last < first) ∧
      m = (find (rows.extract first.toNat (last + 1).toNat) target tolerance w).moved
        first.toNat := by
  intro first last m
  have hm : m = bisect rows target tolerance w first.toNat (last - first + 1).toNat none := rfl
  have hsize : (rows.extract first.toNat (last + 1).toNat).size = (last - first + 1).toNat := by
    rw [Array.size_extract]
    omega
  -- what is left of the places is a stretch of rows, which may be empty
  generalize hstart : first.toNat = start at hm hsize ⊢
  generalize hlength : (last - first + 1).toNat = length at hm hsize
  have hmoved : m = (find (rows.extract start (last + 1).toNat) target tolerance w).moved start := by
    have hstretch : bisect rows target tolerance w (0 + start) length (none.map (· + start)) =
        (bisect (rows.extract start (last + 1).toNat) target tolerance w 0 length none).moved start :=
      bisect_extract (by omega) (by omega)
    rw [find_eq_bisect, hsize, hm, ← hstretch, Nat.zero_add, Option.map_none]
  by_cases hcrossed : last < first
  · have hnothing : m = ⟨none, none⟩ := by rw [hm, bisect, if_pos (by omega)]
    rw [hnothing] at hmoved ⊢
    refine ⟨bisectEnds?_crossed hcrossed none, fun i found => ?_, iff_of_true rfl hcrossed, hmoved⟩
    cases found
  · have hinside : start + length ≤ rows.size := by omega
    have hfirst : first = start := by omega
    have hlast : last = start + length - 1 := by omega
    refine ⟨?_, fun i found => ?_, ?_, hmoved⟩
    · rw [hfirst, hlast, hm]
      exact bisectEnds?_eq hinside
    · rw [hm] at found ⊢
      obtain ⟨hlow, hhigh, p, hrow, hwithin⟩ := bisect_found found
      exact ⟨by omega, by omega, ⟨p, hrow, of_decide_eq_true hwithin⟩, bisect_found_closest found⟩
    · have hlooked : ∃ i, (bisect rows target tolerance w start length none).closest = some i :=
        (bisect_closest hinside (by omega)).imp fun _ h => h.1
      obtain ⟨i, hclosest⟩ := hlooked
      rw [hm, hclosest]
      exact iff_of_false (Option.some_ne_none i) hcrossed

end

end NetworkTuning
