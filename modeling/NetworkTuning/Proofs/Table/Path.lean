import NetworkTuning.Proofs.Double.Arithmetic
import NetworkTuning.Proofs.Table.Search

/-!
# The places a search looks at

Which places a search looks at one after another is decided by the keys and the target alone, as
long as it finds no match (`searchPath`, `searchPath_congr`). What it finds is the first match among
them, and if there is none it ends with the last of them (`bisect_eq`). So it finds something
exactly if there is a match on its way (`find_isSome_iff`), and two searches for one target differ
only in where on one way they stop (`find_on_path`).
-/

namespace NetworkTuning

/-- The places that a search of a stretch looks at until it finds a match. -/
def searchPath (rows : Array Profile) (target : Float) (start length : Nat) : List Nat :=
  if length = 0 then []
  else
    let below := (length - 1) / 2
    let middle := start + below
    match rows[middle]? with
    | none => []
    | some p =>
      middle :: if target < p.key.toFloat then searchPath rows target start below
        else searchPath rows target (middle + 1) (length - 1 - below)
termination_by length

/-- Whether there is a row at a place, and it matches. -/
def matchesAt (rows : Array Profile) (target tolerance : Float) (w : Weights) (i : Nat) : Bool :=
  (rows[i]?).any (Profile.within · target tolerance w)

/-- What a search ends with that stops at the first match on its way, and else with the last place
on it. -/
def Match.along (way : List Nat) (hit : Nat → Bool) (closest : Option Nat) : Match :=
  match way.find? hit with
  | some i => ⟨some i, some i⟩
  | none => ⟨none, way.getLast?.or closest⟩

theorem Match.along_nil (hit : Nat → Bool) (closest : Option Nat) :
    Match.along [] hit closest = ⟨none, closest⟩ := rfl

theorem Match.along_cons_hit {hit : Nat → Bool} {i : Nat} (way : List Nat) (found : hit i = true)
    (closest : Option Nat) : Match.along (i :: way) hit closest = ⟨some i, some i⟩ := by
  rw [Match.along, List.find?_cons_of_pos found]

/-- A place without a match is where the search ends if there is no further one. -/
theorem Match.along_cons_miss {hit : Nat → Bool} {i : Nat} (way : List Nat)
    (missed : hit i = false) (closest : Option Nat) :
    Match.along (i :: way) hit closest = Match.along way hit (some i) := by
  have hlast : (i :: way).getLast?.or closest = way.getLast?.or (some i) := by
    rw [List.getLast?_cons]
    cases way.getLast? <;> rfl
  rw [Match.along, Match.along, List.find?_cons_of_neg (Bool.eq_false_iff.mp missed), hlast]

section

variable {rows rows' : Array Profile} {target tolerance tolerance' : Float} {w : Weights}

/-! ## The way of a search -/

/-- The way is decided by the keys. -/
theorem searchPath_congr (keys : rows.map Profile.key = rows'.map Profile.key)
    (start length : Nat) :
    searchPath rows target start length = searchPath rows' target start length := by
  have hkey (i : Nat) : (rows[i]?).map Profile.key = (rows'[i]?).map Profile.key := by
    rw [← Array.getElem?_map, ← Array.getElem?_map, keys]
  fun_induction searchPath rows target start length with
  | case1 => rw [searchPath, if_pos rfl]
  | case2 start length hlen below middle hnone =>
    have hrow := hkey middle
    rw [hnone, Option.map_none, eq_comm, Option.map_eq_none_iff] at hrow
    rw [searchPath, if_neg hlen]
    simp only [middle, below] at hrow
    simp only [hrow]
  | case3 start length hlen below middle p hp hleft hright =>
    have hrow := hkey middle
    rw [hp, Option.map_some, eq_comm, Option.map_eq_some_iff] at hrow
    obtain ⟨q, hq, hkeys⟩ := hrow
    rw [hleft, hright]
    conv_rhs => rw [searchPath, if_neg hlen]
    simp only [middle, below] at hq
    simp only [hq, hkeys, middle, below]

/-- **A search goes along its way** up to the first match, or to its end. -/
theorem bisect_eq (start length : Nat) (closest : Option Nat) :
    bisect rows target tolerance w start length closest =
      Match.along (searchPath rows target start length) (matchesAt rows target tolerance w)
        closest := by
  fun_induction bisect rows target tolerance w start length closest with
  | case1 => rw [searchPath, if_pos rfl, Match.along_nil]
  | case2 start length closest hlen below middle hnone =>
    rw [searchPath, if_neg hlen]
    simp only [middle, below] at hnone
    simp only [hnone, Match.along_nil]
  | case3 start length closest hlen below middle p hrow hwithin =>
    have hhit : matchesAt rows target tolerance w middle = true := by
      rw [matchesAt, hrow, Option.any_some, hwithin]
    rw [searchPath, if_neg hlen]
    simp only [middle, below] at hrow hhit
    simp only [hrow, Match.along_cons_hit _ hhit, middle, below]
  | case4 start length closest hlen below middle p hrow hwithin hless ih =>
    have hmiss : matchesAt rows target tolerance w middle = false := by
      rw [matchesAt, hrow, Option.any_some, Bool.eq_false_iff.mpr hwithin]
    rw [searchPath, if_neg hlen, ih]
    simp only [middle, below] at hrow hmiss
    simp only [hrow, Match.along_cons_miss _ hmiss, if_pos hless, middle, below]
  | case5 start length closest hlen below middle p hrow hwithin hless ih =>
    have hmiss : matchesAt rows target tolerance w middle = false := by
      rw [matchesAt, hrow, Option.any_some, Bool.eq_false_iff.mpr hwithin]
    rw [searchPath, if_neg hlen, ih]
    simp only [middle, below] at hrow hmiss
    simp only [hrow, Match.along_cons_miss _ hmiss, if_neg hless, middle, below]

/-- A search of all rows goes along the way through all rows. -/
theorem find_eq_along (rows : Array Profile) (target tolerance : Float) (w : Weights) :
    find rows target tolerance w =
      Match.along (searchPath rows target 0 rows.size) (matchesAt rows target tolerance w) none :=
  (find_eq_bisect rows target tolerance w).trans (bisect_eq 0 rows.size none)

theorem find_found_eq (rows : Array Profile) (target tolerance : Float) (w : Weights) :
    (find rows target tolerance w).found =
      (searchPath rows target 0 rows.size).find? (matchesAt rows target tolerance w) := by
  rw [find_eq_along, Match.along]
  cases (searchPath rows target 0 rows.size).find? (matchesAt rows target tolerance w) <;> rfl

/-- A search that finds nothing has gone along its whole way. -/
theorem find_missed_closest (missed : (find rows target tolerance w).found = none) :
    (find rows target tolerance w).closest = (searchPath rows target 0 rows.size).getLast? := by
  rw [find_found_eq] at missed
  rw [find_eq_along, Match.along, missed]
  exact Option.or_none

/-- **A search of all rows finds something exactly if there is a match on its way.** -/
theorem find_isSome_iff :
    (find rows target tolerance w).found.isSome = true ↔
      ∃ i ∈ searchPath rows target 0 rows.size, ∃ p, rows[i]? = some p ∧
        p.within target tolerance w = true := by
  rw [find_found_eq, List.find?_isSome]
  simp only [matchesAt, Option.any_eq_true]

/-! ## Two searches -/

/-- What matches within a tolerance matches within a larger one. -/
theorem Profile.within_mono {p : Profile} (larger : tolerance ≤ tolerance')
    (within : p.within target tolerance w = true) : p.within target tolerance' w = true := by
  obtain ⟨a, b, ha, hb, hab⟩ := Double.means_of_le (of_decide_eq_true within)
  obtain ⟨b', c, hb', hc, hbc⟩ := Double.means_of_le larger
  obtain rfl : b = b' := hb.unique hb'
  exact decide_eq_true ((ha.le_iff hc).mpr (hab.trans hbc))

theorem matchesAt_mono (larger : tolerance ≤ tolerance') {i : Nat}
    (hit : matchesAt rows target tolerance w i = true) :
    matchesAt rows target tolerance' w i = true := by
  obtain ⟨p, hrow, hwithin⟩ := (Option.any_eq_true _ _).mp hit
  exact (Option.any_eq_true _ _).mpr ⟨p, hrow, Profile.within_mono larger hwithin⟩

/-- Where more is a hit, the first hit is the same or comes earlier. -/
theorem find?_of_more_hits {hit hit' : Nat → Bool} (more : ∀ i, hit i = true → hit' i = true)
    {way : List Nat} {i : Nat} (found : way.find? hit = some i) :
    ∃ before after j, way = before ++ i :: after ∧ (j = i ∨ j ∈ before) ∧
      way.find? hit' = some j := by
  obtain ⟨hi, before, after, rfl, -⟩ := List.find?_eq_some_iff_append.mp found
  cases hbefore : before.find? hit' with
  | some j =>
    refine ⟨before, after, j, rfl, .inr (List.mem_of_find?_eq_some hbefore), ?_⟩
    rw [List.find?_append, hbefore, Option.some_or]
  | none =>
    refine ⟨before, after, i, rfl, .inl rfl, ?_⟩
    rw [List.find?_append, hbefore, Option.none_or, List.find?_cons_of_pos (more i hi)]

end

/-- **All searches for one target go along one way.** Whatever the rows are, sorted or not, the way
is decided by their keys and the target. Any search, with any tolerance and any weights, goes along
it up to the first row that matches, or to its end. So two searches that find nothing end with the
same place. And a search with a larger tolerance finds something wherever one with a smaller
tolerance does: the same row, or one that both have passed before. -/
theorem find_on_path (rows : Array Profile) (target : Float) :
    let way := searchPath rows target 0 rows.size
    (∀ rows' : Array Profile, rows'.map Profile.key = rows.map Profile.key →
        searchPath rows' target 0 rows'.size = way) ∧
      (∀ tolerance w, find rows target tolerance w =
        Match.along way
          (fun i => (rows[i]?).any fun p => (target - p.score w).abs ≤ tolerance) none) ∧
      (∀ tolerance tolerance' w w', (find rows target tolerance w).found = none →
        (find rows target tolerance' w').found = none →
          (find rows target tolerance w).closest = (find rows target tolerance' w').closest) ∧
      ∀ tolerance tolerance' w i, tolerance ≤ tolerance' →
        (find rows target tolerance w).found = some i →
          ∃ before after j, way = before ++ i :: after ∧ (j = i ∨ j ∈ before) ∧
            (find rows target tolerance' w).found = some j := by
  refine ⟨fun rows' keys => ?_, fun tolerance w => find_eq_along rows target tolerance w,
    fun tolerance tolerance' w w' missed missed' => ?_,
    fun tolerance tolerance' w i larger found => ?_⟩
  · have hsize : rows'.size = rows.size := by
      rw [← Array.size_map, keys, Array.size_map]
    rw [hsize]
    exact searchPath_congr keys 0 rows.size
  · rw [find_missed_closest missed, find_missed_closest missed']
  · rw [find_found_eq] at found ⊢
    exact find?_of_more_hits (fun _ => matchesAt_mono larger) found

/-- Two rows, the first of which also drops packets. -/
def burdened : Array Profile := #[{ transferRate := 100, dropRate := 350 }, { transferRate := 500 }]

/-- A search for a load of 450 passes the second row first. Where drops do not count, no row
matches. Where they do, the first row has just this score, and is found unless the tolerance lets
the second one match. -/
theorem burdened_on_path :
    (find burdened 450.0 1.0 {}).closest = (find burdened 450.0 2.0 { transfer := 0.5 }).closest ∧
      ∃ before after j, searchPath burdened 450.0 0 2 = before ++ 0 :: after ∧
        (j = 0 ∨ j ∈ before) ∧ (find burdened 450.0 60.0 { drop := 1.0 }).found = some j := by
  obtain ⟨-, -, hmissed, hraised⟩ := find_on_path burdened 450.0
  refine ⟨hmissed 1.0 2.0 {} { transfer := 0.5 } (by decide +kernel) (by decide +kernel), ?_⟩
  exact hraised 1.0 60.0 { drop := 1.0 } 0 (by decide +kernel) (by decide +kernel)

end NetworkTuning
