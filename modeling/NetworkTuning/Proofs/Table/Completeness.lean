import NetworkTuning.Proofs.Double.Arithmetic
import NetworkTuning.Proofs.Table.Search

/-!
# Searches that miss nothing

Where rows are sorted by key and every score equals its key, a row between the target and a matching
row matches too: the distance to it is smaller, and rounding keeps the order of distances
(`within_of_nearer`). So a search finds a row whenever there is one to find, for any target and any
tolerance (`find_eq_none_iff`). The default weights score every row by its key
(`score_default`).
-/

namespace NetworkTuning

open Double

/-! ## Distances -/

/-- The size of a rounded number is the rounded size. -/
theorem max_rounded (r : ℝ) : max (rounded r) (-rounded r) = rounded |r| := by
  rw [abs_eq_max_neg, rounded_mono.map_max, rounded_neg]

/-- What is within the tolerance of the target stays so when it comes nearer to it. -/
theorem abs_sub_le_of_nearer {target tolerance a b : Float} {x y : ℝ} (ha : Means a x)
    (hb : Means b y) (nearer : ∀ z : ℝ, Means target z → |z - x| ≤ |z - y|)
    (close : (target - b).abs ≤ tolerance) : (target - a).abs ≤ tolerance := by
  obtain ⟨u, v, hu, hv, huv⟩ := means_of_le close
  obtain ⟨d, hd⟩ := means_of_abs hu
  obtain ⟨⟨c, hc⟩, -⟩ := means_of_sub hd
  have hsize := hu.unique hd.abs
  induction c with
  | top =>
    rw [hd.unique (hc.top_sub hb)] at hsize
    rw [(hc.top_sub ha).abs.le_iff hv, ← hsize]
    exact huv
  | bot =>
    rw [hd.unique (hc.bot_sub hb)] at hsize
    rw [(hc.bot_sub ha).abs.le_iff hv, ← hsize]
    exact huv
  | coe z =>
    rw [hd.unique (hc.sub hb), max_rounded] at hsize
    rw [(hc.sub ha).abs.le_iff hv, max_rounded]
    calc rounded |z - x| ≤ rounded |z - y| := rounded_mono (nearer z hc)
      _ = u := hsize.symm
      _ ≤ v := huv

/-- Larger whole numbers become doubles that are not smaller. -/
theorem nearest_toNat_mono {m n : UInt64} (h : m ≤ n) :
    nearest (m.toNat : ℝ) ≤ nearest (n.toNat : ℝ) :=
  nearest_mono (by exact_mod_cast UInt64.le_iff_toNat_le.mp h)

/-- A number below a key is below the larger ones. -/
theorem lt_toFloat_mono {target : Float} {m n : UInt64} (h : m ≤ n) (below : target < m.toFloat) :
    target < n.toFloat := by
  obtain ⟨x, y, hx, hy, hxy⟩ := means_of_lt below
  obtain rfl := hy.unique (means_toFloat m)
  refine (hx.lt_iff (means_toFloat n)).mpr (hxy.trans_le ?_)
  exact EReal.coe_le_coe_iff.mpr (nearest_toNat_mono h)

/-! ## Searching -/

section

variable {rows : Array Profile} {w : Weights}

/-- Sorted rows whose scores are their keys match in one stretch around the target. -/
theorem convex_of_sorted (sorted : rows.toList.Pairwise (·.key ≤ ·.key))
    (agree : ∀ p ∈ rows, (p.score w == p.key.toFloat) = true) (target tolerance : Float) :
    Convex rows target tolerance w := by
  have hkeys : ∀ {i j : Nat} {p q : Profile}, i ≤ j → rows[i]? = some p → rows[j]? = some q →
      nearest (p.key.toNat : ℝ) ≤ nearest (q.key.toNat : ℝ) := by
    intro i j p q hij hp hq
    rcases hij.eq_or_lt with rfl | hlt
    · rw [Option.some.inj (hp.symm.trans hq)]
    · obtain ⟨hi, rfl⟩ := Array.getElem?_eq_some_iff.mp hp
      obtain ⟨hj, rfl⟩ := Array.getElem?_eq_some_iff.mp hq
      exact nearest_toNat_mono (List.pairwise_iff_getElem.mp sorted i j hi hj hlt)
  have hscore : ∀ {i : Nat} {p : Profile}, rows[i]? = some p →
      Means (p.score w) (nearest (p.key.toNat : ℝ) : ℝ) := fun hp =>
    means_of_beq (agree _ (Array.mem_of_getElem? hp)) (means_toFloat _)
  constructor
  · intro i j p q hij hp hq hless hmatch
    have hpq := hkeys hij hp hq
    refine decide_eq_true (abs_sub_le_of_nearer (hscore hp) (hscore hq) ?_
      (of_decide_eq_true hmatch))
    intro z hz
    have hzp := EReal.coe_lt_coe_iff.mp ((hz.lt_iff (means_toFloat p.key)).mp hless)
    rw [abs_of_neg (by linarith), abs_of_neg (by linarith)]
    linarith
  · intro i j p q hij hp hq hless hmatch
    have hpq := hkeys hij hp hq
    refine decide_eq_true (abs_sub_le_of_nearer (hscore hq) (hscore hp) ?_
      (of_decide_eq_true hmatch))
    intro z hz
    have hqz := not_lt.mp fun h =>
      hless ((hz.lt_iff (means_toFloat q.key)).mpr (EReal.coe_lt_coe_iff.mpr h))
    rw [abs_of_nonneg (by linarith), abs_of_nonneg (by linarith)]
    linarith

/-- The default weights score a row by its key, whatever else was recorded with it. -/
theorem score_default (p : Profile) : (p.score {} == p.key.toFloat) = true := by
  have hkey := means_toFloat p.transferRate
  have hscore : Means (p.score {}) (nearest (p.key.toNat : ℝ) : ℝ) :=
    (((hkey.times_one.plus_zero (means_toFloat p.dropRate).times_zero).plus_zero
      (means_toFloat p.errorRate).times_zero).plus_zero
        (means_toFloat p.fifoErrorRate).times_zero).plus_zero means_zero
  exact (hscore.beq_iff hkey).mpr rfl

/-- **A search misses nothing.** Over sorted rows whose scores are their keys, a search finds no row
exactly when no row at all is within the tolerance of the target. -/
theorem find_eq_none_iff (sorted : rows.toList.Pairwise (·.key ≤ ·.key))
    (agree : ∀ p ∈ rows, (p.score w == p.key.toFloat) = true) (target tolerance : Float) :
    (find rows target tolerance w).found = none ↔
      ∀ p ∈ rows, ¬(target - p.score w).abs ≤ tolerance := by
  constructor
  · intro missed p hp hmatch
    obtain ⟨i, hi, rfl⟩ := Array.mem_iff_getElem.mp hp
    rw [find_eq_bisect] at missed
    have convex := convex_of_sorted sorted agree target tolerance
    refine bisect_missed convex (by omega) missed (Nat.zero_le i) (by omega)
      (Array.getElem?_eq_getElem hi) (decide_eq_true hmatch)
  · intro hnone
    cases hfound : (find rows target tolerance w).found with
    | none => rfl
    | some i =>
      obtain ⟨p, hp, hmatch⟩ := find_found hfound
      exact absurd (of_decide_eq_true hmatch) (hnone p (Array.mem_of_getElem? hp))

/-- A load just above the middle one of three rows, whose score is at the end of the tolerance. -/
theorem find_three_rows :
    (find #[{ transferRate := 100 }, { transferRate := 500 }, { transferRate := 900 }]
      510.0 10.0 { transfer := 1.0 }).found ≠ none := by
  intro missed
  refine (find_eq_none_iff (by decide) ?_ 510.0 10.0).mp missed { transferRate := 500 } (by simp)
    (by decide +kernel)
  intro p _
  exact score_default p

end

end NetworkTuning
