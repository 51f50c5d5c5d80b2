import NetworkTuning.Proofs.Table.Order

/-!
# The ends of a table

The first and the last row of a table in order hold its smallest and its largest key
(`Ordered.minKey?_eq_some_iff`, `Ordered.maxKey?_eq_some_iff`). A table that grows by a row below
its largest key keeps that key (`Grows.maxKey?_eq`).
-/

namespace NetworkTuning.Table

variable {t grown : Table} {p : Profile} {index : Nat} {key : UInt64}

theorem minKey?_eq_head? (t : Table) : t.minKey? = t.keys.head? := by
  rw [minKey?, keys, List.head?_map, List.head?_eq_getElem?, Array.getElem?_toList]

theorem maxKey?_eq_getLast? (t : Table) : t.maxKey? = t.keys.getLast? := by
  rw [maxKey?, keys, List.getLast?_map, List.getLast?_eq_getElem?, Array.getElem?_toList,
    Array.length_toList]

/-- The first key of a table in order is its smallest one. -/
theorem Ordered.minKey?_eq_some_iff (ordered : t.Ordered) :
    t.minKey? = some key ↔ key ∈ t.keys ∧ ∀ k ∈ t.keys, key ≤ k := by
  have hascending := ordered.ascending
  rw [minKey?_eq_head?]
  cases hkeys : t.keys with
  | nil => simp
  | cons least rest =>
    rw [hkeys] at hascending
    have hleast : ∀ k ∈ least :: rest, least ≤ k := by
      intro k hk
      rcases List.mem_cons.mp hk with rfl | hk
      · exact UInt64.le_refl _
      · exact UInt64.le_of_lt (List.rel_of_pairwise_cons hascending hk)
    constructor
    · rintro ⟨⟩
      exact ⟨List.mem_cons_self, hleast⟩
    · rintro ⟨hmem, hkey⟩
      rw [List.head?_cons, UInt64.le_antisymm (hkey least List.mem_cons_self) (hleast key hmem)]

/-- The last key of a table in order is its largest one. -/
theorem Ordered.maxKey?_eq_some_iff (ordered : t.Ordered) :
    t.maxKey? = some key ↔ key ∈ t.keys ∧ ∀ k ∈ t.keys, k ≤ key := by
  have hascending := ordered.ascending
  rw [maxKey?_eq_getLast?]
  rcases List.eq_nil_or_concat t.keys with hkeys | ⟨rest, most, hkeys⟩
  · simp [hkeys]
  · rw [List.concat_eq_append] at hkeys
    rw [hkeys] at hascending ⊢
    have hmost : ∀ k ∈ rest ++ [most], k ≤ most := by
      intro k hk
      rcases List.mem_append.mp hk with hk | hk
      · exact UInt64.le_of_lt
          ((List.pairwise_append.mp hascending).2.2 k hk most (List.mem_singleton_self _))
      · exact List.mem_singleton.mp hk ▸ UInt64.le_refl _
    rw [List.getLast?_concat]
    constructor
    · rintro ⟨⟩
      exact ⟨List.mem_append_right _ (List.mem_singleton_self _), hmost⟩
    · rintro ⟨hmem, hkey⟩
      rw [UInt64.le_antisymm (hkey most (List.mem_append_right _ (List.mem_singleton_self _)))
        (hmost key hmem)]

/-- A table in order with a key has a largest one. -/
theorem Ordered.exists_maxKey? (ordered : t.Ordered) (mem : key ∈ t.keys) :
    ∃ most, t.maxKey? = some most ∧ key ≤ most := by
  have hsome : t.keys.getLast? = some (t.keys.getLast (List.ne_nil_of_mem mem)) :=
    List.getLast?_eq_some_getLast _
  rw [← maxKey?_eq_getLast?] at hsome
  exact ⟨_, hsome, (ordered.maxKey?_eq_some_iff.mp hsome).2 key mem⟩

namespace Grows

/-- A table that has grown holds the keys from before and the new one. -/
theorem mem_keys_iff (step : t.Grows p index grown) :
    key ∈ grown.keys ↔ key = p.key ∨ key ∈ t.keys := by
  obtain ⟨before, after, hrows, hgrown, -⟩ := step.split
  simp only [keys, hrows, hgrown, List.map_append, List.map_cons, List.mem_append, List.mem_cons]
  exact or_left_comm

/-- A row below the largest key leaves it the largest. -/
theorem maxKey?_eq (step : t.Grows p index grown) (ordered : t.Ordered)
    (largest : t.maxKey? = some key) (below : p.key < key) : grown.maxKey? = some key := by
  obtain ⟨hmem, hmost⟩ := ordered.maxKey?_eq_some_iff.mp largest
  refine (step.ordered ordered).maxKey?_eq_some_iff.mpr ⟨step.mem_keys_iff.mpr (.inr hmem), ?_⟩
  intro k hk
  rcases step.mem_keys_iff.mp hk with rfl | hk
  · exact UInt64.le_of_lt below
  · exact hmost k hk

end Grows

end NetworkTuning.Table
