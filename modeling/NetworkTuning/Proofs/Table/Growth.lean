import NetworkTuning.Proofs.Table.Order

/-!
# Growing by one row, on any table

Nothing is assumed here of the order of a table. Wherever a derived profile is put, the table gains
exactly that row (`augment_gains`). A place that is found is never beyond the rows, so deriving from
a row of a table with room can be refused only for want of a place (`augment_error`), and a key has
no place only if it is met while the place is looked for (`place_error`).
-/

namespace NetworkTuning.Table

/-- A table with one row more, somewhere among the rows from before. -/
def Gains (t : Table) (p : Profile) (grown : Table) : Prop :=
  ∃ before after, t.rows.toList = before ++ after ∧ grown.rows.toList = before ++ p :: after

variable {t grown : Table} {p : Profile} {reference index : Nat} {key : UInt64}
  {precision : Float} {f : Approximation} {live : Option Load}

theorem Gains.perm (gains : t.Gains p grown) :
    grown.rows.toList.Perm (t.rows.toList ++ [p]) := by
  obtain ⟨before, after, hrows, hgrown⟩ := gains
  rw [hrows, hgrown]
  exact List.perm_middle.trans (List.perm_append_singleton p (before ++ after)).symm

theorem Grows.gains (step : t.Grows p index grown) : t.Gains p grown := by
  obtain ⟨before, after, hrows, hgrown, -⟩ := step.split
  exact ⟨before, after, hrows, hgrown⟩

/-! ## Finding a place -/

/-- A place is found within the rows or behind the last one. -/
theorem scan_le {rows : List Profile} {start : Nat} (h : scan key start rows = .ok index) :
    index ≤ start + rows.length := by
  induction rows generalizing start with
  | nil =>
    cases h
    exact Nat.le_refl _
  | cons p rest ih =>
    rw [scan] at h
    split at h
    next =>
      cases h
      exact Nat.le_add_right _ _
    next =>
      split at h
      next => cases h
      next =>
        have hrest := ih h
        rw [List.length_cons]
        omega

theorem scan_error {rows : List Profile} {start : Nat} {e : TableError}
    (h : scan key start rows = .error e) : e = .duplicateKey key := by
  induction rows generalizing start with
  | nil => cases h
  | cons p rest ih =>
    rw [scan] at h
    split at h
    next => cases h
    next =>
      split at h
      next =>
        cases h
        rfl
      next => exact ih h

theorem place_error {e : TableError} (h : t.place key = .error e) : e = .duplicateKey key :=
  scan_error h

/-- Only a key that is in the table has no place. -/
theorem scan_error_mem {rows : List Profile} {start : Nat} {e : TableError}
    (h : scan key start rows = .error e) : key ∈ rows.map Profile.key := by
  induction rows generalizing start with
  | nil => cases h
  | cons p rest ih =>
    rw [scan] at h
    split at h
    next => cases h
    next =>
      split at h
      next hkey => exact hkey ▸ List.mem_cons_self
      next => exact List.mem_cons_of_mem _ (ih h)

theorem exists_place (absent : key ∉ t.keys) : ∃ index, t.place key = .ok index := by
  cases h : t.place key with
  | ok index => exact ⟨index, rfl⟩
  | error e => exact absurd (scan_error_mem h) absent

theorem place_le (placed : t.place key = .ok index) : index ≤ t.rows.size := by
  have hle := scan_le placed
  rwa [Nat.zero_add, Array.length_toList] at hle

/-! ## Putting a row in -/

/-- A row goes in wherever there is room for it. -/
theorem exists_insertAt (room : t.size < t.capacity) (inside : index ≤ t.rows.size) :
    ∃ grown, t.insertAt index p = .ok grown ∧ t.Gains p grown := by
  have hsplit := (List.take_append_drop index t.rows.toList).symm
  have hlength : (t.rows.toList.take index).length = index := by
    rw [List.length_take, Array.length_toList]
    exact Nat.min_eq_left inside
  have hinsert := insertAt_append p room hsplit
  rw [hlength] at hinsert
  exact ⟨_, hinsert, _, _, hsplit, rfl⟩

theorem insertAt_gains (h : t.insertAt index p = .ok grown) : t.Gains p grown := by
  by_cases hfull : t.isFull
  · simp only [insertAt, openAt, if_pos hfull] at h
    cases h
  · by_cases hplace : t.rows.size < index
    · simp only [insertAt, openAt, if_neg hfull, if_pos hplace] at h
      cases h
    · have hroom := not_isFull_iff.mp hfull
      obtain ⟨grown', hinsert, hgains⟩ := exists_insertAt (p := p) hroom (Nat.not_lt.mp hplace)
      rw [h] at hinsert
      cases hinsert
      exact hgains

/-- A table that has grown by deriving has gained what was derived. -/
theorem augment_gains (h : t.augment reference key precision f live = .ok (grown, index)) :
    ∃ new, t.synthesize reference key precision f live = .ok new ∧ t.Gains new.profile grown := by
  unfold augment at h
  split at h
  next => cases h
  next =>
    cases hnew : t.synthesize reference key precision f live with
    | error e => rw [hnew] at h; cases h
    | ok new =>
      rw [hnew] at h
      change (t.insertAt new.index new.profile >>= fun g => .ok (g, new.index)) = _ at h
      cases hinsert : t.insertAt new.index new.profile with
      | error e => rw [hinsert] at h; cases h
      | ok t' =>
        rw [hinsert] at h
        cases h
        exact ⟨new, rfl, insertAt_gains hinsert⟩

/-- Deriving from a row of a table with room is refused only for want of a place for the key. -/
theorem augment_error {row : Profile} {e : TableError} (room : t.size < t.capacity)
    (hrow : t.rows[reference]? = some row)
    (h : t.augment reference key precision f live = .error e) : t.place key = .error e := by
  unfold augment at h
  rw [if_neg (not_isFull_iff.mpr room)] at h
  cases hnew : t.synthesize reference key precision f live with
  | error d =>
    rw [hnew] at h
    cases h
    unfold synthesize at hnew
    rw [hrow] at hnew
    cases hplace : t.place key with
    | error d =>
      rw [hplace] at hnew
      cases hnew
      rfl
    | ok index =>
      rw [hplace] at hnew
      cases hnew
  | ok new =>
    have hinside := place_le (synthesize_ok hnew).1
    obtain ⟨grown, hinsert, -⟩ := exists_insertAt (p := new.profile) room hinside
    rw [hnew] at h
    change (t.insertAt new.index new.profile >>= fun g => .ok (g, new.index)) = _ at h
    rw [hinsert] at h
    cases h

end NetworkTuning.Table
