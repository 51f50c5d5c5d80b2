import Mathlib.Data.List.InsertIdx
import NetworkTuning.Proofs.Profile.Columns

/-!
# The order of a table

A table is in order when its keys ascend strictly and it holds no more profiles than it has places.
Finding a place stops at the first larger key, so it sees a duplicate only because the keys before
it ascend; in turn a new profile keeps the order only in the place that was found.

**One step** (`Grows`): a table with one profile more stands in one relation to the table before,
whichever operation made it. It has the same capacity, the old rows with exactly one profile added,
smaller keys before it and larger keys after it. Inserting (`insert_eq_ok_iff`) and deriving
(`augment_eq_ok_iff`) both come to this step, and order, size and kept rows follow from the step
alone.
-/

namespace NetworkTuning.Table

/-- Keys ascend strictly, and there are no more profiles than places. -/
structure Ordered (t : Table) : Prop where
  ascending : t.keys.Pairwise (· < ·)
  fits : t.size ≤ t.capacity

/-- How many profiles have a smaller key. -/
def countBelow (t : Table) (key : UInt64) : Nat := t.rows.toList.countP (·.key < key)

/-- A table with one profile more: the rows before its place have smaller keys, those after it
larger ones, and there was room. -/
structure Grows (t : Table) (p : Profile) (index : Nat) (grown : Table) : Prop where
  room : t.size < t.capacity
  capacity : grown.capacity = t.capacity
  split : ∃ before after, t.rows.toList = before ++ after ∧
    grown.rows.toList = before ++ p :: after ∧ before.length = index ∧
    (∀ q ∈ before, q.key < p.key) ∧ ∀ q ∈ after, p.key < q.key

theorem ordered_ofCapacity (capacity : Nat) : (ofCapacity capacity).Ordered :=
  ⟨List.Pairwise.nil, Nat.zero_le _⟩

theorem isFull_eq_false_iff {t : Table} : t.isFull = false ↔ t.size < t.capacity := by
  simp only [isFull, size, decide_eq_false_iff_not, Nat.not_le]

theorem not_isFull_iff {t : Table} : ¬t.isFull ↔ t.size < t.capacity := by
  rw [Bool.not_eq_true, isFull_eq_false_iff]

/-- An ordered table is full exactly when its size has reached its capacity. -/
theorem Ordered.isFull_iff {t : Table} (ordered : t.Ordered) :
    t.isFull = true ↔ t.size = t.capacity := by
  have hfits : t.rows.size ≤ t.capacity := ordered.fits
  simp only [isFull, size, decide_eq_true_eq]
  omega

/-! ## Finding a place -/

/-- Among rows with ascending keys, a key is found to be there, or the rows fall into those with
smaller and those with larger keys, and the place between the two is found. -/
theorem scan_split (key : UInt64) (rows : List Profile)
    (ascending : (rows.map Profile.key).Pairwise (· < ·)) (index : Nat) :
    (key ∈ rows.map Profile.key ∧ scan key index rows = .error (.duplicateKey key)) ∨
      ∃ before after, rows = before ++ after ∧ (∀ q ∈ before, q.key < key) ∧
        (∀ q ∈ after, key < q.key) ∧ scan key index rows = .ok (index + before.length) := by
  induction rows generalizing index with
  | nil => exact .inr ⟨[], [], rfl, by simp, by simp, rfl⟩
  | cons p rest ih =>
    obtain ⟨hp, hrest⟩ := List.pairwise_cons.mp ascending
    simp only [scan]
    split
    next hlt =>
      refine .inr ⟨[], p :: rest, rfl, by simp, ?_, rfl⟩
      intro q hq
      rcases List.mem_cons.mp hq with rfl | hq
      · exact hlt
      · exact UInt64.lt_trans hlt (hp _ (List.mem_map_of_mem hq))
    next hlt =>
      split
      next heq => exact .inl ⟨heq ▸ List.mem_cons_self, rfl⟩
      next hne =>
        -- the head is smaller, so the rest is scanned from the next place on
        rcases ih hrest (index + 1) with ⟨hmem, hscan⟩ | ⟨before, after, rfl, hb, ha, hscan⟩
        · exact .inl ⟨List.mem_cons_of_mem _ hmem, hscan⟩
        · refine .inr ⟨p :: before, after, rfl, ?_, ha, ?_⟩
          · intro q hq
            rcases List.mem_cons.mp hq with rfl | hq
            · exact UInt64.lt_of_le_of_ne (UInt64.not_lt.mp hlt) hne
            · exact hb q hq
          · rw [hscan, List.length_cons, Nat.add_assoc, Nat.add_comm 1]

/-- A key has no place exactly because it is in the table. -/
theorem place_eq_error_iff {t : Table} (ordered : t.Ordered) {key : UInt64} {e : TableError} :
    t.place key = .error e ↔ key ∈ t.keys ∧ e = .duplicateKey key := by
  rcases scan_split key t.rows.toList ordered.ascending 0 with
    ⟨hmem, hscan⟩ | ⟨before, after, hrows, hb, ha, hscan⟩
  · have hplace : t.place key = .error (.duplicateKey key) := hscan
    rw [hplace]
    constructor
    · intro h
      exact ⟨hmem, (Except.error.inj h).symm⟩
    · rintro ⟨_, rfl⟩
      rfl
  · have hplace : t.place key = .ok (0 + before.length) := hscan
    rw [hplace]
    constructor
    · intro h
      cases h
    · rintro ⟨hmem, _⟩
      obtain ⟨q, hq, rfl⟩ := List.mem_map.mp hmem
      rw [hrows] at hq
      rcases List.mem_append.mp hq with hq | hq
      · exact absurd (hb q hq) (UInt64.lt_irrefl _)
      · exact absurd (ha q hq) (UInt64.lt_irrefl _)

/-- The place of a key parts the rows into those with smaller and those with larger keys. -/
theorem place_split {t : Table} (ordered : t.Ordered) {key : UInt64} {index : Nat}
    (placed : t.place key = .ok index) :
    ∃ before after, t.rows.toList = before ++ after ∧ before.length = index ∧
      (∀ q ∈ before, q.key < key) ∧ ∀ q ∈ after, key < q.key := by
  rcases scan_split key t.rows.toList ordered.ascending 0 with
    ⟨_, hscan⟩ | ⟨before, after, hrows, hb, ha, hscan⟩
  · have hplace : t.place key = .error (.duplicateKey key) := hscan
    rw [hplace] at placed
    cases placed
  · have hplace : t.place key = .ok (0 + before.length) := hscan
    rw [hplace] at placed
    exact ⟨before, after, hrows, by simpa using placed, hb, ha⟩

theorem countBelow_of_split {t : Table} {key : UInt64} {before after : List Profile}
    (split : t.rows.toList = before ++ after) (smaller : ∀ q ∈ before, q.key < key)
    (larger : ∀ q ∈ after, key < q.key) : t.countBelow key = before.length := by
  have hbefore : before.countP (·.key < key) = before.length :=
    List.countP_eq_length.mpr fun q hq => decide_eq_true (smaller q hq)
  have hafter : after.countP (·.key < key) = 0 :=
    List.countP_eq_zero.mpr fun q hq h => UInt64.lt_asymm (larger q hq) (of_decide_eq_true h)
  rw [countBelow, split, List.countP_append, hbefore, hafter, Nat.add_zero]

/-- A key has a place exactly when it is in no row, and then it stands behind the smaller keys. -/
theorem place_eq_ok_iff {t : Table} (ordered : t.Ordered) {key : UInt64} {index : Nat} :
    t.place key = .ok index ↔ key ∉ t.keys ∧ index = t.countBelow key := by
  have hcount : ∀ {i}, t.place key = .ok i → i = t.countBelow key := by
    intro i placed
    obtain ⟨before, after, hrows, rfl, hb, ha⟩ := place_split ordered placed
    exact (countBelow_of_split hrows hb ha).symm
  constructor
  · intro placed
    refine ⟨fun hmem => ?_, hcount placed⟩
    have herror := (place_eq_error_iff ordered).mpr ⟨hmem, rfl⟩
    rw [placed] at herror
    cases herror
  · rintro ⟨hmem, rfl⟩
    cases h : t.place key with
    | error e => exact absurd ((place_eq_error_iff ordered).mp h).1 hmem
    | ok i => rw [hcount h]

/-! ## One profile more -/

private theorem insertIdx_append (before after : List Profile) (p : Profile) :
    (before ++ after).insertIdx before.length p = before ++ p :: after := by
  induction before with
  | nil => simp
  | cons q before ih => simp [ih]

/-- Opening the place between two parts of the rows and filling it puts a profile between them. -/
theorem insertAt_append {t : Table} {before after : List Profile} (p : Profile)
    (room : t.size < t.capacity) (split : t.rows.toList = before ++ after) :
    t.insertAt before.length p = .ok ⟨(before ++ p :: after).toArray, t.capacity⟩ := by
  obtain ⟨⟨rows⟩, capacity⟩ := t
  replace split : rows = before ++ after := split
  subst split
  have hopen : openAt ⟨⟨before ++ after⟩, capacity⟩ before.length =
      .ok ⟨(before ++ {} :: after).toArray, capacity⟩ := by
    have hin : ¬ (before ++ after).length < before.length := by simp
    simp only [openAt, isFull_eq_false_iff.mpr room, Bool.false_eq_true, ↓reduceIte,
      List.size_toArray, if_neg hin, List.insertIdxIfInBounds_toArray, insertIdx_append]
  simp only [insertAt, hopen, Except.map, setAt]
  simp

/-- In the place found for its key a profile goes in, and the table grows by it. -/
theorem insertAt_grows {t : Table} (ordered : t.Ordered) {p : Profile} {index : Nat}
    (room : t.size < t.capacity) (placed : t.place p.key = .ok index) :
    ∃ grown, t.insertAt index p = .ok grown ∧ t.Grows p index grown := by
  obtain ⟨before, after, hrows, rfl, hb, ha⟩ := place_split ordered placed
  exact ⟨_, insertAt_append p room hrows, room, rfl, before, after, hrows, rfl, rfl, hb, ha⟩

namespace Grows

variable {t grown : Table} {p : Profile} {index : Nat}

theorem size_eq (step : t.Grows p index grown) : grown.size = t.size + 1 := by
  obtain ⟨before, after, hrows, hgrown, -⟩ := step.split
  simp only [size, ← Array.length_toList, hrows, hgrown, List.length_append, List.length_cons]
  omega

/-- The rows from before are all there, in the same order. -/
theorem sublist (step : t.Grows p index grown) : t.rows.toList.Sublist grown.rows.toList := by
  obtain ⟨before, after, hrows, hgrown, -⟩ := step.split
  rw [hrows, hgrown]
  exact (List.sublist_cons_self p after).append_left before

theorem rows_eq (step : t.Grows p index grown) :
    grown.rows.toList = t.rows.toList.insertIdx index p := by
  obtain ⟨before, after, hrows, hgrown, rfl, -⟩ := step.split
  rw [hrows, hgrown, insertIdx_append]

theorem index_eq (step : t.Grows p index grown) : index = t.countBelow p.key := by
  obtain ⟨before, after, hrows, -, rfl, hb, ha⟩ := step.split
  exact (countBelow_of_split hrows hb ha).symm

/-- A profile that was added had a key of its own. -/
theorem key_not_mem (step : t.Grows p index grown) : p.key ∉ t.keys := by
  obtain ⟨before, after, hrows, -, -, hb, ha⟩ := step.split
  intro hmem
  obtain ⟨q, hq, hkey⟩ := List.mem_map.mp hmem
  rw [hrows] at hq
  rcases List.mem_append.mp hq with hq | hq
  · exact absurd (hkey ▸ hb q hq) (UInt64.lt_irrefl _)
  · exact absurd (hkey ▸ ha q hq) (UInt64.lt_irrefl _)

/-- One profile more in its place leaves a table in order. -/
theorem ordered (step : t.Grows p index grown) (before : t.Ordered) : grown.Ordered := by
  have hsize := step.size_eq
  have hroom := step.room
  refine ⟨?_, by rw [step.capacity]; omega⟩
  obtain ⟨smaller, larger, hrows, hgrown, -, hb, ha⟩ := step.split
  have hasc := before.ascending
  simp only [keys, hrows, List.map_append, List.pairwise_append] at hasc
  obtain ⟨hsmaller, hlarger, hacross⟩ := hasc
  simp only [keys, hgrown, List.map_append, List.map_cons, List.pairwise_append,
    List.pairwise_cons, List.mem_map, List.mem_cons]
  refine ⟨hsmaller, ⟨?_, hlarger⟩, ?_⟩
  · rintro _ ⟨q, hq, rfl⟩
    exact ha q hq
  · rintro _ ⟨q, hq, rfl⟩ _ (rfl | ⟨r, hr, rfl⟩)
    · exact hb q hq
    · exact hacross _ (List.mem_map_of_mem hq) _ (List.mem_map_of_mem hr)

/-- The table before, the profile and its place leave one table that can come of it. -/
theorem insertAt_eq (step : t.Grows p index grown) : t.insertAt index p = .ok grown := by
  obtain ⟨before, after, hrows, hgrown, rfl, -⟩ := step.split
  rw [insertAt_append p step.room hrows, ← hgrown, ← step.capacity]

end Grows

/-! ## Inserting and deriving -/

/-- Inserting succeeds exactly as the step by which the table grows. -/
theorem insert_eq_ok_iff {t grown : Table} (ordered : t.Ordered) {p : Profile} {index : Nat} :
    t.insert p = .ok (grown, index) ↔ t.Grows p index grown := by
  constructor
  · intro h
    unfold insert at h
    split at h
    next => cases h
    next hfull =>
      have hroom := not_isFull_iff.mp hfull
      cases hplace : t.place p.key with
      | error e => rw [hplace] at h; cases h
      | ok i =>
        obtain ⟨t', hinsert, hgrows⟩ := insertAt_grows ordered hroom hplace
        rw [hplace] at h
        change (t.insertAt i p >>= fun g => .ok (g, i)) = .ok (grown, index) at h
        rw [hinsert] at h
        cases h
        exact hgrows
  · intro step
    have hplace := (place_eq_ok_iff ordered).mpr ⟨step.key_not_mem, step.index_eq⟩
    unfold insert
    rw [if_neg (not_isFull_iff.mpr step.room), hplace]
    change (t.insertAt index p >>= fun g => .ok (g, index)) = .ok (grown, index)
    rw [step.insertAt_eq]
    rfl

/-- Inserting fails on a full table whatever the key, and otherwise on a key that is there. -/
theorem insert_eq_error_iff {t : Table} (ordered : t.Ordered) {p : Profile} {e : TableError} :
    t.insert p = .error e ↔
      (t.size = t.capacity ∧ e = .full t.capacity) ∨
        (t.size < t.capacity ∧ p.key ∈ t.keys ∧ e = .duplicateKey p.key) := by
  unfold insert
  split
  next hfull =>
    have hsize := ordered.isFull_iff.mp hfull
    constructor
    · intro h
      exact .inl ⟨hsize, (Except.error.inj h).symm⟩
    · rintro (⟨_, rfl⟩ | ⟨hroom, -⟩)
      · rfl
      · omega
  next hfull =>
    have hroom := not_isFull_iff.mp hfull
    cases hplace : t.place p.key with
    | error d =>
      obtain ⟨hmem, rfl⟩ := (place_eq_error_iff ordered).mp hplace
      constructor
      · intro h
        exact .inr ⟨hroom, hmem, (Except.error.inj h).symm⟩
      · rintro (⟨hsize, -⟩ | ⟨-, -, rfl⟩)
        · omega
        · rfl
    | ok i =>
      obtain ⟨grown, hinsert, -⟩ := insertAt_grows ordered hroom hplace
      have hmem := ((place_eq_ok_iff ordered).mp hplace).1
      change (t.insertAt i p >>= fun g => .ok (g, i)) = .error e ↔ _
      rw [hinsert]
      constructor
      · intro h
        cases h
      · rintro (⟨hsize, -⟩ | ⟨-, hin, -⟩)
        · omega
        · exact absurd hin hmem

/-- A derived profile has the key asked for, and the place found for that key. -/
theorem synthesize_ok {t : Table} {reference : Nat} {key : UInt64} {precision : Float}
    {f : Approximation} {live : Option Load} {new : Synthesized}
    (h : t.synthesize reference key precision f live = .ok new) :
    t.place key = .ok new.index ∧ new.profile.key = key := by
  unfold synthesize at h
  cases hrow : t.rows[reference]? with
  | none => rw [hrow] at h; cases h
  | some row =>
    rw [hrow] at h
    cases hplace : t.place key with
    | error e => rw [hplace] at h; cases h
    | ok index =>
      rw [hplace] at h
      cases h
      refine ⟨rfl, ?_⟩
      rw [Profile.key_storeAll (by decide), Profile.key_storeAll (by decide)]
      cases live with
      | some l => rfl
      | none => exact Profile.key_storeAll (by decide) _ _

/-- Deriving and inserting succeeds exactly as the step by which the table grows by what was
derived. -/
theorem augment_eq_ok_iff {t grown : Table} (ordered : t.Ordered) {reference index : Nat}
    {key : UInt64} {precision : Float} {f : Approximation} {live : Option Load} :
    t.augment reference key precision f live = .ok (grown, index) ↔
      ∃ p, t.synthesize reference key precision f live = .ok ⟨index, p⟩ ∧
        t.Grows p index grown := by
  unfold augment
  by_cases hfull : t.isFull
  · rw [if_pos hfull]
    constructor
    · intro h
      cases h
    · rintro ⟨p, -, step⟩
      exact absurd hfull (not_isFull_iff.mpr step.room)
  · rw [if_neg hfull]
    have hroom := not_isFull_iff.mp hfull
    cases hnew : t.synthesize reference key precision f live with
    | error e =>
      constructor
      · intro h
        cases h
      · rintro ⟨p, h, -⟩
        cases h
    | ok new =>
      obtain ⟨hplace, hkey⟩ := synthesize_ok hnew
      obtain ⟨t', hinsert, hgrows⟩ := insertAt_grows ordered hroom (hkey ▸ hplace)
      change (t.insertAt new.index new.profile >>= fun g => .ok (g, new.index)) = _ ↔ _
      rw [hinsert]
      constructor
      · intro h
        cases h
        exact ⟨new.profile, rfl, hgrows⟩
      · rintro ⟨p, h, step⟩
        cases h
        rw [step.insertAt_eq] at hinsert
        cases hinsert
        rfl

/-- A table made of a list by inserting is in order, and its capacity is the one it was given. -/
theorem ofList_ordered (capacity : Nat) (profiles : List Profile) :
    (ofList capacity profiles).Ordered ∧ (ofList capacity profiles).capacity = capacity := by
  refine List.foldlRecOn (motive := fun t : Table => t.Ordered ∧ t.capacity = capacity) profiles _
    ⟨ordered_ofCapacity capacity, rfl⟩ ?_
  rintro t ⟨ordered, hcapacity⟩ p -
  split
  next grown index h =>
    have step := (insert_eq_ok_iff ordered).mp h
    exact ⟨step.ordered ordered, step.capacity.trans hcapacity⟩
  next => exact ⟨ordered, hcapacity⟩

end NetworkTuning.Table
