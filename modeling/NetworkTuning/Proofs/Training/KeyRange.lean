import NetworkTuning.Proofs.Table.Extremes
import NetworkTuning.Proofs.Table.Growth
import NetworkTuning.Proofs.Training.Team

/-!
# The range of drawn keys

A key is drawn below the largest key of the table. What comes out is a number between zero and that
key, or it is the smallest key of the table, which stands for a drawn zero (`drawKey_cases`).

**One step** (`advance_cases_keys`): only a number between zero and the largest key can be inserted,
for the smallest key is in the table already. So the largest key stays what it is and the smallest
key may only fall. **A run** (`run_filled`) of any workers therefore fills the table between zero
and the largest key it began with, and never beyond.
-/

namespace NetworkTuning

open NetworkTuning.Random

/-- A table that has come out of another one by rows with keys between zero and its largest one. -/
structure Table.Filled (first t : Table) : Prop where
  ordered : t.Ordered
  largest : t.maxKey? = first.maxKey?
  added : ∃ added : List Profile, t.rows.toList.Perm (first.rows.toList ++ added) ∧
    ∀ p ∈ added, 0 < p.key ∧ ∃ most, first.maxKey? = some most ∧ p.key < most

namespace Table

variable {first t grown : Table} {p : Profile} {index : Nat} {most : UInt64}

theorem Ordered.filled (ordered : t.Ordered) : t.Filled t := by
  refine ⟨ordered, rfl, [], ?_, ?_⟩
  · rw [List.append_nil]
  · intro p hp
    cases hp

/-- One row more between zero and the largest key. -/
theorem Filled.grow (filled : first.Filled t) (step : t.Grows p index grown)
    (positive : 0 < p.key) (largest : t.maxKey? = some most) (below : p.key < most) :
    first.Filled grown := by
  obtain ⟨added, hperm, hadded⟩ := filled.added
  refine ⟨step.ordered filled.ordered, ?_, added ++ [p], ?_, ?_⟩
  · rw [step.maxKey?_eq filled.ordered largest below, ← filled.largest, largest]
  · rw [← List.append_assoc]
    exact step.gains.perm.trans (hperm.append_right [p])
  · intro q hq
    rcases List.mem_append.mp hq with hq | hq
    · exact hadded q hq
    · obtain rfl := List.mem_singleton.mp hq
      exact ⟨positive, most, filled.largest ▸ largest, below⟩

end Table

namespace Training

variable {t : Table} {draws : Draws} {key most : UInt64}

/-! ## Drawing -/

theorem drawKey_eq_none (h : ∀ most, t.maxKey? = some most → most = 0) :
    (drawKey draws t).1 = none := by
  unfold drawKey
  cases hlargest : t.maxKey? with
  | none => rfl
  | some most =>
    change Prod.fst (ite (most = 0) _ _) = _
    rw [if_pos (h most hlargest)]

/-- A drawn key lies between zero and the largest key, or it is the smallest key. -/
theorem drawKey_cases (h : (drawKey draws t).1 = some key) :
    ∃ most, t.maxKey? = some most ∧ 0 < most ∧
      (0 < key ∧ key < most ∨ t.minKey? = some key) := by
  by_cases hsome : ∃ most, t.maxKey? = some most ∧ 0 < most
  · obtain ⟨most, hlargest, hpositive⟩ := hsome
    rw [drawKey_eq hlargest hpositive] at h
    have hbelow := below_lt hpositive draws
    generalize (draws.below most).1 = drawn at h hbelow
    refine ⟨most, hlargest, hpositive, ?_⟩
    by_cases hzero : drawn = 0
    · rw [if_pos hzero] at h
      exact .inr h
    · rw [if_neg hzero] at h
      obtain rfl := Option.some.inj h
      exact .inl ⟨UInt64.pos_iff_ne_zero.mpr hzero, hbelow⟩
  · have hnone : ∀ most, t.maxKey? = some most → most = 0 := by
      intro most hlargest
      by_contra hmost
      exact hsome ⟨most, hlargest, UInt64.pos_iff_ne_zero.mpr hmost⟩
    rw [drawKey_eq_none hnone] at h
    cases h

/-! ## One step -/

/-- A worker that advances leaves the table, or inserts a row whose key it has drawn. -/
theorem advance_cases_keys (w : Worker) {s : Shared} (ordered : s.table.Ordered) :
    (w.advance s).2.table = s.table ∨
      ∃ p index, s.table.Grows p index (w.advance s).2.table ∧
        (drawKey w.draws s.table).1 = some p.key := by
  rcases advance_cases w s with
    ⟨draws, h⟩ | ⟨key, draws, hdraw, g, table, metrics, result, hstep, h⟩
  · rw [h]
    exact .inl rfl
  · have hstepped := step_stepped ordered key g s.settings none s.metrics
    rw [hstep] at hstepped
    rw [h, hdraw]
    cases hstepped with
    | full | missed | duplicate => exact .inl rfl
    | inserted _ _ hkey hgrows => exact .inr ⟨_, _, hgrows, congrArg some hkey.symm⟩

/-- What is inserted lies between zero and the largest key, for the smallest key is in the table. -/
theorem key_between {p : Profile} {index : Nat} {grown : Table} (ordered : t.Ordered)
    (step : t.Grows p index grown) (drawn : (drawKey draws t).1 = some p.key) :
    ∃ most, t.maxKey? = some most ∧ 0 < p.key ∧ p.key < most := by
  obtain ⟨most, hlargest, -, ⟨hpositive, hbelow⟩ | hleast⟩ := drawKey_cases drawn
  · exact ⟨most, hlargest, hpositive, hbelow⟩
  · exact absurd (ordered.minKey?_eq_some_iff.mp hleast).1 step.key_not_mem

/-- A worker that draws zero does not change the table. -/
theorem advance_zero (w : Worker) {s : Shared} (ordered : s.table.Ordered)
    (largest : s.table.maxKey? = some most) (zero : (w.draws.below most).1 = 0) :
    (w.advance s).2.table = s.table := by
  rcases advance_cases_keys w ordered with h | ⟨p, index, hgrows, hdraw⟩
  · exact h
  · obtain ⟨most', hlargest, hpositive, hbelow⟩ := key_between ordered hgrows hdraw
    obtain rfl := Option.some.inj (largest.symm.trans hlargest)
    -- there was a key to draw, so the zero stands for the smallest key
    rw [drawKey_eq largest (UInt64.lt_trans hpositive hbelow), if_pos zero] at hdraw
    exact absurd (ordered.minKey?_eq_some_iff.mp hdraw).1 hgrows.key_not_mem

/-! ## Runs -/

namespace Team

variable {path : String} {first : Table}

/-- What holds of what is shared before and after whoever acts holds after the act. -/
theorem act_shared {motive : Shared → Prop} {t : Team} {place : Nat}
    {f : Worker → Shared → Worker × Shared} (before : motive t.shared)
    (after : ∀ w, motive (f w t.shared).2) : motive (t.act place f).shared := by
  unfold act
  split
  next => exact before
  next w _ => exact after w

/-- **One step.** Whatever moves, rows are added between zero and the largest key only. -/
theorem move_filled {t : Team} (filled : first.Filled t.shared.table) (m : Move) :
    first.Filled (t.move path m).shared.table := by
  cases m with
  | advance place draws settings readings =>
    refine act_shared (motive := fun s => first.Filled s.table) filled fun w => ?_
    split
    next => exact filled
    next =>
      rcases advance_cases_keys { w with draws } (s := { t.shared with settings, readings })
        filled.ordered with h | ⟨p, index, hgrows, hdraw⟩
      · rw [h]
        exact filled
      · obtain ⟨most, hlargest, hpositive, hbelow⟩ := key_between filled.ordered hgrows hdraw
        exact filled.grow hgrows hpositive hlargest hbelow
  | save place =>
    refine act_shared (motive := fun s => first.Filled s.table) filled fun w => ?_
    rw [(save_saved path w t.shared).1.table]
    exact filled
  | stop place => exact act_shared (motive := fun s => first.Filled s.table) filled fun _ => filled

/-- A run of any length adds rows between zero and the largest key only. -/
theorem run_filled {t : Team} (filled : first.Filled t.shared.table) (moves : List Move) :
    first.Filled (t.run path moves).shared.table := by
  induction moves generalizing t with
  | nil => exact filled
  | cons m rest ih => exact ih (move_filled filled m)

/-- **The range of keys.** However many workers start on a table that was made by inserting,
whatever they draw and look up and however their steps interleave: the largest key of the table is
always the one it began with, and each row that was added has a key strictly between zero and that
one. At any time a worker that draws zero takes the smallest key for it, and leaves the table as it
is. -/
theorem run_keeps_key_range (path : String) (capacity : Nat) (profiles : List Profile)
    (streams : List Draws) (s : Shared) (moves : List Move) :
    let first := Table.ofList capacity profiles
    let last := ((start streams { s with table := first }).run path moves).shared.table
    last.maxKey? = first.maxKey? ∧
      (∀ most, last.maxKey? = some most ↔ most ∈ last.keys ∧ ∀ key ∈ last.keys, key ≤ most) ∧
      (∀ least, last.minKey? = some least ↔ least ∈ last.keys ∧ ∀ key ∈ last.keys, least ≤ key) ∧
      (∃ added : List Profile, last.rows.toList.Perm (first.rows.toList ++ added) ∧
        ∀ p ∈ added, 0 < p.key ∧ ∃ most, first.maxKey? = some most ∧ p.key < most) ∧
      ∀ (w : Worker) (seen : Shared) (most : UInt64), seen.table = last →
        last.maxKey? = some most → 0 < most → (w.draws.below most).1 = 0 →
          (drawKey w.draws last).1 = last.minKey? ∧ (w.advance seen).2.table = last := by
  intro first last
  have hordered : first.Ordered := (Table.ofList_ordered capacity profiles).1
  have hfilled : first.Filled last :=
    run_filled (t := start streams { s with table := first }) hordered.filled moves
  refine ⟨hfilled.largest, fun _ => hfilled.ordered.maxKey?_eq_some_iff,
    fun _ => hfilled.ordered.minKey?_eq_some_iff, hfilled.added, ?_⟩
  intro w seen most hseen hlargest hpositive hzero
  rw [← hseen] at hlargest ⊢
  refine ⟨?_, advance_zero w (hseen ▸ hfilled.ordered) hlargest hzero⟩
  rw [drawKey_eq hlargest hpositive, if_pos hzero]

end Team

end Training

end NetworkTuning
