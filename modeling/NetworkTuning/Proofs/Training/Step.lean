import NetworkTuning.Proofs.Table.Growth
import NetworkTuning.Proofs.Table.Search
import NetworkTuning.Training.Basic

/-!
# What a training step can do

A training step comes to one of four things, and `Taken` says for each, on any table, what becomes
of the table and of the metrics and under which condition it happens. The row that a search finds is
in the table and there is room, so deriving from it can fail only because the key is there already:
the other refusals of deriving never reach a step (`step_taken`).

On a table in order `Stepped` says more: a full table is full to the last place, the refused key is
in the table, and the table that grows keeps its order (`step_stepped`).
-/

namespace NetworkTuning.Training

/-- What a step for a key comes to on any table: the table after it, the metrics after it, and its
outcome. -/
inductive Taken (t : Table) (key : UInt64) (g : Target) (s : Settings) (live : Option Load)
    (m : Metrics) : Table × Metrics × Step → Prop
  | full : t.isFull = true → Taken t key g s live m (t, m, .full)
  | missed : t.size < t.capacity → (find t.rows g.score g.tolerance s.weights).found = none →
      Taken t key g s live m
        (t, m.search false, .missed key (find t.rows g.score g.tolerance s.weights).closest)
  | duplicate {reference : Nat} : t.size < t.capacity →
      (find t.rows g.score g.tolerance s.weights).found = some reference →
      t.place key = .error (.duplicateKey key) →
      Taken t key g s live m (t, (m.search true).duplicateKey, .duplicate key)
  | inserted {reference index : Nat} {grown : Table} : t.size < t.capacity →
      (find t.rows g.score g.tolerance s.weights).found = some reference →
      t.augment reference key g.precision s.approximation live = .ok (grown, index) →
      Taken t key g s live m (grown, (m.search true).insertion, .inserted index key)

/-- A step does one of the four things. -/
theorem step_taken (t : Table) (key : UInt64) (g : Target) (s : Settings) (live : Option Load)
    (m : Metrics) : Taken t key g s live m (step t key g s live m) := by
  unfold step Target.search
  by_cases hfull : t.isFull
  · rw [if_pos hfull]
    exact .full hfull
  · rw [if_neg hfull]
    have hroom := Table.not_isFull_iff.mp hfull
    cases hfound : (find t.rows g.score g.tolerance s.weights).found with
    | none =>
      simp only [hfound, Option.isSome_none]
      exact .missed hroom hfound
    | some reference =>
      obtain ⟨row, hrow, -⟩ := find_found hfound
      simp only [hfound, Option.isSome_some]
      cases haugment : t.augment reference key g.precision s.approximation live with
      | ok r => exact .inserted hroom hfound haugment
      | error e =>
        have hplace := Table.augment_error hroom hrow haugment
        obtain rfl := Table.place_error hplace
        exact .duplicate hroom hfound hplace

/-- What a step for a key comes to: the table after it, the metrics after it, and its outcome. -/
inductive Stepped (t : Table) (key : UInt64) (g : Target) (s : Settings) (live : Option Load)
    (m : Metrics) : Table × Metrics × Step → Prop
  | full : t.size = t.capacity → Stepped t key g s live m (t, m, .full)
  | missed : t.size < t.capacity → (find t.rows g.score g.tolerance s.weights).found = none →
      Stepped t key g s live m
        (t, m.search false, .missed key (find t.rows g.score g.tolerance s.weights).closest)
  | duplicate {reference : Nat} : t.size < t.capacity →
      (find t.rows g.score g.tolerance s.weights).found = some reference → key ∈ t.keys →
      Stepped t key g s live m (t, (m.search true).duplicateKey, .duplicate key)
  | inserted {reference index : Nat} {p : Profile} {grown : Table} :
      (find t.rows g.score g.tolerance s.weights).found = some reference →
      t.synthesize reference key g.precision s.approximation live = .ok ⟨index, p⟩ →
      p.key = key → t.Grows p index grown →
      Stepped t key g s live m (grown, (m.search true).insertion, .inserted index key)

/-- A step on a table in order does one of the four things. -/
theorem step_stepped {t : Table} (ordered : t.Ordered) (key : UInt64) (g : Target) (s : Settings)
    (live : Option Load) (m : Metrics) :
    Stepped t key g s live m (step t key g s live m) := by
  have htaken := step_taken t key g s live m
  generalize step t key g s live m = result at htaken ⊢
  cases htaken with
  | full hfull => exact .full (ordered.isFull_iff.mp hfull)
  | missed hroom hfound => exact .missed hroom hfound
  | duplicate hroom hfound hplace =>
    exact .duplicate hroom hfound ((Table.place_eq_error_iff ordered).mp hplace).1
  | inserted hroom hfound haugment =>
    obtain ⟨p, hnew, hgrows⟩ := (Table.augment_eq_ok_iff ordered).mp haugment
    exact .inserted hfound hnew (Table.synthesize_ok hnew).2 hgrows

end NetworkTuning.Training
