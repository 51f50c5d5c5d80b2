import NetworkTuning.Proofs.Table.Order

/-!
# Calls on a table in place

The operations of a table are functions from the table before to the table after. A table that is
changed in place goes through stages: it is looked at, a place is opened, and the place is filled. A
stage that refuses leaves whatever the stages before it have done.

`Call.on_eq` says that this makes no difference: a call in place answers as the function does, on
success it leaves the function's table, and on a refusal the table it found. So the functions may
stand for the calls, and the one-step facts of the order of a table carry over to runs of calls of
any length (`afterAll_ordered`).

**The law** (`calls_keep_order_and_answer`): whatever was called before, a table that started empty
is in order, inserting succeeds exactly when there is room and the key is new, and a call that
refuses changes nothing.
-/

namespace NetworkTuning.Table

/-- Work on a table in place: what was changed before a refusal stays changed. -/
abbrev InPlace (α : Type) := ExceptT TableError (StateM Table) α

namespace InPlace

variable {α β : Type}

/-- Opens a place, which holds an all-zero profile until it is filled. -/
def openAt (index : Nat) : InPlace Unit := do
  let t ← get
  if t.isFull then throw (.full t.capacity)
  if t.rows.size < index then throw (.outOfRange index t.rows.size)
  set { t with rows := t.rows.insertIdxIfInBounds index {} }

/-- Opens a place and fills it. -/
def insertAt (index : Nat) (p : Profile) : InPlace Unit := do
  openAt index
  modify (·.setAt index p)

/-- Puts a profile in a place and answers with the place. -/
def put (index : Nat) (p : Profile) : InPlace Nat := do
  insertAt index p
  return index

/-- Inserts a profile where its key belongs. -/
def insert (p : Profile) : InPlace Nat := do
  let t ← get
  if t.isFull then throw (.full t.capacity)
  let index ← liftM (t.place p.key)
  put index p

/-- Derives a profile and inserts it. -/
def augment (reference : Nat) (key : UInt64) (precision : Float) (f : Approximation)
    (live : Option Load) : InPlace Nat := do
  let t ← get
  if t.isFull then throw (.full t.capacity)
  let new ← liftM (t.synthesize reference key precision f live)
  put new.index new.profile

/-! ## Stages and functions -/

/-- What a function's result means for the table it was computed from: a refusal leaves it. -/
def settle (t : Table) : Except TableError (Table × α) → Except TableError α × Table
  | .ok (after, a) => (.ok a, after)
  | .error e => (.error e, t)

theorem run_bind {σ : Type} (x : ExceptT TableError (StateM σ) α)
    (f : α → ExceptT TableError (StateM σ) β) (t : σ) :
    (x >>= f).run.run t = match x.run.run t with
      | (.ok a, after) => (f a).run.run after
      | (.error e, after) => (.error e, after) := by
  show (match x.run.run t with
    | (a, after) => (ExceptT.bindCont f a).run after) = _
  rcases x.run.run t with ⟨_ | _, _⟩ <;> rfl

theorem run_get_bind {σ : Type} (f : σ → ExceptT TableError (StateM σ) β) (t : σ) :
    (get >>= f).run.run t = (f t).run.run t := rfl

theorem run_lift_bind {σ : Type} (x : Except TableError α)
    (f : α → ExceptT TableError (StateM σ) β) (t : σ) :
    ((liftM x : ExceptT TableError (StateM σ) α) >>= f).run.run t = match x with
      | .ok a => (f a).run.run t
      | .error e => (.error e, t) := by
  cases x <;> rfl

theorem openAt_run (index : Nat) (t : Table) :
    (openAt index).run.run t = settle t ((t.openAt index).map (·, ())) := by
  unfold Table.openAt InPlace.openAt
  rw [run_get_bind]
  by_cases hfull : t.isFull
  · rw [if_pos hfull, if_pos hfull]
    rfl
  · rw [if_neg hfull, if_neg hfull]
    by_cases hplace : t.rows.size < index
    · rw [if_pos hplace, if_pos hplace]
      rfl
    · rw [if_neg hplace, if_neg hplace]
      rfl

/-- Only the opening of a place can refuse, so no profile is left half put in. -/
theorem insertAt_run (index : Nat) (p : Profile) (t : Table) :
    (insertAt index p).run.run t = settle t ((t.insertAt index p).map (·, ())) := by
  unfold Table.insertAt InPlace.insertAt
  rw [run_bind, openAt_run]
  cases t.openAt index with
  | error e => rfl
  | ok opened => rfl

theorem put_run (index : Nat) (p : Profile) (t : Table) :
    (put index p).run.run t =
      settle t (t.insertAt index p >>= fun grown => .ok (grown, index)) := by
  unfold put
  rw [run_bind, insertAt_run]
  cases t.insertAt index p with
  | error e => rfl
  | ok grown => rfl

theorem insert_run (p : Profile) (t : Table) :
    (insert p).run.run t = settle t (t.insert p) := by
  unfold Table.insert InPlace.insert
  rw [run_get_bind]
  by_cases hfull : t.isFull
  · rw [if_pos hfull, if_pos hfull]
    rfl
  · rw [if_neg hfull, if_neg hfull, run_lift_bind]
    cases t.place p.key with
    | error e => rfl
    | ok index => exact put_run index p t

theorem augment_run (reference : Nat) (key : UInt64) (precision : Float) (f : Approximation)
    (live : Option Load) (t : Table) :
    (augment reference key precision f live).run.run t =
      settle t (t.augment reference key precision f live) := by
  unfold Table.augment InPlace.augment
  rw [run_get_bind]
  by_cases hfull : t.isFull
  · rw [if_pos hfull, if_pos hfull]
    rfl
  · rw [if_neg hfull, if_neg hfull, run_lift_bind]
    cases t.synthesize reference key precision f live with
    | error e => rfl
    | ok new => exact put_run new.index new.profile t

end InPlace

/-! ## Calls -/

/-- The calls that add to a table. -/
inductive Call where
  | insert (p : Profile)
  | augment (reference : Nat) (key : UInt64) (precision : Float) (f : Approximation)
      (live : Option Load)

namespace Call

/-- What a call does in place. -/
def perform : Call → InPlace Nat
  | .insert p => InPlace.insert p
  | .augment reference key precision f live => InPlace.augment reference key precision f live

/-- The answer to a call on a table, and the table it leaves. -/
def on (c : Call) (t : Table) : Except TableError Nat × Table := c.perform.run.run t

/-- The function that a call stands for. -/
def result (c : Call) (t : Table) : Except TableError (Table × Nat) :=
  match c with
  | .insert p => t.insert p
  | .augment reference key precision f live => t.augment reference key precision f live

/-- A call in place does what its function says, and nothing when the function refuses. -/
theorem on_eq (c : Call) (t : Table) : c.on t = InPlace.settle t (c.result t) := by
  cases c with
  | insert p => exact InPlace.insert_run p t
  | augment reference key precision f live =>
    exact InPlace.augment_run reference key precision f live t

/-- A call that refuses leaves the table it found. -/
theorem on_eq_error_iff {c : Call} {t after : Table} {e : TableError} :
    c.on t = (.error e, after) ↔ c.result t = .error e ∧ after = t := by
  rw [on_eq]
  cases c.result t with
  | error d =>
    simp only [InPlace.settle, Prod.mk.injEq, Except.error.injEq]
    exact and_congr_right fun _ => eq_comm
  | ok r => simp only [InPlace.settle, Prod.mk.injEq, reduceCtorEq, false_and]

theorem on_eq_ok_iff {c : Call} {t after : Table} {index : Nat} :
    c.on t = (.ok index, after) ↔ c.result t = .ok (after, index) := by
  rw [on_eq]
  cases c.result t with
  | error d => simp only [InPlace.settle, Prod.mk.injEq, reduceCtorEq, false_and]
  | ok r =>
    simp only [InPlace.settle, Except.ok.injEq, Prod.ext_iff]
    exact and_comm

/-- A call that succeeds adds one profile in its place. -/
theorem grows_of_result {c : Call} {t grown : Table} {index : Nat} (ordered : t.Ordered)
    (h : c.result t = .ok (grown, index)) : ∃ p, t.Grows p index grown := by
  cases c with
  | insert p => exact ⟨p, (insert_eq_ok_iff ordered).mp h⟩
  | augment reference key precision f live =>
    obtain ⟨p, -, step⟩ := (augment_eq_ok_iff ordered).mp h
    exact ⟨p, step⟩

end Call

/-- The table after calls, those that were refused included. -/
def afterAll (t : Table) : List Call → Table
  | [] => t
  | c :: rest => (c.on t).2.afterAll rest

/-- One call keeps a table in order and its capacity. -/
theorem on_ordered (c : Call) {t : Table} (ordered : t.Ordered) :
    (c.on t).2.Ordered ∧ (c.on t).2.capacity = t.capacity := by
  rw [Call.on_eq]
  cases h : c.result t with
  | error e => exact ⟨ordered, rfl⟩
  | ok r =>
    obtain ⟨p, step⟩ := Call.grows_of_result ordered h
    exact ⟨step.ordered ordered, step.capacity⟩

/-- Calls of any number keep a table in order and its capacity. -/
theorem afterAll_ordered (calls : List Call) {t : Table} (ordered : t.Ordered) :
    (t.afterAll calls).Ordered ∧ (t.afterAll calls).capacity = t.capacity := by
  induction calls generalizing t with
  | nil => exact ⟨ordered, rfl⟩
  | cons c rest ih =>
    obtain ⟨hordered, hcapacity⟩ := on_ordered c ordered
    obtain ⟨hall, hall'⟩ := ih hordered
    exact ⟨hall, hall'.trans hcapacity⟩

/-- **A table over whole runs.** After any calls on an empty table its keys ascend strictly, its
size is at most the capacity it was made with, and the next call behaves so: inserting succeeds
exactly when there is room and the key is new, with the number of smaller keys as its place and the
profile put in there and nothing else changed; otherwise it is refused, a full table before a
duplicate key; and any call that is refused leaves the table as it was. -/
theorem calls_keep_order_and_answer (capacity : Nat) (calls : List Call) :
    let t := (ofCapacity capacity).afterAll calls
    t.keys.Pairwise (· < ·) ∧ t.size ≤ capacity ∧ t.capacity = capacity ∧
      (∀ p index grown, (Call.insert p).on t = (.ok index, grown) ↔
        t.size < capacity ∧ p.key ∉ t.keys ∧ index = t.countBelow p.key ∧
          grown = ⟨(t.rows.toList.insertIdx index p).toArray, capacity⟩) ∧
      (∀ p e after, (Call.insert p).on t = (.error e, after) ↔
        after = t ∧ (t.size = capacity ∧ e = .full capacity ∨
          t.size < capacity ∧ p.key ∈ t.keys ∧ e = .duplicateKey p.key)) ∧
      ∀ (c : Call) e after, c.on t = (.error e, after) → after = t := by
  obtain ⟨ordered, hcapacity⟩ := afterAll_ordered calls (ordered_ofCapacity capacity)
  change ((ofCapacity capacity).afterAll calls).capacity = capacity at hcapacity
  generalize (ofCapacity capacity).afterAll calls = t at ordered hcapacity
  subst hcapacity
  refine ⟨ordered.ascending, ordered.fits, rfl, ?_, ?_, ?_⟩
  · intro p index grown
    rw [Call.on_eq_ok_iff, Call.result, insert_eq_ok_iff ordered]
    constructor
    · intro step
      refine ⟨step.room, step.key_not_mem, step.index_eq, ?_⟩
      rw [← step.rows_eq, ← step.capacity]
    · rintro ⟨hroom, hnew, rfl, rfl⟩
      have hplace := (place_eq_ok_iff ordered).mpr ⟨hnew, rfl⟩
      obtain ⟨grown, -, step⟩ := insertAt_grows ordered hroom hplace
      rwa [← step.rows_eq, ← step.capacity]
  · intro p e after
    rw [Call.on_eq_error_iff, Call.result, insert_eq_error_iff ordered, and_comm]
  · intro c e after h
    exact (Call.on_eq_error_iff.mp h).2

end NetworkTuning.Table
