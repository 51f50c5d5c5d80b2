import NetworkTuning.Proofs.Table.Beside
import NetworkTuning.Proofs.Table.Calls
import NetworkTuning.Proofs.Training.Choices

/-!
# What happens inside a call

Putting a profile in a place relies on the caller for the order of the table, and a training step
has a branch for refusals of deriving that should not occur. Neither shows in an answer. So the
calls that change a table are written once more, on a table in place, with a record of what happens
inside them: each profile that is put in a place, each derivation, and each refusal that a training
step does not expect.

**One step** (`Act.watch_agrees`): watching changes no answer, no table and no metrics. On a table
in order it records only what is sound (`Sight.Sound`), and a table that grows stays in order; so a
watched table that is sound stays sound. **A run** (`run_agrees`) goes on from there, and from an
empty table it comes to `assertions_hold`: every profile is put where it fits and where there is
room, everything derived is pulled back to the two rows beside its key, and no training step is ever
refused a profile unexpectedly.
-/

namespace NetworkTuning.Training

open Table (InPlace Call)

/-- What happens inside a call. -/
inductive Sight where
  /-- A profile is put in a place of a table. -/
  | inserting (t : Table) (index : Nat) (p : Profile)
  /-- A profile is derived from a row of a table. -/
  | synthesizing (t : Table) (reference : Nat) (key : UInt64) (precision : Float)
      (f : Approximation) (live : Option Load)
  /-- A training step is refused a derived profile, though neither is the key there nor the table
  full. -/
  | refused (e : TableError)

/-- A table and its metrics, with all that was seen to happen so far. -/
structure Watch where
  table : Table
  metrics : Metrics
  sights : List Sight := []

/-- Work on a watched table. -/
abbrev Watched (α : Type) := ExceptT TableError (StateM Watch) α

namespace Watched

/-- Records what happens. -/
def see (s : Sight) : StateM Watch Unit :=
  modify fun w => { w with sights := w.sights ++ [s] }

/-- Changes the metrics. -/
def count (f : Metrics → Metrics) : StateM Watch Unit :=
  modify fun w => { w with metrics := f w.metrics }

/-- Work on the table in place. -/
def onTable {α : Type} (x : InPlace α) : Watched α := ExceptT.mk fun w =>
  let (answer, table) := x.run.run w.table
  (answer, { w with table })

/-- Puts a profile in a place and answers with the place. -/
def put (index : Nat) (p : Profile) : Watched Nat := do
  see (.inserting (← get).table index p)
  onTable (InPlace.put index p)

/-- Inserts a profile where its key belongs. -/
def insert (p : Profile) : Watched Nat := do
  let w ← get
  if w.table.isFull then throw (.full w.table.capacity)
  let index ← liftM (w.table.place p.key)
  put index p

/-- Derives a profile and inserts it. -/
def augment (reference : Nat) (key : UInt64) (precision : Float) (f : Approximation)
    (live : Option Load) : Watched Nat := do
  let w ← get
  if w.table.isFull then throw (.full w.table.capacity)
  see (.synthesizing w.table reference key precision f live)
  let new ← liftM (w.table.synthesize reference key precision f live)
  put new.index new.profile

/-- What a training step makes of the answer to deriving a profile. -/
def conclude (key : UInt64) (closest : Option Nat) : Except TableError Nat → StateM Watch Step
  | .ok index => do
    count Metrics.insertion
    return .inserted index key
  | .error (.duplicateKey key) => do
    count Metrics.duplicateKey
    return .duplicate key
  | .error (.full _) => return .full
  | .error e => do
    see (.refused e)
    return .missed key closest

/-- Takes a training step. -/
def step (task : Task) : StateM Watch Step := do
  let w ← get
  if w.table.isFull then return .full
  else
    let (result, metrics) := task.target.search w.table task.settings.weights w.metrics
    set { w with metrics }
    match result.found with
    | none => return .missed task.key result.closest
    | some reference =>
      let answer ← (augment reference task.key task.target.precision task.settings.approximation
        task.live).run
      conclude task.key result.closest answer

end Watched

/-! ## What is sound -/

/-- What is sound to happen: a profile fits its place, which can be opened, and what is derived is
pulled back to the two rows beside its key. -/
def Sight.Sound : Sight → Prop
  | inserting t index p => t.Fits index p ∧ ∃ opened, t.openAt index = .ok opened
  | synthesizing t reference key precision f live =>
    ∀ new, t.synthesize reference key precision f live = .ok new →
      ∃ left right, t.IsNextBelow key left ∧ t.IsNextAbove key right ∧
        t.PulledTo reference key precision f live new left right
  | refused _ => False

/-- A table is in order, what was seen is sound, and each row was seen being put in. -/
structure Watch.Sound (w : Watch) : Prop where
  ordered : w.table.Ordered
  sights : ∀ s ∈ w.sights, s.Sound
  noticed : ∀ p ∈ w.table.rows, ∃ t index, Sight.inserting t index p ∈ w.sights

namespace Watch.Sound

variable {w : Watch}

theorem see {s : Sight} (sound : w.Sound) (seen : s.Sound) :
    Sound { w with sights := w.sights ++ [s] } := by
  refine ⟨sound.ordered, fun r hr => ?_, fun p hp => ?_⟩
  · rcases List.mem_append.mp hr with hr | hr
    · exact sound.sights r hr
    · exact List.mem_singleton.mp hr ▸ seen
  · obtain ⟨t, index, hmem⟩ := sound.noticed p hp
    exact ⟨t, index, List.mem_append_left _ hmem⟩

theorem count (sound : w.Sound) (metrics : Metrics) : Sound { w with metrics } :=
  ⟨sound.ordered, sound.sights, sound.noticed⟩

/-- A table stays sound when it grows by a profile that was seen being put in. -/
theorem grow {p : Profile} {index place : Nat} {t grown : Table} (sound : w.Sound)
    (step : w.table.Grows p index grown) (seen : Sight.inserting t place p ∈ w.sights) :
    Sound { w with table := grown } := by
  refine ⟨step.ordered sound.ordered, sound.sights, fun q hq => ?_⟩
  have hrows : q ∈ w.table.rows.toList ++ [p] :=
    step.gains.perm.mem_iff.mp (Array.mem_toList_iff.mpr hq)
  rcases List.mem_append.mp hrows with hq | hq
  · exact sound.noticed q (Array.mem_toList_iff.mp hq)
  · exact List.mem_singleton.mp hq ▸ ⟨t, place, seen⟩

end Watch.Sound

/-- A watched call answers what it should, leaves the table and the metrics that it should, and
leaves the watched table sound. -/
structure Agrees {α : Type} (result : α × Table) (metrics : Metrics) (watched : α × Watch) :
    Prop where
  answer : watched.1 = result.1
  table : watched.2.table = result.2
  metrics : watched.2.metrics = metrics
  sound : watched.2.Sound

namespace Watched

variable {w : Watch} {index : Nat} {p : Profile}

theorem run_see_bind {α : Type} (s : Sight) (f : PUnit → Watched α) (w : Watch) :
    ((liftM (see s) : Watched PUnit) >>= f).run.run w =
      (f ⟨⟩).run.run { w with sights := w.sights ++ [s] } := rfl

theorem put_run (index : Nat) (p : Profile) (w : Watch) :
    (put index p).run.run w =
      (((InPlace.put index p).run.run w.table).1,
        ⟨((InPlace.put index p).run.run w.table).2, w.metrics,
          w.sights ++ [.inserting w.table index p]⟩) := rfl

/-- A profile is put in the place of its key where there is room. -/
theorem put_agrees (sound : w.Sound) (room : w.table.size < w.table.capacity)
    (placed : w.table.place p.key = .ok index) :
    Agrees (InPlace.settle w.table (w.table.insertAt index p >>= fun grown => .ok (grown, index)))
      w.metrics ((put index p).run.run w) := by
  obtain ⟨grown, hinsert, hgrows⟩ := Table.insertAt_grows sound.ordered room placed
  have hseen : Sight.Sound (.inserting w.table index p) :=
    ⟨Table.fits_of_place sound.ordered placed, Table.exists_openAt room (Table.place_le placed)⟩
  rw [put_run, InPlace.put_run, hinsert]
  exact ⟨rfl, rfl, rfl, (sound.see hseen).grow hgrows
    (List.mem_append_right _ (List.mem_singleton_self _))⟩

theorem insert_agrees (sound : w.Sound) (p : Profile) :
    Agrees (InPlace.settle w.table (w.table.insert p)) w.metrics ((insert p).run.run w) := by
  unfold insert Table.insert
  rw [InPlace.run_get_bind]
  by_cases hfull : w.table.isFull
  · rw [if_pos hfull, if_pos hfull]
    exact ⟨rfl, rfl, rfl, sound⟩
  · have hroom := Table.not_isFull_iff.mp hfull
    rw [if_neg hfull, if_neg hfull, InPlace.run_lift_bind]
    cases hplace : w.table.place p.key with
    | error e => exact ⟨rfl, rfl, rfl, sound⟩
    | ok index => exact put_agrees sound hroom hplace

theorem augment_agrees (sound : w.Sound) (reference : Nat) (key : UInt64) (precision : Float)
    (f : Approximation) (live : Option Load) :
    Agrees (InPlace.settle w.table (w.table.augment reference key precision f live)) w.metrics
      ((augment reference key precision f live).run.run w) := by
  unfold augment Table.augment
  rw [InPlace.run_get_bind]
  by_cases hfull : w.table.isFull
  · rw [if_pos hfull, if_pos hfull]
    exact ⟨rfl, rfl, rfl, sound⟩
  · have hroom := Table.not_isFull_iff.mp hfull
    have hseen : Sight.Sound (.synthesizing w.table reference key precision f live) :=
      fun new hnew => Table.synthesize_pulledTo sound.ordered hnew
    have hsound := sound.see hseen
    rw [if_neg hfull, if_neg hfull, run_see_bind, InPlace.run_lift_bind]
    cases hnew : w.table.synthesize reference key precision f live with
    | error e => exact ⟨rfl, rfl, rfl, hsound⟩
    | ok new =>
      obtain ⟨hplace, hkey⟩ := Table.synthesize_ok hnew
      exact put_agrees hsound hroom (hkey ▸ hplace)

/-- A step counts a profile that was derived. -/
theorem conclude_inserted {grown : Table} {metrics : Metrics}
    {watched : Except TableError Nat × Watch} (agrees : Agrees (.ok index, grown) metrics watched)
    (key : UInt64) (closest : Option Nat) :
    Agrees (.inserted index key, grown) metrics.insertion
      ((conclude key closest watched.1).run watched.2) := by
  rw [agrees.answer]
  exact ⟨rfl, agrees.table, congrArg Metrics.insertion agrees.metrics, agrees.sound.count _⟩

/-- A step counts a key that was there. -/
theorem conclude_duplicate {t : Table} {metrics : Metrics} {key : UInt64}
    {watched : Except TableError Nat × Watch}
    (agrees : Agrees (.error (.duplicateKey key), t) metrics watched) (closest : Option Nat) :
    Agrees (.duplicate key, t) metrics.duplicateKey
      ((conclude key closest watched.1).run watched.2) := by
  rw [agrees.answer]
  exact ⟨rfl, agrees.table, congrArg Metrics.duplicateKey agrees.metrics, agrees.sound.count _⟩

theorem step_run (task : Task) (w : Watch) :
    (step task).run w =
      if w.table.isFull then (.full, w)
      else
        let (result, metrics) := task.target.search w.table task.settings.weights w.metrics
        match result.found with
        | none => (.missed task.key result.closest, { w with metrics })
        | some reference =>
          let watched := (augment reference task.key task.target.precision
            task.settings.approximation task.live).run.run { w with metrics }
          (conclude task.key result.closest watched.1).run watched.2 := by
  unfold step
  simp only [StateT.run_bind, StateT.run_get, pure_bind]
  by_cases hfull : w.table.isFull
  · rw [if_pos hfull, if_pos hfull]
    rfl
  · rw [if_neg hfull, if_neg hfull]
    generalize task.target.search w.table task.settings.weights w.metrics = searched
    obtain ⟨⟨found, closest⟩, metrics⟩ := searched
    cases found with
    | none => rfl
    | some reference => rfl

/-- A watched training step does what the step does, and is never refused a profile unexpectedly. -/
theorem step_agrees (sound : w.Sound) (task : Task) {after : Table} {metrics : Metrics}
    {outcome : Step}
    (stepped : Training.step w.table task.key task.target task.settings task.live w.metrics =
      (after, metrics, outcome)) :
    Agrees (outcome, after) metrics ((step task).run w) := by
  rw [step_run]
  unfold Training.step at stepped
  by_cases hfull : w.table.isFull
  · rw [if_pos hfull] at stepped ⊢
    cases stepped
    exact ⟨rfl, rfl, rfl, sound⟩
  · rw [if_neg hfull] at stepped ⊢
    have hroom := Table.not_isFull_iff.mp hfull
    unfold Target.search at stepped ⊢
    cases hfound : (find w.table.rows task.target.score task.target.tolerance
      task.settings.weights).found with
    | none =>
      simp only [hfound] at stepped ⊢
      cases stepped
      exact ⟨rfl, rfl, rfl, sound.count _⟩
    | some reference =>
      obtain ⟨row, hrow, -⟩ := find_found hfound
      have hagrees := augment_agrees (sound.count (w.metrics.search true)) reference task.key
        task.target.precision task.settings.approximation task.live
      simp only [hfound, Option.isSome_some] at stepped ⊢
      cases haugment : w.table.augment reference task.key task.target.precision
        task.settings.approximation task.live with
      | ok grown =>
        rw [haugment] at stepped hagrees
        cases stepped
        exact conclude_inserted hagrees _ _
      | error e =>
        -- the reference is a row and there is room, so only the key can be at fault
        obtain rfl := Table.place_error (Table.augment_error hroom hrow haugment)
        rw [haugment] at stepped hagrees
        cases stepped
        exact conclude_duplicate hagrees _

end Watched

/-! ## Runs -/

/-- What changes a table: a call that adds to it, or a training step. -/
inductive Act where
  | call (c : Call)
  | train (task : Task)

/-- The answer to a call, or what a step comes to. -/
abbrev Answer := Except TableError Nat ⊕ Step

namespace Act

/-- What is done, unwatched. -/
def perform : Act → StateM (Table × Metrics) Answer
  | call c => fun (t, m) => (.inl (c.on t).1, (c.on t).2, m)
  | train task => fun (t, m) =>
    let (t, m, outcome) := step t task.key task.target task.settings task.live m
    (.inr outcome, t, m)

/-- What is done, on a watched table. -/
def watch : Act → StateM Watch Answer
  | call (.insert p) => .inl <$> (Watched.insert p).run
  | call (.augment reference key precision f live) =>
    .inl <$> (Watched.augment reference key precision f live).run
  | train task => .inr <$> Watched.step task

end Act

variable {w : Watch}

theorem Agrees.map {α β : Type} {x : StateM Watch α} {result : α × Table} {metrics : Metrics}
    (agrees : Agrees result metrics (x.run w)) (f : α → β) :
    Agrees (f result.1, result.2) metrics ((f <$> x).run w) :=
  ⟨congrArg f agrees.answer, agrees.table, agrees.metrics, agrees.sound⟩

/-- **One step.** Watching changes nothing, and a watched table that is sound stays so. -/
theorem Act.watch_agrees (sound : w.Sound) (a : Act) {after : Table} {metrics : Metrics}
    {answer : Answer} (performed : a.perform.run (w.table, w.metrics) = (answer, after, metrics)) :
    Agrees (answer, after) metrics (a.watch.run w) := by
  cases a with
  | call c =>
    cases performed
    rw [Call.on_eq]
    cases c with
    | insert p => exact (Watched.insert_agrees sound p).map _
    | augment reference key precision f live =>
      exact (Watched.augment_agrees sound reference key precision f live).map _
  | train task =>
    cases performed
    exact (Watched.step_agrees sound task rfl).map _

/-- What is done first agrees, and what is done then agrees from there on. -/
theorem Agrees.bind {α β : Type} {x : StateM Watch α} {f : α → StateM Watch β} {first : α × Table}
    {result : β × Table} {between metrics : Metrics} (agrees : Agrees first between (x.run w))
    (rest : ∀ {w : Watch}, w.Sound → w.table = first.2 → w.metrics = between →
      Agrees result metrics ((f first.1).run w)) : Agrees result metrics ((x >>= f).run w) := by
  have hrest := rest agrees.sound agrees.table agrees.metrics
  rwa [← agrees.answer] at hrest

/-- **A run.** So it is however much is done one after the other. -/
theorem run_agrees (acts : List Act) (sound : w.Sound) :
    let performed := (acts.mapM Act.perform).run (w.table, w.metrics)
    Agrees (performed.1, performed.2.1) performed.2.2 ((acts.mapM Act.watch).run w) := by
  induction acts generalizing w with
  | nil => exact ⟨rfl, rfl, rfl, sound⟩
  | cons a rest ih =>
    simp only [List.mapM_cons, bind_pure_comp]
    refine (a.watch_agrees sound rfl).bind fun hsound htable hmetrics => ?_
    have hrest := (ih hsound).map (List.cons (a.perform.run (w.table, w.metrics)).1)
    rw [htable, hmetrics] at hrest
    exact hrest

/-- **Assertions hold, and no impossible branch is reached.** Whatever insertions, derivations and
training steps are made one after the other on a table that was empty, with any keys, references,
targets, settings and readings: at every insertion the profile fits its place and the place can be
opened; whatever is derived for a key is pulled back to the row with the largest key below it and
the row with the smallest key above it, each of them none where there is no such row; and no
training step is refused a profile for another reason than a key that is there or a full table.
Watching makes no difference to this: the same answers, table and metrics come of it, and no row
gets into the table unseen. -/
theorem assertions_hold (capacity : Nat) (metrics : Metrics) (acts : List Act) :
    let performed := (acts.mapM Act.perform).run (Table.ofCapacity capacity, metrics)
    let watched := (acts.mapM Act.watch).run { table := Table.ofCapacity capacity, metrics }
    (watched.1, watched.2.table, watched.2.metrics) = performed ∧
      (∀ p ∈ watched.2.table.rows, ∃ t index, .inserting t index p ∈ watched.2.sights) ∧
      (∀ t index p, .inserting t index p ∈ watched.2.sights →
        t.Fits index p ∧ ∃ opened, t.openAt index = .ok opened) ∧
      (∀ t reference key precision f live new,
        .synthesizing t reference key precision f live ∈ watched.2.sights →
          t.synthesize reference key precision f live = .ok new →
            ∃ left right, t.IsNextBelow key left ∧ t.IsNextAbove key right ∧
              t.PulledTo reference key precision f live new left right) ∧
      ∀ e, .refused e ∉ watched.2.sights := by
  intro performed watched
  have hstart : Watch.Sound { table := Table.ofCapacity capacity, metrics } := by
    refine ⟨Table.ordered_ofCapacity capacity, ?_, ?_⟩
    · intro s hs
      cases hs
    · intro p hp
      cases Array.mem_toList_iff.mpr hp
  have hagrees : Agrees (performed.1, performed.2.1) performed.2.2 watched := run_agrees acts hstart
  obtain ⟨hanswer, htable, hmetrics, hsound⟩ := hagrees
  refine ⟨?_, hsound.noticed, fun t index p hs => hsound.sights _ hs,
    fun t reference key precision f live new hs => hsound.sights _ hs new,
    fun e hs => hsound.sights _ hs⟩
  rw [hanswer, htable, hmetrics]
  rfl

/-- What is put in, and where, by two insertions, a derivation and an insertion that is refused. -/
example : (([.call (.insert { transferRate := 900 }), .call (.insert { transferRate := 100 }),
    .call (.augment 0 500 0.01 .identity none), .call (.insert { transferRate := 500 })].mapM
      Act.watch).run { table := .ofCapacity 4, metrics := {} }).2.sights.filterMap (fun
        | .inserting _ index p => some (index, p.key)
        | _ => none) = [(0, 900), (0, 100), (1, 500)] := by
  decide +kernel

end NetworkTuning.Training
