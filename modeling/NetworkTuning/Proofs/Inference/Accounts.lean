import NetworkTuning.Proofs.Inference.HoldOff

/-!
# Inference accounts

A course is run once more with an applier that writes down what it is handed and what it answers
(`recording`). The record changes nothing (`recorded_tick`, `recorded_before`), so that
`Course.handed` is the history of the applier.

**One tick** (`Ticked`) hands at most one row over, searches at most once, and of what is shared
writes the metrics alone. **A course** therefore hands over one row for each tick that says so, in
their order (`handed_rows`), and an `Account` of the metrics has grown by the number of ticks it
counts, as long as no one else writes it (`metric_before`). `ticks_are_accounted_for` puts them
together.
-/

namespace NetworkTuning.Inference

/-- Whether a search found no row. -/
def Tick.isMissed : Tick → Bool
  | .missed _ => true
  | _ => false

/-- Whether an applier answered with an outcome. -/
def Tick.hasOutcome : Tick → Bool
  | .applied _ _ outcome => outcome.isSome
  | _ => false

theorem Tick.hasOutcome_eq_false {t : Tick} (quiet : t.isApplied = false) :
    t.hasOutcome = false := by
  cases t with
  | applied => cases quiet
  | idle | skipped | missed => rfl

/-- What the metrics count of the ticks. -/
inductive Account where
  | evaluations
  | hits
  | misses
  | changes
  deriving Repr, DecidableEq

namespace Account

/-- What the metrics say of an account. -/
def metric : Account → Metrics → Nat
  | evaluations, m => m.evaluations
  | hits, m => m.inferenceMatches
  | misses, m => m.searchMisses
  | changes, m => m.settingsApplied

/-- The ticks that an account counts. -/
def counts : Account → Tick → Bool
  | evaluations, t => t.isApplied || t.isMissed
  | hits, t => t.isApplied
  | misses, t => t.isMissed
  | changes, t => t.hasOutcome

end Account

/-! ## One tick -/

namespace State

variable {σ : Type} {handle : Handler σ} {load : Load} {elapsed : Nanoseconds}
  {before after : State σ} {g : Target} {tick : Tick}

/-- What a tick adds to the accounts of the metrics. -/
theorem Ticked.metric_eq (ticked : Ticked handle load elapsed before g tick after) (a : Account) :
    a.metric after.shared.metrics =
      a.metric before.shared.metrics + if a.counts tick then 1 else 0 := by
  cases ticked with
  | idle => cases a <;> rfl
  | skipped _ _ _ _ hshared | missed _ _ _ _ hshared =>
    rw [hshared]
    cases a <;> rfl
  | @applied _ _ answer _ _ _ _ _ _ _ _ hshared =>
    rw [hshared]
    cases answer <;> cases a <;> rfl

/-- What a tick adds to the report. -/
theorem Ticked.counters_eq (ticked : Ticked handle load elapsed before g tick after) :
    after.controller.counters.loops = before.controller.counters.loops +
        (if Account.evaluations.counts tick then 1 else 0) ∧
      after.controller.counters.hits = before.controller.counters.hits +
        (if Account.hits.counts tick then 1 else 0) := by
  cases ticked with
  | idle => exact ⟨rfl, rfl⟩
  | skipped _ _ _ hcontroller | missed _ _ _ hcontroller | applied _ _ _ _ _ hcontroller =>
    rw [hcontroller]
    exact ⟨rfl, rfl⟩

end State

/-! ## Appliers that keep a record -/

/-- A row handed to an applier, and its answer. -/
structure Delivery where
  profile : Profile
  answer : Except String Outcome

/-- Whether the applier answered with an error. -/
def Delivery.hasFailed (d : Delivery) : Bool := d.answer.toOption.isNone

variable {σ : Type}

/-- An applier that writes down what it is handed and what it answers. -/
def recording (handle : Handler σ) : Handler (List Delivery × σ) := fun p s =>
  let (answer, applier) := handle p s.2
  (answer, s.1 ++ [⟨p, answer⟩], applier)

namespace Course

/-- A course whose applier keeps a record, empty at first. -/
def recorded (c : Course σ) : Course (List Delivery × σ) where
  start := c.start.mapApplier fun applier => ([], applier)
  moments := fun n => { c.moments n with handle := recording (c.moments n).handle }

/-- What was handed to the applier before a tick, the first first. -/
def handed (c : Course σ) (n : Nat) : List Delivery := (c.recorded.before n).controller.applier.1

/-- How many of the first ticks are of a kind. -/
def count (c : Course σ) (kind : Tick → Bool) (n : Nat) : Nat :=
  (List.range n).countP fun k => kind (c.tick k)

/-- What a tick hands over, and what becomes of it: a row of the table at that tick, with a score
within its tolerance, and the answer of the applier as it is at that tick. -/
def Hands (c : Course σ) (n : Nat) (d : Delivery) : Prop :=
  ∃ index, c.tick n = .applied index d.profile.key d.answer.toOption ∧
    (c.table n).rows[index]? = some d.profile ∧
    ((c.target n).score - d.profile.score (c.settings n).weights).abs ≤ (c.target n).tolerance ∧
    (c.moments n).handle d.profile (c.before n).controller.applier =
      (d.answer, (c.before (n + 1)).controller.applier)

/-! ### The record changes nothing -/

theorem recorded_turn (m : Moment σ) (s : State (List Delivery × σ)) :
    turn m (s.mapApplier Prod.snd) =
      ((turn { m with handle := recording m.handle } s).1,
        (turn { m with handle := recording m.handle } s).2.mapApplier Prod.snd) :=
  State.evaluate_map (fun _ _ => rfl) m.load m.elapsed
    (meets { m with handle := recording m.handle } s)

/-- The states of a course are those of the recorded one, the record apart. -/
theorem recorded_before (c : Course σ) (n : Nat) :
    (c.recorded.before n).mapApplier Prod.snd = c.before n := by
  induction n with
  | zero => rfl
  | succ n ih =>
    have hturn := recorded_turn (c.moments n) (c.recorded.before n)
    rw [ih] at hturn
    exact (congrArg Prod.snd hturn).symm

theorem recorded_tick (c : Course σ) (n : Nat) : c.recorded.tick n = c.tick n := by
  have hturn := recorded_turn (c.moments n) (c.recorded.before n)
  rw [recorded_before] at hturn
  exact (congrArg Prod.fst hturn).symm

/-! ## Courses -/

theorem tick_ticked (c : Course σ) (n : Nat) :
    State.Ticked (c.moments n).handle (c.moments n).load (c.moments n).elapsed
      (meets (c.moments n) (c.before n)) (c.target n) (c.tick n) (c.before (n + 1)) :=
  State.evaluate_ticked _ _ _ _

theorem recorded_shared (c : Course σ) (n : Nat) :
    (c.recorded.before n).shared = (c.before n).shared :=
  congrArg State.shared (c.recorded_before n)

theorem recorded_applier (c : Course σ) (n : Nat) :
    (c.recorded.before n).controller.applier.2 = (c.before n).controller.applier :=
  congrArg (fun s => s.controller.applier) (c.recorded_before n)

/-- Exactly a tick that says so hands a row over. -/
theorem handed_succ (c : Course σ) (n : Nat) :
    ((c.tick n).isApplied = true ∧ ∃ d, c.Hands n d ∧ c.handed (n + 1) = c.handed n ++ [d]) ∨
      ((c.tick n).isApplied = false ∧ c.handed (n + 1) = c.handed n) := by
  have hticked := c.recorded.tick_ticked n
  have hmeets : (meets (c.recorded.moments n) (c.recorded.before n)).shared =
      (meets (c.moments n) (c.before n)).shared :=
    congrArg (c.moments n).change (c.recorded_shared n)
  have hnext := c.recorded_applier (n + 1)
  rw [recorded_tick] at hticked
  unfold handed Hands
  generalize c.tick n = tick at hticked ⊢
  generalize c.recorded.before (n + 1) = after at hticked hnext ⊢
  cases hticked with
  | idle => exact .inr ⟨rfl, rfl⟩
  | skipped _ _ _ hcontroller | missed _ _ _ hcontroller =>
    rw [hcontroller]
    exact .inr ⟨rfl, rfl⟩
  | @applied index p answer applier _ _ _ hfound hrow hanswer hcontroller =>
    obtain ⟨q, hrow', hwithin⟩ := find_found hfound
    obtain rfl : q = p := Option.some.inj (hrow'.symm.trans hrow)
    obtain ⟨rfl, rfl⟩ := Prod.mk.inj hanswer
    refine .inl ⟨rfl, ⟨q, _⟩, ⟨index, rfl, ?_, ?_, ?_⟩, ?_⟩
    · rw [hmeets] at hrow
      exact hrow
    · rw [target, settings, hmeets] at hwithin
      exact of_decide_eq_true hwithin
    · rw [← hnext, ← recorded_applier, hcontroller]
      rfl
    · rw [hcontroller]
      rfl

theorem count_succ (c : Course σ) (kind : Tick → Bool) (n : Nat) :
    c.count kind (n + 1) = c.count kind n + if kind (c.tick n) then 1 else 0 := by
  simp [count, List.range_succ, List.countP_append]

/-- **The rows handed over** are those of the ticks that say so, in their order. -/
theorem handed_rows (c : Course σ) (n : Nat) :
    List.Forall₂ c.Hands ((List.range n).filter fun k => (c.tick k).isApplied) (c.handed n) := by
  induction n with
  | zero => exact .nil
  | succ n ih =>
    rw [List.range_succ, List.filter_append]
    rcases c.handed_succ n with ⟨happlied, d, hd, hhanded⟩ | ⟨hquiet, hhanded⟩
    · rw [hhanded, List.filter_singleton, happlied]
      exact List.rel_append ih (.cons hd .nil)
    · rw [hhanded, List.filter_singleton, hquiet]
      simpa using ih

/-- Of the rows handed over, those that the applier failed on are those without an outcome. -/
theorem count_failed (c : Course σ) (n : Nat) :
    c.count Tick.hasOutcome n + (c.handed n).countP Delivery.hasFailed =
      c.count Tick.isApplied n := by
  induction n with
  | zero => rfl
  | succ n ih =>
    rw [count_succ, count_succ]
    rcases c.handed_succ n with ⟨happlied, d, ⟨index, htick, -⟩, hhanded⟩ | ⟨hquiet, hhanded⟩
    · have hone : (if (c.tick n).hasOutcome then 1 else 0) + [d].countP Delivery.hasFailed = 1 := by
        simp only [htick, Tick.hasOutcome, List.countP_singleton, Delivery.hasFailed]
        rcases d with ⟨p, message | outcome⟩ <;> rfl
      rw [hhanded, List.countP_append, happlied]
      simp only [if_true]
      omega
    · rw [hhanded, hquiet, Tick.hasOutcome_eq_false hquiet]
      exact ih

/-- Every tick that applied a row or missed comes of one search. -/
theorem count_evaluations (c : Course σ) (n : Nat) :
    c.count Account.evaluations.counts n = c.count Tick.isApplied n + c.count Tick.isMissed n := by
  induction n with
  | zero => rfl
  | succ n ih =>
    rw [count_succ, count_succ, count_succ, ih]
    cases c.tick n <;> simp [Account.counts, Tick.isApplied, Tick.isMissed] <;> omega

/-- No one but the controller writes an account in the first ticks. -/
def Unwritten (c : Course σ) (a : Account) (n : Nat) : Prop :=
  ∀ k < n, a.metric (meets (c.moments k) (c.before k)).shared.metrics =
    a.metric (c.before k).shared.metrics

/-- An account grows by the ticks it counts, as long as no one else writes it. -/
theorem metric_before (c : Course σ) (a : Account) {n : Nat} (unwritten : c.Unwritten a n) :
    a.metric (c.before n).shared.metrics =
      a.metric c.start.shared.metrics + c.count a.counts n := by
  induction n with
  | zero => rfl
  | succ n ih =>
    have hearlier := ih fun k hk => unwritten k (Nat.lt_succ_of_lt hk)
    rw [(c.tick_ticked n).metric_eq, unwritten n (Nat.lt_succ_self n), hearlier, count_succ,
      Nat.add_assoc]

/-- The report counts the searches of its own course, whatever else happens. -/
theorem report_before (c : Course σ) (n : Nat) :
    (c.before n).report.loops = c.start.report.loops + c.count Account.evaluations.counts n ∧
      (c.before n).report.hits = c.start.report.hits + c.count Account.hits.counts n := by
  induction n with
  | zero => exact ⟨rfl, rfl⟩
  | succ n ih =>
    obtain ⟨hloops, hhits⟩ := (c.tick_ticked n).counters_eq
    rw [count_succ, count_succ, ← Nat.add_assoc, ← Nat.add_assoc, ← ih.1, ← ih.2]
    exact ⟨hloops, hhits⟩

/-- **The accounts add up.** Whatever the loads, the times and the answers of the applier, and
whatever the others do to the settings, the table and all else between two ticks:

* of what is shared a tick writes the metrics alone, and an idle one changes nothing but the time
  since the last change;
* the applier is handed one row for each tick that says so, in their order, and each is a row of
  the table at its tick with a score within the tolerance;
* the report counts a loop for each tick that applied a row or missed, and a hit for each one that
  applied a row; so do the metrics as far as no one else writes them, and they count a change for
  each row that the applier did not fail on. -/
theorem ticks_are_accounted_for (c : Course σ) (n : Nat) :
    (∀ k, ∃ metrics, (c.before (k + 1)).shared =
      { (meets (c.moments k) (c.before k)).shared with metrics }) ∧
    (∀ k, c.tick k = .idle → c.before (k + 1) =
      (meets (c.moments k) (c.before k)).waited (c.moments k).elapsed) ∧
    List.Forall₂ c.Hands ((List.range n).filter fun k => (c.tick k).isApplied) (c.handed n) ∧
    (c.before n).report.loops =
      c.start.report.loops + (c.count Tick.isApplied n + c.count Tick.isMissed n) ∧
    (c.before n).report.hits = c.start.report.hits + c.count Tick.isApplied n ∧
    (∀ a : Account, c.Unwritten a n → a.metric (c.before n).shared.metrics =
      a.metric c.start.shared.metrics + c.count a.counts n) ∧
    c.count Account.evaluations.counts n =
      c.count Tick.isApplied n + c.count Tick.isMissed n ∧
    c.count Account.changes.counts n + (c.handed n).countP Delivery.hasFailed =
      c.count Tick.isApplied n := by
  obtain ⟨hloops, hhits⟩ := c.report_before n
  rw [count_evaluations] at hloops
  refine ⟨fun k => (c.tick_ticked k).shared_eq, fun k hidle => ?_, c.handed_rows n, hloops, hhits,
    fun a => c.metric_before a, c.count_evaluations n, c.count_failed n⟩
  have hticked := c.tick_ticked k
  rw [hidle] at hticked
  generalize c.before (k + 1) = after at hticked ⊢
  cases hticked with
  | idle => rfl

end Course

end NetworkTuning.Inference
