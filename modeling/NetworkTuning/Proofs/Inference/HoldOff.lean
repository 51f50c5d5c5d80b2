import Mathlib
import NetworkTuning.Proofs.Inference.Ticks

/-!
# How long the settings hold

A course is any succession of ticks. Between two ticks the others may change whatever is shared, the
settings in force and the table among it; the load, the time that went by, and what the applier
answers are different at each tick.

**One tick** (`evaluate_evaluated`): a tick that hands a row over has a score that has moved far
enough and has not dropped too soon; it leaves its score as the baseline and no time since the last
change, whatever the applier answers. Any other tick leaves the baseline and adds its time.

**Between two applied ticks** (`quiet_after_applied`) the baseline is therefore the score of the
first one, and the time since the last change is the time of the ticks in between. What the second
one had to pass (`drop_waits_for_grace`) is a statement about these two.
-/

namespace NetworkTuning.Inference

/-- Whether a row was handed to the applier. -/
def Tick.isApplied : Tick → Bool
  | .applied _ _ _ => true
  | _ => false

namespace State

variable {σ : Type}

/-- What a tick comes to, for the target of its load and the time it took. -/
inductive Evaluated (before : Controller σ) (g : Target) (grace elapsed : Nanoseconds) :
    Tick → Controller σ → Prop
  | applied {tick : Tick} {after : Controller σ} : tick.isApplied = true →
      ¬(g.score - before.baseline).abs < g.tolerance →
      ¬(g.score < before.baseline ∧ before.sinceChange + elapsed ≤ grace) →
      after.baseline = g.score → after.sinceChange = 0 → Evaluated before g grace elapsed tick after
  | quiet {tick : Tick} {after : Controller σ} : tick.isApplied = false →
      after.baseline = before.baseline → after.sinceChange = before.sinceChange + elapsed →
      Evaluated before g grace elapsed tick after

/-- A score calls for a search only when it has moved far enough and has not dropped too soon. -/
theorem decide_search {score baseline tolerance : Float} {sinceChange grace : Nanoseconds}
    (h : decide score baseline tolerance sinceChange grace = .search) :
    ¬(score - baseline).abs < tolerance ∧ ¬(score < baseline ∧ sinceChange ≤ grace) := by
  by_cases hmoved : (score - baseline).abs < tolerance
  · simp only [decide, if_pos hmoved, reduceCtorEq] at h
  · refine ⟨hmoved, fun ⟨hlower, hsoon⟩ => ?_⟩
    simp only [decide, if_neg hmoved, hlower, hsoon, decide_true, Bool.and_self, if_true,
      reduceCtorEq] at h

/-- **One tick**, on any state. -/
theorem evaluate_evaluated (handle : Handler σ) (load : Load) (elapsed : Nanoseconds)
    (s : State σ) :
    Evaluated s.controller (Target.ofLoad load s.shared.settings) s.shared.settings.gracePeriod
      elapsed (s.evaluate handle load elapsed).1 (s.evaluate handle load elapsed).2.controller := by
  have hticked := evaluate_ticked handle load elapsed s
  generalize Target.ofLoad load s.shared.settings = g at hticked ⊢
  generalize s.evaluate handle load elapsed = result at hticked ⊢
  obtain ⟨tick, after⟩ := result
  cases hticked with
  | idle => exact .quiet rfl rfl rfl
  | skipped _ _ _ hcontroller | missed _ _ _ hcontroller =>
    refine .quiet rfl ?_ ?_ <;> rw [hcontroller] <;> rfl
  | applied _ hdecide _ _ _ hcontroller =>
    obtain ⟨hmoved, hdrop⟩ := decide_search hdecide
    refine .applied rfl hmoved hdrop ?_ ?_ <;> rw [hcontroller]

end State

/-! ## Courses -/

/-- One tick from outside: what the others do before it, the load it looks at, the time since the
tick before, and the applier it hands a row to. -/
structure Moment (σ : Type) where
  change : Shared → Shared := id
  load : Load
  elapsed : Nanoseconds
  handle : Handler σ

/-- Any succession of ticks from any state. -/
structure Course (σ : Type) where
  start : State σ
  moments : Nat → Moment σ

namespace Course

variable {σ : Type}

/-- The state in which a tick finds the controller. -/
def meets (m : Moment σ) (s : State σ) : State σ := { s with shared := m.change s.shared }

/-- What a tick comes to, and the state after it. -/
def turn (m : Moment σ) (s : State σ) : Tick × State σ :=
  (meets m s).evaluate m.handle m.load m.elapsed

/-- The state before a tick. -/
def before (c : Course σ) : Nat → State σ
  | 0 => c.start
  | n + 1 => (turn (c.moments n) (c.before n)).2

/-- What a tick comes to. -/
def tick (c : Course σ) (n : Nat) : Tick := (turn (c.moments n) (c.before n)).1

/-- The settings in force at a tick. -/
def settings (c : Course σ) (n : Nat) : Settings :=
  (meets (c.moments n) (c.before n)).shared.settings

/-- The table at a tick. -/
def table (c : Course σ) (n : Nat) : Table := (meets (c.moments n) (c.before n)).shared.table

/-- The target of a tick's load. -/
def target (c : Course σ) (n : Nat) : Target := Target.ofLoad (c.moments n).load (c.settings n)

/-- The time from one tick to a later one. -/
def time (c : Course σ) (i j : Nat) : Nanoseconds := ∑ k ∈ Finset.Ioc i j, (c.moments k).elapsed

variable {c : Course σ} {i j : Nat}

theorem tick_evaluated (c : Course σ) (n : Nat) :
    State.Evaluated (c.before n).controller (c.target n) (c.settings n).gracePeriod
      (c.moments n).elapsed (c.tick n) (c.before (n + 1)).controller :=
  State.evaluate_evaluated _ _ _ (meets (c.moments n) (c.before n))

/-- As long as no other row is applied, the baseline stays at the last applied score, and the time
since the last change is the time since that tick. -/
theorem quiet_after_applied (applied : (c.tick i).isApplied = true) {k : Nat} (since : i ≤ k)
    (quiet : ∀ n, i < n → n ≤ k → (c.tick n).isApplied = false) :
    (c.before (k + 1)).controller.baseline = (c.target i).score ∧
      (c.before (k + 1)).controller.sinceChange = c.time i k := by
  induction k, since using Nat.le_induction with
  | base =>
    cases c.tick_evaluated i with
    | applied _ _ _ hbase hsince =>
      refine ⟨hbase, hsince.trans ?_⟩
      rw [time, Finset.Ioc_self, Finset.sum_empty]
    | quiet hquiet => exact absurd applied (by rw [hquiet]; exact Bool.false_ne_true)
  | succ k hk ih =>
    obtain ⟨hbase, hsince⟩ := ih fun n hn hnk => quiet n hn (Nat.le_succ_of_le hnk)
    cases c.tick_evaluated (k + 1) with
    | applied happlied =>
      have hquiet := quiet (k + 1) (Nat.lt_succ_of_le hk) (Nat.le_refl _)
      exact absurd happlied (by rw [hquiet]; exact Bool.false_ne_true)
    | quiet _ hbase' hsince' =>
      refine ⟨hbase'.trans hbase, ?_⟩
      rw [hsince', hsince, time, time, Finset.sum_Ioc_succ_top hk]

/-- **Holding off.** Of two ticks that applied a row, with none between them that did, the second
one waited longer than the grace period in force if its score is lower, and in any case its score is
not within its tolerance of the first. Until then the baseline was the first score, and the time
since the last change was never set back. -/
theorem drop_waits_for_grace (c : Course σ) {i j : Nat} (later : i < j)
    (first : (c.tick i).isApplied = true) (second : (c.tick j).isApplied = true)
    (between : ∀ n, i < n → n < j → (c.tick n).isApplied = false) :
    ((c.target j).score < (c.target i).score → (c.settings j).gracePeriod < c.time i j) ∧
      ¬((c.target j).score - (c.target i).score).abs < (c.target j).tolerance ∧
      ∀ k, i ≤ k → k < j →
        (c.before (k + 1)).controller.baseline = (c.target i).score ∧
          (c.before (k + 1)).controller.sinceChange = c.time i k := by
  have hquiet : ∀ k, i ≤ k → k < j →
      (c.before (k + 1)).controller.baseline = (c.target i).score ∧
        (c.before (k + 1)).controller.sinceChange = c.time i k := by
    intro k hik hkj
    exact quiet_after_applied first hik fun n hn hnk => between n hn (Nat.lt_of_le_of_lt hnk hkj)
  obtain ⟨k, rfl⟩ := Nat.exists_eq_add_of_lt later
  obtain ⟨hbase, hsince⟩ := hquiet (i + k) (Nat.le_add_right i k) (Nat.lt_succ_self _)
  cases c.tick_evaluated (i + k + 1) with
  | quiet hnone => exact absurd second (by rw [hnone]; exact Bool.false_ne_true)
  | applied _ hmoved hdrop =>
    rw [hbase] at hmoved hdrop
    rw [hsince, time, ← Finset.sum_Ioc_succ_top (Nat.le_add_right i k)] at hdrop
    refine ⟨fun hlower => ?_, hmoved, hquiet⟩
    exact Nat.lt_of_not_le fun hsoon => hdrop ⟨hlower, hsoon⟩

/-- A course whose load falls after its first tick, over a table with a row for either load; the
applier fails at every tick. -/
def falling : Course Unit where
  start :=
    { controller := { applier := () }
      shared :=
        { settings :=
            { weights := { transfer := 0.0009765625 }, accuracy := 0.0, gracePeriod := 10 }
          table := Table.ofList 2 [{ transferRate := 128 }, { transferRate := 512 }] } }
  moments n :=
    { load := { transferRate := if n = 0 then 512 else if n = 1 then 0 else 128 }
      elapsed := 6
      handle := fun _ s => (.error "no such program", s) }

theorem falling_waits :
    (falling.target 2).score < (falling.target 0).score ∧
      (falling.settings 2).gracePeriod < falling.time 0 2 := by
  have hlower : (falling.target 2).score < (falling.target 0).score := by decide +kernel
  refine ⟨hlower, (drop_waits_for_grace falling (by decide) (by decide +kernel) (by decide +kernel)
    fun n hn hn' => ?_).1 hlower⟩
  obtain rfl : n = 1 := by omega
  decide +kernel

end Course

end NetworkTuning.Inference
