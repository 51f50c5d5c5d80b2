import NetworkTuning.Inference.Controller
import NetworkTuning.Proofs.Table.Search

/-!
# What a tick of the inference loop can do

A tick passes an idle load over, or it skips the load, or it searches and finds a row to hand to the
applier or none. `Ticked` says for each what the tick answers, under which condition, and what
becomes of the controller and of what is shared. Of what is shared a tick writes the metrics alone
(`Ticked.shared_eq`), and of an applier it sees only the answers (`evaluate_map`).
-/

namespace NetworkTuning.Inference.State

variable {σ τ : Type}

/-- A state after some time in which nothing was done. -/
def waited (elapsed : Nanoseconds) (s : State σ) : State σ :=
  { s with controller := { s.controller with sinceChange := s.controller.sinceChange + elapsed } }

/-- The decision on a target after some time. -/
def decision (g : Target) (elapsed : Nanoseconds) (s : State σ) : Decision :=
  decide g.score s.controller.baseline g.tolerance (s.controller.sinceChange + elapsed)
    s.shared.settings.gracePeriod

/-- A state in which the load of a target has been looked at after some time. -/
def looked (g : Target) (elapsed : Nanoseconds) (s : State σ) : State σ :=
  { s.waited elapsed with
    shared := { s.shared with metrics := s.shared.metrics.score g.score } }

/-- What searching for a target comes to. -/
def result (g : Target) (s : State σ) : Match :=
  find s.shared.table.rows g.score g.tolerance s.shared.settings.weights

/-- The metrics after a search. -/
def searched (g : Target) (found : Bool) (s : State σ) : Metrics :=
  (s.shared.metrics.score g.score).evaluation.search found

/-- The metrics after an applier has answered. -/
def answered (m : Metrics) : Except String Outcome → Metrics
  | .ok outcome => (m.applyFailures outcome.failures).applied
  | .error _ => m.applyFailures 1

/-- What a tick answers and the state it leaves, for the target `g` of its load. -/
inductive Ticked (handle : Handler σ) (load : Load) (elapsed : Nanoseconds) (s : State σ)
    (g : Target) : Tick → State σ → Prop
  | idle : load.isIdle = true → Ticked handle load elapsed s g .idle (s.waited elapsed)
  | skipped {d : Decision} {after : State σ} : load.isIdle = false →
      s.decision g elapsed = d → d ≠ .search →
      after.controller = (s.waited elapsed).controller →
      after.shared = { s.shared with metrics := s.shared.metrics.score g.score } →
      Ticked handle load elapsed s g (.skipped d) after
  | applied {index : Nat} {p : Profile} {answer : Except String Outcome} {applier : σ}
      {after : State σ} : load.isIdle = false → s.decision g elapsed = .search →
      (s.result g).found = some index → s.shared.table.rows[index]? = some p →
      handle p s.controller.applier = (answer, applier) →
      after.controller =
        { applier, counters := s.controller.counters.record true, baseline := g.score } →
      after.shared =
        { s.shared with metrics := answered (s.searched g true).inferenceMatch answer } →
      Ticked handle load elapsed s g (.applied index p.key answer.toOption) after
  | missed {closest : Option UInt64} {after : State σ} : load.isIdle = false →
      s.decision g elapsed = .search → (s.result g).found = none →
      after.controller =
        { (s.waited elapsed).controller with counters := s.controller.counters.record false } →
      after.shared = { s.shared with metrics := s.searched g false } →
      Ticked handle load elapsed s g (.missed closest) after

/-- A load that is not idle is searched for if the decision on it is to search. -/
theorem evaluate_busy (handle : Handler σ) {load : Load} (busy : load.isIdle = false)
    (elapsed : Nanoseconds) (s : State σ) :
    s.evaluate handle load elapsed =
      match s.decision (Target.ofLoad load s.shared.settings) elapsed with
      | .search => (s.looked (Target.ofLoad load s.shared.settings) elapsed).search handle
          (Target.ofLoad load s.shared.settings)
      | other => (.skipped other, s.looked (Target.ofLoad load s.shared.settings) elapsed) := by
  rw [evaluate, if_neg (Bool.eq_false_iff.mp busy)]
  rfl

/-- A tick does one of these. -/
theorem evaluate_ticked (handle : Handler σ) (load : Load) (elapsed : Nanoseconds) (s : State σ) :
    Ticked handle load elapsed s (Target.ofLoad load s.shared.settings)
      (s.evaluate handle load elapsed).1 (s.evaluate handle load elapsed).2 := by
  cases hidle : load.isIdle with
  | true =>
    rw [evaluate, if_pos hidle]
    exact .idle hidle
  | false =>
    rw [evaluate_busy handle hidle]
    generalize Target.ofLoad load s.shared.settings = g
    split
    next hdecide =>
      simp only [search, Target.search, looked]
      cases hfound : (find s.shared.table.rows g.score g.tolerance
          s.shared.settings.weights).found with
      | none => exact .missed hidle hdecide hfound rfl rfl
      | some index =>
        obtain ⟨p, hrow, -⟩ := find_found hfound
        simp only [Option.bind_some, hrow, Option.map_some, handOver, waited]
        rcases hanswer : handle p s.controller.applier with ⟨outcome | message, applier⟩
        · exact .applied hidle hdecide hfound hrow hanswer rfl rfl
        · exact .applied hidle hdecide hfound hrow hanswer rfl rfl
    next hskip => exact .skipped hidle rfl hskip rfl rfl

/-- Inference only reads: of what is shared, a tick writes the metrics. -/
theorem Ticked.shared_eq {handle : Handler σ} {load : Load} {elapsed : Nanoseconds}
    {before after : State σ} {g : Target} {tick : Tick}
    (ticked : Ticked handle load elapsed before g tick after) :
    ∃ metrics, after.shared = { before.shared with metrics } := by
  cases ticked with
  | idle => exact ⟨_, rfl⟩
  | skipped _ _ _ _ hshared | applied _ _ _ _ _ _ hshared | missed _ _ _ _ hshared =>
    exact ⟨_, hshared⟩

/-! ## Appliers -/

/-- A state whose applier is looked at through a function. -/
def mapApplier (f : τ → σ) (s : State τ) : State σ where
  controller :=
    { applier := f s.controller.applier
      counters := s.controller.counters
      baseline := s.controller.baseline
      sinceChange := s.controller.sinceChange }
  shared := s.shared
  health := s.health

section

variable {f : τ → σ} {handle : Handler σ} {handle' : Handler τ}
  (alike : ∀ p a, handle p (f a) = ((handle' p a).1, f (handle' p a).2))

include alike

theorem search_map (g : Target) (s : State τ) :
    (s.mapApplier f).search handle g =
      ((s.search handle' g).1, (s.search handle' g).2.mapApplier f) := by
  simp only [search, mapApplier]
  rcases (g.search s.shared.table s.shared.settings.weights
    s.shared.metrics.evaluation).1.found.bind
      fun i => s.shared.table.rows[i]?.map fun p => (i, p) with _ | ⟨index, p⟩
  · rfl
  · simp only [handOver, alike]
    rcases handle' p s.controller.applier with ⟨outcome | message, applier⟩ <;> rfl

/-- Two appliers that answer alike cannot be told apart by a tick. -/
theorem evaluate_map (load : Load) (elapsed : Nanoseconds) (s : State τ) :
    (s.mapApplier f).evaluate handle load elapsed =
      ((s.evaluate handle' load elapsed).1, (s.evaluate handle' load elapsed).2.mapApplier f) := by
  cases hidle : load.isIdle with
  | true =>
    simp only [evaluate, if_pos hidle]
    rfl
  | false =>
    have hshared : (s.mapApplier f).shared = s.shared := rfl
    have hdecision (g : Target) : (s.mapApplier f).decision g elapsed = s.decision g elapsed := rfl
    rw [evaluate_busy handle hidle, evaluate_busy handle' hidle, hshared, hdecision]
    cases s.decision (Target.ofLoad load s.shared.settings) elapsed with
    | search => exact search_map alike _ (s.looked _ elapsed)
    | smallDelta | gracePeriod => rfl

end

end NetworkTuning.Inference.State
