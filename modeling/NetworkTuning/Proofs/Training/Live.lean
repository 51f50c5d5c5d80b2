import NetworkTuning.Proofs.Training.Team
import NetworkTuning.Training.Live

/-!
# The live loop beside the workers

A tick of live training is passed over, or it is one training step for the load (`tick_cases`), so
the live loop treats the table as a worker does (`tickAs_honest`) and may be counted as one worker
more of a team. A team with one worker more in front does all that the team does (`move_cons`).
-/

namespace NetworkTuning.Training

namespace Live

/-- A tick of live training passes an idle load over, and takes one step for any other. -/
theorem tick_cases (path : String) (l : Live) (s : Shared) :
    (s.readings.load.isIdle = true ∧ l.tick path s = (l, s)) ∨
      (s.readings.load.isIdle = false ∧ ∃ table metrics result saved,
        step s.table s.readings.load.transferRate (Target.ofLoad s.readings.load s.settings)
          s.settings (some s.readings.load) s.metrics = (table, metrics, result) ∧
        Saved (Shared.recordSize { s with table, metrics }) saved ∧
        l.tick path s = (⟨l.summary.record result, decide (result = .full)⟩, saved)) := by
  unfold Live.tick
  dsimp only
  by_cases hidle : s.readings.load.isIdle
  · exact .inl ⟨hidle, if_pos hidle⟩
  · rcases hstep : step s.table s.readings.load.transferRate
      (Target.ofLoad s.readings.load s.settings) s.settings (some s.readings.load) s.metrics
      with ⟨table, metrics, result⟩
    refine .inr ⟨Bool.eq_false_iff.mpr hidle, table, metrics, result, _, rfl, ?_, if_neg hidle⟩
    split
    next => exact saveSnapshot_saved _ _ _
    next => exact .refl _

/-- A tick of live training, as a worker with its summary would take it. -/
def tickAs (path : String) (ended : Bool) (w : Worker) (s : Shared) : Worker × Shared :=
  let (live, shared) := Live.tick path ⟨w.summary, ended⟩ s
  ({ summary := live.summary }, shared)

/-- The live loop treats the table as an honest worker does. -/
theorem tickAs_honest (path : String) (ended : Bool) (w : Worker) {s : Shared}
    (ordered : s.table.Ordered) : Honest w s (tickAs path ended w s) := by
  unfold tickAs
  rcases tick_cases path ⟨w.summary, ended⟩ s with
    ⟨-, h⟩ | ⟨-, table, metrics, result, saved, hstep, hsaved, h⟩
  · rw [h]
    exact honest_of_eq rfl rfl
  · have hstepped := step_stepped ordered s.readings.load.transferRate
      (Target.ofLoad s.readings.load s.settings) s.settings (some s.readings.load) s.metrics
    rw [hstep] at hstepped
    rw [h]
    exact hstepped.honest hsaved.table rfl rfl

end Live

namespace Team

variable {path : String}

/-- What a team does is done by a team with one worker more in front. -/
theorem move_cons (path : String) (w : Worker) (t : Team) (m : Move) :
    ∃ m', (⟨w :: t.workers, t.shared⟩ : Team).move path m' =
      ⟨w :: (t.move path m).workers, (t.move path m).shared⟩ := by
  have hact (place : Nat) (f : Worker → Shared → Worker × Shared) :
      (⟨w :: t.workers, t.shared⟩ : Team).act (place + 1) f =
        ⟨w :: (t.act place f).workers, (t.act place f).shared⟩ := by
    unfold Team.act
    rw [List.getElem?_cons_succ]
    cases t.workers[place]? with
    | none => rfl
    | some v => rfl
  cases m with
  | advance place draws settings readings =>
    exact ⟨.advance (place + 1) draws settings readings, by simp only [Team.move, hact]⟩
  | save place => exact ⟨.save (place + 1), by simp only [Team.move, hact]⟩
  | stop place => exact ⟨.stop (place + 1), by simp only [Team.move, hact]⟩

/-- Nothing moves where nobody works. -/
theorem move_nobody (path : String) {t : Team} (nobody : t.workers = []) (m : Move) :
    t.move path m = t := by
  have hact (place : Nat) (f : Worker → Shared → Worker × Shared) : t.act place f = t := by
    unfold act
    rw [nobody]
    rfl
  cases m with
  | advance | save | stop => rw [move, hact]

/-- Only the workers and the table matter to a team's soundness. -/
theorem Sound.congr {first : Table} {t t' : Team} (sound : t.Sound first)
    (workers : t'.workers = t.workers) (table : t'.shared.table = t.shared.table) :
    t'.Sound first := by
  obtain ⟨ordered, capacity, kept, counted, full⟩ := sound
  refine ⟨table ▸ ordered, table ▸ capacity, table ▸ kept, ?_, ?_⟩
  · rw [table, counted, Team.inserted, Team.inserted, workers]
  · rw [table, workers]
    exact full

end Team

end NetworkTuning.Training
