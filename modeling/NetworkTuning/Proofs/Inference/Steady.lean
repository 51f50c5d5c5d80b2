import NetworkTuning.Proofs.Inference.HoldOff
import NetworkTuning.Proofs.Load.Score
import NetworkTuning.Proofs.Table.Search

/-!
# A steady load

On a steady course every tick looks at the same load, under the same settings and over the same
table. Once a row was applied the baseline is the score of that load and stays there
(`Steady.baseline`), so that the distance of the score from the baseline is zero, and zero is below
every positive tolerance. A tolerance of zero is met by the search, which also takes a distance that
equals it, but not by the rule that passes a small change over: there the row is found and applied
at every tick anew (`reapplied_iff`).
-/

namespace NetworkTuning.Inference

open Double

/-! ## One tick -/

/-- A score calls for a search exactly when it has moved far enough and has not dropped too soon. -/
theorem decide_search_iff {score baseline tolerance : Float} {sinceChange grace : Nanoseconds} :
    decide score baseline tolerance sinceChange grace = .search ↔
      ¬(score - baseline).abs < tolerance ∧ ¬(score < baseline ∧ sinceChange ≤ grace) := by
  refine ⟨State.decide_search, fun ⟨hmoved, hdrop⟩ => ?_⟩
  have hlate : ¬(Decidable.decide (score < baseline) && Decidable.decide (sinceChange ≤ grace)) =
      true := by simpa using hdrop
  simp only [decide, if_neg hmoved, if_neg hlate]

namespace State

variable {σ : Type}

/-- **When a tick applies a row.** -/
theorem evaluate_isApplied (handle : Handler σ) (load : Load) (elapsed : Nanoseconds)
    (s : State σ) :
    let g := Target.ofLoad load s.shared.settings
    (s.evaluate handle load elapsed).1.isApplied = true ↔
      load.isIdle = false ∧
        ¬(g.score - s.controller.baseline).abs < g.tolerance ∧
        ¬(g.score < s.controller.baseline ∧
          s.controller.sinceChange + elapsed ≤ s.shared.settings.gracePeriod) ∧
        (find s.shared.table.rows g.score g.tolerance s.shared.settings.weights).found.isSome := by
  intro g
  have hticked := evaluate_ticked handle load elapsed s
  generalize s.evaluate handle load elapsed = result at hticked ⊢
  obtain ⟨tick, after⟩ := result
  cases hticked with
  | idle hidle => simp [Tick.isApplied, hidle]
  | skipped _ hdecide hskip =>
    refine iff_of_false Bool.false_ne_true fun h => hskip ?_
    exact hdecide.symm.trans (decide_search_iff.mpr ⟨h.2.1, h.2.2.1⟩)
  | applied hbusy hdecide hfound =>
    obtain ⟨hmoved, hdrop⟩ := decide_search hdecide
    exact iff_of_true rfl ⟨hbusy, hmoved, hdrop, Option.isSome_iff_exists.mpr ⟨_, hfound⟩⟩
  | missed _ _ hnone =>
    refine iff_of_false Bool.false_ne_true fun h => ?_
    have hfound : (s.result g).found.isSome := h.2.2.2
    rw [hnone] at hfound
    cases hfound

end State

/-! ## Steady courses -/

namespace Course

variable {σ : Type}

/-- Every tick looks at one load, under one choice of settings and over one table. -/
structure Steady (c : Course σ) (load : Load) (settings : Settings) (table : Table) : Prop where
  load : ∀ n, (c.moments n).load = load
  settings : ∀ n, c.settings n = settings
  table : ∀ n, c.table n = table

variable {c : Course σ} {load : Load} {settings : Settings} {table : Table}

namespace Steady

theorem target_eq (steady : c.Steady load settings table) (n : Nat) :
    c.target n = Target.ofLoad load settings := by
  rw [target, steady.load, steady.settings]

/-- When a tick of a steady course applies a row. -/
theorem isApplied_iff (steady : c.Steady load settings table) (n : Nat) :
    let g := Target.ofLoad load settings
    (c.tick n).isApplied = true ↔
      load.isIdle = false ∧
        ¬(g.score - (c.before n).controller.baseline).abs < g.tolerance ∧
        ¬(g.score < (c.before n).controller.baseline ∧
          (c.before n).controller.sinceChange + (c.moments n).elapsed ≤ settings.gracePeriod) ∧
        (find table.rows g.score g.tolerance settings.weights).found.isSome := by
  have h := State.evaluate_isApplied (c.moments n).handle (c.moments n).load
    (c.moments n).elapsed (meets (c.moments n) (c.before n))
  rw [steady.load] at h
  rw [show (meets (c.moments n) (c.before n)).shared.settings = settings from steady.settings n,
    show (meets (c.moments n) (c.before n)).shared.table = table from steady.table n] at h
  rw [tick, turn, steady.load]
  exact h

/-- Once a row was applied the baseline is the score of the load. -/
theorem baseline (steady : c.Steady load settings table) {i j : Nat}
    (first : (c.tick i).isApplied = true) (later : i < j) :
    (c.before j).controller.baseline = (Target.ofLoad load settings).score := by
  induction j, later using Nat.le_induction with
  | base =>
    cases c.tick_evaluated i with
    | applied _ _ _ hbase => rw [hbase, steady.target_eq]
    | quiet hquiet => exact absurd first (by rw [hquiet]; exact Bool.false_ne_true)
  | succ k _ ih =>
    cases c.tick_evaluated k with
    | applied _ _ _ hbase => rw [hbase, steady.target_eq]
    | quiet _ hbase => exact hbase.trans ih

end Steady

/-- A distance that the search takes for a match lies within a tolerance that is a number and not
negative. -/
theorem not_pos_iff_of_within {x tolerance : Float} (within : x.abs ≤ tolerance) :
    ¬0.0 < tolerance ↔ (tolerance == 0.0) = true := by
  obtain ⟨b, hb, hnonneg⟩ := nonneg_iff_exists.mp (nonneg_of_abs_le within)
  rw [means_zero.lt_iff hb, hb.beq_iff means_zero, EReal.coe_zero, not_lt]
  exact ⟨fun h => le_antisymm h hnonneg, fun h => h.le⟩

/-- **A steady load is applied once, unless its tolerance is zero.** Whatever the ticks are apart
and whatever the applier answers, under settings that a document gave: after the first tick that
applies a row, another one does so exactly if the tolerance of the load is zero. -/
theorem reapplied_iff {document : Document}
    (accepted : Settings.ofDocument document = .ok settings)
    (steady : c.Steady load settings table) {i j : Nat} (later : i < j)
    (first : (c.tick i).isApplied = true) :
    (c.tick j).isApplied = true ↔ ((Target.ofLoad load settings).tolerance == 0.0) = true := by
  obtain ⟨hbusy, -, -, hfound⟩ := (steady.isApplied_iff i).mp first
  -- the row that is found shows that the score is a real
  obtain ⟨index, hindex⟩ := Option.isSome_iff_exists.mp hfound
  obtain ⟨p, -, hwithin⟩ := find_found hindex
  obtain ⟨r, hscore⟩ : ∃ r : ℝ, Means (Target.ofLoad load settings).score r :=
    Profile.real_of_within (Settings.ofDocument_validate accepted) hwithin
  have hsame : ¬(Target.ofLoad load settings).score < (Target.ofLoad load settings).score := by
    rw [hscore.lt_iff hscore]
    exact lt_irrefl _
  refine (steady.isApplied_iff j).trans ?_
  rw [steady.baseline first later, abs_self_sub_lt_iff hscore,
    ← not_pos_iff_of_within (of_decide_eq_true hwithin)]
  exact ⟨fun h => h.2.1, fun h => ⟨hbusy, h, fun h' => hsame h'.1, hfound⟩⟩

/-! ## Constant courses -/

/-- A course on which nothing changes from outside. -/
def constant (settings : Settings) (table : Table) (load : Load) (elapsed : Nanoseconds)
    (handle : Handler σ) (applier : σ) : Course σ where
  start := { controller := { applier }, shared := { settings, table } }
  moments := fun _ => { load, elapsed, handle }

/-- What no one changes is the same at every tick. -/
theorem constant_steady (settings : Settings) (table : Table) (load : Load)
    (elapsed : Nanoseconds) (handle : Handler σ) (applier : σ) :
    (constant settings table load elapsed handle applier).Steady load settings table := by
  have hkept (n : Nat) :
      ((constant settings table load elapsed handle applier).before n).shared.settings = settings ∧
        ((constant settings table load elapsed handle applier).before n).shared.table = table := by
    induction n with
    | zero => exact ⟨rfl, rfl⟩
    | succ n ih =>
      obtain ⟨metrics, hshared⟩ := (State.evaluate_ticked handle load elapsed
        ((constant settings table load elapsed handle applier).before n)).shared_eq
      have hnext : ((constant settings table load elapsed handle applier).before (n + 1)).shared =
          { ((constant settings table load elapsed handle applier).before n).shared with
            metrics } := hshared
      rw [hnext]
      exact ih
  exact ⟨fun _ => rfl, fun n => (hkept n).1, fun n => (hkept n).2⟩

/-- A document that gives weight to the bytes alone. -/
def bytesAlone : Document where
  learning := 0
  savingLoop := 1000
  accuracy := 0.0
  approximation := 0
  gracePeriod := 0
  statsPeriod := 1.0
  inferencePeriod := 1.0
  pluginsPath := ""
  weights := { transfer := 0.0009765625 }
  labels := {}

/-- The settings that it gives. -/
def bytesAloneSettings : Settings := (Settings.ofDocument bytesAlone).toOption.getD {}

theorem bytesAlone_accepted : Settings.ofDocument bytesAlone = .ok bytesAloneSettings :=
  Settings.ofDocument_accepted (by decide +kernel)

/-- A load of bytes is applied once, whatever comes after. -/
theorem bytes_applied_once :
    let c : Course Unit := constant bytesAloneSettings (Table.ofList 1 [{ transferRate := 512 }])
      { transferRate := 512 } 6 (fun _ s => (.error "no such program", s)) ()
    (c.tick 0).isApplied = true ∧ ∀ n, 0 < n → (c.tick n).isApplied = false := by
  intro c
  have hfirst : (c.tick 0).isApplied = true := by decide +kernel
  have hpositive : ¬((Target.ofLoad { transferRate := 512 } bytesAloneSettings).tolerance == 0.0) =
      true := by decide +kernel
  refine ⟨hfirst, fun n hn => ?_⟩
  rw [← Bool.not_eq_true]
  exact mt (reapplied_iff bytesAlone_accepted (constant_steady ..) hn hfirst).mp hpositive

/-- A load of nothing but dropped packets has no score under these settings, and a row of no bytes
is applied for it again and again. -/
theorem drops_applied_again :
    ∃ (document : Document) (settings : Settings) (table : Table) (load : Load) (c : Course Unit),
      Settings.ofDocument document = .ok settings ∧ load.isIdle = false ∧
        c.Steady load settings table ∧ c.start.controller.baseline = 0.0 ∧
        (c.tick 0).isApplied = true ∧ (c.tick 1).isApplied = true :=
  ⟨bytesAlone, bytesAloneSettings, Table.ofList 1 [{}], { dropRate := 5 },
    constant bytesAloneSettings (Table.ofList 1 [{}]) { dropRate := 5 } 10
      (fun _ s => (.error "no such program", s)) (),
    bytesAlone_accepted, by decide, constant_steady .., rfl, by decide +kernel, by decide +kernel⟩

end Course

end NetworkTuning.Inference
