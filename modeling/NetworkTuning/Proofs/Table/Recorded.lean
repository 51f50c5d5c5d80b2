import NetworkTuning.Proofs.Load.Score
import NetworkTuning.Proofs.Load.Tolerance
import NetworkTuning.Proofs.Settings.Validation
import NetworkTuning.Proofs.Table.Path
import NetworkTuning.Training.Basic

/-!
# Rows recorded under the load that is looked for

A row that was recorded under the very counters of a load has the load's score, so it matches within
every tolerance that is a number and not negative, and within no other. Under accepted settings the
tolerance of a real score is such a number exactly if the approximation of the score times its
precision is (`Target.search_recorded_iff`): a score below zero has a negative tolerance, or none,
unless it is squared, and so has a score below one if the approximation is a logarithm.
-/

open Float.Model Float.Model.UnpackedFloat

namespace NetworkTuning

open Double

/-- Whether a row was recorded under the network counters of a load. -/
def Profile.RecordedUnder (p : Profile) (l : Load) : Prop :=
  p.transferRate = l.transferRate ∧ p.dropRate = l.dropRate ∧ p.errorRate = l.errorRate ∧
    p.fifoErrorRate = l.fifoErrorRate

theorem Profile.RecordedUnder.score_eq {p : Profile} {l : Load} (recorded : p.RecordedUnder l)
    (w : Weights) : p.score w = l.score w := by
  obtain ⟨htransfer, hdrop, herrors, hfifo⟩ := recorded
  rw [Profile.score, Load.score, htransfer, hdrop, herrors, hfifo]

namespace Target

variable {d : Document} {s : Settings} {load : Load} {t : Table} {m : Metrics} {i : Nat}
  {row : Profile}

/-- The tolerance of a real score, under accepted settings. -/
theorem tolerance_nonneg_iff (accepted : Settings.ofDocument d = .ok s)
    (finite : (ofLoad load s).score.isFinite = true) :
    (0.0 ≤ (ofLoad load s).tolerance ↔
        s.approximation.NonnegAt ((ofLoad load s).score * (ofLoad load s).precision)) ∧
      (0.0 ≤ (ofLoad load s).score * (ofLoad load s).precision ↔ 0.0 ≤ (ofLoad load s).score) := by
  obtain ⟨r, hscore⟩ := isFinite_iff.mp finite
  obtain ⟨a, hacc, nonneg, below⟩ := Settings.accuracy_share accepted
  obtain ⟨p, hproduct, hsign, -⟩ := means_mul_precision hscore hacc nonneg below
  refine ⟨s.approximation.nonneg_apply_iff hproduct, ?_⟩
  rw [means_zero.le_iff hscore, EReal.coe_le_coe_iff, ← hsign, ← EReal.coe_le_coe_iff]
  exact means_zero.le_iff hproduct

/-- **A search that comes by a row recorded under the load finds a match exactly if the tolerance of
the load's score is not negative.** -/
theorem search_recorded_iff (accepted : Settings.ofDocument d = .ok s)
    (finite : (ofLoad load s).score.isFinite = true)
    (onWay : i ∈ searchPath t.rows (ofLoad load s).score 0 t.rows.size)
    (hrow : t.rows[i]? = some row) (recorded : row.RecordedUnder load) :
    let g := ofLoad load s
    ((g.search t s.weights m).1.found.isSome = true ↔
        s.approximation.NonnegAt (g.score * g.precision)) ∧
      (0.0 ≤ g.tolerance ↔ s.approximation.NonnegAt (g.score * g.precision)) ∧
      (0.0 ≤ g.score * g.precision ↔ 0.0 ≤ g.score) := by
  intro g
  obtain ⟨htolerance, hsign⟩ := tolerance_nonneg_iff accepted finite
  refine ⟨?_, htolerance, hsign⟩
  rw [← htolerance]
  refine find_isSome_iff.trans ⟨?_, fun hnonneg => ⟨i, onWay, row, hrow, ?_⟩⟩
  · rintro ⟨-, -, p, -, hwithin⟩
    exact nonneg_of_abs_le (of_decide_eq_true hwithin)
  · obtain ⟨r, hscore⟩ := isFinite_iff.mp finite
    refine decide_eq_true ?_
    rw [recorded.score_eq]
    exact (abs_self_sub_le_iff hscore _).mpr hnonneg

/-- A document under which small loads have a negative score. -/
def indebted : Document where
  learning := 0
  savingLoop := 1000
  accuracy := 0.5
  approximation := 0
  gracePeriod := 0
  statsPeriod := 1.0
  inferencePeriod := 1.0
  pluginsPath := ""
  weights := { bias := -9.5 }
  labels := {}

/-- The settings that it gives. -/
def indebtedSettings : Settings := (Settings.ofDocument indebted).toOption.getD {}

theorem indebted_accepted : Settings.ofDocument indebted = .ok indebtedSettings :=
  Settings.ofDocument_accepted (by decide +kernel)

/-- A table of one row, recorded under bytes alone. -/
def recordedOnce (bytes : UInt64) : Table := ⟨#[{ transferRate := bytes }], 1⟩

/-- A load of ten bytes is found again. -/
theorem indebted_finds :
    ((ofLoad { transferRate := 10 } indebtedSettings).search (recordedOnce 10)
      indebtedSettings.weights {}).1.found.isSome = true := by
  have hfinite : (ofLoad { transferRate := 10 } indebtedSettings).score.isFinite = true := by
    decide +kernel
  have hrow : (recordedOnce 10).rows[0]? = some { transferRate := 10 } := rfl
  have hfound := (search_recorded_iff (m := {}) indebted_accepted hfinite (by decide +kernel) hrow
    ⟨rfl, rfl, rfl, rfl⟩).1
  have hidentity : indebtedSettings.approximation = .identity := by decide +kernel
  have hproduct : 0.0 ≤ (ofLoad { transferRate := 10 } indebtedSettings).score *
      (ofLoad { transferRate := 10 } indebtedSettings).precision := by decide +kernel
  refine hfound.mpr ?_
  rw [hidentity]
  exact hproduct

/-- A load of four bytes has a tolerance below zero, and not even the row of four bytes is found. -/
theorem indebted_misses :
    ∃ (d : Document) (s : Settings) (t : Table) (load : Load) (i : Nat) (row : Profile),
      Settings.ofDocument d = .ok s ∧ (ofLoad load s).score.isFinite = true ∧
        i ∈ searchPath t.rows (ofLoad load s).score 0 t.rows.size ∧ t.rows[i]? = some row ∧
        row.RecordedUnder load ∧ (ofLoad load s).tolerance < 0.0 ∧
        ((ofLoad load s).search t s.weights {}).1.found = none :=
  ⟨indebted, indebtedSettings, recordedOnce 4, { transferRate := 4 }, 0,
    { transferRate := 4 }, indebted_accepted, by decide +kernel, by decide +kernel, rfl,
    ⟨rfl, rfl, rfl, rfl⟩, by decide +kernel, by decide +kernel⟩

end Target

end NetworkTuning
