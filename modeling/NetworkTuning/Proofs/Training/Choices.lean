import NetworkTuning.Proofs.Training.Step

/-!
# Where the choices of a row come from

A derived profile has a rule for its key, for the load it was recorded under and for its sizes. The
other columns are choices, and no rule writes one of them, so a derived profile makes all the
choices of its reference at once (`synthesize_agrees`).

**One step** (`step_descends`): whatever table it is taken on, in order or not, a training step
leaves rows that each make the choices of a row from before. A reference may itself be derived, so
**a run** (`trained_rows_keep_choices`) goes back step by step, to one row of the table it began
with.
-/

namespace NetworkTuning

namespace Column

/-- The columns that a rule writes when a profile is derived. -/
def ruled : List Column := transferRate :: loads ++ seeded ++ scaled

/-- The columns that are choices rather than sizes. -/
def choices : List Column := [
  cores, governor, ioScheduler, taskScheduler, numaBalancing, busyPoll, busyRead, tcpFastopen,
  tcpLowLatency, tcpSack, tcpTwReuse, tcpTwRecycle, tcpTimestamps, tcpSynRetries, rxCoalesceUsecs,
  rxCoalesceFrames, txCoalesceUsecs, txCoalesceFrames, rxChecksum, txChecksum, genericSegmentation,
  tcpSegmentation, genericReceive, largeReceive, rxVlan, txVlan, rxHash]

/-- Every column is a choice or has a rule, and none is both. -/
theorem choices_ruled_perm : (choices ++ ruled).Perm all := by decide

theorem not_mem_ruled {c : Column} (choice : c ∈ choices) : c ∉ ruled := by
  have hdisjoint : ∀ d ∈ choices, d ∉ ruled := by decide
  exact hdisjoint c choice

end Column

/-- Two profiles make the same choices. -/
def Profile.Agrees (p q : Profile) : Prop := ∀ c ∈ Column.choices, c.get p = c.get q

theorem Profile.Agrees.trans {p q r : Profile} (first : p.Agrees q) (second : q.Agrees r) :
    p.Agrees r := fun c hc => (first c hc).trans (second c hc)

namespace Table

/-- Each row of a table makes the choices of one row of another table. -/
def Descends (t origin : Table) : Prop :=
  ∀ p ∈ t.rows.toList, ∃ q ∈ origin.rows.toList, p.Agrees q

theorem Descends.refl (t : Table) : t.Descends t := fun p hp => ⟨p, hp, fun _ _ => rfl⟩

theorem Descends.trans {t t' t'' : Table} (first : t.Descends t') (second : t'.Descends t'') :
    t.Descends t'' := by
  intro p hp
  obtain ⟨q, hq, hpq⟩ := first p hp
  obtain ⟨r, hr, hqr⟩ := second q hq
  exact ⟨r, hr, hpq.trans hqr⟩

section

variable {t grown : Table} {reference index : Nat} {key : UInt64} {precision : Float}
  {f : Approximation} {live : Option Load}

/-- A derived profile makes the choices of its reference. -/
theorem synthesize_agrees {new : Synthesized}
    (h : t.synthesize reference key precision f live = .ok new) :
    ∃ row ∈ t.rows.toList, new.profile.Agrees row := by
  unfold synthesize at h
  cases hrow : t.rows[reference]? with
  | none => rw [hrow] at h; cases h
  | some row =>
    rw [hrow] at h
    cases hplace : t.place key with
    | error e => rw [hplace] at h; cases h
    | ok index =>
      rw [hplace] at h
      cases h
      refine ⟨row, Array.mem_toList_iff.mpr (Array.mem_of_getElem? hrow), fun c hc => ?_⟩
      have hruled := Column.not_mem_ruled hc
      simp only [Column.ruled, List.mem_append, List.mem_cons, not_or] at hruled
      obtain ⟨⟨⟨hkey, hloads⟩, hseeded⟩, hscaled⟩ := hruled
      rw [Profile.get_storeAll hscaled, Profile.get_storeAll hseeded]
      cases live with
      | none =>
        rw [Profile.get_storeAll hloads]
        exact Column.get_set_ne hkey key row
      | some l => cases c <;> first | rfl | exact absurd hc (by decide)

/-- A table that has grown by a derived profile descends from the table before. -/
theorem augment_descends
    (h : t.augment reference key precision f live = .ok (grown, index)) : grown.Descends t := by
  obtain ⟨new, hnew, before, after, hrows, hgrown⟩ := augment_gains h
  intro p hp
  rw [hgrown, List.mem_append, List.mem_cons] at hp
  rcases hp with hp | rfl | hp
  · exact ⟨p, hrows ▸ List.mem_append_left _ hp, fun _ _ => rfl⟩
  · exact synthesize_agrees hnew
  · exact ⟨p, hrows ▸ List.mem_append_right _ hp, fun _ _ => rfl⟩

end

end Table

namespace Training

/-- **One step.** Whatever it comes to, the table after it descends from the table before. -/
theorem step_descends (t : Table) (key : UInt64) (g : Target) (s : Settings) (live : Option Load)
    (m : Metrics) : (step t key g s live m).1.Descends t := by
  have htaken := step_taken t key g s live m
  generalize step t key g s live m = result at htaken ⊢
  cases htaken with
  | full | missed | duplicate => exact .refl t
  | inserted _ _ haugment => exact Table.augment_descends haugment

/-- What a training step is given: a key, what is searched for, the settings in force, and the load
that was read if it is a live step. -/
structure Task where
  key : UInt64
  target : Target
  settings : Settings
  live : Option Load

/-- Training steps one after the other. -/
def train (t : Table) (m : Metrics) : List Task → Table × Metrics
  | [] => (t, m)
  | task :: rest =>
    let (t, m, _) := step t task.key task.target task.settings task.live m
    train t m rest

/-- **No choice is invented or mixed.** Whatever training steps are taken on a table, on drawn keys
and live ones in any order, each row afterwards makes all the 27 choices of one row from the start;
these are the columns that no rule of deriving writes. -/
theorem trained_rows_keep_choices (t : Table) (m : Metrics) (tasks : List Task) :
    (∀ p ∈ (train t m tasks).1.rows.toList, ∃ origin ∈ t.rows.toList,
      ∀ c ∈ Column.choices, c.get p = c.get origin) ∧
    Column.choices.length = 27 ∧ (Column.choices ++ Column.ruled).Perm Column.all := by
  refine ⟨?_, rfl, Column.choices_ruled_perm⟩
  change (train t m tasks).1.Descends t
  induction tasks generalizing t m with
  | nil => exact .refl t
  | cons task rest ih =>
    have hstep := step_descends t task.key task.target task.settings task.live m
    exact (ih _ _).trans hstep

end Training

end NetworkTuning
