import NetworkTuning.Proofs.Session.Turns

/-!
# What live training records

A row that live training adds is recorded under the load that was read: neither the rules that pull
a derived load back to a neighbour nor the passage through doubles touch it (`synthesize_load`).

**One step** (`tick_recorded`): a tick that finds the load idle changes nothing, and any other tick
adds at most one row, recorded under the load of the tick; nothing is assumed of the table. **A
run** (`rows_record_loads`) of ticks and of whatever happens between them therefore adds rows that,
in the order in which they were added, are recorded under loads of the ticks, each used once.

What the schedule of live training plays is such a run (`play_eq_after`).
-/

namespace NetworkTuning

/-- A row that is derived for a load, under its transfer rate, is recorded under that load. -/
theorem Table.synthesize_load {t : Table} {reference : Nat} {l : Load} {precision : Float}
    {f : Approximation} {new : Synthesized}
    (h : t.synthesize reference l.transferRate precision f (some l) = .ok new) :
    new.profile.load = l := by
  unfold synthesize at h
  cases hrow : t.rows[reference]? with
  | none => rw [hrow] at h; cases h
  | some row =>
    rw [hrow] at h
    cases hplace : t.place l.transferRate with
    | error e => rw [hplace] at h; cases h
    | ok index =>
      rw [hplace] at h
      cases h
      rw [Profile.load_storeAll (by decide), Profile.load_storeAll (by decide)]
      rfl

namespace Training.Live

/-! ## Runs -/

/-- What may come next: the loop looks at the load, or something happens from outside. -/
inductive Turn where
  | tick
  | happen (e : Event)

/-- One turn. -/
def turn (path : String) (w : Live × Shared) : Turn → Live × Shared
  | .tick => w.1.tick path w.2
  | .happen e => (w.1, e.apply w.2)

/-- Any turns, one after the other. -/
def after (path : String) (w : Live × Shared) (turns : List Turn) : Live × Shared :=
  turns.foldl (turn path) w

/-- The loads that the ticks of a run look at. -/
def loads (path : String) (w : Live × Shared) : List Turn → List Load
  | [] => []
  | .tick :: rest => w.2.readings.load :: loads path (turn path w .tick) rest
  | .happen e :: rest => loads path (turn path w (.happen e)) rest

/-- What the schedule of live training plays is a run of ticks and of what happens. -/
theorem play_eq_after (path : String) (script : List (Nanoseconds × Event))
    (tickers : List Ticker) (w : Live × Shared) :
    ∃ turns, ((schedule path).play script tickers ⟨w, false⟩).2.work = after path w turns := by
  have hturn {w' : Live × Shared} (t : Turn) (h : ∃ turns, w' = after path w turns) :
      ∃ turns, turn path w' t = after path w turns := by
    obtain ⟨turns, rfl⟩ := h
    exact ⟨turns ++ [t], (List.foldl_concat ..).symm⟩
  refine (schedule path).play_induction (motive := fun s => ∃ turns, s.work = after path w turns)
    ?_ ?_ script tickers ⟨[], rfl⟩
  · intro index f s h
    exact hturn .tick h
  · intro e s h
    exact hturn (.happen e) h

/-! ## One step -/

variable {path : String}

/-- **One step.** A tick leaves the table, or the load is not idle and the table gains one row that
is recorded under it. -/
theorem tick_recorded (path : String) (l : Live) (s : Shared) :
    (l.tick path s).2.table = s.table ∨ s.readings.load.isIdle = false ∧
      ∃ p, s.table.Gains p (l.tick path s).2.table ∧ p.load = s.readings.load := by
  rcases tick_cases path l s with
    ⟨-, h⟩ | ⟨hbusy, table, metrics, result, saved, hstep, hsaved, h⟩
  · exact .inl (by rw [h])
  · have htaken := step_taken s.table s.readings.load.transferRate
      (Target.ofLoad s.readings.load s.settings) s.settings (some s.readings.load) s.metrics
    have htable : saved.table = table := hsaved.table
    rw [hstep] at htaken
    rw [h, htable]
    cases htaken with
    | full | missed | duplicate => exact .inl rfl
    | inserted _ _ haugment =>
      obtain ⟨new, hnew, hgains⟩ := Table.augment_gains haugment
      exact .inr ⟨hbusy, new.profile, hgains, Table.synthesize_load hnew⟩

theorem tick_idle {l : Live} {s : Shared} (idle : s.readings.load.isIdle = true) :
    l.tick path s = (l, s) := if_pos idle

/-- **Live training records what was read.** From any table, whatever is published and whichever
settings come into effect between the ticks: the rows that a run adds, in order, are recorded under
loads that its ticks looked at, each tick's load at most once and none of them idle. At each tick
the table stays as it is, or it gains one row and that row's load is the load of the tick; an idle
load changes nothing at all. -/
theorem rows_record_loads (path : String) (l : Live) (s : Shared) (turns : List Turn) :
    (∃ added : List Profile,
      (after path (l, s) turns).2.table.rows.toList.Perm (s.table.rows.toList ++ added) ∧
        (added.map Profile.load).Sublist
          ((loads path (l, s) turns).filter fun load => !load.isIdle)) ∧
      ∀ before rest, turns = before ++ .tick :: rest →
        let met := after path (l, s) before
        let left := met.1.tick path met.2
        (left.2.table = met.2.table ∨ met.2.readings.load.isIdle = false ∧
          ∃ p, met.2.table.Gains p left.2.table ∧ p.load = met.2.readings.load) ∧
          (met.2.readings.load.isIdle = true → left = met) := by
  refine ⟨?_, fun before rest _ => ⟨tick_recorded path _ _, fun hidle => tick_idle hidle⟩⟩
  induction turns generalizing l s with
  | nil => exact ⟨[], by rw [List.append_nil]; exact .refl _, .refl _⟩
  | cons t rest ih =>
    cases t with
    | happen e => exact ih l (e.apply s)
    | tick =>
      obtain ⟨added, hperm, hloads⟩ := ih (l.tick path s).1 (l.tick path s).2
      change (after path (l.tick path s) rest).2.table.rows.toList.Perm _ at hperm
      change (added.map Profile.load).Sublist ((loads path (l.tick path s) rest).filter _) at hloads
      rcases tick_recorded path l s with htable | ⟨hbusy, p, hgains, hload⟩
      · rw [htable] at hperm
        refine ⟨added, hperm, ?_⟩
        rw [loads, List.filter_cons]
        split
        next => exact hloads.cons _
        next => exact hloads
      · refine ⟨p :: added, ?_, ?_⟩
        · refine hperm.trans ((hgains.perm.append_right added).trans ?_)
          rw [List.append_assoc, List.singleton_append]
        · rw [loads, List.filter_cons, if_pos (by rw [hbusy]; rfl), List.map_cons, hload]
          exact hloads.cons_cons _

end Training.Live

end NetworkTuning
