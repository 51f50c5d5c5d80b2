import Mathlib
import NetworkTuning.Proofs.Random.Draws
import NetworkTuning.Proofs.Training.Step
import NetworkTuning.Training.Worker

/-!
# Workers that train one table together

A team is any number of workers over one shared table. It moves one worker at a time: a worker
advances (it draws a key, searches, derives and inserts as one step that nothing interrupts), it
writes the snapshot that a step left to be written, or it is told to stop. A run is any list of
moves, so the moves of different workers interleave in every possible way, and a worker may stop
anywhere. What a worker draws from, and the settings and readings it looks up before it gets hold of
the table, come with the move and are arbitrary; so is every key below the largest one
(`exists_drawKey`).

**One step** (`move_sound`): whatever moves, the table stays in order within its capacity, keeps its
rows, and has grown by as many rows as the workers have counted; a worker that has seen the table
full has seen the truth, for a full table stays full. **A run** keeps this from the start
(`run_sound`), and the merged summary of a team is the same in whichever order it is merged.

Running workers one after the other, as `Training.run` does, is one such run (`run_eq_team`).
-/

namespace NetworkTuning.Training

open NetworkTuning.Random

/-! ## Summaries -/

namespace Summary

instance : Std.Commutative merge where
  comm a b := by
    simp only [merge, Nat.add_comm, Nat.max_comm, Bool.or_comm]

instance : Std.Associative merge where
  assoc a b c := by
    simp only [merge, Nat.add_assoc, Nat.max_assoc, Bool.or_assoc]

/-- Summaries merged one after the other, from the empty one on. -/
def mergeAll (summaries : List Summary) : Summary := summaries.foldl merge {}

/-- Summaries come to the same in whichever order they are merged. -/
theorem mergeAll_perm {first second : List Summary} (perm : first.Perm second) :
    mergeAll first = mergeAll second := by
  unfold mergeAll
  exact perm.foldl_eq ({} : Summary)

theorem mergeAll_cons (s : Summary) (rest : List Summary) :
    mergeAll (s :: rest) = s.merge (mergeAll rest) := by
  simp only [mergeAll, List.foldl_eq_foldr, List.foldr_cons]

theorem mergeAll_full (summaries : List Summary) :
    (mergeAll summaries).full = true ↔ ∃ s ∈ summaries, s.full = true := by
  induction summaries with
  | nil => simp [mergeAll]
  | cons s rest ih => simp [mergeAll_cons, merge, ih]

theorem mergeAll_inserted (summaries : List Summary) :
    (mergeAll summaries).inserted = (summaries.map Summary.inserted).sum := by
  induction summaries with
  | nil => rfl
  | cons s rest ih => rw [mergeAll_cons, List.map_cons, List.sum_cons, ← ih]; rfl

end Summary

/-! ## Moves -/

/-- Workers and what they share. -/
structure Team where
  workers : List Worker
  shared : Shared

/-- What may happen next in a team: the worker at a place advances, writes or stops. -/
inductive Move where
  | advance (place : Nat) (draws : Draws) (settings : Settings) (readings : Readings)
  | save (place : Nat)
  | stop (place : Nat)

namespace Team

/-- A team before its first move, with a worker for each stream of draws. -/
def start (streams : List Draws) (s : Shared) : Team := ⟨streams.map ({ draws := · }), s⟩

/-- A team in which the worker at a place has done something. -/
def act (t : Team) (place : Nat) (f : Worker → Shared → Worker × Shared) : Team :=
  match t.workers[place]? with
  | none => t
  | some w => ⟨t.workers.set place (f w t.shared).1, (f w t.shared).2⟩

/-- One move. A worker that has ended or still has to write does not advance. -/
def move (path : String) (t : Team) : Move → Team
  | .advance place draws settings readings => t.act place fun w s =>
    if w.ended || w.pending.isSome then (w, s)
    else Worker.advance { w with draws } { s with settings, readings }
  | .save place => t.act place (Worker.save path)
  | .stop place => t.act place fun w s => ({ w with ended := true }, s)

/-- A run: any moves in any order. -/
def run (path : String) (t : Team) (moves : List Move) : Team := moves.foldl (move path) t

/-- The summaries of all workers in one, with the size of the table. -/
def summary (t : Team) : Summary :=
  { Summary.mergeAll (t.workers.map Worker.summary) with entries := t.shared.table.size }

/-- How many insertions the workers have counted. -/
def inserted (t : Team) : Nat := (t.workers.map fun w => w.summary.inserted).sum

end Team

namespace Team

variable {path : String}

/-- Acting changes one worker and what is shared, or nothing at all. -/
theorem act_split (t : Team) (place : Nat) (f : Worker → Shared → Worker × Shared) :
    t.act place f = t ∨ ∃ before w after, t.workers = before ++ w :: after ∧
      t.act place f = ⟨before ++ (f w t.shared).1 :: after, (f w t.shared).2⟩ := by
  unfold act
  cases h : t.workers[place]? with
  | none => exact .inl rfl
  | some w =>
    obtain ⟨hplace, rfl⟩ := List.getElem?_eq_some_iff.mp h
    refine .inr ⟨t.workers.take place, t.workers[place], t.workers.drop (place + 1), ?_, ?_⟩
    · rw [List.getElem_cons_drop, List.take_append_drop]
    · simp only [List.set_eq_take_append_cons_drop, if_pos hplace]

theorem act_append (before after : List Worker) (w : Worker) (s : Shared)
    (f : Worker → Shared → Worker × Shared) :
    (⟨before ++ w :: after, s⟩ : Team).act before.length f =
      ⟨before ++ (f w s).1 :: after, (f w s).2⟩ := by
  have hw : (before ++ w :: after)[before.length]? = some w := by simp
  unfold act
  simp only [hw, List.set_append_right _ _ (Nat.le_refl _), Nat.sub_self, List.set_cons_zero]

end Team

/-! ## One step -/

section Worker

/-- What a worker may do to the table and to its count: neither changes, or the table grows by one
row and the count by one. The worker takes the table to be full only when it is. -/
def Honest (w : Worker) (s : Shared) (after : Worker × Shared) : Prop :=
  (after.2.table = s.table ∧ after.1.summary.inserted = w.summary.inserted ∧
    (after.1.summary.full = true → w.summary.full = true ∨ s.table.size = s.table.capacity)) ∨
  ∃ p index, s.table.Grows p index after.2.table ∧
    after.1.summary.inserted = w.summary.inserted + 1 ∧
    after.1.summary.full = w.summary.full

theorem honest_of_eq {w : Worker} {s : Shared} {after : Worker × Shared}
    (table : after.2.table = s.table) (summary : after.1.summary = w.summary) :
    Honest w s after := by
  rw [Honest, summary]
  exact .inl ⟨table, rfl, .inl⟩

/-- Whoever takes a training step and counts it is honest. -/
theorem Stepped.honest {w : Worker} {s : Shared} {after : Worker × Shared} {key : UInt64}
    {g : Target} {settings : Settings} {live : Option Load} {m metrics : Metrics} {table : Table}
    {result : Step} (stepped : Stepped s.table key g settings live m (table, metrics, result))
    (grown : after.2.table = table)
    (inserted : after.1.summary.inserted = (w.summary.record result).inserted)
    (full : after.1.summary.full = (w.summary.record result).full) : Honest w s after := by
  rw [Honest, grown, inserted, full]
  cases stepped with
  | full hfull => exact .inl ⟨rfl, rfl, fun _ => .inr hfull⟩
  | missed => exact .inl ⟨rfl, rfl, .inl⟩
  | duplicate => exact .inl ⟨rfl, rfl, .inl⟩
  | inserted _ _ _ hgrows => exact .inr ⟨_, _, hgrows, rfl, rfl⟩

/-- A number is drawn below the largest key, and zero stands for the smallest one. -/
theorem drawKey_eq {t : Table} {draws : Draws} {most : UInt64} (largest : t.maxKey? = some most)
    (positive : 0 < most) :
    (drawKey draws t).1 =
      if (draws.below most).1 = 0 then t.minKey? else some (draws.below most).1 := by
  rcases hdrawn : draws.below most with ⟨drawn, rest⟩
  unfold drawKey
  rw [largest]
  change Prod.fst (ite (most = 0) _ _) = _
  rw [if_neg (UInt64.pos_iff_ne_zero.mp positive), hdrawn]

/-- Whatever key below the largest one comes next, there are draws that lead to it. -/
theorem exists_drawKey {t : Table} {key most : UInt64} (largest : t.maxKey? = some most)
    (positive : key ≠ 0) (below : key < most) : ∃ draws, (drawKey draws t).1 = some key := by
  obtain ⟨draws, hdraws⟩ := exists_below below
  have hmost : 0 < most := UInt64.lt_trans (UInt64.pos_iff_ne_zero.mpr positive) below
  refine ⟨draws, ?_⟩
  rw [drawKey_eq largest hmost, hdraws, if_neg positive]

/-- A worker that advances finds no key to draw, or takes one step for the key it has drawn. -/
theorem advance_cases (w : Worker) (s : Shared) :
    (∃ draws, w.advance s = ({ w with draws, ended := true }, s)) ∨
      ∃ key draws, drawKey w.draws s.table = (some key, draws) ∧
        ∃ g table metrics result,
          step s.table key g s.settings none s.metrics = (table, metrics, result) ∧
          w.advance s =
            (Worker.settle { w with
                draws
                summary := w.summary.record result
                pending := snapshotDue table s.settings result } result,
              Shared.recordSize { s with table, metrics }) := by
  unfold Worker.advance
  rcases h : drawKey w.draws s.table with ⟨_ | key, draws⟩
  · exact .inl ⟨draws, rfl⟩
  · generalize hload : s.readings.load = load
    generalize hscore :
      s.settings.weights.score key load.dropRate load.errorRate load.fifoErrorRate = score
    rcases hstep : step s.table key (Target.ofScore score s.settings) s.settings none s.metrics
      with ⟨table, metrics, result⟩
    refine .inr ⟨key, draws, rfl, _, table, metrics, result, hstep, ?_⟩
    simp only [hscore, hstep]

/-- What a step means for the worker may let its patience run out and changes none of its counts. -/
theorem settle_summary (w : Worker) (r : Step) :
    ∃ stalled, (w.settle r).summary = { w.summary with stalled } := by
  cases r with
  | full | inserted => exact ⟨w.summary.stalled, rfl⟩
  | duplicate | missed =>
    simp only [Worker.settle]
    split
    next => exact ⟨true, rfl⟩
    next => exact ⟨w.summary.stalled, rfl⟩

/-- A worker that advances on a table in order is honest. -/
theorem advance_honest (w : Worker) {s : Shared} (ordered : s.table.Ordered) :
    Honest w s (w.advance s) := by
  rcases advance_cases w s with
    ⟨draws, h⟩ | ⟨key, draws, -, g, table, metrics, result, hstep, h⟩
  · rw [h]
    exact .inl ⟨rfl, rfl, .inl⟩
  · have hstepped := step_stepped ordered key g s.settings none s.metrics
    rw [hstep] at hstepped
    obtain ⟨stalled, hsettle⟩ := settle_summary { w with
      draws
      summary := w.summary.record result
      pending := snapshotDue table s.settings result } result
    rw [h]
    exact hstepped.honest rfl (by rw [hsettle]) (by rw [hsettle])

/-- What is shared after a snapshot has been written or has failed, or after none was due: only the
files and the number of snapshots may have changed. -/
def Saved (before after : Shared) : Prop :=
  ∃ files snapshots snapshotErrors, after =
    { before with files, metrics := { before.metrics with snapshots, snapshotErrors } }

theorem Saved.refl (s : Shared) : Saved s s :=
  ⟨s.files, s.metrics.snapshots, s.metrics.snapshotErrors, rfl⟩

theorem Saved.table {before after : Shared} (saved : Saved before after) :
    after.table = before.table := by
  obtain ⟨files, snapshots, snapshotErrors, rfl⟩ := saved
  rfl

theorem saveSnapshot_saved (s : Shared) (path : String) (rows : List Profile) :
    Saved s (s.saveSnapshot path rows).1 := by
  unfold Shared.saveSnapshot
  split <;> exact ⟨_, _, _, rfl⟩

theorem saveSnapshot_table (s : Shared) (path : String) (rows : List Profile) :
    (s.saveSnapshot path rows).1.table = s.table := (saveSnapshot_saved s path rows).table

/-- A worker that writes a snapshot leaves its summary. -/
theorem save_saved (path : String) (w : Worker) (s : Shared) :
    Saved s (w.save path s).2 ∧ (w.save path s).1.summary = w.summary := by
  unfold Worker.save
  cases w.pending with
  | none => exact ⟨.refl s, rfl⟩
  | some rows =>
    dsimp only
    exact ⟨saveSnapshot_saved s path rows, rfl⟩

end Worker

/-! ## Runs -/

namespace Team

variable {path : String} {first : Table}

/-- What every move keeps, for a team that started on the table `first`. -/
structure Sound (first : Table) (t : Team) : Prop where
  ordered : t.shared.table.Ordered
  capacity : t.shared.table.capacity = first.capacity
  kept : first.rows.toList.Sublist t.shared.table.rows.toList
  counted : t.shared.table.size = first.size + t.inserted
  full : ∀ w ∈ t.workers, w.summary.full = true → t.shared.table.size = first.capacity

theorem mem_of_replaced {before after : List Worker} (old : Worker) {new v : Worker}
    (h : v ∈ before ++ new :: after) : v = new ∨ v ∈ before ++ old :: after := by
  rcases List.mem_append.mp h with hb | hv
  · exact .inr (List.mem_append_left _ hb)
  · rcases List.mem_cons.mp hv with rfl | ha
    · exact .inl rfl
    · exact .inr (List.mem_append_right _ (List.mem_cons_of_mem _ ha))

/-- An honest worker keeps its team sound. -/
theorem Sound.act {t : Team} (sound : t.Sound first) (place : Nat)
    {f : Worker → Shared → Worker × Shared} (honest : ∀ w, Honest w t.shared (f w t.shared)) :
    (t.act place f).Sound first := by
  rcases act_split t place f with h | ⟨before, w, after, hworkers, h⟩
  · rwa [h]
  · have hcounted := sound.counted
    have hfull := sound.full
    have hcapacity := sound.capacity
    have hw : w ∈ before ++ w :: after := List.mem_append_right _ List.mem_cons_self
    rw [inserted, hworkers] at hcounted
    rw [hworkers] at hfull
    rw [h]
    rcases honest w with ⟨htable, hinserted, hseen⟩ | ⟨p, index, step, hinserted, hseen⟩
    · refine ⟨by rw [htable]; exact sound.ordered, by rw [htable]; exact hcapacity,
        by rw [htable]; exact sound.kept, ?_, ?_⟩
      · rw [htable, hcounted, inserted]
        simp only [List.map_append, List.map_cons, hinserted]
      · rw [htable]
        intro v hv hvfull
        rcases mem_of_replaced w hv with rfl | hv
        · rcases hseen hvfull with hwfull | hsize
          · exact hfull w hw hwfull
          · exact hsize.trans hcapacity
        · exact hfull v hv hvfull
    · have hsize := step.size_eq
      have hroom := step.room
      -- nobody has seen the table full, for there was room for one row more
      have hnone : ∀ v ∈ before ++ w :: after, v.summary.full ≠ true := by
        intro v hv hvfull
        have := hfull v hv hvfull
        omega
      refine ⟨step.ordered sound.ordered, step.capacity.trans hcapacity,
        sound.kept.trans step.sublist, ?_, ?_⟩
      · rw [hsize, hcounted, inserted]
        simp only [List.map_append, List.map_cons, List.sum_append, List.sum_cons, hinserted]
        omega
      · intro v hv hvfull
        rcases mem_of_replaced w hv with rfl | hv
        · exact absurd (hseen ▸ hvfull) (hnone w hw)
        · exact absurd hvfull (hnone v hv)

/-- **One step.** Whatever moves, a team stays sound. -/
theorem move_sound {t : Team} (sound : t.Sound first) (m : Move) :
    (t.move path m).Sound first := by
  cases m with
  | advance place draws settings readings =>
    rw [move]
    refine sound.act place fun w => ?_
    by_cases h : w.ended || w.pending.isSome
    · rw [if_pos h]
      exact honest_of_eq rfl rfl
    · rw [if_neg h]
      exact advance_honest { w with draws } (s := { t.shared with settings, readings })
        sound.ordered
  | save place =>
    refine sound.act place fun w => ?_
    obtain ⟨hsaved, hsummary⟩ := save_saved path w t.shared
    exact honest_of_eq hsaved.table hsummary
  | stop place => exact sound.act place fun w => honest_of_eq rfl rfl

/-- A run of any length keeps a team sound. -/
theorem run_sound {t : Team} (sound : t.Sound first) (moves : List Move) :
    (t.run path moves).Sound first := by
  induction moves generalizing t with
  | nil => exact sound
  | cons m rest ih => exact ih (move_sound sound m)

theorem start_sound (streams : List Draws) {s : Shared} (ordered : s.table.Ordered) :
    (start streams s).Sound s.table := by
  refine ⟨ordered, rfl, List.Sublist.refl _, ?_, ?_⟩
  · have hnone : (start streams s).inserted = 0 := by
      simp [inserted, start, Function.comp_def]
    rw [hnone]
    rfl
  · intro w hw hfull
    obtain ⟨draws, -, rfl⟩ := List.mem_map.mp hw
    cases hfull

/-- **Workers that share a table.** However many workers start on a table that was made by
inserting, whatever they draw and look up, however their steps interleave and wherever they stop:
keys ascend strictly within the capacity, the rows from the start are all there, the table has grown
by exactly the insertions that the workers have counted, and their merged summary is the same in
every order and says that the table is full only when it is. -/
theorem run_keeps_rows_and_counts (path : String) (capacity : Nat) (profiles : List Profile)
    (streams : List Draws) (s : Shared) (moves : List Move) :
    let first := Table.ofList capacity profiles
    let t := (start streams { s with table := first }).run path moves
    let last := t.shared.table
    (last.keys.Pairwise (· < ·) ∧ last.capacity = capacity ∧ last.size ≤ capacity) ∧
      first.rows.toList.Sublist last.rows.toList ∧
      last.size = first.size + (t.workers.map fun w => w.summary.inserted).sum ∧
      (∀ order : List Worker, order.Perm t.workers →
        { Summary.mergeAll (order.map Worker.summary) with entries := last.size } = t.summary) ∧
      (t.summary.full = true → last.size = capacity) := by
  intro first t last
  obtain ⟨hordered, hcapacity⟩ := Table.ofList_ordered capacity profiles
  have sound : t.Sound first :=
    run_sound (start_sound streams (s := { s with table := first }) hordered) moves
  have hlast : last.capacity = capacity := sound.capacity.trans hcapacity
  refine ⟨⟨sound.ordered.ascending, hlast, ?_⟩, sound.kept, sound.counted, ?_, ?_⟩
  · exact hlast ▸ sound.ordered.fits
  · intro order perm
    rw [summary, Summary.mergeAll_perm (perm.map Worker.summary)]
  · intro hfull
    obtain ⟨v, hv, hvfull⟩ := (Summary.mergeAll_full _).mp hfull
    obtain ⟨w, hw, rfl⟩ := List.mem_map.mp hv
    exact (sound.full w hw hvfull).trans hcapacity

/-! ## Workers one after the other -/

theorem run_append (t : Team) (first second : List Move) :
    t.run path (first ++ second) = (t.run path first).run path second :=
  List.foldl_append

theorem save_pending (path : String) (w : Worker) (s : Shared) :
    (w.save path s).1.pending = none := by
  unfold Worker.save
  cases h : w.pending with
  | none => exact h
  | some rows => rfl

theorem runFor_moves (before after : List Worker) (fuel : Nat) (w : Worker) (s : Shared)
    (idle : w.pending = none) :
    ∃ moves, (⟨before ++ w :: after, s⟩ : Team).run path moves =
      ⟨before ++ (w.runFor path fuel s).1 :: after, (w.runFor path fuel s).2⟩ := by
  induction fuel generalizing w s with
  | zero => exact ⟨[], rfl⟩
  | succ fuel ih =>
    by_cases hended : w.ended
    · refine ⟨[], ?_⟩
      rw [Worker.runFor, if_pos hended]
      rfl
    · -- one turn of the loop is an advance and, whether there is something to write or not, a save
      obtain ⟨moves, hmoves⟩ := ih ((w.advance s).1.save path (w.advance s).2).1
        ((w.advance s).1.save path (w.advance s).2).2 (save_pending _ _ _)
      refine ⟨.advance before.length w.draws s.settings s.readings :: .save before.length :: moves,
        ?_⟩
      have hfree : ¬(w.ended || w.pending.isSome) = true := by simp [hended, idle]
      have hadvance : move path ⟨before ++ w :: after, s⟩
          (.advance before.length w.draws s.settings s.readings) =
            ⟨before ++ (w.advance s).1 :: after, (w.advance s).2⟩ := by
        rw [move, act_append, if_neg hfree]
      rw [Worker.runFor, if_neg hended]
      simp only [run, List.foldl_cons, hadvance]
      rw [move, act_append]
      exact hmoves

theorem runWorkers_moves (path : String) (stopped : Bool) (streams : List Draws)
    (before : List Worker) (s : Shared) :
    ∃ moves workers,
      (⟨before ++ streams.map ({ draws := · }), s⟩ : Team).run path moves =
        ⟨before ++ workers, (runWorkers path stopped streams s).2⟩ ∧
      Summary.mergeAll (workers.map Worker.summary) = (runWorkers path stopped streams s).1 := by
  induction streams generalizing before s with
  | nil => exact ⟨[], [], rfl, rfl⟩
  | cons draws rest ih =>
    obtain ⟨own, hown⟩ : ∃ moves,
        (⟨before ++ ({ draws } : Worker) :: rest.map ({ draws := · }), s⟩ : Team).run path moves =
          ⟨before ++ (Worker.run path stopped { draws } s).1 :: rest.map ({ draws := · }),
            (Worker.run path stopped { draws } s).2⟩ := by
      cases stopped with
      | true => exact ⟨[.stop before.length], act_append before _ { draws } s _⟩
      | false =>
        rw [Worker.run, if_neg Bool.false_ne_true]
        exact runFor_moves before _ _ { draws } s rfl
    obtain ⟨moves, workers, hrun, hsummary⟩ :=
      ih (before ++ [(Worker.run path stopped { draws } s).1])
        (Worker.run path stopped { draws } s).2
    simp only [List.append_assoc, List.singleton_append] at hrun
    refine ⟨own ++ moves, (Worker.run path stopped { draws } s).1 :: workers, ?_, ?_⟩
    · rw [run_append, List.map_cons, hown, hrun, runWorkers]
    · rw [List.map_cons, Summary.mergeAll_cons, hsummary, runWorkers]

/-- Workers that run one after the other are one run of a team. -/
theorem run_eq_team (path : String) (stopped : Bool) (streams : List Draws) (s : Shared) :
    ∃ moves, let t := (start (if streams.isEmpty then [{}] else streams) s).run path moves
      Training.run path stopped streams s = (t.summary, t.shared) := by
  obtain ⟨moves, workers, hrun, hsummary⟩ :=
    runWorkers_moves path stopped (if streams.isEmpty then [{}] else streams) [] s
  refine ⟨moves, ?_⟩
  rw [start]
  rw [List.nil_append, List.nil_append] at hrun
  simp only [hrun, Training.run, Team.summary, hsummary]

end Team

end NetworkTuning.Training
