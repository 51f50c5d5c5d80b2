import NetworkTuning.Proofs.Training.KeyRange

/-!
# Workers come to an end

What a worker can still do is bounded by what it can still lose: each free place of the table lets
it insert once, and between two insertions its patience bounds the steps that insert nothing. The
others may take free places too, which only leaves it less.

**One step** (`advance_advanced`): an advance ends the worker, or it takes a free place and gives
the worker its patience back, or it costs a piece of patience. So what is left falls with every
advance (`left_inserted`, `left_patient`). **A run** (`run_standing`) keeps `Standing`: as long as a
worker is at work, the advances it has made and what it has left come to no more than it began with,
and its last outcomes inserted nothing, as many as it counts misses. A worker that runs alone ends
within the steps it is given (`run_ended`).
-/

namespace NetworkTuning.Training

open NetworkTuning.Random

/-- A step that had room to insert and did not. -/
def Step.isDry : Step → Bool
  | .duplicate _ | .missed _ _ => true
  | .inserted _ _ | .full => false

namespace Worker

/-- What an advance comes to: the outcome of its training step, if there is a key to take one for.
-/
def outcome (w : Worker) (s : Shared) : Option Step :=
  (drawKey w.draws s.table).1.map fun key =>
    let load := s.readings.load
    let score := s.settings.weights.score key load.dropRate load.errorRate load.fifoErrorRate
    (step s.table key (Target.ofScore score s.settings) s.settings none s.metrics).2.2

/-- What is left to a worker that counts so many misses over a table: its patience for each free
place, and what it has not lost of it since the last insertion. -/
def left (t : Table) (misses : Nat) : Nat := (t.capacity - t.size) * patience + (patience - misses)

end Worker

/-! ## One step -/

/-- There is no key to draw exactly when no row has a positive key that is the largest. -/
theorem drawKey_eq_none_iff {t : Table} {draws : Draws} :
    (drawKey draws t).1 = none ↔ ∀ most, t.maxKey? = some most → most = 0 := by
  constructor
  · intro hnone most hlargest
    by_contra hmost
    have hpositive := UInt64.pos_iff_ne_zero.mpr hmost
    rw [drawKey_eq hlargest hpositive] at hnone
    split at hnone
    next =>
      -- where there is a largest key there is a smallest one
      rw [Table.minKey?_eq_head?, List.head?_eq_none_iff] at hnone
      rw [Table.maxKey?_eq_getLast?, hnone] at hlargest
      cases hlargest
    next => cases hnone
  · intro h
    exact drawKey_eq_none h

/-- What an advance comes to, and how it leaves the worker and the table. -/
inductive Advanced (w : Worker) (s : Shared) (after : Worker × Shared) : Option Step → Prop
  | keyless : (drawKey w.draws s.table).1 = none → after.2.table = s.table →
      after.1.ended = true → Advanced w s after none
  | full : s.table.size = s.table.capacity → after.2.table = s.table → after.1.ended = true →
      after.1.summary.full = true → after.1.summary.stalled = w.summary.stalled →
      Advanced w s after (some .full)
  | inserted {index : Nat} {key : UInt64} : s.table.size < s.table.capacity →
      after.2.table.capacity = s.table.capacity → after.2.table.size = s.table.size + 1 →
      after.1.ended = w.ended → after.1.misses = 0 → after.1.summary.full = w.summary.full →
      after.1.summary.stalled = w.summary.stalled →
      Advanced w s after (some (.inserted index key))
  | patient {r : Step} : r.isDry = true → w.misses + 1 < patience → after.2.table = s.table →
      after.1.ended = w.ended → after.1.misses = w.misses + 1 →
      after.1.summary.full = w.summary.full → after.1.summary.stalled = w.summary.stalled →
      Advanced w s after (some r)
  | stalled {r : Step} : r.isDry = true → patience ≤ w.misses + 1 → after.2.table = s.table →
      after.1.ended = true → after.1.summary.full = w.summary.full →
      after.1.summary.stalled = true → Advanced w s after (some r)

/-- A step that inserts nothing costs a worker a piece of its patience, or the last one. -/
theorem settle_dry (w : Worker) {r : Step} (dry : r.isDry = true) :
    w.settle r =
      if patience ≤ w.misses + 1 then
        { w with
          misses := w.misses + 1
          ended := true
          summary := { w.summary with stalled := true } }
      else { w with misses := w.misses + 1 } := by
  cases r with
  | duplicate | missed => rfl
  | full | inserted => cases dry

/-- A worker that advances on a table in order is left in one of these ways. -/
theorem advance_advanced (w : Worker) {s : Shared} (ordered : s.table.Ordered) :
    Advanced w s (w.advance s) (w.outcome s) := by
  unfold Worker.advance Worker.outcome
  rcases hdraw : drawKey w.draws s.table with ⟨_ | key, draws⟩
  · exact .keyless (by rw [hdraw]) rfl rfl
  · dsimp only [Option.map_some]
    generalize s.settings.weights.score key s.readings.load.dropRate s.readings.load.errorRate
      s.readings.load.fifoErrorRate = score
    have hstepped := step_stepped ordered key (Target.ofScore score s.settings) s.settings none
      s.metrics
    generalize step s.table key (Target.ofScore score s.settings) s.settings none s.metrics =
      taken at hstepped ⊢
    obtain ⟨table, metrics, r⟩ := taken
    dsimp only
    by_cases hdry : r.isDry = true
    · have htable : table = s.table := by
        cases hstepped with
        | missed | duplicate => rfl
        | full | inserted => cases hdry
      have hrecord : (w.summary.record r).full = w.summary.full ∧
          (w.summary.record r).stalled = w.summary.stalled := by
        cases r with
        | duplicate | missed => exact ⟨rfl, rfl⟩
        | full | inserted => cases hdry
      rw [settle_dry _ hdry]
      by_cases hlost : patience ≤ w.misses + 1
      · rw [if_pos hlost]
        exact .stalled hdry hlost htable rfl hrecord.1 rfl
      · rw [if_neg hlost]
        exact .patient hdry (Nat.not_le.mp hlost) htable rfl rfl hrecord.1 hrecord.2
    · cases hstepped with
      | missed | duplicate => exact absurd rfl hdry
      | full hfull => exact .full hfull rfl rfl rfl rfl
      | inserted _ _ _ hgrows =>
        exact .inserted hgrows.room hgrows.capacity hgrows.size_eq rfl rfl rfl rfl

theorem patience_pos : 0 < patience := by decide

/-- An insertion takes a free place, which is worth more than the patience it gives back. -/
theorem left_inserted {t grown : Table} {misses : Nat} (room : t.size < t.capacity)
    (capacity : grown.capacity = t.capacity) (size : grown.size = t.size + 1)
    (patient : misses < patience) : Worker.left grown 0 < Worker.left t misses := by
  have hfree : t.capacity - t.size = t.capacity - (t.size + 1) + 1 := by omega
  unfold Worker.left
  rw [capacity, size, hfree, Nat.succ_mul]
  omega

theorem left_patient {t : Table} {misses : Nat} (patient : misses + 1 < patience) :
    Worker.left t (misses + 1) < Worker.left t misses := by
  unfold Worker.left
  omega

/-- A table that has grown leaves nobody more. -/
theorem left_le {t grown : Table} (capacity : grown.capacity = t.capacity)
    (size : t.size ≤ grown.size) (misses : Nat) :
    Worker.left grown misses ≤ Worker.left t misses := by
  unfold Worker.left
  rw [capacity]
  exact Nat.add_le_add_right (Nat.mul_le_mul_right patience (by omega)) _

/-- At the start a worker has less left than the steps it is given. -/
theorem left_lt_bound (t : Table) : Worker.left t 0 < Worker.bound t := by
  unfold Worker.left Worker.bound
  rw [Nat.sub_zero, Nat.succ_mul]
  exact Nat.lt_succ_self _

/-- Writing what is to be written changes nothing else of a worker. -/
theorem save_worker (path : String) (w : Worker) (s : Shared) :
    (w.save path s).1 = { w with pending := none } := by
  unfold Worker.save
  cases h : w.pending with
  | none =>
    cases w
    cases h
    rfl
  | some rows => rfl

/-! ## A worker alone -/

theorem runFor_of_ended (path : String) (fuel : Nat) {w : Worker} (s : Shared)
    (ended : w.ended = true) : w.runFor path fuel s = (w, s) := by
  cases fuel with
  | zero => rfl
  | succ fuel => rw [Worker.runFor, if_pos ended]

/-- A worker that runs alone ends before it has taken as many steps as it has left. -/
theorem runFor_ended (path : String) (fuel : Nat) {w : Worker} {s : Shared}
    (ordered : s.table.Ordered) (patient : w.misses < patience)
    (enough : Worker.left s.table w.misses ≤ fuel) : (w.runFor path fuel s).1.ended = true := by
  induction fuel generalizing w s with
  | zero =>
    unfold Worker.left at enough
    omega
  | succ fuel ih =>
    by_cases hended : w.ended = true
    · rw [runFor_of_ended path _ s hended]
      exact hended
    · rw [Worker.runFor, if_neg hended]
      have hadvanced := advance_advanced w ordered
      have hordered : (w.advance s).2.table.Ordered := by
        rcases advance_cases_keys w ordered with h | ⟨p, index, hgrows, -⟩
        · rw [h]
          exact ordered
        · exact hgrows.ordered ordered
      generalize w.outcome s = o at hadvanced
      generalize w.advance s = after at hadvanced hordered ⊢
      obtain ⟨v, grown⟩ := after
      have htable := (save_saved path v grown).1.table
      dsimp only
      rw [save_worker]
      -- an advance that does not end the worker leaves it less than the steps still to come
      have hrest (hpatient : v.misses < patience)
          (hless : Worker.left grown.table v.misses < Worker.left s.table w.misses) :
          (Worker.runFor path fuel { v with pending := none } (v.save path grown).2).1.ended =
            true := by
        apply ih
        · rw [htable]
          exact hordered
        · exact hpatient
        · rw [htable]
          dsimp only
          omega
      cases hadvanced with
      | keyless _ _ hv | full _ _ hv | stalled _ _ _ hv =>
        rw [runFor_of_ended (w := { v with pending := none }) path fuel _ hv]
        exact hv
      | inserted hroom hcapacity hsize _ hnone =>
        apply hrest
        · rw [hnone]
          exact patience_pos
        · rw [hnone]
          exact left_inserted hroom hcapacity hsize patient
      | patient _ hpatient hsame _ hone =>
        apply hrest
        · rw [hone]
          exact hpatient
        · rw [hone, hsame]
          exact left_patient hpatient

/-- The steps that a worker is given are enough: run alone, it ends. -/
theorem run_ended (path : String) (draws : Draws) {s : Shared} (ordered : s.table.Ordered) :
    (Worker.run path false { draws } s).1.ended = true := by
  rw [Worker.run, if_neg Bool.false_ne_true]
  exact runFor_ended path _ ordered patience_pos (Nat.le_of_lt (left_lt_bound s.table))

/-! ## Standing in a team -/

/-- The last so many outcomes are of steps that inserted nothing. -/
def EndsDry (done : List (Option Step)) (count : Nat) : Prop :=
  ∃ earlier late, done = earlier ++ late ∧ late.length = count ∧
    ∀ o ∈ late, ∃ r, o = some r ∧ r.isDry = true

theorem EndsDry.none (done : List (Option Step)) : EndsDry done 0 :=
  ⟨done, [], (List.append_nil done).symm, rfl, by simp⟩

theorem EndsDry.concat {done : List (Option Step)} {count : Nat} {r : Step}
    (dry : EndsDry done count) (last : r.isDry = true) :
    EndsDry (done ++ [some r]) (count + 1) := by
  obtain ⟨earlier, late, rfl, rfl, hlate⟩ := dry
  refine ⟨earlier, late ++ [some r], List.append_assoc .., by simp, ?_⟩
  intro o ho
  rcases List.mem_append.mp ho with ho | ho
  · exact hlate o ho
  · exact ⟨r, List.mem_singleton.mp ho, last⟩

/-- How a worker stands after the outcomes `done` of its advances, in a team that started on the
table `first` and now has the table `t`; `stops` says that it may have been told to stop. -/
inductive Standing (first : Table) (stops : Prop) (t : Table) (w : Worker)
    (done : List (Option Step)) : Prop
  | working : w.ended = false → w.summary.full = false → w.summary.stalled = false →
      w.misses < patience → EndsDry done w.misses →
      done.length + Worker.left t w.misses < Worker.bound first → Standing first stops t w done
  | full : w.ended = true → w.summary.full = true → w.summary.stalled = false →
      t.size = first.capacity → done.getLast? = some (some .full) → Standing first stops t w done
  | stalled : w.ended = true → w.summary.full = false → w.summary.stalled = true →
      EndsDry done patience → Standing first stops t w done
  | keyless : w.ended = true → (∀ most, first.maxKey? = some most → most = 0) →
      Standing first stops t w done
  | told : w.ended = true → stops → Standing first stops t w done

namespace Standing

variable {first t : Table} {stops : Prop} {w v : Worker} {s : Shared} {after : Worker × Shared}
  {done : List (Option Step)} {o : Option Step}

/-- What others do leaves a worker where it stands. -/
theorem mono {grown : Table} (standing : Standing first stops t w done)
    (capacity : grown.capacity = t.capacity) (size : t.size ≤ grown.size)
    (fits : grown.size ≤ first.capacity) (ended : v.ended = w.ended) (misses : v.misses = w.misses)
    (summary : v.summary = w.summary) : Standing first stops grown v done := by
  cases standing with
  | working hended hfull hstalled hpatient hdry hleft =>
    have hle := left_le capacity size w.misses
    refine .working (ended.trans hended) (by rw [summary, hfull]) (by rw [summary, hstalled])
      (misses ▸ hpatient) (misses ▸ hdry) ?_
    rw [misses]
    omega
  | full hended hfull hstalled hsize hlast =>
    exact .full (ended.trans hended) (by rw [summary, hfull]) (by rw [summary, hstalled])
      (by omega) hlast
  | stalled hended hfull hstalled hdry =>
    exact .stalled (ended.trans hended) (by rw [summary, hfull]) (by rw [summary, hstalled]) hdry
  | keyless hended hnone => exact .keyless (ended.trans hended) hnone
  | told hended hstops => exact .told (ended.trans hended) hstops

/-- **One step.** A worker at work that advances is at work after it with less left, or it has ended
for a reason. -/
theorem advance (standing : Standing first stops s.table w done) (running : w.ended = false)
    (capacity : s.table.capacity = first.capacity) (largest : s.table.maxKey? = first.maxKey?)
    (advanced : Advanced w s after o) :
    (done ++ [o]).length < Worker.bound first ∧
      Standing first stops after.2.table after.1 (done ++ [o]) := by
  cases standing with
  | full hended | stalled hended | keyless hended | told hended =>
    rw [running] at hended
    cases hended
  | working _ hfull hstalled hpatient hdry hleft =>
    have hsome : 0 < Worker.left s.table w.misses := by
      unfold Worker.left
      omega
    have hlength : (done ++ [o]).length = done.length + 1 := by simp
    refine ⟨by omega, ?_⟩
    cases advanced with
    | keyless hnone _ hended => exact .keyless hended (largest ▸ drawKey_eq_none_iff.mp hnone)
    | full hsize htable hended hsaw hsame =>
      exact .full hended hsaw (hsame.trans hstalled) (by rw [htable, hsize, capacity])
        List.getLast?_concat
    | stalled hr hlost _ hended hsame hgave =>
      have hcount : w.misses + 1 = patience := by omega
      exact .stalled hended (hsame.trans hfull) hgave (hcount ▸ hdry.concat hr)
    | inserted hroom hcapacity hsize hended hnone hsame hgave =>
      have hless := left_inserted hroom hcapacity hsize hpatient
      refine .working (hended.trans running) (hsame.trans hfull) (hgave.trans hstalled)
        (hnone ▸ patience_pos) (hnone ▸ EndsDry.none _) ?_
      rw [hnone]
      omega
    | patient hr hpatient' htable hended hone hsame hgave =>
      have hless := left_patient (t := s.table) hpatient'
      refine .working (hended.trans running) (hsame.trans hfull) (hgave.trans hstalled)
        (hone ▸ hpatient') (hone ▸ hdry.concat hr) ?_
      rw [hone, htable]
      omega

end Standing

/-! ## Runs -/

namespace Team

variable {path : String} {first : Table} {stops : Prop} {place : Nat}

/-- What the advance that a move makes at a place comes to, if it makes one. -/
def outcomeAt (t : Team) (place : Nat) : Move → Option (Option Step)
  | .advance p draws settings readings =>
    if p = place then
      match t.workers[place]? with
      | none => none
      | some w =>
        if w.ended || w.pending.isSome then none
        else some (Worker.outcome { w with draws } { t.shared with settings, readings })
    else none
  | .save _ | .stop _ => none

/-- What the advances that a run makes at a place come to, in their order. -/
def outcomes (path : String) (place : Nat) : Team → List Move → List (Option Step)
  | _, [] => []
  | t, m :: rest => (t.outcomeAt place m).toList ++ outcomes path place (t.move path m) rest

/-- Where the worker at a place stands, if there is one, after few advances. -/
structure StandsAt (first : Table) (stops : Prop) (place : Nat) (t : Team)
    (done : List (Option Step)) : Prop where
  few : done.length < Worker.bound first
  standing : ∀ w, t.workers[place]? = some w → Standing first stops t.shared.table w done

theorem act_nobody {t : Team} {p : Nat} (nobody : t.workers[p]? = none)
    (f : Worker → Shared → Worker × Shared) : t.act p f = t := by
  unfold act
  rw [nobody]

theorem act_here {t : Team} {p : Nat} {w : Worker} (here : t.workers[p]? = some w)
    (f : Worker → Shared → Worker × Shared) :
    (t.act p f).workers[p]? = some (f w t.shared).1 ∧ (t.act p f).shared = (f w t.shared).2 := by
  unfold act
  rw [here]
  exact ⟨List.getElem?_set_self (List.getElem?_eq_some_iff.mp here).1, rfl⟩

theorem act_elsewhere (t : Team) {p : Nat} (other : p ≠ place)
    (f : Worker → Shared → Worker × Shared) : (t.act p f).workers[place]? = t.workers[place]? := by
  unfold act
  split
  next => rfl
  next => exact List.getElem?_set_ne other

/-- A worker advances if it is at work and has nothing to write, and else nothing happens. -/
theorem move_advance (path : String) (t : Team) (place : Nat) (draws : Draws)
    (settings : Settings) (readings : Readings) :
    let m := Move.advance place draws settings readings
    (t.move path m = t ∧ t.outcomeAt place m = none) ∨
      ∃ w, t.workers[place]? = some w ∧ w.ended = false ∧ w.pending = none ∧
        t.outcomeAt place m =
          some (Worker.outcome { w with draws } { t.shared with settings, readings }) ∧
        let after := Worker.advance { w with draws } { t.shared with settings, readings }
        (t.move path m).workers[place]? = some after.1 ∧ (t.move path m).shared = after.2 := by
  intro m
  cases hw : t.workers[place]? with
  | none =>
    refine .inl ⟨?_, by simp only [m, outcomeAt, if_pos, hw]⟩
    rw [move]
    exact act_nobody hw _
  | some w =>
    by_cases hbusy : (w.ended || w.pending.isSome) = true
    · refine .inl ⟨?_, by simp only [m, outcomeAt, if_pos, hw, hbusy]⟩
      obtain ⟨hplace, rfl⟩ := List.getElem?_eq_some_iff.mp hw
      simp only [m, move, act, hw, if_pos hbusy, List.set_getElem_self]
    · obtain ⟨hworker, hshared⟩ := act_here hw fun w s =>
        if w.ended || w.pending.isSome then (w, s)
        else Worker.advance { w with draws } { s with settings, readings }
      rw [if_neg hbusy] at hworker hshared
      obtain ⟨hrunning, hidle⟩ : w.ended = false ∧ w.pending = none := by
        simpa using hbusy
      refine .inr ⟨w, rfl, hrunning, hidle, ?_, hworker, hshared⟩
      simp only [m, outcomeAt, if_pos, hw, if_neg hbusy]

/-- An act that leaves the worker at a place at work or ended as it was, with its counts. -/
theorem act_kept {t : Team} {p : Nat} {f : Worker → Shared → Worker × Shared} {v : Worker}
    (kept : p = place → ∀ w, t.workers[place]? = some w → (f w t.shared).1.ended = w.ended ∧
      (f w t.shared).1.misses = w.misses ∧ (f w t.shared).1.summary = w.summary)
    (here : (t.act p f).workers[place]? = some v) :
    ∃ w, t.workers[place]? = some w ∧ v.ended = w.ended ∧ v.misses = w.misses ∧
      v.summary = w.summary := by
  by_cases hplace : p = place
  · subst hplace
    cases hw : t.workers[p]? with
    | none =>
      rw [act_nobody hw, hw] at here
      cases here
    | some w =>
      rw [(act_here hw f).1] at here
      cases here
      exact ⟨w, rfl, kept rfl w hw⟩
  · rw [act_elsewhere t hplace] at here
    exact ⟨v, here, rfl, rfl, rfl⟩

/-- The table of a sound team never shrinks. -/
theorem move_size_le (path : String) {t : Team} (sound : t.Sound first) (m : Move) :
    t.shared.table.size ≤ (t.move path m).shared.table.size := by
  have hfilled : t.shared.table.Filled (t.move path m).shared.table :=
    move_filled sound.ordered.filled m
  obtain ⟨added, hperm, -⟩ := hfilled.added
  have hlength := hperm.length_eq
  rw [List.length_append] at hlength
  unfold Table.size
  rw [← Array.length_toList, ← Array.length_toList]
  omega

/-- A move that leaves a worker as it is leaves it where it stands. -/
theorem StandsAt.keep {t t' : Team} {done : List (Option Step)} {o : Option (Option Step)}
    (stands : t.StandsAt first stops place done) (none : o = none)
    (capacity : t'.shared.table.capacity = t.shared.table.capacity)
    (size : t.shared.table.size ≤ t'.shared.table.size)
    (fits : t'.shared.table.size ≤ first.capacity)
    (kept : ∀ v, t'.workers[place]? = some v → ∃ w, t.workers[place]? = some w ∧
      v.ended = w.ended ∧ v.misses = w.misses ∧ v.summary = w.summary) :
    t'.StandsAt first stops place (done ++ o.toList) := by
  rw [none, Option.toList_none, List.append_nil]
  refine ⟨stands.few, fun v hv => ?_⟩
  obtain ⟨w, hw, hended, hmisses, hsummary⟩ := kept v hv
  exact (stands.standing w hw).mono capacity size fits hended hmisses hsummary

/-- **One step.** Whatever moves, a worker stands where its own advances have left it. -/
theorem move_standsAt {t : Team} {done : List (Option Step)} (sound : t.Sound first)
    (filled : first.Filled t.shared.table) (stands : t.StandsAt first stops place done) (m : Move)
    (told : m = .stop place → stops) :
    (t.move path m).StandsAt first stops place (done ++ (t.outcomeAt place m).toList) := by
  have hsound : (t.move path m).Sound first := move_sound sound m
  have hcapacity : (t.move path m).shared.table.capacity = t.shared.table.capacity :=
    hsound.capacity.trans sound.capacity.symm
  have hsize := move_size_le path sound m
  have hfits : (t.move path m).shared.table.size ≤ first.capacity := by
    rw [← hsound.capacity]
    exact hsound.ordered.fits
  cases m with
  | save p =>
    refine stands.keep rfl hcapacity hsize hfits fun v hv => act_kept (fun _ w _ => ?_) hv
    rw [save_worker]
    exact ⟨rfl, rfl, rfl⟩
  | stop p =>
    by_cases hp : p = place
    · subst hp
      rw [outcomeAt, Option.toList_none, List.append_nil]
      refine ⟨stands.few, fun v hv => .told ?_ (told rfl)⟩
      cases hw : t.workers[p]? with
      | none =>
        rw [move, act_nobody hw, hw] at hv
        cases hv
      | some w =>
        rw [move, (act_here hw _).1] at hv
        cases hv
        rfl
    · apply stands.keep rfl hcapacity hsize hfits
      intro v hv
      exact act_kept (fun h => absurd h hp) hv
  | advance p draws settings readings =>
    by_cases hp : p = place
    · subst hp
      rcases move_advance path t p draws settings readings with
        ⟨hsame, hnone⟩ | ⟨w, hw, hrunning, -, hout, hworker, hshared⟩
      · rw [hsame, hnone, Option.toList_none, List.append_nil]
        exact stands
      · have hstood : Standing first stops t.shared.table { w with draws } done :=
          (stands.standing w hw).mono rfl (Nat.le_refl _)
            (sound.capacity ▸ sound.ordered.fits) rfl rfl rfl
        have hadvanced := advance_advanced { w with draws }
          (s := { t.shared with settings, readings }) sound.ordered
        obtain ⟨hfew, hstands⟩ := hstood.advance (s := { t.shared with settings, readings })
          hrunning sound.capacity filled.largest hadvanced
        rw [hout, Option.toList_some]
        refine ⟨hfew, fun v hv => ?_⟩
        rw [hworker] at hv
        rw [hshared]
        cases hv
        exact hstands
    · have hnone : t.outcomeAt place (.advance p draws settings readings) = none := if_neg hp
      apply stands.keep hnone hcapacity hsize hfits
      intro v hv
      exact act_kept (fun h => absurd h hp) hv

/-- **A run** of any moves leaves a worker where its own advances have left it. -/
theorem run_standsAt {t : Team} {done : List (Option Step)} (sound : t.Sound first)
    (filled : first.Filled t.shared.table) (stands : t.StandsAt first stops place done)
    (moves : List Move) (told : .stop place ∈ moves → stops) :
    (t.run path moves).StandsAt first stops place (done ++ t.outcomes path place moves) := by
  induction moves generalizing t done with
  | nil =>
    rw [outcomes, List.append_nil]
    exact stands
  | cons m rest ih =>
    have hstep : (t.move path m).StandsAt first stops place
        (done ++ (t.outcomeAt place m).toList) :=
      move_standsAt sound filled stands m fun h => told (h ▸ List.mem_cons_self)
    rw [outcomes, ← List.append_assoc]
    exact ih (move_sound sound m) (move_filled filled m) hstep fun h =>
      told (List.mem_cons_of_mem m h)

theorem start_standsAt (streams : List Draws) (s : Shared) (stops : Prop) (place : Nat) :
    (start streams s).StandsAt s.table stops place [] := by
  have hleft := left_lt_bound s.table
  refine ⟨by rw [List.length_nil]; omega, fun w hw => ?_⟩
  obtain ⟨draws, -, rfl⟩ := List.mem_map.mp (List.mem_of_getElem? hw)
  refine .working rfl rfl rfl patience_pos (EndsDry.none []) ?_
  rw [List.length_nil, Nat.zero_add]
  exact hleft

/-- **Workers come to an end.** However many workers start on a table that was made by inserting,
whatever they draw and look up, however their steps interleave and wherever others stop: a worker
advances at most as often as its patience allows for each free place of the table and once more, and
has ended by then. One that was not told to stop, over a table with a positive key, has ended for
exactly one of two reasons: its last step has found the table full, and full it is, or so many steps
at the end as its patience allows have inserted nothing. A worker that runs alone ends. -/
theorem workers_come_to_an_end (path : String) (capacity : Nat) (profiles : List Profile)
    (streams : List Draws) (s : Shared) (moves : List Move) (place : Nat) :
    let first := Table.ofList capacity profiles
    let start := start streams { s with table := first }
    let t := start.run path moves
    let done := start.outcomes path place moves
    done.length ≤ (capacity - first.size + 1) * patience ∧
      (∀ w, t.workers[place]? = some w → w.ended = false →
        done.length < (capacity - first.size + 1) * patience) ∧
      ((∃ key ∈ first.keys, 0 < key) → .stop place ∉ moves →
        ∀ w, t.workers[place]? = some w → w.ended = true →
          (w.summary.full = true ∧ w.summary.stalled = false ∧
              done.getLast? = some (some .full) ∧ t.shared.table.size = capacity) ∨
            (w.summary.full = false ∧ w.summary.stalled = true ∧ EndsDry done patience)) ∧
      ∀ draws, (Worker.run path false { draws } { s with table := first }).1.ended = true := by
  intro first start t done
  obtain ⟨hordered, hcapacity⟩ := Table.ofList_ordered capacity profiles
  have hsound : start.Sound first := start_sound streams (s := { s with table := first }) hordered
  have hstands : t.StandsAt first (.stop place ∈ moves) place done :=
    run_standsAt hsound hordered.filled
      (start_standsAt streams { s with table := first } (.stop place ∈ moves) place) moves id
  have hbound : Worker.bound first = (capacity - first.size + 1) * patience + 1 := by
    rw [Worker.bound, hcapacity]
  have hfew := hstands.few
  refine ⟨by omega, fun w hw hrunning => ?_, fun hkey hfree w hw hended => ?_, fun draws =>
    run_ended path draws (s := { s with table := first }) hordered⟩
  · cases hstands.standing w hw with
    | working _ _ _ hpatient _ hless =>
      unfold Worker.left at hless
      omega
    | full hended | stalled hended | keyless hended | told hended =>
      rw [hrunning] at hended
      cases hended
  · cases hstands.standing w hw with
    | working hrunning =>
      rw [hrunning] at hended
      cases hended
    | full _ hfull hstalled hsize hlast =>
      exact .inl ⟨hfull, hstalled, hlast, hsize.trans hcapacity⟩
    | stalled _ hfull hstalled hdry => exact .inr ⟨hfull, hstalled, hdry⟩
    | keyless _ hnone =>
      -- some row has a positive key, so the largest key is positive
      obtain ⟨key, hmem, hpositive⟩ := hkey
      obtain ⟨most, hlargest, hle⟩ := hordered.exists_maxKey? hmem
      rw [hnone most hlargest] at hle
      exact absurd hpositive (UInt64.not_lt.mpr hle)
    | told _ hstops => exact absurd hstops hfree

end Team

end NetworkTuning.Training
