import NetworkTuning.Proofs.Session.Opening
import NetworkTuning.Proofs.TableFile.Replacing
import NetworkTuning.Proofs.Training.Snapshots

/-!
# What a session leaves alone

A session writes its snapshot, beside the table file and under another name, and nothing else. So
the files are what is made of them from outside, but for two places (`SameBut`), and the table file
is not at either of them.

**One step** (`turn_sameBut`): only a worker and the loop of live training write, and both write the
snapshot; the searches, the samplers and the commands write nothing. **A run** keeps the files the
same but for the two places (`after_sameBut`), whatever happens to them from outside meanwhile. A
session that searches writes nothing at all, and leaves its table (`after_reads`).
-/

namespace NetworkTuning

open FileTree

/-- The places at which a table file is written, its own and that of its draft. -/
def TableFile.places (path : String) : List (List String) := [spot path, spot (draftPath path)]

/-! ## Who writes -/

theorem Shared.saveSnapshot_sameBut (s : Shared) (path : String) (rows : List Profile) :
    SameBut (TableFile.places path) s.files (s.saveSnapshot path rows).1.files := by
  have hwrite := TableFile.write_sameBut s.files path rows {}
  unfold saveSnapshot
  split
  next h => rw [h] at hwrite; exact hwrite
  next h => rw [h] at hwrite; exact hwrite

namespace Training

open NetworkTuning.Random

/-- A tick of live training writes the snapshot, if anything. -/
theorem Live.tick_sameBut (path : String) (l : Live) (s : Shared) :
    SameBut (TableFile.places path) s.files (l.tick path s).2.files := by
  have hsaved (stepped : Shared) (kept : stepped.files = s.files) (rows : List Profile) :
      SameBut (TableFile.places path) s.files (stepped.saveSnapshot path rows).1.files := by
    rw [← kept]
    exact stepped.saveSnapshot_sameBut path rows
  unfold Live.tick
  dsimp only
  split
  next => exact .refl _ _
  next =>
    dsimp only
    split
    next => exact hsaved _ (by rfl) _
    next => exact .refl _ _

namespace Team

/-- A worker writes the snapshot, if anything. -/
theorem move_sameBut (path : String) (t : Team) (m : Move) :
    SameBut (TableFile.places path) t.shared.files (t.move path m).shared.files := by
  have hact (place : Nat) (f : Worker → Shared → Worker × Shared)
      (h : ∀ w, SameBut (TableFile.places path) t.shared.files (f w t.shared).2.files) :
      SameBut (TableFile.places path) t.shared.files (t.act place f).shared.files :=
    act_shared (motive := fun s => SameBut (TableFile.places path) t.shared.files s.files)
      (.refl _ _) h
  cases m with
  | advance place draws settings readings =>
    refine hact place _ fun w => ?_
    split
    next => exact .refl _ _
    next =>
      rw [advance_files]
      exact .refl _ _
  | stop place => exact hact place _ fun w => .refl _ _
  | save place =>
    refine hact place _ fun w => ?_
    unfold Worker.save
    split
    next => exact .refl _ _
    next rows _ =>
      dsimp only
      exact t.shared.saveSnapshot_sameBut path rows

end Team

end Training

namespace Session

open Training NetworkTuning.Random

namespace AtWork

/-! ## One step -/

/-- What is made of the files from outside in some turns. -/
def changes (turns : List Turn) : List (String × Option Node) :=
  (turns.filterMap Turn.event?).flatMap Event.changes

theorem changes_cons (t : Turn) (rest : List Turn) :
    changes (t :: rest) = changes [t] ++ changes rest := by
  unfold changes
  rw [← List.flatMap_append, ← List.filterMap_append]
  rfl

/-- What is made of the files in turns is what is made of them by the events that happen. -/
theorem changes_of_events {turns : List Turn} {carried : List (Nanoseconds × Event × Session)}
    (events : turns.filterMap Turn.event? = carried.map fun entry => entry.2.1) :
    changes turns = carried.flatMap fun entry => entry.2.1.changes := by
  rw [changes, events, List.flatMap_map]

theorem change_append (first second : List (String × Option Node)) (files : FileTree) :
    files.change (first ++ second) = (files.change first).change second := List.foldl_append

theorem happen_files (e : Event) (s : Session) :
    (s.happen e).shared.files = s.shared.files.change e.changes ∧
      (s.happen e).shared.table = s.shared.table := by
  obtain ⟨settings, stopping, hhappen⟩ := happen_apply e s
  rw [hhappen]
  exact ⟨rfl, rfl⟩

/-- A tick of the searches leaves the files and the table. -/
theorem search_files (elapsed : Nanoseconds) {s : Session} (mode : s.config.mode = .inference) :
    (s.control elapsed).shared.files = s.shared.files ∧
      (s.control elapsed).shared.table = s.shared.table := by
  obtain ⟨metrics, hshared, -⟩ := control_searches mode elapsed
  rw [hshared]
  exact ⟨rfl, rfl⟩

/-- **One step** writes the snapshot, if anything, beside what happens from outside. -/
theorem turn_sameBut (a : AtWork) (t : Turn) :
    SameBut (TableFile.places a.session.snapshotPath)
      (a.session.shared.files.change (changes [t])) (a.turn t).session.shared.files := by
  cases t with
  | worker m => exact Team.move_sameBut a.session.snapshotPath a.team m
  | sampleInterface | sampleProcessors => exact .refl _ _
  | happen e =>
    have hchanges : changes [.happen e] = e.changes := List.flatMap_singleton ..
    rw [turn, (happen_files e a.session).1, hchanges]
    exact .refl _ _
  | control elapsed =>
    change SameBut _ a.session.shared.files (a.session.control elapsed).shared.files
    cases hmode : a.session.config.mode with
    | inference =>
      rw [(search_files elapsed hmode).1]
      exact .refl _ _
    | training =>
      unfold Session.control
      rw [hmode]
      exact .refl _ _
    | liveTraining =>
      unfold Session.control
      rw [hmode]
      exact Live.tick_sameBut a.session.snapshotPath a.session.live a.session.shared

/-- A session that searches writes nothing, and leaves its table. -/
theorem turn_reads {a : AtWork} (mode : a.session.config.mode = .inference)
    (nobody : a.workers = []) (t : Turn) :
    (a.turn t).workers = [] ∧
      (a.turn t).session.shared.files = a.session.shared.files.change (changes [t]) ∧
      (a.turn t).session.shared.table = a.session.shared.table := by
  cases t with
  | worker m =>
    have hstays : a.team.move a.session.snapshotPath m = a.team := Team.move_nobody _ nobody m
    rw [turn, hstays]
    exact ⟨nobody, rfl, rfl⟩
  | sampleInterface | sampleProcessors => exact ⟨nobody, rfl, rfl⟩
  | control elapsed => exact ⟨nobody, search_files elapsed mode⟩
  | happen e =>
    have hchanges : changes [.happen e] = e.changes := List.flatMap_singleton ..
    rw [hchanges]
    exact ⟨nobody, happen_files e a.session⟩

/-! ## Runs -/

/-- **A run** leaves what is made of the files from outside, but for the snapshot and its draft. -/
theorem after_sameBut (turns : List Turn) (a : AtWork) :
    SameBut (TableFile.places a.session.snapshotPath)
      (a.session.shared.files.change (changes turns)) (a.after turns).session.shared.files := by
  induction turns generalizing a with
  | nil => exact .refl _ _
  | cons t rest ih =>
    have hpath : (a.turn t).session.snapshotPath = a.session.snapshotPath :=
      after_snapshotPath [t] a
    have hrest := ih (a.turn t)
    rw [hpath] at hrest
    -- what happens from outside in the other turns happens to both trees alike
    have hfirst := (turn_sameBut a t).change (changes rest)
    rw [changes_cons, change_append]
    change SameBut _ _ ((a.turn t).after rest).session.shared.files
    exact hfirst.trans hrest

/-- A run of a session that searches leaves exactly that, and the table. -/
theorem after_reads (turns : List Turn) {a : AtWork} (mode : a.session.config.mode = .inference)
    (nobody : a.workers = []) :
    (a.after turns).session.shared.files = a.session.shared.files.change (changes turns) ∧
      (a.after turns).session.shared.table = a.session.shared.table := by
  induction turns generalizing a with
  | nil => exact ⟨rfl, rfl⟩
  | cons t rest ih =>
    obtain ⟨hnobody, hfiles, htable⟩ := turn_reads mode nobody t
    have hconfig : (a.turn t).session.config = a.session.config := after_config [t] a
    have hmode : (a.turn t).session.config.mode = .inference := by rw [hconfig, mode]
    obtain ⟨hfiles', htable'⟩ := ih hmode hnobody
    rw [changes_cons, change_append, ← hfiles, ← htable]
    exact ⟨hfiles', htable'⟩

/-- The end of a session writes the snapshot, if it trains, and nothing if it searches. -/
theorem close_sameBut (s : Session) (training : Option Summary) :
    SameBut (TableFile.places s.snapshotPath) s.shared.files (s.close training).1.shared.files := by
  by_cases hmode : s.config.mode = .inference
  · unfold Session.close
    rw [hmode]
    exact .refl _ _
  · have hsaved := s.shared.saveSnapshot_sameBut s.snapshotPath s.shared.table.rows.toList
    rcases h : s.shared.saveSnapshot s.snapshotPath s.shared.table.rows.toList with ⟨shared, rows⟩
    rw [h] at hsaved
    rw [close_trains hmode training h]
    exact hsaved

theorem close_reads {s : Session} (mode : s.config.mode = .inference) (training : Option Summary) :
    (s.close training).1 = s := by
  unfold Session.close
  rw [mode]

end AtWork

/-! ## The law -/

/-- What a session leaves alone that began as `first`, where `outside` is what has been made of the
files from outside. -/
structure LeavesInputs (first : Session) (outside : FileTree) (s : Session) : Prop where
  /-- Only the snapshot and its draft are ever written. -/
  elsewhere : ∀ place, place ≠ spot first.snapshotPath →
    place ≠ spot (TableFile.draftPath first.snapshotPath) →
    s.shared.files.node? place = outside.node? place
  /-- The table file is as it would be without the session, be it there or not. -/
  input : (s.shared.files.look first.config.tablePath).toOption =
    (outside.look first.config.tablePath).toOption
  /-- A session that searches writes nothing, and has the table from the start. -/
  reads : first.config.mode = .inference →
    s.shared.files = outside ∧ s.shared.table = first.shared.table

/-- What is the same but for the snapshot and its draft leaves the table file alone. -/
theorem leavesInputs_of_sameBut {first s : Session} {outside : FileTree}
    (named : (Path.split? first.config.tablePath).isSome)
    (same : SameBut (TableFile.places first.snapshotPath) outside s.shared.files)
    (reads : first.config.mode = .inference →
      s.shared.files = outside ∧ s.shared.table = first.shared.table) :
    LeavesInputs first outside s := by
  obtain ⟨⟨before, name⟩, hsplit⟩ := Option.isSome_iff_exists.mp named
  have hsnapshot := TableFile.snapshot_ne hsplit
  have hdraft := TableFile.draft_ne hsplit
  refine ⟨fun place hplace hplace' => same.elsewhere place ?_, look_congr same ?_, reads⟩
  · simp [TableFile.places, hplace, hplace']
  · simp [TableFile.places, snapshotPath, hsnapshot.symm, hdraft.symm]

/-- Any turns leave the inputs alone, and so does the end after them. -/
theorem AtWork.after_leaves {a : AtWork} (named : (Path.split? a.session.config.tablePath).isSome)
    (alone : a.session.config.mode = .inference → a.workers = []) (turns : List Turn) :
    let outside := a.session.shared.files.change (changes turns)
    LeavesInputs a.session outside (a.after turns).session ∧
      LeavesInputs a.session outside (a.after turns).close.1 := by
  have hrun := after_sameBut turns a
  have hclose := close_sameBut (a.after turns).session (a.after turns).training
  rw [after_snapshotPath] at hclose
  have hreads (mode : a.session.config.mode = .inference) := after_reads turns mode (alone mode)
  refine ⟨leavesInputs_of_sameBut named hrun hreads,
    leavesInputs_of_sameBut named (hrun.trans hclose) fun mode => ?_⟩
  rw [AtWork.close, close_reads (by rw [after_config, mode])]
  exact hreads mode

/-- **A session leaves its inputs alone.** Whatever the name of its table file, whatever its workers
draw and look up, however its loops, its samplers and what happens from outside interleave, and
wherever it ends: neither the snapshot nor its draft is the table file, and nothing but these two is
written. A session that searches writes nothing at all and ends with the table that it has loaded,
and opening a session writes nothing either. All of this is so in every state in which a run by the
schedule carries something out of its script, and at its end. -/
theorem session_leaves_inputs (s : Session) (named : (Path.split? s.config.tablePath).isSome) :
    spot s.snapshotPath ≠ spot s.config.tablePath ∧
      spot (TableFile.draftPath s.snapshotPath) ≠ spot s.config.tablePath ∧
      (∀ config files shell health, openOn config files shell health = .ok s →
        s.config = config ∧ s.shared.files = files ∧
          ∃ learning, TableFile.load files config.tablePath learning = .ok s.shared.table) ∧
      (∀ streams turns,
        let outside := s.shared.files.change (AtWork.changes turns)
        let ended := (AtWork.start streams s).after turns
        LeavesInputs s outside ended.session ∧ LeavesInputs s outside ended.close.1) ∧
      ∀ streams script,
        let outside (carried : List (Nanoseconds × Event × Session)) :=
          s.shared.files.change (carried.flatMap fun entry => entry.2.1.changes)
        LeavesInputs s (outside (s.run streams script).carried) (s.run streams script).last ∧
          ∀ before entry after, (s.run streams script).carried = before ++ entry :: after →
            LeavesInputs s (outside (before ++ [entry])) entry.2.2 := by
  obtain ⟨⟨before, name⟩, hsplit⟩ := Option.isSome_iff_exists.mp named
  have hturns (streams : List Draws) (turns : List Turn) :
      let outside := s.shared.files.change (AtWork.changes turns)
      let ended := (AtWork.start streams s).after turns
      LeavesInputs s outside ended.session ∧ LeavesInputs s outside ended.close.1 := by
    refine AtWork.after_leaves (a := AtWork.start streams s) named (fun mode => ?_) turns
    have hmode : s.config.mode = .inference := mode
    unfold AtWork.start
    rw [hmode]
  refine ⟨TableFile.snapshot_ne hsplit, TableFile.draft_ne hsplit, ?_, hturns, ?_⟩
  · intro config files shell health opened
    obtain ⟨settings, loaded, -, htable, hparts⟩ := openOn_parts opened
    obtain ⟨-, rfl⟩ := withParts_ok_iff.mp hparts
    exact ⟨rfl, rfl, settings.learning.toUInt64, htable⟩
  · intro streams script
    refine ⟨?_, fun before entry after carried => ?_⟩
    · obtain ⟨turns, hevents, hclose⟩ := AtWork.run_eq_turns streams script s
      have hlast := (hturns streams turns).2
      rw [hclose, AtWork.changes_of_events hevents] at hlast
      exact hlast
    · obtain ⟨turns, -, hevents, hafter⟩ := AtWork.run_passes streams script s carried
      have hpassed := (hturns streams turns).1
      rw [hafter, AtWork.changes_of_events hevents] at hpassed
      exact hpassed

/-- A session on a hidden table file with two extensions is run. -/
theorem hidden_table_is_left :
    ∃ s, withParts { tablePath := "seeds/.table.v2.csv" } {} {} {} {} {} = .ok s ∧
      s.snapshotPath = "seeds/.table.v2_trained_data.csv" ∧
      LeavesInputs s (s.shared.files.change []) (s.run [{}] []).last :=
  ⟨_, rfl, by decide +kernel,
    ((session_leaves_inputs _ (by decide +kernel)).2.2.2.2 [{}] []).1⟩

end Session

end NetworkTuning
