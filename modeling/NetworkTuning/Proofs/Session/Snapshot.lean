import NetworkTuning.Proofs.Session.Inputs

/-!
# The snapshot a session leaves

A session is opened on the table that its table file gives, which is in order because it was made by
inserting (`load_ordered`). What the turns of a session keep makes its end say what it should: the
entries are those from the start and the ones that were learned, and the last snapshot, whatever was
written to its file before, is read back as the table is (`close_concluded`). It is written whenever
what happens from outside leaves room for it (`run_saves_iff`).
-/

namespace NetworkTuning

namespace Session

open Training NetworkTuning.Random

/-- How a session ends that trained the table `loaded`: it counts the entries from the start and
those it has learned, it has kept every row, and the snapshot that it has written, if it could, is
read back as the rows of the table. -/
structure Concluded (config : SessionConfig) (loaded : Table) (last : Session)
    (summary : SessionSummary) : Prop where
  entries : summary.entries = last.shared.table.size
  counted : ∃ training, summary.training = some training ∧
    summary.entries = loaded.size + training.inserted ∧ summary.entries = training.entries
  kept : loaded.rows.toList.Sublist last.shared.table.rows.toList
  saved : ∀ n, summary.snapshotRows = some n → n = summary.entries ∧
    ∃ read, TableFile.read last.shared.files (TableFile.snapshotPath config.tablePath) = .ok read ∧
      List.Forall₂ Restored last.shared.table.rows.toList read

/-- A snapshot that was written is a table file that was written. -/
theorem saveSnapshot_ok {s after : Shared} {path : String} {rows : List Profile} {n : Nat}
    (saved : s.saveSnapshot path rows = (after, some n)) :
    TableFile.write s.files path rows = (after.files, .ok n) := by
  unfold Shared.saveSnapshot at saved
  split at saved
  next files count hwrite =>
    cases saved
    exact hwrite
  next => cases saved

/-- A snapshot is written exactly if a file can be put at its path and at its draft's. -/
theorem saveSnapshot_isSome_iff (s : Shared) (path : String) (rows : List Profile) :
    (s.saveSnapshot path rows).2.isSome ↔
      s.files.Writable (TableFile.draftPath path) ∧ s.files.Writable path := by
  have hwrites := TableFile.write_isOk_iff s.files path rows {}
  simp only [TableFile.Faults.unmet_none, and_true] at hwrites
  rw [← hwrites]
  unfold Shared.saveSnapshot
  rcases TableFile.write s.files path rows with ⟨after, e | count⟩
  · simp
  · simp

/-- The training of a session that trains has counted what the table has grown by. -/
theorem AtWork.Sound.training_some {config : SessionConfig} {loaded : Table} {a : AtWork}
    (sound : a.Sound config loaded) (trains : config.mode ≠ .inference) :
    ∃ training, a.training = some training ∧
      a.session.shared.table.size = loaded.size + training.inserted ∧
      a.session.shared.table.size = training.entries := by
  have hcounted : a.session.shared.table.size =
      loaded.size + (a.session.live.summary.inserted + a.team.inserted) := sound.crew.counted
  rw [AtWork.training, sound.configured]
  cases hmode : config.mode with
  | inference => exact absurd hmode trains
  | training =>
    refine ⟨a.team.summary, rfl, ?_, rfl⟩
    have hteam : a.team.summary.inserted = a.team.inserted := by
      rw [Team.summary, Team.inserted, Summary.mergeAll_inserted, List.map_map]
      rfl
    rw [hcounted, hteam, sound.dormant hmode, Nat.zero_add]
  | liveTraining =>
    refine ⟨a.session.live.close a.session.shared, rfl, ?_, rfl⟩
    have hnobody : a.team.inserted = 0 := by
      have hworkers : a.workers = [] := sound.alone (by rw [hmode]; exact Mode.noConfusion)
      rw [Team.inserted, team, hworkers]
      rfl
    rw [hcounted, hnobody]
    rfl

/-- A session that trains ends as it should, whenever it ends. -/
theorem close_concluded {config : SessionConfig} {loaded : Table} {a : AtWork}
    (sound : a.Sound config loaded) (trains : config.mode ≠ .inference) :
    Concluded config loaded a.close.1 a.close.2 := by
  have ordered : a.session.shared.table.Ordered := sound.crew.ordered
  have hkept : loaded.rows.toList.Sublist a.session.shared.table.rows.toList := sound.crew.kept
  rcases hsaved : a.session.shared.saveSnapshot a.session.snapshotPath
    a.session.shared.table.rows.toList with ⟨shared, rows⟩
  have htable := saveSnapshot_table a.session.shared a.session.snapshotPath
    a.session.shared.table.rows.toList
  rw [hsaved] at htable
  have htrains : a.session.config.mode ≠ .inference := by rwa [sound.configured]
  rw [AtWork.close, close_trains htrains a.training hsaved]
  refine ⟨congrArg Table.size htable.symm, sound.training_some trains, ?_, fun n hn => ?_⟩
  · exact htable.symm ▸ hkept
  · obtain rfl : rows = some n := hn
    obtain ⟨rfl, read, hread, back⟩ :=
      TableFile.read_written_table ordered (saveSnapshot_ok hsaved)
    refine ⟨rfl, read, ?_, htable.symm ▸ back⟩
    rw [← sound.configured]
    exact hread

/-- **A training session leaves a whole snapshot.** Whatever files, settings and table a session
that trains is opened on, whatever its workers draw and look up, however its loops, its samplers and
what happens from outside interleave, and wherever it ends, it is concluded as it should be. A run
by its schedule under any script is one such end. -/
theorem opened_session_concludes {config : SessionConfig} {files : FileTree} {shell : Shell}
    {health : Health} {s : Session} (opened : openOn config files shell health = .ok s)
    (trains : config.mode ≠ .inference) :
    ∃ settings loaded,
      Settings.load files config.environment config.settingsPath = .ok settings ∧
        TableFile.load files config.tablePath settings.learning.toUInt64 = .ok loaded ∧
        (∀ streams turns,
          let ended := ((AtWork.start streams s).after turns).close
          Concluded config loaded ended.1 ended.2) ∧
        ∀ streams script,
          Concluded config loaded (s.run streams script).last (s.run streams script).summary := by
  obtain ⟨loaded, ⟨settings, hsettings, hload⟩, rfl, rfl, hlive⟩ := openOn_ok opened
  have hall (streams : List Draws) (turns : List Turn) :
      Concluded s.config s.shared.table ((AtWork.start streams s).after turns).close.1
        ((AtWork.start streams s).after turns).close.2 :=
    close_concluded (AtWork.after_sound (AtWork.start_sound streams
      (TableFile.load_ordered hload) hlive) trains turns) trains
  refine ⟨settings, _, hsettings, hload, hall, fun streams script => ?_⟩
  obtain ⟨turns, hturns⟩ := AtWork.run_eq_after streams script s
  have hrun := hall streams turns
  rwa [hturns] at hrun

/-- **When the last snapshot is written.** A session that trains writes it exactly if what happens
from outside leaves room for it: whatever the session itself has written, a file can be put at the
snapshot's path and at its draft's. -/
theorem run_saves_iff {s : Session} (trains : s.config.mode ≠ .inference) (streams : List Draws)
    (script : List (Nanoseconds × Event)) :
    let outside := s.shared.files.change
      ((s.run streams script).carried.flatMap fun entry => entry.2.1.changes)
    (s.run streams script).summary.snapshotRows.isSome ↔
      outside.Writable (TableFile.draftPath s.snapshotPath) ∧ outside.Writable s.snapshotPath := by
  intro outside
  obtain ⟨turns, hevents, hclose⟩ := AtWork.run_eq_turns streams script s
  have hsame := AtWork.after_sameBut turns (AtWork.start streams s)
  rw [AtWork.changes_of_events hevents] at hsame
  have hpath := AtWork.after_snapshotPath turns (AtWork.start streams s)
  have hconfig := AtWork.after_config turns (AtWork.start streams s)
  generalize (AtWork.start streams s).after turns = a at hclose hsame hpath hconfig
  have htrains : a.session.config.mode ≠ .inference := by rwa [hconfig]
  rcases hsaved : a.session.shared.saveSnapshot a.session.snapshotPath
    a.session.shared.table.rows.toList with ⟨shared, rows⟩
  have hrows : (s.run streams script).summary.snapshotRows = rows := by
    rw [AtWork.close, close_trains htrains a.training hsaved] at hclose
    exact congrArg (fun ended => ended.2.snapshotRows) hclose.symm
  have hwritten := saveSnapshot_isSome_iff a.session.shared a.session.snapshotPath
    a.session.shared.table.rows.toList
  rw [hsaved, hsame.writable_iff, hsame.writable_iff, hpath] at hwritten
  rw [hrows]
  exact hwritten

/-- A session that trains on drawn keys is opened on a table file of one row, and run. -/
theorem session_on_one_row_concludes :
    let settings := "\x7b\"app_settings\":[1,1,0,0,0,1,1],\"weights\":[0,0,0,0]\x7d"
    let files : FileTree := ⟨[(["settings.json"], .file (.text settings))]⟩
    let written := TableFile.write files "table.csv" [{ transferRate := 5 }]
    ∃ s loaded n, openOn {} written.1 {} {} = .ok s ∧
      TableFile.load written.1 "table.csv" 1 = .ok loaded ∧
      (s.run [{}] []).summary.snapshotRows = some n ∧
      Concluded {} loaded (s.run [{}] []).last (s.run [{}] []).summary := by
  intro text files written
  have hwritten : TableFile.write files "table.csv" [{ transferRate := 5 }] = (written.1, .ok 1) :=
    Prod.ext rfl (by decide +kernel)
  have hvalues : (Settings.load written.1 [] "settings.json").toOption.map
      (fun settings => (settings.learning, settings.statsPeriod)) = some (1, second) := by
    decide +kernel
  cases hsettings : Settings.load written.1 [] "settings.json" with
  | error e =>
    rw [hsettings] at hvalues
    cases hvalues
  | ok settings =>
    rw [hsettings] at hvalues
    obtain ⟨hlearning, hperiod⟩ : settings.learning = 1 ∧ settings.statsPeriod = second :=
      Prod.ext_iff.mp (Option.some.inj hvalues)
    have hroom : settings.learning.toUInt64.toNat + 1 ≤ Memory.ample.rows := by
      rw [hlearning]
      decide
    obtain ⟨loaded, hload⟩ := TableFile.exists_load hwritten hroom
    obtain ⟨s, hopened⟩ := exists_openOn {} {} {} hsettings hload (by rw [hperiod, second]; simp)
    obtain ⟨settings', loaded', hsettings', hload', -, hrun⟩ :=
      opened_session_concludes hopened (by decide)
    obtain rfl : settings' = settings := Except.ok.inj (hsettings'.symm.trans hsettings)
    rw [hlearning] at hload'
    obtain ⟨hconfig, hfiles⟩ : s.config = {} ∧ s.shared.files = written.1 := by
      obtain ⟨_, _, -, -, hparts⟩ := openOn_parts hopened
      obtain ⟨-, rfl⟩ := withParts_ok_iff.mp hparts
      exact ⟨rfl, rfl⟩
    have hmode : s.config.mode = .training := by rw [hconfig]
    have hsaved : (s.run [{}] []).summary.snapshotRows.isSome := by
      refine (run_saves_iff (by rw [hmode]; decide) [{}] []).mpr ?_
      rw [AtWork.run_training hmode, Session.snapshotPath, hconfig, hfiles]
      exact ⟨⟨["table_trained_data.csv.tmp"], by decide +kernel⟩,
        ["table_trained_data.csv"], by decide +kernel⟩
    obtain ⟨n, hn⟩ := Option.isSome_iff_exists.mp hsaved
    exact ⟨s, loaded', n, hopened, hload', hn, hrun [{}] []⟩

end Session

end NetworkTuning
