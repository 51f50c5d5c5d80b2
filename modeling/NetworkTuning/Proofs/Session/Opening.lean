import NetworkTuning.Proofs.FileTree.Moves
import NetworkTuning.Proofs.Session.Turns

/-!
# Sessions that are opened and closed

A session is opened on the settings and the table that can be loaded (`openOn_parts`), and is put
together of them in one way (`withParts_ok_iff`). A session that trains is closed by writing its
table down (`close_trains`).
-/

namespace NetworkTuning

namespace Session

open Training

/-- What a session is when it has just been opened. -/
structure Opened (config : SessionConfig) (files : FileTree) (loaded : Table) (s : Session) : Prop
    where
  /-- The table is the one that the table file gives, with room to learn as the settings say. -/
  loads : ∃ settings,
    Settings.load files config.environment config.settingsPath = .ok settings ∧
      TableFile.load files config.tablePath settings.learning.toUInt64 = .ok loaded
  config : s.config = config
  table : s.shared.table = loaded
  live : s.live = {}

/-- A session is put together in one way, and only a period of zero is in the way of it. -/
theorem withParts_ok_iff {config : SessionConfig} {settings : Settings} {table : Table}
    {files : FileTree} {shell : Shell} {health : Health} {s : Session} :
    withParts config settings table files shell health = .ok s ↔
      settings.statsPeriod ≠ 0 ∧ s =
        { config
          search :=
            { controller := { applier := (openingApplier config files, shell) }
              shared := Shared.recordSize { settings, table, files }
              health := some (health.setHealthy tablePart) }
          interfaceSampler :=
            ⟨.interface (counterDirectory config.statisticsRoot config.interface) none, 0⟩
          processorSampler := ⟨.processors config.processorFile none, 0⟩ } := by
  unfold withParts setUpPlugins NetworkPlugin.samplers
  by_cases hperiod : settings.statsPeriod = 0
  · have hbuild (source : Source) (readings : Readings) :
        Sampler.build (some source) (some readings) settings.statsPeriod =
          .error "Sampling period must be positive" := if_pos hperiod
    simp only [Shared.recordSize, hbuild, Except.mapError, bind, Except.bind, one_ne_zero, if_false,
      reduceCtorEq, false_iff]
    exact fun h => h.1 hperiod
  · have hbuild (source : Source) (readings : Readings) :
        Sampler.build (some source) (some readings) settings.statsPeriod = .ok ⟨source, 0⟩ :=
      if_neg hperiod
    simp only [Shared.recordSize, hbuild, Except.mapError, bind, Except.bind, pure, Except.pure,
      one_ne_zero, if_false, ne_eq, hperiod, not_false_eq_true, true_and, Except.ok.injEq]
    exact eq_comm

/-- A session that is opened is put together of the settings and the table that could be loaded. -/
theorem openOn_parts {config : SessionConfig} {files : FileTree} {shell : Shell} {health : Health}
    {s : Session} (h : openOn config files shell health = .ok s) :
    ∃ settings loaded,
      Settings.load files config.environment config.settingsPath = .ok settings ∧
        TableFile.load files config.tablePath settings.learning.toUInt64 = .ok loaded ∧
        withParts config settings loaded files shell health = .ok s := by
  simp only [openOn, bind_ok_iff, mapError_ok_iff] at h
  obtain ⟨settings, hsettings, loaded, htable, hparts⟩ := h
  exact ⟨settings, loaded, hsettings, htable, hparts⟩

theorem openOn_ok {config : SessionConfig} {files : FileTree} {shell : Shell} {health : Health}
    {s : Session} (h : openOn config files shell health = .ok s) :
    ∃ loaded, Opened config files loaded s := by
  obtain ⟨settings, loaded, hsettings, htable, hparts⟩ := openOn_parts h
  obtain ⟨-, rfl⟩ := withParts_ok_iff.mp hparts
  exact ⟨loaded, ⟨settings, hsettings, htable⟩, rfl, rfl, rfl⟩

/-- Settings and a table that can be loaded open a session. -/
theorem exists_openOn (config : SessionConfig) {files : FileTree} {settings : Settings}
    {table : Table} (shell : Shell) (health : Health)
    (hsettings : Settings.load files config.environment config.settingsPath = .ok settings)
    (htable : TableFile.load files config.tablePath settings.learning.toUInt64 = .ok table)
    (period : settings.statsPeriod ≠ 0) : ∃ s, openOn config files shell health = .ok s := by
  unfold openOn
  simp only [hsettings, htable, Except.mapError, bind, Except.bind]
  exact ⟨_, withParts_ok_iff.mpr ⟨period, rfl⟩⟩

/-- A session that trains ends by writing its table down. -/
theorem close_trains {s : Session} (trains : s.config.mode ≠ .inference)
    (training : Option Summary) {shared : Shared} {rows : Option Nat}
    (saved : s.shared.saveSnapshot s.snapshotPath s.shared.table.rows.toList = (shared, rows)) :
    s.close training =
      (s.withShared shared,
        ⟨s.config.mode, training, s.shared.table.size, rows⟩) := by
  unfold close
  dsimp only
  rw [saved]
  split
  next h => exact absurd h trains
  next => rfl

end Session

end NetworkTuning
