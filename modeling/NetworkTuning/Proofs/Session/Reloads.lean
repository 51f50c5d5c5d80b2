import NetworkTuning.Proofs.Session.Opening

/-!
# Settings that are read again

While a session is at work it takes commands, and on one of them it reads its settings again. What a
reload has read comes into effect as a whole, or not at all if it is at fault; everything else that
the session works on stays as it is (`reload_turn`).

**One step** (`follow_settings`): the settings in effect change only by a reload that has succeeded.
**A run** (`followAll_settings`): they are those of the last such reload, and those from the opening
before the first. After a command to shut down there are no reloads any more
(`reloads_of_stopping`).
-/

namespace NetworkTuning

namespace Session

open Training NetworkTuning.Random

namespace AtWork

/-- The settings in effect. -/
def settings (a : AtWork) : Settings := a.session.shared.settings

/-- The session at work with other settings in effect. -/
def withSettings (a : AtWork) (settings : Settings) : AtWork :=
  { a with session := a.session.withShared { a.session.shared with settings } }

/-- One turn. The settings and the readings that a worker has looked up are its own view and do not
come into effect. -/
def follow (a : AtWork) : Turn → AtWork
  | .worker m =>
    let worked := a.turn (.worker m)
    let readings := a.session.shared.readings
    let shared := { worked.session.shared with settings := a.settings, readings }
    { worked with session := worked.session.withShared shared }
  | t => a.turn t

/-- Any turns in any order. -/
def followAll (a : AtWork) (turns : List Turn) : AtWork := turns.foldl follow a

/-- What a turn reads from the settings file: it does so on the command to reload, as long as the
session has not been told to stop. -/
def reload? (a : AtWork) : Turn → Option (Except Settings.LoadError Settings)
  | .happen e =>
    if e.command = some .reloadSettings ∧ a.session.stopping = false then
      some (Settings.load (a.session.shared.files.change e.changes) a.session.config.environment
        a.session.config.settingsPath)
    else none
  | _ => none

/-- What the reloads of a run have read, in their order. -/
def reloads (a : AtWork) : List Turn → List (Except Settings.LoadError Settings)
  | [] => []
  | t :: rest => (a.reload? t).toList ++ (a.follow t).reloads rest

/-- The settings that the reloads of a run have read last. -/
def lastRead (a : AtWork) (turns : List Turn) : Option Settings :=
  ((a.reloads turns).filterMap Except.toOption).getLast?

end AtWork

/-! ## One step -/

/-- An event without its command. -/
def quiet (e : Event) : Event := { e with command := none }

/-- Everything that a session works on, and all its counts, are as before. -/
structure AtWork.SameWork (a b : AtWork) : Prop where
  table : b.session.shared.table = a.session.shared.table
  metrics : b.session.shared.metrics = a.session.shared.metrics
  searches : b.session.search.controller = a.session.search.controller
  health : b.session.search.health = a.session.search.health
  interfaceSampler : b.session.interfaceSampler = a.session.interfaceSampler
  processorSampler : b.session.processorSampler = a.session.processorSampler
  live : b.session.live = a.session.live
  workers : b.workers = a.workers

namespace AtWork

/-- **A reload is all or nothing.** The turn that brings the command to reload does what it would do
without the command, and then, if the settings could be read, they are in effect. -/
theorem reload_turn (a : AtWork) {e : Event} (reload : e.command = some .reloadSettings) :
    a.turn (.happen e) =
      match a.reload? (.happen e) with
      | some (.ok settings) => (a.turn (.happen (quiet e))).withSettings settings
      | _ => a.turn (.happen (quiet e)) := by
  have hquiet : a.session.happen (quiet e) = a.session.withShared (e.apply a.session.shared) := rfl
  have hhappen : a.session.happen e = (a.session.happen (quiet e)).receive .reloadSettings := by
    rw [hquiet, Session.happen, reload]
  have hstopping : (a.session.happen (quiet e)).stopping = a.session.stopping := rfl
  have hfiles : (a.session.happen (quiet e)).shared.files =
      a.session.shared.files.change e.changes := rfl
  have hconfig : (a.session.happen (quiet e)).config = a.session.config := rfl
  rw [turn, hhappen, receive, reload?]
  by_cases hstops : a.session.stopping = true
  · rw [hstopping, if_pos hstops, if_neg (by simp [hstops])]
    rfl
  · rw [hstopping, if_neg hstops, if_pos ⟨reload, by simpa using hstops⟩]
    dsimp only [Session.reload]
    rw [hfiles, hconfig]
    cases Settings.load (a.session.shared.files.change e.changes) a.session.config.environment
      a.session.config.settingsPath with
    | error | ok => rfl

/-- What happens from outside, a reload among it, leaves what the session works on. -/
theorem happen_sameWork (a : AtWork) (e : Event) : a.SameWork (a.turn (.happen e)) := by
  obtain ⟨settings, stopping, hhappen⟩ := happen_apply e a.session
  rw [turn, hhappen]
  exact ⟨rfl, rfl, rfl, rfl, rfl, rfl, rfl, rfl⟩

/-- A tick of the loop that the mode calls for leaves the settings and does not stop the session. -/
theorem control_settings (elapsed : Nanoseconds) (s : Session) :
    (s.control elapsed).shared.settings = s.shared.settings ∧
      (s.control elapsed).stopping = s.stopping := by
  cases hmode : s.config.mode with
  | inference =>
    obtain ⟨metrics, hshared, hstopping⟩ := control_searches hmode elapsed
    rw [hshared]
    exact ⟨rfl, hstopping⟩
  | training =>
    unfold Session.control
    rw [hmode]
    exact ⟨rfl, rfl⟩
  | liveTraining =>
    unfold Session.control
    rw [hmode]
    refine ⟨?_, rfl⟩
    rcases Live.tick_cases s.snapshotPath s.live s.shared with
      ⟨-, h⟩ | ⟨-, table, metrics, result, saved, -, ⟨files, snapshots, errors, hsaved⟩, h⟩
    · rw [h]
      rfl
    · rw [h, hsaved]
      rfl

/-- What happens from outside without a command to reload changes what is shared as the event says.
-/
theorem happen_shared {e : Event} (other : e.command ≠ some .reloadSettings) (s : Session) :
    (s.happen e).shared = e.apply s.shared := by
  unfold Session.happen receive
  cases hcommand : e.command with
  | none => rfl
  | some c =>
    dsimp only
    split
    next => rfl
    next =>
      cases c with
      | reloadSettings => exact absurd hcommand other
      | report | shutdown => rfl

/-- **One step.** The settings stay in effect unless the turn reads others. -/
theorem follow_settings (a : AtWork) {t : Turn} (own : ∀ e, t = .happen e → e.settings = none) :
    (a.follow t).settings = ((a.reload? t).bind Except.toOption).getD a.settings := by
  cases t with
  | worker | sampleInterface | sampleProcessors => rfl
  | control elapsed => exact (control_settings elapsed a.session).1
  | happen e =>
    have hkept : (e.apply a.session.shared).settings = a.settings := by
      simp only [Event.apply, own e rfl, Option.getD_none, settings]
    by_cases hreload : e.command = some .reloadSettings
    · change (a.turn (.happen e)).settings = _
      rw [reload_turn a hreload]
      have hquiet : (a.turn (.happen (quiet e))).settings = a.settings := hkept
      cases a.reload? (.happen e) with
      | none => exact hquiet
      | some answer =>
        cases answer with
        | error cause => exact hquiet
        | ok settings => rfl
    · have hnone : a.reload? (.happen e) = none := if_neg fun h => hreload h.1
      rw [hnone, Option.bind_none, Option.getD_none, ← hkept]
      exact congrArg Shared.settings (happen_shared hreload a.session)

/-- What happens from outside stops the session by the command to shut down, and only by it. -/
theorem happen_stopping (e : Event) (s : Session) :
    (s.happen e).stopping = (s.stopping || e.command == some .shutdown) := by
  have hkept : (s.withShared (e.apply s.shared)).stopping = s.stopping := rfl
  unfold Session.happen receive
  cases e.command with
  | none => simp [hkept]
  | some c =>
    dsimp only
    rw [hkept]
    cases hstops : s.stopping with
    | true => exact hstops
    | false =>
      cases c with
      | report => exact hstops
      | shutdown => rfl
      | reloadSettings =>
        rw [if_neg Bool.false_ne_true]
        dsimp only [Session.reload]
        split <;> exact hstops

/-- A session that has been told to stop is not told otherwise. -/
theorem follow_stopping {a : AtWork} (stopping : a.session.stopping = true) (t : Turn) :
    (a.follow t).session.stopping = true := by
  cases t with
  | worker | sampleInterface | sampleProcessors => exact stopping
  | control elapsed => exact (control_settings elapsed a.session).2.trans stopping
  | happen e =>
    change (a.session.happen e).stopping = true
    rw [happen_stopping, stopping, Bool.true_or]

/-- The command to shut down stops the session. -/
theorem shutdown_stopping (a : AtWork) {e : Event} (shutdown : e.command = some .shutdown) :
    (a.follow (.happen e)).session.stopping = true := by
  change (a.session.happen e).stopping = true
  rw [happen_stopping, shutdown]
  exact Bool.or_true _

/-! ## Runs -/

/-- A session that has been told to stop reads no settings. -/
theorem reloads_of_stopping {a : AtWork} (stopping : a.session.stopping = true)
    (turns : List Turn) : a.reloads turns = [] := by
  induction turns generalizing a with
  | nil => rfl
  | cons t rest ih =>
    have hnone : a.reload? t = none := by
      cases t with
      | happen e => exact if_neg fun h => by simp [stopping] at h
      | _ => rfl
    rw [reloads, hnone, ih (follow_stopping stopping t), Option.toList_none, List.append_nil]

/-- **A run.** The settings in effect are those that were read last, as long as nobody else hands
settings over. -/
theorem followAll_settings (a : AtWork) {turns : List Turn}
    (own : ∀ e, Turn.happen e ∈ turns → e.settings = none) :
    (a.followAll turns).settings = (a.lastRead turns).getD a.settings := by
  induction turns generalizing a with
  | nil => rfl
  | cons t rest ih =>
    have hfirst := a.follow_settings fun e h => own e (h ▸ List.mem_cons_self)
    have hrest := ih (a.follow t) fun e he => own e (List.mem_cons_of_mem t he)
    have hlast : ((a.reload? t).toList.filterMap Except.toOption).getLast? =
        (a.reload? t).bind Except.toOption := by
      cases a.reload? t with
      | none => rfl
      | some answer => cases answer <;> rfl
    -- what the rest of the turns reads comes after what the first one has read
    have hreloads : a.reloads (t :: rest) = (a.reload? t).toList ++ (a.follow t).reloads rest := rfl
    change ((a.follow t).followAll rest).settings = _
    rw [hrest, hfirst, lastRead, lastRead, hreloads, List.filterMap_append, List.getLast?_append,
      hlast, Option.getD_or]

/-- Nothing that comes after the command to shut down has an effect on the settings. -/
theorem followAll_shutdown (a : AtWork) {past later : List Turn} {e : Event}
    (own : ∀ e', Turn.happen e' ∈ past ++ .happen e :: later → e'.settings = none)
    (shutdown : e.command = some .shutdown) :
    (a.followAll (past ++ .happen e :: later)).settings = (a.followAll past).settings := by
  have hsplit : a.followAll (past ++ .happen e :: later) =
      (a.followAll past).followAll (.happen e :: later) := List.foldl_append
  have hnone : (a.followAll past).reload? (.happen e) = none :=
    if_neg fun h => by simp [shutdown] at h
  have hnothing : (a.followAll past).reloads (.happen e :: later) = [] := by
    rw [reloads, hnone, reloads_of_stopping (shutdown_stopping _ shutdown)]
    rfl
  have hlater := followAll_settings (a.followAll past) fun e' h =>
    own e' (List.mem_append_right past h)
  rw [hsplit, hlater, lastRead, hnothing]
  rfl

/-- Where no worker moves, a session is followed as it takes its turns. -/
theorem followAll_resting (a : AtWork) {turns : List Turn} (resting : ∀ m, .worker m ∉ turns) :
    a.followAll turns = a.after turns := by
  induction turns generalizing a with
  | nil => rfl
  | cons t rest ih =>
    have hsame : a.follow t = a.turn t := by
      cases t with
      | worker m => exact absurd List.mem_cons_self (resting m)
      | _ => rfl
    change (a.follow t).followAll rest = (a.turn t).after rest
    rw [hsame]
    exact ih (a.turn t) fun m hm => resting m (List.mem_cons_of_mem t hm)

end AtWork

/-- **Reading the settings again is all or nothing.** A session opens with settings that were read.
Whatever turns follow, as long as nobody hands settings over otherwise, the settings in effect are
those that were read last, and none are read after the command to shut down. A turn that reads
settings, or fails to, leaves the table, what the searches remember, and all counts. Every state in
which a run by the schedule carries something out of its script is reached by such turns. -/
theorem reload_is_all_or_nothing {config : SessionConfig} {files : FileTree} {shell : Shell}
    {health : Health} {s : Session} (opened : openOn config files shell health = .ok s)
    (streams : List Draws) :
    let start := AtWork.start streams s
    Settings.load files config.environment config.settingsPath = .ok s.shared.settings ∧
      (∀ turns, (∀ e, Turn.happen e ∈ turns → e.settings = none) →
        (start.followAll turns).settings = (start.lastRead turns).getD s.shared.settings) ∧
      (∀ past e later, (∀ e', Turn.happen e' ∈ past ++ .happen e :: later → e'.settings = none) →
        e.command = some .shutdown →
        (start.followAll (past ++ .happen e :: later)).settings = (start.followAll past).settings) ∧
      (∀ (a : AtWork) (e : Event), e.command = some .reloadSettings →
        a.SameWork (a.turn (.happen e)) ∧
          a.turn (.happen e) =
            match a.reload? (.happen e) with
            | some (.ok settings) => (a.turn (.happen (quiet e))).withSettings settings
            | _ => a.turn (.happen (quiet e))) ∧
      ∀ script before entry after, (∀ entry ∈ script, entry.2.settings = none) →
        (s.run streams script).carried = before ++ entry :: after →
        ∃ turns, turns.filterMap Turn.event? = (before ++ [entry]).map (fun entry => entry.2.1) ∧
          start.followAll turns = ⟨entry.2.2, []⟩ ∧
          entry.2.2.shared.settings = (start.lastRead turns).getD s.shared.settings := by
  intro start
  refine ⟨?_, fun turns own => start.followAll_settings own, fun past e later own shutdown =>
    start.followAll_shutdown own shutdown, fun a e reload =>
    ⟨a.happen_sameWork e, a.reload_turn reload⟩, ?_⟩
  · obtain ⟨settings, loaded, hsettings, -, hparts⟩ := openOn_parts opened
    obtain ⟨-, rfl⟩ := withParts_ok_iff.mp hparts
    exact hsettings
  · intro script before entry after own carried
    obtain ⟨turns, hresting, hevents, hturns⟩ := AtWork.run_passes streams script s carried
    have hfollowed := (start.followAll_resting hresting).trans hturns
    have hown (e : Event) (he : Turn.happen e ∈ turns) : e.settings = none := by
      have hevent : e ∈ (before ++ [entry]).map fun entry => entry.2.1 := by
        rw [← hevents]
        exact List.mem_filterMap.mpr ⟨_, he, rfl⟩
      obtain ⟨passed, hpassed, rfl⟩ := List.mem_map.mp hevent
      have hcarried : passed ∈ (s.run streams script).carried := by
        rw [carried, ← List.singleton_append, ← List.append_assoc]
        exact List.mem_append_left after hpassed
      exact own _ ((AtWork.run_carried streams script s).mem
        (List.mem_map_of_mem (f := fun entry => (entry.1, entry.2.1)) hcarried))
    have hsettings := start.followAll_settings hown
    rw [hfollowed] at hsettings
    exact ⟨turns, hevents, hfollowed, hsettings⟩

/-- A settings file is replaced by a text that holds no settings, and read again. -/
theorem broken_file_keeps_settings :
    let settings := "\x7b\"app_settings\":[1,1,0,0,0,1,1],\"weights\":[0,0,0,0]\x7d"
    let files : FileTree :=
      ⟨[(["settings.json"], .file (.text settings)), (["table.csv"], .file (.text "\n"))]⟩
    let broken : Event :=
      { changes := [("settings.json", some (.file (.text "no settings")))]
        command := some .reloadSettings }
    ∃ s, openOn {} files {} {} = .ok s ∧
      ((AtWork.start [{}] s).followAll [.happen broken]).settings = s.shared.settings := by
  intro text files broken
  have hopens : (openOn {} files {} {}).isOk = true := by decide +kernel
  have hbroken : (Settings.load (files.change broken.changes) [] "settings.json").isOk = false := by
    decide +kernel
  cases opened : openOn {} files {} {} with
  | error cause => rw [opened] at hopens; cases hopens
  | ok s =>
    refine ⟨s, rfl, ?_⟩
    have hlast := (reload_is_all_or_nothing opened [{}]).2.1 [.happen broken] (by simp [broken])
    obtain ⟨settings, loaded, -, -, hparts⟩ := openOn_parts opened
    obtain ⟨-, rfl⟩ := withParts_ok_iff.mp hparts
    rw [hlast]
    change ([Settings.load (files.change broken.changes) [] "settings.json"].filterMap
      Except.toOption).getLast?.getD _ = _
    cases hload : Settings.load (files.change broken.changes) [] "settings.json" with
    | ok settings => rw [hload] at hbroken; cases hbroken
    | error cause => rfl

end Session

end NetworkTuning
