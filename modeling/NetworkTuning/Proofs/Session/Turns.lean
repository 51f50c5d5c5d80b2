import NetworkTuning.Proofs.Inference.Ticks
import NetworkTuning.Proofs.Training.Live
import NetworkTuning.Session.Run

/-!
# Sessions that take turns

A session that trains is at work with everything that acts on it: the workers that train its table
on drawn keys, the loop of live training, the two samplers, and what happens from outside, commands
among it. Each turn is taken by one of them, and a run is any list of turns, so all of them
interleave in every possible way.

**One step** (`turn_sound`): only a worker and the live loop change the table, and both do it as an
honest worker does. So the live loop counts as one more worker of the team, and what a team keeps is
kept by a session (`Sound`). **A run** keeps it from the opening (`after_sound`).

The schedule that a session runs by, in which its loops fire at their instants, is one such run
(`run_eq_after`), and so is what comes before each thing that is carried out of its script
(`run_passes`).
-/

namespace NetworkTuning

namespace Schedule

variable {σ ε : Type} (c : Schedule σ ε)

/-- What firing keeps is kept by the firings before an instant. -/
theorem fireBefore_induction {motive : σ → Prop}
    (fire : ∀ index f s, motive s → motive (c.fire index f s)) (limit : Nanoseconds) (fuel : Nat)
    (tickers : List Ticker) {s : σ} (start : motive s) :
    motive (c.fireBefore limit fuel tickers s).2 := by
  induction fuel generalizing tickers s with
  | zero => exact start
  | succ fuel ih =>
    rw [fireBefore]
    split
    next => exact start
    next =>
      split
      next => exact start
      next index f hnext =>
        split
        next => exact ih _ (fire index f s start)
        next => exact start

/-- What is true of a state and of all that has happened so far, and is kept by firing and by what
happens, is true of every state in which something was carried out, and of the last one. -/
theorem play_reached {motive : List ε → σ → Prop}
    (fire : ∀ es index f s, motive es s → motive es (c.fire index f s))
    (happen : ∀ es e s, motive es s → motive (es ++ [e]) (c.happen e s))
    (script : List (Nanoseconds × ε)) (tickers : List Ticker) (es : List ε) {s : σ}
    (start : motive es s) :
    let carried := (c.play script tickers s).1
    motive (es ++ carried.map fun entry => entry.2.1) (c.play script tickers s).2 ∧
      ∀ before entry after, carried = before ++ entry :: after →
        motive (es ++ (before ++ [entry]).map fun entry => entry.2.1) entry.2.2 := by
  induction script generalizing tickers es s with
  | nil =>
    refine ⟨?_, fun before entry after h => ?_⟩
    · have hrun : motive es (c.runBefore (horizon tickers) tickers s).2 :=
        c.fireBefore_induction (fire es) _ _ _ start
      simpa [play] using hrun
    · simp [play] at h
  | cons head rest ih =>
    obtain ⟨instant, e⟩ := head
    have hrun : motive es (c.runBefore instant tickers s).2 :=
      c.fireBefore_induction (fire es) _ _ _ start
    rw [play]
    rcases hbefore : c.runBefore instant tickers s with ⟨later, s'⟩
    rw [hbefore] at hrun
    dsimp only
    split
    next => exact ⟨by simpa using hrun, fun before entry after h => by simp at h⟩
    next =>
      have hnow := happen es e s' hrun
      obtain ⟨hlast, hpassed⟩ := ih later (es ++ [e]) hnow
      refine ⟨by simpa using hlast, fun before entry after h => ?_⟩
      cases before with
      | nil =>
        obtain ⟨rfl, -⟩ := List.cons.inj h
        exact hnow
      | cons first before =>
        obtain ⟨rfl, hafter⟩ := List.cons.inj h
        simpa using hpassed before entry after hafter

/-- What firing and happening keep is kept by what is played. -/
theorem play_induction {motive : σ → Prop}
    (fire : ∀ index f s, motive s → motive (c.fire index f s))
    (happen : ∀ e s, motive s → motive (c.happen e s)) (script : List (Nanoseconds × ε))
    (tickers : List Ticker) {s : σ} (start : motive s) : motive (c.play script tickers s).2 :=
  (c.play_reached (motive := fun _ s => motive s) (fun _ => fire) (fun _ => happen) script tickers
    [] start).1

/-- What is carried out is the beginning of the script. -/
theorem play_carried (script : List (Nanoseconds × ε)) (tickers : List Ticker) (s : σ) :
    ((c.play script tickers s).1.map fun entry => (entry.1, entry.2.1)) <+: script := by
  induction script generalizing tickers s with
  | nil => exact List.prefix_rfl
  | cons head rest ih =>
    obtain ⟨instant, e⟩ := head
    rw [play]
    rcases c.runBefore instant tickers s with ⟨later, s'⟩
    dsimp only
    split
    next => exact List.nil_prefix
    next => exact (List.prefix_cons_inj _).mpr (ih later (c.happen e s'))

end Schedule

namespace Session

open Training NetworkTuning.Random

/-! ## Turns -/

/-- A session at work, with the workers that train its table on drawn keys. -/
structure AtWork where
  session : Session
  workers : List Worker := []

/-- What may come next: a worker moves, the loop that the mode calls for ticks, a sampler takes its
turn, or something happens from outside. -/
inductive Turn where
  | worker (m : Move)
  | control (elapsed : Nanoseconds)
  | sampleInterface (now : Nanoseconds)
  | sampleProcessors (now : Nanoseconds)
  | happen (e : Event)

/-- What happens from outside in a turn. -/
def Turn.event? : Turn → Option Event
  | .happen e => some e
  | _ => none

namespace AtWork

/-- A session before its first turn. It has workers, at least one, if it trains on drawn keys. -/
def start (streams : List Draws) (s : Session) : AtWork where
  session := s
  workers :=
    match s.config.mode with
    | .training => (if streams.isEmpty then [{}] else streams).map ({ draws := · })
    | _ => []

/-- The workers and what they share. -/
def team (a : AtWork) : Team := ⟨a.workers, a.session.shared⟩

/-- One turn. -/
def turn (a : AtWork) : Turn → AtWork
  | .worker m =>
    let t := a.team.move a.session.snapshotPath m
    ⟨a.session.withShared t.shared, t.workers⟩
  | .control elapsed => { a with session := a.session.control elapsed }
  | .sampleInterface now => { a with session := a.session.sampleInterface now }
  | .sampleProcessors now => { a with session := a.session.sampleProcessors now }
  | .happen e => { a with session := a.session.happen e }

/-- Any turns in any order. -/
def after (a : AtWork) (turns : List Turn) : AtWork := turns.foldl turn a

/-- What the training has come to. -/
def training (a : AtWork) : Option Summary :=
  match a.session.config.mode with
  | .training => some a.team.summary
  | .liveTraining => some (a.session.live.close a.session.shared)
  | .inference => none

/-- The end of the session after the turns so far. -/
def close (a : AtWork) : Session × SessionSummary := a.session.close a.training

end AtWork

/-! ## What a turn keeps -/

namespace AtWork

/-- The workers, with the live loop as one more of them. -/
def crew (a : AtWork) : Team :=
  ⟨{ summary := a.session.live.summary } :: a.workers, a.session.shared⟩

/-- What every turn keeps, for a session that was opened under `config` with the table `loaded`. -/
structure Sound (config : SessionConfig) (loaded : Table) (a : AtWork) : Prop where
  configured : a.session.config = config
  crew : a.crew.Sound loaded
  /-- Nothing is learned from the live load by a session that trains on drawn keys. -/
  dormant : config.mode = .training → a.session.live.summary.inserted = 0
  /-- A session that trains on the live load has no other workers. -/
  alone : config.mode ≠ .training → a.workers = []

variable {config : SessionConfig} {loaded : Table}

/-- A session in which neither the table nor who works on it has changed is as sound. -/
theorem Sound.congr {a : AtWork} (sound : a.Sound config loaded) {s : Session}
    (configured : s.config = a.session.config) (table : s.shared.table = a.session.shared.table)
    (live : s.live = a.session.live) : (⟨s, a.workers⟩ : AtWork).Sound config loaded := by
  refine ⟨configured.trans sound.configured, sound.crew.congr ?_ table, ?_, sound.alone⟩
  · simp only [AtWork.crew, live]
  · intro hmode
    rw [live]
    exact sound.dormant hmode

theorem receive_eq (c : SessionCommand) (s : Session) :
    ∃ settings stopping, s.receive c =
      { s.withShared { s.shared with settings } with stopping } := by
  unfold receive
  split
  next => exact ⟨s.shared.settings, s.stopping, rfl⟩
  next =>
    cases c with
    | report => exact ⟨s.shared.settings, s.stopping, rfl⟩
    | shutdown => exact ⟨s.shared.settings, true, rfl⟩
    | reloadSettings =>
      dsimp only [reload]
      split
      next settings _ => exact ⟨settings, s.stopping, rfl⟩
      next => exact ⟨s.shared.settings, s.stopping, rfl⟩

/-- What happens from outside changes what is shared as the event says, may bring other settings,
and may tell the session to stop; nothing else changes. -/
theorem happen_apply (e : Event) (s : Session) :
    ∃ settings stopping, s.happen e =
      { s.withShared { e.apply s.shared with settings } with stopping } := by
  unfold happen
  cases e.command with
  | none => exact ⟨(e.apply s.shared).settings, s.stopping, rfl⟩
  | some c => exact receive_eq c (s.withShared (e.apply s.shared))

/-- What happens from outside changes what is shared, but not the table, and may tell the session to
stop; nothing else changes. -/
theorem happen_eq (e : Event) (s : Session) :
    ∃ shared stopping, shared.table = s.shared.table ∧
      s.happen e = { s.withShared shared with stopping } := by
  obtain ⟨settings, stopping, hhappen⟩ := happen_apply e s
  exact ⟨{ e.apply s.shared with settings }, stopping, rfl, hhappen⟩

/-- A tick of the searches writes the metrics, and does not stop the session. -/
theorem control_searches {s : Session} (mode : s.config.mode = .inference)
    (elapsed : Nanoseconds) :
    ∃ metrics, (s.control elapsed).shared = { s.shared with metrics } ∧
      (s.control elapsed).stopping = s.stopping := by
  obtain ⟨metrics, hshared⟩ := (Inference.State.evaluate_ticked
    (SessionApplier.handler s.config.interface) s.shared.readings.load elapsed s.search).shared_eq
  unfold Session.control
  rw [mode]
  exact ⟨metrics, hshared, rfl⟩

theorem worker_sound {a : AtWork} (sound : a.Sound config loaded) (m : Move) :
    (a.turn (.worker m)).Sound config loaded := by
  -- the live loop stands in front of the workers, so each of them has moved up by one place
  obtain ⟨m', hmove⟩ := Team.move_cons a.session.snapshotPath { summary := a.session.live.summary }
    a.team m
  have hcrew : (a.turn (.worker m)).crew = a.crew.move a.session.snapshotPath m' := hmove.symm
  refine ⟨sound.configured, ?_, sound.dormant, fun hmode => ?_⟩
  · rw [hcrew]
    exact Team.move_sound sound.crew m'
  · have hnobody : a.team.workers = [] := sound.alone hmode
    rw [turn, Team.move_nobody _ hnobody]
    exact hnobody

theorem control_sound {a : AtWork} (sound : a.Sound config loaded)
    (trains : config.mode ≠ .inference) (elapsed : Nanoseconds) :
    (a.turn (.control elapsed)).Sound config loaded := by
  have hconfigured := sound.configured
  cases hmode : a.session.config.mode with
  | inference => exact absurd (hconfigured ▸ hmode) trains
  | training =>
    have hsame : a.turn (.control elapsed) = a := by simp only [turn, Session.control, hmode]
    rw [hsame]
    exact sound
  | liveTraining =>
    have hcrew := sound.crew.act 0 fun w =>
      Live.tickAs_honest a.session.snapshotPath a.session.live.ended w sound.crew.ordered
    have hcontrol : a.session.control elapsed =
        { a.session.withShared (a.session.live.tick a.session.snapshotPath a.session.shared).2 with
          live := (a.session.live.tick a.session.snapshotPath a.session.shared).1 } := by
      simp only [Session.control, hmode]
    rw [turn, hcontrol]
    refine ⟨hconfigured, hcrew, fun htraining => ?_, sound.alone⟩
    rw [← hconfigured, hmode] at htraining
    cases htraining

/-- **One step.** Whoever takes the next turn, a session that trains stays sound. -/
theorem turn_sound {a : AtWork} (sound : a.Sound config loaded) (trains : config.mode ≠ .inference)
    (turn : Turn) : (a.turn turn).Sound config loaded := by
  cases turn with
  | worker m => exact worker_sound sound m
  | control elapsed => exact control_sound sound trains elapsed
  | sampleInterface now => exact sound.congr rfl rfl rfl
  | sampleProcessors now => exact sound.congr rfl rfl rfl
  | happen e =>
    obtain ⟨shared, stopping, htable, hhappen⟩ := happen_eq e a.session
    rw [AtWork.turn, hhappen]
    exact sound.congr rfl htable rfl

/-- Turns of any number keep a session sound. -/
theorem after_sound {a : AtWork} (sound : a.Sound config loaded) (trains : config.mode ≠ .inference)
    (turns : List Turn) : (a.after turns).Sound config loaded := by
  induction turns generalizing a with
  | nil => exact sound
  | cons t rest ih => exact ih (turn_sound sound trains t)

/-- Before the first turn the live loop is one more worker that has done nothing yet. -/
theorem start_crew (streams : List Draws) {s : Session} (fresh : s.live = {}) :
    ∃ drawn, (start streams s).crew = Team.start drawn s.shared := by
  unfold crew start
  rw [fresh]
  cases s.config.mode with
  | training => exact ⟨{} :: if streams.isEmpty then [{}] else streams, rfl⟩
  | liveTraining | inference => exact ⟨[{}], rfl⟩

/-- A session is sound before its first turn. -/
theorem start_sound (streams : List Draws) {s : Session} (ordered : s.shared.table.Ordered)
    (fresh : s.live = {}) : (start streams s).Sound s.config s.shared.table := by
  obtain ⟨drawn, hcrew⟩ := start_crew streams fresh
  refine ⟨rfl, hcrew ▸ Team.start_sound drawn ordered, fun _ => ?_, fun hmode => ?_⟩
  · change s.live.summary.inserted = 0
    rw [fresh]
  · unfold start
    dsimp only
    split
    next h => exact absurd h hmode
    next => rfl

/-! ## The schedule -/

/-- Moves of the workers, as turns of their session. -/
theorem after_workers (moves : List Move) (a : AtWork) :
    a.after (moves.map .worker) =
      ⟨a.session.withShared (a.team.run a.session.snapshotPath moves).shared,
        (a.team.run a.session.snapshotPath moves).workers⟩ := by
  induction moves generalizing a with
  | nil => rfl
  | cons m rest ih => exact ih (a.turn (.worker m))

theorem after_concat (a : AtWork) (turns : List Turn) (t : Turn) :
    a.after (turns ++ [t]) = (a.after turns).turn t := List.foldl_concat ..

/-- Turns of the loops lead from one state to another, and `es` happens in them. No worker moves. -/
def Leads (a : AtWork) (es : List Event) (b : AtWork) : Prop :=
  ∃ turns, (∀ m, Turn.worker m ∉ turns) ∧ turns.filterMap Turn.event? = es ∧ a.after turns = b

theorem Leads.turn {a b next : AtWork} {es : List Event} (led : Leads a es b) {t : Turn}
    (resting : ∀ m, t ≠ .worker m) (taken : b.turn t = next) :
    Leads a (es ++ t.event?.toList) next := by
  obtain ⟨turns, hresting, rfl, rfl⟩ := led
  refine ⟨turns ++ [t], fun m hm => ?_, ?_, (after_concat a turns t).trans taken⟩
  · rcases List.mem_append.mp hm with hm | hm
    · exact hresting m hm
    · exact resting m (List.mem_singleton.mp hm).symm
  · cases h : t.event? <;> simp [h]

/-- What the schedule of a session plays are turns of its loops and of what happens. -/
theorem play_leads (script : List (Nanoseconds × Event)) (s : Session) (workers : List Worker) :
    let carried := (schedule.play script s.tickers s).1
    Leads ⟨s, workers⟩ (carried.map fun entry => entry.2.1)
        ⟨(schedule.play script s.tickers s).2, workers⟩ ∧
      ∀ before entry after, carried = before ++ entry :: after →
        Leads ⟨s, workers⟩ ((before ++ [entry]).map fun entry => entry.2.1)
          ⟨entry.2.2, workers⟩ := by
  have hstart : Leads ⟨s, workers⟩ [] ⟨s, workers⟩ := ⟨[], by simp, rfl, rfl⟩
  refine schedule.play_reached
    (motive := fun es s' => Leads ⟨s, workers⟩ es ⟨s', workers⟩) ?_ ?_ script s.tickers [] hstart
  · intro es index f s' led
    have hloop (t : Turn) (resting : ∀ m, t ≠ .worker m) (silent : t.event? = none) {next : Session}
        (hnext : (⟨s', workers⟩ : AtWork).turn t = ⟨next, workers⟩) :
        Leads ⟨s, workers⟩ es ⟨next, workers⟩ := by
      simpa [silent] using led.turn resting hnext
    match index with
    | 0 => exact hloop (.control f.elapsed) (by simp) rfl rfl
    | 1 => exact hloop (.sampleInterface f.now) (by simp) rfl rfl
    | _ + 2 => exact hloop (.sampleProcessors f.now) (by simp) rfl rfl
  · intro es e s' led
    exact led.turn (t := .happen e) (by simp) rfl

theorem after_config (turns : List Turn) (a : AtWork) :
    (a.after turns).session.config = a.session.config := by
  induction turns generalizing a with
  | nil => rfl
  | cons t rest ih =>
    refine (ih (a.turn t)).trans ?_
    cases t with
    | worker | sampleInterface | sampleProcessors => rfl
    | happen e =>
      obtain ⟨shared, stopping, -, hhappen⟩ := happen_eq e a.session
      rw [turn, hhappen]
      rfl
    | control elapsed =>
      simp only [turn, Session.control]
      split <;> rfl

theorem after_snapshotPath (turns : List Turn) (a : AtWork) :
    (a.after turns).session.snapshotPath = a.session.snapshotPath := by
  rw [snapshotPath, after_config, snapshotPath]

/-- Nothing happens from outside while a session trains on drawn keys. -/
theorem run_training {s : Session} (mode : s.config.mode = .training) (streams : List Draws)
    (script : List (Nanoseconds × Event)) : (s.run streams script).carried = [] := by
  unfold Session.run
  rw [mode]

/-- Training on drawn keys is over when its workers have moved. -/
theorem training_eq_after {s : Session} (mode : s.config.mode = .training) (streams : List Draws)
    (script : List (Nanoseconds × Event)) :
    ∃ moves : List Move, ((start streams s).after (moves.map .worker)).close =
      ((s.run streams script).last, (s.run streams script).summary) := by
  have hclose : ((s.run streams script).last, (s.run streams script).summary) =
      (s.withShared (Training.run s.snapshotPath s.stopping streams s.shared).2).close
        (some (Training.run s.snapshotPath s.stopping streams s.shared).1) := by
    unfold Session.run
    rw [mode]
  obtain ⟨moves, hrun⟩ := Team.run_eq_team s.snapshotPath s.stopping streams s.shared
  have hteam : (start streams s).team =
      Team.start (if streams.isEmpty then [{}] else streams) s.shared := by
    simp only [start, mode, team, Team.start]
  have hsession : (start streams s).session = s := rfl
  refine ⟨moves, ?_⟩
  rw [hclose, hrun, after_workers, hteam, hsession, close, training]
  simp only [withShared, mode]
  rfl

/-- Any other session carries out what its schedule plays. -/
theorem run_scheduled {s : Session} (mode : s.config.mode ≠ .training) (streams : List Draws)
    (script : List (Nanoseconds × Event)) :
    (s.run streams script).carried = (schedule.play script s.tickers s).1 := by
  unfold Session.run
  split
  next h => exact absurd h mode
  next => rfl

/-- What a run carries out is the beginning of its script. -/
theorem run_carried (streams : List Draws) (script : List (Nanoseconds × Event)) (s : Session) :
    ((s.run streams script).carried.map fun entry => (entry.1, entry.2.1)) <+: script := by
  by_cases hmode : s.config.mode = .training
  · rw [run_training hmode]
    exact List.nil_prefix
  · rw [run_scheduled hmode]
    exact schedule.play_carried script s.tickers s

/-- Any other session is over when its schedule has been played. -/
theorem scheduled_eq_after {s : Session} (mode : s.config.mode ≠ .training) (streams : List Draws)
    (script : List (Nanoseconds × Event)) :
    let carried := (s.run streams script).carried
    (∃ turns, turns.filterMap Turn.event? = carried.map (fun entry => entry.2.1) ∧
        ((start streams s).after turns).close =
          ((s.run streams script).last, (s.run streams script).summary)) ∧
      ∀ before entry after, carried = before ++ entry :: after →
        Leads (start streams s) ((before ++ [entry]).map fun entry => entry.2.1)
          ⟨entry.2.2, []⟩ := by
  have hclose : let last := (schedule.play script s.tickers s).2
      ((s.run streams script).last, (s.run streams script).summary) =
        last.close (if s.config.mode = .liveTraining then some (last.live.close last.shared)
          else none) := by
    unfold Session.run
    split
    next h => exact absurd h mode
    next => rfl
  have hstart : start streams s = ⟨s, []⟩ := by
    unfold start
    split
    next h => exact absurd h mode
    next => rfl
  obtain ⟨⟨turns, -, hevents, hturns⟩, hpassed⟩ := play_leads script s []
  have hconfig := after_config turns ⟨s, []⟩
  rw [hturns] at hconfig
  rw [run_scheduled mode, hstart]
  refine ⟨⟨turns, hevents, ?_⟩, hpassed⟩
  rw [hclose, hturns, close, training, hconfig]
  cases h : s.config.mode with
  | training => exact absurd h mode
  | liveTraining | inference => rfl

/-- A session that is run ends as it does after some turns, in which what was carried out of the
script happens. -/
theorem run_eq_turns (streams : List Draws) (script : List (Nanoseconds × Event)) (s : Session) :
    ∃ turns,
      turns.filterMap Turn.event? = (s.run streams script).carried.map (fun entry => entry.2.1) ∧
        ((start streams s).after turns).close =
          ((s.run streams script).last, (s.run streams script).summary) := by
  by_cases hmode : s.config.mode = .training
  · obtain ⟨moves, hmoves⟩ := training_eq_after hmode streams script
    refine ⟨moves.map .worker, ?_, hmoves⟩
    rw [run_training hmode, List.map_nil, List.filterMap_map, List.filterMap_eq_nil_iff]
    exact fun _ _ => rfl
  · exact (scheduled_eq_after hmode streams script).1

/-- A session that is run passes, whenever it carries something out, a state that turns of its loops
lead to. -/
theorem run_passes (streams : List Draws) (script : List (Nanoseconds × Event)) (s : Session)
    {before after : List (Nanoseconds × Event × Session)} {entry : Nanoseconds × Event × Session}
    (carried : (s.run streams script).carried = before ++ entry :: after) :
    Leads (start streams s) ((before ++ [entry]).map fun entry => entry.2.1) ⟨entry.2.2, []⟩ := by
  by_cases hmode : s.config.mode = .training
  · rw [run_training hmode] at carried
    simp at carried
  · exact (scheduled_eq_after hmode streams script).2 before entry after carried

/-- **A session that is run ends as it does after some turns.** -/
theorem run_eq_after (streams : List Draws) (script : List (Nanoseconds × Event)) (s : Session) :
    ∃ turns, ((start streams s).after turns).close =
      ((s.run streams script).last, (s.run streams script).summary) := by
  obtain ⟨turns, -, hturns⟩ := run_eq_turns streams script s
  exact ⟨turns, hturns⟩

end AtWork

end Session

end NetworkTuning
