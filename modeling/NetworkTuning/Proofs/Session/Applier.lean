import NetworkTuning.Proofs.Inference.Lookup
import NetworkTuning.Proofs.Session.Samplers

/-!
# What is reported of the applier

After each row that it hands over, the controller reports how its applier is, by whether the applier
answered with an error. An applier that runs commands never does: it counts the commands that did
not succeed, and this count is no error (`SessionApplier.answer_ok`).

**One tick** (`evaluate_report`): a row that is handed over makes for a report on the answer, and
any other tick for none. **A run** (`status_before`): the applier is taken to be what its last
answer says, whoever the applier is. So an applier that runs commands is called healthy after each
row, and that is right in the ticks in which no command fails, and in no others
(`applier_reported_iff`).
-/

namespace NetworkTuning

/-! ## Running commands -/

/-- What becomes of commands that are run one after the other. -/
def Shell.results (s : Shell) : List Command → List (Except String Exit)
  | [] => []
  | c :: rest => (s.run c).2 :: (s.run c).1.results rest

/-- What is counted of commands that are run in turn is those that did not succeed. -/
theorem Shell.runAll_failed (s : Shell) (commands : List Command) :
    (s.runAll commands).2 = (s.results commands).countP fun r => !succeeded r := by
  induction commands generalizing s with
  | nil => rfl
  | cons c rest ih =>
    rw [results, List.countP_cons, ← ih]
    show (if succeeded (s.run c).2 then ((s.run c).1.runAll rest).2
      else ((s.run c).1.runAll rest).2 + 1) = _
    cases succeeded (s.run c).2 <;> rfl

namespace SessionApplier

/-- An applier for which programs do something else from now on. -/
def facing (programs : List Command → Command → Except String Exit) (a : SessionApplier) :
    SessionApplier := (a.1, { a.2 with answer := programs })

/-- What becomes of the commands that an applier runs for a profile. One that refuses the profile,
or only shows commands, runs none. -/
def results (interface : String) (p : Profile) (a : SessionApplier) : List (Except String Exit) :=
  if (a.1.baseline.bind fun b => refusal? b p).isSome ∨ a.1.dryRun then []
  else a.2.results (p.commands interface)

/-- An applier that runs commands answers with the number of those that did not succeed, and never
with an error. -/
theorem answer_ok (interface : String) (p : Profile) (a : SessionApplier) :
    ∃ outcome, (handler interface p a).1 = .ok outcome ∧
      outcome.failures = (a.results interface p).countP fun r => !succeeded r := by
  obtain ⟨applier, shell⟩ := a
  refine ⟨(applier.apply shell interface p).2.2, rfl, ?_⟩
  unfold results Applier.apply
  cases applier.baseline.bind fun b => refusal? b p with
  | some reason => rfl
  | none =>
    by_cases hdry : applier.dryRun = true
    · simp [hdry, Outcome.failures]
    · simpa [hdry, Outcome.failures] using shell.runAll_failed (p.commands interface)

end SessionApplier

/-! ## Reports -/

/-- Reports on an applier by its answer. -/
def Health.noteAnswer (h : Health) : Except String Outcome → Health
  | .ok _ => h.setHealthy applierPart
  | .error message => h.setDegraded applierPart message

/-- How the part that applies settings is, as the health says. -/
def applierStatus (health : Option Health) : Option Status :=
  (health.bind fun h => h.component? applierPart).map ComponentHealth.status

namespace Inference

/-- What an answer says of its applier. -/
def Delivery.status (d : Delivery) : Status := if d.hasFailed then .degraded else .healthy

theorem applierStatus_noteAnswer (h : Health) (d : Delivery) :
    applierStatus (some (h.noteAnswer d.answer)) = some d.status := by
  obtain ⟨p, message | outcome⟩ := d <;>
    simp [applierStatus, Health.noteAnswer, Health.setDegraded, Health.setHealthy,
      Health.component?_update, Delivery.status, Delivery.hasFailed, Except.toOption]

variable {σ : Type}

/-- **One tick** reports on the answer of the applier, if a row is handed to it. -/
theorem State.evaluate_report (handle : Handler σ) (load : Load) (elapsed : Nanoseconds)
    (s : State σ) :
    ((s.evaluate handle load elapsed).1.isApplied = false ∧
        (s.evaluate handle load elapsed).2.health = s.health) ∨
      ∃ index p, (∃ outcome, (s.evaluate handle load elapsed).1 = .applied index p.key outcome) ∧
        s.shared.table.rows[index]? = some p ∧
        (s.evaluate handle load elapsed).2.health =
          s.health.map fun h => h.noteAnswer (handle p s.controller.applier).1 := by
  cases hidle : load.isIdle with
  | true =>
    rw [evaluate, if_pos hidle]
    exact .inl ⟨rfl, rfl⟩
  | false =>
    rw [evaluate_busy handle hidle]
    generalize Target.ofLoad load s.shared.settings = g
    split
    next =>
      simp only [search, Target.search, looked]
      cases hfound : (find s.shared.table.rows g.score g.tolerance
          s.shared.settings.weights).found with
      | none => exact .inl ⟨rfl, rfl⟩
      | some index =>
        obtain ⟨p, hrow, -⟩ := find_found hfound
        refine .inr ⟨index, p, ?_⟩
        simp only [Option.bind_some, hrow, Option.map_some, handOver, waited]
        rcases handle p s.controller.applier with ⟨outcome | message, applier⟩ <;>
          exact ⟨⟨_, rfl⟩, trivial, rfl⟩
    next => exact .inl ⟨rfl, rfl⟩

namespace Course

variable {c : Course σ} {n : Nat}

theorem isApplied_of_hands {d : Delivery} (hands : c.Hands n d) : (c.tick n).isApplied = true := by
  obtain ⟨index, htick, -⟩ := hands
  rw [htick]
  rfl

/-- A row that is handed over is reported on. -/
theorem health_of_hands {d : Delivery} (hands : c.Hands n d) :
    (c.before (n + 1)).health = (c.before n).health.map fun h => h.noteAnswer d.answer := by
  have hreport := State.evaluate_report (c.moments n).handle (c.moments n).load
    (c.moments n).elapsed (meets (c.moments n) (c.before n))
  have happlied := isApplied_of_hands hands
  obtain ⟨index, htick, hrow, -, hanswer⟩ := hands
  rcases hreport with ⟨hquiet, -⟩ | ⟨index', p, ⟨outcome, hsame⟩, hrow', hhealth⟩
  · exact absurd (happlied.symm.trans hquiet) (by decide)
  · obtain ⟨rfl, -, -⟩ := Tick.applied.inj (htick.symm.trans hsame)
    obtain rfl : d.profile = p := Option.some.inj (hrow.symm.trans hrow')
    have hsays : ((c.moments n).handle d.profile (c.before n).controller.applier).1 = d.answer :=
      congrArg Prod.fst hanswer
    rw [← hsays]
    exact hhealth

/-- A tick that hands nothing over leaves the report. -/
theorem health_of_quiet (quiet : (c.tick n).isApplied = false) :
    (c.before (n + 1)).health = (c.before n).health := by
  have hreport := State.evaluate_report (c.moments n).handle (c.moments n).load
    (c.moments n).elapsed (meets (c.moments n) (c.before n))
  rcases hreport with ⟨-, hhealth⟩ | ⟨index, p, ⟨outcome, happlied⟩, -⟩
  · exact hhealth
  · have happlied : c.tick n = .applied index p.key outcome := happlied
    rw [happlied] at quiet
    cases quiet

/-- **A run**: the applier is taken to be what its last answer says, and before the first one what
it was at the start. -/
theorem status_before (c : Course σ) (registered : c.start.health.isSome) (n : Nat) :
    (c.before n).health.isSome ∧
      applierStatus (c.before n).health =
        (c.handed n).getLast?.elim (applierStatus c.start.health) fun d => some d.status := by
  induction n with
  | zero => exact ⟨registered, rfl⟩
  | succ n ih =>
    obtain ⟨hsome, hstatus⟩ := ih
    rcases c.handed_succ n with ⟨-, d, hands, hhanded⟩ | ⟨hquiet, hhanded⟩
    · obtain ⟨h, hh⟩ := Option.isSome_iff_exists.mp hsome
      rw [health_of_hands hands, hh, hhanded, List.getLast?_concat, Option.map_some]
      exact ⟨rfl, applierStatus_noteAnswer h d⟩
    · rw [health_of_quiet hquiet, hhanded]
      exact ⟨hsome, hstatus⟩

end Course

/-! ## An applier that runs commands -/

/-- One tick of a controller whose applier runs commands: what the others do before it, the load it
looks at, the time since the tick before, and what programs do at that time. -/
structure Occasion where
  change : Shared → Shared := id
  load : Load
  elapsed : Nanoseconds
  programs : List Command → Command → Except String Exit

/-- Any succession of ticks of a controller that reports its health and whose applier runs
commands. -/
structure Execution where
  interface : String
  start : State SessionApplier
  registered : start.health.isSome
  occasions : Nat → Occasion

namespace Execution

/-- The ticks with the applier that they find. -/
def course (e : Execution) : Course SessionApplier where
  start := e.start
  moments := fun n => {
    change := (e.occasions n).change
    load := (e.occasions n).load
    elapsed := (e.occasions n).elapsed
    handle := fun p a =>
      SessionApplier.handler e.interface p (a.facing (e.occasions n).programs) }

/-- What becomes of the commands that a tick runs for a profile. -/
def results (e : Execution) (n : Nat) (p : Profile) : List (Except String Exit) :=
  ((e.course.before n).controller.applier.facing (e.occasions n).programs).results e.interface p

/-- How the applier is before a tick, as the health says. -/
def status (e : Execution) (n : Nat) : Option Status := applierStatus (e.course.before n).health

/-- A tick that hands a row over is reported: the applier is not called healthy if it answered with
an error or a command that it ran did not succeed. -/
def Reported (e : Execution) (n : Nat) : Prop :=
  ∀ d, e.course.Hands n d →
    d.hasFailed = true ∨ (∃ r ∈ e.results n d.profile, succeeded r = false) →
      e.status (n + 1) ≠ some .healthy

variable {e : Execution} {n : Nat} {d : Delivery}

theorem answer_of_hands (hands : e.course.Hands n d) :
    ∃ outcome, d.answer = .ok outcome ∧
      outcome.failures = (e.results n d.profile).countP fun r => !succeeded r := by
  obtain ⟨index, -, -, -, hanswer⟩ := hands
  obtain ⟨outcome, hok, hfailures⟩ := SessionApplier.answer_ok e.interface d.profile
    ((e.course.before n).controller.applier.facing (e.occasions n).programs)
  exact ⟨outcome, (congrArg Prod.fst hanswer).symm.trans hok, hfailures⟩

/-- Whatever became of its commands, the applier is called healthy after each row. -/
theorem status_of_hands (hands : e.course.Hands n d) : e.status (n + 1) = some .healthy := by
  obtain ⟨outcome, hok, -⟩ := answer_of_hands hands
  obtain ⟨h, hh⟩ := Option.isSome_iff_exists.mp (e.course.status_before e.registered n).1
  rw [status, Course.health_of_hands hands, hh, Option.map_some, applierStatus_noteAnswer,
    Delivery.status, Delivery.hasFailed, hok]
  rfl

/-- **When the applier is reported as it should be.** Whatever the loads, the times and the others
do, and whatever programs do at each tick: after a tick that hands a row over, the applier has
answered with the number of its commands that did not succeed, and is called healthy. So it is not
called healthy after a failure exactly if there is none: if every command that the tick ran
succeeded. -/
theorem applier_reported_iff (e : Execution) (n : Nat) :
    ((e.course.tick n).isApplied = true → ∃ d, e.course.Hands n d ∧
      e.status (n + 1) = some .healthy ∧
      ∃ outcome, d.answer = .ok outcome ∧
        outcome.failures = (e.results n d.profile).countP fun r => !succeeded r) ∧
    (e.Reported n ↔
      ∀ d, e.course.Hands n d → ∀ r ∈ e.results n d.profile, succeeded r = true) := by
  constructor
  · intro happlied
    rcases e.course.handed_succ n with ⟨-, d, hands, -⟩ | ⟨hquiet, -⟩
    · exact ⟨d, hands, status_of_hands hands, answer_of_hands hands⟩
    · exact absurd (happlied.symm.trans hquiet) (by decide)
  · constructor
    · intro reported d hands r hr
      by_contra hfailed
      exact reported d hands (.inr ⟨r, hr, Bool.eq_false_iff.mpr hfailed⟩) (status_of_hands hands)
    · intro succeed d hands failed
      exfalso
      rcases failed with hfailed | ⟨r, hr, hfailed⟩
      · obtain ⟨outcome, hok, -⟩ := answer_of_hands hands
        rw [Delivery.hasFailed, hok] at hfailed
        cases hfailed
      · exact absurd ((succeed d hands r hr).symm.trans hfailed) (by decide)

/-- One tick after another over a table of one row, on a machine without programs. -/
def bareMachine : Execution where
  interface := "eth0"
  start := {
    controller := { applier := ({ dryRun := false }, {}) }
    shared := {
      settings := { accuracy := 0.0, weights := { transfer := 0.0 } }
      table := Table.ofList 1 [{ transferRate := 5 }] }
    health := some (Health.registerAll {}) }
  registered := rfl
  occasions := fun _ => {
    load := { transferRate := 5 }
    elapsed := 1000000000
    programs := fun _ _ => .error "No such file or directory (os error 2)" }

/-- None of its four commands can be started, and the applier is called healthy. -/
theorem bareMachine_unreported :
    ∃ d, bareMachine.course.Hands 0 d ∧ d.answer = .ok (.executed 4 4) ∧
      (bareMachine.results 0 d.profile).countP (fun r => !succeeded r) = 4 ∧
      bareMachine.status 1 = some .healthy ∧ ¬bareMachine.Reported 0 := by
  have hanswers : (bareMachine.course.handed 1).map Delivery.answer = [.ok (.executed 4 4)] := by
    decide +kernel
  have hstatus : bareMachine.status 1 = some .healthy := by decide +kernel
  rcases bareMachine.course.handed_succ 0 with ⟨-, d, hands, hhanded⟩ | ⟨-, hhanded⟩
  · have hanswer : d.answer = .ok (.executed 4 4) := by
      rw [hhanded] at hanswers
      exact List.head_eq_of_cons_eq hanswers
    obtain ⟨outcome, hok, hfailures⟩ := answer_of_hands hands
    obtain rfl : .executed 4 4 = outcome := Except.ok.inj (hanswer.symm.trans hok)
    refine ⟨d, hands, hanswer, hfailures.symm, hstatus, fun reported => ?_⟩
    have hsome : 0 < (bareMachine.results 0 d.profile).countP fun r => !succeeded r := by
      rw [← hfailures]
      decide
    obtain ⟨r, hr, hfailed⟩ := List.countP_pos_iff.mp hsome
    exact reported d hands (.inr ⟨r, hr, by simpa using hfailed⟩) hstatus
  · rw [hhanded] at hanswers
    cases hanswers

end Execution

end Inference

end NetworkTuning
