import NetworkTuning.Proofs.Session.Opening

/-!
# What the samplers report

The two samplers of a session report how they are under one name, and each reports only when its
source begins to fail and when it works again. What the last report says is therefore what the part
is taken to be, whoever made it.

**One step** (`turn_reported_iff`): as long as the part is not called healthy while a source fails,
one turn leaves it so unless it masks a failure, that is, unless one source works again while the
other one still fails. **A run** (`after_reported_iff`): the part is never called healthy while a
source fails exactly if no turn of the run masks a failure. There are such turns (`recovery`).

A sampler knows that its source fails by a count that is a machine word (`Counted`), so all of this
is said of runs in which no source fails so often in a row that the count starts over (`Short`).
-/

namespace NetworkTuning

/-! ## Reports by name -/

/-- A part is what it has reported last, and no other part is changed by that. -/
theorem Health.component?_update (h : Health) (name other : String) (report : ComponentHealth) :
    (h.update name report).component? other =
      if other = name then some report else h.component? other := by
  have hmap : (h.components.map fun c => if c.1 = name then (name, report) else c).find?
      (fun c => c.1 = other) = (h.components.find? fun c => c.1 = other).map
        fun c => if c.1 = name then (name, report) else c := by
    rw [List.find?_map]
    congr 2
    funext c
    by_cases hc : c.1 = name
    · simp [hc]
    · simp [hc]
  unfold component? update
  split
  next hany =>
    dsimp only
    rw [hmap]
    cases hfind : h.components.find? fun c => c.1 = other with
    | none =>
      have hother : other ≠ name := by
        rintro rfl
        obtain ⟨c, hc, hname⟩ := List.any_eq_true.mp hany
        exact List.find?_eq_none.mp hfind c hc hname
      rw [if_neg hother]
      rfl
    | some c =>
      have hc : c.1 = other := by simpa using List.find?_some hfind
      by_cases hother : other = name
      · simp [hother, hc]
      · simp [hother, hc]
  next hnone =>
    dsimp only
    rw [List.find?_append]
    by_cases hother : other = name
    · subst hother
      have hfind : (h.components.find? fun c => c.1 = other) = none := by
        rw [List.find?_eq_none]
        intro c hc hname
        exact hnone (List.any_eq_true.mpr ⟨c, hc, hname⟩)
      simp [hfind]
    · simp [hother, Ne.symm hother]

/-! ## One sampler -/

namespace Sampler

/-- Whether the source can be read now. -/
def reads (s : Sampler) (files : FileTree) (now : Nanoseconds) (r : Readings) (m : Metrics) :
    Bool := (s.tick files now r m).2.2.2

theorem tick_failures (s : Sampler) (files : FileTree) (now : Nanoseconds) (r : Readings)
    (m : Metrics) : (s.tick files now r m).1.failures = s.failures := by
  unfold tick
  split <;> rfl

end Sampler

/-- How the part that samples is, as the health says. -/
def samplerStatus (health : Option Health) : Option Status :=
  (health.bind fun h => h.component? samplerPart).map ComponentHealth.status

namespace Sampler

/-- What one turn does to the count of failures and to the status: only a change is reported. -/
theorem turn_effect (s : Sampler) (files : FileTree) (now : Nanoseconds) (r : Readings)
    (m : Metrics) {health : Option Health} (registered : health.isSome) :
    let after := s.turn files now r m health
    after.2.2.2.isSome ∧
      after.1.failures = (if s.reads files now r m then 0 else s.failures + 1) ∧
      samplerStatus after.2.2.2 =
        if s.reads files now r m then
          if 0 < s.failures then some .healthy else samplerStatus health
        else if s.failures = 0 then some .degraded else samplerStatus health := by
  obtain ⟨h, rfl⟩ := Option.isSome_iff_exists.mp registered
  have hfailures := s.tick_failures files now r m
  have hstatus (report : ComponentHealth) :
      samplerStatus (some (h.update samplerPart report)) = some report.status := by
    simp only [samplerStatus, Option.bind_some, Health.component?_update, if_true, Option.map_some]
  unfold turn reads
  rcases htick : s.tick files now r m with ⟨ticked, r', m', taken⟩
  rw [htick] at hfailures
  dsimp only at hfailures ⊢
  rw [← hfailures]
  cases taken with
  | true =>
    by_cases hfailing : 0 < ticked.failures
    · simp only [record, if_true, if_pos hfailing, Option.map_some, Health.setHealthy, hstatus,
        Option.isSome_some, true_and]
    · simp only [record, if_true, if_neg hfailing, Option.isSome_some, true_and]
  | false =>
    by_cases hfirst : ticked.failures = 0
    · simp only [record, Bool.false_eq_true, if_false, if_pos hfirst, Option.map_some,
        Health.setDegraded, hstatus, Option.isSome_some, true_and]
    · simp only [record, Bool.false_eq_true, if_false, if_neg hfirst, Option.isSome_some, true_and]

end Sampler

/-! ## Two samplers -/

namespace Inference.State

variable {σ : Type}

theorem handOver_status (handle : Handler σ) (p : Profile) (s : State σ) :
    (s.handOver handle p).2.health.isSome = s.health.isSome ∧
      samplerStatus (s.handOver handle p).2.health = samplerStatus s.health := by
  have hother : samplerPart ≠ applierPart := by decide
  unfold handOver samplerStatus
  cases s.health with
  | none => split; split <;> exact ⟨rfl, rfl⟩
  | some h =>
    split
    split <;> simp only [Option.map_some, Option.isSome_some, Option.bind_some, Health.setHealthy,
      Health.setDegraded, Health.component?_update, if_neg hother, true_and]

/-- The searches report on another part. -/
theorem evaluate_status (handle : Handler σ) (load : Load) (elapsed : Nanoseconds) (s : State σ) :
    (s.evaluate handle load elapsed).2.health.isSome = s.health.isSome ∧
      samplerStatus (s.evaluate handle load elapsed).2.health = samplerStatus s.health := by
  by_cases hidle : load.isIdle
  · rw [evaluate, if_pos hidle]
    exact ⟨rfl, rfl⟩
  · simp only [evaluate, if_neg hidle]
    split
    next =>
      simp only [search]
      split
      next => exact handOver_status handle _ _
      next => exact ⟨rfl, rfl⟩
    next => exact ⟨rfl, rfl⟩

end Inference.State

namespace Session

/-- Whether a turn is one of a sampler. -/
def Turn.isSampling : Turn → Bool
  | .sampleInterface _ | .sampleProcessors _ => true
  | _ => false

/-- A session at work, with the number of readings of either source in a row that have failed. -/
structure Watch where
  work : AtWork
  interfaceFailures : Nat := 0
  processorFailures : Nat := 0

namespace Watch

/-- Whether the last reading of the interface failed. -/
def interfaceFailed (w : Watch) : Bool := 0 < w.interfaceFailures

/-- Whether the last reading of the processors failed. -/
def processorsFailed (w : Watch) : Bool := 0 < w.processorFailures

/-- The number of readings in a row that have failed after one more. -/
def inRow (taken : Bool) (failures : Nat) : Nat := if taken then 0 else failures + 1

/-- Whether a sampler's turn finds its source readable now. -/
def reads (s : Session) (sampler : Sampler) (now : Nanoseconds) : Bool :=
  sampler.reads s.shared.files now s.shared.readings s.shared.metrics

/-- One turn. -/
def turn (w : Watch) (t : Turn) : Watch :=
  let s := w.work.session
  let work := w.work.turn t
  match t with
  | .sampleInterface now =>
    { w with work, interfaceFailures := inRow (reads s s.interfaceSampler now) w.interfaceFailures }
  | .sampleProcessors now =>
    { w with work, processorFailures := inRow (reads s s.processorSampler now) w.processorFailures }
  | _ => { w with work }

/-- Any turns in any order. -/
def after (w : Watch) (turns : List Turn) : Watch := turns.foldl turn w

/-- How the part that samples is, as the session says. -/
def status (w : Watch) : Option Status := samplerStatus w.work.session.search.health

/-- The part is not called healthy while a source fails. -/
def Reported (w : Watch) : Prop :=
  w.interfaceFailed = true ∨ w.processorsFailed = true → w.status ≠ some .healthy

/-- A turn in which one source works again while the other one still fails. -/
def Masks (w : Watch) : Turn → Prop
  | .sampleInterface now => w.interfaceFailed = true ∧ w.processorsFailed = true ∧
      reads w.work.session w.work.session.interfaceSampler now = true
  | .sampleProcessors now => w.processorsFailed = true ∧ w.interfaceFailed = true ∧
      reads w.work.session w.work.session.processorSampler now = true
  | _ => False

/-- Health is reported, and each sampler counts the failures of its source, as a word. -/
structure Counted (w : Watch) : Prop where
  registered : w.work.session.search.health.isSome
  interface : w.work.session.interfaceSampler.failures = w.interfaceFailures.toUInt32
  processors : w.work.session.processorSampler.failures = w.processorFailures.toUInt32

/-- No source has failed so often in a row that its count would have started over. -/
structure Short (w : Watch) : Prop where
  interface : w.interfaceFailures < UInt32.size
  processors : w.processorFailures < UInt32.size

/-- A count that has not started over is zero exactly if nothing has failed. -/
theorem pos_toUInt32_iff {failures : Nat} (short : failures < UInt32.size) :
    0 < failures.toUInt32 ↔ 0 < failures := by
  rw [UInt32.lt_iff_toNat_lt, UInt32.toNat_ofNat_of_lt' short]
  rfl

/-- What no sampler does leaves the samplers and their report. -/
theorem other_same (a : AtWork) {t : Turn} (other : t.isSampling = false) :
    (a.turn t).session.interfaceSampler = a.session.interfaceSampler ∧
      (a.turn t).session.processorSampler = a.session.processorSampler ∧
      (a.turn t).session.search.health.isSome = a.session.search.health.isSome ∧
      samplerStatus (a.turn t).session.search.health = samplerStatus a.session.search.health := by
  cases t with
  | sampleInterface | sampleProcessors => cases other
  | worker m => exact ⟨rfl, rfl, rfl, rfl⟩
  | control elapsed =>
    simp only [AtWork.turn, Session.control]
    split
    next => exact ⟨rfl, rfl, rfl, rfl⟩
    next => exact ⟨rfl, rfl, rfl, rfl⟩
    next =>
      obtain ⟨hsome, hstatus⟩ := Inference.State.evaluate_status
        (SessionApplier.handler a.session.config.interface) a.session.shared.readings.load elapsed
        a.session.search
      exact ⟨rfl, rfl, hsome, hstatus⟩
  | happen e =>
    obtain ⟨shared, stopping, -, hhappen⟩ := AtWork.happen_eq e a.session
    rw [AtWork.turn, hhappen]
    exact ⟨rfl, rfl, rfl, rfl⟩

theorem turn_other (w : Watch) {t : Turn} (other : t.isSampling = false) :
    w.turn t = { w with work := w.work.turn t } := by
  cases t with
  | sampleInterface | sampleProcessors => cases other
  | worker | control | happen => rfl

/-- A turn keeps count of the failures. -/
theorem turn_counted {w : Watch} (counted : w.Counted) (t : Turn) : (w.turn t).Counted := by
  have hcount (taken : Bool) (failures : Nat) :
      (if taken = true then 0 else failures.toUInt32 + 1) = (inRow taken failures).toUInt32 := by
    cases taken with
    | true => rfl
    | false => exact (UInt32.ofNat_add failures 1).symm
  cases hsampling : t.isSampling with
  | false =>
    obtain ⟨hinterface, hprocessors, hsome, -⟩ := other_same w.work hsampling
    rw [turn_other w hsampling]
    exact ⟨hsome.trans counted.registered, hinterface ▸ counted.interface,
      hprocessors ▸ counted.processors⟩
  | true =>
    cases t with
    | worker | control | happen => cases hsampling
    | sampleInterface now =>
      obtain ⟨hsome, hfailures, -⟩ := w.work.session.interfaceSampler.turn_effect
        w.work.session.shared.files now w.work.session.shared.readings
        w.work.session.shared.metrics counted.registered
      rw [counted.interface, hcount] at hfailures
      exact ⟨hsome, hfailures, counted.processors⟩
    | sampleProcessors now =>
      obtain ⟨hsome, hfailures, -⟩ := w.work.session.processorSampler.turn_effect
        w.work.session.shared.files now w.work.session.shared.readings
        w.work.session.shared.metrics counted.registered
      rw [counted.processors, hcount] at hfailures
      exact ⟨hsome, counted.interface, hfailures⟩

/-- What one sampler's turn does to the report, whichever of the two it is. -/
theorem effect_reported_iff {count : Nat} {other taken : Bool} {failures : UInt32}
    {before after : Option Status} (counted : failures = count.toUInt32)
    (short : count < UInt32.size)
    (effect : after = if taken = true then if 0 < failures then some .healthy else before
      else if failures = 0 then some .degraded else before)
    (reported : decide (0 < count) = true ∨ other = true → before ≠ some .healthy) :
    (decide (0 < inRow taken count) = true ∨ other = true → after ≠ some .healthy) ↔
      ¬(decide (0 < count) = true ∧ other = true ∧ taken = true) := by
  have hcounted : 0 < failures ↔ 0 < count := counted ▸ pos_toUInt32_iff short
  have hrow : decide (0 < inRow taken count) = !taken := by cases taken <;> simp [inRow]
  rw [hrow]
  subst effect
  cases taken with
  | true =>
    by_cases hfailing : 0 < failures
    · simp [hfailing, hcounted.mp hfailing]
    · have hworks : count = 0 := by simpa [hfailing] using hcounted
      simpa [hfailing, hworks] using reported
  | false =>
    by_cases hfirst : failures = 0
    · simp [hfirst]
    · have hfailing := hcounted.mp (UInt32.pos_iff_ne_zero.mpr hfirst)
      simpa [hfirst] using reported (.inl (decide_eq_true hfailing))

/-- **One step.** A turn leaves the part reported unless it masks a failure. -/
theorem turn_reported_iff {w : Watch} (counted : w.Counted) (short : w.Short)
    (reported : w.Reported) (t : Turn) : (w.turn t).Reported ↔ ¬w.Masks t := by
  cases hsampling : t.isSampling with
  | false =>
    obtain ⟨-, -, -, hstatus⟩ := other_same w.work hsampling
    rw [turn_other w hsampling]
    refine iff_of_true (fun h => ?_) ?_
    · rw [status, hstatus]
      exact reported h
    · cases t with
      | sampleInterface | sampleProcessors => cases hsampling
      | worker | control | happen => exact id
  | true =>
    cases t with
    | worker | control | happen => cases hsampling
    | sampleInterface now =>
      obtain ⟨-, -, heffect⟩ := w.work.session.interfaceSampler.turn_effect
        w.work.session.shared.files now w.work.session.shared.readings
        w.work.session.shared.metrics counted.registered
      exact effect_reported_iff counted.interface short.interface heffect reported
    | sampleProcessors now =>
      obtain ⟨-, -, heffect⟩ := w.work.session.processorSampler.turn_effect
        w.work.session.shared.files now w.work.session.shared.readings
        w.work.session.shared.metrics counted.registered
      refine (imp_congr_left or_comm).trans ?_
      exact effect_reported_iff counted.processors short.processors heffect fun h =>
        reported h.symm

/-- A run leaves the part reported at every point exactly if no turn of it masks a failure. -/
theorem after_reported_iff {w : Watch} (counted : w.Counted) (reported : w.Reported)
    {turns : List Turn} (short : ∀ past, past <+: turns → (w.after past).Short) :
    (∀ past, past <+: turns → (w.after past).Reported) ↔
      ∀ past t, past ++ [t] <+: turns → ¬(w.after past).Masks t := by
  induction turns generalizing w with
  | nil =>
    refine iff_of_true (fun past h => ?_) fun past t h => ?_
    · rw [List.prefix_nil.mp h]
      exact reported
    · exact absurd (List.prefix_nil.mp h) (by simp)
  | cons t rest ih =>
    have hstep := turn_reported_iff counted (short [] List.nil_prefix) reported t
    have hshort : ∀ past, past <+: rest → ((w.turn t).after past).Short := fun past h =>
      short (t :: past) (List.cons_prefix_cons.mpr ⟨rfl, h⟩)
    constructor
    · intro h past u hpast
      have hfirst : (w.turn t).Reported := h [t] (List.cons_prefix_cons.mpr ⟨rfl, List.nil_prefix⟩)
      cases past with
      | nil =>
        obtain ⟨rfl, -⟩ := List.cons_prefix_cons.mp hpast
        exact hstep.mp hfirst
      | cons p past =>
        obtain ⟨rfl, hrest⟩ := List.cons_prefix_cons.mp hpast
        refine (ih (turn_counted counted p) hfirst hshort).mp (fun q hq => ?_) past u hrest
        exact h (p :: q) (List.cons_prefix_cons.mpr ⟨rfl, hq⟩)
    · intro h past hpast
      cases past with
      | nil => exact reported
      | cons p past =>
        obtain ⟨rfl, hrest⟩ := List.cons_prefix_cons.mp hpast
        have hnone : ¬w.Masks p := h [] p (List.cons_prefix_cons.mpr ⟨rfl, List.nil_prefix⟩)
        have hreported := hstep.mpr hnone
        refine (ih (turn_counted counted p) hreported hshort).mpr (fun q u hq => ?_) past hrest
        exact h (p :: q) u (List.cons_prefix_cons.mpr ⟨rfl, hq⟩)

/-- A session of which no source has been read yet. -/
def start (streams : List Random.Draws) (s : Session) : Watch where
  work := .start streams s

/-- A session that has been put together reports its health, and has counted no failure. -/
theorem start_counted {config : SessionConfig} {settings : Settings} {table : Table}
    {files : FileTree} {shell : Shell} {health : Health} {s : Session}
    (opened : withParts config settings table files shell health = .ok s)
    (streams : List Random.Draws) : (start streams s).Counted := by
  obtain ⟨-, rfl⟩ := withParts_ok_iff.mp opened
  exact ⟨rfl, rfl, rfl⟩

/-- In a run a source fails no more often than turns are taken. -/
theorem after_failures_le (w : Watch) (turns : List Turn) :
    (w.after turns).interfaceFailures ≤ w.interfaceFailures + turns.length ∧
      (w.after turns).processorFailures ≤ w.processorFailures + turns.length := by
  have hrow (taken : Bool) (failures : Nat) : inRow taken failures ≤ failures + 1 := by
    cases taken <;> simp [inRow]
  have hstep (w : Watch) (t : Turn) :
      (w.turn t).interfaceFailures ≤ w.interfaceFailures + 1 ∧
        (w.turn t).processorFailures ≤ w.processorFailures + 1 := by
    cases t with
    | sampleInterface => exact ⟨hrow _ _, Nat.le_succ _⟩
    | sampleProcessors => exact ⟨Nat.le_succ _, hrow _ _⟩
    | worker | control | happen => exact ⟨Nat.le_succ _, Nat.le_succ _⟩
  induction turns generalizing w with
  | nil => exact ⟨Nat.le_refl _, Nat.le_refl _⟩
  | cons t rest ih =>
    obtain ⟨hinterface, hprocessors⟩ := ih (w.turn t)
    obtain ⟨hinterface', hprocessors'⟩ := hstep w t
    rw [List.length_cons]
    exact ⟨hinterface.trans (by omega), hprocessors.trans (by omega)⟩

/-- A run of fewer turns than a word counts does not make a count start over. -/
theorem short_of_length (streams : List Random.Draws) (s : Session) {turns : List Turn}
    (few : turns.length < UInt32.size) :
    ∀ past, past <+: turns → ((start streams s).after past).Short := by
  intro past hpast
  obtain ⟨hinterface, hprocessors⟩ := after_failures_le (start streams s) past
  have hfew := hpast.length_le.trans_lt few
  exact ⟨by simpa [start] using hinterface.trans_lt (by simpa [start] using hfew),
    by simpa [start] using hprocessors.trans_lt (by simpa [start] using hfew)⟩

/-- **When the samplers report what they should.** However the turns of a session interleave, and
whichever readings fail, as long as no source fails so often in a row that its count starts over:
after each turn the part that samples is not called healthy while the last reading of a source
failed, exactly if no turn of the run finds one source working again while the last reading of the
other one failed. -/
theorem samplers_report_iff {config : SessionConfig} {settings : Settings} {table : Table}
    {files : FileTree} {shell : Shell} {health : Health} {s : Session}
    (opened : withParts config settings table files shell health = .ok s)
    (streams : List Random.Draws) (turns : List Turn)
    (short : ∀ past, past <+: turns → ((start streams s).after past).Short) :
    (∀ past, past <+: turns → ((start streams s).after past).Reported) ↔
      ∀ past t, past ++ [t] <+: turns → ¬((start streams s).after past).Masks t :=
  after_reported_iff (start_counted opened streams)
    (fun h => by simp [start, interfaceFailed, processorsFailed] at h) short

/-- Neither source can be read at first; then the file of the processors is there. -/
def recovery : List Turn :=
  [.sampleInterface 0, .sampleProcessors 0,
    .happen { changes := [("proc/stat", some (.file (.text "cpu 1 2 3 4\n")))] },
    .sampleInterface 1000000000, .sampleProcessors 1000000000]

/-- One recovery keeps the other failure from being reported. -/
theorem recovery_unreported :
    ∃ s, withParts {} {} {} {} {} {} = .ok s ∧
      ¬∀ past, past <+: recovery → ((start [] s).after past).Reported := by
  have opened : withParts {} {} {} {} {} {} = .ok _ := rfl
  refine ⟨_, opened, fun h => ?_⟩
  have hfew : recovery.length < UInt32.size := by decide
  have hmasks := (samplers_report_iff opened [] recovery (short_of_length [] _ hfew)).mp h
    (recovery.take 4) (.sampleProcessors 1000000000) (List.prefix_refl recovery)
  exact hmasks ⟨by decide +kernel, by decide +kernel, by decide +kernel⟩

/-- The processors work again, and the part is called healthy although no counter of the interface
has ever been read. -/
theorem recovery_masks :
    ∃ s, withParts {} {} {} {} {} {} = .ok s ∧
      ((start [] s).after recovery).interfaceFailed = true ∧
      ((start [] s).after recovery).status = some .healthy :=
  ⟨_, rfl, by decide +kernel, by decide +kernel⟩

end Watch

end Session

end NetworkTuning
