import NetworkTuning.Proofs.Double.Quotient
import NetworkTuning.Proofs.Session.Applier
import NetworkTuning.Proofs.Wire.Profile
import NetworkTuning.Proofs.Wire.Report
import NetworkTuning.Web.Client
import NetworkTuning.Web.Router

/-!
# Asking an agent that answers

What an agent writes of its session and of its health can be written: the rate of matches is finite
(`report_rate_finite`), and the parts of a registry go by different names, however the registry came
about (`Health.Reached.sound`), which a session at work only continues
(`Session.AtWork.after_reached`). A request for a resource of the agent is answered with a document
(`query_serving`), and whoever asked reads just what the agent has written (`agent_is_read`).
-/

namespace NetworkTuning

/-! ## What a session reports -/

theorem Double.upTo_hundred : Double.UpTo 100.0 7 := by
  have hword : (((100 : UInt64).toNat : ℕ) : ℝ) ≤ (2 ^ 7 : ℕ) := by
    exact_mod_cast (by decide : (100 : UInt64).toNat ≤ 2 ^ 7)
  have h : Double.UpTo (100 : UInt64).toFloat 7 :=
    ⟨_, Double.means_toFloat 100, Double.nearest_nonneg (Nat.cast_nonneg _),
      (Double.nearest_mono hword).trans_eq (Double.nearest_two_pow 7)⟩
  rwa [show (100.0 : Float) = (100 : UInt64).toFloat by decide +kernel]

/-- The share of searches that found a profile is finite, as long as their number is a word. -/
theorem Inference.Counters.report_rate_finite {c : Counters} (word : c.loops < UInt64.size)
    (marks : Watermarks) : (c.report marks).successRate.isFinite = true := by
  unfold report
  dsimp only
  split
  next => decide +kernel
  next hsome =>
    have hloops : c.loops.toUInt64.toNat = c.loops := UInt64.toNat_ofNat_of_lt' word
    have hone : (1 : ℝ) ≤ Double.nearest (c.loops.toUInt64.toNat : ℕ) := by
      have hleast : ((2 ^ 0 : ℕ) : ℝ) ≤ (c.loops.toUInt64.toNat : ℕ) := by
        rw [hloops]
        exact_mod_cast Nat.one_le_iff_ne_zero.mpr hsome
      calc (1 : ℝ) = ((2 ^ 0 : ℕ) : ℝ) := by norm_num
        _ = Double.nearest (2 ^ 0 : ℕ) := (Double.nearest_two_pow 0).symm
        _ ≤ Double.nearest (c.loops.toUInt64.toNat : ℕ) := Double.nearest_mono hleast
    have hshare := (Double.upTo_toFloat c.hits.toUInt64).div
      (Double.means_toFloat c.loops.toUInt64) hone (by norm_num)
    exact (hshare.mul Double.upTo_hundred (by norm_num)).isFinite

/-- Whether the numbers that a session reports are words, as the agent counts them. -/
structure Session.CountsWords (s : Session) : Prop where
  loops : s.search.controller.counters.loops < UInt64.size
  hits : s.search.controller.counters.hits < UInt64.size
  entries : s.shared.table.size < UInt64.size
  capacity : s.shared.table.capacity < UInt64.size

/-- What a session reports can be written. -/
theorem Session.report_writable {s : Session} (words : s.CountsWords) : s.report.Writable := by
  intro p hp
  obtain rfl := List.mem_singleton.mp hp
  refine ⟨words.entries, words.capacity, fun i hi => ?_⟩
  obtain rfl := Option.mem_some.mp hi
  exact ⟨words.loops, words.hits, Inference.Counters.report_rate_finite words.loops _⟩

/-! ## Registries -/

/-- How a registry comes about: it is empty at first, time passes, the agent is marked ready, and a
part reports at the time that it is. -/
inductive Health.Reached : Health → Prop
  | fresh {now : Int} (inRange : (⟨.healthy, none, now⟩ : ComponentHealth).Writable) :
      Reached { now }
  | clock {h : Health} {now : Int} (before : Reached h)
      (inRange : (⟨.healthy, none, now⟩ : ComponentHealth).Writable) : Reached { h with now }
  | ready {h : Health} (before : Reached h) : Reached { h with ready := true }
  | report {h : Health} (before : Reached h) (name : String) (status : Status)
      (message : Option String) : Reached (h.update name ⟨status, message, h.now⟩)

namespace Health

/-- The parts go by different names, and every report is of a time within range. -/
structure Sound (h : Health) : Prop where
  report : h.report.Writable
  inRange : (⟨.healthy, none, h.now⟩ : ComponentHealth).Writable

/-- A report takes the place of the last one of its name. -/
theorem Sound.update {h : Health} (sound : h.Sound) (name : String) {c : ComponentHealth}
    (writable : c.Writable) : (h.update name c).Sound := by
  obtain ⟨⟨hdistinct, hcomponents⟩, hnow⟩ := sound
  unfold Health.update
  split
  next hany =>
    refine ⟨⟨?_, fun entry hentry => ?_⟩, hnow⟩
    · have hnames : (h.components.map fun e => if e.1 = name then (name, c) else e).map Prod.fst =
          h.components.map Prod.fst := by
        rw [List.map_map]
        refine List.map_congr_left fun e _ => ?_
        by_cases he : e.1 = name
        · simp [he]
        · simp [he]
      exact hnames ▸ hdistinct
    · obtain ⟨e, he, rfl⟩ := List.mem_map.mp hentry
      split
      next => exact writable
      next => exact hcomponents e he
  next hnone =>
    refine ⟨⟨?_, fun entry hentry => ?_⟩, hnow⟩
    · have hnew : name ∉ h.components.map Prod.fst := by
        intro hname
        obtain ⟨e, he, hsame⟩ := List.mem_map.mp hname
        exact hnone (List.any_eq_true.mpr ⟨e, he, decide_eq_true hsame⟩)
      show ((h.components ++ [(name, c)]).map Prod.fst).Nodup
      rw [List.map_append, List.nodup_append_comm]
      exact List.nodup_cons.mpr ⟨hnew, hdistinct⟩
    · rcases List.mem_append.mp hentry with he | he
      · exact hcomponents entry he
      · obtain rfl := List.mem_singleton.mp he
        exact writable

/-- However a registry comes about, its report can be written. -/
theorem Reached.sound {h : Health} (reached : h.Reached) : h.Sound := by
  induction reached with
  | fresh inRange => exact ⟨⟨List.nodup_nil, fun c hc => by cases hc⟩, inRange⟩
  | clock _ inRange ih => exact ⟨ih.report, inRange⟩
  | ready _ ih => exact ⟨ih.report, ih.inRange⟩
  | report _ name status message ih => exact ih.update name ih.inRange

theorem Reached.noteAnswer {h : Health} (reached : h.Reached) (answer : Except String Outcome) :
    (h.noteAnswer answer).Reached := by
  cases answer with
  | ok outcome => exact reached.report applierPart .healthy none
  | error message => exact reached.report applierPart .degraded (some message)

end Health

/-! ## The registry of a session -/

/-- A sampler's turn reports to the registry or leaves it. -/
theorem Sampler.turn_reached {health : Option Health} (reached : ∃ h ∈ health, h.Reached)
    (s : Sampler) (files : FileTree) (now : Nanoseconds) (r : Readings) (m : Metrics) :
    ∃ h ∈ (s.turn files now r m health).2.2.2, h.Reached := by
  obtain ⟨h, rfl, hreached⟩ := reached
  unfold turn record
  rcases s.tick files now r m with ⟨ticked, r', m', taken⟩
  cases taken with
  | true =>
    by_cases hfailing : 0 < ticked.failures
    · simp only [if_true, if_pos hfailing, Option.map_some]
      exact ⟨_, rfl, hreached.report samplerPart .healthy none⟩
    · simp only [if_true, if_neg hfailing]
      exact ⟨h, rfl, hreached⟩
  | false =>
    by_cases hfirst : ticked.failures = 0
    · simp only [Bool.false_eq_true, if_false, if_pos hfirst, Option.map_some]
      exact ⟨_, rfl, hreached.report samplerPart .degraded (some _)⟩
    · simp only [Bool.false_eq_true, if_false, if_neg hfirst]
      exact ⟨h, rfl, hreached⟩

/-- So does a tick of the searches. -/
theorem Inference.State.evaluate_reached {σ : Type} {s : State σ}
    (reached : ∃ h ∈ s.health, h.Reached) (handle : Handler σ) (load : Load)
    (elapsed : Nanoseconds) : ∃ h ∈ (s.evaluate handle load elapsed).2.health, h.Reached := by
  rcases s.evaluate_report handle load elapsed with ⟨-, hsame⟩ | ⟨index, p, -, -, hhealth⟩
  · rw [hsame]
    exact reached
  · obtain ⟨h, hh, hreached⟩ := reached
    rw [hhealth, hh]
    exact ⟨_, rfl, hreached.noteAnswer _⟩

namespace Session.AtWork

/-- **One step.** A turn reports to the registry of the session or leaves it. -/
theorem turn_reached {a : AtWork} (reached : ∃ h ∈ a.session.search.health, h.Reached)
    (t : Turn) : ∃ h ∈ (a.turn t).session.search.health, h.Reached := by
  cases t with
  | worker m => exact reached
  | sampleInterface now => exact a.session.interfaceSampler.turn_reached reached _ now _ _
  | sampleProcessors now => exact a.session.processorSampler.turn_reached reached _ now _ _
  | happen e =>
    obtain ⟨shared, stopping, -, hhappen⟩ := happen_eq e a.session
    rw [AtWork.turn, hhappen]
    exact reached
  | control elapsed =>
    simp only [AtWork.turn, Session.control]
    split
    next => exact reached
    next => exact reached
    next => exact a.session.search.evaluate_reached reached _ _ elapsed

/-- **A run** of a session leaves a registry that has come about by reports. -/
theorem after_reached {config : SessionConfig} {settings : Settings} {table : Table}
    {files : FileTree} {shell : Shell} {health : Health} {s : Session}
    (opened : withParts config settings table files shell health = .ok s)
    (reached : health.Reached) (streams : List Random.Draws) (turns : List Turn) :
    ((start streams s).after turns).session.health.Reached := by
  have hstart : ∃ h ∈ (start streams s).session.search.health, h.Reached := by
    obtain ⟨-, rfl⟩ := withParts_ok_iff.mp opened
    exact ⟨_, rfl, reached.report tablePart .healthy none⟩
  generalize start streams s = a at hstart ⊢
  induction turns generalizing a with
  | nil =>
    obtain ⟨h, hh, hreached⟩ := hstart
    rw [after, List.foldl_nil, Session.health, hh]
    exact hreached
  | cons t rest ih => exact ih (a.turn t) (turn_reached hstart t)

end Session.AtWork

/-! ## Requests -/

namespace Web

/-- What a request for an address asks for. -/
def Address.target (a : Address) : String :=
  match a.path with
  | .solid text => text
  | .steps names => String.join (names.map fun name => "/" ++ name)

/-- A reply as it is received. -/
def Reply.received (r : Reply) : Answer := ⟨r.status, r.body.text⟩

/-- A network in which an agent answers every request. -/
def serving (agent : Agent) : Transport := fun address =>
  .ok (agent.respond "GET" address.target).received

/-- Whether an endpoint is a host of the web, without a path or with one step of a path. -/
structure IsHost (endpoint : String) (address : Address) : Prop where
  parsed : Address.ofText endpoint = .ok address
  scheme : address.scheme = "http" ∨ address.scheme = "https"
  root : ∃ step, address.path = .steps [step]

variable {endpoint : String} {address : Address}

/-- The resource of a name is asked for at the root of the host. -/
theorem sibling_target (host : IsHost endpoint address) (name : String) :
    ∃ target, address.sibling? name = some target ∧ refusal? target = none ∧
      target.target = "/" ++ name := by
  obtain ⟨-, hscheme, step, hpath⟩ := host
  have hfile : address.scheme ≠ "file" := by
    rcases hscheme with h | h <;> rw [h] <;> decide
  refine ⟨{ address with path := .steps [name] }, ?_, if_pos hscheme, ?_⟩
  · simp [Address.sibling?, hpath, hfile]
  · simp [Address.target, String.join]

/-- A query at a host is answered by the agent that serves it. -/
theorem query_serving {α : Type} (host : IsHost endpoint address) (agent : Agent) (name : String)
    (accepted : List Nat) (decode : Json → Option α) :
    query (serving agent) endpoint name accepted decode =
      (agent.respond "GET" ("/" ++ name)).received.value accepted decode := by
  obtain ⟨target, hsibling, hrefusal, htarget⟩ := sibling_target host name
  rw [← htarget]
  simp only [query, host.parsed, Except.mapError, bind, Except.bind, hsibling, hrefusal, serving]

/-- A document whose text is read as the document is decoded. -/
theorem value_ofJson {α : Type} {status : Nat} {accepted : List Nat} {decode : Json → Option α}
    {x : Json} {a : α} (welcome : (200 ≤ status ∧ status < 300) ∨ status ∈ accepted)
    (read : Json.read? x.compact = some x) (decoded : decode x = some a) :
    (Reply.ofJson status x).received.value accepted decode = .ok a := by
  have hbody : (Reply.ofJson status x).received.body = x.compact := rfl
  rw [Answer.value, hbody, read, Option.bind_some, decoded]
  exact if_pos welcome

/-- **An agent is read as it is.** What is written of a profile, of its switches, of a load, of
weights, labels, reports, outcomes and health is read as it was, whatever is missing in it and
whatever texts it holds, as long as reals are finite, counts and times are words, and parts go by
different names. So whoever asks an agent for its report, or for its health, gets just what the
agent has of its session and of its registry, whatever state these are in, provided that the text of
the document it sends is read as that document. Health is got from an unhealthy agent too, which
answers with an error status. -/
theorem agent_is_read :
    (∀ p : Profile, p.cpuUsage.isFinite = true → Profile.ofJson? p.toJson = some p) ∧
    (∀ o : Offloads, Offloads.ofJson? o.toJson = some o) ∧
    (∀ l : Load, l.cpuUsage.isFinite = true → Load.ofJson? l.toJson = some l) ∧
    (∀ w : Weights, w.Finite → Weights.ofJson? w.toJson = some w) ∧
    (∀ l : Labels, Labels.ofJson? l.toJson = some l) ∧
    (∀ r : Inference.Report, r.Writable → Inference.Report.ofJson? r.toJson = some r) ∧
    (∀ r : PluginReport, r.Writable → PluginReport.ofJson? r.toJson = some r) ∧
    (∀ r : SessionReport, r.Writable → SessionReport.ofJson? r.toJson = some r) ∧
    (∀ o : Outcome, o.Writable → Outcome.ofJson? o.toJson = some o) ∧
    (∀ r : HealthReport, r.Writable → HealthReport.ofJson? r.toJson = some r) ∧
    ∀ (s : Session) (h : Health) (metrics : Metrics) (endpoint : String) (address : Address),
      s.CountsWords → h.Reached → IsHost endpoint address →
        let agent : Agent := ⟨h, metrics, some s.report⟩
        (Json.read? s.report.toJson.compact = some s.report.toJson →
          askReport (serving agent) endpoint = .ok s.report) ∧
        (Json.read? h.report.toJson.compact = some h.report.toJson →
          askHealth (serving agent) endpoint = .ok h.report) ∧
        (agent.respond "GET" "/healthz").status =
          if h.report.status = .unhealthy then 503 else 200 := by
  refine ⟨fun _ => Profile.ofJson?_toJson, Offloads.ofJson?_toJson, fun _ => Load.ofJson?_toJson,
    fun _ => Weights.ofJson?_toJson, Labels.ofJson?_toJson,
    fun _ => Inference.Report.ofJson?_toJson, fun _ => PluginReport.ofJson?_toJson,
    fun _ => SessionReport.ofJson?_toJson, fun _ => Outcome.ofJson?_toJson,
    fun _ => HealthReport.ofJson?_toJson, ?_⟩
  intro s h metrics endpoint address words reached host agent
  have hreport : agent.respond "GET" "/report" = .ofJson 200 s.report.toJson := rfl
  have hhealth : agent.respond "GET" "/healthz" =
      .ofJson (if h.report.status.isOperational then 200 else 503) h.report.toJson := rfl
  refine ⟨fun hread => ?_, fun hread => ?_, ?_⟩
  · rw [askReport, query_serving host]
    exact hreport ▸ value_ofJson (.inl (by decide)) hread
      (SessionReport.ofJson?_toJson (Session.report_writable words))
  · have hstatus : (200 ≤ (if h.report.status.isOperational then 200 else 503) ∧
        (if h.report.status.isOperational then 200 else 503) < 300) ∨
          (if h.report.status.isOperational then 200 else 503) ∈ [503] := by
      cases h.report.status.isOperational <;> decide
    rw [askHealth, query_serving host]
    exact hhealth ▸ value_ofJson hstatus hread (HealthReport.ofJson?_toJson reached.sound.report)
  · rw [hhealth]
    show (if h.report.status.isOperational then 200 else 503) = _
    cases h.report.status <;> rfl

/-- An agent that has lost its table answers with an error status, and its health is read. -/
theorem lost_table_is_read :
    let s : Session :=
      { config := {}
        search := { controller := { applier := ({}, {}) }, shared := { settings := default } }
        interfaceSampler := ⟨.interface "net/eth0" none, 0⟩
        processorSampler := ⟨.processors "proc/stat" none, 0⟩ }
    let h : Health := ({ ready := true } : Health).setUnhealthy tablePart "Table is lost"
    let agent : Agent := ⟨h, {}, some s.report⟩
    SessionReport.ofJson? s.report.toJson = some s.report ∧
      askHealth (serving agent) "http://[::1]:9100" = .ok h.report ∧
      (agent.respond "GET" "/healthz").status = 503 := by
  intro s h agent
  have hwords : s.CountsWords := ⟨by decide, by decide, by decide, by decide⟩
  have hreached : h.Reached := .report (.ready (.fresh ⟨by decide, by decide⟩)) tablePart _ _
  have hhost : IsHost "http://[::1]:9100"
      { scheme := "http", host := some (.long [0, 0, 0, 0, 0, 0, 0, 1]), port := some 9100,
        path := .steps [""] } :=
    ⟨by decide +kernel, .inl rfl, "", rfl⟩
  have hread : Json.read? h.report.toJson.compact = some h.report.toJson := by cbv
  obtain ⟨-, -, -, -, -, -, -, hsession, -, -, hexchange⟩ := agent_is_read
  obtain ⟨-, hhealth, hstatus⟩ := hexchange s h {} _ _ hwords hreached hhost
  exact ⟨hsession _ (Session.report_writable hwords), hhealth hread, hstatus⟩

end Web

end NetworkTuning
