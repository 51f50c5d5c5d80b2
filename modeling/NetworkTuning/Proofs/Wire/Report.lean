import Mathlib.Data.List.Basic
import NetworkTuning.Proofs.Wire.Record
import NetworkTuning.Wire.Report

/-!
# Reports that were written are read again

Reports, outcomes and health are read again whatever texts they hold and whatever is missing in
them. Their counts have to be words and their rates finite, as a document can hold no others
(`Writable`), and the parts of a health report have to go by different names.
-/

namespace NetworkTuning

open Json

theorem Json.count?_ofNat {n : Nat} (word : n < UInt64.size) : (ofNat n).count? = some n :=
  below?_int word

/-- A word that may be absent is read again. -/
theorem Json.optional?_ofMark (n : Option UInt64) :
    (Json.Field.given (ofMark n)).optional? word64? = some n :=
  nullable?_ofOption (fun _ => Json.noConfusion) fun m _ => word64?_int m

/-! ## Labels and modes -/

theorem Geography.named?_name (g : Geography) : named? named (.text g.name) = some g := by
  cases g <;> rfl

theorem Business.named?_name (b : Business) : named? named (.text b.name) = some b := by
  cases b <;> rfl

theorem Goal.named?_name (g : Goal) : named? named (.text g.name) = some g := by
  cases g <;> rfl

/-- Labels that were written are read again, also those that are absent. -/
theorem Labels.ofJson?_toJson (l : Labels) : ofJson? l.toJson = some l := by
  have hfields : l.toJson.fields? ["geography", "business", "optimize_for"] =
      some [Field.ofMember (l.geography.map fun g => .text g.name),
        Field.ofMember (l.business.map fun b => .text b.name),
        Field.ofMember (l.goal.map fun g => .text g.name)] :=
    fields?_ofMembers rfl (by decide)
  have hgeography := Field.withDefault?_ofMember (fun _ => Json.noConfusion)
    (fun g (_ : g ∈ l.geography) => g.named?_name)
  have hbusiness := Field.withDefault?_ofMember (fun _ => Json.noConfusion)
    (fun b (_ : b ∈ l.business) => b.named?_name)
  have hgoal := Field.withDefault?_ofMember (fun _ => Json.noConfusion)
    (fun g (_ : g ∈ l.goal) => g.named?_name)
  rw [ofJson?, hfields]
  simp only [Option.bind_eq_bind, Option.bind_some, hgeography, hbusiness, hgoal]

/-- A mode that was written is read again. -/
theorem Mode.ofJson?_toJson (m : Mode) : ofJson? m.toJson = some m := by
  cases m <;> rfl

/-! ## Reports of a session -/

namespace Inference.Report

/-- Whether the counts are words and the rate is finite. -/
structure Writable (r : Report) : Prop where
  loops : r.loops < UInt64.size
  hits : r.hits < UInt64.size
  rate : r.successRate.isFinite = true

/-- A report of searches is read from its fields. -/
theorem ofJson?_of_fields {x loops hits rate : Json} {least most : Field} {r : Report}
    (fields : x.fields? ["loops", "matches", "success_rate", "min_transfer_rate",
      "max_transfer_rate"] = some [.given loops, .given hits, .given rate, least, most])
    (loopsRead : loops.count? = some r.loops) (hitsRead : hits.count? = some r.hits)
    (rateRead : rate.real? = some r.successRate)
    (leastRead : least.optional? word64? = some r.least)
    (mostRead : most.optional? word64? = some r.most) : ofJson? x = some r := by
  rw [ofJson?, fields]
  simp [Field.required?, loopsRead, hitsRead, rateRead, leastRead, mostRead]

/-- A report of searches that was written is read again. -/
theorem ofJson?_toJson {r : Report} (writable : r.Writable) : ofJson? r.toJson = some r :=
  ofJson?_of_fields (fields?_object rfl (by decide)) (count?_ofNat writable.loops)
    (count?_ofNat writable.hits) (real?_ofFloat writable.rate) (optional?_ofMark r.least)
    (optional?_ofMark r.most)

end Inference.Report

namespace PluginReport

/-- Whether the counts are words, and a report of searches can be written. -/
structure Writable (r : PluginReport) : Prop where
  entries : r.entries < UInt64.size
  capacity : r.capacity < UInt64.size
  inference : ∀ i ∈ r.inference, i.Writable

/-- A plugin's report is read from its fields. -/
theorem ofJson?_of_fields {x name version entries capacity : Json} {inference : Field}
    {r : PluginReport}
    (fields : x.fields? ["name", "version", "entries", "capacity", "inference"] =
      some [.given name, .given version, .given entries, .given capacity, inference])
    (nameRead : name.text? = some r.name) (versionRead : version.text? = some r.version)
    (entriesRead : entries.count? = some r.entries)
    (capacityRead : capacity.count? = some r.capacity)
    (inferenceRead : inference.optional? Inference.Report.ofJson? = some r.inference) :
    ofJson? x = some r := by
  rw [ofJson?, fields]
  simp [Field.required?, nameRead, versionRead, entriesRead, capacityRead, inferenceRead]

/-- A plugin's report that was written is read again. -/
theorem ofJson?_toJson {r : PluginReport} (writable : r.Writable) : ofJson? r.toJson = some r :=
  ofJson?_of_fields (fields?_ofMembers rfl (by decide)) (text?_text r.name) (text?_text r.version)
    (count?_ofNat writable.entries) (count?_ofNat writable.capacity)
    (Field.optional?_ofMember (fun _ => Json.noConfusion)
      fun i hi => Inference.Report.ofJson?_toJson (writable.inference i hi))

end PluginReport

namespace SessionReport

/-- Whether every plugin's report can be written. -/
def Writable (r : SessionReport) : Prop := ∀ p ∈ r.plugins, p.Writable

/-- A session's report that was written is read again. -/
theorem ofJson?_toJson {r : SessionReport} (writable : r.Writable) :
    ofJson? r.toJson = some r := by
  have hfields : r.toJson.fields? ["mode", "interface", "labels", "plugins"] =
      some [.given r.mode.toJson, .given (.text r.interface), .given r.labels.toJson,
        .given (.list (r.plugins.map PluginReport.toJson))] :=
    fields?_object rfl (by decide)
  have hplugins := list?_map fun p hp => PluginReport.ofJson?_toJson (writable p hp)
  rw [ofJson?, hfields]
  simp only [Option.bind_eq_bind, Option.bind_some, Field.required?, Mode.ofJson?_toJson,
    text?_text, Labels.ofJson?_toJson, hplugins]

end SessionReport

/-! ## Outcomes -/

namespace Outcome

/-- Whether the counts are words. -/
def Writable : Outcome → Prop
  | executed commands failed => commands < UInt64.size ∧ failed < UInt64.size
  | dryRun commands => commands < UInt64.size
  | refused _ => True

theorem ofFields?_executed {x first second : Json} {commands failed : Nat}
    (fields : x.fields? ["commands", "failed"] = some [.given first, .given second])
    (commandsRead : first.count? = some commands) (failedRead : second.count? = some failed) :
    ofFields? "executed" x = some (executed commands failed) := by
  rw [ofFields?, if_pos rfl, fields]
  simp [Field.required?, commandsRead, failedRead]

theorem ofFields?_dryRun {x first : Json} {commands : Nat}
    (fields : x.fields? ["commands"] = some [.given first])
    (commandsRead : first.count? = some commands) :
    ofFields? "dry_run" x = some (dryRun commands) := by
  rw [ofFields?, if_neg (by decide), if_pos rfl, fields]
  simp [Field.required?, commandsRead]

theorem ofFields?_refused {x : Json} {reason : String}
    (fields : x.fields? ["reason"] = some [.given (.text reason)]) :
    ofFields? "refused" x = some (refused reason) := by
  rw [ofFields?, if_neg (by decide), if_neg (by decide), if_pos rfl, fields]
  rfl

/-- An object that begins with its kind is read as one of that kind. -/
theorem ofJson?_of_kind {kind : String} {members : List (String × Json)}
    (others : ∀ m ∈ members, m.1 ≠ "kind")
    (sound : (Json.object (("kind", .text kind) :: members)).isSound levelLimit = true) :
    ofJson? (.object (("kind", .text kind) :: members)) = ofFields? kind (.object members) := by
  have hkinds : (("kind", Json.text kind) :: members).filter (fun m => m.1 = "kind") =
      [("kind", .text kind)] := by
    rw [List.filter_cons_of_pos (by rfl), List.filter_eq_nil_iff.mpr]
    intro m hm hkind
    exact others m hm (of_decide_eq_true hkind)
  have hmembers : (("kind", Json.text kind) :: members).filter (fun m => m.1 ≠ "kind") =
      members := by
    rw [List.filter_cons_of_neg (by simp), List.filter_eq_self.mpr]
    intro m hm
    exact decide_eq_true (others m hm)
  rw [ofJson?, hkinds, hmembers]
  exact if_pos sound

/-- An outcome that was written is read again: its kind says what its fields are. -/
theorem ofJson?_toJson {o : Outcome} (writable : o.Writable) : ofJson? o.toJson = some o := by
  cases o with
  | executed commands failed =>
    obtain ⟨hcommands, hfailed⟩ := writable
    rw [toJson, ofJson?_of_kind (by simp) rfl]
    exact ofFields?_executed (fields?_object rfl (by decide)) (count?_ofNat hcommands)
      (count?_ofNat hfailed)
  | dryRun commands =>
    rw [toJson, ofJson?_of_kind (by simp) rfl]
    exact ofFields?_dryRun (fields?_object rfl (by decide)) (count?_ofNat writable)
  | refused reason =>
    rw [toJson, ofJson?_of_kind (by simp) rfl]
    exact ofFields?_refused (fields?_object rfl (by decide))

end Outcome

/-! ## Health -/

theorem Status.ofJson?_toJson (s : Status) : ofJson? s.toJson = some s := by
  cases s <;> rfl

namespace ComponentHealth

/-- Whether the time of the report is within the range of seconds. -/
def Writable (c : ComponentHealth) : Prop :=
  -(Decimal.signed64Size : Int) ≤ c.checkedAt ∧ c.checkedAt < Decimal.signed64Size

/-- A part's report that was written is read again. -/
theorem ofJson?_toJson {c : ComponentHealth} (writable : c.Writable) :
    ofJson? c.toJson = some c := by
  have hfields : c.toJson.fields? ["status", "message", "last_check_timestamp"] =
      some [.given c.status.toJson, Field.ofMember (c.message.map Json.text),
        .given (.int c.checkedAt)] :=
    fields?_ofMembers rfl (by decide)
  have hmessage := Field.optional?_ofMember (fun _ => Json.noConfusion)
    (fun s (_ : s ∈ c.message) => text?_text s)
  have hchecked : (Json.int c.checkedAt).signed64? = some c.checkedAt := if_pos writable
  rw [ofJson?, hfields]
  simp only [Option.bind_eq_bind, Option.bind_some, Field.required?, Status.ofJson?_toJson,
    hmessage, hchecked]

end ComponentHealth

namespace HealthReport

/-- Whether the parts go by different names, and each of their reports can be written. -/
structure Writable (r : HealthReport) : Prop where
  distinct : (r.components.map Prod.fst).Nodup
  components : ∀ c ∈ r.components, c.2.Writable

/-- Of reports of different names all are kept, in their order. -/
theorem kept_of_distinct {kept rest : List (String × ComponentHealth)}
    (distinct : ((kept ++ rest).map Prod.fst).Nodup) :
    rest.foldl (fun kept c => kept.filter (fun k => k.1 ≠ c.1) ++ [c]) kept = kept ++ rest := by
  induction rest generalizing kept with
  | nil => rw [List.foldl_nil, List.append_nil]
  | cons c rest ih =>
    have hothers : kept.filter (fun k => k.1 ≠ c.1) = kept := by
      refine List.filter_eq_self.mpr fun k hk => decide_eq_true fun hname => ?_
      rw [List.map_append, List.map_cons] at distinct
      exact List.disjoint_of_nodup_append distinct (List.mem_map_of_mem hk)
        (hname ▸ List.mem_cons_self)
    rw [List.foldl_cons, hothers, ih (by rwa [List.append_assoc]), List.append_assoc]
    rfl

/-- The parts' reports that were written are read again. -/
theorem componentsOfJson?_toJson {components : List (String × ComponentHealth)}
    (distinct : (components.map Prod.fst).Nodup) (writable : ∀ c ∈ components, c.2.Writable) :
    componentsOfJson? (componentsToJson components) = some components := by
  have hread : (components.map fun c => (c.1, c.2.toJson)).mapM
      (fun m => (ComponentHealth.ofJson? m.2).map fun c => (m.1, c)) = some components :=
    mapM_written fun c hc => by rw [ComponentHealth.ofJson?_toJson (writable c hc), Option.map_some]
  rw [componentsToJson, componentsOfJson?, hread]
  exact congrArg some (kept_of_distinct distinct)

/-- An overall report that was written is read again. -/
theorem ofJson?_toJson {r : HealthReport} (writable : r.Writable) : ofJson? r.toJson = some r := by
  have hfields : r.toJson.fields? ["status", "components"] =
      some [.given r.status.toJson, .given (componentsToJson r.components)] :=
    fields?_object rfl (by decide)
  rw [ofJson?, hfields]
  simp only [Option.bind_eq_bind, Option.bind_some, Field.required?, Status.ofJson?_toJson,
    componentsOfJson?_toJson writable.distinct writable.components]

end HealthReport

end NetworkTuning
