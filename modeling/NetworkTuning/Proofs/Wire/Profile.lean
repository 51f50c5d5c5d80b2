import NetworkTuning.Proofs.Wire.Record
import NetworkTuning.Wire.Profile

/-!
# Profiles, loads and weights that were written are read again

A profile is read field by field into an empty one, and each field brings the columns that were
written for it (`ProfileField.ofJson?_toJson`). So the fields together bring a copy of the profile
(`Profile.readFields_written`), which is the profile itself: no column and no switch is left out
(`Profile.copied_eq`). Nothing is lost as long as the reals are finite, for others have no spelling.
-/

namespace NetworkTuning

open Json

/-! ## Switches -/

/-- Switches that were written are read again. -/
theorem Offloads.ofJson?_toJson (o : Offloads) : ofJson? o.toJson = some o := by
  have hfields : o.toJson.fields? ((named {}).map Prod.fst) =
      some ((o.named.map fun s => (s.1, Json.bool s.2)).map fun m => .given m.2) :=
    fields?_object rfl (by decide)
  rw [ofJson?, hfields]
  rfl

/-! ## Columns -/

/-- Whether a value of a column has a spelling. -/
def Width.Writable : (w : Width) → w.Value → Prop
  | .share, x => x.isFinite = true
  | _, _ => True

theorem Width.ofJson?_toJson {w : Width} {v : w.Value} (writable : w.Writable v) :
    w.ofJson? (w.toJson v) = some v := by
  cases w with
  | word64 => exact word64?_int v
  | word32 => exact word32?_int v
  | word16 => exact word16?_int v
  | share => exact real?_ofFloat writable
  | switch => exact flag?_bool v

/-- Only the share of the processors is a real. -/
theorem Column.writable {p : Profile} (finite : p.cpuUsage.isFinite = true) (c : Column) :
    c.width.Writable (c.get p) := by
  cases c with
  | cpuUsage => exact finite
  | _ => trivial

/-! ## Profiles -/

namespace ProfileField

/-- A profile with one field as another one has it. -/
def copy : ProfileField → Profile → Profile → Profile
  | single c, p, q => c.set (c.get p) q
  | triple a b c, p, q => c.set (c.get p) (b.set (b.get p) (a.set (a.get p) q))
  | switches, p, q => { q with offloads := p.offloads }

variable {p : Profile} (finite : p.cpuUsage.isFinite = true)

include finite

theorem columnOfJson?_toJson (c : Column) (q : Profile) :
    columnOfJson? c (columnToJson c p) q = some (c.set (c.get p) q) := by
  rw [columnOfJson?, columnToJson, Width.ofJson?_toJson (c.writable finite), Option.map_some]

/-- A field brings the columns that were written for it. -/
theorem ofJson?_toJson (f : ProfileField) (q : Profile) :
    f.ofJson? (f.toJson p) q = some (f.copy p q) := by
  cases f with
  | single c => exact columnOfJson?_toJson finite c q
  | triple a b c =>
    simp only [toJson, ofJson?, columnOfJson?_toJson finite, Option.bind_eq_bind, Option.bind_some,
      copy]
  | switches => rw [toJson, ofJson?, Offloads.ofJson?_toJson, Option.map_some, copy]

end ProfileField

namespace Profile

variable {p : Profile}

/-- Fields that were written bring a copy of what they were written for. -/
theorem readFields_written (finite : p.cpuUsage.isFinite = true) (fields : List ProfileField)
    (q : Profile) :
    readFields fields (fields.map fun f => .given (f.toJson p)) q =
      some (fields.foldl (fun q f => f.copy p q) q) := by
  induction fields generalizing q with
  | nil => rfl
  | cons f rest ih =>
    rw [List.map_cons, readFields, ProfileField.ofJson?_toJson finite, Option.bind_some, ih,
      List.foldl_cons]

/-- All fields together make up the profile. -/
theorem copied_eq (p : Profile) :
    (ProfileField.all.map Prod.snd).foldl (fun q f => f.copy p q) {} = p := by
  simp only [ProfileField.all, List.map_cons, List.map_nil, List.foldl_cons, List.foldl_nil,
    ProfileField.copy, Column.set, Column.get]

/-- An object of some fields is read field by field. -/
theorem fields?_written {fields : List (String × ProfileField)}
    (distinct : (fields.map Prod.fst).Nodup) :
    (Json.object (fields.map fun f => (f.1, f.2.toJson p))).fields? (fields.map Prod.fst) =
      some ((fields.map Prod.snd).map fun f => .given (f.toJson p)) := by
  have hnames : (fields.map fun f => (f.1, f.2.toJson p)).map Prod.fst = fields.map Prod.fst := by
    rw [List.map_map]
    rfl
  rw [fields?_object hnames distinct, List.map_map, List.map_map]
  rfl

/-- A profile that was written is read again. -/
theorem ofJson?_toJson (finite : p.cpuUsage.isFinite = true) : ofJson? p.toJson = some p := by
  have hfields : p.toJson.fields? (ProfileField.all.map Prod.fst) =
      some ((ProfileField.all.map Prod.snd).map fun f => .given (f.toJson p)) :=
    fields?_written (by decide)
  calc
    ofJson? p.toJson = (p.toJson.fields? (ProfileField.all.map Prod.fst)).bind fun given =>
        readFields (ProfileField.all.map Prod.snd) given {} := rfl
    _ = some ((ProfileField.all.map Prod.snd).foldl (fun q f => f.copy p q) {}) := by
        rw [hfields, Option.bind_some, readFields_written finite]
    _ = some p := congrArg some p.copied_eq

end Profile

/-! ## Loads and weights -/

/-- A load is read from its fields. -/
theorem Load.ofJson?_of_fields {x transfer drop errors fifo cpu : Json} {l : Load}
    (fields : x.fields? ["transfer_rate", "drop_rate", "errors_rate", "fifo_errors_rate",
      "cpu_usage_percentage"] =
        some [.given transfer, .given drop, .given errors, .given fifo, .given cpu])
    (transferRate : transfer.word64? = some l.transferRate)
    (dropRate : drop.word64? = some l.dropRate) (errorRate : errors.word64? = some l.errorRate)
    (fifoErrorRate : fifo.word64? = some l.fifoErrorRate)
    (cpuUsage : cpu.real? = some l.cpuUsage) : ofJson? x = some l := by
  rw [ofJson?, fields]
  simp [Json.Field.required?, transferRate, dropRate, errorRate, fifoErrorRate, cpuUsage]

/-- A load that was written is read again. -/
theorem Load.ofJson?_toJson {l : Load} (finite : l.cpuUsage.isFinite = true) :
    ofJson? l.toJson = some l :=
  ofJson?_of_fields (fields?_object rfl (by decide)) (word64?_int _) (word64?_int _)
    (word64?_int _) (word64?_int _) (real?_ofFloat finite)

/-- Whether all weights and the bias are finite. -/
structure Weights.Finite (w : Weights) : Prop where
  transfer : w.transfer.isFinite = true
  drop : w.drop.isFinite = true
  errors : w.errors.isFinite = true
  fifo : w.fifo.isFinite = true
  bias : w.bias.isFinite = true

/-- Weights that were written are read again. -/
theorem Weights.ofJson?_toJson {w : Weights} (finite : w.Finite) : ofJson? w.toJson = some w := by
  have hfields : w.toJson.fields? ["transfer_rate_weight", "drop_rate_weight",
      "errors_rate_weight", "fifo_errors_rate_weight", "bias"] = some [.given (.ofFloat w.transfer),
        .given (.ofFloat w.drop), .given (.ofFloat w.errors), .given (.ofFloat w.fifo),
        .given (.ofFloat w.bias)] :=
    fields?_object rfl (by decide)
  rw [ofJson?, hfields]
  simp [Json.Field.required?, Json.Field.withDefault?, real?_ofFloat finite.transfer,
    real?_ofFloat finite.drop, real?_ofFloat finite.errors, real?_ofFloat finite.fifo,
    real?_ofFloat finite.bias]

end NetworkTuning
