import NetworkTuning.Load.Basic
import NetworkTuning.Load.Tolerance
import NetworkTuning.Profile.Column
import NetworkTuning.Wire.Record

/-!
# Profiles in data documents

How profiles, loads and weights are written as data documents, and how they are read back.
-/

namespace NetworkTuning

/-- A value of a column. -/
def Width.toJson : (w : Width) → w.Value → Json
  | .word64, n => .int n.toNat
  | .word32, n => .int n.toNat
  | .word16, n => .int n.toNat
  | .share, x => .ofFloat x
  | .switch, b => .bool b

/-- The value of a column that a document holds. -/
def Width.ofJson? : (w : Width) → Json → Option w.Value
  | .word64, x => x.word64?
  | .word32, x => x.word32?
  | .word16, x => x.word16?
  | .share, x => x.real?
  | .switch, x => x.flag?

namespace Offloads

/-- The switches by the names of their fields. -/
def named (o : Offloads) : List (String × Bool) :=
  [("rx_checksum", o.rxChecksum), ("tx_checksum", o.txChecksum),
    ("generic_segmentation", o.genericSegmentation), ("tcp_segmentation", o.tcpSegmentation),
    ("generic_receive", o.genericReceive), ("large_receive", o.largeReceive),
    ("rx_vlan", o.rxVlan), ("tx_vlan", o.txVlan), ("rx_hash", o.rxHash)]

/-- The switches as an object. -/
def toJson (o : Offloads) : Json := .object (o.named.map fun s => (s.1, .bool s.2))

/-- The switches that a document holds. -/
def ofJson? (x : Json) : Option Offloads := do
  let fields ← x.fields? ((Offloads.named {}).map Prod.fst)
  match ← fields.mapM (Json.Field.required? Json.flag?) with
  | [rxChecksum, txChecksum, genericSegmentation, tcpSegmentation, genericReceive, largeReceive,
      rxVlan, txVlan, rxHash] =>
    some { rxChecksum, txChecksum, genericSegmentation, tcpSegmentation, genericReceive,
           largeReceive, rxVlan, txVlan, rxHash }
  | _ => none

end Offloads

/-- A field of a written profile: one column, three columns in a list, or the offloads. -/
inductive ProfileField where
  | single (c : Column)
  | triple (least usual most : Column)
  | switches
  deriving Repr, DecidableEq, Inhabited

namespace ProfileField

/-- The fields of a written profile with their names, in order. -/
def all : List (String × ProfileField) := [
  ("transfer_rate", single .transferRate),
  ("drop_rate", single .dropRate),
  ("errors_rate", single .errorRate),
  ("fifo_errors_rate", single .fifoErrorRate),
  ("cpu_usage_percentage", single .cpuUsage),
  ("rx_ring_size", single .rxRing),
  ("tx_ring_size", single .txRing),
  ("cores", single .cores),
  ("governor", single .governor),
  ("cpu_speed", single .cpuSpeed),
  ("io_scheduler", single .ioScheduler),
  ("task_scheduler", single .taskScheduler),
  ("kernel_sched_min_granularity_ns", single .schedMinGranularity),
  ("kernel_sched_wakeup_granularity_ns", single .schedWakeupGranularity),
  ("kernel_sched_migration_cost_ns", single .schedMigrationCost),
  ("kernel_numa_balancing", single .numaBalancing),
  ("kernel_pid_max", single .pidMax),
  ("net_core_netdev_max_backlog", single .netdevMaxBacklog),
  ("net_core_netdev_budget", single .netdevBudget),
  ("net_core_somaxconn", single .somaxconn),
  ("net_core_busy_poll", single .busyPoll),
  ("net_core_busy_read", single .busyRead),
  ("net_core_rmem_max", single .rmemMax),
  ("net_core_wmem_max", single .wmemMax),
  ("net_core_rmem_default", single .rmemDefault),
  ("net_core_wmem_default", single .wmemDefault),
  ("tcp_fastopen", single .tcpFastopen),
  ("tcp_low_latency", single .tcpLowLatency),
  ("tcp_sack", single .tcpSack),
  ("tcp_rmem", triple .tcpRmemLeast .tcpRmemUsual .tcpRmemMost),
  ("tcp_wmem", triple .tcpWmemLeast .tcpWmemUsual .tcpWmemMost),
  ("tcp_max_syn_backlog", single .tcpMaxSynBacklog),
  ("tcp_tw_reuse", single .tcpTwReuse),
  ("tcp_tw_recycle", single .tcpTwRecycle),
  ("tcp_timestamps", single .tcpTimestamps),
  ("tcp_syn_retries", single .tcpSynRetries),
  ("rx_interrupt_coalesce_usecs", single .rxCoalesceUsecs),
  ("rx_interrupt_max_coalesce_frames", single .rxCoalesceFrames),
  ("tx_interrupt_coalesce_usecs", single .txCoalesceUsecs),
  ("tx_interrupt_max_coalesce_frames", single .txCoalesceFrames),
  ("offloads", switches)]

/-- A column of a profile. -/
def columnToJson (c : Column) (p : Profile) : Json := c.width.toJson (c.get p)

/-- A profile with one column as a document holds it. -/
def columnOfJson? (c : Column) (x : Json) (p : Profile) : Option Profile :=
  (c.width.ofJson? x).map fun v => c.set v p

/-- The value of a field. -/
def toJson : ProfileField → Profile → Json
  | single c, p => columnToJson c p
  | triple a b c, p => .list [columnToJson a p, columnToJson b p, columnToJson c p]
  | switches, p => p.offloads.toJson

/-- A profile with one field as a document holds it. -/
def ofJson? : ProfileField → Json → Profile → Option Profile
  | single c, x, p => columnOfJson? c x p
  | triple a b c, .list [x, y, z], p => do
    columnOfJson? c z (← columnOfJson? b y (← columnOfJson? a x p))
  | triple _ _ _, _, _ => none
  | switches, x, p => (Offloads.ofJson? x).map fun o => { p with offloads := o }

end ProfileField

namespace Profile

/-- A profile as an object. -/
def toJson (p : Profile) : Json := .object (ProfileField.all.map fun f => (f.1, f.2.toJson p))

/-- Takes one field after the other into a profile. -/
def readFields : List ProfileField → List Json.Field → Profile → Option Profile
  | f :: fields, .given x :: given, p => (f.ofJson? x p).bind (readFields fields given)
  | [], [], p => some p
  | _, _, _ => none

/-- The profile that a document holds. -/
def ofJson? (x : Json) : Option Profile := do
  readFields (ProfileField.all.map Prod.snd) (← x.fields? (ProfileField.all.map Prod.fst)) {}

end Profile

namespace Load

/-- A load as an object. -/
def toJson (l : Load) : Json :=
  .object [("transfer_rate", .int l.transferRate.toNat), ("drop_rate", .int l.dropRate.toNat),
    ("errors_rate", .int l.errorRate.toNat), ("fifo_errors_rate", .int l.fifoErrorRate.toNat),
    ("cpu_usage_percentage", .ofFloat l.cpuUsage)]

/-- The load that a document holds. -/
def ofJson? (x : Json) : Option Load := do
  match ← x.fields? ["transfer_rate", "drop_rate", "errors_rate", "fifo_errors_rate",
    "cpu_usage_percentage"] with
  | [transfer, drop, errors, fifo, cpu] =>
    let transferRate ← transfer.required? Json.word64?
    let dropRate ← drop.required? Json.word64?
    let errorRate ← errors.required? Json.word64?
    let fifoErrorRate ← fifo.required? Json.word64?
    let cpuUsage ← cpu.required? Json.real?
    some { transferRate, dropRate, errorRate, fifoErrorRate, cpuUsage }
  | _ => none

end Load

namespace Weights

/-- The weights as an object. -/
def toJson (w : Weights) : Json :=
  .object [("transfer_rate_weight", .ofFloat w.transfer), ("drop_rate_weight", .ofFloat w.drop),
    ("errors_rate_weight", .ofFloat w.errors), ("fifo_errors_rate_weight", .ofFloat w.fifo),
    ("bias", .ofFloat w.bias)]

/-- The weights that a document holds; the bias may be absent. -/
def ofJson? (x : Json) : Option Weights := do
  match ← x.fields? ["transfer_rate_weight", "drop_rate_weight", "errors_rate_weight",
    "fifo_errors_rate_weight", "bias"] with
  | [transfer, drop, errors, fifo, bias] =>
    let transfer ← transfer.required? Json.real?
    let drop ← drop.required? Json.real?
    let errors ← errors.required? Json.real?
    let fifo ← fifo.required? Json.real?
    let bias ← bias.withDefault? 0.0 Json.real?
    some { transfer, drop, errors, fifo, bias }
  | _ => none

end Weights

namespace Approximation

/-- An approximation by its name. -/
def toJson (f : Approximation) : Json := .text f.name

/-- The approximation that a document names. -/
def ofJson? (x : Json) : Option Approximation := x.named? (all.map fun f => (f.name, f))

end Approximation

end NetworkTuning
