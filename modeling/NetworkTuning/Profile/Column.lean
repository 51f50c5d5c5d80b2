import NetworkTuning.Profile.Basic
import NetworkTuning.Decimal.Fixed
import NetworkTuning.Decimal.Reading

/-!
# The columns of a profile

A profile has 53 single values. `Column` names them in the order of the table file, `Column.get` and
`Column.set` read and write one, and `Width` says what kind of value a column holds: how it is
written, which texts it reads, and how a real number is stored in it. Everything that treats many
columns alike (rows of a table file, derivation of new profiles, rendering of settings) goes through
this enumeration.
-/

namespace NetworkTuning

/-- The kinds of single values. -/
inductive Width where
  | word64
  | word32
  | word16
  | share
  | switch
  deriving Repr, DecidableEq, Inhabited

/-- The values of a kind. -/
abbrev Width.Value : Width → Type
  | .word64 => UInt64
  | .word32 => UInt32
  | .word16 => UInt16
  | .share => Float
  | .switch => Bool

/-- A value as text: words in decimal, shares with six places, switches as one or zero. -/
def Width.render : (w : Width) → w.Value → String
  | .word64, n => String.ofList (Decimal.digits n.toNat)
  | .word32, n => String.ofList (Decimal.digits n.toNat)
  | .word16, n => String.ofList (Decimal.digits n.toNat)
  | .share, x => Decimal.fixed 6 x
  | .switch, b => if b then "1" else "0"

/-- The value that a text denotes. A switch is read as a 16-bit number, on unless zero. -/
def Width.read? : (w : Width) → List Char → Option w.Value
  | .word64, cs => Decimal.word64? cs
  | .word32, cs => Decimal.word32? cs
  | .word16, cs => Decimal.word16? cs
  | .share, cs => Decimal.float? cs
  | .switch, cs => (Decimal.word16? cs).map (· != 0)

/-- How many bytes a value takes in memory. -/
def Width.bytes : Width → Nat
  | .word64 => 8
  | .word32 => 4
  | .word16 => 2
  | .share => 8
  | .switch => 1

/-- A value as a real number. -/
def Width.toFloat : (w : Width) → w.Value → Float
  | .word64, n => n.toFloat
  | .word32, n => n.toFloat
  | .word16, n => n.toFloat
  | .share, x => x
  | .switch, b => if b then 1.0 else 0.0

/-- A real number stored as a value: cut to a whole number of the word's range, a share kept from
falling below zero; NaN is stored as zero. -/
def Width.store : (w : Width) → Float → w.Value
  | .word64, x => x.toUInt64
  | .word32, x => x.toUInt32
  | .word16, x => x.toUInt16
  | .share, x => if 0.0 < x then x else 0.0
  | .switch, x => x.toUInt16 != 0

/-- The single values of a profile, in the order of the table file. -/
inductive Column where
  | transferRate
  | dropRate
  | errorRate
  | fifoErrorRate
  | cpuUsage
  | rxRing
  | txRing
  | cores
  | governor
  | cpuSpeed
  | ioScheduler
  | taskScheduler
  | schedMinGranularity
  | schedWakeupGranularity
  | schedMigrationCost
  | numaBalancing
  | pidMax
  | netdevMaxBacklog
  | netdevBudget
  | somaxconn
  | busyPoll
  | busyRead
  | rmemMax
  | wmemMax
  | rmemDefault
  | wmemDefault
  | tcpFastopen
  | tcpLowLatency
  | tcpSack
  | tcpRmemLeast
  | tcpRmemUsual
  | tcpRmemMost
  | tcpWmemLeast
  | tcpWmemUsual
  | tcpWmemMost
  | tcpMaxSynBacklog
  | tcpTwReuse
  | tcpTwRecycle
  | tcpTimestamps
  | tcpSynRetries
  | rxCoalesceUsecs
  | rxCoalesceFrames
  | txCoalesceUsecs
  | txCoalesceFrames
  | rxChecksum
  | txChecksum
  | genericSegmentation
  | tcpSegmentation
  | genericReceive
  | largeReceive
  | rxVlan
  | txVlan
  | rxHash
  deriving Repr, DecidableEq, Inhabited

namespace Column

/-- All columns, in the order of the table file. -/
def all : List Column := [
  .transferRate, .dropRate, .errorRate, .fifoErrorRate, .cpuUsage, .rxRing, .txRing, .cores,
  .governor, .cpuSpeed, .ioScheduler, .taskScheduler, .schedMinGranularity,
  .schedWakeupGranularity, .schedMigrationCost, .numaBalancing, .pidMax, .netdevMaxBacklog,
  .netdevBudget, .somaxconn, .busyPoll, .busyRead, .rmemMax, .wmemMax, .rmemDefault,
  .wmemDefault, .tcpFastopen, .tcpLowLatency, .tcpSack, .tcpRmemLeast, .tcpRmemUsual,
  .tcpRmemMost, .tcpWmemLeast, .tcpWmemUsual, .tcpWmemMost, .tcpMaxSynBacklog, .tcpTwReuse,
  .tcpTwRecycle, .tcpTimestamps, .tcpSynRetries, .rxCoalesceUsecs, .rxCoalesceFrames,
  .txCoalesceUsecs, .txCoalesceFrames, .rxChecksum, .txChecksum, .genericSegmentation,
  .tcpSegmentation, .genericReceive, .largeReceive, .rxVlan, .txVlan, .rxHash]

/-- The name of a column in the first line of a table file. -/
def header : Column → String
  | .transferRate => "transfer_rate"
  | .dropRate => "drop_rate"
  | .errorRate => "errors_rate"
  | .fifoErrorRate => "fifo_errors_rate"
  | .cpuUsage => "cpu_usage_percentage"
  | .rxRing => "rx_ring_size"
  | .txRing => "tx_ring_size"
  | .cores => "cores"
  | .governor => "governor"
  | .cpuSpeed => "cpu_freq"
  | .ioScheduler => "io_scheduler"
  | .taskScheduler => "task_scheduler"
  | .schedMinGranularity => "kernel.sched_min_granularity_ns"
  | .schedWakeupGranularity => "kernel.sched_wakeup_granularity_ns"
  | .schedMigrationCost => "kernel.sched_migration_cost_ns"
  | .numaBalancing => "kernel.numa_balancing"
  | .pidMax => "kernel.pid_max"
  | .netdevMaxBacklog => "net.core.netdev_max_backlog"
  | .netdevBudget => "net.core.netdev_budget"
  | .somaxconn => "net.core.somaxconn"
  | .busyPoll => "net.core.busy_poll"
  | .busyRead => "net.core.busy_read"
  | .rmemMax => "net.core.rmem_max"
  | .wmemMax => "net.core.wmem_max"
  | .rmemDefault => "net.core.rmem_default"
  | .wmemDefault => "net.core.wmem_default"
  | .tcpFastopen => "tcp_fastopen"
  | .tcpLowLatency => "tcp_lowlatency"
  | .tcpSack => "tcp_sack"
  | .tcpRmemLeast => "tcp_rmem[0]"
  | .tcpRmemUsual => "tcp_rmem[1]"
  | .tcpRmemMost => "tcp_rmem[2]"
  | .tcpWmemLeast => "tcp_wmem[0]"
  | .tcpWmemUsual => "tcp_wmem[1]"
  | .tcpWmemMost => "tcp_wmem[2]"
  | .tcpMaxSynBacklog => "tcp_max_syn_backlog"
  | .tcpTwReuse => "tcp_tw_reuse"
  | .tcpTwRecycle => "tcp_tw_recycle"
  | .tcpTimestamps => "tcp_timestamps"
  | .tcpSynRetries => "tcp_syn_retries"
  | .rxCoalesceUsecs => "rx_interrupt_coalesce_usecs"
  | .rxCoalesceFrames => "rx_interrupt_max_coalesce_frames"
  | .txCoalesceUsecs => "tx_interrupt_coalesce_usecs"
  | .txCoalesceFrames => "tx_interrupt_max_coalesce_frames"
  | .rxChecksum => "rx_checksum_offload"
  | .txChecksum => "tx_checksum_offload"
  | .genericSegmentation => "general_segmentation_offload"
  | .tcpSegmentation => "tcp_segmentation_offload"
  | .genericReceive => "general_receive_offload"
  | .largeReceive => "large_receive_offload"
  | .rxVlan => "rx_vlan_offload"
  | .txVlan => "tx_vlan_offload"
  | .rxHash => "rx_hash"

/-- The kind of value a column holds. -/
def width : Column → Width
  | .transferRate => .word64
  | .dropRate => .word64
  | .errorRate => .word64
  | .fifoErrorRate => .word64
  | .cpuUsage => .share
  | .rxRing => .word16
  | .txRing => .word16
  | .cores => .word16
  | .governor => .word16
  | .cpuSpeed => .word32
  | .ioScheduler => .word16
  | .taskScheduler => .word16
  | .schedMinGranularity => .word32
  | .schedWakeupGranularity => .word32
  | .schedMigrationCost => .word32
  | .numaBalancing => .word16
  | .pidMax => .word32
  | .netdevMaxBacklog => .word32
  | .netdevBudget => .word32
  | .somaxconn => .word32
  | .busyPoll => .word16
  | .busyRead => .word16
  | .rmemMax => .word64
  | .wmemMax => .word64
  | .rmemDefault => .word64
  | .wmemDefault => .word64
  | .tcpFastopen => .word16
  | .tcpLowLatency => .word16
  | .tcpSack => .word16
  | .tcpRmemLeast => .word64
  | .tcpRmemUsual => .word64
  | .tcpRmemMost => .word64
  | .tcpWmemLeast => .word64
  | .tcpWmemUsual => .word64
  | .tcpWmemMost => .word64
  | .tcpMaxSynBacklog => .word32
  | .tcpTwReuse => .word16
  | .tcpTwRecycle => .word16
  | .tcpTimestamps => .word16
  | .tcpSynRetries => .word32
  | .rxCoalesceUsecs => .word16
  | .rxCoalesceFrames => .word16
  | .txCoalesceUsecs => .word16
  | .txCoalesceFrames => .word16
  | .rxChecksum => .switch
  | .txChecksum => .switch
  | .genericSegmentation => .switch
  | .tcpSegmentation => .switch
  | .genericReceive => .switch
  | .largeReceive => .switch
  | .rxVlan => .switch
  | .txVlan => .switch
  | .rxHash => .switch

/-- The value of a column. -/
def get : (c : Column) → Profile → c.width.Value
  | .transferRate, p => p.transferRate
  | .dropRate, p => p.dropRate
  | .errorRate, p => p.errorRate
  | .fifoErrorRate, p => p.fifoErrorRate
  | .cpuUsage, p => p.cpuUsage
  | .rxRing, p => p.rxRing
  | .txRing, p => p.txRing
  | .cores, p => p.cores
  | .governor, p => p.governor
  | .cpuSpeed, p => p.cpuSpeed
  | .ioScheduler, p => p.ioScheduler
  | .taskScheduler, p => p.taskScheduler
  | .schedMinGranularity, p => p.schedMinGranularity
  | .schedWakeupGranularity, p => p.schedWakeupGranularity
  | .schedMigrationCost, p => p.schedMigrationCost
  | .numaBalancing, p => p.numaBalancing
  | .pidMax, p => p.pidMax
  | .netdevMaxBacklog, p => p.netdevMaxBacklog
  | .netdevBudget, p => p.netdevBudget
  | .somaxconn, p => p.somaxconn
  | .busyPoll, p => p.busyPoll
  | .busyRead, p => p.busyRead
  | .rmemMax, p => p.rmemMax
  | .wmemMax, p => p.wmemMax
  | .rmemDefault, p => p.rmemDefault
  | .wmemDefault, p => p.wmemDefault
  | .tcpFastopen, p => p.tcpFastopen
  | .tcpLowLatency, p => p.tcpLowLatency
  | .tcpSack, p => p.tcpSack
  | .tcpRmemLeast, p => p.tcpRmem.least
  | .tcpRmemUsual, p => p.tcpRmem.usual
  | .tcpRmemMost, p => p.tcpRmem.most
  | .tcpWmemLeast, p => p.tcpWmem.least
  | .tcpWmemUsual, p => p.tcpWmem.usual
  | .tcpWmemMost, p => p.tcpWmem.most
  | .tcpMaxSynBacklog, p => p.tcpMaxSynBacklog
  | .tcpTwReuse, p => p.tcpTwReuse
  | .tcpTwRecycle, p => p.tcpTwRecycle
  | .tcpTimestamps, p => p.tcpTimestamps
  | .tcpSynRetries, p => p.tcpSynRetries
  | .rxCoalesceUsecs, p => p.rxCoalesceUsecs
  | .rxCoalesceFrames, p => p.rxCoalesceFrames
  | .txCoalesceUsecs, p => p.txCoalesceUsecs
  | .txCoalesceFrames, p => p.txCoalesceFrames
  | .rxChecksum, p => p.offloads.rxChecksum
  | .txChecksum, p => p.offloads.txChecksum
  | .genericSegmentation, p => p.offloads.genericSegmentation
  | .tcpSegmentation, p => p.offloads.tcpSegmentation
  | .genericReceive, p => p.offloads.genericReceive
  | .largeReceive, p => p.offloads.largeReceive
  | .rxVlan, p => p.offloads.rxVlan
  | .txVlan, p => p.offloads.txVlan
  | .rxHash, p => p.offloads.rxHash

/-- A profile with another value in one column. -/
def set : (c : Column) → c.width.Value → Profile → Profile
  | .transferRate, v, p => { p with transferRate := v }
  | .dropRate, v, p => { p with dropRate := v }
  | .errorRate, v, p => { p with errorRate := v }
  | .fifoErrorRate, v, p => { p with fifoErrorRate := v }
  | .cpuUsage, v, p => { p with cpuUsage := v }
  | .rxRing, v, p => { p with rxRing := v }
  | .txRing, v, p => { p with txRing := v }
  | .cores, v, p => { p with cores := v }
  | .governor, v, p => { p with governor := v }
  | .cpuSpeed, v, p => { p with cpuSpeed := v }
  | .ioScheduler, v, p => { p with ioScheduler := v }
  | .taskScheduler, v, p => { p with taskScheduler := v }
  | .schedMinGranularity, v, p => { p with schedMinGranularity := v }
  | .schedWakeupGranularity, v, p => { p with schedWakeupGranularity := v }
  | .schedMigrationCost, v, p => { p with schedMigrationCost := v }
  | .numaBalancing, v, p => { p with numaBalancing := v }
  | .pidMax, v, p => { p with pidMax := v }
  | .netdevMaxBacklog, v, p => { p with netdevMaxBacklog := v }
  | .netdevBudget, v, p => { p with netdevBudget := v }
  | .somaxconn, v, p => { p with somaxconn := v }
  | .busyPoll, v, p => { p with busyPoll := v }
  | .busyRead, v, p => { p with busyRead := v }
  | .rmemMax, v, p => { p with rmemMax := v }
  | .wmemMax, v, p => { p with wmemMax := v }
  | .rmemDefault, v, p => { p with rmemDefault := v }
  | .wmemDefault, v, p => { p with wmemDefault := v }
  | .tcpFastopen, v, p => { p with tcpFastopen := v }
  | .tcpLowLatency, v, p => { p with tcpLowLatency := v }
  | .tcpSack, v, p => { p with tcpSack := v }
  | .tcpRmemLeast, v, p => { p with tcpRmem := { p.tcpRmem with least := v } }
  | .tcpRmemUsual, v, p => { p with tcpRmem := { p.tcpRmem with usual := v } }
  | .tcpRmemMost, v, p => { p with tcpRmem := { p.tcpRmem with most := v } }
  | .tcpWmemLeast, v, p => { p with tcpWmem := { p.tcpWmem with least := v } }
  | .tcpWmemUsual, v, p => { p with tcpWmem := { p.tcpWmem with usual := v } }
  | .tcpWmemMost, v, p => { p with tcpWmem := { p.tcpWmem with most := v } }
  | .tcpMaxSynBacklog, v, p => { p with tcpMaxSynBacklog := v }
  | .tcpTwReuse, v, p => { p with tcpTwReuse := v }
  | .tcpTwRecycle, v, p => { p with tcpTwRecycle := v }
  | .tcpTimestamps, v, p => { p with tcpTimestamps := v }
  | .tcpSynRetries, v, p => { p with tcpSynRetries := v }
  | .rxCoalesceUsecs, v, p => { p with rxCoalesceUsecs := v }
  | .rxCoalesceFrames, v, p => { p with rxCoalesceFrames := v }
  | .txCoalesceUsecs, v, p => { p with txCoalesceUsecs := v }
  | .txCoalesceFrames, v, p => { p with txCoalesceFrames := v }
  | .rxChecksum, v, p => { p with offloads := { p.offloads with rxChecksum := v } }
  | .txChecksum, v, p => { p with offloads := { p.offloads with txChecksum := v } }
  | .genericSegmentation, v, p =>
    { p with offloads := { p.offloads with genericSegmentation := v } }
  | .tcpSegmentation, v, p => { p with offloads := { p.offloads with tcpSegmentation := v } }
  | .genericReceive, v, p => { p with offloads := { p.offloads with genericReceive := v } }
  | .largeReceive, v, p => { p with offloads := { p.offloads with largeReceive := v } }
  | .rxVlan, v, p => { p with offloads := { p.offloads with rxVlan := v } }
  | .txVlan, v, p => { p with offloads := { p.offloads with txVlan := v } }
  | .rxHash, v, p => { p with offloads := { p.offloads with rxHash := v } }

/-- The value of a column as a real number. -/
def measure (c : Column) (p : Profile) : Float := c.width.toFloat (c.get p)

/-- A profile with a real number stored in one column. -/
def store (c : Column) (x : Float) (p : Profile) : Profile := c.set (c.width.store x) p

/-- The text of a column's value. -/
def render (c : Column) (p : Profile) : String := c.width.render (c.get p)

end Column

end NetworkTuning
