/-!
# Tuning profiles

A profile is one row of kernel and network-card settings together with the load it was recorded
under. Its transfer rate is its key. Every counter has the width in which it is stored.
-/

namespace NetworkTuning

/-- The three sizes of a socket buffer, as one setting holds them. -/
structure BufferSizes where
  least : UInt64 := 0
  usual : UInt64 := 0
  most : UInt64 := 0
  deriving Repr, DecidableEq, Inhabited

/-- The switches for work that the network card takes over. -/
structure Offloads where
  rxChecksum : Bool := false
  txChecksum : Bool := false
  genericSegmentation : Bool := false
  tcpSegmentation : Bool := false
  genericReceive : Bool := false
  largeReceive : Bool := false
  rxVlan : Bool := false
  txVlan : Bool := false
  rxHash : Bool := false
  deriving Repr, DecidableEq, Inhabited

/-- The feature names by which the card's tool sets the switches, each with its state. -/
def Offloads.features (o : Offloads) : List (String × Bool) :=
  [("rx", o.rxChecksum), ("tx", o.txChecksum), ("gso", o.genericSegmentation),
    ("tso", o.tcpSegmentation), ("gro", o.genericReceive), ("lro", o.largeReceive),
    ("rxvlan", o.rxVlan), ("txvlan", o.txVlan), ("rxhash", o.rxHash)]

/-- One row of settings, keyed by its transfer rate in bytes per second. -/
structure Profile where
  transferRate : UInt64 := 0
  dropRate : UInt64 := 0
  errorRate : UInt64 := 0
  fifoErrorRate : UInt64 := 0
  cpuUsage : Float := 0.0
  rxRing : UInt16 := 0
  txRing : UInt16 := 0
  cores : UInt16 := 0
  governor : UInt16 := 0
  cpuSpeed : UInt32 := 0
  ioScheduler : UInt16 := 0
  taskScheduler : UInt16 := 0
  schedMinGranularity : UInt32 := 0
  schedWakeupGranularity : UInt32 := 0
  schedMigrationCost : UInt32 := 0
  numaBalancing : UInt16 := 0
  pidMax : UInt32 := 0
  netdevMaxBacklog : UInt32 := 0
  netdevBudget : UInt32 := 0
  somaxconn : UInt32 := 0
  busyPoll : UInt16 := 0
  busyRead : UInt16 := 0
  rmemMax : UInt64 := 0
  wmemMax : UInt64 := 0
  rmemDefault : UInt64 := 0
  wmemDefault : UInt64 := 0
  tcpFastopen : UInt16 := 0
  tcpLowLatency : UInt16 := 0
  tcpSack : UInt16 := 0
  tcpRmem : BufferSizes := {}
  tcpWmem : BufferSizes := {}
  tcpMaxSynBacklog : UInt32 := 0
  tcpTwReuse : UInt16 := 0
  tcpTwRecycle : UInt16 := 0
  tcpTimestamps : UInt16 := 0
  tcpSynRetries : UInt32 := 0
  rxCoalesceUsecs : UInt16 := 0
  rxCoalesceFrames : UInt16 := 0
  txCoalesceUsecs : UInt16 := 0
  txCoalesceFrames : UInt16 := 0
  offloads : Offloads := {}
  deriving Inhabited

/-- The key of a profile. -/
abbrev Profile.key (p : Profile) : UInt64 := p.transferRate

/-- The frequency governors, in the order of their codes, which start at one. -/
def governors : List String :=
  ["performance", "powersave", "userspace", "ondemand", "conservative", "schedutil"]

/-- The name that belongs to a governor's code. -/
def governorName? (code : UInt16) : Option String :=
  if code = 0 then none else governors[code.toNat - 1]?

end NetworkTuning
