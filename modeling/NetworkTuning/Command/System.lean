import NetworkTuning.Command.Basic
import NetworkTuning.FileTree.Basic
import NetworkTuning.FileTree.Path
import NetworkTuning.Text.Quoted

/-!
# Settings in force

The settings in force are files under a root directory, one for each dotted key, with numbers
between blanks. A setting that cannot be read counts as zero; a number too large for its column
counts as the largest that fits.
-/

namespace NetworkTuning

/-- Why a reading fails. -/
inductive ReadingError where
  /-- A file cannot be read. -/
  | unavailable (path : String) (cause : SystemError)
  /-- A file holds something other than a number. -/
  | notANumber (path value : String)
  /-- The processor's counters have no line for all processors together. -/
  | noTotalLine
  /-- A command failed. -/
  | command (text message : String)
  deriving Repr, DecidableEq, Inhabited

/-- The wording of a failed reading. -/
def ReadingError.message : ReadingError → String
  | unavailable path cause => s!"cannot read {path}: " ++ cause.message
  | notANumber path value => s!"unparsable counter in {path}: " ++ Text.quoted value
  | noTotalLine => "no aggregate cpu line in /proc/stat"
  | command text message => s!"{text} failed: {message}"

/-- What went wrong, the outermost first. -/
def ReadingError.chain : ReadingError → List String
  | unavailable path cause => [(unavailable path cause).message, cause.message]
  | e => [e.message]

/-- The file of a dotted key. -/
def keyPath (root key : String) : String :=
  ((Text.splitAll (· = '.') key.toList).map String.ofList).foldl Path.join root

/-- The numbers in the file of a key. -/
def keyValues (files : FileTree) (root key : String) : Except ReadingError (List UInt64) := do
  let path := keyPath root key
  let content ← (files.readText path).mapError fun cause => .unavailable path cause
  (Text.words content.toList).mapM fun word =>
    match Decimal.word64? word with
    | some n => .ok n
    | none => .error (.notANumber path (String.ofList word))

/-- The largest value of a kind that is no larger than a number. -/
def Width.saturate : (w : Width) → UInt64 → w.Value
  | .word64, n => n
  | .word32, n => if n < 0xFFFFFFFF then n.toUInt32 else 0xFFFFFFFF
  | .word16, n => if n < 0xFFFF then n.toUInt16 else 0xFFFF
  | .share, n => n.toFloat
  | .switch, n => n != 0

/-- The kernel settings that a profile carries, in the order in which they are read: those with
several numbers come last. -/
def systemSettings : List KernelSetting := [
  ⟨"kernel.sched_min_granularity_ns", [.schedMinGranularity]⟩,
  ⟨"kernel.sched_wakeup_granularity_ns", [.schedWakeupGranularity]⟩,
  ⟨"kernel.sched_migration_cost_ns", [.schedMigrationCost]⟩,
  ⟨"kernel.numa_balancing", [.numaBalancing]⟩,
  ⟨"kernel.pid_max", [.pidMax]⟩,
  ⟨"net.core.netdev_max_backlog", [.netdevMaxBacklog]⟩,
  ⟨"net.core.netdev_budget", [.netdevBudget]⟩,
  ⟨"net.core.somaxconn", [.somaxconn]⟩,
  ⟨"net.core.busy_poll", [.busyPoll]⟩,
  ⟨"net.core.busy_read", [.busyRead]⟩,
  ⟨"net.core.rmem_max", [.rmemMax]⟩,
  ⟨"net.core.rmem_default", [.rmemDefault]⟩,
  ⟨"net.core.wmem_max", [.wmemMax]⟩,
  ⟨"net.core.wmem_default", [.wmemDefault]⟩,
  ⟨"net.ipv4.tcp_fastopen", [.tcpFastopen]⟩,
  ⟨"net.ipv4.tcp_low_latency", [.tcpLowLatency]⟩,
  ⟨"net.ipv4.tcp_sack", [.tcpSack]⟩,
  ⟨"net.ipv4.tcp_max_syn_backlog", [.tcpMaxSynBacklog]⟩,
  ⟨"net.ipv4.tcp_tw_reuse", [.tcpTwReuse]⟩,
  ⟨"net.ipv4.tcp_timestamps", [.tcpTimestamps]⟩,
  ⟨"net.ipv4.tcp_syn_retries", [.tcpSynRetries]⟩,
  ⟨"net.ipv4.tcp_rmem", [.tcpRmemLeast, .tcpRmemUsual, .tcpRmemMost]⟩,
  ⟨"net.ipv4.tcp_wmem", [.tcpWmemLeast, .tcpWmemUsual, .tcpWmemMost]⟩]

/-- Reads one setting into a profile. A setting of one value takes the first number of its file; a
setting of several takes them only if there are exactly as many. -/
def KernelSetting.readInto (files : FileTree) (root : String) (p : Profile) (s : KernelSetting) :
    Profile :=
  match keyValues files root s.key with
  | .error _ => p
  | .ok values =>
    match s.columns, values with
    | [c], n :: _ => c.set (c.width.saturate n) p
    | columns, values =>
      if columns.length = values.length then
        (columns.zip values).foldl (fun q e => e.1.set (e.1.width.saturate e.2) q) p
      else p

/-- The settings in force, as a profile whose other columns are zero. -/
def settingsInForce (files : FileTree) (root : String) : Profile :=
  systemSettings.foldl (KernelSetting.readInto files root) {}

end NetworkTuning
