import NetworkTuning.Profile.Column

/-!
# Commands that put a profile in place

A profile is put in place by four commands: two set kernel settings, one sets the ring sizes of the
network card, one its offloads. A command is shown as it would be typed, with quotes around a value
that has blanks in it.
-/

namespace NetworkTuning

/-- A program and its arguments. -/
structure Command where
  program : String
  arguments : List String
  deriving Repr, DecidableEq, Inhabited

/-- The text before the first equals sign and the text after it. -/
def splitEquals? : List Char → Option (List Char × List Char)
  | [] => none
  | c :: rest =>
    if c = '=' then some ([], rest)
    else (splitEquals? rest).map fun (key, value) => (c :: key, value)

/-- An argument as it is shown. -/
def showArgument (argument : String) : List Char :=
  match splitEquals? argument.toList with
  | some (key, value) =>
    if value.contains ' ' then key ++ '=' :: '\'' :: (value ++ ['\'']) else argument.toList
  | none => argument.toList

/-- A command as it is shown. -/
def Command.text (c : Command) : String :=
  String.ofList (c.program.toList ++ c.arguments.flatMap fun a => ' ' :: showArgument a)

/-- A kernel setting and the columns whose values it takes. -/
structure KernelSetting where
  key : String
  columns : List Column
  deriving Repr, DecidableEq, Inhabited

/-- The settings of the network core, in the order in which they are set. -/
def coreSettings : List KernelSetting := [
  ⟨"net.core.netdev_max_backlog", [.netdevMaxBacklog]⟩,
  ⟨"net.core.netdev_budget", [.netdevBudget]⟩,
  ⟨"net.core.somaxconn", [.somaxconn]⟩,
  ⟨"net.core.busy_poll", [.busyPoll]⟩,
  ⟨"net.core.busy_read", [.busyRead]⟩,
  ⟨"net.core.rmem_max", [.rmemMax]⟩,
  ⟨"net.core.wmem_max", [.wmemMax]⟩,
  ⟨"net.core.rmem_default", [.rmemDefault]⟩,
  ⟨"net.core.wmem_default", [.wmemDefault]⟩]

/-- The settings of the transport protocol, in the order in which they are set. Recycling of waiting
connections is not among them: kernels no longer have it. -/
def transportSettings : List KernelSetting := [
  ⟨"net.ipv4.tcp_fastopen", [.tcpFastopen]⟩,
  ⟨"net.ipv4.tcp_low_latency", [.tcpLowLatency]⟩,
  ⟨"net.ipv4.tcp_sack", [.tcpSack]⟩,
  ⟨"net.ipv4.tcp_rmem", [.tcpRmemLeast, .tcpRmemUsual, .tcpRmemMost]⟩,
  ⟨"net.ipv4.tcp_wmem", [.tcpWmemLeast, .tcpWmemUsual, .tcpWmemMost]⟩,
  ⟨"net.ipv4.tcp_max_syn_backlog", [.tcpMaxSynBacklog]⟩,
  ⟨"net.ipv4.tcp_tw_reuse", [.tcpTwReuse]⟩,
  ⟨"net.ipv4.tcp_timestamps", [.tcpTimestamps]⟩,
  ⟨"net.ipv4.tcp_syn_retries", [.tcpSynRetries]⟩]

/-- The argument that gives a setting its values. -/
def KernelSetting.assignment (s : KernelSetting) (p : Profile) : String :=
  s.key ++ "=" ++ " ".intercalate (s.columns.map fun c => c.render p)

/-- The command that sets some kernel settings. -/
def setKernel (settings : List KernelSetting) (p : Profile) : Command :=
  ⟨"sysctl", "-w" :: settings.map fun s => s.assignment p⟩

/-- The command that sets the ring sizes. -/
def setRings (interface : String) (p : Profile) : Command :=
  ⟨"ethtool", ["-G", interface, "rx", Column.rxRing.render p, "tx", Column.txRing.render p]⟩

/-- The command that sets the offloads. -/
def setOffloads (interface : String) (p : Profile) : Command :=
  ⟨"ethtool", "-K" :: interface ::
    p.offloads.features.flatMap fun f => [f.1, if f.2 then "on" else "off"]⟩

/-- The commands that put a profile in place on an interface. -/
def Profile.commands (interface : String) (p : Profile) : List Command :=
  [setKernel coreSettings p, setKernel transportSettings p, setRings interface p,
    setOffloads interface p]

end NetworkTuning
