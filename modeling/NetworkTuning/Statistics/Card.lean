import NetworkTuning.Command.Shell
import NetworkTuning.Command.System

/-!
# Settings of the network card

The card's tool prints its ring sizes, its coalescing and its offloads as lines of a key and a
value. Each value is found by its key alone, whatever other lines there are.
-/

namespace NetworkTuning

/-- How long the card waits, and for how many frames, before it interrupts. -/
structure Coalescing where
  rxUsecs : UInt16 := 0
  rxFrames : UInt16 := 0
  txUsecs : UInt16 := 0
  txFrames : UInt16 := 0
  deriving Repr, DecidableEq, Inhabited

/-- The settings of a network card. -/
structure Card where
  rxRing : UInt16 := 0
  txRing : UInt16 := 0
  coalescing : Coalescing := {}
  offloads : Offloads := {}
  deriving Repr, DecidableEq, Inhabited

/-- The value on a line of a key with a colon right after it; what is no 16-bit number is zero. -/
def valueOn? (key line : List Char) : Option UInt16 :=
  (Text.after? (key ++ [':']) (Text.trimStart line)).map fun rest =>
    (Decimal.word16? (Text.trim rest)).getD 0

/-- The value on the first line of a key, zero if there is none. -/
def valueOf (key : String) (lines : List (List Char)) : UInt16 :=
  (lines.findSome? (valueOn? key.toList)).getD 0

/-- The sizes of the receive and the send ring, which follow a heading of their own. -/
def ringSizes (output : List Char) : UInt16 × UInt16 :=
  let lines := Text.lines ((Text.afterFirst? "Current hardware settings:".toList output).getD [])
  (valueOf "RX" lines, valueOf "TX" lines)

/-- The coalescing. -/
def Coalescing.ofText (output : List Char) : Coalescing :=
  let lines := Text.lines output
  ⟨valueOf "rx-usecs" lines, valueOf "rx-frames" lines, valueOf "tx-usecs" lines,
    valueOf "tx-frames" lines⟩

/-- Whether a line starts with a feature and a colon and says that it is on. -/
def saysOn (feature line : List Char) : Bool :=
  match Text.after? (feature ++ [':']) line with
  | some state => (Text.after? ['o', 'n'] (Text.trimStart state)).isSome
  | none => false

/-- The offloads; a feature is on if some line says so. -/
def Offloads.ofText (output : List Char) : Offloads :=
  let lines := Text.lines output
  let isOn (feature : String) : Bool := lines.any (saysOn feature.toList)
  { rxChecksum := isOn "rx-checksumming"
    txChecksum := isOn "tx-checksumming"
    genericSegmentation := isOn "generic-segmentation-offload"
    tcpSegmentation := isOn "tcp-segmentation-offload"
    genericReceive := isOn "generic-receive-offload"
    largeReceive := isOn "large-receive-offload"
    rxVlan := isOn "rx-vlan-offload"
    txVlan := isOn "tx-vlan-offload"
    rxHash := isOn "receive-hashing" }

/-- What the card's tool prints for a flag. -/
def queryCard (shell : Shell) (flag interface : String) : Shell × Except ReadingError String :=
  let text := "ethtool " ++ flag ++ " " ++ interface
  match shell.run ⟨"ethtool", [flag, interface]⟩ with
  | (shell, .error reason) => (shell, .error (.command text reason))
  | (shell, .ok e) =>
    if e.code == 0 then (shell, .ok e.output)
    else (shell, .error (.command text (String.ofList (Text.trim e.messages.toList))))

/-- Reads the settings of the card: rings, coalescing, offloads, up to the first failure. -/
def Card.read (shell : Shell) (interface : String) : Shell × Except ReadingError Card :=
  match queryCard shell "-g" interface with
  | (shell, .error e) => (shell, .error e)
  | (shell, .ok rings) =>
    match queryCard shell "-c" interface with
    | (shell, .error e) => (shell, .error e)
    | (shell, .ok coalescing) =>
      match queryCard shell "-k" interface with
      | (shell, .error e) => (shell, .error e)
      | (shell, .ok offloads) =>
        let (rx, tx) := ringSizes rings.toList
        (shell, .ok ⟨rx, tx, Coalescing.ofText coalescing.toList, Offloads.ofText offloads.toList⟩)

end NetworkTuning
