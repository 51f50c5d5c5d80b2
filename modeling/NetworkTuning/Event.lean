import NetworkTuning.Schedule
import NetworkTuning.Statistics.Counters
import NetworkTuning.Training.Shared

/-!
# Events

An event is what happens to a running loop from outside at one instant: files change, a load is
published, other settings come into effect, and a command arrives, in this order.
-/

namespace NetworkTuning

/-- The commands that a session takes. -/
inductive SessionCommand where
  | reloadSettings
  | report
  | shutdown
  deriving Repr, DecidableEq, Inhabited

namespace SessionCommand

/-- The name of a command. -/
def name : SessionCommand → String
  | reloadSettings => "ReloadSettings"
  | report => "Report"
  | shutdown => "Shutdown"

/-- The command that a signal stands for. -/
def ofSignal? (signal : String) : Option SessionCommand :=
  if signal = "HUP" then some reloadSettings
  else if signal = "USR1" then some report
  else if signal = "INT" ∨ signal = "TERM" then some shutdown
  else none

/-- The commands up to the first one to shut down. -/
def untilShutdown : List SessionCommand → List SessionCommand
  | [] => []
  | shutdown :: _ => [shutdown]
  | c :: rest => c :: untilShutdown rest

/-- The commands that signals stand for. -/
def ofSignals (signals : List String) : List SessionCommand :=
  untilShutdown (signals.filterMap ofSignal?)

end SessionCommand

/-- What happens from outside at one instant. -/
structure Event where
  changes : List (String × Option Node) := []
  /-- The rates of an interface that are published. -/
  rates : Option Traffic := none
  /-- The busy share of the processors that is published. -/
  cpu : Option Float := none
  settings : Option Settings := none
  command : Option SessionCommand := none
  deriving Inhabited

namespace Event

/-- The readings after what an event publishes. -/
def publish (e : Event) (r : Readings) : Readings :=
  let r := match e.rates with
    | some t => r.publishRates t.bytes t.dropped t.errors t.fifoErrors
    | none => r
  match e.cpu with
  | some share => r.publishCpu share
  | none => r

/-- What is shared after an event, its command apart. -/
def apply (e : Event) (s : Shared) : Shared where
  settings := e.settings.getD s.settings
  table := s.table
  readings := e.publish s.readings
  metrics := s.metrics
  files := s.files.change e.changes

end Event

/-- A loop that runs alone: what it works on, and whether it has been told to stop. -/
structure Alone (α : Type) where
  work : α
  stopped : Bool := false
  deriving Inhabited

/-- The schedule of a loop that runs alone until it has ended or is told to stop. -/
def Alone.schedule {α : Type} (fire : Firing → α → α) (happen : Event → α → α)
    (ended : α → Bool) : Schedule (Alone α) Event where
  fire := fun _ f s => { s with work := fire f s.work }
  happen := fun e s =>
    { work := happen e s.work
      stopped := s.stopped || e.command == some SessionCommand.shutdown }
  ended := fun s => s.stopped || ended s.work

end NetworkTuning
