import NetworkTuning.Settings.Load

/-!
# Configuration of an agent

An agent takes its name and the network port it answers on from the environment. A value that cannot
be converted leaves the whole configuration at its defaults.
-/

namespace NetworkTuning

/-- The name of the agent's host, and the network port it answers on. -/
structure AgentConfig where
  nodeName : String
  port : UInt16
  deriving Repr, DecidableEq, Inhabited

namespace AgentConfig

/-- The configuration of an agent that is told nothing, apart from the name of its host. -/
def default (environment : List (String × String)) : AgentConfig where
  nodeName := ((environment.find? fun e => e.1 = "HOSTNAME").map Prod.snd).getD "unknown"
  port := 8080

/-- A number as a network port, which has 16 bits. -/
def fitPort (n : Nat) : Except Settings.Fault UInt16 :=
  if n < UInt16.size then .ok n.toUInt16
  else .error (.wrongShape s!"integer `{n}`" "an unsigned 16 bit integer")

/-- A value as a network port: a whole number from zero on, a truth value as 1 or 0, a real number
as the nearest whole one, with 0 for what is below. -/
def portOf : Settings.Entry → Except Settings.Fault UInt16
  | .scalar _ (.whole n) =>
    if 0 ≤ n then fitPort n.toNat
    else .error (.wrongShape s!"integer `{n}`" "an unsigned 64 bit or less integer")
  | .scalar _ (.flag b) => .ok (if b then 1 else 0)
  | .scalar _ (.real x) => fitPort (Settings.roundToInt64 x).toNat
  | .scalar _ (.text s) =>
    match Settings.truth? s with
    | some b => .ok (if b then 1 else 0)
    | none =>
      match Decimal.word64? s.toList with
      | some n => fitPort n.toNat
      | none =>
        .error (.wrongShape ("string " ++ Text.quoted s) "an unsigned 64 bit or less integer")
  | e => .error (.wrongShape e.describe "an unsigned 64 bit or less integer")

/-- The configuration that entries make up, over the defaults. -/
def ofEntries (base : AgentConfig) (root : Settings.Entry) : Except Settings.Fault AgentConfig := do
  let nodeName ← match root.member? "node_name" with
    | some e => e.toText "node_name"
    | none => .ok base.nodeName
  let port ← match root.member? "api_port" with
    | some e => portOf e
    | none => .ok base.port
  return { nodeName, port }

/-- The configuration that an environment gives. -/
def load (environment : List (String × String)) : AgentConfig :=
  let base := default environment
  let entries := (Settings.namesUnder "tuner_agent_" environment).map fun e =>
    (e.1, Settings.environmentEntry e.2)
  match ofEntries base (Settings.layOver (.table none []) entries) with
  | .ok config => config
  | .error _ => base

end AgentConfig

end NetworkTuning
