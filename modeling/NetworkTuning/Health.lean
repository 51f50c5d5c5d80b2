/-!
# Health

The parts of the agent report how they are, each under its name. The agent as a whole is as well as
the worst of them, and it is ready once it has been marked so and no part is unhealthy.
-/

namespace NetworkTuning

/-- How a part is; a degraded one still works. -/
inductive Status where
  | healthy
  | degraded
  | unhealthy
  deriving Repr, DecidableEq, Inhabited

/-- Whether a part still works. -/
def Status.isOperational : Status → Bool
  | unhealthy => false
  | _ => true

/-- The worse of two. -/
def Status.worse : Status → Status → Status
  | unhealthy, _ => unhealthy
  | _, unhealthy => unhealthy
  | degraded, _ => degraded
  | _, degraded => degraded
  | healthy, healthy => healthy

/-- The name of a status. -/
def Status.name : Status → String
  | healthy => "healthy"
  | degraded => "degraded"
  | unhealthy => "unhealthy"

/-- What a part reports, and when. -/
structure ComponentHealth where
  status : Status
  message : Option String := none
  checkedAt : Int := 0
  deriving Repr, DecidableEq, Inhabited

/-- The reports of all parts by name, with the overall status. -/
structure HealthReport where
  status : Status := .healthy
  components : List (String × ComponentHealth) := []
  deriving Repr, DecidableEq, Inhabited

/-- Whether the agent is ready, and if not, why. -/
structure Readiness where
  ready : Bool
  reason : Option String := none
  deriving Repr, DecidableEq, Inhabited

/-- The part that samples the load. -/
def samplerPart : String := "stats_sampler"

/-- The part that holds the table. -/
def tablePart : String := "table"

/-- The part that applies settings. -/
def applierPart : String := "applier"

/-- The part that writes snapshots. -/
def persistencePart : String := "persistence"

/-- The parts of the agent. -/
def agentParts : List String := [samplerPart, tablePart, applierPart, persistencePart]

/-- The last report of each part, and whether the agent has been marked ready. -/
structure Health where
  components : List (String × ComponentHealth) := []
  ready : Bool := false
  now : Int := 0
  deriving Repr, DecidableEq, Inhabited

namespace Health

/-- Takes a report in place of the last one of the same name. -/
def update (h : Health) (name : String) (report : ComponentHealth) : Health :=
  if h.components.any fun c => c.1 = name then
    { h with
      components := h.components.map fun c => if c.1 = name then (name, report) else c }
  else { h with components := h.components ++ [(name, report)] }

/-- Reports a part as healthy. -/
def setHealthy (h : Health) (name : String) : Health := h.update name ⟨.healthy, none, h.now⟩

/-- Reports a part as degraded. -/
def setDegraded (h : Health) (name message : String) : Health :=
  h.update name ⟨.degraded, some message, h.now⟩

/-- Reports a part as unhealthy. -/
def setUnhealthy (h : Health) (name message : String) : Health :=
  h.update name ⟨.unhealthy, some message, h.now⟩

/-- Reports every part of the agent as healthy. -/
def registerAll (h : Health) : Health := agentParts.foldl setHealthy h

/-- The last report of a part. -/
def component? (h : Health) (name : String) : Option ComponentHealth :=
  (h.components.find? fun c => c.1 = name).map Prod.snd

/-- The worst status of some reports. -/
def worst (components : List (String × ComponentHealth)) : Status :=
  components.foldl (fun s c => s.worse c.2.status) .healthy

/-- The reports of all parts. -/
def report (h : Health) : HealthReport := ⟨worst h.components, h.components⟩

/-- Whether the agent is ready. -/
def readiness (h : Health) : Readiness :=
  if !h.ready then ⟨false, some "Profile table not loaded yet"⟩
  else if worst h.components = .unhealthy then ⟨false, some "Critical component unhealthy"⟩
  else ⟨true, none⟩

end Health

end NetworkTuning
