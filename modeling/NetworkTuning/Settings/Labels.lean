/-!
# Labels

Labels say where a run takes place, for what business, and to what end. They are passed through and
decide nothing.
-/

namespace NetworkTuning

/-- The region of a run. -/
inductive Geography where
  | emea
  | na
  | lat
  | apac
  deriving Repr, DecidableEq, Inhabited

/-- The business a run serves. -/
inductive Business where
  | retail
  | automotive
  | service
  deriving Repr, DecidableEq, Inhabited

/-- What a run is tuned for. -/
inductive Goal where
  | throughput
  | latency
  | power
  deriving Repr, DecidableEq, Inhabited

/-- All regions with their names. -/
def Geography.named : List (String × Geography) :=
  [("EMEA", .emea), ("NA", .na), ("LAT", .lat), ("APAC", .apac)]

/-- All businesses with their names. -/
def Business.named : List (String × Business) :=
  [("RETAIL", .retail), ("AUTOMOTIVE", .automotive), ("SERVICE", .service)]

/-- All goals with their names. -/
def Goal.named : List (String × Goal) :=
  [("THROUGHPUT", .throughput), ("LATENCY", .latency), ("POWER", .power)]

/-- The name of a region. -/
def Geography.name : Geography → String
  | emea => "EMEA"
  | na => "NA"
  | lat => "LAT"
  | apac => "APAC"

/-- The name of a business. -/
def Business.name : Business → String
  | retail => "RETAIL"
  | automotive => "AUTOMOTIVE"
  | service => "SERVICE"

/-- The name of a goal. -/
def Goal.name : Goal → String
  | throughput => "THROUGHPUT"
  | latency => "LATENCY"
  | power => "POWER"

/-- The labels of a run, each of which may be absent. -/
structure Labels where
  geography : Option Geography := none
  business : Option Business := none
  goal : Option Goal := none
  deriving Repr, DecidableEq, Inhabited

end NetworkTuning
