import NetworkTuning.Console.Page
import NetworkTuning.Json.Reader
import NetworkTuning.Web.Address

/-!
# Asking an agent

An agent answers requests for its report and for its health with data documents. A request fails if
its address is none, if it cannot be sent, if the answer is not a success, or if its body is not
what was asked for. An unhealthy agent answers with an error status and its health all the same.
-/

namespace NetworkTuning.Web

/-- The answer to a request. -/
structure Answer where
  status : Nat
  body : String
  deriving Repr, DecidableEq, Inhabited

/-- The usual name of a status. -/
def statusName (status : Nat) : String :=
  let names : List (Nat × String) := [
    (100, "Continue"), (101, "Switching Protocols"), (102, "Processing"), (200, "OK"),
    (201, "Created"), (202, "Accepted"), (203, "Non Authoritative Information"),
    (204, "No Content"), (205, "Reset Content"), (206, "Partial Content"), (207, "Multi-Status"),
    (208, "Already Reported"), (226, "IM Used"), (300, "Multiple Choices"),
    (301, "Moved Permanently"), (302, "Found"), (303, "See Other"), (304, "Not Modified"),
    (305, "Use Proxy"), (307, "Temporary Redirect"), (308, "Permanent Redirect"),
    (400, "Bad Request"), (401, "Unauthorized"), (402, "Payment Required"), (403, "Forbidden"),
    (404, "Not Found"), (405, "Method Not Allowed"), (406, "Not Acceptable"),
    (407, "Proxy Authentication Required"), (408, "Request Timeout"), (409, "Conflict"),
    (410, "Gone"), (411, "Length Required"), (412, "Precondition Failed"),
    (413, "Payload Too Large"), (414, "URI Too Long"), (415, "Unsupported Media Type"),
    (416, "Range Not Satisfiable"), (417, "Expectation Failed"), (418, "I'm a teapot"),
    (421, "Misdirected Request"), (422, "Unprocessable Entity"), (423, "Locked"),
    (424, "Failed Dependency"), (426, "Upgrade Required"), (428, "Precondition Required"),
    (429, "Too Many Requests"), (431, "Request Header Fields Too Large"),
    (451, "Unavailable For Legal Reasons"), (500, "Internal Server Error"),
    (501, "Not Implemented"), (502, "Bad Gateway"), (503, "Service Unavailable"),
    (504, "Gateway Timeout"), (505, "HTTP Version Not Supported"),
    (506, "Variant Also Negotiates"), (507, "Insufficient Storage"), (508, "Loop Detected"),
    (510, "Not Extended"), (511, "Network Authentication Required")]
  ((names.find? fun n => n.1 = status).map Prod.snd).getD "<unknown status code>"

/-- Why an agent did not give what it was asked for. -/
inductive QueryError where
  | badEndpoint (cause : AddressError)
  | badPath (cause : AddressError)
  /-- The request could not be sent. -/
  | notSent (causes : List String)
  | refused (answer : Answer)
  | unreadable
  deriving Repr, DecidableEq, Inhabited

/-- What went wrong, the outermost first. -/
def QueryError.chain : QueryError → List String
  | badEndpoint cause => ["Invalid agent endpoint", cause.message]
  | badPath cause => ["Invalid path", cause.message]
  | notSent causes => "Failed to send request" :: causes
  | refused a => [s!"API error ({a.status} " ++ statusName a.status ++ "): " ++ a.body]
  | unreadable => ["Failed to parse response"]

/-- What becomes of a request for an address: an answer, or the causes of its failure. -/
abbrev Transport := Address → Except (List String) Answer

/-- What becomes of requests where there is no network. -/
def offline : Transport := fun target =>
  let reason := "Network is unreachable (os error 101)"
  let connecting := "tcp connect error: " ++ reason
  let trying := "error trying to connect: " ++ connecting
  .error ["error sending request for url (" ++ target.anonymous.text ++ "): " ++ trying, trying,
    connecting, reason]

/-- Why no request can be made for an address, if its scheme is none that requests are made by. -/
def refusal? (target : Address) : Option (List String) :=
  let reason := "URL scheme is not allowed"
  if target.scheme = "http" ∨ target.scheme = "https" then none
  else some ["builder error for url (" ++ target.anonymous.text ++ "): " ++ reason, reason]

/-- The value in an answer that is a success or has one of the accepted statuses. -/
def Answer.value {α : Type} (accepted : List Nat) (decode : Json → Option α) (a : Answer) :
    Except QueryError α :=
  if (200 ≤ a.status ∧ a.status < 300) ∨ a.status ∈ accepted then
    match (Json.read? a.body).bind decode with
    | some value => .ok value
    | none => .error .unreadable
  else .error (.refused a)

/-- Asks the agent at an endpoint for what goes by a name there. -/
def query {α : Type} (send : Transport) (endpoint name : String) (accepted : List Nat)
    (decode : Json → Option α) : Except QueryError α := do
  let address ← (Address.ofText endpoint).mapError QueryError.badEndpoint
  let some target := address.sibling? name | .error (.badPath .noBase)
  match refusal? target with
  | some causes => .error (.notSent causes)
  | none =>
    let answer ← (send target).mapError QueryError.notSent
    answer.value accepted decode

/-- Asks an agent for its report. -/
def askReport (send : Transport) (endpoint : String) : Except QueryError SessionReport :=
  query send endpoint "report" [] SessionReport.ofJson?

/-- Asks an agent for its health. -/
def askHealth (send : Transport) (endpoint : String) : Except QueryError HealthReport :=
  query send endpoint "healthz" [503] HealthReport.ofJson?

/-- The page of an agent's report. -/
def reportPage (send : Transport) (endpoint : String) (look : Console.Look) :
    Except QueryError String :=
  (askReport send endpoint).map (Console.report look)

/-- The page of an agent's health. -/
def healthPage (send : Transport) (endpoint : String) (look : Console.Look) :
    Except QueryError String :=
  (askHealth send endpoint).map (Console.health look)

end NetworkTuning.Web
