import NodeGate.Text.Decimal
import NodeGate.Text.Quoted

/-!
# Faults

What can go wrong when the controller talks to the cluster or reads its
settings, with the wording of each fault and the severity it is logged at. An
answer of the API server that says "not found" or "conflict" is a fault of its
own, because callers treat the two differently from other refusals.
-/

namespace NodeGate

/-- A refusal by the API server. -/
structure ApiFailure where
  status : String := "Failure"
  message : String := ""
  reason : String := ""
  code : Nat
deriving DecidableEq, Repr

/-- The wording of a refusal. -/
def ApiFailure.text (failure : ApiFailure) : String :=
  "ApiError: " ++ failure.message ++ ": " ++ failure.reason ++
    " (ErrorResponse \x7b status: " ++ Text.quoted failure.status ++
    ", message: " ++ Text.quoted failure.message ++
    ", reason: " ++ Text.quoted failure.reason ++
    ", code: " ++ Text.decimalText failure.code ++ " \x7d)"

/-- A fault of the controller. -/
inductive Fault where
  /-- The API server refused the request. -/
  | refused (failure : ApiFailure)
  /-- There was no usable answer. -/
  | unanswered (text : String)
  /-- The object is gone. -/
  | notFound (text : String)
  /-- A concurrent write won, or the object exists. -/
  | conflict (text : String)
  /-- A pod breaks a rule of isolated pods. -/
  | invalidPod (key reason : String)
  /-- A machine lacks the metadata that identifies it. -/
  | invalidVmi (text : String)
  /-- A setting cannot be used. -/
  | invalidConfig (text : String)
  /-- A watch ended. -/
  | watch (text : String)
  /-- A patch or a manifest could not be written. -/
  | serialization (text : String)
  /-- The metrics could not be collected. -/
  | metrics (text : String)
  /-- A socket failed. -/
  | io (text : String)
deriving DecidableEq, Repr

/-- How loud a log line is. -/
inductive Severity where
  | debug
  | info
  | warn
  | error
deriving DecidableEq, Repr

/-- The name of a severity. -/
def Severity.name : Severity → String
  | .debug => "debug"
  | .info => "info"
  | .warn => "warn"
  | .error => "error"

/-- A line of the log. -/
structure LogLine where
  severity : Severity
  text : String
deriving DecidableEq, Repr

namespace Fault

/-- The fault that a refusal amounts to. -/
def ofFailure (failure : ApiFailure) : Fault :=
  if failure.code = 404 then .notFound failure.text
  else if failure.code = 409 then .conflict failure.text
  else .refused failure

/-- The wording of a fault. -/
def text : Fault → String
  | .refused failure => "Kubernetes error: " ++ failure.text
  | .unanswered text => "Kubernetes error: " ++ text
  | .notFound text => "Not found: " ++ text
  | .conflict text => "Conflict: " ++ text
  | .invalidPod key reason => "Invalid pod " ++ key ++ ": " ++ reason
  | .invalidVmi text => "Invalid VMI: " ++ text
  | .invalidConfig text => "Invalid configuration: " ++ text
  | .watch text => "Resource watch failed: " ++ text
  | .serialization text => "Serialization error: " ++ text
  | .metrics text => "Metrics error: " ++ text
  | .io text => "I/O error: " ++ text

/-- Whether the object is gone. -/
def isNotFound : Fault → Bool
  | .notFound _ => true
  | _ => false

/-- Whether a concurrent write won. -/
def isConflict : Fault → Bool
  | .conflict _ => true
  | _ => false

/-- The severity that a fault is logged at. -/
def severity : Fault → Severity
  | .notFound _ => .debug
  | .conflict _ => .info
  | .watch _ | .invalidConfig _ => .warn
  | _ => .error

/-- The log line of a fault in its context. -/
def logLine (context : String) (fault : Fault) : LogLine where
  severity := fault.severity
  text := context ++ ": " ++ fault.text

end Fault

end NodeGate
