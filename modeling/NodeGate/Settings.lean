import NodeGate.Fault
import NodeGate.Net.SocketAddress
import NodeGate.Resource.Names

/-!
# Settings of the process

The settings that the controller takes from its environment variables. A
variable that is not set has a default; numbers must be at least one.
-/

namespace NodeGate

/-- How a machine joins the cluster as a node. -/
structure JoinSettings where
  /-- Host and port of the API server. -/
  endpoint : String := "192.168.66.101:6443"
  /-- The bootstrap token. -/
  token : String := "abcdef.1234567890123456"
deriving DecidableEq, Repr

/-- The settings of the process. -/
structure Settings where
  workerThreads : Nat
  /-- The namespace of pool machines. -/
  poolNamespace : String
  poolIntervalSeconds : Nat
  metricsAddress : SocketAddress
  /-- The name under which events are reported. -/
  controllerName : String
  join : JoinSettings
deriving DecidableEq, Repr

namespace Settings

open NodeGate.Text

/-- The fault of a variable whose value cannot be read. -/
def unreadable (name value reason : String) : Fault :=
  .invalidConfig (name ++ "=" ++ quoted value ++ ": " ++ reason)

/-- Reads a whole number of 64 bits that is at least one. -/
def positive (name value : String) : Except Fault Nat :=
  match readUnsigned (Nat.pow 2 64 - 1) value.toList with
  | .error fault => .error (unreadable name value fault.message)
  | .ok number =>
    if number = 0 then .error (.invalidConfig (name ++ " must be at least 1")) else .ok number

/-- Reads a socket address. -/
def address (name value : String) : Except Fault SocketAddress :=
  match SocketAddress.parse value with
  | some address => .ok address
  | none => .error (unreadable name value "invalid socket address syntax")

/-- The settings that a look-up of variables gives; the first variable that
cannot be used decides the fault. -/
def ofLookup (lookup : String → Option String) : Except Fault Settings := do
  let value (name default : String) : String := (lookup name).getD default
  let workerThreads ← positive "WORKER_THREADS" (value "WORKER_THREADS" "3")
  let poolIntervalSeconds ←
    positive "POOL_RECONCILE_INTERVAL_SECS" (value "POOL_RECONCILE_INTERVAL_SECS" "30")
  let metricsAddress ← address "METRICS_ADDR" (value "METRICS_ADDR" "0.0.0.0:8080")
  let join : JoinSettings := {}
  return {
    workerThreads
    poolNamespace := value "POOL_NAMESPACE" controlNamespace
    poolIntervalSeconds
    metricsAddress
    controllerName := value "CONTROLLER_NAME" controllerAccount
    join :=
      { endpoint := value "KUBEADM_JOIN_ENDPOINT" join.endpoint
        token := value "KUBEADM_JOIN_TOKEN" join.token } }

end Settings

end NodeGate
