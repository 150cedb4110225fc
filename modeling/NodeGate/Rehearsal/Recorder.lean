import NodeGate.Cluster.Program
import NodeGate.Rehearsal.Scripted

/-!
# The recorder

A stand-in for the cluster. It writes down every call, event and log line,
keeps the machines that exist apart from any cache, and lets calls fail as
scripted. Nothing that it is asked to write reaches a cache.
-/

namespace NodeGate

/-- The name of what a call does. -/
def Call.name : Call → String
  | .createMachine .. => "create_vmi"
  | .readMachine .. => "get_vmi"
  | .changeMachine .. => "patch_vmi"
  | .deleteMachine .. => "delete_vmi"
  | .changePod .. => "patch_pod"
  | .changeNode .. => "patch_node"
  | .reportCounts .. => "patch_config_status"

namespace Rehearsal

/-- A failure to come: of the next call of that name. -/
structure Mishap where
  callName : String
  kind : String
  fault : Fault

/-- A call that was made. -/
structure CallRecord where
  asked : Call
  /-- Whether a machine that was asked for exists. -/
  found : Bool := false
  /-- The kind of the scripted failure that struck. -/
  failed : Option String := none

/-- What happened, in order. -/
structure Record where
  calls : List CallRecord := []
  events : List Event := []
  logs : List LogLine := []

/-- The stand-in and what it wrote down. -/
structure Recorder where
  /-- The machines that exist. -/
  live : List Vmi := []
  mishaps : List Mishap := []
  record : Record := {}
  counters : Counters := {}

namespace Recorder

/-- Takes the first mishap of a call out of those to come. -/
def takeMishap? (name : String) : List Mishap → Option (Mishap × List Mishap)
  | [] => none
  | first :: rest =>
    if first.callName = name then some (first, rest)
    else (takeMishap? name rest).map fun (found, others) => (found, first :: others)

/-- Whether a machine has that namespace and name. -/
def isNamed (space name : String) (vmi : Vmi) : Bool :=
  vmi.metadata.space == some space && vmi.metadata.name == some name

/-- The machine that exists under a namespace and name. -/
def find? (space name : String) (recorder : Recorder) : Option Vmi :=
  recorder.live.find? (isNamed space name)

/-- Writes a call down. -/
def note (entry : CallRecord) (recorder : Recorder) : Recorder :=
  { recorder with record :=
      { recorder.record with calls := recorder.record.calls ++ [entry] } }

/-- The machine that a patch gives back: bare, at the version after the patch. -/
def patched (space name : String) (patch : VmiPatch) : Vmi where
  metadata :=
    { space := some space
      name := some name
      resourceVersion := some (patch.resourceVersion.getD "" ++ "+1") }
  spec := {}

/-- What a call gives when no mishap strikes. -/
def grant (recorder : Recorder) : (asked : Call) → asked.Answer × Recorder
  | .createMachine vmi => ((), { recorder with live := recorder.live ++ [vmi] })
  | .readMachine space name => (recorder.find? space name, recorder)
  | .changeMachine space name patch => (patched space name patch, recorder)
  | .deleteMachine space name _ =>
    ((), { recorder with live := recorder.live.filter fun vmi => !isNamed space name vmi })
  | .changePod .. => ((), recorder)
  | .changeNode .. => ((), recorder)
  | .reportCounts .. => ((), recorder)

/-- Whether a machine that a call asks for exists. -/
def finds (recorder : Recorder) : Call → Bool
  | .readMachine space name => (recorder.find? space name).isSome
  | _ => false

/-- Answers a call. -/
def answer (asked : Call) (recorder : Recorder) : Except Fault asked.Answer × Recorder :=
  match takeMishap? asked.name recorder.mishaps with
  | some (mishap, mishaps) =>
    (.error mishap.fault,
      { recorder with mishaps := mishaps }.note { asked, failed := some mishap.kind })
  | none =>
    let (value, after) := recorder.grant asked
    (.ok value, after.note { asked, found := recorder.finds asked })

/-- Writes a signal down. -/
def hear (told : Signal) (recorder : Recorder) : Recorder :=
  let counted := { recorder with counters := recorder.counters.observe told }
  match told with
  | .event event =>
    { counted with record :=
        { counted.record with events := counted.record.events ++ [event] } }
  | .log line =>
    { counted with record := { counted.record with logs := counted.record.logs ++ [line] } }
  | _ => counted

/-- What every new pool name ends in. -/
def constantPart : String := "********"

/-- The instant at which everything happens. -/
def constantNow : Instant where
  date := ⟨2026, 1, 1⟩
  hour := 0
  minute := 0
  second := 0
  nanosecond := 0

/-- How the recorder answers programs. -/
def answering : Program.Answering Recorder where
  call := answer
  signal := hear
  newPart := fun recorder => (constantPart, recorder)
  now := fun _ => constantNow

end Recorder

end Rehearsal

end NodeGate
