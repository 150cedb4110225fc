import NodeGate.Cluster.Event
import NodeGate.Cluster.Patch
import NodeGate.Fault
import NodeGate.Telemetry.Counters

/-!
# Programs against the cluster

What the controller does is written as a program: a tree of calls of the
cluster, each continued by any answer it may get, with signals, fresh names and
the time of day in between. A program commits to no cluster. `Program.runWith`
answers its calls from a state, and statements about every outcome of every call
are statements about the tree.
-/

namespace NodeGate

/-- A call of the cluster. -/
inductive Call where
  /-- Creates a machine. -/
  | createMachine (vmi : Vmi)
  /-- Reads a machine as it is stored, past the cache. -/
  | readMachine (space name : String)
  /-- Changes a machine and gives it back as stored. -/
  | changeMachine (space name : String) (patch : VmiPatch)
  /-- Deletes a machine, if a version is given only at that version. -/
  | deleteMachine (space name : String) (resourceVersion : Option String)
  | changePod (space name : String) (patch : PodPatch)
  | changeNode (name : String) (patch : NodePatch)
  /-- Changes the status of the configuration. -/
  | reportCounts (name : String) (patch : StatusPatch)
deriving DecidableEq

/-- What a call gives when it succeeds. -/
abbrev Call.Answer : Call → Type
  | .readMachine .. => Option Vmi
  | .changeMachine .. => Vmi
  | _ => Unit

/-- What the controller tells besides its calls. -/
inductive Signal where
  | event (event : Event)
  | log (line : LogLine)
  /-- The counts of the pool. -/
  | pool (tally : Tally)
  /-- A machine was created. -/
  | created (kind : MachineKind)
  /-- A machine went back to the pool. -/
  | returned
deriving DecidableEq

/-- A program that ends in a value. -/
inductive Program (α : Type) where
  /-- The end. -/
  | done (value : α)
  /-- A call, continued by its answer or its fault. -/
  | request (asked : Call) (next : Except Fault asked.Answer → Program α)
  /-- A signal. -/
  | signal (told : Signal) (next : Program α)
  /-- The distinguishing part of a new pool name. -/
  | freshPart (next : String → Program α)
  /-- The present time. -/
  | presentTime (next : Instant → Program α)

namespace Program

variable {α β : Type}

/-- Continues a program from its value. -/
def andThen : Program α → (α → Program β) → Program β
  | .done value, next => next value
  | .request asked rest, next => .request asked fun answer => (rest answer).andThen next
  | .signal told rest, next => .signal told (rest.andThen next)
  | .freshPart rest, next => .freshPart fun part => (rest part).andThen next
  | .presentTime rest, next => .presentTime fun now => (rest now).andThen next

instance : Monad Program where
  pure := .done
  bind := andThen

/-- Ending in the value again changes nothing. -/
@[simp]
theorem andThen_done (program : Program α) : program.andThen .done = program := by
  induction program with
  | done value => rfl
  | request asked rest ih => simp [andThen, ih]
  | signal told rest ih => simp [andThen, ih]
  | freshPart rest ih => simp [andThen, ih]
  | presentTime rest ih => simp [andThen, ih]

/-- How three programs in a row are grouped does not matter. -/
theorem andThen_assoc {γ : Type} (program : Program α) (next : α → Program β)
    (last : β → Program γ) :
    (program.andThen next).andThen last =
      program.andThen fun value => (next value).andThen last := by
  induction program with
  | done value => rfl
  | request asked rest ih => simp [andThen, ih]
  | signal told rest ih => simp [andThen, ih]
  | freshPart rest ih => simp [andThen, ih]
  | presentTime rest ih => simp [andThen, ih]

instance : LawfulMonad Program :=
  LawfulMonad.mk' Program (fun program => andThen_done program) (fun _ _ => rfl)
    (fun program next last => andThen_assoc program next last)

/-- One call. -/
def call (asked : Call) : Program (Except Fault asked.Answer) :=
  .request asked .done

/-- One signal. -/
def emit (told : Signal) : Program Unit :=
  .signal told (.done ())

/-- A remark on an object. -/
def remark (remark : Remark) (object : ObjectReference) (note : String) : Program Unit :=
  emit (.event (remark.event object note))

/-- A fault in the log. -/
def logFault (context : String) (fault : Fault) : Program Unit :=
  emit (.log (fault.logLine context))

/-- A new distinguishing part of a pool name. -/
def newPart : Program String :=
  .freshPart .done

/-- The present time. -/
def now : Program Instant :=
  .presentTime .done

/-- How a state answers what programs ask. -/
structure Answering (σ : Type) where
  call : (asked : Call) → σ → Except Fault asked.Answer × σ
  signal : Signal → σ → σ
  newPart : σ → String × σ
  now : σ → Instant

/-- Runs a program against a state. -/
def runWith {σ : Type} (answering : Answering σ) : Program α → σ → α × σ
  | .done value, state => (value, state)
  | .request asked next, state =>
    let (answer, state) := answering.call asked state
    runWith answering (next answer) state
  | .signal told next, state => runWith answering next (answering.signal told state)
  | .freshPart next, state =>
    let (part, state) := answering.newPart state
    runWith answering (next part) state
  | .presentTime next, state => runWith answering (next (answering.now state)) state

/-- A sequence runs its second part from the value and the state that its first
part ends in. -/
theorem runWith_andThen {σ : Type} (answering : Answering σ) (program : Program α)
    (next : α → Program β) (state : σ) :
    runWith answering (program.andThen next) state =
      runWith answering (next (runWith answering program state).1)
        (runWith answering program state).2 := by
  induction program generalizing state with
  | done value => rfl
  | request asked rest ih => simp [andThen, runWith, ih]
  | signal told rest ih => simp [andThen, runWith, ih]
  | freshPart rest ih => simp [andThen, runWith, ih]
  | presentTime rest ih => simp [andThen, runWith, ih]

end Program

/-- Counts what a signal tells. -/
def Counters.observe (counters : Counters) : Signal → Counters
  | .pool tally => counters.setPool tally
  | .created kind => counters.recordCreated kind
  | .returned => counters.recordReturned
  | _ => counters

end NodeGate
