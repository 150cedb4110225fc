import NodeGate.Pool.Tally
import NodeGate.Release.Disposition

/-!
# Counters

What the controller counts: passes by disposition, machines created by kind,
machines returned to the pool, the latest pool counts and the queue length.
-/

namespace NodeGate

/-- What a created machine is for. -/
inductive MachineKind where
  /-- One pod. -/
  | dedicated
  /-- The pool. -/
  | pool
deriving DecidableEq, Repr

/-- The counts since the start. -/
structure Counters where
  /-- The pool counts, once there are any. -/
  pool : Option Tally := none
  immediate : Nat := 0
  backedOff : Nat := 0
  forgotten : Nat := 0
  dedicatedCreated : Nat := 0
  poolCreated : Nat := 0
  returned : Nat := 0
  queueLength : Nat := 0
deriving DecidableEq, Repr

namespace Counters

/-- Records the pool counts. -/
def setPool (tally : Tally) (counters : Counters) : Counters :=
  { counters with pool := some tally }

/-- Counts a pass by its disposition. -/
def recordPass (counters : Counters) : Disposition → Counters
  | .immediate => { counters with immediate := counters.immediate + 1 }
  | .backOff => { counters with backedOff := counters.backedOff + 1 }
  | .forget => { counters with forgotten := counters.forgotten + 1 }

/-- Counts a created machine by its kind. -/
def recordCreated (counters : Counters) : MachineKind → Counters
  | .dedicated => { counters with dedicatedCreated := counters.dedicatedCreated + 1 }
  | .pool => { counters with poolCreated := counters.poolCreated + 1 }

/-- Counts a machine returned to the pool. -/
def recordReturned (counters : Counters) : Counters :=
  { counters with returned := counters.returned + 1 }

/-- Records the queue length. -/
def recordQueueLength (length : Nat) (counters : Counters) : Counters :=
  { counters with queueLength := length }

/-- The passes that ended with a disposition. -/
def passes (counters : Counters) : Disposition → Nat
  | .immediate => counters.immediate
  | .backOff => counters.backedOff
  | .forget => counters.forgotten

/-- The machines created of a kind. -/
def created (counters : Counters) : MachineKind → Nat
  | .dedicated => counters.dedicatedCreated
  | .pool => counters.poolCreated

end Counters

end NodeGate
