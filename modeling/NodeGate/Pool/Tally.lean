import NodeGate.Resource.GateConfig
import NodeGate.Resource.Vmi

/-!
# Pool tallies

How many pool machines are in each state, and the status that reports it.
-/

namespace NodeGate

/-- Counts of pool machines by state. -/
structure Tally where
  creating : Nat := 0
  available : Nat := 0
  claimed : Nat := 0
  /-- Machines whose state label stands for no state. -/
  unrecognized : Nat := 0
deriving DecidableEq, Repr

namespace Tally

/-- The machines that count towards the size of the pool. -/
def total (tally : Tally) : Nat :=
  tally.creating + tally.available

/-- Counts one machine more of a state. -/
def count (tally : Tally) : Option PoolState → Tally
  | some .creating => { tally with creating := tally.creating + 1 }
  | some .available => { tally with available := tally.available + 1 }
  | some .claimed => { tally with claimed := tally.claimed + 1 }
  | none => { tally with unrecognized := tally.unrecognized + 1 }

/-- Counts machines by the state that their label tells. -/
def ofMembers (members : List Vmi) : Tally :=
  members.foldl (fun tally vmi => tally.count vmi.poolState?) {}

/-- A count as reported: at most the largest number of 32 bits with sign. -/
def reported (count : Nat) : Int :=
  min count (Int.pow 2 31 - 1)

/-- The status that reports a tally as of an instant. -/
def status (now : Instant) (tally : Tally) : PoolStatus where
  total := reported tally.total
  available := reported tally.available
  claimed := reported tally.claimed
  lastUpdate := some now

end Tally

end NodeGate
