import NodeGate.Text.Quoted

/-!
# Pool states

The life of a pool machine: it is created, becomes available once it runs with a
node, is claimed for a pod, and goes back to available when the pod is deleted.
The state is kept in a label, so it has a fixed text form.
-/

namespace NodeGate

/-- The state of a pool machine. -/
inductive PoolState where
  /-- Created, and not yet known to run with a node. -/
  | creating
  /-- Ready to be claimed. -/
  | available
  /-- Bound to a pod. -/
  | claimed
deriving DecidableEq, Repr

namespace PoolState

/-- The state in which a pool machine starts. -/
def initial : PoolState :=
  .creating

/-- The label value of a state. -/
def label : PoolState → String
  | .creating => "creating"
  | .available => "available"
  | .claimed => "claimed"

/-- The state that a label value stands for. -/
def ofLabel? (text : String) : Option PoolState :=
  if text = "creating" then some .creating
  else if text = "available" then some .available
  else if text = "claimed" then some .claimed
  else none

/-- The message for a label value that stands for no state. -/
def unknownMessage (text : String) : String :=
  "unknown warm pool state: " ++ Text.quoted text

@[simp]
theorem ofLabel?_label (state : PoolState) : ofLabel? state.label = some state := by
  cases state <;> decide

/-- A text stands for a state exactly when it is the label value of that state. -/
theorem ofLabel?_eq_some_iff {text : String} {state : PoolState} :
    ofLabel? text = some state ↔ text = state.label := by
  constructor
  · intro found
    unfold ofLabel? at found
    split at found
    · cases found; assumption
    · split at found
      · cases found; assumption
      · split at found
        · cases found; assumption
        · cases found
  · rintro rfl
    exact ofLabel?_label state

end PoolState

end NodeGate
