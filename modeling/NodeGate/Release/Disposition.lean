/-!
# Dispositions

What becomes of a key after a pass over its pod.
-/

namespace NodeGate

/-- What the worker does with a key after a pass. -/
inductive Disposition where
  /-- Queue it again at once and clear its failures. -/
  | immediate
  /-- Queue it again after its next retry delay. -/
  | backOff
  /-- Drop it and clear its failures. -/
  | forget
deriving DecidableEq, Repr

/-- The name of a disposition. -/
def Disposition.name : Disposition → String
  | .immediate => "immediate"
  | .backOff => "backoff"
  | .forget => "forget"

/-- The disposition of that name. -/
def Disposition.ofName? (text : String) : Option Disposition :=
  if text = "immediate" then some .immediate
  else if text = "backoff" then some .backOff
  else if text = "forget" then some .forget
  else none

end NodeGate
