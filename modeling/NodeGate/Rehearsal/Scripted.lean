import NodeGate.Fault

/-!
# Scripted faults

Faults that a rehearsal lets a call of the cluster end in, by the name of their
kind. A refusal is named by its code.
-/

namespace NodeGate.Rehearsal

/-- The code of a kind that names a refusal. -/
def refusalCode? (kind : String) : Option Nat :=
  match kind.toList with
  | 'a' :: 'p' :: 'i' :: ':' :: digits => (Text.readUnsigned 65535 digits).toOption
  | _ => none

/-- The fault of that kind with a message. -/
def scripted? (kind message : String) : Option Fault :=
  match refusalCode? kind with
  | some code => some (Fault.ofFailure { message, reason := "Scripted", code })
  | none =>
    if kind = "not_found" then some (.notFound message)
    else if kind = "conflict" then some (.conflict message)
    else if kind = "watch" then some (.watch message)
    else if kind = "invalid_vmi" then some (.invalidVmi message)
    else if kind = "invalid_config" then some (.invalidConfig message)
    else if kind = "invalid_pod" then some (.invalidPod "k" message)
    else if kind = "io" then some (.io message)
    else if kind = "metrics" then some (.metrics ("Error: " ++ message))
    else none

end NodeGate.Rehearsal
