import NodeGate.Fault
import NodeGate.Resource.Names

/-!
# Object keys

The namespace and the name by which an object is addressed and work on it is
queued.
-/

namespace NodeGate

/-- The namespace and the name of an object. -/
structure ObjectKey where
  /-- The namespace. -/
  space : String
  name : String
deriving DecidableEq, Repr

namespace ObjectKey

/-- The work key. -/
def text (key : ObjectKey) : String :=
  workKey key.space key.name

/-- The parts of a work key, or the fault of a malformed one. -/
def ofText (text : String) : Except Fault ObjectKey :=
  match keyParts? text with
  | some (space, name) => .ok ⟨space, name⟩
  | none => .error (.invalidPod text "key is not namespace/name")

/-- The name of a key that was read from a text is found again after its last slash. -/
theorem afterLastSlash_text {text : String} {key : ObjectKey} (named : ofText text = .ok key) :
    afterLastSlash key.text = key.name := by
  unfold ofText at named
  split at named
  next parts =>
    cases named
    exact afterLastSlash_workKey (slash_not_mem_of_keyParts? parts)
  next => contradiction

end ObjectKey

end NodeGate
