import NodeGate.Proofs.Admission.NewPods
import NodeGate.Proofs.Json.ReadingBack

/-!
# Readers of pods

A reader of pods may ask more of a document than what is kept of a pod: it knows the types of
all members. Two things are relied on. What it reads of the kept members is what they say,
and it reads each member by itself, so that a document that can be read can still be read
after members of it were set to values that can.
-/

namespace NodeGate

open Json Entries

namespace Pod

/-- A reader that may refuse documents for members that are not kept. -/
structure IsReader (reads : Json → Option Pod) : Prop where
  /-- What is kept of a pod is what its members say. -/
  kept : ∀ (json : Json) (pod : Pod), json.IsSettled → reads json = some pod →
    decode json = some pod
  /-- A document that can be read is read as well with other members for the isolation of
  the pod, as long as these can be read. -/
  isolation : ∀ (document after : PodDocument) (pod amended : Pod), document.json.IsSettled →
    reads document.json = some pod → after.json.SameButIsolation document.json →
      decode after.json = some amended → reads after.json = some amended

/-- Reads what is kept of a pod if the document is as asked. -/
def decodeIf (asked : Json → Bool) (json : Json) : Option Pod :=
  if asked json then decode json else none

theorem decode_of_decodeIf {asked : Json → Bool} {json : Json} {pod : Pod}
    (read : decodeIf asked json = some pod) : decode json = some pod := by
  unfold decodeIf at read
  split at read
  · exact read
  · contradiction

/-- Whatever is asked of the members that are not kept, what is kept is read. -/
theorem isReader_decodeIf {asked : Json → Bool}
    (apart : ∀ one other : Json, one.SameButIsolation other → asked one = asked other) :
    IsReader (decodeIf asked) where
  kept json pod _ read := decode_of_decodeIf read
  isolation document after pod amended _ read same decoded := by
    unfold decodeIf at read ⊢
    rw [apart _ _ same]
    split at read
    · rwa [if_pos ‹_›]
    · contradiction

/-- Whether the restart policy, if there is one, is a text. -/
def spellsRestartPolicy (json : Json) : Bool :=
  match json.specMember? "restartPolicy" with
  | none | some .null | some (.str _) => true
  | some _ => false

theorem spellsRestartPolicy_congr {one other : Json} (same : one.SameButIsolation other) :
    spellsRestartPolicy one = spellsRestartPolicy other := by
  rw [spellsRestartPolicy, same.specified "restartPolicy" (by decide), ← spellsRestartPolicy]

end Pod

end NodeGate
