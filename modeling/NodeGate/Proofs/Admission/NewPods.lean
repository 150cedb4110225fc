import NodeGate.Proofs.Admission.PodDocument
import NodeGate.Proofs.Cluster.MergedPods

/-!
# Admitting a new pod

What a pod that asks for isolation is made to carry: our finalizer, our gate, a toleration
of the taint of its node and the selector of that node. The operations on a new pod
succeed one after the other on its document and leave it with all four and otherwise as it
was, and a pod that carries them is admitted without any operation.
-/

namespace NodeGate

open Json Entries Admission

namespace Pod

variable {pod : Pod} {name taintKey : String}

/-- The tolerations of the pod, in order. -/
def tolerations (pod : Pod) : List Toleration :=
  (pod.spec.bind PodSpec.tolerations).getD []

/-- Whether one of the tolerations is about the taint with that key. -/
def mentions (pod : Pod) (taintKey : String) : Bool :=
  pod.tolerations.any (·.key == some taintKey)

/-- The pod with our finalizer, behind the others unless it is among them. -/
def guarded (pod : Pod) : Pod :=
  if pod.hasFinalizer then pod
  else
    { pod with metadata := { pod.metadata with
        finalizers := some (pod.finalizers ++ [finalizerName]) } }

/-- The pod with our gate, behind the others unless it is among them. -/
def held (pod : Pod) : Pod :=
  if pod.isGated then pod
  else
    { pod with spec := pod.spec.map fun spec =>
        { spec with gates := some (pod.gates ++ [gateName]) } }

/-- The pod with a toleration of the taint with that key, behind the others unless one of
them is about that taint. -/
def tolerating (pod : Pod) (taintKey : String) : Pod :=
  if pod.mentions taintKey then pod
  else
    { pod with spec := pod.spec.map fun spec =>
        { spec with tolerations := some (pod.tolerations ++ [tolerationOf taintKey]) } }

/-- The pod that selects the node of that name and otherwise selects as before. -/
def selecting (pod : Pod) (name : String) : Pod :=
  { pod with spec := pod.spec.map fun spec =>
      { spec with nodeSelector := some ((spec.nodeSelector.getD []).insert hostLabel name) } }

/-- The pod that waits for the node of its name, which has a taint under that key. -/
def awaitingNode (pod : Pod) (name taintKey : String) : Pod :=
  (pod.guarded.held.tolerating (reservationKey name taintKey)).selecting name

theorem spec_guarded : pod.guarded.spec = pod.spec := by
  unfold guarded
  split <;> rfl

theorem gates_guarded : pod.guarded.gates = pod.gates := by
  rw [gates, spec_guarded, gates]

theorem name_guarded : pod.guarded.metadata.name = pod.metadata.name := by
  unfold guarded
  split <;> rfl

theorem isIsolated_guarded : pod.guarded.isIsolated = pod.isIsolated := by
  unfold guarded
  split <;> rfl

theorem hasFinalizer_guarded : pod.guarded.hasFinalizer = true := by
  unfold guarded
  split
  next ours => exact ours
  next => simp [hasFinalizer, finalizers]

theorem metadata_held : pod.held.metadata = pod.metadata := by
  unfold held
  split <;> rfl

theorem metadata_tolerating : (pod.tolerating taintKey).metadata = pod.metadata := by
  unfold tolerating
  split <;> rfl

theorem metadata_awaitingNode :
    (pod.awaitingNode name taintKey).metadata = pod.guarded.metadata :=
  metadata_tolerating.trans metadata_held

theorem tolerations_held : pod.held.spec.bind PodSpec.tolerations =
    pod.spec.bind PodSpec.tolerations := by
  unfold held
  split
  · rfl
  · cases pod.spec <;> rfl

theorem nodeSelector_held : pod.held.spec.bind PodSpec.nodeSelector =
    pod.spec.bind PodSpec.nodeSelector := by
  unfold held
  split
  · rfl
  · cases pod.spec <;> rfl

theorem isSome_spec_held : pod.held.spec.isSome = pod.spec.isSome := by
  unfold held
  split
  · rfl
  · exact Option.isSome_map

theorem isGated_held (specified : pod.spec.isSome = true) : pod.held.isGated = true := by
  obtain ⟨spec, isSpec⟩ := Option.isSome_iff_exists.mp specified
  unfold held
  split
  next gated => exact gated
  next => simp [isGated, gateCount, gates, isSpec]

theorem gates_tolerating : (pod.tolerating taintKey).gates = pod.gates := by
  unfold tolerating gates
  split
  · rfl
  · cases pod.spec <;> rfl

theorem nodeSelector_tolerating : (pod.tolerating taintKey).spec.bind PodSpec.nodeSelector =
    pod.spec.bind PodSpec.nodeSelector := by
  unfold tolerating
  split
  · rfl
  · cases pod.spec <;> rfl

theorem mentions_tolerating (specified : pod.spec.isSome = true) :
    (pod.tolerating taintKey).mentions taintKey = true := by
  obtain ⟨spec, isSpec⟩ := Option.isSome_iff_exists.mp specified
  unfold tolerating
  split
  next mentioned => exact mentioned
  next => simp [mentions, tolerations, isSpec, tolerationOf]

theorem isSome_spec_tolerating : (pod.tolerating taintKey).spec.isSome = pod.spec.isSome := by
  unfold tolerating
  split
  · rfl
  · exact Option.isSome_map

theorem gates_selecting : (pod.selecting name).gates = pod.gates := by
  unfold selecting gates
  cases pod.spec <;> rfl

theorem tolerations_selecting : (pod.selecting name).spec.bind PodSpec.tolerations =
    pod.spec.bind PodSpec.tolerations := by
  unfold selecting
  cases pod.spec <;> rfl

theorem selectedHost?_selecting (specified : pod.spec.isSome = true) :
    (pod.selecting name).selectedHost? = some name := by
  obtain ⟨spec, isSpec⟩ := Option.isSome_iff_exists.mp specified
  simp [selecting, selectedHost?, isSpec]

/-- A pod that selects the node already does not change. -/
theorem selecting_of_selected {spec : PodSpec} (isSpec : pod.spec = some spec)
    (sorted : Sorted (spec.nodeSelector.getD [])) (selected : pod.selectedHost? = some name) :
    pod.selecting name = pod := by
  obtain ⟨metadata, _⟩ := pod
  obtain rfl := isSpec
  cases selecting : spec.nodeSelector with
  | none => simp [selectedHost?, selecting] at selected
  | some selector =>
      rw [selecting, Option.getD_some] at sorted
      have found : get? hostLabel selector = some name := by
        simpa [selectedHost?, selecting] using selected
      have same : { spec with nodeSelector := some selector } = spec := by rw [← selecting]
      simp [Pod.selecting, selecting, insert_of_get? sorted found, same]

/-- A pod that waits for its node is gated. -/
theorem isGated_awaitingNode (specified : pod.spec.isSome = true) :
    (pod.awaitingNode name taintKey).isGated = true := by
  have gated : pod.guarded.held.isGated = true := isGated_held (by rw [spec_guarded, specified])
  rw [awaitingNode, isGated, gateCount, gates_selecting, gates_tolerating, ← gateCount, ← isGated,
    gated]

end Pod

namespace Admission

variable {pod amended : Pod} {policy : Policy} {name taintKey : String}

theorem tolerationOperations_of_mentions (mentioned : pod.mentions taintKey = true) :
    tolerationOperations pod taintKey = [] := by
  unfold Pod.mentions Pod.tolerations at mentioned
  unfold tolerationOperations
  cases tolerating : pod.spec.bind PodSpec.tolerations with
  | none => simp [tolerating] at mentioned
  | some tolerations =>
      rw [tolerating, Option.getD_some] at mentioned
      exact if_pos mentioned

/-- A pod that waits for its node lacks nothing. -/
theorem newPodOperations_awaitingNode (policy : Policy) (isolated : pod.isIsolated = true)
    (named : pod.metadata.name = some name) (proper : name.isEmpty = false)
    (specified : pod.spec.isSome = true) :
    newPodOperations policy (pod.awaitingNode name policy.taintKey) = .ok (some []) := by
  have isolated : (pod.awaitingNode name policy.taintKey).isIsolated = true := by
    rw [Pod.isIsolated, Pod.metadata_awaitingNode, ← Pod.isIsolated, Pod.isIsolated_guarded,
      isolated]
  have named : (pod.awaitingNode name policy.taintKey).metadata.name = some name := by
    rw [Pod.metadata_awaitingNode, Pod.name_guarded, named]
  have heldSpec : pod.guarded.held.spec.isSome = true := by
    rw [Pod.isSome_spec_held, Pod.spec_guarded, specified]
  have finalizer : finalizerOperations (pod.awaitingNode name policy.taintKey) = [] := by
    rw [finalizerOperations, Pod.hasFinalizer, Pod.finalizers, Pod.metadata_awaitingNode,
      ← Pod.finalizers, ← Pod.hasFinalizer, Pod.hasFinalizer_guarded, if_pos rfl]
  have gate : gateOperations (pod.awaitingNode name policy.taintKey) = [] := by
    rw [gateOperations, Pod.isGated_awaitingNode specified, if_pos rfl]
  have toleration : tolerationOperations (pod.awaitingNode name policy.taintKey)
      (reservationKey name policy.taintKey) = [] := by
    apply tolerationOperations_of_mentions
    rw [Pod.mentions, Pod.tolerations, Pod.awaitingNode, Pod.tolerations_selecting,
      ← Pod.tolerations, ← Pod.mentions, Pod.mentions_tolerating heldSpec]
  have selector : selectorOperations (pod.awaitingNode name policy.taintKey) name = [] := by
    have tolerating : (pod.guarded.held.tolerating
        (reservationKey name policy.taintKey)).spec.isSome = true := by
      rw [Pod.isSome_spec_tolerating, heldSpec]
    rw [selectorOperations, Pod.awaitingNode, Pod.selectedHost?_selecting tolerating, if_pos rfl]
  simp [newPodOperations, isolated, named, proper, finalizer, gate, toleration, selector]

/-- A document after some operations is performed on by those that follow. -/
theorem performAll?_append (operations others : List AddOperation) (document : Json) :
    AddOperation.performAll? (operations ++ others) document =
      (AddOperation.performAll? operations document).bind (AddOperation.performAll? others) := by
  induction operations generalizing document with
  | nil => rfl
  | cons operation rest ih =>
      simp only [List.cons_append, AddOperation.performAll?]
      cases operation.perform? document with
      | none => rfl
      | some changed => exact ih changed

end Admission

/-- The documents agree in all but the members that make a pod wait for its node. -/
structure Json.SameButIsolation (one other : Json) : Prop where
  beside : ∀ name, name ≠ "metadata" → name ≠ "spec" → one.member? name = other.member? name
  within : ∀ name, name ≠ "finalizers" → one.metadataMember? name = other.metadataMember? name
  specified : ∀ name, name ∉ ["schedulingGates", "tolerations", "nodeSelector"] →
    one.specMember? name = other.specMember? name

theorem Json.SameButIsolation.refl (json : Json) : json.SameButIsolation json :=
  ⟨fun _ _ _ => rfl, fun _ _ => rfl, fun _ _ => rfl⟩

theorem Json.SameButIsolation.trans {one other another : Json} (first : one.SameButIsolation other)
    (second : other.SameButIsolation another) : one.SameButIsolation another where
  beside name outside apart :=
    (first.beside name outside apart).trans (second.beside name outside apart)
  within name kept := (first.within name kept).trans (second.within name kept)
  specified name kept := (first.specified name kept).trans (second.specified name kept)

namespace PodDocument

variable {document middle after : PodDocument} {pod amended : Pod} {name taintKey : String}
  {value : Json} {operations others : List AddOperation}

theorem metadataMember?_json :
    document.json.metadataMember? name = get? name document.metadata := by
  rw [metadataMember?, json, member?, document.metadata_eq, Option.bind_some, member?]

theorem specMember?_json : document.json.specMember? name = get? name document.spec := by
  rw [specMember?, json, member?, document.spec_eq, Option.bind_some, member?]

theorem setFinalizers_same :
    (document.setMetadata "finalizers" value).json.SameButIsolation document.json where
  beside name outside _ := get?_insert_of_ne outside _ _
  within name other := by
    rw [metadataMember?_json, metadataMember?_json]
    exact get?_insert_of_ne other _ _
  specified name _ := by
    rw [specMember?_json, specMember?_json]
    rfl

theorem setSpec_same (isolating : name ∈ ["schedulingGates", "tolerations", "nodeSelector"]) :
    (document.setSpec name value).json.SameButIsolation document.json where
  beside other _ apart := get?_insert_of_ne apart _ _
  within other _ := by
    rw [metadataMember?_json, metadataMember?_json]
    rfl
  specified other kept := by
    have apart : other ≠ name := by
      rintro rfl
      exact kept isolating
    rw [specMember?_json, specMember?_json]
    exact get?_insert_of_ne apart _ _

/-- The operations succeed on the document and make a document of the amended pod of it,
without a change to anything else. -/
structure Amends (operations : List AddOperation) (document after : PodDocument)
    (amended : Pod) : Prop where
  performed : AddOperation.performAll? operations document.json = some after.json
  decoded : Pod.decode after.json = some amended
  same : after.json.SameButIsolation document.json

theorem Amends.refl (decoded : Pod.decode document.json = some pod) :
    Amends [] document document pod :=
  ⟨rfl, decoded, .refl _⟩

theorem Amends.trans (first : Amends operations document middle pod)
    (second : Amends others middle after amended) :
    Amends (operations ++ others) document after amended where
  performed := by rw [performAll?_append, first.performed, Option.bind_some, second.performed]
  decoded := second.decoded
  same := second.same.trans first.same

theorem add_metadata : addAt? value ["metadata", name] document.json =
    some (document.setMetadata name value).json := by
  simp [addAt?, json, document.metadata_eq, setMetadata]

theorem add_spec : addAt? value ["spec", name] document.json =
    some (document.setSpec name value).json := by
  simp [addAt?, json, document.spec_eq, setSpec]

theorem add_last {items : List Json} (found : get? name document.spec = some (.arr items)) :
    addAt? value ["spec", name, "-"] document.json =
      some (document.setSpec name (.arr (items ++ [value]))).json := by
  simp [addAt?, addPosition?, json, document.spec_eq, found, setSpec]

/-- One operation that sets a member amends the document by that. -/
theorem amends_of_add {path : String} {names : List String}
    (pointed : pointerNames? path = some names)
    (added : addAt? value names document.json = some after.json)
    (decoded : Pod.decode after.json = some amended)
    (same : after.json.SameButIsolation document.json) :
    Amends [⟨path, value⟩] document after amended where
  performed := by
    rw [AddOperation.performAll?, AddOperation.perform?, add?, pointed]
    simp [added, AddOperation.performAll?]
  decoded := decoded
  same := same

theorem exists_amends_finalizer (decoded : Pod.decode document.json = some pod) :
    ∃ after, Amends (finalizerOperations pod) document after pod.guarded := by
  unfold finalizerOperations Pod.guarded
  split
  · exact ⟨document, .refl decoded⟩
  · refine ⟨document.setMetadata "finalizers" _,
      amends_of_add (by decide) add_metadata ?_ setFinalizers_same⟩
    obtain ⟨-, -, described, -⟩ := decode_eq_some_iff.mp decoded
    exact decode_setMetadata decoded
      (ObjectMeta.decode_insert_finalizers document.metadata_sorted _ described)

theorem exists_amends_gate (decoded : Pod.decode document.json = some pod) :
    ∃ after, Amends (gateOperations pod) document after pod.held := by
  obtain ⟨-, -, -, spec, specified, isSpec⟩ := decode_eq_some_iff.mp decoded
  unfold gateOperations Pod.held
  split
  · exact ⟨document, .refl decoded⟩
  · refine ⟨document.setSpec "schedulingGates" _,
      amends_of_add (by decide) add_spec ?_ (setSpec_same (by simp))⟩
    rw [isSpec, Option.map_some]
    exact decode_setSpec decoded (PodSpec.decode_insert_gates document.spec_sorted _ specified)

theorem exists_amends_toleration (taintKey : String)
    (decoded : Pod.decode document.json = some pod) :
    ∃ after, Amends (tolerationOperations pod taintKey) document after
      (pod.tolerating taintKey) := by
  obtain ⟨-, -, -, spec, specified, isSpec⟩ := decode_eq_some_iff.mp decoded
  have written : Toleration.decode (tolerationOf taintKey).toJson =
      some (tolerationOf taintKey) := rfl
  unfold tolerationOperations Pod.tolerating Pod.mentions Pod.tolerations
  rw [isSpec, Option.bind_some, Option.map_some]
  cases tolerating : spec.tolerations with
  | none =>
      refine ⟨document.setSpec "tolerations" _,
        amends_of_add (by decide) add_spec ?_ (setSpec_same (by simp))⟩
      apply decode_setSpec decoded
      apply PodSpec.decode_insert_tolerations document.spec_sorted _ specified
      simp [decodeAll, written]
  | some tolerations =>
      obtain ⟨items, found, tolerated⟩ :=
        PodSpec.exists_tolerations document.spec_sorted specified tolerating
      dsimp only [Option.getD_some]
      split
      · exact ⟨document, .refl decoded⟩
      · refine ⟨document.setSpec "tolerations" _,
          amends_of_add (by decide) (add_last found) ?_ (setSpec_same (by simp))⟩
        apply decode_setSpec decoded
        apply PodSpec.decode_insert_tolerations document.spec_sorted _ specified
        exact decodeAll_append tolerated (by simp [decodeAll, written])

theorem exists_amends_selector (name : String) (decoded : Pod.decode document.json = some pod) :
    ∃ after, Amends (selectorOperations pod name) document after (pod.selecting name) := by
  obtain ⟨-, -, -, spec, specified, isSpec⟩ := decode_eq_some_iff.mp decoded
  have sorted := PodSpec.sorted_selector document.spec_sorted specified
  unfold selectorOperations
  split
  next selected =>
    rw [Pod.selecting_of_selected isSpec sorted selected]
    exact ⟨document, .refl decoded⟩
  next =>
    refine ⟨document.setSpec "nodeSelector" _,
      amends_of_add (by decide) add_spec ?_ (setSpec_same (by simp))⟩
    rw [Pod.selecting, isSpec, Option.map_some]
    exact decode_setSpec decoded
      (PodSpec.decode_insert_selector document.spec_sorted sorted.insert specified)

/-- The operations on a new pod amend its document to that of a pod that waits for its
node. -/
theorem exists_amends_new (policy : Policy) (decoded : Pod.decode document.json = some pod)
    (isolated : pod.isIsolated = true) (named : pod.metadata.name = some name)
    (proper : name.isEmpty = false) :
    ∃ operations after, newPodOperations policy pod = .ok (some operations) ∧
      Amends operations document after (pod.awaitingNode name policy.taintKey) := by
  obtain ⟨guarded, first⟩ := exists_amends_finalizer decoded
  obtain ⟨held, second⟩ := exists_amends_gate first.decoded
  obtain ⟨tolerating, third⟩ :=
    exists_amends_toleration (reservationKey name policy.taintKey) second.decoded
  obtain ⟨selecting, fourth⟩ := exists_amends_selector name third.decoded
  -- Each group of operations is told by the pod as it came, whatever was amended before it.
  have gate : gateOperations pod.guarded = gateOperations pod := by
    rw [gateOperations, Pod.isGated, Pod.gateCount, Pod.gates_guarded, ← Pod.gateCount,
      ← Pod.isGated, ← gateOperations]
  have toleration : tolerationOperations pod.guarded.held (reservationKey name policy.taintKey) =
      tolerationOperations pod (reservationKey name policy.taintKey) := by
    rw [tolerationOperations, Pod.tolerations_held, Pod.spec_guarded, ← tolerationOperations]
  have selector : selectorOperations
      (pod.guarded.held.tolerating (reservationKey name policy.taintKey)) name =
      selectorOperations pod name := by
    rw [selectorOperations, Pod.selectedHost?, Pod.nodeSelector_tolerating, Pod.nodeSelector_held,
      Pod.spec_guarded, ← Pod.selectedHost?, ← selectorOperations]
  rw [gate] at second
  rw [toleration] at third
  rw [selector] at fourth
  refine ⟨_, selecting, ?_, ((first.trans second).trans third).trans fourth⟩
  simp [newPodOperations, isolated, named, proper]

end PodDocument

namespace Admission

/-- The operations on a new pod succeed in turn on its document. They make it wait for its
node and leave all else in it alone, there is none of them for a pod that waits already,
and the pod after them is admitted without any. -/
theorem new_pod_awaits_node (policy : Policy) {json : Json} {pod : Pod} {name : String}
    (settled : json.IsSettled) (decoded : Pod.decode json = some pod)
    (isolated : pod.isIsolated = true) (named : pod.metadata.name = some name)
    (proper : name.isEmpty = false) (specified : pod.spec.isSome = true) :
    ∃ operations patched, newPodOperations policy pod = .ok (some operations) ∧
      AddOperation.performAll? operations json = some patched ∧
      Pod.decode patched = some (pod.awaitingNode name policy.taintKey) ∧
      patched.SameButIsolation json ∧
      (operations = [] ↔ pod.awaitingNode name policy.taintKey = pod) ∧
      decideNew policy (pod.awaitingNode name policy.taintKey) =
        .ok (.allow "Pod has successfully gated") := by
  obtain ⟨document, rfl⟩ := PodDocument.exists_of_decode settled decoded
    (by rw [named, Option.isSome_some]) specified
  obtain ⟨operations, after, found, amends⟩ :=
    PodDocument.exists_amends_new policy decoded isolated named proper
  have idle := newPodOperations_awaitingNode policy isolated named proper specified
  refine ⟨operations, after.json, found, amends.performed, amends.decoded, amends.same, ?_, ?_⟩
  · constructor
    · rintro rfl
      have same : document.json = after.json := Option.some.inj amends.performed
      have decodedAgain := amends.decoded
      rw [← same, decoded] at decodedAgain
      exact (Option.some.inj decodedAgain).symm
    · intro same
      rw [same, found] at idle
      simpa using idle
  · rw [decideNew, idle]

/-- A pod with an unset list of finalizers and with a gate, a toleration and a selector of
others. -/
def plainPod : Json :=
  .obj [("apiVersion", .str "v1"), ("kind", .str "Pod"),
    ("metadata", .obj [("finalizers", .null),
      ("labels", .obj [(isolationLabel, .str "true")]), ("name", .str "p1")]),
    ("spec", .obj [("nodeSelector", .obj [("disk", .str "ssd")]),
      ("priority", .nat 7),
      ("schedulingGates", .arr [.obj [("name", .str "example.com/wait")]]),
      ("tolerations", .arr [.obj [("key", .str "dedicated"), ("operator", .str "Exists")]])])]

theorem plainPod_awaits_node : plainPod.IsSettled ∧
    ∃ pod operations patched, Pod.decode plainPod = some pod ∧ pod.isIsolated = true ∧
      pod.metadata.name = some "p1" ∧ "p1".isEmpty = false ∧ pod.spec.isSome = true ∧
      newPodOperations {} pod = .ok (some operations) ∧
      AddOperation.performAll? operations plainPod = some patched ∧
      Pod.decode patched = some (pod.awaitingNode "p1" standardTaintKey) ∧
      patched.SameButIsolation plainPod ∧
      (operations = [] ↔ pod.awaitingNode "p1" standardTaintKey = pod) ∧
      decideNew {} (pod.awaitingNode "p1" standardTaintKey) =
        .ok (.allow "Pod has successfully gated") := by
  have settled : plainPod.IsSettled := ⟨plainPod, rfl⟩
  obtain ⟨pod, decoded, isolated, named, specified⟩ : ∃ pod, Pod.decode plainPod = some pod ∧
      pod.isIsolated = true ∧ pod.metadata.name = some "p1" ∧ pod.spec.isSome = true :=
    ⟨_, rfl, by decide, rfl, rfl⟩
  obtain ⟨operations, patched, awaits⟩ :=
    new_pod_awaits_node {} settled decoded isolated named (by decide) specified
  exact ⟨settled, pod, operations, patched, decoded, isolated, named, by decide, specified, awaits⟩

end Admission

end NodeGate
