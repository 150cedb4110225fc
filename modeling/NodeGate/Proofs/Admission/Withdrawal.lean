import NodeGate.Proofs.Admission.NewPods
import NodeGate.Release.Pass

/-!
# Withdrawing what admission added

Admission puts our gate and our finalizer behind those that a pod came with, one by one
and by the place where they stand. The controller takes them off again with merge patches,
which replace either list as a whole. Both are told here of the document of the pod, and
the second is shown to undo the first: what is left are the lists that the pod came with,
in their order and without what is ours.
-/

namespace NodeGate

open Json Entries Admission

namespace Pod

variable {pod : Pod} {name taintKey : String}

/-- The pod without our gate. -/
def ungated (pod : Pod) : Pod :=
  { pod with spec := pod.spec.map fun spec =>
      { spec with gates := some (pod.gates.filter (· ≠ gateName)) } }

/-- The pod without our finalizer. -/
def unguarded (pod : Pod) : Pod :=
  { pod with metadata := { pod.metadata with
      finalizers := some (pod.finalizers.filter (· ≠ finalizerName)) } }

theorem gates_ungated : pod.ungated.gates = pod.gates.filter (· ≠ gateName) := by
  unfold ungated gates
  cases pod.spec <;> rfl

theorem finalizers_ungated : pod.ungated.finalizers = pod.finalizers :=
  rfl

theorem gates_unguarded : pod.unguarded.gates = pod.gates :=
  rfl

theorem finalizers_unguarded :
    pod.unguarded.finalizers = pod.finalizers.filter (· ≠ finalizerName) :=
  rfl

/-- A pod is gated as long as our gate is among its gates. -/
theorem isGated_eq_false_iff : pod.isGated = false ↔ gateName ∉ pod.gates := by
  simp [isGated, gateCount]

theorem isGated_ungated : pod.ungated.isGated = false := by
  rw [isGated_eq_false_iff, gates_ungated]
  simp

theorem hasFinalizer_unguarded : pod.unguarded.hasFinalizer = false := by
  simp [hasFinalizer, finalizers_unguarded]

/-- What is not ours of the gates of a pod is the same when it is held. -/
theorem filter_gates_held :
    pod.held.gates.filter (· ≠ gateName) = pod.gates.filter (· ≠ gateName) := by
  unfold held
  split
  · rfl
  · unfold gates
    cases pod.spec with
    | none => rfl
    | some spec => simp

theorem gateCount_held (specified : pod.spec.isSome = true) (few : pod.gateCount ≤ 1) :
    pod.held.gateCount = 1 := by
  obtain ⟨spec, isSpec⟩ := Option.isSome_iff_exists.mp specified
  by_cases gated : pod.isGated = true
  · rw [held, if_pos gated]
    rw [isGated, decide_eq_true_eq] at gated
    exact le_antisymm few gated
  · have none_ours : pod.gateCount = 0 := by
      rwa [isGated, decide_eq_true_eq, Nat.not_lt, Nat.le_zero] at gated
    rw [gateCount] at none_ours
    rw [held, if_neg gated, gateCount, gates, isSpec]
    simp [List.countP_append, none_ours]

theorem gates_awaitingNode : (pod.awaitingNode name taintKey).gates = pod.guarded.held.gates := by
  rw [awaitingNode, gates_selecting, gates_tolerating]

theorem filter_gates_awaitingNode :
    (pod.awaitingNode name taintKey).gates.filter (· ≠ gateName) =
      pod.gates.filter (· ≠ gateName) := by
  rw [gates_awaitingNode, filter_gates_held, gates_guarded]

theorem gateCount_awaitingNode (specified : pod.spec.isSome = true) (few : pod.gateCount ≤ 1) :
    (pod.awaitingNode name taintKey).gateCount = 1 := by
  have held : pod.guarded.held.gateCount = 1 := by
    apply gateCount_held
    · rw [spec_guarded, specified]
    · rwa [gateCount, gates_guarded, ← gateCount]
  rw [gateCount, gates_awaitingNode, ← gateCount, held]

theorem finalizers_awaitingNode :
    (pod.awaitingNode name taintKey).finalizers = pod.guarded.finalizers := by
  rw [finalizers, metadata_awaitingNode, finalizers]

theorem hasFinalizer_awaitingNode : (pod.awaitingNode name taintKey).hasFinalizer = true := by
  rw [hasFinalizer, finalizers_awaitingNode, ← hasFinalizer, hasFinalizer_guarded]

/-- What is not ours of the finalizers of a pod is the same when it waits for its node. -/
theorem filter_finalizers_awaitingNode :
    (pod.awaitingNode name taintKey).finalizers.filter (· ≠ finalizerName) =
      pod.finalizers.filter (· ≠ finalizerName) := by
  rw [finalizers_awaitingNode]
  unfold guarded
  split
  · rfl
  · simp [finalizers]

end Pod

/-- The version that a patch carries is the one that is there, so that merging it changes
nothing. -/
theorem mergedMembers_version {fields : Members} {version : Option String}
    (sorted : Sorted fields)
    (current : ∀ text, version = some text → get? "resourceVersion" fields = some (.str text)) :
    mergedMembers fields (versionMember version) = fields := by
  cases version with
  | none => rfl
  | some text =>
      simp only [versionMember, Option.map_some, present, mergedMembers, mergedMember_str]
      exact insert_of_get? sorted (current text rfl)

/-- The version of an object stands in its metadata. -/
theorem ObjectMeta.get?_version {fields : Members} {metadata : ObjectMeta} {text : String}
    (sorted : Sorted fields) (decoded : ObjectMeta.decode (.obj fields) = some metadata)
    (version : metadata.resourceVersion = some text) :
    get? "resourceVersion" fields = some (.str text) := by
  -- The version is the fourth member that is asked for.
  iterate 3 obtain ⟨_, -, decoded⟩ := Option.bind_eq_some_iff.mp decoded
  obtain ⟨found, read, decoded⟩ := Option.bind_eq_some_iff.mp decoded
  have same : found = some text := by
    iterate 11 obtain ⟨_, -, decoded⟩ := Option.bind_eq_some_iff.mp decoded
    obtain rfl := Option.some.inj decoded
    exact version
  subst same
  obtain ⟨value, stands, isText⟩ := exists_of_optional sorted read
  cases value with
  | str other =>
      obtain rfl := Option.some.inj isText
      exact stands
  | _ => contradiction

/-- The builder has a patch for the pod of a document. Merged into the document, the patch
makes it one of another pod, for which the builder has none. -/
structure Withdraws (build : Pod → Option PodPatch) (before after : Json) (left : Pod) :
    Prop where
  patched : ∃ pod patch, Pod.decode before = some pod ∧ build pod = some patch ∧
    merged before patch.toJson = after
  decoded : Pod.decode after = some left
  idle : build left = none

namespace PodDocument

variable {document : PodDocument} {pod : Pod}

/-- The version of the pod stands in the metadata of its document. -/
theorem get?_version {text : String} (decoded : Pod.decode document.json = some pod)
    (version : pod.metadata.resourceVersion = some text) :
    get? "resourceVersion" document.metadata = some (.str text) := by
  obtain ⟨-, -, described, -⟩ := decode_eq_some_iff.mp decoded
  exact ObjectMeta.get?_version document.metadata_sorted described version

/-- A patch of the gates at the version of the document sets its gates alone. -/
theorem merged_gates (decoded : Pod.decode document.json = some pod) (names : List String) :
    merged document.json (PodPatch.toJson ⟨pod.metadata.resourceVersion, .gates names⟩) =
      (document.setSpec "schedulingGates" (.arr (names.map PodSpec.gateToJson))).json := by
  have version : mergedMembers document.metadata
      (versionMember pod.metadata.resourceVersion) = document.metadata :=
    mergedMembers_version document.metadata_sorted fun _ => get?_version decoded
  have metadata : mergedMember document.fields
      ("metadata", .obj (versionMember pod.metadata.resourceVersion)) = document.fields := by
    rw [mergedMember_obj, document.metadata_eq, Option.getD_some, merged, members, version]
    exact insert_of_get? document.sorted document.metadata_eq
  have spec : merged (.obj document.spec)
      (.obj [("schedulingGates", .arr (names.map PodSpec.gateToJson))]) =
      .obj (insert "schedulingGates" (.arr (names.map PodSpec.gateToJson)) document.spec) := by
    rw [merged, members, mergedMembers, mergedMember_arr, mergedMembers]
  rw [json, PodPatch.toJson, merged, members, mergedMembers, metadata, mergedMembers,
    mergedMember_obj, document.spec_eq, Option.getD_some, spec, mergedMembers, json, setSpec]

/-- A patch of the finalizers at the version of the document sets its finalizers alone. -/
theorem merged_finalizers (decoded : Pod.decode document.json = some pod)
    (names : List String) :
    merged document.json (PodPatch.toJson ⟨pod.metadata.resourceVersion, .finalizers names⟩) =
      (document.setMetadata "finalizers" (strings names)).json := by
  have version : mergedMembers (insert "finalizers" (strings names) document.metadata)
      (versionMember pod.metadata.resourceVersion) =
      insert "finalizers" (strings names) document.metadata := by
    apply mergedMembers_version document.metadata_sorted.insert
    intro text version
    rw [get?_insert_of_ne (by decide)]
    exact get?_version decoded version
  have metadata : merged (.obj document.metadata)
      (.obj (("finalizers", strings names) :: versionMember pod.metadata.resourceVersion)) =
      .obj (insert "finalizers" (strings names) document.metadata) := by
    rw [merged, members, mergedMembers, strings, mergedMember_arr, ← strings, version]
  rw [json, PodPatch.toJson, merged, members, mergedMembers, mergedMember_obj,
    document.metadata_eq, Option.getD_some, metadata, mergedMembers, json, setMetadata]

/-- Our gate is taken off a gated pod, and the other gates stay. -/
theorem withdraws_gate (decoded : Pod.decode document.json = some pod)
    (gated : pod.isGated = true) :
    ∃ after : PodDocument, Withdraws PodPatch.withoutGate? document.json after.json pod.ungated ∧
      after.json.SameButIsolation document.json := by
  obtain ⟨-, -, -, spec, specified, isSpec⟩ := decode_eq_some_iff.mp decoded
  have merges := merged_gates decoded (pod.gates.filter (· ≠ gateName))
  refine ⟨_, ⟨⟨pod, _, decoded, ?_, merges⟩, ?_, ?_⟩, setSpec_same (by simp)⟩
  · rw [PodPatch.withoutGate?, if_pos gated]
  · rw [Pod.ungated, isSpec, Option.map_some]
    exact decode_setSpec decoded (PodSpec.decode_insert_gates document.spec_sorted _ specified)
  · rw [PodPatch.withoutGate?, Pod.isGated_ungated, if_neg nofun]

/-- Our finalizer is taken off a pod that has it, and the other finalizers stay. -/
theorem withdraws_finalizer (decoded : Pod.decode document.json = some pod)
    (guarded : pod.hasFinalizer = true) :
    ∃ after : PodDocument,
      Withdraws PodPatch.withoutFinalizer? document.json after.json pod.unguarded ∧
      after.json.SameButIsolation document.json := by
  obtain ⟨-, -, described, -⟩ := decode_eq_some_iff.mp decoded
  have merges := merged_finalizers decoded (pod.finalizers.filter (· ≠ finalizerName))
  refine ⟨_, ⟨⟨pod, _, decoded, ?_, merges⟩, ?_, ?_⟩, setFinalizers_same⟩
  · rw [PodPatch.withoutFinalizer?, if_pos guarded]
  · exact decode_setMetadata decoded
      (ObjectMeta.decode_insert_finalizers document.metadata_sorted _ described)
  · rw [PodPatch.withoutFinalizer?, Pod.hasFinalizer_unguarded, if_neg nofun]

end PodDocument

namespace Admission

/-- The controller takes off an admitted pod what admission put on it. Our gate comes off
and then our finalizer, either patch is built once and not again, and the gates and the
finalizers that are left are those that the pod came with, less what is ours. All but the
isolation of the pod is as it came. Of a pod that came with one of our gates at most, the
admitted pod has exactly one, so that no pass refuses it for its gates. -/
theorem withdrawal_undoes_admission (policy : Policy) {json : Json} {pod : Pod} {name : String}
    (settled : json.IsSettled) (decoded : Pod.decode json = some pod)
    (isolated : pod.isIsolated = true) (named : pod.metadata.name = some name)
    (proper : name.isEmpty = false) (specified : pod.spec.isSome = true) :
    ∃ operations patched admitted, newPodOperations policy pod = .ok (some operations) ∧
      AddOperation.performAll? operations json = some patched ∧
      Pod.decode patched = some admitted ∧
      (∃ dismissed left, Withdraws PodPatch.withoutFinalizer? patched dismissed left) ∧
      (∃ lifted between released left,
        Withdraws PodPatch.withoutGate? patched lifted between ∧
        Withdraws PodPatch.withoutFinalizer? lifted released left ∧
        PodPatch.withoutGate? left = none ∧
        left.gates = pod.gates.filter (· ≠ gateName) ∧
        left.finalizers = pod.finalizers.filter (· ≠ finalizerName) ∧
        released.SameButIsolation json) ∧
      (pod.gateCount ≤ 1 → admitted.gateCount = 1 ∧ ∀ site key,
        Release.attend site key admitted =
          if admitted.isDeleting then Release.depart site key admitted
          else Release.serve site key admitted) := by
  obtain ⟨document, rfl⟩ := PodDocument.exists_of_decode settled decoded
    (by rw [named, Option.isSome_some]) specified
  obtain ⟨operations, after, found, amends⟩ :=
    PodDocument.exists_amends_new policy decoded isolated named proper
  obtain ⟨dismissed, dismissal, -⟩ :=
    PodDocument.withdraws_finalizer amends.decoded Pod.hasFinalizer_awaitingNode
  obtain ⟨lifted, lift, lifted_same⟩ :=
    PodDocument.withdraws_gate amends.decoded (Pod.isGated_awaitingNode specified)
  obtain ⟨released, release, released_same⟩ :=
    PodDocument.withdraws_finalizer lift.decoded Pod.hasFinalizer_awaitingNode
  refine ⟨operations, after.json, _, found, amends.performed, amends.decoded,
    ⟨_, _, dismissal⟩, ⟨_, _, _, _, lift, release, ?_, ?_, ?_, ?_⟩, fun few => ⟨?_, ?_⟩⟩
  · exact lift.idle
  · rw [Pod.gates_unguarded, Pod.gates_ungated, Pod.filter_gates_awaitingNode]
  · rw [Pod.finalizers_unguarded, Pod.finalizers_ungated, Pod.filter_finalizers_awaitingNode]
  · exact released_same.trans (lifted_same.trans amends.same)
  · exact Pod.gateCount_awaitingNode specified few
  · intro site key
    have count : (pod.awaitingNode name policy.taintKey).gateCount = 1 :=
      Pod.gateCount_awaitingNode specified few
    simp [Release.attend, count]

/-- A pod that came with our gate between two of others, which have one name, and with our
finalizer twice among those of others. -/
def recreatedPod : Json :=
  .obj [("apiVersion", .str "v1"), ("kind", .str "Pod"),
    ("metadata", .obj [
      ("finalizers", strings ["example.com/b", finalizerName, "example.com/a", finalizerName]),
      ("labels", .obj [(isolationLabel, .str "true")]), ("name", .str "p1"),
      ("resourceVersion", .str "7")]),
    ("spec", .obj [("schedulingGates",
      .arr (["example.com/wait", gateName, "example.com/wait"].map PodSpec.gateToJson))])]

theorem recreatedPod_admission_undone : recreatedPod.IsSettled ∧
    ∃ pod operations patched lifted between released left,
      Pod.decode recreatedPod = some pod ∧ pod.isIsolated = true ∧
      pod.metadata.name = some "p1" ∧ "p1".isEmpty = false ∧ pod.spec.isSome = true ∧
      newPodOperations {} pod = .ok (some operations) ∧
      AddOperation.performAll? operations recreatedPod = some patched ∧
      Withdraws PodPatch.withoutGate? patched lifted between ∧
      Withdraws PodPatch.withoutFinalizer? lifted released left ∧
      left.gates = ["example.com/wait", "example.com/wait"] ∧
      left.finalizers = ["example.com/b", "example.com/a"] := by
  have settled : recreatedPod.IsSettled := ⟨recreatedPod, rfl⟩
  obtain ⟨pod, decoded, isolated, named, specified, gates, finalizers⟩ :
      ∃ pod, Pod.decode recreatedPod = some pod ∧ pod.isIsolated = true ∧
        pod.metadata.name = some "p1" ∧ pod.spec.isSome = true ∧
        pod.gates.filter (· ≠ gateName) = ["example.com/wait", "example.com/wait"] ∧
        pod.finalizers.filter (· ≠ finalizerName) = ["example.com/b", "example.com/a"] :=
    ⟨_, rfl, by decide, rfl, rfl, by decide, by decide⟩
  obtain ⟨operations, patched, -, found, performed, -, -, withdrawal, -⟩ :=
    withdrawal_undoes_admission {} settled decoded isolated named (by decide) specified
  obtain ⟨lifted, between, released, left, lift, release, -, left_gates, left_finalizers, -⟩ :=
    withdrawal
  rw [gates] at left_gates
  rw [finalizers] at left_finalizers
  exact ⟨settled, pod, operations, patched, lifted, between, released, left, decoded, isolated,
    named, by decide, specified, found, performed, lift, release, left_gates, left_finalizers⟩

end Admission

end NodeGate
