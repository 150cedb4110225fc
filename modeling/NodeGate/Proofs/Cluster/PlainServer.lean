import NodeGate.Proofs.Cluster.Registry

/-!
# A server that does as it is told

Of the servers that merge patches, the one that makes of an object exactly what the patch
describes and numbers the versions by its writes.
-/

namespace NodeGate

open Json

/-- The metadata at the version that a write gives. -/
def ObjectMeta.numbered (write : Nat) (metadata : ObjectMeta) : ObjectMeta :=
  { metadata with resourceVersion := some (Text.decimalText write) }

/-- The machine with the labels that a patch makes of its own. -/
def VmiPatch.plain (write : Nat) (vmi : Vmi) (patch : VmiPatch) : Vmi :=
  vmi.relabelled patch (Text.decimalText write)

/-- The node with the taints of a patch. -/
def NodePatch.plain (write : Nat) (node : Node) (patch : NodePatch) : Node where
  metadata := node.metadata.numbered write
  taints := some patch.taints

/-- The specification of a pod after a change. -/
def PodChange.specify (change : PodChange) (spec : PodSpec) : PodSpec :=
  match change with
  | .gates names => { spec with gates := some names }
  | .host name =>
    { spec with nodeSelector := some ((spec.nodeSelector.getD []).insert hostLabel name) }
  | .finalizers _ => spec

/-- The metadata of a pod after a change. -/
def PodChange.settle (change : PodChange) (metadata : ObjectMeta) : ObjectMeta :=
  match change with
  | .finalizers names => { metadata with finalizers := some names }
  | _ => metadata

/-- The pod after the change of a patch. -/
def PodPatch.plain (write : Nat) (pod : Pod) (patch : PodPatch) : Pod where
  metadata := (patch.change.settle pod.metadata).numbered write
  spec := pod.spec.map patch.change.specify

variable {write : Nat}

theorem VmiPatch.plain_merges (vmi : Vmi) (patch : VmiPatch) :
    (patch.plain write vmi).toJson.SameButVersion (merged vmi.toJson patch.toJson) := by
  constructor
  · intro name outside
    rw [toJson, member?_merged_of_not_mem (by simp [outside])]
    simp [plain, Vmi.relabelled, Vmi.toJson, member?, Entries.get?_cons, outside.symm]
  · intro name unversioned
    rw [Vmi.metadataMember?_toJson, plain, Vmi.relabelled]
    by_cases labels : name = "labels"
    · rw [labels, metadataMember?_labels_merged, ObjectMeta.get?_labels]
      rfl
    · rw [toJson, metadataMember?_merged_of_not_mem (by simp)
        (by simp [labels, not_mem_versionMember unversioned]), Vmi.metadataMember?_toJson]
      simp [ObjectMeta.toJson, member?, Entries.get?_append, Ne.symm labels, unversioned.symm]

theorem NodePatch.plain_merges (node : Node) (patch : NodePatch) :
    (patch.plain write node).toJson.SameButVersion (merged node.toJson patch.toJson) := by
  constructor
  · intro name outside
    by_cases inside : name = "spec"
    · rw [inside, toJson, spec_merged]
      cases tainted : node.taints <;>
        simp [plain, Node.toJson, tainted, member?, Entries.get?_cons, mergedMember, merged,
          Entries.insert, members]
    · rw [toJson, member?_merged_of_not_mem (by simp [outside, inside])]
      simp [plain, Node.toJson, member?, Entries.get?_cons, outside.symm, Ne.symm inside]
  · intro name unversioned
    rw [toJson, metadataMember?_merged_of_not_mem (by simp) (not_mem_versionMember unversioned),
      metadataMember?, Node.metadata_toJson, metadataMember?, Node.metadata_toJson,
      Option.bind_some, Option.bind_some, plain, ObjectMeta.numbered,
      ObjectMeta.member?_withVersion unversioned]

/-- The gates are put in their place among the members of a specification. -/
theorem PodSpec.merged_gates (spec : PodSpec) (names : List String) :
    Json.obj (mergedMember spec.toJson.members ("schedulingGates", .arr (names.map gateToJson))) =
      toJson { spec with gates := some names } := by
  obtain ⟨containers, gates, selector, tolerations⟩ := spec
  cases gates <;> cases selector <;> cases tolerations <;> rfl

/-- The selected node is put in its place among the members of a specification. -/
theorem PodSpec.merged_host (spec : PodSpec) (name : String) :
    Json.obj (mergedMember spec.toJson.members
        ("nodeSelector", .obj [(hostLabel, .str name)])) =
      toJson { spec with
        nodeSelector := some ((spec.nodeSelector.getD []).insert hostLabel name) } := by
  obtain ⟨containers, gates, selector, tolerations⟩ := spec
  have found : Entries.get? "nodeSelector"
      (toJson ⟨containers, gates, selector, tolerations⟩).members = selector.map textEntries := by
    simp [toJson, members, Entries.get?_cons, Entries.get?_append]
  rw [mergedMember_obj, found, merged_selector]
  cases gates <;> cases selector <;> cases tolerations <;> rfl

theorem PodPatch.plain_merges (pod : Pod) (patch : PodPatch) (specified : pod.spec.isSome = true) :
    (patch.plain write pod).toJson.SameButVersion (merged pod.toJson patch.toJson) := by
  obtain ⟨spec, isSpec⟩ := Option.isSome_iff_exists.mp specified
  constructor
  · intro name outside
    by_cases inside : name = "spec"
    · rw [inside, Pod.spec_toJson, toJson, plain, isSpec]
      cases patch.change with
      | gates names =>
          rw [spec_merged, Pod.spec_toJson, isSpec]
          exact congrArg some (spec.merged_gates names).symm
      | host name =>
          rw [spec_merged, Pod.spec_toJson, isSpec]
          exact congrArg some (spec.merged_host name).symm
      | finalizers names =>
          rw [member?_merged_of_not_mem (by simp), Pod.spec_toJson, isSpec]
          rfl
    · rw [toJson]
      cases patch.change <;> rw [member?_merged_of_not_mem (by simp [outside, inside])] <;>
        simp [plain, Pod.toJson, member?, Entries.get?_cons, outside.symm, Ne.symm inside]
  · intro name unversioned
    rw [Pod.metadataMember?_toJson, plain, ObjectMeta.numbered,
      ObjectMeta.member?_withVersion unversioned, toJson]
    cases patch.change with
    | finalizers names =>
        by_cases finalizers : name = "finalizers"
        · rw [finalizers, merged_finalizers, ObjectMeta.member?_finalizers]
          rfl
        · rw [metadataMember?_merged_of_not_mem (by simp)
            (by simp [finalizers, not_mem_versionMember unversioned]), Pod.metadataMember?_toJson]
          simp [PodChange.settle, ObjectMeta.toJson, member?, Entries.get?_append,
            Ne.symm finalizers]
    | _ =>
        rw [metadataMember?_merged_of_not_mem (by simp) (not_mem_versionMember unversioned),
          Pod.metadataMember?_toJson]
        rfl

/-- The server that makes of an object what the patch describes. -/
def plainServer : MergingServer where
  vmi := VmiPatch.plain
  node := NodePatch.plain
  pod := PodPatch.plain
  vmi_merged _ := VmiPatch.plain_merges
  node_merged _ := NodePatch.plain_merges
  pod_merged _ := PodPatch.plain_merges

end NodeGate
