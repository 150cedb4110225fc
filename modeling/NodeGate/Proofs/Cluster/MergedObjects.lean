import NodeGate.Cluster.Cache
import NodeGate.Proofs.Cluster.LabelPatch

/-!
# What a patch makes of an object

The API server merges a patch into the document of the object that it stores and gives the
result a version. What the controller reads of pods, nodes and machines after that is told
here from the documents: the part that the patch describes, and that the rest is as it was.
-/

namespace NodeGate

namespace Json

variable {name : String} {target : Json}

/-- The member of that name in the specification of an object. -/
def specMember? (name : String) (json : Json) : Option Json :=
  (json.member? "spec").bind (member? name)

/-- The documents agree in everything but the version of the object. -/
structure SameButVersion (one other : Json) : Prop where
  beside : ∀ name, name ≠ "metadata" → one.member? name = other.member? name
  within : ∀ name, name ≠ "resourceVersion" →
    one.metadataMember? name = other.metadataMember? name

theorem SameButVersion.specMember?_eq {one other : Json} (same : one.SameButVersion other) :
    one.specMember? name = other.specMember? name := by
  rw [specMember?, same.beside "spec" (by decide), specMember?]

theorem member?_eq_get? (name : String) (json : Json) :
    json.member? name = Entries.get? name json.members := by
  cases json <;> rfl

/-- A member of what is there is that member of nothing when it is not there. -/
theorem get?_members_getD (outer : Option Json) :
    Entries.get? name (outer.getD .null).members = outer.bind (member? name) := by
  cases outer with
  | none => rfl
  | some json => exact (member?_eq_get? name json).symm

/-- A patch leaves the members alone that it does not name. -/
theorem member?_merged_of_not_mem {changes : List (String × Json)}
    (unnamed : name ∉ changes.map Prod.fst) :
    (merged target (.obj changes)).member? name = target.member? name := by
  rw [member?_eq_get?, merged, members, get?_mergedMembers_of_not_mem unnamed,
    member?_eq_get? name target]

theorem metadataMember?_merged {own rest : List (String × Json)}
    (only : "metadata" ∉ rest.map Prod.fst) :
    (merged target (.obj (("metadata", .obj own) :: rest))).metadataMember? name =
      Entries.get? name (mergedMembers ((target.member? "metadata").getD .null).members own) := by
  rw [metadataMember?, member?_eq_get?, merged, members, mergedMembers,
    get?_mergedMembers_of_not_mem only, get?_mergedMember_obj, ← member?_eq_get?, merged]
  rfl

/-- A patch leaves the metadata alone that it does not name. -/
theorem metadataMember?_merged_of_not_mem {own rest : List (String × Json)}
    (only : "metadata" ∉ rest.map Prod.fst) (unnamed : name ∉ own.map Prod.fst) :
    (merged target (.obj (("metadata", .obj own) :: rest))).metadataMember? name =
      target.metadataMember? name := by
  rw [metadataMember?_merged only, get?_mergedMembers_of_not_mem unnamed, get?_members_getD,
    metadataMember?]

/-- A patch of one part of the specification changes that part of it. -/
theorem spec_merged {own : List (String × Json)} {change : String × Json} :
    (merged target (.obj [("metadata", .obj own), ("spec", .obj [change])])).member? "spec" =
      some (.obj (mergedMember ((target.member? "spec").getD .null).members change)) := by
  rw [member?_eq_get?, merged, members, mergedMembers, mergedMembers, mergedMembers,
    get?_mergedMember_obj, get?_mergedMember_of_ne (by simp), ← member?_eq_get?, merged,
    mergedMembers, mergedMembers]

theorem specMember?_merged {own : List (String × Json)} {change : String × Json} :
    (merged target (.obj [("metadata", .obj own), ("spec", .obj [change])])).specMember? name =
      Entries.get? name (mergedMember ((target.member? "spec").getD .null).members change) := by
  rw [specMember?, spec_merged, Option.bind_some, member?]

theorem specMember?_merged_of_ne {own : List (String × Json)} {change : String × Json}
    (other : name ≠ change.1) :
    (merged target (.obj [("metadata", .obj own), ("spec", .obj [change])])).specMember? name =
      target.specMember? name := by
  rw [specMember?_merged, get?_mergedMember_of_ne other, get?_members_getD, specMember?]

/-- A list replaces what is there. -/
theorem specMember?_merged_arr {own : List (String × Json)} {items : List Json} :
    (merged target (.obj [("metadata", .obj own), ("spec", .obj [(name, .arr items)])])).specMember?
      name = some (.arr items) := by
  rw [specMember?_merged, mergedMember_arr, Entries.get?_insert_self]

theorem not_mem_versionMember {resourceVersion : Option String} (other : name ≠ "resourceVersion") :
    name ∉ (versionMember resourceVersion).map Prod.fst := by
  cases resourceVersion <;> simp [versionMember, present, other]

theorem map_str_injective {one other : Option String}
    (same : one.map Json.str = other.map Json.str) : one = other :=
  Option.map_injective (fun _ _ => Json.str.inj) same

end Json

open Json

namespace ObjectMeta

variable {one other : ObjectMeta}

/-- The version of an object is told in one place only. -/
theorem member?_withVersion {name : String} (other : name ≠ "resourceVersion")
    (version : Option String) (metadata : ObjectMeta) :
    (toJson { metadata with resourceVersion := version }).member? name =
      metadata.toJson.member? name := by
  simp [toJson, member?, Entries.get?_append, other.symm]

theorem member?_name : one.toJson.member? "name" = one.name.map .str := by
  simp [toJson, member?, Entries.get?_append]

theorem member?_namespace : one.toJson.member? "namespace" = one.space.map .str := by
  simp [toJson, member?, Entries.get?_append]

theorem member?_finalizers : one.toJson.member? "finalizers" = one.finalizers.map strings := by
  simp [toJson, member?, Entries.get?_append]

theorem member?_deletionTimestamp : one.toJson.member? "deletionTimestamp" =
    one.deletionTimestamp.map (.str ·.textInSeconds) := by
  simp [toJson, member?, Entries.get?_append]

/-- The metadata names one object. -/
structure SameObject (one other : ObjectMeta) : Prop where
  space_eq : one.space = other.space
  name_eq : one.name = other.name

theorem SameObject.refl (metadata : ObjectMeta) : metadata.SameObject metadata :=
  ⟨rfl, rfl⟩

theorem SameObject.symm (same : one.SameObject other) : other.SameObject one :=
  ⟨same.space_eq.symm, same.name_eq.symm⟩

theorem SameObject.trans {another : ObjectMeta} (first : one.SameObject other)
    (second : other.SameObject another) : one.SameObject another :=
  ⟨first.space_eq.trans second.space_eq, first.name_eq.trans second.name_eq⟩

theorem SameObject.sameIdentity (same : one.SameObject other) :
    Cache.sameIdentity one other = true := by
  simp [Cache.sameIdentity, nameOrEmpty, same.space_eq, same.name_eq]

/-- Documents that agree in the namespace and the name are of one object. -/
theorem sameObject_of_members
    (space : one.toJson.member? "namespace" = other.toJson.member? "namespace")
    (name : one.toJson.member? "name" = other.toJson.member? "name") : one.SameObject other := by
  rw [member?_namespace, member?_namespace] at space
  rw [member?_name, member?_name] at name
  exact ⟨map_str_injective space, map_str_injective name⟩

end ObjectMeta

namespace Vmi

variable {before after : Vmi} {patch : VmiPatch}

theorem nodeName_eq {one other : Vmi} (same : one.metadata.SameObject other.metadata) :
    one.nodeName = other.nodeName := by
  rw [nodeName, nodeName, ObjectMeta.nameOrEmpty, same.name_eq, ObjectMeta.nameOrEmpty]

theorem metadataMember?_toJson {name : String} (vmi : Vmi) :
    vmi.toJson.metadataMember? name = vmi.metadata.toJson.member? name := by
  rw [metadataMember?, vmi.metadata_toJson, Option.bind_some]

/-- The phase as it is written in the document of a machine. -/
theorem phase_written (vmi : Vmi) :
    (vmi.toJson.member? "status").bind (member? "phase") = vmi.phase?.map (.str ·.name) := by
  have status : vmi.toJson.member? "status" = vmi.status.map VmiStatus.toJson := by
    simp [toJson, member?, Entries.get?_cons]
  rw [status, phase?]
  cases vmi.status with
  | none => rfl
  | some status => simp [VmiStatus.toJson, member?, Entries.get?_append]

/-- A patch of the labels leaves the rest of the metadata alone. -/
theorem metadataMember?_merged {name : String}
    (made : after.toJson.SameButVersion (merged before.toJson patch.toJson))
    (unversioned : name ≠ "resourceVersion") (unlabelled : name ≠ "labels") :
    after.metadata.toJson.member? name = before.metadata.toJson.member? name := by
  rw [← metadataMember?_toJson, ← metadataMember?_toJson, made.within name unversioned,
    VmiPatch.toJson, metadataMember?_merged_of_not_mem (by simp)]
  simp [unlabelled, not_mem_versionMember unversioned]

theorem sameObject_merged
    (made : after.toJson.SameButVersion (merged before.toJson patch.toJson)) :
    after.metadata.SameObject before.metadata :=
  ObjectMeta.sameObject_of_members (metadataMember?_merged made (by simp) (by simp))
    (metadataMember?_merged made (by simp) (by simp))

/-- A machine is made what its patch describes when the patch is merged into it. -/
theorem makes_of_merged
    (made : after.toJson.SameButVersion (merged before.toJson patch.toJson)) :
    patch.Makes before after where
  space_eq := (sameObject_merged made).space_eq
  name_eq := (sameObject_merged made).name_eq
  labels_eq := made.within "labels" (by simp)

/-- A patch of the labels leaves it as it is whether a machine runs. -/
theorem isRunning_merged
    (made : after.toJson.SameButVersion (merged before.toJson patch.toJson)) :
    after.isRunning = before.isRunning := by
  have status := made.beside "status" (by simp)
  rw [VmiPatch.toJson, member?_merged_of_not_mem (by simp)] at status
  have written := after.phase_written
  rw [status, before.phase_written] at written
  have injective : Function.Injective fun phase : Phase => Json.str phase.name := by
    intro one other same
    simpa using congrArg Phase.ofName (Json.str.inj same)
  rw [isRunning, isRunning, Option.map_injective injective written]

end Vmi

namespace Taint

/-- Whether the document of a taint has that key. -/
def isKeyed (key : String) (taint : Json) : Bool :=
  taint.member? "key" == some (.str key)

@[simp]
theorem isKeyed_toJson {key : String} {taint : Taint} :
    isKeyed key taint.toJson = (taint.key == key) := by
  simp [isKeyed, toJson, member?, Entries.get?_cons]

end Taint

namespace Node

variable {before after : Node} {patch : NodePatch} {key : String}

/-- The taints of a node as they are written. -/
def writtenTaints (node : Node) : List Json :=
  node.taintList.map Taint.toJson

theorem hasTaint_eq (node : Node) (key : String) :
    node.hasTaint key = node.writtenTaints.any (Taint.isKeyed key) := by
  simp [hasTaint, writtenTaints, List.any_map, Function.comp_def]

theorem metadata_toJson (node : Node) :
    node.toJson.member? "metadata" = some node.metadata.toJson := by
  simp [toJson, member?, Entries.get?_cons]

theorem specMember?_taints (node : Node) :
    node.toJson.specMember? "taints" =
      node.taints.map fun taints => .arr (taints.map Taint.toJson) := by
  have spec : node.toJson.member? "spec" = node.taints.map fun taints =>
      .obj [("taints", .arr (taints.map Taint.toJson))] := by
    simp [toJson, member?, Entries.get?_cons]
  rw [specMember?, spec]
  cases node.taints with
  | none => rfl
  | some taints => simp [member?, Entries.get?_cons]

theorem sameObject_merged
    (made : after.toJson.SameButVersion (merged before.toJson patch.toJson)) :
    after.metadata.SameObject before.metadata := by
  have kept {name : String} (unversioned : name ≠ "resourceVersion") :
      after.metadata.toJson.member? name = before.metadata.toJson.member? name := by
    have within := made.within name unversioned
    rw [NodePatch.toJson,
      metadataMember?_merged_of_not_mem (by simp) (not_mem_versionMember unversioned)] at within
    rw [metadataMember?, metadataMember?, after.metadata_toJson, before.metadata_toJson,
      Option.bind_some, Option.bind_some] at within
    exact within
  exact ObjectMeta.sameObject_of_members (kept (by simp)) (kept (by simp))

/-- A node has the taints of the patch that is merged into it. -/
theorem writtenTaints_merged
    (made : after.toJson.SameButVersion (merged before.toJson patch.toJson)) :
    after.writtenTaints = patch.taints.map Taint.toJson := by
  have taints : after.toJson.specMember? "taints" = _ := made.specMember?_eq
  rw [NodePatch.toJson, specMember?_merged_arr, specMember?_taints, Option.map_eq_some_iff]
    at taints
  obtain ⟨taints, tainted, same⟩ := taints
  rw [writtenTaints, taintList, tainted]
  exact Json.arr.inj same

end Node

end NodeGate
