import NodeGate.Proofs.Cluster.EditedObjects
import NodeGate.Proofs.Release.Handover

/-!
# What patches change

A patch of the controller, merged into a document of the object that it was built from, changes
the labels, the selected node or the one list that it is about and nothing else. It carries the
version of the object, and once it is merged there is nothing left for its builder to do.
-/

namespace NodeGate

open Json Entries

namespace Format

variable {α : Type} {format : Format α} {before after : α} {patch : Json}
  {edits : List (List String × Option Json)}

/-- The patch carries the version of the object before. It edits the documents of that object to
tell at the places of the edits what the object after is written with, and makes of the stored
ones documents of the object after. -/
structure Turns (format : Format α) (before : α) (patch : Json)
    (edits : List (List String × Option Json)) (after : α) : Prop where
  versioned : patch.metadataMember? "resourceVersion" =
    (format.metadata before).resourceVersion.map .str
  edited : ∀ json, format.Tells before json → Edited edits json (merged json patch)
  written : ∀ edit ∈ edits, (format.encode after).valueAt? edit.1 = edit.2
  stored : ∀ json, format.Stores before json → format.Stores after (merged json patch)

/-- The builder has no patch exactly for the objects that are as it wants them, and has none for
what its patches make of the others. -/
structure Attains (format : Format α) (build : α → Option Json) (wanted : α → Prop)
    (edits : α → List (List String × Option Json)) (made : α → α) : Prop where
  none_iff : ∀ object, build object = none ↔ wanted object
  turns : ∀ object patch, build object = some patch →
    format.Turns object patch (edits object) (made object)
  none_made : ∀ object, build (made object) = none

/-- A patch that comes to the change of one part turns an object into the one that is read once
the part is set to what the change makes of it. -/
theorem Turns.of_part (outer inner : String) (change : Json)
    (versioned : patch.metadataMember? "resourceVersion" =
      (format.metadata before).resourceVersion.map .str)
    (same : ∀ document : ObjectDocument,
      document.IsAt (format.metadata before).resourceVersion →
        merged document.json patch = merged document.json (.obj [(outer, .obj [(inner, change)])]))
    (named : namedPlaces (.obj [(outer, .obj [(inner, change)])]) = edits.map Prod.fst)
    (placed : ∀ target, ∀ edit ∈ edits,
      (merged target (.obj [(outer, .obj [(inner, change)])])).valueAt? edit.1 = edit.2)
    (written : ∀ edit ∈ edits, (format.encode after).valueAt? edit.1 = edit.2)
    (stored : ∀ fields, format.Stores before (.obj fields) → ∃ value,
      merged (.obj fields) (.obj [(outer, .obj [(inner, change)])]) =
        .obj (setPart outer inner value fields) ∧ value.IsSettled ∧
      format.decode (.obj (setPart outer inner value fields)) = some after) :
    format.Turns before patch edits after where
  versioned := versioned
  edited json tells := by
    obtain ⟨document, rfl, isAt⟩ := tells.exists_document
    rw [same document isAt]
    exact edited_merged named (placed document.json)
  written := written
  stored json stores := by
    obtain ⟨document, rfl, isAt⟩ := Format.Tells.exists_document (.inr stores)
    obtain ⟨value, sets, value_settled, decoded⟩ := stored document.fields stores
    rw [same document isAt, ObjectDocument.json, sets]
    refine ⟨stores.settled.setPart value_settled, decoded, ?_⟩
    by_cases own : outer = "metadata"
    · subst own
      exact ⟨_, get?_insert_self _ _ _⟩
    · exact ⟨document.own, (get?_insert_of_ne (Ne.symm own) _ _).trans document.own_eq⟩

/-- A patch of one part of the metadata. -/
theorem Turns.of_metadata (name : String) (change : Json) (other : name ≠ "resourceVersion")
    (named : namedPlaces (.obj [("metadata", .obj [(name, change)])]) = edits.map Prod.fst)
    (placed : ∀ target, ∀ edit ∈ edits,
      (merged target (.obj [("metadata", .obj [(name, change)])])).valueAt? edit.1 = edit.2)
    (written : ∀ edit ∈ edits, (format.encode after).valueAt? edit.1 = edit.2)
    (stored : ∀ fields, format.Stores before (.obj fields) → ∃ value,
      merged (.obj fields) (.obj [("metadata", .obj [(name, change)])]) =
        .obj (setPart "metadata" name value fields) ∧ value.IsSettled ∧
      format.decode (.obj (setPart "metadata" name value fields)) = some after) :
    format.Turns before (.obj [("metadata", .obj ((name, change) ::
      versionMember (format.metadata before).resourceVersion))]) edits after := by
  refine of_part "metadata" name change ?_ ?_ named placed written stored
  · simp [metadataMember?, member?, get?_cons, versionMember, other]
  · intro document isAt
    exact @ObjectDocument.merged_versioned _ _ [(name, change)] [] isAt (by simpa using other.symm)

/-- A patch of one part of the specification. -/
theorem Turns.of_spec (name : String) (change : Json)
    (named : namedPlaces (.obj [("spec", .obj [(name, change)])]) = edits.map Prod.fst)
    (placed : ∀ target, ∀ edit ∈ edits,
      (merged target (.obj [("spec", .obj [(name, change)])])).valueAt? edit.1 = edit.2)
    (written : ∀ edit ∈ edits, (format.encode after).valueAt? edit.1 = edit.2)
    (stored : ∀ fields, format.Stores before (.obj fields) → ∃ value,
      merged (.obj fields) (.obj [("spec", .obj [(name, change)])]) =
        .obj (setPart "spec" name value fields) ∧ value.IsSettled ∧
      format.decode (.obj (setPart "spec" name value fields)) = some after) :
    format.Turns before (.obj [("metadata", .obj
      (versionMember (format.metadata before).resourceVersion)), ("spec", .obj [(name, change)])])
      edits after := by
  refine of_part "spec" name change ?_ ?_ named placed written stored
  · simp [metadataMember?, member?, get?_cons, versionMember]
  · exact fun document isAt => ObjectDocument.merged_spec isAt

/-- A builder attains what it wants if its patches turn each object into one that is as
wanted. -/
theorem Attains.of_built {β : Type} {build : α → Option β} {encode : β → Json} {target : α → β}
    {wanted : α → Prop} {edits : α → List (List String × Option Json)} {made : α → α}
    (none_iff : ∀ object, build object = none ↔ wanted object)
    (built : ∀ object patch, build object = some patch → patch = target object)
    (turns : ∀ object, format.Turns object (encode (target object)) (edits object) (made object))
    (wanted_made : ∀ object, wanted (made object)) :
    format.Attains (fun object => (build object).map encode) wanted edits made where
  none_iff object := by rw [Option.map_eq_none_iff, none_iff]
  turns object patch found := by
    obtain ⟨change, builds, rfl⟩ := Option.map_eq_some_iff.mp found
    rw [built object change builds]
    exact turns object
  none_made object := by rw [Option.map_eq_none_iff, none_iff]; exact wanted_made object

end Format

namespace VmiPatch

/-- What stands at the labels that a patch is about. -/
def edits (patch : VmiPatch) : List (List String × Option Json) :=
  patch.labels.map fun label => (["metadata", "labels", label.1], label.2.map .str)

/-- The machine with the labels that a patch makes of its own. -/
def amend (patch : VmiPatch) (vmi : Vmi) : Vmi :=
  { vmi with metadata := { vmi.metadata with
      labels := some (patch.relabel (vmi.metadata.labels.getD [])) } }

variable {patch : VmiPatch} {vmi : Vmi}

theorem memberPlaces_labels (labels : Entries (Option String)) :
    memberPlaces (labels.map fun label => (label.1, strOrNull label.2)) =
      labels.map fun label => [label.1] := by
  induction labels with
  | nil => rfl
  | cons label rest ih =>
      obtain ⟨name, text⟩ := label
      rw [List.map_cons, memberPlaces, ih]
      cases text <;> rfl

/-- A patch of labels names the places of these labels. -/
theorem namedPlaces_labels (some_label : patch.labels ≠ []) :
    namedPlaces (.obj [("metadata", .obj [("labels",
      .obj (patch.labels.map fun label => (label.1, strOrNull label.2)))])]) =
        patch.edits.map Prod.fst := by
  rw [namedPlaces_obj (List.cons_ne_nil _ _), memberPlaces, memberPlaces,
    namedPlaces_obj (List.cons_ne_nil _ _), memberPlaces, memberPlaces,
    namedPlaces_obj (by simpa using some_label), memberPlaces_labels]
  simp [edits]

/-- Labels that are merged stand as the patch has them, if it names none of them twice. -/
theorem get?_merged_labels {labels : Entries (Option String)} {label : String × Option String}
    (distinct : (labels.map Prod.fst).Nodup) (member : label ∈ labels) (fields : Entries Json) :
    get? label.1 (mergedMembers fields (labels.map fun label => (label.1, strOrNull label.2))) =
      label.2.map .str := by
  induction labels generalizing fields with
  | nil => contradiction
  | cons first rest ih =>
      obtain ⟨absent, distinct⟩ := List.nodup_cons.mp distinct
      rw [List.map_cons, mergedMembers]
      rcases List.mem_cons.mp member with rfl | member
      · rw [get?_mergedMembers_of_not_mem (by simpa using absent)]
        cases label.2 with
        | none => exact get?_mergedMember_null _ _
        | some text => rw [strOrNull, mergedMember_str, get?_insert_self, Option.map_some]
      · exact ih distinct member _

/-- The machine after a patch is written with the labels of the patch. -/
theorem valueAt?_amend (distinct : (patch.labels.map Prod.fst).Nodup) :
    ∀ edit ∈ patch.edits, (patch.amend vmi).toJson.valueAt? edit.1 = edit.2 := by
  intro edit member
  obtain ⟨label, there, rfl⟩ := List.mem_map.mp member
  have merges := get?_merged_labels distinct there
    ((vmi.metadata.labels.getD []).map fun label => (label.1, .str label.2))
  have labelled : (patch.amend vmi).toJson.metadataMember? "labels" =
      some (textEntries (patch.relabel (vmi.metadata.labels.getD []))) :=
    (Vmi.metadataMember?_toJson _).trans (ObjectMeta.get?_labels _)
  rw [mergedMembers_labels] at merges
  rw [valueAt?_metadata, labelled, Option.bind_some, valueAt?, textEntries, member?, relabel,
    merges]
  exact Option.bind_fun_some _

/-- A patch of labels turns a machine into the one with these labels. -/
theorem turns (version : patch.resourceVersion = vmi.metadata.resourceVersion)
    (some_label : patch.labels ≠ []) (distinct : (patch.labels.map Prod.fst).Nodup) :
    Vmi.format.Turns vmi patch.toJson patch.edits (patch.amend vmi) := by
  rw [toJson, version]
  refine .of_metadata "labels" _ (by decide) (namedPlaces_labels some_label) ?_ ?_ ?_
  · intro target edit member
    obtain ⟨label, there, rfl⟩ := List.mem_map.mp member
    rw [valueAt?_merged_cons, valueAt?_merged_cons, valueAt?_merged_singleton]
    exact get?_merged_labels distinct there _
  · exact valueAt?_amend distinct
  · intro fields stores
    have settled : IsSettled (.obj fields) := stores.settled
    have own_settled := settled.partsOf "metadata"
    have decoded := stores.decode_metadata
    have labels := ObjectMeta.optional_labels decoded
    have ordered : Sorted (patch.relabel (vmi.metadata.labels.getD [])) :=
      sorted_foldl_relabelOne (sorted_of_optional own_settled.obj.1 labels) _
    refine ⟨_, ?_, isSettled_textEntries ordered, ?_⟩
    · rw [merged_part_obj, merged_texts own_settled labels]
      rfl
    · exact Vmi.decode_insert_metadata settled.obj.1 stores.decoded
        (ObjectMeta.decode_insert_labels own_settled.obj.1 ordered decoded)

end VmiPatch

namespace PodChange

/-- What stands at the places that a change is about. -/
def edits : PodChange → List (List String × Option Json)
  | .gates names =>
    [(["spec", "schedulingGates"], some (.arr (names.map PodSpec.gateToJson)))]
  | .host name => [(["spec", "nodeSelector", hostLabel], some (.str name))]
  | .finalizers names => [(["metadata", "finalizers"], some (strings names))]

/-- The pod after a change. -/
def amend (change : PodChange) (pod : Pod) : Pod :=
  match change with
  | .gates names => { pod with spec := some { pod.spec.getD {} with gates := some names } }
  | .host name =>
    { pod with spec := some { pod.spec.getD {} with
        nodeSelector := some (pod.selector.insert hostLabel name) } }
  | .finalizers names =>
    { pod with metadata := { pod.metadata with finalizers := some names } }

/-- The pod after a change is written with what the change puts there. -/
theorem valueAt?_amend (change : PodChange) (pod : Pod) :
    ∀ edit ∈ change.edits, (change.amend pod).toJson.valueAt? edit.1 = edit.2 := by
  intro edit member
  cases change with
  | gates names =>
      have held : ((gates names).amend pod).toJson.specMember? "schedulingGates" =
          some (.arr (names.map PodSpec.gateToJson)) := Pod.specMember?_gates _
      rw [List.mem_singleton.mp member, valueAt?_spec, held]
      rfl
  | host name =>
      have selects : ((host name).amend pod).toJson.specMember? "nodeSelector" =
          some (textEntries (pod.selector.insert hostLabel name)) :=
        Pod.specMember?_nodeSelector _
      rw [List.mem_singleton.mp member, valueAt?_spec, selects, Option.bind_some, valueAt?,
        textEntries, member?, ← insert_map Json.str, get?_insert_self]
      rfl
  | finalizers names =>
      have held : ((finalizers names).amend pod).toJson.metadataMember? "finalizers" =
          some (strings names) :=
        (Pod.metadataMember?_toJson _).trans ObjectMeta.member?_finalizers
      rw [List.mem_singleton.mp member, valueAt?_metadata, held]
      rfl

/-- A patch of a pod turns it into the one after the change. -/
theorem turns (change : PodChange) (pod : Pod) :
    Pod.format.Turns pod (PodPatch.toJson ⟨pod.metadata.resourceVersion, change⟩) change.edits
      (change.amend pod) := by
  cases change with
  | gates names =>
      refine .of_spec "schedulingGates" (.arr (names.map PodSpec.gateToJson)) rfl ?_ ?_ ?_
      · intro target edit member
        rw [List.mem_singleton.mp member, valueAt?_merged_arr]
      · exact valueAt?_amend _ pod
      · intro fields stores
        have settled : IsSettled (.obj fields) := stores.settled
        have specified := Pod.decode_partsOf_spec settled.obj.1 stores.decoded
        refine ⟨_, merged_part_arr,
          isSettled_map (fun name => ⟨PodSpec.gateToJson name, rfl⟩) names, ?_⟩
        exact Pod.decode_insert_spec settled.obj.1 stores.decoded
          (PodSpec.decode_insert_gates (settled.partsOf "spec").obj.1 names specified)
  | host name =>
      refine .of_spec "nodeSelector" (.obj [(hostLabel, .str name)]) rfl ?_ ?_ ?_
      · intro target edit member
        rw [List.mem_singleton.mp member, valueAt?_merged_cons, valueAt?_merged_cons,
          valueAt?_merged_singleton, mergedMembers, mergedMembers, mergedMember_str,
          get?_insert_self]
      · exact valueAt?_amend _ pod
      · intro fields stores
        have settled : IsSettled (.obj fields) := stores.settled
        have spec_settled := settled.partsOf "spec"
        have specified := Pod.decode_partsOf_spec settled.obj.1 stores.decoded
        obtain ⟨-, -, -, selected, -⟩ := PodSpec.decode_eq_some_iff.mp specified
        have ordered : Sorted (insert hostLabel name ((pod.spec.getD {}).nodeSelector.getD [])) :=
          (sorted_of_optional spec_settled.obj.1 selected).insert
        have selects := merged_texts spec_settled selected [(hostLabel, some name)]
        refine ⟨_, ?_, isSettled_textEntries ordered, ?_⟩
        · rw [merged_part_obj]
          exact congrArg (fun value => Json.obj (setPart _ _ value fields)) selects
        · refine (Pod.decode_insert_spec settled.obj.1 stores.decoded
            (PodSpec.decode_insert_selector spec_settled.obj.1 ordered specified)).trans ?_
          rw [amend, Pod.selector]
          cases pod.spec <;> rfl
  | finalizers names =>
      refine .of_metadata "finalizers" (strings names) (by decide) rfl ?_ ?_ ?_
      · intro target edit member
        rw [List.mem_singleton.mp member, strings, valueAt?_merged_arr]
      · exact valueAt?_amend _ pod
      · intro fields stores
        have settled : IsSettled (.obj fields) := stores.settled
        refine ⟨_, merged_part_arr, isSettled_map (fun name => ⟨.str name, rfl⟩) names, ?_⟩
        exact Pod.decode_insert_metadata settled.obj.1 stores.decoded
          (ObjectMeta.decode_insert_finalizers (settled.partsOf "metadata").obj.1 names
            stores.decode_metadata)

end PodChange

namespace NodePatch

/-- What stands at the taints of a node. -/
def edits (patch : NodePatch) : List (List String × Option Json) :=
  [(["spec", "taints"], some (.arr (patch.taints.map Taint.toJson)))]

/-- The node with the taints of a patch, as they are read again. -/
def amend (patch : NodePatch) (node : Node) : Node :=
  { node with taints := some (patch.taints.map Taint.inSeconds) }

variable {node : Node} {taints : List Taint}

/-- The node after a patch is written with the taints of the patch. -/
theorem valueAt?_amend (patch : NodePatch) (node : Node) :
    ∀ edit ∈ patch.edits, (patch.amend node).toJson.valueAt? edit.1 = edit.2 := by
  intro edit member
  have held : (patch.amend node).toJson.specMember? "taints" =
      some (.arr (patch.taints.map Taint.toJson)) :=
    (Node.specMember?_taints _).trans (by simp [amend, Function.comp_def])
  rw [List.mem_singleton.mp member, valueAt?_spec, held]
  rfl

/-- A patch of the taints of a node turns it into the one that has them, if those that tell a
time were there before. -/
theorem turns (known : ∀ taint ∈ taints, taint ∈ node.taintList ∨ taint.timeAdded = none) :
    Node.format.Turns node (toJson ⟨node.metadata.resourceVersion, taints⟩)
      (edits ⟨node.metadata.resourceVersion, taints⟩)
      (amend ⟨node.metadata.resourceVersion, taints⟩ node) := by
  refine .of_spec "taints" (.arr (taints.map Taint.toJson)) rfl ?_ ?_ ?_
  · intro target edit member
    rw [List.mem_singleton.mp member, valueAt?_merged_arr]
  · exact valueAt?_amend _ node
  · intro fields stores
    have settled : IsSettled (.obj fields) := stores.settled
    have read : decodeAll Taint.decode (taints.map Taint.toJson) =
        some (taints.map Taint.inSeconds) := by
      refine decodeAll_map_of_mem _ _ fun taint member => Taint.decode_toJson fun time timed => ?_
      -- A time that is written again was read, so that it lies in the calendar.
      rcases known taint member with held | untimed
      · exact Node.isProper_of_decode settled stores.decoded held timed
      · rw [untimed] at timed
        contradiction
    refine ⟨_, merged_part_arr, isSettled_map Taint.isSettled_toJson taints, ?_⟩
    exact Node.decode_insert_spec settled.obj.1 stores.decoded
      (optional_insert_self (settled.partsOf "spec").obj.1 nofun read)

end NodePatch

namespace Pod

variable {pod : Pod} {name : String}

theorem withoutGate?_eq_none_iff : PodPatch.withoutGate? pod = none ↔ gateName ∉ pod.gates := by
  rw [← isGated_eq_false_iff, PodPatch.withoutGate?]
  cases pod.isGated <;> simp

theorem withoutFinalizer?_eq_none_iff :
    PodPatch.withoutFinalizer? pod = none ↔ finalizerName ∉ pod.finalizers := by
  simp [PodPatch.withoutFinalizer?, hasFinalizer]

theorem selectHost?_eq_none_iff :
    PodPatch.selectHost? pod name = none ↔ get? hostLabel pod.selector = some name := by
  simp [PodPatch.selectHost?, selectedHost?_eq]

end Pod

namespace Node

variable {node : Node} {key : String}

theorem withTaint?_eq_none_iff :
    NodePatch.withTaint? node key = none ↔ ∃ taint ∈ node.taintList, taint.key = key := by
  simp [NodePatch.withTaint?, hasTaint]

theorem withoutTaint?_eq_none_iff :
    NodePatch.withoutTaint? node key = none ↔ ∀ taint ∈ node.taintList, taint.key ≠ key := by
  simp [NodePatch.withoutTaint?, hasTaint]

end Node

namespace PodPatch

theorem withoutGate?_attains : Pod.format.Attains (fun pod => (withoutGate? pod).map toJson)
    (fun pod => gateName ∉ pod.gates)
    (fun pod => (PodChange.gates (pod.gates.filter (· ≠ gateName))).edits)
    (fun pod => (PodChange.gates (pod.gates.filter (· ≠ gateName))).amend pod) := by
  refine .of_built (fun _ => Pod.withoutGate?_eq_none_iff)
    (fun _ _ built => (withoutGate?_eq_some_iff.mp built).2) (fun pod => PodChange.turns _ pod) ?_
  intro pod
  simp [PodChange.amend, Pod.gates]

theorem withoutFinalizer?_attains :
    Pod.format.Attains (fun pod => (withoutFinalizer? pod).map toJson)
      (fun pod => finalizerName ∉ pod.finalizers)
      (fun pod => (PodChange.finalizers (pod.finalizers.filter (· ≠ finalizerName))).edits)
      (fun pod =>
        (PodChange.finalizers (pod.finalizers.filter (· ≠ finalizerName))).amend pod) := by
  refine .of_built (fun _ => Pod.withoutFinalizer?_eq_none_iff)
    (fun _ _ built => (withoutFinalizer?_eq_some_iff.mp built).2)
    (fun pod => PodChange.turns _ pod) ?_
  intro pod
  simp [PodChange.amend, Pod.finalizers]

theorem selectHost?_attains (name : String) :
    Pod.format.Attains (fun pod => (selectHost? pod name).map toJson)
      (fun pod => get? hostLabel pod.selector = some name)
      (fun _ => (PodChange.host name).edits) (PodChange.host name).amend := by
  refine .of_built (fun _ => Pod.selectHost?_eq_none_iff)
    (fun _ _ built => (selectHost?_eq_some_iff.mp built).2) (fun pod => PodChange.turns _ pod) ?_
  intro pod
  exact get?_insert_self hostLabel name pod.selector

end PodPatch

namespace NodePatch

variable {node : Node} {key : String} {patch : NodePatch}

theorem withTaint?_attains (key : String) :
    Node.format.Attains (fun node => (withTaint? node key).map toJson)
      (fun node => ∃ taint ∈ node.taintList, taint.key = key)
      (fun node => (reserving node key).edits) (fun node => (reserving node key).amend node) := by
  refine .of_built (fun _ => Node.withTaint?_eq_none_iff) ?_ (fun node => turns ?_) ?_
  · intro node patch built
    exact (Option.some.inj (Option.ite_none_left_eq_some.mp built).2).symm
  · intro taint member
    rcases List.mem_append.mp member with held | ours
    · exact .inl held
    · rw [List.mem_singleton.mp ours]
      exact .inr rfl
  · intro node
    exact ⟨(claimedTaint key).inSeconds, by simp [reserving, amend, Node.taintList], rfl⟩

theorem withoutTaint?_attains (key : String) :
    Node.format.Attains (fun node => (withoutTaint? node key).map toJson)
      (fun node => ∀ taint ∈ node.taintList, taint.key ≠ key)
      (fun node => (freeing node key).edits) (fun node => (freeing node key).amend node) := by
  refine .of_built (fun _ => Node.withoutTaint?_eq_none_iff) ?_ (fun node => turns ?_) ?_
  · intro node patch built
    exact (Option.some.inj (Option.ite_none_right_eq_some.mp built).2).symm
  · exact fun taint member => .inl (List.mem_of_mem_filter member)
  · intro node taint member
    simp only [freeing, amend, Node.taintList, Option.getD_some, List.mem_map,
      List.mem_filter, decide_eq_true_eq] at member
    obtain ⟨held, ⟨-, apart⟩, rfl⟩ := member
    exact apart

/-- The taint that is put on a node and taken off again leaves the taints as they were, both in a
document of the node and in what is read of a stored one, with their times to the second. -/
structure Restores (node : Node) (key : String) : Prop where
  added : withTaint? node key = some (reserving node key)
  removed : withoutTaint? ((reserving node key).amend node) key =
    some (freeing ((reserving node key).amend node) key)
  edited : ∀ json, Node.format.Tells node json →
    Edited [(["spec", "taints"], some (.arr (node.taintList.map Taint.toJson)))] json
      (merged (merged json (reserving node key).toJson)
        (freeing ((reserving node key).amend node) key).toJson)
  stored : ∀ json, Node.format.Stores node json →
    Node.format.Stores { node with taints := some (node.taintList.map Taint.inSeconds) }
      (merged (merged json (reserving node key).toJson)
        (freeing ((reserving node key).amend node) key).toJson)

/-- A patch of taints edits every document at its version. -/
theorem edited_document {document : ObjectDocument} (isAt : document.IsAt patch.resourceVersion) :
    Edited patch.edits document.json (merged document.json patch.toJson) := by
  rw [toJson, ObjectDocument.merged_spec isAt]
  refine edited_merged rfl fun edit member => ?_
  rw [List.mem_singleton.mp member, valueAt?_merged_arr]

/-- Without the taint that was put on, the taints are those that were there. -/
theorem taints_freeing (untainted : ∀ taint ∈ node.taintList, taint.key ≠ key) :
    (freeing ((reserving node key).amend node) key).taints =
      node.taintList.map Taint.inSeconds := by
  have others : (node.taintList.map Taint.inSeconds).filter (·.key ≠ key) =
      node.taintList.map Taint.inSeconds := by
    refine List.filter_eq_self.mpr fun taint member => ?_
    obtain ⟨held, there, rfl⟩ := List.mem_map.mp member
    exact decide_eq_true (untainted held there)
  simp only [freeing, amend, reserving, Node.taintList, Option.getD_some, List.map_append,
    List.filter_append]
  rw [← Node.taintList, others]
  simp [claimedTaint]

theorem restores (untainted : ∀ taint ∈ node.taintList, taint.key ≠ key) :
    Restores node key := by
  have added : withTaint? node key = some (reserving node key) := by
    refine withTaint?_of_untainted ?_
    simpa [Node.hasTaint] using untainted
  have removed : withoutTaint? ((reserving node key).amend node) key =
      some (freeing ((reserving node key).amend node) key) := by
    refine withoutTaint?_of_tainted ?_
    simp [Node.hasTaint, Node.taintList, amend, reserving, claimedTaint]
  have taints := taints_freeing untainted
  refine ⟨added, removed, fun json tells => ?_, fun json stores => ?_⟩
  · obtain ⟨document, rfl, isAt⟩ := tells.exists_document
    -- What the first patch makes of a document is again one at the version of the second.
    obtain ⟨between, isAt_between, same⟩ := ObjectDocument.exists_merged_spec isAt
    have reserved : Edited _ document.json (merged document.json (reserving node key).toJson) :=
      edited_document isAt
    have freed := @edited_document (freeing ((reserving node key).amend node) key) between
      isAt_between
    rw [same] at freed
    have listed : (freeing ((reserving node key).amend node) key).edits =
        [(["spec", "taints"], some (.arr (node.taintList.map Taint.toJson)))] := by
      simp [edits, taints, Function.comp_def]
    exact listed ▸ reserved.trans freed rfl
  · have reserved := ((withTaint?_attains key).turns node _ (congrArg _ added)).stored json stores
    have freed := ((withoutTaint?_attains key).turns _ _ (congrArg _ removed)).stored _ reserved
    have same : (freeing ((reserving node key).amend node) key).amend
        ((reserving node key).amend node) =
          { node with taints := some (node.taintList.map Taint.inSeconds) } := by
      rw [amend, taints, List.map_map]
      simp [amend, Function.comp_def]
    exact same ▸ freed

end NodePatch

/-- What the controller patches is what it names. The patch of a machine changes the labels of
the claimant and of the pool state, the patch of a pod its gates, its finalizers or the node that
it selects, and the patch of a node its taints; our entry comes or goes, and the others stay in
their order. The builders for pods and nodes have no patch exactly when what they want is so
already, and it is so after each patch of theirs. A taint that is put on a node without one of its
key leaves no trace when it is taken off. -/
theorem patches_change_what_they_name :
    (∀ (vmi : Vmi) (key : String), Vmi.format.Turns vmi
      (VmiPatch.claim vmi.metadata.resourceVersion key).toJson
      [(["metadata", "labels", claimantLabel], some (.str key)),
        (["metadata", "labels", poolStateLabel], some (.str PoolState.claimed.label))]
      ((VmiPatch.claim vmi.metadata.resourceVersion key).amend vmi)) ∧
    (∀ vmi : Vmi, Vmi.format.Turns vmi (VmiPatch.giveBack vmi.metadata.resourceVersion).toJson
      [(["metadata", "labels", claimantLabel], none),
        (["metadata", "labels", poolStateLabel], some (.str PoolState.available.label))]
      ((VmiPatch.giveBack vmi.metadata.resourceVersion).amend vmi)) ∧
    (∀ vmi : Vmi, Vmi.format.Turns vmi (VmiPatch.promote vmi.metadata.resourceVersion).toJson
      [(["metadata", "labels", poolStateLabel], some (.str PoolState.available.label))]
      ((VmiPatch.promote vmi.metadata.resourceVersion).amend vmi)) ∧
    (Pod.format.Attains (fun pod => (PodPatch.withoutGate? pod).map PodPatch.toJson)
      (fun pod => gateName ∉ pod.gates)
      (fun pod => (PodChange.gates (pod.gates.filter (· ≠ gateName))).edits)
      (fun pod => (PodChange.gates (pod.gates.filter (· ≠ gateName))).amend pod)) ∧
    (∀ name : String,
      Pod.format.Attains (fun pod => (PodPatch.selectHost? pod name).map PodPatch.toJson)
        (fun pod => get? hostLabel pod.selector = some name)
        (fun _ => (PodChange.host name).edits) (PodChange.host name).amend) ∧
    (Pod.format.Attains (fun pod => (PodPatch.withoutFinalizer? pod).map PodPatch.toJson)
      (fun pod => finalizerName ∉ pod.finalizers)
      (fun pod => (PodChange.finalizers (pod.finalizers.filter (· ≠ finalizerName))).edits)
      (fun pod =>
        (PodChange.finalizers (pod.finalizers.filter (· ≠ finalizerName))).amend pod)) ∧
    (∀ key : String,
      Node.format.Attains (fun node => (NodePatch.withTaint? node key).map NodePatch.toJson)
        (fun node => ∃ taint ∈ node.taintList, taint.key = key)
        (fun node => (NodePatch.reserving node key).edits)
        (fun node => (NodePatch.reserving node key).amend node)) ∧
    (∀ key : String,
      Node.format.Attains (fun node => (NodePatch.withoutTaint? node key).map NodePatch.toJson)
        (fun node => ∀ taint ∈ node.taintList, taint.key ≠ key)
        (fun node => (NodePatch.freeing node key).edits)
        (fun node => (NodePatch.freeing node key).amend node)) ∧
    (∀ (node : Node) (key : String), (∀ taint ∈ node.taintList, taint.key ≠ key) →
      NodePatch.Restores node key) := by
  have distinct : [claimantLabel, poolStateLabel].Nodup := by decide
  refine ⟨fun vmi key => ?_, fun vmi => ?_, fun vmi => ?_, PodPatch.withoutGate?_attains,
    PodPatch.selectHost?_attains, PodPatch.withoutFinalizer?_attains,
    NodePatch.withTaint?_attains, NodePatch.withoutTaint?_attains,
    fun node key => NodePatch.restores⟩
  · exact VmiPatch.turns rfl (List.cons_ne_nil _ _) distinct
  · exact VmiPatch.turns rfl (List.cons_ne_nil _ _) distinct
  · exact VmiPatch.turns rfl (List.cons_ne_nil _ _) (List.nodup_singleton _)

/-- A machine of the pool with a label of others. -/
def sharedVmi : Json :=
  .obj [("metadata", .obj [
      ("labels", .obj [("example.com/rack", .str "r1"), (poolStateLabel, .str "available")]),
      ("name", .str "n1"), ("namespace", .str "pool"), ("resourceVersion", .str "9")]),
    ("spec", .obj [("domain", .obj []), ("hostname", .str "n1")])]

/-- A node with a taint of others, which was put on half a second after the year began. -/
def lostNode : Json :=
  .obj [("apiVersion", .str "v1"), ("kind", .str "Node"),
    ("metadata", .obj [("name", .str "n1"), ("resourceVersion", .str "9")]),
    ("spec", .obj [("podCIDR", .str "10.0.0.0/24"), ("taints", .arr [.obj [
      ("effect", .str "NoExecute"), ("key", .str "example.com/lost"),
      ("timeAdded", .str "2024-01-01T00:00:00.5Z")]])])]

theorem sharedVmi_and_lostNode_patched :
    (∃ vmi claimed, Vmi.format.Stores vmi sharedVmi ∧
      Vmi.format.Stores claimed (merged sharedVmi
        (VmiPatch.claim vmi.metadata.resourceVersion "default/p1").toJson) ∧
      claimed.metadata.labels = some [("example.com/rack", "r1"),
        (claimantLabel, "default/p1"), (poolStateLabel, "claimed")]) ∧
    (∃ pod patch released, Pod.format.Stores pod Admission.recreatedPod ∧
      PodPatch.withoutGate? pod = some patch ∧
      Pod.format.Stores released (merged Admission.recreatedPod patch.toJson) ∧
      released.gates = ["example.com/wait", "example.com/wait"] ∧
      PodPatch.withoutGate? released = none) ∧
    (∃ node add remove restored, Node.format.Stores node lostNode ∧
      (∀ taint ∈ node.taintList, taint.key ≠ "p1.maroonedpods.io") ∧
      NodePatch.withTaint? node "p1.maroonedpods.io" = some add ∧
      NodePatch.withoutTaint? (add.amend node) "p1.maroonedpods.io" = some remove ∧
      Node.format.Stores restored (merged (merged lostNode add.toJson) remove.toJson) ∧
      restored.taintList = [⟨"example.com/lost", none, "NoExecute",
        some ⟨⟨2024, 1, 1⟩, 0, 0, 0, 0⟩⟩]) := by
  obtain ⟨claims, -, -, ungates, -, -, -, -, restores⟩ := patches_change_what_they_name
  refine ⟨?_, ?_, ?_⟩
  · obtain ⟨vmi, stores, labels⟩ : ∃ vmi, Vmi.format.Stores vmi sharedVmi ∧
        vmi.metadata.labels = some [("example.com/rack", "r1"), (poolStateLabel, "available")] :=
      ⟨_, ⟨⟨sharedVmi, rfl⟩, rfl, _, rfl⟩, rfl⟩
    refine ⟨vmi, _, stores, (claims vmi "default/p1").stored _ stores, ?_⟩
    rw [VmiPatch.amend, labels]
    rfl
  · obtain ⟨pod, stores, gated, gates⟩ : ∃ pod, Pod.format.Stores pod Admission.recreatedPod ∧
        pod.isGated = true ∧
        pod.gates.filter (· ≠ gateName) = ["example.com/wait", "example.com/wait"] :=
      ⟨_, ⟨⟨Admission.recreatedPod, rfl⟩, rfl, _, rfl⟩, by decide, by decide⟩
    have built : PodPatch.withoutGate? pod = some _ := if_pos gated
    refine ⟨pod, _, _, stores, built,
      (ungates.turns pod _ (congrArg _ built)).stored _ stores, gates, ?_⟩
    exact Option.map_eq_none_iff.mp (ungates.none_made pod)
  · obtain ⟨node, stores, taints⟩ : ∃ node, Node.format.Stores node lostNode ∧
        node.taintList = [⟨"example.com/lost", none, "NoExecute",
          some ⟨⟨2024, 1, 1⟩, 0, 0, 0, 500000000⟩⟩] := by
      refine ⟨⟨{ name := some "n1", resourceVersion := some "9" }, some _⟩,
        ⟨⟨lostNode, rfl⟩, ?_, _, rfl⟩, rfl⟩
      change Node.decode lostNode = _
      decide +kernel
    have untainted : ∀ taint ∈ node.taintList, taint.key ≠ "p1.maroonedpods.io" := by
      rw [taints]
      decide
    obtain ⟨added, removed, -, stored⟩ := restores node "p1.maroonedpods.io" untainted
    refine ⟨node, _, _, _, stores, untainted, added, removed, stored _ stores, ?_⟩
    rw [Node.taintList, taints]
    rfl

end NodeGate
