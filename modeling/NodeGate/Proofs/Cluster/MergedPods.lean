import NodeGate.Proofs.Cluster.MergedObjects

/-!
# What a patch makes of a pod

A pod is let go by changes of its scheduling gates, its finalizers and the node that it
selects. This part of a pod is its outline here, and a patch that is merged into the
document of a pod redraws the outline as it describes and leaves the rest of the pod as
it was.
-/

namespace NodeGate

open Json

namespace Pod

variable {before after : Pod} {version : Option String} {names : List String} {host : String}

theorem metadata_toJson (pod : Pod) :
    pod.toJson.member? "metadata" = some pod.metadata.toJson := by
  simp [toJson, member?, Entries.get?_cons]

theorem spec_toJson (pod : Pod) : pod.toJson.member? "spec" = pod.spec.map PodSpec.toJson := by
  simp [toJson, member?, Entries.get?_cons]

theorem metadataMember?_toJson {name : String} (pod : Pod) :
    pod.toJson.metadataMember? name = pod.metadata.toJson.member? name := by
  rw [metadataMember?, pod.metadata_toJson, Option.bind_some]

theorem specMember?_gates (pod : Pod) : pod.toJson.specMember? "schedulingGates" =
    (pod.spec.bind PodSpec.gates).map fun names => .arr (names.map PodSpec.gateToJson) := by
  rw [specMember?, pod.spec_toJson]
  cases pod.spec with
  | none => rfl
  | some spec => simp [PodSpec.toJson, member?, Entries.get?_cons, Entries.get?_append]

theorem specMember?_nodeSelector (pod : Pod) : pod.toJson.specMember? "nodeSelector" =
    (pod.spec.bind PodSpec.nodeSelector).map textEntries := by
  rw [specMember?, pod.spec_toJson]
  cases pod.spec with
  | none => rfl
  | some spec => simp [PodSpec.toJson, member?, Entries.get?_cons, Entries.get?_append]

theorem specMember?_containers (pod : Pod) : pod.toJson.specMember? "containers" =
    pod.spec.map fun spec => .arr (spec.containers.map Container.toJson) := by
  rw [specMember?, pod.spec_toJson]
  cases pod.spec with
  | none => rfl
  | some spec => simp [PodSpec.toJson, member?, Entries.get?_cons]

/-- The entries of the node selector. -/
def selector (pod : Pod) : Entries String :=
  (pod.spec.bind PodSpec.nodeSelector).getD []

theorem selectedHost?_eq (pod : Pod) : pod.selectedHost? = Entries.get? hostLabel pod.selector := by
  rw [selectedHost?, selector]
  cases pod.spec.bind PodSpec.nodeSelector <;> rfl

theorem gatesToJson_injective : Function.Injective fun names : List String =>
    Json.arr (names.map PodSpec.gateToJson) := by
  intro one other same
  refine List.map_injective_iff.mpr ?_ (Json.arr.inj same)
  exact fun name others same => by simpa [PodSpec.gateToJson] using same

theorem gates_eq_of_member
    (same : after.toJson.specMember? "schedulingGates" =
      before.toJson.specMember? "schedulingGates") :
    after.gates = before.gates := by
  rw [specMember?_gates, specMember?_gates] at same
  rw [gates, gates, Option.map_injective gatesToJson_injective same]

theorem strings_injective : Function.Injective strings := by
  intro one other same
  exact List.map_injective_iff.mpr (fun _ _ => Json.str.inj) (Json.arr.inj same)

theorem finalizers_eq_of_member
    (same : after.toJson.metadataMember? "finalizers" =
      before.toJson.metadataMember? "finalizers") :
    after.finalizers = before.finalizers := by
  rw [metadataMember?_toJson, metadataMember?_toJson, ObjectMeta.member?_finalizers,
    ObjectMeta.member?_finalizers] at same
  rw [finalizers, finalizers, Option.map_injective strings_injective same]

theorem selector_eq_of_member
    (same : after.toJson.specMember? "nodeSelector" = before.toJson.specMember? "nodeSelector") :
    after.selector = before.selector := by
  rw [specMember?_nodeSelector, specMember?_nodeSelector] at same
  rw [selector, selector, Option.map_injective (fun _ _ => textEntries_injective) same]

/-- The pods agree in everything but what changes while one is let go: the version, the
finalizers, the time of its deletion, the scheduling gates and the selected node. -/
structure Akin (one other : Pod) : Prop where
  beside : ∀ name, name ≠ "metadata" → name ≠ "spec" →
    one.toJson.member? name = other.toJson.member? name
  within : ∀ name, name ∉ ["resourceVersion", "finalizers", "deletionTimestamp"] →
    one.toJson.metadataMember? name = other.toJson.metadataMember? name
  specified : ∀ name, name ∉ ["schedulingGates", "nodeSelector"] →
    one.toJson.specMember? name = other.toJson.specMember? name

theorem Akin.refl (pod : Pod) : pod.Akin pod :=
  ⟨fun _ _ _ => rfl, fun _ _ => rfl, fun _ _ => rfl⟩

theorem Akin.trans {one other another : Pod} (first : one.Akin other)
    (second : other.Akin another) : one.Akin another where
  beside name outside apart :=
    (first.beside name outside apart).trans (second.beside name outside apart)
  within name kept := (first.within name kept).trans (second.within name kept)
  specified name kept := (first.specified name kept).trans (second.specified name kept)

theorem Akin.sameObject {one other : Pod} (akin : one.Akin other) :
    one.metadata.SameObject other.metadata := by
  have space := akin.within "namespace" (by simp)
  have name := akin.within "name" (by simp)
  rw [metadataMember?_toJson, metadataMember?_toJson] at space name
  exact ObjectMeta.sameObject_of_members space name

/-- Akin pods have a specification or have none. -/
theorem Akin.isSome_spec {one other : Pod} (akin : one.Akin other) :
    one.spec.isSome = other.spec.isSome := by
  have containers := akin.specified "containers" (by simp)
  rw [specMember?_containers, specMember?_containers] at containers
  simpa using congrArg Option.isSome containers

/-- What changes of a pod while it is let go. -/
@[ext]
structure Outline where
  gates : List String
  finalizers : List String
  selector : Entries String
  /-- The time of the deletion, as it is written. -/
  deletion : Option String
deriving DecidableEq

/-- The part of a pod that changes while it is let go. -/
def outline (pod : Pod) : Outline where
  gates := pod.gates
  finalizers := pod.finalizers
  selector := pod.selector
  deletion := pod.metadata.deletionTimestamp.map (·.textInSeconds)

end Pod

/-- The outline of a pod after a change. -/
def PodChange.redraw (change : PodChange) (outline : Pod.Outline) : Pod.Outline :=
  match change with
  | .gates names => { outline with gates := names }
  | .host name => { outline with selector := outline.selector.insert hostLabel name }
  | .finalizers names => { outline with finalizers := names }

/-- Merging finalizers into an object replaces those that it has. -/
theorem merged_finalizers {target : Json} {names : List String} {version : Option String} :
    (merged target (.obj [("metadata",
      .obj (("finalizers", strings names) :: versionMember version))])).metadataMember?
        "finalizers" = some (strings names) := by
  rw [@metadataMember?_merged _ _ _ [] (by simp), mergedMembers,
    get?_mergedMembers_of_not_mem (not_mem_versionMember (by simp)), strings, mergedMember_arr,
    Entries.get?_insert_self]

/-- Merging one text into a selector sets its entry. -/
theorem merged_selector (selector : Option (Entries String)) (key text : String) :
    merged ((selector.map textEntries).getD .null) (.obj [(key, .str text)]) =
      textEntries ((selector.getD []).insert key text) := by
  rw [merged, mergedMembers, mergedMembers, textEntries, ← Entries.insert_map Json.str,
    mergedMember_str]
  cases selector <;> rfl

namespace PodPatch

variable {before after : Pod} {patch : PodPatch} {version : Option String} {names : List String}
  {host name : String}

/-- A patch leaves the metadata of a pod alone, but for the finalizers. -/
theorem metadataMember?_merged
    (made : after.toJson.SameButVersion (merged before.toJson patch.toJson))
    (unversioned : name ≠ "resourceVersion")
    (unnamed : (∃ names, patch.change = .finalizers names) → name ≠ "finalizers") :
    after.toJson.metadataMember? name = before.toJson.metadataMember? name := by
  have unpinned := @not_mem_versionMember _ patch.resourceVersion unversioned
  rw [made.within name unversioned, toJson]
  cases changed : patch.change with
  | finalizers names =>
      have other : name ≠ "finalizers" := unnamed ⟨names, changed⟩
      exact metadataMember?_merged_of_not_mem (by simp) (by simp [other, unpinned])
  | _ => exact metadataMember?_merged_of_not_mem (by simp) unpinned

/-- A patch leaves the specification of a pod alone, but for the part that it describes. -/
theorem specMember?_merged
    (made : after.toJson.SameButVersion (merged before.toJson patch.toJson))
    (noGates : (∃ names, patch.change = .gates names) → name ≠ "schedulingGates")
    (noHost : (∃ host, patch.change = .host host) → name ≠ "nodeSelector") :
    after.toJson.specMember? name = before.toJson.specMember? name := by
  rw [made.specMember?_eq, toJson]
  cases changed : patch.change with
  | gates names => exact specMember?_merged_of_ne (noGates ⟨names, changed⟩)
  | host host => exact specMember?_merged_of_ne (noHost ⟨host, changed⟩)
  | finalizers names => rw [specMember?, member?_merged_of_not_mem (by simp), specMember?]

theorem akin_merged (made : after.toJson.SameButVersion (merged before.toJson patch.toJson)) :
    after.Akin before := by
  constructor
  · intro name outside apart
    rw [made.beside name outside, toJson]
    cases patch.change <;> exact member?_merged_of_not_mem (by simp [outside, apart])
  · intro name kept
    simp only [List.mem_cons, List.not_mem_nil, or_false, not_or] at kept
    exact metadataMember?_merged made kept.1 fun _ => kept.2.1
  · intro name kept
    simp only [List.mem_cons, List.not_mem_nil, or_false, not_or] at kept
    exact specMember?_merged made (fun _ => kept.1) fun _ => kept.2

theorem gates_merged (made : after.toJson.SameButVersion (merged before.toJson patch.toJson)) :
    after.gates = (patch.change.redraw before.outline).gates := by
  cases changed : patch.change with
  | gates names =>
      have written : after.toJson.specMember? "schedulingGates" = _ := made.specMember?_eq
      rw [toJson, changed] at written
      simp only [specMember?_merged_arr, Pod.specMember?_gates, Option.map_eq_some_iff] at written
      obtain ⟨others, gated, same⟩ := written
      rw [Pod.gates, gated]
      exact Pod.gatesToJson_injective same
  | _ =>
      apply Pod.gates_eq_of_member
      exact specMember?_merged made (by simp [changed]) (by simp [changed])

theorem finalizers_merged
    (made : after.toJson.SameButVersion (merged before.toJson patch.toJson)) :
    after.finalizers = (patch.change.redraw before.outline).finalizers := by
  cases changed : patch.change with
  | finalizers names =>
      have written := made.within "finalizers" (by simp)
      rw [toJson, changed] at written
      simp only [merged_finalizers, Pod.metadataMember?_toJson, ObjectMeta.member?_finalizers,
        Option.map_eq_some_iff] at written
      obtain ⟨others, held, same⟩ := written
      rw [Pod.finalizers, held]
      exact Pod.strings_injective same
  | _ =>
      apply Pod.finalizers_eq_of_member
      exact metadataMember?_merged made (by simp) (by simp [changed])

theorem selector_merged (made : after.toJson.SameButVersion (merged before.toJson patch.toJson)) :
    after.selector = (patch.change.redraw before.outline).selector := by
  cases changed : patch.change with
  | host host =>
      have written : after.toJson.specMember? "nodeSelector" = _ := made.specMember?_eq
      rw [toJson, changed] at written
      simp only [Json.specMember?_merged] at written
      rw [get?_mergedMember_obj, get?_members_getD, ← specMember?, Pod.specMember?_nodeSelector,
        Pod.specMember?_nodeSelector, merged_selector, Option.map_eq_some_iff] at written
      obtain ⟨labels, selected, same⟩ := written
      rw [Pod.selector, selected]
      exact textEntries_injective same
  | _ =>
      apply Pod.selector_eq_of_member
      exact specMember?_merged made (by simp [changed]) (by simp [changed])

/-- What changes of a pod changes as the patch describes it. -/
theorem outline_merged (made : after.toJson.SameButVersion (merged before.toJson patch.toJson)) :
    after.outline = patch.change.redraw before.outline := by
  have deletion : after.outline.deletion = before.outline.deletion := by
    have same : after.toJson.metadataMember? "deletionTimestamp" = _ :=
      metadataMember?_merged made (by simp) (by simp)
    rw [Pod.metadataMember?_toJson, Pod.metadataMember?_toJson,
      ObjectMeta.member?_deletionTimestamp, ObjectMeta.member?_deletionTimestamp] at same
    apply map_str_injective
    simpa only [Pod.outline, Option.map_map, Function.comp_def] using same
  rw [Pod.Outline.ext_iff]
  refine ⟨gates_merged made, finalizers_merged made, selector_merged made, ?_⟩
  cases patch.change <;> exact deletion

end PodPatch

end NodeGate
