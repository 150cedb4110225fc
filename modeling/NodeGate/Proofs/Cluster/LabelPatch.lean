import Mathlib.Data.List.Basic
import NodeGate.Cluster.Patch
import NodeGate.Json.MergePatch

/-!
# What a patch makes of labels

The API server merges a patch into the machine that it stores. What this makes of
the labels is told here from the documents themselves, and from it the pool state
and the claimant of a machine after each patch of the controller.
-/

namespace NodeGate

namespace Entries

variable {α β : Type} {key : String} {entries : Entries α}

theorem get?_append {others : Entries α} :
    get? key (entries ++ others) = (get? key entries).or (get? key others) := by
  induction entries with
  | nil => rfl
  | cons first rest ih =>
      rw [List.cons_append, get?_cons, get?_cons]
      split
      · rfl
      · exact ih

theorem insert_map (change : α → β) (name : String) (value : α) :
    insert name (change value) (entries.map fun entry => (entry.1, change entry.2)) =
      (insert name value entries).map fun entry => (entry.1, change entry.2) := by
  induction entries with
  | nil => rfl
  | cons first rest ih =>
      simp only [List.map_cons, insert]
      split
      · rfl
      · split
        · rfl
        · rw [List.map_cons, ih]

theorem erase_map (change : α → β) (name : String) :
    erase name (entries.map fun entry => (entry.1, change entry.2)) =
      (erase name entries).map fun entry => (entry.1, change entry.2) := by
  induction entries with
  | nil => rfl
  | cons first rest ih =>
      simp only [List.map_cons, erase]
      split
      · exact ih
      · rw [List.map_cons, ih]

end Entries

namespace Json

/-- The member of that name in the metadata of an object. -/
def metadataMember? (name : String) (json : Json) : Option Json :=
  (json.member? "metadata").bind (member? name)

@[simp]
theorem get?_present {key name : String} {value : Option Json} :
    Entries.get? key (present name value) = if name = key then value else none := by
  cases value with
  | none => simp [present]
  | some value => rfl

/-- An object is merged into the member of its name. -/
theorem get?_mergedMember_obj {name : String} {fields changes : List (String × Json)} :
    Entries.get? name (mergedMember fields (name, .obj changes)) =
      some (merged ((Entries.get? name fields).getD .null) (.obj changes)) := by
  rw [mergedMember_obj, Entries.get?_insert_self]

theorem textEntries_injective {labels others : Entries String}
    (same : textEntries labels = textEntries others) : labels = others := by
  unfold textEntries at same
  rw [Json.obj.injEq] at same
  refine List.map_injective_iff.mpr ?_ same
  rintro ⟨name, text⟩ ⟨otherName, otherText⟩ equal
  simpa using equal

end Json

namespace VmiPatch

/-- Sets or removes one label. -/
def relabelOne (labels : Entries String) : String × Option String → Entries String
  | (name, some text) => labels.insert name text
  | (name, none) => labels.erase name

/-- The labels after a patch. -/
def relabel (patch : VmiPatch) (labels : Entries String) : Entries String :=
  patch.labels.foldl relabelOne labels

/-- Merging the labels of a patch into labels is relabelling. -/
theorem mergedMembers_labels (changes : List (String × Option String)) (labels : Entries String) :
    Json.mergedMembers (labels.map fun label => (label.1, .str label.2))
        (changes.map fun label => (label.1, Json.strOrNull label.2)) =
      (changes.foldl relabelOne labels).map fun label => (label.1, .str label.2) := by
  induction changes generalizing labels with
  | nil => rfl
  | cons change rest ih =>
      obtain ⟨name, text⟩ := change
      rw [List.map_cons, Json.mergedMembers, List.foldl_cons, ← ih]
      congr 1
      cases text with
      | none => exact Entries.erase_map Json.str name
      | some text => exact Entries.insert_map Json.str name text

end VmiPatch

theorem ObjectMeta.get?_labels (metadata : ObjectMeta) :
    Json.member? "labels" metadata.toJson = metadata.labels.map Json.textEntries := by
  simp [toJson, Json.member?, Entries.get?_append]

theorem Vmi.poolState?_eq_some_iff {vmi : Vmi} {state : PoolState} :
    vmi.poolState? = some state ↔ vmi.metadata.label? poolStateLabel = some state.label := by
  rw [poolState?, Option.bind_eq_some_iff]
  simp only [PoolState.ofLabel?_eq_some_iff, exists_eq_right]

theorem Vmi.isPooled_of_poolState? {vmi : Vmi} {state : PoolState}
    (told : vmi.poolState? = some state) : vmi.isPooled = true := by
  rw [isPooled, poolState?_eq_some_iff.mp told]
  rfl

theorem Vmi.metadata_toJson (vmi : Vmi) :
    Json.member? "metadata" vmi.toJson = some vmi.metadata.toJson := by
  simp [toJson, Json.member?, Entries.get?_cons]

namespace VmiPatch

variable {patch : VmiPatch} {before after : Vmi} {name : String}

/-- The version to which a patch is pinned, as the API server reads it. -/
theorem metadataMember?_resourceVersion :
    patch.toJson.metadataMember? "resourceVersion" = patch.resourceVersion.map .str := by
  simp [toJson, Json.metadataMember?, Json.member?, Entries.get?_cons, versionMember]

/-- Merging a patch into a machine relabels it. -/
theorem metadataMember?_labels_merged (patch : VmiPatch) (vmi : Vmi) :
    (Json.merged vmi.toJson patch.toJson).metadataMember? "labels" =
      some (Json.textEntries (patch.relabel (vmi.metadata.labels.getD []))) := by
  have unpinned : "labels" ∉ (versionMember patch.resourceVersion).map Prod.fst := by
    cases version : patch.resourceVersion <;> simp [versionMember, Json.present]
  have found : Entries.get? "metadata" vmi.toJson.members = some vmi.metadata.toJson :=
    vmi.metadata_toJson
  have labelled : Entries.get? "labels" vmi.metadata.toJson.members =
      vmi.metadata.labels.map Json.textEntries := vmi.metadata.get?_labels
  have relabelled :
      Json.merged ((vmi.metadata.labels.map Json.textEntries).getD .null)
          (.obj (patch.labels.map fun label => (label.1, Json.strOrNull label.2))) =
        Json.textEntries (patch.relabel (vmi.metadata.labels.getD [])) := by
    rw [Json.merged, relabel, Json.textEntries, ← mergedMembers_labels]
    cases vmi.metadata.labels <;> rfl
  rw [toJson, Json.merged, Json.mergedMembers, Json.mergedMembers, Json.metadataMember?,
    Json.member?, Json.get?_mergedMember_obj, found, Option.getD_some, Json.merged,
    Json.mergedMembers]
  change Entries.get? "labels" _ = _
  rw [Json.get?_mergedMembers_of_not_mem unpinned, Json.get?_mergedMember_obj, labelled,
    relabelled]

/-- The machine after is the one before with its labels as merging the patch makes
them; what else the API server changes is left open. -/
structure Makes (patch : VmiPatch) (before after : Vmi) : Prop where
  space_eq : after.metadata.space = before.metadata.space
  name_eq : after.metadata.name = before.metadata.name
  labels_eq : after.toJson.metadataMember? "labels" =
    (Json.merged before.toJson patch.toJson).metadataMember? "labels"

/-- The labels of a machine after a patch. -/
theorem Makes.label?_eq (makes : patch.Makes before after) (name : String) :
    after.metadata.label? name =
      Entries.get? name (patch.relabel (before.metadata.labels.getD [])) := by
  have merged := makes.labels_eq
  rw [metadataMember?_labels_merged, Json.metadataMember?, after.metadata_toJson,
    Option.bind_some, after.metadata.get?_labels, Option.map_eq_some_iff] at merged
  obtain ⟨labels, labelled, same⟩ := merged
  rw [ObjectMeta.label?, labelled, Option.bind_some, Json.textEntries_injective same]

theorem get?_relabel_of_not_mem {changes : List (String × Option String)} {labels : Entries String}
    (unnamed : name ∉ changes.map Prod.fst) :
    Entries.get? name (changes.foldl relabelOne labels) = Entries.get? name labels := by
  induction changes generalizing labels with
  | nil => rfl
  | cons change rest ih =>
      simp only [List.map_cons, List.mem_cons, not_or] at unnamed
      rw [List.foldl_cons, ih unnamed.2]
      obtain ⟨changed, text⟩ := change
      cases text with
      | none => exact Entries.get?_erase_of_ne unnamed.1 labels
      | some text => exact Entries.get?_insert_of_ne unnamed.1 text labels

/-- A label that a patch does not name stays. -/
theorem Makes.label?_of_not_mem (makes : patch.Makes before after)
    (unnamed : name ∉ patch.labels.map Prod.fst) :
    after.metadata.label? name = before.metadata.label? name := by
  rw [makes.label?_eq, relabel, get?_relabel_of_not_mem unnamed, ObjectMeta.label?]
  cases before.metadata.labels <;> rfl

theorem Makes.claim {version : Option String} {key : String}
    (makes : (VmiPatch.claim version key).Makes before after) :
    after.poolState? = some .claimed ∧ after.claimant? = some key := by
  constructor
  · rw [Vmi.poolState?, makes.label?_eq]
    simp [relabel, VmiPatch.claim, relabelOne]
  · rw [Vmi.claimant?, makes.label?_eq]
    simp only [relabel, VmiPatch.claim, List.foldl_cons, List.foldl_nil, relabelOne]
    rw [Entries.get?_insert_of_ne (by decide), Entries.get?_insert_self]

theorem Makes.giveBack {version : Option String}
    (makes : (VmiPatch.giveBack version).Makes before after) :
    after.poolState? = some .available ∧ after.claimant? = none := by
  constructor
  · rw [Vmi.poolState?, makes.label?_eq]
    simp [relabel, VmiPatch.giveBack, relabelOne]
  · rw [Vmi.claimant?, makes.label?_eq]
    simp only [relabel, VmiPatch.giveBack, List.foldl_cons, List.foldl_nil, relabelOne]
    rw [Entries.get?_insert_of_ne (by decide), Entries.get?_erase_self]

theorem Makes.promote {version : Option String}
    (makes : (VmiPatch.promote version).Makes before after) :
    after.poolState? = some .available := by
  rw [Vmi.poolState?, makes.label?_eq]
  simp [relabel, VmiPatch.promote, relabelOne]

end VmiPatch

/-- A machine with the labels that a patch makes of its own, at another version. -/
def Vmi.relabelled (vmi : Vmi) (patch : VmiPatch) (version : String) : Vmi :=
  { vmi with
    metadata :=
      { vmi.metadata with
        labels := some (patch.relabel (vmi.metadata.labels.getD []))
        resourceVersion := some version } }

theorem VmiPatch.makes_relabelled (vmi : Vmi) (patch : VmiPatch) (version : String) :
    patch.Makes vmi (vmi.relabelled patch version) := by
  refine ⟨rfl, rfl, ?_⟩
  rw [metadataMember?_labels_merged, Json.metadataMember?, Vmi.metadata_toJson,
    Option.bind_some, ObjectMeta.get?_labels]
  rfl

end NodeGate
