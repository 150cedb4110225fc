import NodeGate.Proofs.Admission.Withdrawal
import NodeGate.Proofs.Json.Places

/-!
# Documents of machines, pods and nodes

The document of an object is the one that it is written as, or a stored one that it was read
from; a stored document may tell more than the object keeps. In either the metadata stands in
its place and tells the version, so that a patch of the same version changes nothing by it.
-/

namespace NodeGate

open Json Entries

namespace Entries

variable {α : Type} {entries : Entries α}

theorem erase_sublist (key : String) : (erase key entries).Sublist entries := by
  induction entries with
  | nil => exact .slnil
  | cons entry rest ih =>
      rw [erase]
      split
      · exact ih.cons entry
      · exact ih.cons_cons entry

/-- Dropping an entry keeps the order. -/
theorem Sorted.erase (sorted : Sorted entries) (key : String) : Sorted (erase key entries) :=
  List.Pairwise.sublist (erase_sublist key) sorted

end Entries

namespace Json

variable {fields : Entries Json}

theorem names_present (name : String) (value : Option Json) :
    ((present name value).map Prod.fst).Sublist [name] := by
  cases value with
  | none => exact List.nil_sublist _
  | some value => exact List.Sublist.refl _

theorem sorted_append_present {names : List String} {name : String} {value : Option Json}
    (ordered : (names ++ [name]).Pairwise (· < ·)) (named : fields.map Prod.fst = names) :
    Sorted (fields ++ present name value) := by
  refine sorted_of_names ordered ?_
  rw [List.map_append, named]
  exact (List.Sublist.refl names).append (names_present name value)

theorem mergedMembers_append (changes others : List (String × Json)) :
    mergedMembers fields (changes ++ others) =
      mergedMembers (mergedMembers fields changes) others := by
  induction changes generalizing fields with
  | nil => rfl
  | cons change rest ih => rw [List.cons_append, mergedMembers, mergedMembers, ih]

/-- The members with one part of one of them set. -/
def setPart (outer inner : String) (value : Json) (fields : Members) : Members :=
  insert outer (.obj (insert inner value (partsOf outer fields))) fields

/-- A list is put in place of a part. -/
theorem merged_part_arr {outer inner : String} {items : List Json} :
    merged (.obj fields) (.obj [(outer, .obj [(inner, .arr items)])]) =
      .obj (setPart outer inner (.arr items) fields) := by
  rw [merged, members, mergedMembers, mergedMember_obj, mergedMembers, merged, mergedMembers,
    mergedMembers, mergedMember_arr, setPart, partsOf]

/-- An object is merged into a part. -/
theorem merged_part_obj {outer inner : String} {changes : List (String × Json)} :
    merged (.obj fields) (.obj [(outer, .obj [(inner, .obj changes)])]) =
      .obj (setPart outer inner
        (merged ((get? inner (partsOf outer fields)).getD .null) (.obj changes)) fields) := by
  rw [merged, members, mergedMembers, mergedMember_obj, mergedMembers, merged, mergedMembers,
    mergedMembers, mergedMember_obj, setPart, partsOf]

theorem IsSettled.setPart {outer inner : String} {value : Json} (settled : IsSettled (.obj fields))
    (value_settled : value.IsSettled) : IsSettled (.obj (setPart outer inner value fields)) :=
  settled.insert ((settled.partsOf outer).insert value_settled)

/-- Merging keeps members in order. -/
theorem sorted_mergedMembers (sorted : Sorted fields) (changes : List (String × Json)) :
    Sorted (mergedMembers fields changes) := by
  induction changes generalizing fields with
  | nil => exact sorted
  | cons change rest ih =>
      rw [mergedMembers]
      apply ih
      obtain ⟨name, patch⟩ := change
      cases patch with
      | null => exact sorted.erase name
      | _ => exact sorted.insert

end Json

/-- A document with metadata, in both of which the members are in order. -/
structure ObjectDocument where
  fields : Members
  own : Members
  sorted : Sorted fields
  own_sorted : Sorted own
  own_eq : get? "metadata" fields = some (.obj own)

namespace ObjectDocument

variable {document : ObjectDocument} {version : Option String} {changes rest : Members}

/-- The document itself. -/
def json (document : ObjectDocument) : Json :=
  .obj document.fields

/-- The metadata tells that version, if it is one. -/
def IsAt (document : ObjectDocument) (version : Option String) : Prop :=
  ∀ text, version = some text → get? "resourceVersion" document.own = some (.str text)

/-- The version of the document changes nothing in a patch of it. -/
theorem merged_versioned (isAt : document.IsAt version)
    (unnamed : "resourceVersion" ∉ changes.map Prod.fst) :
    merged document.json (.obj (("metadata", .obj (changes ++ versionMember version)) :: rest)) =
      merged document.json (.obj (("metadata", .obj changes) :: rest)) := by
  have same : mergedMembers document.own (changes ++ versionMember version) =
      mergedMembers document.own changes := by
    rw [mergedMembers_append]
    refine mergedMembers_version (sorted_mergedMembers document.own_sorted changes) ?_
    intro text told
    rw [get?_mergedMembers_of_not_mem unnamed]
    exact isAt text told
  simp only [json, merged, members, mergedMembers, mergedMember_obj, document.own_eq,
    Option.getD_some, same]

/-- Metadata without changes changes nothing in a patch. -/
theorem merged_unchanged (rest : Members) :
    merged document.json (.obj (("metadata", .obj []) :: rest)) =
      merged document.json (.obj rest) := by
  simp only [json, merged, members, mergedMembers, mergedMember_obj, document.own_eq,
    Option.getD_some, insert_of_get? document.sorted document.own_eq]

/-- A patch of the specification at the version of the document comes to what it says of the
specification. -/
theorem merged_spec {name : String} {change : Json} (isAt : document.IsAt version) :
    merged document.json (.obj [("metadata", .obj (versionMember version)),
        ("spec", .obj [(name, change)])]) =
      merged document.json (.obj [("spec", .obj [(name, change)])]) :=
  (@merged_versioned _ _ [] _ isAt (by simp)).trans (merged_unchanged _)

/-- A patch of a list in the specification leaves the metadata in its place. -/
theorem exists_merged_spec {name : String} {items : List Json} (isAt : document.IsAt version) :
    ∃ after : ObjectDocument, after.IsAt version ∧ after.json =
      merged document.json (.obj [("metadata", .obj (versionMember version)),
        ("spec", .obj [(name, .arr items)])]) := by
  rw [merged_spec isAt, json, merged_part_arr]
  exact ⟨⟨_, document.own, document.sorted.insert, document.own_sorted,
    (get?_insert_of_ne (by decide) _ _).trans document.own_eq⟩, isAt, rfl⟩

end ObjectDocument

/-- How the objects of a kind are written and read, with their metadata in its place. -/
structure Format (α : Type) where
  encode : α → Json
  decode : Json → Option α
  metadata : α → ObjectMeta
  sorted : ∀ object, Sorted (encode object).members
  metadata_encode : ∀ object, (encode object).member? "metadata" = some (metadata object).toJson
  metadata_decode : ∀ {fields own : Members} {object}, Sorted fields →
    get? "metadata" fields = some (.obj own) → decode (.obj fields) = some object →
      ObjectMeta.decode (.obj own) = some (metadata object)

namespace Format

variable {α : Type} {format : Format α} {object : α} {json : Json}

/-- A stored document with metadata, from which the object is read. -/
structure Stores (format : Format α) (object : α) (json : Json) : Prop where
  settled : json.IsSettled
  decoded : format.decode json = some object
  described : ∃ own, json.member? "metadata" = some (.obj own)

/-- The document that the object is written as, or a stored one from which it is read. -/
def Tells (format : Format α) (object : α) (json : Json) : Prop :=
  json = format.encode object ∨ format.Stores object json

theorem Stores.exists_fields (stores : format.Stores object json) : ∃ fields own,
    json = .obj fields ∧ get? "metadata" fields = some (.obj own) := by
  obtain ⟨own, described⟩ := stores.described
  cases json with
  | obj fields => exact ⟨fields, own, rfl, described⟩
  | _ => contradiction

/-- The metadata is read from its place in a stored document. -/
theorem Stores.decode_metadata {fields : Members} (stores : format.Stores object (.obj fields)) :
    ObjectMeta.decode (.obj (partsOf "metadata" fields)) = some (format.metadata object) := by
  obtain ⟨own, described⟩ := stores.described
  rw [partsOf_of_get? described]
  exact format.metadata_decode stores.settled.obj.1 described stores.decoded

end Format

namespace ObjectMeta

/-- Metadata is written with its members in order. -/
theorem sorted_toJson (metadata : ObjectMeta) : Sorted metadata.toJson.members := by
  have ordered : (["annotations"] ++ ["creationTimestamp"] ++ ["deletionGracePeriodSeconds"] ++
      ["deletionTimestamp"] ++ ["finalizers"] ++ ["generateName"] ++ ["generation"] ++
      ["labels"] ++ ["managedFields"] ++ ["name"] ++ ["namespace"] ++ ["ownerReferences"] ++
      ["resourceVersion"] ++ ["selfLink"] ++ ["uid"]).Pairwise (· < ·) := by decide
  refine sorted_of_names ordered ?_
  simp only [toJson, members, List.map_append]
  repeat' apply List.Sublist.append
  all_goals exact names_present _ _

theorem member?_resourceVersion (metadata : ObjectMeta) :
    metadata.toJson.member? "resourceVersion" = metadata.resourceVersion.map .str := by
  simp [toJson, member?, get?_append]

end ObjectMeta

/-- Every document of an object has its metadata in place, with the version of the object. -/
theorem Format.Tells.exists_document {α : Type} {format : Format α} {object : α} {json : Json}
    (tells : format.Tells object json) :
    ∃ document : ObjectDocument, document.json = json ∧
      document.IsAt (format.metadata object).resourceVersion := by
  rcases tells with rfl | stores
  · have sorted := format.sorted object
    have described := format.metadata_encode object
    cases written : format.encode object with
    | obj fields =>
        rw [written] at sorted described
        refine ⟨⟨fields, _, sorted, (format.metadata object).sorted_toJson, described⟩, rfl, ?_⟩
        intro text told
        exact (format.metadata object).member?_resourceVersion.trans (by rw [told]; rfl)
    | _ =>
        rw [written] at described
        contradiction
  · obtain ⟨fields, own, rfl, described⟩ := stores.exists_fields
    have sorted := stores.settled.obj.1
    have own_sorted := (stores.settled.of_get? described).obj.1
    refine ⟨⟨fields, own, sorted, own_sorted, described⟩, rfl, ?_⟩
    intro text told
    have decoded := stores.decode_metadata
    rw [partsOf_of_get? described] at decoded
    exact ObjectMeta.get?_version own_sorted decoded told

end NodeGate
