import NodeGate.Admission.Decision
import NodeGate.Proofs.Cluster.MergedObjects
import NodeGate.Proofs.Json.Settled

/-!
# The document of a pod

The API server keeps a pod as a document, and it is the document to which it applies the
operations of a patch. A settled document of a pod with a name and a specification holds
the metadata and the specification in their places. It is told here what such a document
is decoded as after a member of one of the two was set.
-/

namespace NodeGate

open Json Entries

/-- A document with metadata and a specification, in all three of which the members are in
order. -/
structure PodDocument where
  fields : Members
  metadata : Members
  spec : Members
  sorted : Sorted fields
  metadata_sorted : Sorted metadata
  spec_sorted : Sorted spec
  metadata_eq : get? "metadata" fields = some (.obj metadata)
  spec_eq : get? "spec" fields = some (.obj spec)

variable {α β γ : Type} {fields : Members} {pod : Pod} {spec : PodSpec} {metadata : ObjectMeta}

/-- What is decoded after a member that was not set is decoded in the same way from the
document as it was. -/
theorem bind_optional_insert_of_ne {asked key : String} {value : Json} {decode : Json → Option α}
    {rest : Option α → Option β} {next : Option α → Option γ} {before : β} {after : γ}
    (sorted : Sorted fields)
    (decoded : (Json.optional asked decode fields).bind rest = some before) (other : asked ≠ key)
    (onward : ∀ found, rest found = some before → next found = some after) :
    (Json.optional asked decode (insert key value fields)).bind next = some after := by
  obtain ⟨found, read, decoded⟩ := Option.bind_eq_some_iff.mp decoded
  rw [optional_insert_of_ne sorted value other, read, Option.bind_some]
  exact onward found decoded

/-- The finalizers of metadata are those that its document is given. -/
theorem ObjectMeta.decode_insert_finalizers (sorted : Sorted fields) (names : List String)
    (decoded : ObjectMeta.decode (.obj fields) = some metadata) :
    ObjectMeta.decode (.obj (insert "finalizers" (strings names) fields)) =
      some { metadata with finalizers := some names } := by
  have written : Json.optional "finalizers" asTexts
      (insert "finalizers" (strings names) fields) = some (some names) := by
    apply optional_insert_self sorted (by simp [strings])
    exact decodeAll_map .str (fun _ => rfl) names
  unfold decode at decoded ⊢
  -- Six members stand before the finalizers, and eight after them.
  iterate 6 refine bind_optional_insert_of_ne sorted decoded (by decide) fun _ decoded => ?_
  obtain ⟨_, -, decoded⟩ := Option.bind_eq_some_iff.mp decoded
  rw [written]
  iterate 8 refine bind_optional_insert_of_ne sorted decoded (by decide) fun _ decoded => ?_
  obtain rfl := Option.some.inj decoded
  rfl

namespace PodSpec

theorem decode_eq_some_iff : PodSpec.decode (.obj fields) = some spec ↔
    (Json.optional "initContainers" (asList Container.decode) fields).isSome = true ∧
      orEmpty "containers" [] (asList Container.decode) fields = some spec.containers ∧
      Json.optional "schedulingGates" (asList decodeGate) fields = some spec.gates ∧
      Json.optional "nodeSelector" asTextEntries fields = some spec.nodeSelector ∧
      Json.optional "tolerations" (asList Toleration.decode) fields = some spec.tolerations := by
  simp only [decode, asFields, Option.bind_eq_bind, Option.bind_some, Option.bind_eq_some_iff,
    Option.some.injEq, Option.isSome_iff_exists]
  constructor
  · rintro ⟨_, initial, _, held, _, gated, _, selected, _, tolerated, rfl⟩
    exact ⟨⟨_, initial⟩, held, gated, selected, tolerated⟩
  · rintro ⟨⟨_, initial⟩, held, gated, selected, tolerated⟩
    exact ⟨_, initial, _, held, _, gated, _, selected, _, tolerated, rfl⟩

/-- The gates of a specification are those that its document is given. -/
theorem decode_insert_gates (sorted : Sorted fields) (names : List String)
    (decoded : PodSpec.decode (.obj fields) = some spec) :
    PodSpec.decode (.obj (insert "schedulingGates" (.arr (names.map gateToJson)) fields)) =
      some { spec with gates := some names } := by
  have written : Json.optional "schedulingGates" (asList decodeGate)
      (insert "schedulingGates" (.arr (names.map gateToJson)) fields) = some (some names) := by
    apply optional_insert_self sorted (by simp)
    exact decodeAll_map gateToJson (fun _ => rfl) names
  rw [decode_eq_some_iff] at decoded ⊢
  simp only [written, optional_insert_of_ne sorted _, orEmpty_insert_of_ne sorted _, ne_eq,
    String.reduceEq, not_false_eq_true]
  simp [decoded]

/-- The tolerations of a specification are those that its document is given. -/
theorem decode_insert_tolerations {items : List Json} {tolerations : List Toleration}
    (sorted : Sorted fields) (tolerated : decodeAll Toleration.decode items = some tolerations)
    (decoded : PodSpec.decode (.obj fields) = some spec) :
    PodSpec.decode (.obj (insert "tolerations" (.arr items) fields)) =
      some { spec with tolerations := some tolerations } := by
  have written : Json.optional "tolerations" (asList Toleration.decode)
      (insert "tolerations" (.arr items) fields) = some (some tolerations) :=
    optional_insert_self sorted (by simp) tolerated
  rw [decode_eq_some_iff] at decoded ⊢
  simp only [written, optional_insert_of_ne sorted _, orEmpty_insert_of_ne sorted _, ne_eq,
    String.reduceEq, not_false_eq_true]
  simp [decoded]

/-- The selector of a specification is the one that its document is given. -/
theorem decode_insert_selector {selector : Entries String} (sorted : Sorted fields)
    (ordered : Sorted selector) (decoded : PodSpec.decode (.obj fields) = some spec) :
    PodSpec.decode (.obj (insert "nodeSelector" (textEntries selector) fields)) =
      some { spec with nodeSelector := some selector } := by
  have written : Json.optional "nodeSelector" asTextEntries
      (insert "nodeSelector" (textEntries selector) fields) = some (some selector) :=
    optional_insert_self sorted nofun (asTextEntries_textEntries ordered)
  rw [decode_eq_some_iff] at decoded ⊢
  simp only [written, optional_insert_of_ne sorted _, orEmpty_insert_of_ne sorted _, ne_eq,
    String.reduceEq, not_false_eq_true]
  simp [decoded]

/-- A selector that was decoded is in order. -/
theorem sorted_selector (sorted : Sorted fields)
    (decoded : PodSpec.decode (.obj fields) = some spec) :
    Sorted (spec.nodeSelector.getD []) := by
  obtain ⟨-, -, -, selected, -⟩ := decode_eq_some_iff.mp decoded
  exact sorted_of_optional sorted selected

/-- The tolerations that were decoded stand in a list. -/
theorem exists_tolerations {tolerations : List Toleration} (sorted : Sorted fields)
    (decoded : PodSpec.decode (.obj fields) = some spec)
    (tolerating : spec.tolerations = some tolerations) :
    ∃ items, get? "tolerations" fields = some (.arr items) ∧
      decodeAll Toleration.decode items = some tolerations := by
  obtain ⟨-, -, -, -, tolerated⟩ := decode_eq_some_iff.mp decoded
  rw [tolerating] at tolerated
  obtain ⟨value, found, tolerated⟩ := exists_of_optional sorted tolerated
  cases value with
  | arr items => exact ⟨items, found, tolerated⟩
  | _ => contradiction

end PodSpec

namespace PodDocument

variable {document : PodDocument} {name : String} {value : Json}

/-- The document itself. -/
def json (document : PodDocument) : Json :=
  .obj document.fields

/-- The document with a member of the metadata set. -/
def setMetadata (document : PodDocument) (name : String) (value : Json) : PodDocument where
  fields := insert "metadata" (.obj (insert name value document.metadata)) document.fields
  metadata := insert name value document.metadata
  spec := document.spec
  sorted := document.sorted.insert
  metadata_sorted := document.metadata_sorted.insert
  spec_sorted := document.spec_sorted
  metadata_eq := get?_insert_self _ _ _
  spec_eq := (get?_insert_of_ne (by decide) _ _).trans document.spec_eq

/-- The document with a member of the specification set. -/
def setSpec (document : PodDocument) (name : String) (value : Json) : PodDocument where
  fields := insert "spec" (.obj (insert name value document.spec)) document.fields
  metadata := document.metadata
  spec := insert name value document.spec
  sorted := document.sorted.insert
  metadata_sorted := document.metadata_sorted
  spec_sorted := document.spec_sorted.insert
  metadata_eq := (get?_insert_of_ne (by decide) _ _).trans document.metadata_eq
  spec_eq := get?_insert_self _ _ _

/-- A document is decoded as a pod from its metadata and its specification. -/
theorem decode_eq_some_iff : Pod.decode document.json = some pod ↔
    fixed "apiVersion" Pod.apiVersion document.fields = some () ∧
      fixed "kind" Pod.kind document.fields = some () ∧
      ObjectMeta.decode (.obj document.metadata) = some pod.metadata ∧
      ∃ spec, PodSpec.decode (.obj document.spec) = some spec ∧ pod.spec = some spec := by
  have metadata : orEmpty "metadata" {} ObjectMeta.decode document.fields =
      ObjectMeta.decode (.obj document.metadata) :=
    orEmpty_of_get? document.sorted document.metadata_eq nofun
  have spec : Json.optional "spec" PodSpec.decode document.fields =
      (PodSpec.decode (.obj document.spec)).map some :=
    optional_of_get? document.sorted document.spec_eq nofun
  simp only [Pod.decode, json, asFields, Option.bind_eq_bind, Option.bind_some, metadata, spec,
    Option.bind_eq_some_iff, Option.map_eq_some_iff, Option.some.injEq]
  constructor
  · rintro ⟨_, version, _, kind, _, described, _, ⟨_, specified, rfl⟩, rfl⟩
    exact ⟨version, kind, described, _, specified, rfl⟩
  · rintro ⟨version, kind, described, _, specified, same⟩
    exact ⟨_, version, _, kind, _, described, _, ⟨_, specified, rfl⟩, by rw [← same]⟩

/-- Setting a member of the metadata changes the metadata alone. -/
theorem decode_setMetadata (decoded : Pod.decode document.json = some pod)
    (described : ObjectMeta.decode (.obj (insert name value document.metadata)) = some metadata) :
    Pod.decode (document.setMetadata name value).json =
      some { pod with metadata := metadata } := by
  obtain ⟨version, kind, -, spec, specified, same⟩ := decode_eq_some_iff.mp decoded
  apply decode_eq_some_iff.mpr
  refine ⟨?_, ?_, described, spec, specified, same⟩
  · exact (fixed_insert_of_ne document.sorted _ (by decide)).trans version
  · exact (fixed_insert_of_ne document.sorted _ (by decide)).trans kind

/-- Setting a member of the specification changes the specification alone. -/
theorem decode_setSpec (decoded : Pod.decode document.json = some pod)
    (specified : PodSpec.decode (.obj (insert name value document.spec)) = some spec) :
    Pod.decode (document.setSpec name value).json = some { pod with spec := some spec } := by
  obtain ⟨version, kind, described, -⟩ := decode_eq_some_iff.mp decoded
  apply decode_eq_some_iff.mpr
  refine ⟨?_, ?_, described, spec, specified, rfl⟩
  · exact (fixed_insert_of_ne document.sorted _ (by decide)).trans version
  · exact (fixed_insert_of_ne document.sorted _ (by decide)).trans kind

/-- A settled document of a pod with a name and a specification has both in their places. -/
theorem exists_of_decode {json : Json} (settled : json.IsSettled)
    (decoded : Pod.decode json = some pod) (named : pod.metadata.name.isSome = true)
    (specified : pod.spec.isSome = true) : ∃ document : PodDocument, document.json = json := by
  cases json with
  | obj fields =>
      obtain ⟨sorted, -⟩ := settled.obj
      simp only [Pod.decode, asFields, Option.bind_eq_bind, Option.bind_some,
        Option.bind_eq_some_iff, Option.some.injEq] at decoded
      obtain ⟨_, -, _, -, metadata, described, spec, specifies, rfl⟩ := decoded
      obtain ⟨spec, rfl⟩ := Option.isSome_iff_exists.mp specified
      obtain ⟨own, metadata_eq, described⟩ := exists_of_orEmpty sorted described (by
        rintro rfl
        contradiction)
      obtain ⟨inner, spec_eq, specifies⟩ := exists_of_optional sorted specifies
      cases own with
      | obj members =>
          cases inner with
          | obj parts =>
              exact ⟨⟨fields, members, parts, sorted, (settled.of_get? metadata_eq).obj.1,
                (settled.of_get? spec_eq).obj.1, metadata_eq, spec_eq⟩, rfl⟩
          | _ => contradiction
      | _ => contradiction
  | _ => contradiction

end PodDocument

end NodeGate
