import NodeGate.Proofs.Cluster.ObjectDocuments
import NodeGate.Proofs.Time.Instants

/-!
# What is read of edited documents

A stored document in which one member of the metadata or of the specification was set is read
as the object with that part changed. Labels and selectors are merged entry by entry, and the
taints of a node come back with their times in whole seconds.
-/

namespace NodeGate

open Json Entries

variable {fields : Members}

/-- Changes of texts by name, merged into a member, are made of what is read from it. -/
theorem Json.merged_texts {name : String} {entries : Option (Entries String)}
    (settled : IsSettled (.obj fields))
    (decoded : Json.optional name asTextEntries fields = some entries)
    (changes : List (String × Option String)) :
    merged ((get? name fields).getD .null)
        (.obj (changes.map fun change => (change.1, strOrNull change.2))) =
      textEntries (changes.foldl VmiPatch.relabelOne (entries.getD [])) := by
  have there : partsOf name fields =
      (entries.getD []).map fun entry => (entry.1, .str entry.2) := by
    cases entries with
    | none => exact partsOf_of_optional_none settled.obj.1 decoded
    | some entries =>
        obtain ⟨value, found, read⟩ := exists_of_optional settled.obj.1 decoded
        rw [partsOf, found]
        exact members_of_asTextEntries (settled.of_get? found) read
  rw [merged, ← partsOf, there, VmiPatch.mergedMembers_labels, textEntries]

/-- Changes of texts by name keep them in order. -/
theorem VmiPatch.sorted_foldl_relabelOne {entries : Entries String} (sorted : Sorted entries)
    (changes : List (String × Option String)) :
    Sorted (changes.foldl relabelOne entries) := by
  induction changes generalizing entries with
  | nil => exact sorted
  | cons change rest ih =>
      apply ih
      obtain ⟨name, text⟩ := change
      cases text with
      | none => exact sorted.erase name
      | some text => exact sorted.insert

namespace ObjectMeta

variable {metadata : ObjectMeta}

theorem optional_labels (decoded : decode (.obj fields) = some metadata) :
    Json.optional "labels" asTextEntries fields = some metadata.labels := by
  -- The labels are the fifth member that is asked for.
  iterate 4 obtain ⟨_, -, decoded⟩ := Option.bind_eq_some_iff.mp decoded
  obtain ⟨found, read, decoded⟩ := Option.bind_eq_some_iff.mp decoded
  iterate 10 obtain ⟨_, -, decoded⟩ := Option.bind_eq_some_iff.mp decoded
  obtain rfl := Option.some.inj decoded
  exact read

/-- The labels of metadata are those that its document is given. -/
theorem decode_insert_labels {labels : Entries String} (sorted : Sorted fields)
    (ordered : Sorted labels) (decoded : decode (.obj fields) = some metadata) :
    decode (.obj (insert "labels" (textEntries labels) fields)) =
      some { metadata with labels := some labels } := by
  have written : Json.optional "labels" asTextEntries
      (insert "labels" (textEntries labels) fields) = some (some labels) :=
    optional_insert_self sorted nofun (asTextEntries_textEntries ordered)
  unfold decode at decoded ⊢
  -- Four members stand before the labels, and ten after them.
  iterate 4 refine bind_optional_insert_of_ne sorted decoded (by decide) fun _ decoded => ?_
  obtain ⟨_, -, decoded⟩ := Option.bind_eq_some_iff.mp decoded
  rw [written]
  iterate 10 refine bind_optional_insert_of_ne sorted decoded (by decide) fun _ decoded => ?_
  obtain rfl := Option.some.inj decoded
  rfl

end ObjectMeta

namespace Vmi

variable {vmi : Vmi} {metadata : ObjectMeta} {value : Json}

theorem decode_eq_some_iff (sorted : Sorted fields) : decode (.obj fields) = some vmi ↔
    required "metadata" ObjectMeta.decode fields = some vmi.metadata ∧
      required "spec" VmiSpec.decode fields = some vmi.spec ∧
      Json.optional "status" VmiStatus.decode fields = some vmi.status := by
  rw [decode, decodeWith, objectFields?, if_pos (isUnrepeated_of_sorted sorted _)]
  simp only [Option.bind_eq_bind, Option.bind_some, Option.bind_eq_some_iff, Option.some.injEq]
  constructor
  · rintro ⟨_, described, _, specified, _, reported, rfl⟩
    exact ⟨described, specified, reported⟩
  · rintro ⟨described, specified, reported⟩
    exact ⟨_, described, _, specified, _, reported, rfl⟩

/-- How machines are written and read. -/
def format : Format Vmi where
  encode := toJson
  decode := decode
  metadata := Vmi.metadata
  sorted _ :=
    @sorted_append_present _ ["apiVersion", "kind", "metadata", "spec"] _ _ (by decide) rfl
  metadata_encode := metadata_toJson
  metadata_decode sorted found decoded :=
    (required_of_get? sorted found).symm.trans ((decode_eq_some_iff sorted).mp decoded).1

/-- Setting the metadata changes the metadata alone. -/
theorem decode_insert_metadata (sorted : Sorted fields)
    (decoded : decode (.obj fields) = some vmi)
    (described : ObjectMeta.decode value = some metadata) :
    decode (.obj (insert "metadata" value fields)) = some { vmi with metadata } := by
  obtain ⟨-, specified, reported⟩ := (decode_eq_some_iff sorted).mp decoded
  refine (decode_eq_some_iff sorted.insert).mpr ⟨?_, ?_, ?_⟩
  · rw [required_of_get? sorted.insert (get?_insert_self _ _ _), described]
  · exact (required_insert_of_ne sorted _ (by decide)).trans specified
  · exact (optional_insert_of_ne sorted _ (by decide)).trans reported

end Vmi

namespace Pod

variable {pod : Pod} {metadata : ObjectMeta} {spec : PodSpec} {inner : Members}

theorem decode_eq_some_iff : decode (.obj fields) = some pod ↔
    fixed "apiVersion" apiVersion fields = some () ∧ fixed "kind" kind fields = some () ∧
      orEmpty "metadata" {} ObjectMeta.decode fields = some pod.metadata ∧
      Json.optional "spec" PodSpec.decode fields = some pod.spec := by
  simp only [decode, asFields, Option.bind_eq_bind, Option.bind_some, Option.bind_eq_some_iff,
    Option.some.injEq]
  constructor
  · rintro ⟨_, version, _, kind, _, described, _, specified, rfl⟩
    exact ⟨version, kind, described, specified⟩
  · rintro ⟨version, kind, described, specified⟩
    exact ⟨_, version, _, kind, _, described, _, specified, rfl⟩

/-- How pods are written and read. -/
def format : Format Pod where
  encode := toJson
  decode := decode
  metadata := Pod.metadata
  sorted _ := @sorted_append_present _ ["apiVersion", "kind", "metadata"] _ _ (by decide) rfl
  metadata_encode := metadata_toJson
  metadata_decode sorted found decoded :=
    (orEmpty_of_get? sorted found nofun).symm.trans (decode_eq_some_iff.mp decoded).2.2.1

/-- Setting the metadata changes the metadata alone. -/
theorem decode_insert_metadata (sorted : Sorted fields)
    (decoded : decode (.obj fields) = some pod)
    (described : ObjectMeta.decode (.obj inner) = some metadata) :
    decode (.obj (insert "metadata" (.obj inner) fields)) = some { pod with metadata } := by
  obtain ⟨version, kind, -, specified⟩ := decode_eq_some_iff.mp decoded
  refine decode_eq_some_iff.mpr ⟨?_, ?_, ?_, ?_⟩
  · exact (fixed_insert_of_ne sorted _ (by decide)).trans version
  · exact (fixed_insert_of_ne sorted _ (by decide)).trans kind
  · exact (orEmpty_of_get? sorted.insert (get?_insert_self _ _ _) (by simp)).trans described
  · exact (optional_insert_of_ne sorted _ (by decide)).trans specified

/-- Setting the specification changes the specification alone. -/
theorem decode_insert_spec (sorted : Sorted fields) (decoded : decode (.obj fields) = some pod)
    (specified : PodSpec.decode (.obj inner) = some spec) :
    decode (.obj (insert "spec" (.obj inner) fields)) = some { pod with spec := some spec } := by
  obtain ⟨version, kind, described, -⟩ := decode_eq_some_iff.mp decoded
  refine decode_eq_some_iff.mpr ⟨?_, ?_, ?_, ?_⟩
  · exact (fixed_insert_of_ne sorted _ (by decide)).trans version
  · exact (fixed_insert_of_ne sorted _ (by decide)).trans kind
  · exact (orEmpty_insert_of_ne sorted _ (by decide)).trans described
  · exact optional_insert_self sorted nofun specified

/-- The specification of a pod is read from the parts that stand there, if any do. -/
theorem decode_partsOf_spec (sorted : Sorted fields) (decoded : decode (.obj fields) = some pod) :
    PodSpec.decode (.obj (partsOf "spec" fields)) = some (pod.spec.getD {}) := by
  obtain ⟨-, -, -, specified⟩ := decode_eq_some_iff.mp decoded
  cases there : pod.spec with
  | none =>
      rw [there] at specified
      rw [partsOf_of_optional_none sorted specified]
      rfl
  | some spec =>
      rw [there] at specified
      obtain ⟨value, found, specified⟩ := exists_of_optional sorted specified
      cases value with
      | obj inner =>
          rw [partsOf_of_get? found]
          exact specified
      | _ => contradiction

end Pod

namespace Taint

variable {taint : Taint}

/-- The taint with its time in whole seconds, as it is written. -/
def inSeconds (taint : Taint) : Taint :=
  { taint with timeAdded := taint.timeAdded.map Instant.wholeSecond }

@[simp]
theorem key_inSeconds : taint.inSeconds.key = taint.key :=
  rfl

@[simp]
theorem toJson_inSeconds : taint.inSeconds.toJson = taint.toJson := by
  cases timed : taint.timeAdded <;> simp [inSeconds, toJson, timed, Instant.textInSeconds,
    Instant.stem, Instant.wholeSecond]

@[simp]
theorem inSeconds_inSeconds : taint.inSeconds.inSeconds = taint.inSeconds := by
  cases timed : taint.timeAdded <;> simp [inSeconds, timed, Instant.wholeSecond]

theorem isSettled_toJson (taint : Taint) : taint.toJson.IsSettled := by
  have ordered : (["effect", "key"] ++ (["timeAdded"] ++ ["value"])).Pairwise (· < ·) := by decide
  refine isSettled_obj (sorted_of_names ordered ?_) ?_
  · simp only [List.map_cons, List.map_append]
    exact (((names_present _ _).append (names_present _ _)).cons_cons _).cons_cons _
  · intro member there
    cases timed : taint.timeAdded <;> cases valued : taint.value <;>
      simp only [timed, valued, Option.map_none, Option.map_some, present, List.mem_cons,
        List.not_mem_nil, List.cons_append, List.nil_append, or_false] at there <;>
      rcases there with rfl | rfl | rfl | rfl <;> exact ⟨.str _, rfl⟩

/-- A taint that was put on at a time in the calendar is read back, to the second. -/
theorem decode_toJson (proper : ∀ time, taint.timeAdded = some time → time.IsProper) :
    decode taint.toJson = some taint.inSeconds := by
  obtain ⟨key, value, effect, timeAdded⟩ := taint
  cases timeAdded with
  | none => cases value <;> rfl
  | some time =>
      have read : Instant.parse time.textInSeconds = some time.wholeSecond :=
        Instant.parse_textInSeconds (proper time rfl)
      cases value <;>
        simp [decode, toJson, asFields, present, orEmpty, Json.optional, valuesOf, lastOf, orNull,
          asText, Instant.decode, read, inSeconds]

/-- A taint that is read was put on at a time in the calendar, if it tells one. -/
theorem isProper_of_decode {json : Json} {time : Instant} (settled : json.IsSettled)
    (decoded : decode json = some taint) (timed : taint.timeAdded = some time) :
    time.IsProper := by
  cases json with
  | obj fields =>
      simp only [decode, asFields, Option.bind_eq_bind, Option.bind_some, Option.bind_eq_some_iff,
        Option.some.injEq] at decoded
      obtain ⟨_, -, _, -, _, -, timeAdded, read, rfl⟩ := decoded
      obtain rfl : timeAdded = some time := timed
      obtain ⟨value, -, read⟩ := exists_of_optional settled.obj.1 read
      obtain ⟨text, -, parsed⟩ := Option.bind_eq_some_iff.mp read
      exact Instant.isProper_of_parse parsed
  | _ => contradiction

end Taint

namespace Node

variable {node : Node} {inner : Members} {taints : Option (List Taint)}

theorem decode_eq_some_iff : decode (.obj fields) = some node ↔
    fixed "apiVersion" apiVersion fields = some () ∧ fixed "kind" kind fields = some () ∧
      orEmpty "metadata" {} ObjectMeta.decode fields = some node.metadata ∧
      ∃ found, Json.optional "spec" decodeTaints fields = some found ∧
        found.join = node.taints := by
  simp only [decode, asFields, Option.bind_eq_bind, Option.bind_some, Option.bind_eq_some_iff,
    Option.some.injEq]
  constructor
  · rintro ⟨_, version, _, kind, found, tainted, _, described, rfl⟩
    exact ⟨version, kind, described, found, tainted, rfl⟩
  · rintro ⟨version, kind, described, found, tainted, same⟩
    exact ⟨_, version, _, kind, found, tainted, _, described, by rw [same]⟩

/-- How nodes are written and read. -/
def format : Format Node where
  encode := toJson
  decode := decode
  metadata := Node.metadata
  sorted _ := @sorted_append_present _ ["apiVersion", "kind", "metadata"] _ _ (by decide) rfl
  metadata_encode := metadata_toJson
  metadata_decode sorted found decoded :=
    (orEmpty_of_get? sorted found nofun).symm.trans (decode_eq_some_iff.mp decoded).2.2.1

/-- Setting the specification changes the taints alone. -/
theorem decode_insert_spec (sorted : Sorted fields) (decoded : decode (.obj fields) = some node)
    (tainted : decodeTaints (.obj inner) = some taints) :
    decode (.obj (insert "spec" (.obj inner) fields)) = some { node with taints } := by
  obtain ⟨version, kind, described, -⟩ := decode_eq_some_iff.mp decoded
  refine decode_eq_some_iff.mpr ⟨?_, ?_, ?_, some taints, ?_, rfl⟩
  · exact (fixed_insert_of_ne sorted _ (by decide)).trans version
  · exact (fixed_insert_of_ne sorted _ (by decide)).trans kind
  · exact (orEmpty_insert_of_ne sorted _ (by decide)).trans described
  · exact optional_insert_self sorted nofun tainted

/-- The taints of a stored node were put on at times in the calendar. -/
theorem isProper_of_decode {taint : Taint} {time : Instant} (settled : IsSettled (.obj fields))
    (decoded : decode (.obj fields) = some node) (member : taint ∈ node.taintList)
    (timed : taint.timeAdded = some time) : time.IsProper := by
  obtain ⟨-, -, -, found, tainted, same⟩ := decode_eq_some_iff.mp decoded
  obtain ⟨taints, held⟩ : ∃ taints, node.taints = some taints := by
    cases held : node.taints with
    | none => simp [taintList, held] at member
    | some taints => exact ⟨taints, rfl⟩
  rw [held, Option.join_eq_some_iff] at same
  obtain rfl := same
  obtain ⟨spec, spec_eq, read⟩ := exists_of_optional settled.obj.1 tainted
  have spec_settled := settled.of_get? spec_eq
  cases spec with
  | obj inner =>
      obtain ⟨value, value_eq, read⟩ := exists_of_optional spec_settled.obj.1 read
      have value_settled := spec_settled.of_get? value_eq
      cases value with
      | arr items =>
          rw [taintList, held] at member
          obtain ⟨item, there, read⟩ := exists_of_decodeAll read member
          exact Taint.isProper_of_decode (value_settled.arr item there) read timed
      | _ => contradiction
  | _ => contradiction

end Node

end NodeGate
