import Mathlib.Data.String.Basic
import NodeGate.Json.Decode

/-!
# Settled documents

A document that was read is settled: in every object of it the members are sorted by name
and no name is repeated. Each member that a decoder asks for then stands in one place, so
that a decoder that finds the same members finds the same value, and setting one member
changes what is decoded from that member alone.
-/

namespace NodeGate

namespace Entries

variable {α : Type} {key : String} {value : α} {entries others : Entries α}

/-- The keys increase. -/
def Sorted (entries : Entries α) : Prop :=
  entries.Pairwise fun one other => one.1 < other.1

theorem sorted_of_names {names : List String} (ordered : names.Pairwise (· < ·))
    (among : (entries.map Prod.fst).Sublist names) : Sorted entries :=
  List.pairwise_map.mp (ordered.sublist among)

theorem mem_insert {entry : String × α} (member : entry ∈ insert key value entries) :
    entry = (key, value) ∨ entry ∈ entries := by
  induction entries with
  | nil => simpa [insert] using member
  | cons first rest ih =>
      simp only [insert] at member
      split at member
      · rcases List.mem_cons.mp member with same | member
        · exact .inl same
        · exact .inr (.tail _ member)
      · split at member
        · exact List.mem_cons.mp member
        · rcases List.mem_cons.mp member with rfl | member
          · exact .inr (.head _)
          · exact (ih member).imp_right (.tail _)

/-- Setting an entry keeps the order. -/
theorem Sorted.insert (sorted : Sorted entries) : Sorted (insert key value entries) := by
  induction entries with
  | nil => exact List.pairwise_singleton _ _
  | cons first rest ih =>
      obtain ⟨below, ordered⟩ := List.pairwise_cons.mp sorted
      simp only [Entries.insert]
      split
      next same => exact List.pairwise_cons.mpr ⟨same ▸ below, ordered⟩
      next apart =>
        split
        next before =>
          refine List.pairwise_cons.mpr ⟨fun entry member => ?_, sorted⟩
          rcases List.mem_cons.mp member with rfl | member
          · exact before
          · exact before.trans (below entry member)
        next behind =>
          have after : first.1 < key := lt_of_le_of_ne (not_lt.mp behind) apart
          refine List.pairwise_cons.mpr ⟨fun entry member => ?_, ih ordered⟩
          rcases mem_insert member with rfl | member
          · exact after
          · exact below entry member

theorem mem_of_get? (found : get? key entries = some value) : (key, value) ∈ entries := by
  induction entries with
  | nil => contradiction
  | cons first rest ih =>
      rw [get?_cons] at found
      split at found
      next same =>
        cases found
        exact same ▸ .head _
      next => exact .tail _ (ih found)

/-- Setting an entry to what it is changes nothing. -/
theorem insert_of_get? (sorted : Sorted entries) (found : get? key entries = some value) :
    insert key value entries = entries := by
  induction entries with
  | nil => contradiction
  | cons first rest ih =>
      obtain ⟨below, ordered⟩ := List.pairwise_cons.mp sorted
      rw [get?_cons] at found
      simp only [insert]
      split at found
      next same =>
        cases found
        rw [if_pos same, ← same]
      next apart =>
        have after : first.1 < key := below _ (mem_of_get? found)
        rw [if_neg apart, if_neg after.not_gt, ih ordered found]

theorem insert_of_forall_lt (before : ∀ entry ∈ entries, entry.1 < key) :
    insert key value entries = entries ++ [(key, value)] := by
  induction entries with
  | nil => rfl
  | cons first rest ih =>
      have first_lt : first.1 < key := before first (.head _)
      rw [insert, if_neg first_lt.ne, if_neg first_lt.not_gt,
        ih fun entry member => before entry (.tail _ member), List.cons_append]

/-- Setting entries in turn keeps the order. -/
theorem sorted_foldl_insert {pairs : List (String × α)} (sorted : Sorted entries) :
    Sorted (pairs.foldl (fun entries pair => insert pair.1 pair.2 entries) entries) := by
  induction pairs generalizing entries with
  | nil => exact sorted
  | cons pair rest ih => exact ih sorted.insert

theorem sorted_ofPairs (pairs : List (String × α)) : Sorted (ofPairs pairs) :=
  sorted_foldl_insert List.Pairwise.nil

theorem mem_foldl_insert {pairs : List (String × α)} {entry : String × α}
    (member : entry ∈ pairs.foldl (fun entries pair => insert pair.1 pair.2 entries) entries) :
    entry ∈ entries ∨ entry ∈ pairs := by
  induction pairs generalizing entries with
  | nil => exact .inl member
  | cons pair rest ih =>
      rcases ih member with member | member
      · rcases mem_insert member with rfl | member
        · exact .inr (.head _)
        · exact .inl member
      · exact .inr (.tail _ member)

theorem mem_ofPairs {pairs : List (String × α)} {entry : String × α}
    (member : entry ∈ ofPairs pairs) : entry ∈ pairs :=
  (mem_foldl_insert member).resolve_left List.not_mem_nil

/-- Entries that are set in order are put behind each other. -/
theorem foldl_insert_of_sorted (sorted : Sorted (others ++ entries)) :
    entries.foldl (fun entries pair => insert pair.1 pair.2 entries) others =
      others ++ entries := by
  induction entries generalizing others with
  | nil => exact (List.append_nil _).symm
  | cons entry rest ih =>
      have before : ∀ other ∈ others, other.1 < entry.1 := fun other member =>
        (List.pairwise_append.mp sorted).2.2 other member entry (.head _)
      rw [List.append_cons] at sorted ⊢
      rw [List.foldl_cons, insert_of_forall_lt before, ih sorted]

/-- Entries in order are what they are pairs of. -/
theorem ofPairs_of_sorted (sorted : Sorted entries) : ofPairs entries = entries :=
  foldl_insert_of_sorted sorted

end Entries

namespace Json

open Entries

variable {α : Type} {name : String} {json value : Json} {fields : Members}

/-- The value that some document stands for. -/
def IsSettled (json : Json) : Prop :=
  ∃ written, settled? written = some json

theorem exists_of_settledMembers? {written : List (String × Json)} {member : String × Json}
    (settled : settledMembers? written = some fields) (there : member ∈ fields) :
    IsSettled member.2 := by
  induction written generalizing fields with
  | nil =>
      cases settled
      contradiction
  | cons first rest ih =>
      simp only [settledMembers?, Option.bind_eq_bind, Option.bind_eq_some_iff,
        Option.some.injEq] at settled
      obtain ⟨value, first_settled, values, rest_settled, rfl⟩ := settled
      rcases List.mem_cons.mp there with rfl | there
      · exact ⟨first.2, first_settled⟩
      · exact ih rest_settled there

/-- The members of a settled object are in order, and each is settled. -/
theorem IsSettled.obj (settled : IsSettled (.obj fields)) :
    Sorted fields ∧ ∀ member ∈ fields, IsSettled member.2 := by
  obtain ⟨written, settled⟩ := settled
  cases written with
  | obj raw =>
      simp only [settled?, Option.map_eq_some_iff, Json.obj.injEq] at settled
      obtain ⟨values, settled, rfl⟩ := settled
      exact ⟨sorted_ofPairs values, fun member there =>
        exists_of_settledMembers? settled (mem_ofPairs there)⟩
  | _ => simp [settled?] at settled

theorem IsSettled.of_get? (settled : IsSettled (.obj fields))
    (found : get? name fields = some value) : IsSettled value :=
  settled.obj.2 _ (mem_of_get? found)

theorem exists_of_settledItems? {written items : List Json} {item : Json}
    (settled : settledItems? written = some items) (there : item ∈ items) : IsSettled item := by
  induction written generalizing items with
  | nil =>
      cases settled
      contradiction
  | cons first rest ih =>
      simp only [settledItems?, Option.bind_eq_bind, Option.bind_eq_some_iff, Option.some.injEq]
        at settled
      obtain ⟨value, first_settled, values, rest_settled, rfl⟩ := settled
      rcases List.mem_cons.mp there with rfl | there
      · exact ⟨first, first_settled⟩
      · exact ih rest_settled there

/-- The items of a settled list are settled. -/
theorem IsSettled.arr {items : List Json} (settled : IsSettled (.arr items)) :
    ∀ item ∈ items, IsSettled item := by
  obtain ⟨written, settled⟩ := settled
  cases written with
  | arr raw =>
      simp only [settled?, Option.map_eq_some_iff, Json.arr.injEq] at settled
      obtain ⟨values, settled, rfl⟩ := settled
      exact fun item there => exists_of_settledItems? settled there
  | _ => simp [settled?] at settled

/-- Members in order that are settled make a settled object. -/
theorem isSettled_obj (sorted : Sorted fields) (each : ∀ member ∈ fields, IsSettled member.2) :
    IsSettled (.obj fields) := by
  have written : ∃ written, settledMembers? written = some fields := by
    clear sorted
    induction fields with
    | nil => exact ⟨[], rfl⟩
    | cons first rest ih =>
        obtain ⟨value, settled⟩ := each first (.head _)
        obtain ⟨values, settled_rest⟩ := ih fun member there => each member (.tail _ there)
        exact ⟨(first.1, value) :: values, by simp [settledMembers?, settled, settled_rest]⟩
  obtain ⟨written, settled⟩ := written
  exact ⟨.obj written, by rw [settled?, settled, Option.map_some, ofPairs_of_sorted sorted]⟩

/-- Items that are settled make a settled list. -/
theorem isSettled_arr {items : List Json} (each : ∀ item ∈ items, IsSettled item) :
    IsSettled (.arr items) := by
  have written : ∃ written, settledItems? written = some items := by
    induction items with
    | nil => exact ⟨[], rfl⟩
    | cons first rest ih =>
        obtain ⟨value, settled⟩ := each first (.head _)
        obtain ⟨values, settled_rest⟩ := ih fun item there => each item (.tail _ there)
        exact ⟨value :: values, by simp [settledItems?, settled, settled_rest]⟩
  obtain ⟨written, settled⟩ := written
  exact ⟨.arr written, by rw [settled?, settled, Option.map_some]⟩

theorem isSettled_map {encode : α → Json} (each : ∀ item, IsSettled (encode item))
    (items : List α) : IsSettled (.arr (items.map encode)) := by
  refine isSettled_arr fun item there => ?_
  obtain ⟨written, -, rfl⟩ := List.mem_map.mp there
  exact each written

/-- Texts by name in order are settled. -/
theorem isSettled_textEntries {entries : Entries String} (sorted : Sorted entries) :
    IsSettled (textEntries entries) := by
  refine isSettled_obj (List.pairwise_map.mpr sorted) fun member there => ?_
  obtain ⟨entry, -, rfl⟩ := List.mem_map.mp there
  exact ⟨.str entry.2, rfl⟩

/-- A settled member that is set in a settled object leaves it settled. -/
theorem IsSettled.insert (settled : IsSettled (.obj fields)) (value_settled : IsSettled value) :
    IsSettled (.obj (insert name value fields)) := by
  refine isSettled_obj settled.obj.1.insert fun member there => ?_
  rcases mem_insert there with rfl | there
  · exact value_settled
  · exact settled.obj.2 member there

/-- The members of what stands at a name, if that has any. -/
def partsOf (name : String) (fields : Members) : Members :=
  ((get? name fields).getD .null).members

theorem partsOf_of_get? {inner : Members} (found : get? name fields = some (.obj inner)) :
    partsOf name fields = inner := by
  rw [partsOf, found]
  rfl

theorem IsSettled.members (settled : json.IsSettled) : IsSettled (.obj json.members) := by
  cases json with
  | obj fields => exact settled
  | _ => exact ⟨.obj [], rfl⟩

theorem IsSettled.partsOf (settled : IsSettled (.obj fields)) (name : String) :
    IsSettled (.obj (partsOf name fields)) := by
  rw [Json.partsOf]
  cases found : get? name fields with
  | none => exact ⟨.obj [], rfl⟩
  | some value => exact (settled.of_get? found).members

theorem valuesOf_eq_nil (absent : ∀ field ∈ fields, field.1 ≠ name) :
    valuesOf name fields = [] := by
  rw [valuesOf, List.filterMap_eq_nil_iff]
  intro field member
  rw [if_neg (absent field member)]

/-- A member of an object in order stands in one place. -/
theorem valuesOf_of_sorted (sorted : Sorted fields) (name : String) :
    valuesOf name fields = (get? name fields).toList := by
  induction fields with
  | nil => rfl
  | cons first rest ih =>
      obtain ⟨below, ordered⟩ := List.pairwise_cons.mp sorted
      rw [get?_cons, valuesOf, List.filterMap_cons]
      by_cases same : first.1 = name
      · have absent : valuesOf name rest = [] :=
          valuesOf_eq_nil fun field member => same ▸ (below field member).ne'
        rw [valuesOf] at absent
        simp [same, absent]
      · rw [if_neg same, if_neg same]
        exact ih ordered

theorem valuesOf_insert_of_ne (sorted : Sorted fields) {asked : String} (value : Json)
    (other : asked ≠ name) : valuesOf asked (insert name value fields) = valuesOf asked fields := by
  rw [valuesOf_of_sorted sorted.insert, get?_insert_of_ne other, ← valuesOf_of_sorted sorted]

theorem optional_of_get? {decode : Json → Option α} (sorted : Sorted fields)
    (found : get? name fields = some value) (proper : value ≠ .null) :
    optional name decode fields = (decode value).map some := by
  rw [optional, valuesOf_of_sorted sorted, found, Option.toList_some, lastOf_singleton]
  cases value <;> simp_all [orNull]

theorem optional_insert_self {decode : Json → Option α} {found : α} (sorted : Sorted fields)
    (proper : value ≠ .null) (decoded : decode value = some found) :
    optional name decode (insert name value fields) = some (some found) := by
  rw [optional_of_get? sorted.insert (get?_insert_self _ _ _) proper, decoded, Option.map_some]

/-- What a member is decoded as does not depend on the others. -/
theorem optional_insert_of_ne {decode : Json → Option α} {asked : String} (sorted : Sorted fields)
    (value : Json) (other : asked ≠ name) :
    optional asked decode (insert name value fields) = optional asked decode fields := by
  rw [optional, valuesOf_insert_of_ne sorted value other, optional]

theorem orEmpty_insert_of_ne {decode : Json → Option α} {default : α} {asked : String}
    (sorted : Sorted fields) (value : Json) (other : asked ≠ name) :
    orEmpty asked default decode (insert name value fields) =
      orEmpty asked default decode fields := by
  rw [orEmpty, valuesOf_insert_of_ne sorted value other, orEmpty]

theorem fixed_insert_of_ne {asked text : String} (sorted : Sorted fields) (value : Json)
    (other : asked ≠ name) :
    fixed asked text (insert name value fields) = fixed asked text fields := by
  rw [fixed, valuesOf_insert_of_ne sorted value other, fixed]

theorem required_insert_of_ne {decode : Json → Option α} {asked : String} (sorted : Sorted fields)
    (value : Json) (other : asked ≠ name) :
    required asked decode (insert name value fields) = required asked decode fields := by
  rw [required, valuesOf_insert_of_ne sorted value other, required]

theorem orDefault_of_get? {decode : Json → Option α} {default : α} (sorted : Sorted fields)
    (found : get? name fields = some value) :
    orDefault name default decode fields = decode value := by
  rw [orDefault, valuesOf_of_sorted sorted, found, Option.toList_some, lastOf_singleton]

theorem orEmpty_of_get? {decode : Json → Option α} {default : α} (sorted : Sorted fields)
    (found : get? name fields = some value) (proper : value ≠ .null) :
    orEmpty name default decode fields = decode value := by
  rw [orEmpty, valuesOf_of_sorted sorted, found, Option.toList_some, lastOf_singleton]
  cases value <;> simp_all [orNull]

theorem required_of_get? {decode : Json → Option α} (sorted : Sorted fields)
    (found : get? name fields = some value) : required name decode fields = decode value := by
  rw [required, valuesOf_of_sorted sorted, found]
  cases read : decode value <;> simp [lastOf, read]

/-- No member of an object in order is repeated. -/
theorem isUnrepeated_of_sorted (sorted : Sorted fields) (names : List String) :
    isUnrepeated names fields = true := by
  rw [isUnrepeated, List.all_eq_true]
  intro name _
  rw [valuesOf_of_sorted sorted]
  cases get? name fields <;> rfl

/-- A member that may be absent or null was decoded from what is there. -/
theorem exists_of_optional {decode : Json → Option α} {found : α} (sorted : Sorted fields)
    (decoded : optional name decode fields = some (some found)) :
    ∃ value, get? name fields = some value ∧ decode value = some found := by
  rw [optional, valuesOf_of_sorted sorted] at decoded
  cases there : get? name fields with
  | none => simp [there, lastOf] at decoded
  | some value =>
      rw [there, Option.toList_some, lastOf_singleton] at decoded
      cases value <;> simp_all [orNull]

/-- A member that has no default value was decoded from what is there. -/
theorem exists_of_orEmpty {decode : Json → Option α} {default found : α} (sorted : Sorted fields)
    (decoded : orEmpty name default decode fields = some found) (proper : found ≠ default) :
    ∃ value, get? name fields = some value ∧ decode value = some found := by
  rw [orEmpty, valuesOf_of_sorted sorted] at decoded
  cases there : get? name fields with
  | none => simp_all [lastOf]
  | some value =>
      rw [there, Option.toList_some, lastOf_singleton] at decoded
      cases value <;> simp_all [orNull]

/-- A list is read item by item as each item is. -/
theorem decodeAll_map_of_mem {decode : Json → Option α} {items : List α} (encode : α → Json)
    (kept : α → α) (each : ∀ item ∈ items, decode (encode item) = some (kept item)) :
    decodeAll decode (items.map encode) = some (items.map kept) := by
  induction items with
  | nil => rfl
  | cons item rest ih =>
      simp [decodeAll, each item (.head _), ih fun other member => each other (.tail _ member)]

/-- A list is read as it was written, if its items are. -/
theorem decodeAll_map {decode : Json → Option α} (encode : α → Json)
    (inverse : ∀ item, decode (encode item) = some item) (items : List α) :
    decodeAll decode (items.map encode) = some items := by
  simpa using decodeAll_map_of_mem encode id fun item _ => inverse item

theorem exists_of_decodeAll {decode : Json → Option α} {items : List Json} {found : List α}
    {entry : α} (decoded : decodeAll decode items = some found) (member : entry ∈ found) :
    ∃ item ∈ items, decode item = some entry := by
  induction items generalizing found with
  | nil =>
      cases decoded
      contradiction
  | cons item rest ih =>
      simp only [decodeAll, Option.bind_eq_bind, Option.bind_eq_some_iff, Option.some.injEq]
        at decoded
      obtain ⟨first, read, others, remaining, rfl⟩ := decoded
      rcases List.mem_cons.mp member with rfl | member
      · exact ⟨item, .head _, read⟩
      · obtain ⟨other, there, read⟩ := ih remaining member
        exact ⟨other, .tail _ there, read⟩

theorem decodeAll_append {decode : Json → Option α} {items rest : List Json} {found others : List α}
    (first : decodeAll decode items = some found) (second : decodeAll decode rest = some others) :
    decodeAll decode (items ++ rest) = some (found ++ others) := by
  induction items generalizing found with
  | nil =>
      cases first
      exact second
  | cons item items ih =>
      simp only [decodeAll, Option.bind_eq_bind, Option.bind_eq_some_iff, Option.some.injEq]
        at first
      obtain ⟨value, decoded, values, remaining, rfl⟩ := first
      simp [decodeAll, decoded, ih remaining]

theorem decodeMembers_texts (entries : Entries String) :
    decodeMembers asText (entries.map fun entry => (entry.1, .str entry.2)) = some entries := by
  induction entries with
  | nil => rfl
  | cons entry rest ih => simp [decodeMembers, asText, ih]

/-- Texts by name are read as they were written. -/
theorem asTextEntries_textEntries {entries : Entries String} (sorted : Sorted entries) :
    asTextEntries (textEntries entries) = some entries := by
  rw [asTextEntries, textEntries, asEntries, decodeMembers_texts, Option.map_some,
    ofPairs_of_sorted sorted]

theorem sorted_of_asTextEntries {entries : Entries String}
    (decoded : asTextEntries json = some entries) : Sorted entries := by
  cases json with
  | obj fields =>
      obtain ⟨pairs, -, rfl⟩ := Option.map_eq_some_iff.mp decoded
      exact sorted_ofPairs pairs
  | _ => contradiction

/-- A map that is read is in order. -/
theorem sorted_of_optional {entries : Option (Entries String)}
    (sorted : Sorted fields)
    (decoded : Json.optional name asTextEntries fields = some entries) :
    Sorted (entries.getD []) := by
  cases entries with
  | none => exact List.Pairwise.nil
  | some entries =>
      obtain ⟨_, -, read⟩ := exists_of_optional sorted decoded
      exact sorted_of_asTextEntries read

theorem eq_map_of_decodeMembers {entries : Entries String}
    (decoded : decodeMembers asText fields = some entries) :
    fields = entries.map fun entry => (entry.1, .str entry.2) := by
  induction fields generalizing entries with
  | nil =>
      cases decoded
      rfl
  | cons first rest ih =>
      simp only [decodeMembers, Option.bind_eq_bind, Option.bind_eq_some_iff, Option.some.injEq]
        at decoded
      obtain ⟨text, read, others, remaining, rfl⟩ := decoded
      obtain ⟨key, item⟩ := first
      cases item with
      | str found =>
          cases read
          rw [List.map_cons, ← ih remaining]
      | _ => contradiction

/-- Texts by name that are read from a settled document are all that is in it. -/
theorem members_of_asTextEntries {entries : Entries String} (settled : json.IsSettled)
    (decoded : asTextEntries json = some entries) :
    json.members = entries.map fun entry => (entry.1, .str entry.2) := by
  cases json with
  | obj fields =>
      obtain ⟨pairs, read, rfl⟩ := Option.map_eq_some_iff.mp decoded
      have same := eq_map_of_decodeMembers read
      have sorted : Sorted pairs := by
        have sorted := settled.obj.1
        rw [same, Sorted, List.pairwise_map] at sorted
        exact sorted
      rw [ofPairs_of_sorted sorted]
      exact same
  | _ => contradiction

/-- A member that may be absent or null and is read as nothing has no parts. -/
theorem partsOf_of_optional_none {decode : Json → Option α} (sorted : Sorted fields)
    (decoded : Json.optional name decode fields = some none) : partsOf name fields = [] := by
  rw [Json.optional, valuesOf_of_sorted sorted] at decoded
  rw [partsOf]
  cases there : get? name fields with
  | none => rfl
  | some value =>
      rw [there, Option.toList_some, lastOf_singleton] at decoded
      cases value with
      | null => rfl
      | _ => simp [orNull] at decoded

end Json

end NodeGate
