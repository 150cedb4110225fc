import NodeGate.Proofs.Cluster.LabelPatch
import NodeGate.Proofs.Json.Settled

/-!
# Reading back what was written

A value is written as JSON and read back by the decoder of its type. For each
kind of value two facts are kept together: which values are read as they were
written, and that no other value is ever read. The second says that a value which
was read from any document, however it was written, is read back as well.

A record is put together from its members. Of a member it matters only what is
written in its place, nothing at all in some cases, and how that place is read.
-/

namespace NodeGate.Json

open Entries

variable {α : Type} {Fits : α → Prop} {encode : α → Json} {decode : Json → Option α}

/-- The values that fit are read as they were written, and no other value is read
from any document. -/
structure ReadsBack (Fits : α → Prop) (encode : α → Json) (decode : Json → Option α) :
    Prop where
  decode_encode : ∀ value, Fits value → decode (encode value) = some value
  fits_of_decode : ∀ json value, decode json = some value → Fits value

/-- What was read from any document is read again from what it is written as. -/
theorem ReadsBack.stable {json : Json} {value : α} (back : ReadsBack Fits encode decode)
    (decoded : decode json = some value) : decode (encode value) = some value :=
  back.decode_encode value (back.fits_of_decode json value decoded)

section Values

theorem asText_readsBack : ReadsBack (fun _ => True) .str asText where
  decode_encode _ _ := rfl
  fits_of_decode _ _ _ := trivial

theorem asNat_readsBack (limit : Nat) : ReadsBack (· ≤ limit) nat (asNat limit) where
  decode_encode value fits := if_pos fits
  fits_of_decode json value decoded := by
    unfold asNat at decoded
    split at decoded
    next =>
      obtain ⟨fits, same⟩ := Option.ite_none_right_eq_some.mp decoded
      cases same
      exact fits
    next => contradiction

theorem asInt_readsBack (low high : Int) :
    ReadsBack (fun value => low ≤ value ∧ value ≤ high) .int (asInt low high) where
  decode_encode value fits := if_pos fits
  fits_of_decode json value decoded := by
    unfold asInt at decoded
    split at decoded
    next =>
      obtain ⟨fits, same⟩ := Option.ite_none_right_eq_some.mp decoded
      cases same
      exact fits
    next => contradiction

theorem asTextEntries_readsBack : ReadsBack Sorted textEntries asTextEntries where
  decode_encode _ sorted := asTextEntries_textEntries sorted
  fits_of_decode _ _ decoded := sorted_of_asTextEntries decoded

/-- A list is read back if its items are. -/
theorem ReadsBack.list (back : ReadsBack Fits encode decode) :
    ReadsBack (fun items => ∀ item ∈ items, Fits item) (fun items => .arr (items.map encode))
      (asList decode) where
  decode_encode items fit := by
    have read := decodeAll_map_of_mem encode id fun item member =>
      back.decode_encode item (fit item member)
    rwa [List.map_id] at read
  fits_of_decode json items decoded item member := by
    cases json with
    | arr written =>
        obtain ⟨source, -, read⟩ := exists_of_decodeAll decoded member
        exact back.fits_of_decode source item read
    | _ => contradiction

end Values

section Members

variable {name : String} {fields : Members} {β : Type} {write : β → Option Json}
  {read : Members → Option β} {default : α}

/-- The values of a member that fit are read as they were written in its place,
and no other value is read from any members. -/
structure MemberReadsBack (Fits : β → Prop) (name : String) (write : β → Option Json)
    (read : Members → Option β) : Prop where
  read_write : ∀ {fields value}, Sorted fields → get? name fields = write value →
    Fits value → read fields = some value
  fits_of_read : ∀ {fields value}, read fields = some value → Fits value

/-- A member of which every value fits. -/
theorem MemberReadsBack.unrestricted {Fits : β → Prop}
    (back : MemberReadsBack Fits name write read) (all : ∀ value, Fits value) :
    MemberReadsBack (fun _ => True) name write read where
  read_write sorted written _ := back.read_write sorted written (all _)
  fits_of_read _ := trivial

/-- What is read of several values is what there was before or was decoded. -/
theorem holds_of_lastOf {P : α → Prop} {found value : α} {values : List Json} (first : P found)
    (each : ∀ json value, decode json = some value → P value)
    (last : lastOf decode found values = some value) : P value := by
  induction values generalizing found with
  | nil =>
      cases last
      exact first
  | cons json rest ih =>
      obtain ⟨next, decoded, last⟩ := Option.bind_eq_some_iff.mp last
      exact ih (each json next decoded) last

/-- What is read of a member that may be missing was decoded. -/
theorem holds_of_optional {P : α → Prop} {name : String} {fields : Members} {found : Option α}
    (each : ∀ json value, decode json = some value → P value)
    (read : optional name decode fields = some found) : ∀ value, found = some value → P value := by
  have missing : ∀ value, none = some value → P value := by
    intro value absent
    cases absent
  refine holds_of_lastOf (P := fun found => ∀ value, found = some value → P value)
    missing ?_ read
  intro json other decoded value same
  subst same
  cases json with
  | null => cases decoded
  | _ =>
      obtain ⟨value, decoded, same⟩ := Option.map_eq_some_iff.mp decoded
      cases same
      exact each _ _ decoded

/-- A member that must be there. -/
theorem ReadsBack.required (back : ReadsBack Fits encode decode) (name : String) :
    MemberReadsBack Fits name (fun value => some (encode value)) (required name decode) where
  read_write sorted written fits :=
    (required_of_get? sorted written).trans (back.decode_encode _ fits)
  fits_of_read {fields value} found := by
    unfold Json.required at found
    split at found
    next => contradiction
    next first rest _ =>
      obtain ⟨next, decoded, last⟩ := Option.bind_eq_some_iff.mp found
      exact holds_of_lastOf (back.fits_of_decode first next decoded) back.fits_of_decode last

/-- A member that may be missing and is written unless it has the value that its
absence means. -/
theorem ReadsBack.orDefault (back : ReadsBack Fits encode decode) (name : String)
    (fits_default : Fits default) {write : α → Option Json}
    (written : ∀ value, write value = some (encode value) ∨
      write value = none ∧ value = default) :
    MemberReadsBack Fits name write (orDefault name default decode) where
  read_write {fields value} sorted found fits := by
    rcases written value with written | ⟨missing, rfl⟩
    · rw [orDefault_of_get? sorted (found.trans written), back.decode_encode value fits]
    · rw [Json.orDefault, valuesOf_of_sorted sorted, found, missing]
      rfl
  fits_of_read found := holds_of_lastOf fits_default back.fits_of_decode found

/-- A member that is written if there is a value, never as `null`. -/
theorem ReadsBack.optional (back : ReadsBack Fits encode decode) (name : String)
    (proper : ∀ value, encode value ≠ .null) :
    MemberReadsBack (fun found => ∀ value, found = some value → Fits value) name
      (Option.map encode) (optional name decode) where
  read_write {fields found} sorted written fit := by
    cases found with
    | none =>
        rw [Json.optional, valuesOf_of_sorted sorted, written]
        rfl
    | some value =>
        rw [optional_of_get? sorted written (proper value),
          back.decode_encode value (fit value rfl), Option.map_some]
  fits_of_read read := holds_of_optional back.fits_of_decode read

/-- A list that is left out when it is empty. -/
theorem ReadsBack.listMember (back : ReadsBack Fits encode decode) (name : String) :
    MemberReadsBack (fun items => ∀ item ∈ items, Fits item) name
      (fun items => if items.isEmpty then none else some (.arr (items.map encode)))
      (Json.orDefault name [] (asList decode)) := by
  refine back.list.orDefault name (fun _ member => by contradiction) fun items => ?_
  cases items with
  | nil => exact .inr ⟨rfl, rfl⟩
  | cons item rest => exact .inl rfl

end Members

/-- A record as it is written: its fields in the order of their names, each with
what stands in its place or with nothing. -/
structure Written where
  fields : Entries (Option Json)
  ordered : (fields.map Prod.fst).Pairwise (· < ·)

namespace Written

variable {fields : Entries (Option Json)} {name : String}

/-- The members of fields that have something in their place. -/
def filled (fields : Entries (Option Json)) : Members :=
  fields.flatMap fun field => present field.1 field.2

@[simp]
theorem filled_nil : filled [] = [] :=
  rfl

@[simp]
theorem filled_cons (field : String × Option Json) :
    filled (field :: fields) = present field.1 field.2 ++ filled fields :=
  rfl

theorem names_filled : ((filled fields).map Prod.fst).Sublist (fields.map Prod.fst) := by
  induction fields with
  | nil => exact .slnil
  | cons field rest ih =>
      obtain ⟨name, _ | value⟩ := field
      · exact ih.cons name
      · exact ih.cons_cons name

theorem get?_filled_of_absent (absent : ∀ field ∈ fields, field.1 ≠ name) :
    get? name (filled fields) = none := by
  induction fields with
  | nil => rfl
  | cons field rest ih =>
      obtain ⟨apart, others⟩ := List.forall_mem_cons.mp absent
      rw [filled_cons, get?_append, get?_present, if_neg apart, Option.none_or, ih others]

theorem get?_filled {value : Option Json} (ordered : (fields.map Prod.fst).Pairwise (· < ·))
    (placed : (name, value) ∈ fields) : get? name (filled fields) = value := by
  induction fields with
  | nil => contradiction
  | cons field rest ih =>
      obtain ⟨below, rest_ordered⟩ := List.pairwise_cons.mp ordered
      rw [filled_cons, get?_append, get?_present]
      rcases List.mem_cons.mp placed with rfl | later
      · have absent : get? name (filled rest) = none :=
          get?_filled_of_absent fun other member =>
            (below other.1 (List.mem_map_of_mem member)).ne'
        rw [if_pos rfl, absent, Option.or_none]
      · have apart : field.1 ≠ name := (below name (List.mem_map_of_mem later)).ne
        rw [if_neg apart, Option.none_or, ih rest_ordered later]

variable (record : Written)

/-- The members that are written. -/
def members : Members :=
  filled record.fields

/-- The object that is written. -/
def json : Json :=
  .obj record.members

theorem sorted_members : Sorted record.members :=
  sorted_of_names record.ordered names_filled

/-- No field is repeated. -/
theorem record?_json (names : List String) : record? names record.json = some record.members :=
  if_pos (isUnrepeated_of_sorted record.sorted_members names)

end Written

/-- A member is read back from the record that it is written in. -/
theorem MemberReadsBack.read_written {Fits : α → Prop} {name : String} {write : α → Option Json}
    {read : Members → Option α} (back : MemberReadsBack Fits name write read) (record : Written)
    (value : α) (placed : (name, write value) ∈ record.fields) (fits : Fits value) :
    read record.members = some value :=
  back.read_write record.sorted_members (Written.get?_filled record.ordered placed) fits

end NodeGate.Json
