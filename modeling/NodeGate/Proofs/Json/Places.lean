import NodeGate.Proofs.Cluster.MergedObjects

/-!
# Places in documents

A place in a document is told by the names of the members that lead to it. A merge patch names
places by its own members, and what it ends in there is put into the document or, where it ends
in `null`, taken out. Beside the places that it names the document stays as it was.
-/

namespace NodeGate.Json

open Entries

variable {name : String} {path place : List String} {target : Json}

/-- What stands at a place. -/
def valueAt? : List String → Json → Option Json
  | [], json => some json
  | name :: rest, json => (json.member? name).bind (valueAt? rest)

theorem valueAt?_metadata (name : String) (path : List String) (json : Json) :
    json.valueAt? ("metadata" :: name :: path) =
      (json.metadataMember? name).bind (valueAt? path) := by
  rw [metadataMember?, Option.bind_assoc]
  rfl

theorem valueAt?_spec (name : String) (path : List String) (json : Json) :
    json.valueAt? ("spec" :: name :: path) = (json.specMember? name).bind (valueAt? path) := by
  rw [specMember?, Option.bind_assoc]
  rfl

/-- One of two places lies within the other. -/
def Meets (place path : List String) : Prop :=
  place <+: path ∨ path <+: place

theorem Meets.cons (meets : Meets place path) (name : String) :
    Meets (name :: place) (name :: path) := by
  rcases meets with within | around
  · exact .inl (List.cons_prefix_cons.mpr ⟨rfl, within⟩)
  · exact .inr (List.cons_prefix_cons.mpr ⟨rfl, around⟩)

/-- The documents agree on whatever lies beside the places. -/
def AgreesBeside (places : List (List String)) (one other : Json) : Prop :=
  ∀ path, (∀ place ∈ places, ¬Meets place path) → one.valueAt? path = other.valueAt? path

mutual

/-- The places that a merge patch names. -/
def namedPlaces : Json → List (List String)
  | .obj (change :: rest) => memberPlaces (change :: rest)
  | _ => [[]]

/-- The places that changes of members name. -/
def memberPlaces : List (String × Json) → List (List String)
  | [] => []
  | (name, patch) :: rest => (namedPlaces patch).map (name :: ·) ++ memberPlaces rest

end

theorem namedPlaces_ne_nil (patch : Json) : patch.namedPlaces ≠ [] := by
  induction patch using namedPlaces.induct
    (motive_2 := fun changes => changes ≠ [] → memberPlaces changes ≠ []) with
  | case1 change rest ih => exact ih (List.cons_ne_nil _ _)
  | case2 patch other =>
      rw [namedPlaces]
      · exact List.cons_ne_nil _ _
      · exact other
  | case3 => contradiction
  | case4 name patch rest ih =>
      rw [memberPlaces]
      exact List.append_ne_nil_of_left_ne_nil (mt List.map_eq_nil_iff.mp ih) _

theorem namedPlaces_obj {changes : List (String × Json)} (changing : changes ≠ []) :
    namedPlaces (.obj changes) = memberPlaces changes := by
  obtain ⟨change, rest, rfl⟩ := List.exists_cons_of_ne_nil changing
  rfl

/-- What lies beside the places of a patch lies within the document, and the patch is an object
with members. -/
theorem exists_of_apart {patch : Json} (apart : ∀ place ∈ patch.namedPlaces, ¬Meets place path) :
    path ≠ [] ∧ ∃ change rest, patch = .obj (change :: rest) := by
  constructor
  · rintro rfl
    obtain ⟨place, named⟩ := List.exists_mem_of_ne_nil _ (namedPlaces_ne_nil patch)
    exact apart place named (.inr List.nil_prefix)
  · unfold namedPlaces at apart
    split at apart
    next change rest => exact ⟨change, rest, rfl⟩
    next => exact absurd (.inl List.nil_prefix) (apart [] (List.mem_singleton_self []))

/-- Changes of members leave what lies beside their places if each patch among them does. -/
theorem valueAt?_mergedMembers {changes : List (String × Json)}
    (below : ∀ patch before : Json, (∀ place ∈ patch.namedPlaces, ¬Meets place path) →
      (merged before patch).valueAt? path = before.valueAt? path)
    (apart : ∀ place ∈ memberPlaces changes, ¬Meets place (name :: path))
    (fields : Entries Json) :
    (get? name (mergedMembers fields changes)).bind (valueAt? path) =
      (get? name fields).bind (valueAt? path) := by
  induction changes generalizing fields with
  | nil => rfl
  | cons change rest ih =>
      obtain ⟨changed, patch⟩ := change
      simp only [memberPlaces, List.mem_append, List.mem_map] at apart
      rw [mergedMembers, ih fun place named => apart place (.inr named)]
      by_cases same : name = changed
      · subst same
        have apart_patch : ∀ place ∈ patch.namedPlaces, ¬Meets place path :=
          fun place named meets => apart _ (.inl ⟨place, named, rfl⟩) (meets.cons name)
        obtain ⟨within, change, others, rfl⟩ := exists_of_apart apart_patch
        obtain ⟨first, inner, rfl⟩ := List.exists_cons_of_ne_nil within
        rw [get?_mergedMember_obj, Option.bind_some, below _ _ apart_patch]
        -- A member that was absent is merged as `null`, which has nothing within it either.
        cases get? name fields <;> rfl
      · rw [get?_mergedMember_of_ne same]

/-- A merge patch changes nothing beside the places that it names. -/
theorem merged_agreesBeside (target patch : Json) :
    (merged target patch).AgreesBeside patch.namedPlaces target := by
  intro path apart
  induction path generalizing target patch with
  | nil => exact absurd rfl (exists_of_apart apart).1
  | cons name path ih =>
      obtain ⟨-, change, rest, rfl⟩ := exists_of_apart apart
      rw [valueAt?, valueAt?, member?_eq_get?, member?_eq_get?, merged, members]
      exact valueAt?_mergedMembers (fun patch before => ih before patch) apart _

/-- The document after is the one before, but for what stands at the places that are listed with
it. -/
structure Edited (edits : List (List String × Option Json)) (before after : Json) : Prop where
  placed : ∀ edit ∈ edits, after.valueAt? edit.1 = edit.2
  beside : after.AgreesBeside (edits.map Prod.fst) before

/-- Of two edits of the same places the later counts. -/
theorem Edited.trans {first second : List (List String × Option Json)} {before between after : Json}
    (edited : Edited first before between) (again : Edited second between after)
    (same : first.map Prod.fst = second.map Prod.fst) : Edited second before after where
  placed := again.placed
  beside path apart := (again.beside path apart).trans (edited.beside path (same ▸ apart))

/-- A merge patch edits the places that it names. -/
theorem edited_merged {edits : List (List String × Option Json)} {patch : Json}
    (named : patch.namedPlaces = edits.map Prod.fst)
    (placed : ∀ edit ∈ edits, (merged target patch).valueAt? edit.1 = edit.2) :
    Edited edits target (merged target patch) :=
  ⟨placed, named ▸ merged_agreesBeside target patch⟩

/-- What a patch of one member makes of it. -/
theorem valueAt?_merged_cons {changes : List (String × Json)} :
    (merged target (.obj [(name, .obj changes)])).valueAt? (name :: path) =
      (merged ((target.member? name).getD .null) (.obj changes)).valueAt? path := by
  rw [valueAt?, member?_eq_get?, merged, members, mergedMembers, mergedMembers,
    get?_mergedMember_obj, Option.bind_some, ← member?_eq_get?]

theorem valueAt?_merged_singleton {changes : List (String × Json)} :
    (merged target (.obj changes)).valueAt? [name] =
      get? name (mergedMembers target.members changes) := by
  rw [valueAt?, merged, member?]
  cases get? name (mergedMembers target.members changes) <;> rfl

/-- A list that is put into a part of a member stands there. -/
theorem valueAt?_merged_arr {outer inner : String} {items : List Json} :
    (merged target (.obj [(outer, .obj [(inner, .arr items)])])).valueAt? [outer, inner] =
      some (.arr items) := by
  rw [valueAt?_merged_cons, valueAt?_merged_singleton, mergedMembers, mergedMembers,
    mergedMember_arr, get?_insert_self]

end NodeGate.Json
