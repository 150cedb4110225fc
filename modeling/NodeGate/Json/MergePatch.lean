import NodeGate.Json.Basic

/-!
# Merge patches

A merge patch is a document in the shape of the change that it describes. The
members of an object change the members of those names: `null` removes a member,
an object changes the member further, and any other value replaces it. A patch
that is no object replaces the whole document, so lists are replaced as a whole.
-/

namespace NodeGate.Json

mutual

/-- The document after a merge patch. -/
def merged (target : Json) : Json → Json
  | .obj changes => .obj (mergedMembers target.members changes)
  | .null => .null
  | .bool value => .bool value
  | .int value => .int value
  | .dec mantissa exponent => .dec mantissa exponent
  | .str text => .str text
  | .arr items => .arr items
  | .unreadable => .unreadable

/-- The members after changes in turn. -/
def mergedMembers (fields : Entries Json) : List (String × Json) → Entries Json
  | [] => fields
  | change :: rest => mergedMembers (mergedMember fields change) rest

/-- The members after the change of one of them. -/
def mergedMember (fields : Entries Json) : String × Json → Entries Json
  | (name, .null) => Entries.erase name fields
  | (name, patch) =>
    Entries.insert name (merged ((Entries.get? name fields).getD .null) patch) fields

end

/-- A change of one member leaves the others alone. -/
theorem get?_mergedMember_of_ne {name : String} {change : String × Json}
    (hne : name ≠ change.1) (fields : Entries Json) :
    Entries.get? name (mergedMember fields change) = Entries.get? name fields := by
  obtain ⟨changed, patch⟩ := change
  cases patch <;>
    simp [mergedMember, Entries.get?_erase_of_ne hne, Entries.get?_insert_of_ne hne]

/-- A merge patch leaves the members alone that it does not name. -/
theorem get?_mergedMembers_of_not_mem {name : String} {changes : List (String × Json)}
    (unnamed : name ∉ changes.map Prod.fst) (fields : Entries Json) :
    Entries.get? name (mergedMembers fields changes) = Entries.get? name fields := by
  induction changes generalizing fields with
  | nil => rfl
  | cons change rest ih =>
      simp only [List.map_cons, List.mem_cons, not_or] at unnamed
      rw [mergedMembers, ih unnamed.2, get?_mergedMember_of_ne unnamed.1]

/-- A `null` removes the member. -/
theorem get?_mergedMember_null (name : String) (fields : Entries Json) :
    Entries.get? name (mergedMember fields (name, .null)) = none := by
  simp [mergedMember]

/-- A list takes the place of the member. -/
theorem mergedMember_arr (fields : Entries Json) (name : String) (items : List Json) :
    mergedMember fields (name, .arr items) = Entries.insert name (.arr items) fields := by
  simp [mergedMember, merged]

/-- A text takes the place of the member. -/
theorem mergedMember_str (fields : Entries Json) (name text : String) :
    mergedMember fields (name, .str text) = Entries.insert name (.str text) fields := by
  simp [mergedMember, merged]

/-- A number takes the place of the member. -/
theorem mergedMember_int (fields : Entries Json) (name : String) (value : Int) :
    mergedMember fields (name, .int value) = Entries.insert name (.int value) fields := by
  simp [mergedMember, merged]

/-- An object is merged into the member. -/
theorem mergedMember_obj (fields : Entries Json) (name : String) (changes : Entries Json) :
    mergedMember fields (name, .obj changes) =
      Entries.insert name (merged ((Entries.get? name fields).getD .null) (.obj changes))
        fields := by
  simp [mergedMember]

end NodeGate.Json
