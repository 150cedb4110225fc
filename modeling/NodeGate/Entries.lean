/-!
# Entries sorted by key

Finite maps from text keys, kept as lists of pairs in increasing key order with
each key at most once. Labels, selectors, resource requests and the members of
a JSON object are of this form, so their text is determined by their content.
-/

namespace NodeGate

/-- Pairs of a key and a value. -/
abbrev Entries (α : Type) := List (String × α)

namespace Entries

variable {α : Type}

/-- The value at `key`. -/
def get? (key : String) : Entries α → Option α
  | [] => none
  | (name, value) :: rest => if name = key then some value else get? key rest

/-- Sets the value at `key`, in its place by key order. -/
def insert (key : String) (value : α) : Entries α → Entries α
  | [] => [(key, value)]
  | (name, held) :: rest =>
    if name = key then (key, value) :: rest
    else if key < name then (key, value) :: (name, held) :: rest
    else (name, held) :: insert key value rest

/-- Drops the entry at `key`. -/
def erase (key : String) : Entries α → Entries α
  | [] => []
  | (name, held) :: rest =>
    if name = key then erase key rest else (name, held) :: erase key rest

/-- Whether there is an entry at `key`. -/
def has (key : String) (entries : Entries α) : Bool :=
  (get? key entries).isSome

/-- The entries of a list of pairs; of two pairs with one key the later counts. -/
def ofPairs (pairs : List (String × α)) : Entries α :=
  pairs.foldl (fun entries pair => insert pair.1 pair.2 entries) []

/-- The keys in increasing order. -/
def keys (entries : Entries α) : List String :=
  entries.map Prod.fst

@[simp]
theorem get?_nil (key : String) : get? key ([] : Entries α) = none :=
  rfl

theorem get?_cons (key name : String) (value : α) (rest : Entries α) :
    get? key ((name, value) :: rest) = if name = key then some value else get? key rest :=
  rfl

/-- Setting an entry is read back at its key. -/
@[simp]
theorem get?_insert_self (key : String) (value : α) (entries : Entries α) :
    get? key (insert key value entries) = some value := by
  induction entries with
  | nil => simp [insert, get?]
  | cons entry rest ih =>
      simp only [insert]
      split
      · simp [get?]
      · split <;> simp_all [get?]

/-- Setting an entry leaves every other key alone. -/
theorem get?_insert_of_ne {key other : String} (hne : other ≠ key) (value : α)
    (entries : Entries α) :
    get? other (insert key value entries) = get? other entries := by
  induction entries with
  | nil => simp [insert, get?, Ne.symm hne]
  | cons entry rest ih =>
      simp only [insert]
      split
      · rename_i heq
        simp [get?, heq, Ne.symm hne]
      · split <;> simp_all [get?, Ne.symm hne]

/-- A dropped key has no entry. -/
@[simp]
theorem get?_erase_self (key : String) (entries : Entries α) :
    get? key (erase key entries) = none := by
  induction entries with
  | nil => rfl
  | cons entry rest ih =>
      simp only [erase]
      split <;> simp_all [get?]

/-- Dropping a key leaves every other key alone. -/
theorem get?_erase_of_ne {key other : String} (hne : other ≠ key) (entries : Entries α) :
    get? other (erase key entries) = get? other entries := by
  induction entries with
  | nil => rfl
  | cons entry rest ih =>
      simp only [erase]
      split
      · rename_i heq
        simp [ih, get?, heq, Ne.symm hne]
      · simp [get?, ih]

end Entries

end NodeGate
