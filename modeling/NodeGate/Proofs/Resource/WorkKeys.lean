import NodeGate.Cluster.Key

/-!
# Work keys

A work key joins a namespace and a name by a slash. It is taken apart again exactly if both
are there and free of slashes, so that objects with such names never share a key.
-/

namespace NodeGate

/-- A text is taken apart exactly if it joins two parts that are there and free of slashes. -/
theorem keyParts?_eq_some_iff {key space name : String} :
    keyParts? key = some (space, name) ↔
      key = workKey space name ∧ (space ≠ "" ∧ name ≠ "") ∧
        '/' ∉ space.toList ∧ '/' ∉ name.toList := by
  unfold keyParts?
  constructor
  · intro parts
    split at parts
    next first last split =>
      split at parts
      · contradiction
      next proper =>
        cases parts
        obtain ⟨joined, spaceBare⟩ := splitAtSlash?_eq_some_iff.mp split
        simp only [Bool.or_eq_true, not_or, String.isEmpty_iff, List.contains_iff_mem] at proper
        exact ⟨joined, proper.1, spaceBare, proper.2⟩
    next => contradiction
  · rintro ⟨joined, there, spaceBare, nameBare⟩
    rw [splitAtSlash?_eq_some_iff.mpr ⟨joined, spaceBare⟩]
    simp [there, nameBare]

namespace ObjectKey

/-- An object can be addressed by the key: both parts are there and free of slashes. -/
structure IsProper (key : ObjectKey) : Prop where
  there : key.space ≠ "" ∧ key.name ≠ ""
  space_bare : '/' ∉ key.space.toList
  name_bare : '/' ∉ key.name.toList

/-- Exactly the texts of proper keys are read, each as its key. -/
theorem ofText_eq_ok_iff {text : String} {key : ObjectKey} :
    ofText text = .ok key ↔ text = key.text ∧ key.IsProper := by
  have parts : keyParts? text = some (key.space, key.name) ↔ _ := keyParts?_eq_some_iff
  unfold ofText
  constructor
  · intro named
    split at named
    next split =>
      cases named
      obtain ⟨joined, there, spaceBare, nameBare⟩ := parts.mp split
      exact ⟨joined, there, spaceBare, nameBare⟩
    next => contradiction
  · rintro ⟨joined, proper⟩
    rw [parts.mpr ⟨joined, proper.there, proper.space_bare, proper.name_bare⟩]

/-- The first slash of the text of a proper key is the one that joins its parts. -/
theorem IsProper.splitAtSlash?_text {key : ObjectKey} (proper : key.IsProper) :
    splitAtSlash? key.text = some (key.space, key.name) :=
  splitAtSlash?_eq_some_iff.mpr ⟨rfl, proper.space_bare⟩

/-- Whatever namespace and name have the text of a proper key are those of the key, were they
proper themselves or not. -/
theorem eq_of_workKey_eq {key : ObjectKey} {space name : String} (proper : key.IsProper)
    (same : workKey space name = key.text) : space = key.space ∧ name = key.name := by
  -- The text has one slash, the one that joins its parts.
  have slashes := congrArg (fun text => text.toList.count '/') same
  have spaceCount := List.count_eq_zero.mpr proper.space_bare
  have nameCount := List.count_eq_zero.mpr proper.name_bare
  simp only [text, workKey, String.toList_append, List.count_append, spaceCount, nameCount]
    at slashes
  have bare : '/' ∉ space.toList := List.count_eq_zero.mp (by omega)
  have split : splitAtSlash? key.text = some (space, name) :=
    splitAtSlash?_eq_some_iff.mpr ⟨same.symm, bare⟩
  exact Prod.mk.inj (Option.some.inj (split.symm.trans proper.splitAtSlash?_text))

end ObjectKey

end NodeGate
