import Mathlib.Data.List.TakeWhile
import NodeGate.Text.Blank

/-!
# What trimming leaves

Trimming a text cuts off the blanks at its ends, and it cuts off nothing else.
-/

namespace NodeGate.Text

variable {characters before visible after : List Char}

/-- What is left of a text that has blanks at its ends only. -/
theorem trim_eq (blankBefore : ∀ character ∈ before, isBlank character = true)
    (unblank : ∀ character ∈ visible, isBlank character = false)
    (blankAfter : ∀ character ∈ after, isBlank character = true) :
    trim (before ++ visible ++ after) = visible := by
  have ends : (visible ++ after).reverse.dropWhile isBlank = visible.reverse := by
    rw [List.reverse_append, List.dropWhile_append_of_pos (by simpa using blankAfter)]
    refine List.dropWhile_eq_self_iff.mpr fun _ blank => ?_
    rw [unblank _ (List.mem_reverse.mp (List.getElem_mem _))] at blank
    contradiction
  rw [trim, trimLeft, List.append_assoc, List.dropWhile_append_of_pos blankBefore]
  cases visible with
  | nil => simp [List.dropWhile_eq_nil_iff.mpr blankAfter, trimRight]
  | cons first rest =>
      rw [List.cons_append, List.dropWhile_cons_of_neg (by simp [unblank first]),
        ← List.cons_append, trimRight, ends, List.reverse_reverse]

/-- Only blanks are cut off a text. -/
theorem exists_eq_trim (characters : List Char) :
    ∃ before after, characters = before ++ trim characters ++ after ∧
      (∀ character ∈ before, isBlank character = true) ∧
      ∀ character ∈ after, isBlank character = true := by
  refine ⟨characters.takeWhile isBlank, ((trimLeft characters).reverse.takeWhile isBlank).reverse,
    ?_, ?_, ?_⟩
  · rw [List.append_assoc, trim, trimRight, ← List.reverse_append, List.takeWhile_append_dropWhile,
      List.reverse_reverse, trimLeft, List.takeWhile_append_dropWhile]
  · intro character member
    exact List.mem_takeWhile_imp member
  · intro character member
    exact List.mem_takeWhile_imp (List.mem_reverse.mp member)

end NodeGate.Text
