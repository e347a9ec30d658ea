import Mathlib

/-!
# Texts of pieces

A text that a separator joins, and its pieces.
-/

namespace Creeper.Splices

variable {α : Type*} [DecidableEq α]

section
variable {separator : α}

theorem splitOn_solid (text : List α) : ∀ piece ∈ text.splitOn separator, separator ∉ piece := by
  induction text with
  | nil => simp
  | cons c text ih =>
    rw [List.splitOn_cons_eq_if_modifyHead]
    split
    · intro piece member
      rcases List.mem_cons.mp member with rfl | member
      · simp
      · exact ih piece member
    · rename_i apart
      cases split : text.splitOn separator with
      | nil => simp
      | cons first rest =>
        rw [split] at ih
        intro piece member
        rcases List.mem_cons.mp member with rfl | member
        · rw [List.mem_cons, not_or]
          exact ⟨fun same => apart (by simp [same]), ih first (by simp)⟩
        · exact ih piece (by simp [member])

/-- A joined text, one piece at a time. -/
theorem intercalate_step (piece next : List α) (rest : List (List α)) :
    [separator].intercalate (piece :: next :: rest) = piece ++ (separator :: [separator].intercalate (next :: rest)) := by
  rw [List.intercalate_cons_cons]
  simp

theorem intercalate_append {left right : List (List α)} (some_ : left ≠ []) (more : right ≠ []) :
    [separator].intercalate (left ++ right) = [separator].intercalate left ++ separator :: [separator].intercalate right := by
  induction left with
  | nil => exact absurd rfl some_
  | cons piece rest ih =>
    cases rest with
    | nil =>
      rw [List.cons_append, List.nil_append, List.intercalate_cons_of_ne_nil more]
      simp
    | cons next rest =>
      rw [List.cons_append, List.cons_append, intercalate_step, ← List.cons_append, ih (by simp), intercalate_step]
      simp

end
end Creeper.Splices
