import Creeper.Tables

/-!
# Sums over tables

The sum of a weight over the rows of a table, and what inserting, rewriting and deleting rows does to it.
-/

namespace Creeper.TableSums
open Creeper.Tables

section
variable {Row Key G : Type*} {key : Row → Key} [DecidableEq Key] [AddCommGroup G]

def total (weight : Row → G) (t : Table Row Key key) : G := (t.rows.map weight).sum

@[simp] theorem total_empty (weight : Row → G) : total weight (Table.empty : Table Row Key key) = 0 := rfl

theorem total_insert (weight : Row → G) {t : Table Row Key key} {r : Row} (fresh : t.get? (key r) = none) :
    total weight (t.insert r) = total weight t + weight r := by
  rw [total, Table.rows_insert fresh, List.map_append, List.sum_append, total]
  simp

/-- Rewriting the row of a key adds the difference. -/
theorem total_update (weight : Row → G) {t : Table Row Key key} {k : Key} {r : Row} (found : t.get? k = some r) (set : Row → Row)
    (keeps : ∀ o, key (set o) = key o) :
    total weight (t.update (fun o => key o = k) set keeps) = total weight t + (weight (set r) - weight r) := by
  obtain ⟨first, last, split, before, after⟩ := Table.focus found
  rw [total, total, Table.rows_update, split, Table.rows_update_focus set (Table.get?_key found) before after]
  simp only [List.map_append, List.map_cons, List.sum_append, List.sum_cons]
  abel

theorem total_delete (weight : Row → G) {t : Table Row Key key} {where_ : Row → Bool} (light : ∀ r ∈ t.rows, where_ r = true → weight r = 0) :
    total weight (t.delete where_) = total weight t := by
  rw [total, total, Table.rows_delete]
  revert light
  induction t.rows with
  | nil => exact fun _ => rfl
  | cons r rest ih =>
    intro light
    have later := ih fun o member => light o (List.mem_cons_of_mem _ member)
    cases hit : where_ r with
    | true =>
      rw [List.filter_cons_of_neg (by simp [hit]), later, List.map_cons, List.sum_cons, light r List.mem_cons_self hit, zero_add]
    | false => rw [List.filter_cons_of_pos (by simp [hit]), List.map_cons, List.sum_cons, later, List.map_cons, List.sum_cons]

theorem total_zero (weight : Row → G) {t : Table Row Key key} (light : ∀ r ∈ t.rows, weight r = 0) : total weight t = 0 := by
  rw [total, List.map_congr_left light]
  simp

end

/-- Rows of a weight that is not negative weigh no more than the table. -/
theorem weight_le_total {Row Key G : Type*} {key : Row → Key} [AddCommGroup G] [PartialOrder G] [IsOrderedAddMonoid G] (weight : Row → G)
    {t : Table Row Key key} (nonneg : ∀ r ∈ t.rows, 0 ≤ weight r) {r : Row} (stored : r ∈ t.rows) : weight r ≤ total weight t := by
  refine List.single_le_sum (fun amount member => ?_) _ (List.mem_map_of_mem stored)
  obtain ⟨o, inside, rfl⟩ := List.mem_map.mp member
  exact nonneg o inside

end Creeper.TableSums
