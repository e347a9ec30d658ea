import Mathlib

/-!
# Counting with a bit set

Items fall into the slots of a bit set, and the bits that are set count them. Items that share
a slot are counted once, so the count is never too high.
-/

namespace Creeper.BitSketches
variable {Item : Type*} (slot : Item → Nat)

/-- The bits of some items, set in a bit set. -/
def mark (bits : Nat) (items : List Item) : Nat := items.foldl (fun bits item => bits ||| 1 <<< slot item) bits

/-- The bit set of some items. -/
def sketch (items : List Item) : Nat := mark slot 0 items

/-- The number of bits that are set. -/
def bitCount (bits : Nat) : Nat := bits.bitIndices.length

variable {slot} {items items' : List Item} {bits bits' : Nat}

theorem testBit_mark {i : Nat} : (mark slot bits items).testBit i ↔ bits.testBit i ∨ ∃ item ∈ items, slot item = i := by
  induction items generalizing bits with
  | nil => simp [mark]
  | cons item rest ih =>
    have first : (bits ||| 1 <<< slot item).testBit i ↔ bits.testBit i ∨ slot item = i := by
      rw [Nat.testBit_or, Bool.or_eq_true, Nat.one_shiftLeft, Nat.testBit_two_pow, decide_eq_true_eq]
    rw [mark, List.foldl_cons]
    exact ih.trans (by rw [first, List.exists_mem_cons_iff, or_assoc])

theorem testBit_sketch {i : Nat} : (sketch slot items).testBit i ↔ ∃ item ∈ items, slot item = i := by
  rw [sketch, testBit_mark]
  simp

theorem mark_eq : mark slot bits items = bits ||| sketch slot items := by
  refine Nat.eq_of_testBit_eq fun i => Bool.eq_iff_iff.mpr ?_
  rw [testBit_mark, Nat.testBit_or, Bool.or_eq_true, testBit_sketch]

theorem sketch_append : sketch slot (items ++ items') = sketch slot items ||| sketch slot items' := by
  rw [← mark_eq, sketch, mark, List.foldl_append]
  rfl

/-- The bit set of items depends on which items there are. -/
theorem sketch_congr (same : ∀ item, item ∈ items ↔ item ∈ items') : sketch slot items = sketch slot items' := by
  refine Nat.eq_of_testBit_eq fun i => Bool.eq_iff_iff.mpr ?_
  rw [testBit_sketch, testBit_sketch]
  exact exists_congr fun item => and_congr_left fun _ => same item

theorem sketch_lt {width : Nat} (small : ∀ item ∈ items, slot item < width) : sketch slot items < 2 ^ width := by
  refine Nat.lt_pow_two_of_testBit _ fun i large => ?_
  by_contra set_
  obtain ⟨item, member, rfl⟩ := testBit_sketch.mp (Bool.eq_true_of_not_eq_false set_)
  exact absurd (small item member) (not_lt.mpr large)

theorem bitCount_mono (more : ∀ i, bits.testBit i = true → bits'.testBit i = true) : bitCount bits ≤ bitCount bits' :=
  (Nat.bitIndices_nodup.subperm fun i member => Nat.mem_bitIndices.mpr (more i (Nat.mem_bitIndices.mp member))).length_le

/-- The count is at most the number of different items. -/
theorem bitCount_sketch_le [DecidableEq Item] : bitCount (sketch slot items) ≤ items.dedup.length := by
  have within : (sketch slot items).bitIndices ⊆ items.dedup.map slot := by
    intro i member
    obtain ⟨item, stored, rfl⟩ := testBit_sketch.mp (Nat.mem_bitIndices.mp member)
    exact List.mem_map_of_mem (List.mem_dedup.mpr stored)
  exact (Nat.bitIndices_nodup.subperm within).length_le.trans_eq (List.length_map _)

end Creeper.BitSketches
