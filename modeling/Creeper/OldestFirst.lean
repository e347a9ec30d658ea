import Mathlib

/-!
# The oldest items of several parties

A selection takes the first items of a list in the order of their ranks, whoever they belong to.
An item of one party is among them when fewer items of the others are ahead of all of its own.
-/

namespace Creeper.OldestFirst
variable {Item Rank : Type*} [LinearOrder Rank] {rank : Item → Rank} {mine : Item → Bool} {items : List Item}

def oldestFirst (rank : Item → Rank) (items : List Item) (n : Nat) : List Item :=
  (items.insertionSort fun a b => rank a ≤ rank b).take n

/-- The item belongs to others, and every item of this party comes after it. -/
def ahead (rank : Item → Rank) (mine : Item → Bool) (items : List Item) (item : Item) : Bool :=
  !mine item && items.all fun own => !mine own || rank item < rank own

theorem ahead_iff {item : Item} : ahead rank mine items item ↔ mine item = false ∧ ∀ own ∈ items, mine own = true → rank item < rank own := by
  simp only [ahead, Bool.and_eq_true, Bool.not_eq_true', List.all_eq_true, Bool.or_eq_true, decide_eq_true_eq]
  refine and_congr_right fun _ => forall₂_congr fun own _ => ?_
  cases mine own <;> simp

/-- The items of the others that come first, when an item of this party follows them. -/
theorem countP_ahead {first rest : List Item} {own : Item} (members : ∀ item, item ∈ items ↔ item ∈ first ++ own :: rest)
    (sorted : (first ++ own :: rest).Pairwise fun a b => rank a ≤ rank b) (others : ∀ item ∈ first, mine item = false) (here : mine own = true)
    (apart : ∀ a ∈ items, ∀ b ∈ items, mine a = false → mine b = true → rank a ≠ rank b) :
    (first ++ own :: rest).countP (ahead rank mine items) = first.length := by
  obtain ⟨-, later, between⟩ := List.pairwise_append.mp sorted
  obtain ⟨after, -⟩ := List.pairwise_cons.mp later
  have before : first.countP (ahead rank mine items) = first.length := by
    rw [List.countP_eq_length]
    intro item member
    have stored := (members item).mpr (List.mem_append_left _ member)
    refine ahead_iff.mpr ⟨others item member, fun own' stored' mine' => ?_⟩
    refine lt_of_le_of_ne ?_ (apart item stored own' stored' (others item member) mine')
    rcases List.mem_append.mp ((members own').mp stored') with inside | inside
    · rw [others own' inside] at mine'
      cases mine'
    · exact between item member own' inside
  have behind : (own :: rest).countP (ahead rank mine items) = 0 := by
    rw [List.countP_eq_zero]
    intro item member first_
    obtain ⟨other, least⟩ := ahead_iff.mp first_
    rcases List.mem_cons.mp member with rfl | inside
    · rw [here] at other
      cases other
    · exact absurd (least own ((members own).mpr (List.mem_append_right _ List.mem_cons_self)) here) (not_lt.mpr (after item inside))
  rw [List.countP_append, before, behind, Nat.add_zero]

theorem selected_iff (waits : ∃ item ∈ items, mine item = true)
    (apart : ∀ a ∈ items, ∀ b ∈ items, mine a = false → mine b = true → rank a ≠ rank b) (n : Nat) :
    (∃ item ∈ oldestFirst rank items n, mine item = true) ↔ items.countP (ahead rank mine items) < n := by
  have perm := List.perm_insertionSort (fun a b => rank a ≤ rank b) items
  have sorted := List.pairwise_insertionSort (fun a b => rank a ≤ rank b) items
  have members (item : Item) : item ∈ items ↔ item ∈ items.insertionSort fun a b => rank a ≤ rank b := perm.mem_iff.symm
  have counted : items.countP (ahead rank mine items) = (items.insertionSort fun a b => rank a ≤ rank b).countP (ahead rank mine items) :=
    perm.countP_eq _ |>.symm
  rw [counted, oldestFirst]
  generalize (items.insertionSort fun a b => rank a ≤ rank b) = line at sorted members ⊢
  -- the line is cut at the first item of the party
  obtain ⟨first, own, rest, rfl, others, here⟩ : ∃ first own rest, line = first ++ own :: rest ∧ (∀ item ∈ first, mine item = false) ∧ mine own = true := by
    obtain ⟨item, stored, isMine⟩ := waits
    obtain ⟨own, found⟩ := Option.isSome_iff_exists.mp (List.find?_isSome.mpr ⟨item, (members item).mp stored, isMine⟩)
    obtain ⟨here, first, rest, split, others⟩ := List.find?_eq_some_iff_append.mp found
    exact ⟨first, own, rest, split, fun item member => by simpa using others item member, here⟩
  rw [countP_ahead members sorted others here apart]
  constructor
  · rintro ⟨item, member, isMine⟩
    by_contra few
    rw [List.take_append_of_le_length (not_lt.mp few)] at member
    rw [others item (List.mem_of_mem_take member)] at isMine
    cases isMine
  · intro enough
    refine ⟨own, ?_, here⟩
    rw [List.take_append, List.take_of_length_le enough.le, show n - first.length = (n - first.length - 1) + 1 by omega, List.take_succ_cons]
    exact List.mem_append_right _ List.mem_cons_self

end Creeper.OldestFirst
