import Mathlib

/-!
# Walks and recursive queries

Walks of a relation with their number of edges, bounds on it, and what a new edge
does to them. Recursive queries follow the successors of a node: `UNION ALL` keeps
every row with its depth up to a cap, `UNION` keeps every node once.
-/

namespace Creeper.Digraphs

variable {Node : Type*}

/-! ## Walks -/

/-- A walk of a number of edges. -/
inductive Walk (E : Node → Node → Prop) : Nat → Node → Node → Prop
  | nil (a : Node) : Walk E 0 a a
  | cons {n : Nat} {a b c : Node} (edge : E a b) (rest : Walk E n b c) : Walk E (n + 1) a c

/-- No walk has more edges. -/
def Bounded (E : Node → Node → Prop) (hops : Nat) : Prop := ∀ n a b, Walk E n a b → n ≤ hops

/-- No walk with edges comes back. -/
def Acyclic (E : Node → Node → Prop) : Prop := ∀ n a, Walk E n a a → n = 0

/-- The relation with one more edge. -/
def WithEdge (E : Node → Node → Prop) (p c : Node) (a b : Node) : Prop := E a b ∨ (a = p ∧ b = c)

section
variable {E : Node → Node → Prop}

theorem Walk.append {m n : Nat} {a b c : Node} (first : Walk E m a b) (second : Walk E n b c) : Walk E (m + n) a c := by
  induction first with
  | nil a => rwa [Nat.zero_add]
  | cons edge _ ih =>
    rw [Nat.add_right_comm]
    exact .cons edge (ih second)

theorem walk_zero {a b : Node} (walk : Walk E 0 a b) : a = b := by
  cases walk
  rfl

theorem Walk.single {a b : Node} (edge : E a b) : Walk E 1 a b := .cons edge (.nil b)

theorem Walk.mono {F : Node → Node → Prop} (sub : ∀ a b, E a b → F a b) {n : Nat} {a b : Node} (walk : Walk E n a b) :
    Walk F n a b := by
  induction walk with
  | nil a => exact .nil a
  | cons edge _ ih => exact .cons (sub _ _ edge) ih

theorem Walk.reverse {n : Nat} {a b : Node} (walk : Walk E n a b) : Walk (fun x y => E y x) n b a := by
  induction walk with
  | nil a => exact .nil a
  | cons edge _ ih => exact ih.append (.single edge)

theorem walk_reverse {n : Nat} {a b : Node} : Walk (fun x y => E y x) n a b ↔ Walk E n b a :=
  ⟨fun walk => walk.reverse, fun walk => walk.reverse⟩

theorem walk_repeat {n : Nat} {a : Node} (walk : Walk E n a a) (k : Nat) : Walk E (k * n) a a := by
  induction k with
  | zero =>
    rw [Nat.zero_mul]
    exact .nil a
  | succ k ih =>
    rw [Nat.succ_mul]
    exact ih.append walk

/-- A cycle gives walks of any length. -/
theorem Bounded.acyclic {hops : Nat} (bounded : Bounded E hops) : Acyclic E := by
  intro n a walk
  by_contra more
  have le := bounded _ a a (walk_repeat walk (hops + 1))
  have : hops + 1 ≤ (hops + 1) * n := Nat.le_mul_of_pos_right _ (Nat.pos_of_ne_zero more)
  omega

theorem Walk.withEdge {p c : Node} {n : Nat} {a b : Node} (walk : Walk E n a b) : Walk (WithEdge E p c) n a b :=
  walk.mono fun _ _ edge => .inl edge

theorem walk_withEdge {p c : Node} (noWay : ∀ n, ¬Walk E n c p) {n : Nat} {a b : Node} (walk : Walk (WithEdge E p c) n a b) :
    Walk E n a b ∨ ∃ i j, Walk E i a p ∧ Walk E j c b ∧ n = i + 1 + j := by
  induction walk with
  | nil a => exact .inl (.nil a)
  | cons edge _ ih =>
    rcases edge with old | ⟨rfl, rfl⟩
    · rcases ih with straight | ⟨i, j, before, after, total⟩
      · exact .inl (.cons old straight)
      · exact .inr ⟨i + 1, j, .cons old before, after, by omega⟩
    · rcases ih with straight | ⟨i, j, before, after, total⟩
      · exact .inr ⟨0, _, .nil _, straight, by omega⟩
      · exact absurd before (noWay i)

/-- A new edge closes a cycle exactly when there was a way back. -/
theorem acyclic_withEdge {p c : Node} (acyclic : Acyclic E) : Acyclic (WithEdge E p c) ↔ ∀ n, ¬Walk E n c p := by
  constructor
  · intro still n back
    exact absurd (still _ p (.cons (.inr ⟨rfl, rfl⟩) back.withEdge)) (Nat.succ_ne_zero n)
  · intro noWay n a walk
    rcases walk_withEdge noWay walk with straight | ⟨i, j, before, after, -⟩
    · exact acyclic n a straight
    · exact absurd (after.append before) (noWay _)

theorem bounded_withEdge {p c : Node} {hops : Nat} (bounded : Bounded E hops) (noWay : ∀ n, ¬Walk E n c p) :
    Bounded (WithEdge E p c) hops ↔ ∀ i j a b, Walk E i a p → Walk E j c b → i + 1 + j ≤ hops := by
  constructor
  · intro still i j a b before after
    have walk := (before.withEdge (p := p) (c := c)).append (.cons (.inr ⟨rfl, rfl⟩) (after.withEdge))
    have := still _ _ _ walk
    omega
  · intro through n a b walk
    rcases walk_withEdge noWay walk with straight | ⟨i, j, before, after, rfl⟩
    · exact bounded n a b straight
    · exact through i j a b before after

end

/-! ## Levels -/

section
variable {E : Node → Node → Prop} (next : Node → List Node)

/-- The nodes that some number of edges leads to. -/
def level : Nat → List Node → List Node
  | 0, frontier => frontier
  | n + 1, frontier => level n (frontier.flatMap next)

theorem mem_level (succ : ∀ a b, b ∈ next a ↔ E a b) {n : Nat} {frontier : List Node} {b : Node} :
    b ∈ level next n frontier ↔ ∃ a ∈ frontier, Walk E n a b := by
  induction n generalizing frontier with
  | zero =>
    constructor
    · intro member
      exact ⟨b, member, .nil b⟩
    · rintro ⟨a, member, walk⟩
      cases walk
      exact member
  | succ n ih =>
    rw [level, ih]
    constructor
    · rintro ⟨m, member, walk⟩
      obtain ⟨a, inside, edge⟩ := List.mem_flatMap.mp member
      exact ⟨a, inside, .cons ((succ a m).mp edge) walk⟩
    · rintro ⟨a, inside, walk⟩
      cases walk with
      | cons edge rest => exact ⟨_, List.mem_flatMap.mpr ⟨a, inside, (succ a _).mpr edge⟩, rest⟩

/-! ## UNION ALL -/

/-- The rows of a query from a frontier, with some extensions left. -/
def unionAll : Nat → Nat → List Node → List (Node × Nat)
  | 0, depth, frontier => frontier.map (·, depth)
  | left + 1, depth, frontier => frontier.map (·, depth) ++ unionAll left (depth + 1) (frontier.flatMap next)

/-- `COALESCE(MAX(depth), 0)` over the successors of a node, extended while their depth is within a cap. -/
def maxDepth (cap : Nat) (start : Node) : Nat := ((unionAll next cap 1 (next start)).map (·.2)).foldr max 0

theorem mem_unionAll {left depth : Nat} {frontier : List Node} {b : Node} {d : Nat} :
    (b, d) ∈ unionAll next left depth frontier ↔ ∃ k ≤ left, d = depth + k ∧ b ∈ level next k frontier := by
  induction left generalizing depth frontier with
  | zero =>
    rw [unionAll, List.mem_map]
    constructor
    · rintro ⟨a, member, same⟩
      cases same
      exact ⟨0, le_rfl, rfl, member⟩
    · rintro ⟨k, zero, rfl, member⟩
      obtain rfl := Nat.le_zero.mp zero
      exact ⟨b, member, rfl⟩
  | succ left ih =>
    rw [unionAll, List.mem_append, ih, List.mem_map]
    constructor
    · rintro (⟨a, member, same⟩ | ⟨k, le, rfl, member⟩)
      · cases same
        exact ⟨0, Nat.zero_le _, rfl, member⟩
      · exact ⟨k + 1, by omega, by omega, member⟩
    · rintro ⟨k, le, rfl, member⟩
      cases k with
      | zero => exact .inl ⟨b, member, rfl⟩
      | succ k => exact .inr ⟨k, by omega, by omega, member⟩

theorem le_foldr_max {values : List Nat} {n : Nat} (member : n ∈ values) : n ≤ values.foldr max 0 := by
  induction values with
  | nil => cases member
  | cons first rest ih =>
    rcases List.mem_cons.mp member with rfl | later
    · exact le_max_left _ _
    · exact (ih later).trans (le_max_right _ _)

theorem foldr_max_mem (values : List Nat) : values.foldr max 0 = 0 ∨ values.foldr max 0 ∈ values := by
  induction values with
  | nil => exact .inl rfl
  | cons first rest ih =>
    rw [List.foldr_cons]
    rcases max_choice first (rest.foldr max 0) with here | there
    · rw [here]
      exact .inr List.mem_cons_self
    · rw [there]
      exact ih.imp_right (List.mem_cons_of_mem _)

/-- Within a bound the query finds the longest walk from its node. -/
theorem maxDepth_le (succ : ∀ a b, b ∈ next a ↔ E a b) {hops : Nat} (bounded : Bounded E hops) (start : Node) (n : Nat) :
    maxDepth next hops start ≤ n ↔ ∀ k b, Walk E k start b → k ≤ n := by
  constructor
  · intro least k b walk
    cases walk with
    | nil => exact Nat.zero_le n
    | @cons k _ m _ edge rest =>
      have within := bounded _ _ _ rest
      refine le_trans (le_foldr_max (List.mem_map.mpr ⟨(b, k + 1), ?_, rfl⟩)) least
      exact (mem_unionAll next).mpr ⟨k, within, by omega, (mem_level next succ).mpr ⟨m, (succ start m).mpr edge, rest⟩⟩
  · intro longest
    rcases foldr_max_mem ((unionAll next hops 1 (next start)).map (·.2)) with none_ | attained
    · exact none_.le.trans (Nat.zero_le n)
    · obtain ⟨⟨b, d⟩, row, same⟩ := List.mem_map.mp attained
      obtain ⟨k, -, rfl, member⟩ := (mem_unionAll next).mp row
      obtain ⟨a, first, walk⟩ := (mem_level next succ).mp member
      refine same.symm.le.trans ?_
      rw [Nat.add_comm]
      exact longest _ b (.cons ((succ start a).mp first) walk)

/-! ## UNION -/

variable [DecidableEq Node]

/-- What a query has found, and the part of it that is still to be extended. -/
structure Found (Node : Type*) where
  seen : List Node
  frontier : List Node

/-- One round: the successors that were not found before. -/
def Found.round (f : Found Node) : Found Node where
  seen := f.seen ++ (f.frontier.flatMap next).dedup.filter (· ∉ f.seen)
  frontier := (f.frontier.flatMap next).dedup.filter (· ∉ f.seen)

def Found.start (start : Node) : Found Node := ⟨(next start).dedup, (next start).dedup⟩

/-- The query after a number of rounds. -/
def union (rounds : Nat) (start : Node) : Found Node := (Found.round next)^[rounds] (.start next start)

theorem union_succ (rounds : Nat) (start : Node) : union next (rounds + 1) start = (union next rounds start).round next :=
  Function.iterate_succ_apply' ..

/-- Every node is found once, by a walk, and its successors with it unless it is still to be extended. -/
structure Sound (E : Node → Node → Prop) (start : Node) (f : Found Node) : Prop where
  once : f.seen.Nodup
  inside : ∀ a ∈ f.frontier, a ∈ f.seen
  walks : ∀ b ∈ f.seen, ∃ n, Walk E (n + 1) start b
  first : ∀ b ∈ next start, b ∈ f.seen
  closed : ∀ a ∈ f.seen, a ∉ f.frontier → ∀ b ∈ next a, b ∈ f.seen

variable (succ : ∀ a b, b ∈ next a ↔ E a b)
include succ

theorem sound_start (start : Node) : Sound next E start (.start next start) where
  once := List.nodup_dedup _
  inside _ member := member
  walks b member := ⟨0, .single ((succ start b).mp (List.mem_dedup.mp member))⟩
  first b member := List.mem_dedup.mpr member
  closed a member old := absurd member old

theorem sound_round {start : Node} {f : Found Node} (sound : Sound next E start f) : Sound next E start (f.round next) where
  once := by
    refine List.nodup_append.mpr ⟨sound.once, (List.nodup_dedup _).filter _, ?_⟩
    rintro a old b new rfl
    have fresh := (List.mem_filter.mp new).2
    simp [old] at fresh
  inside a member := List.mem_append_right _ member
  walks b member := by
    rcases List.mem_append.mp member with old | new
    · exact sound.walks b old
    · obtain ⟨a, inside, edge⟩ := List.mem_flatMap.mp (List.mem_dedup.mp (List.mem_filter.mp new).1)
      obtain ⟨n, walk⟩ := sound.walks a (sound.inside a inside)
      exact ⟨n + 1, walk.append (.single ((succ a b).mp edge))⟩
  first b member := List.mem_append_left _ (sound.first b member)
  closed a member done b edge := by
    have old : a ∈ f.seen := by
      rcases List.mem_append.mp member with old | new
      · exact old
      · exact absurd new done
    by_cases extended : a ∈ f.frontier
    · by_cases found : b ∈ f.seen
      · exact List.mem_append_left _ found
      · refine List.mem_append_right _ (List.mem_filter.mpr ⟨List.mem_dedup.mpr ?_, by simpa using found⟩)
        exact List.mem_flatMap.mpr ⟨a, extended, edge⟩
    · exact List.mem_append_left _ (sound.closed a old extended b edge)

theorem sound_union (rounds : Nat) (start : Node) : Sound next E start (union next rounds start) := by
  induction rounds with
  | zero => exact sound_start next succ start
  | succ rounds ih =>
    rw [union_succ]
    exact sound_round next succ ih

omit succ in
/-- Every round that is not the last one finds a node. -/
theorem union_grows (rounds : Nat) (start : Node) :
    (union next rounds start).frontier = [] ∨ rounds + 1 ≤ (union next rounds start).seen.length := by
  induction rounds with
  | zero =>
    rcases List.eq_nil_or_concat' (next start).dedup with none_ | ⟨most, last, some_⟩
    · exact .inl none_
    · refine .inr ?_
      show 0 + 1 ≤ (next start).dedup.length
      rw [some_, List.length_append, List.length_singleton]
      omega
  | succ rounds ih =>
    rw [union_succ]
    rcases ih with done | more
    · refine .inl ?_
      simp [Found.round, done]
    · by_cases none_ : ((union next rounds start).round next).frontier = []
      · exact .inl none_
      · refine .inr ?_
        have fresh := List.length_pos_of_ne_nil none_
        show _ ≤ ((union next rounds start).seen ++ ((union next rounds start).round next).frontier).length
        rw [List.length_append]
        omega

theorem union_ends {nodes : List Node} (finite : ∀ a, ∀ b ∈ next a, b ∈ nodes) (start : Node) :
    (union next nodes.length start).frontier = [] := by
  have sound := sound_union next succ nodes.length start
  have inside : ∀ b ∈ (union next nodes.length start).seen, b ∈ nodes := by
    intro b member
    obtain ⟨n, walk⟩ := sound.walks b member
    obtain ⟨a, edge⟩ : ∃ a, E a b := by
      cases walk.reverse with
      | cons edge _ => exact ⟨_, edge⟩
    exact finite a b ((succ a b).mpr edge)
  rcases union_grows next nodes.length start with done | more
  · exact done
  · have := (sound.once.subperm inside).length_le
    omega

/-- A query that ended has found every node that a walk with edges leads to. -/
theorem mem_union {rounds : Nat} {start : Node} (ended : (union next rounds start).frontier = []) (b : Node) :
    b ∈ (union next rounds start).seen ↔ ∃ n, Walk E (n + 1) start b := by
  have sound := sound_union next succ rounds start
  have closed : ∀ {n : Nat} {a b : Node}, Walk E n a b → a ∈ (union next rounds start).seen → b ∈ (union next rounds start).seen := by
    intro n a b walk
    induction walk with
    | nil => exact id
    | cons edge _ ih =>
      intro member
      refine ih (sound.closed _ member ?_ _ ((succ _ _).mpr edge))
      rw [ended]
      exact List.not_mem_nil
  constructor
  · exact sound.walks b
  · rintro ⟨n, walk⟩
    cases walk with
    | cons edge rest => exact closed rest (sound.first _ ((succ _ _).mpr edge))

end
end Creeper.Digraphs
