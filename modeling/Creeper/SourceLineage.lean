import Creeper.Runs
import Creeper.Tables
import Creeper.Digraphs
import Creeper.FabricModels

/-!
# Source lineage

`add_edge` of `source_discovery/registry.py` with its recursive queries: the edges
between sources stay without cycles and within a fixed number of hops.
-/

namespace Creeper.SourceLineage
open Creeper.Runs Creeper.Tables Creeper.Digraphs
open Creeper.FabricModels (PyError blank)

/-! ## Calls -/

/-- `source_edges`. -/
structure EdgeRow where
  parentKey : String
  childKey : String
  relation : String
  createdAt : ℚ
  deriving DecidableEq

/-- The primary key of `source_edges`. -/
abbrev EdgeKey := String × String × String

def EdgeRow.key (row : EdgeRow) : EdgeKey := (row.parentKey, row.childKey, row.relation)

/-- The keys of `source_candidates`, and the edges. -/
structure Graph where
  candidates : Table String String id
  edges : Table EdgeRow EdgeKey (·.key)
  deriving DecidableEq

def Graph.children (g : Graph) (key : String) : List String :=
  (g.edges.rows.filter (·.parentKey = key)).map (·.childKey)

def Graph.parents (g : Graph) (key : String) : List String :=
  (g.edges.rows.filter (·.childKey = key)).map (·.parentKey)

/-- `_would_cycle`: a round for every edge finds all there is to find. -/
def Graph.wouldCycle (g : Graph) (parentKey childKey : String) : Bool :=
  parentKey ∈ (union g.children g.edges.rows.length childKey).seen

/-- `_max_ancestor_hops`. -/
def Graph.maxAncestorHops (g : Graph) (hops : Nat) (key : String) : Nat := maxDepth g.parents hops key

/-- `_max_descendant_hops`. -/
def Graph.maxDescendantHops (g : Graph) (hops : Nat) (key : String) : Nat := maxDepth g.children hops key

/-- The candidates among two keys. -/
def Graph.found (g : Graph) (parentKey childKey : String) : Nat :=
  (g.candidates.rows.filter (fun key => key = parentKey || key = childKey)).length

/-- `add_edge`, with the `max_graph_hops` of the registry. -/
def addEdge (hops : Nat) (g : Graph) (parentKey childKey relation : String) (now : ℚ) : Except PyError Bool × Graph :=
  if parentKey = childKey then (.error (.valueError "source graph self-edge is forbidden"), g)
  else if blank relation then (.error (.valueError "source relation is required"), g)
  else if g.found parentKey childKey ≠ 2 then (.error (.keyError "both source graph endpoints must already exist"), g)
  else if (g.edges.get? (parentKey, childKey, relation)).isSome then (.ok false, g)
  else if g.wouldCycle parentKey childKey then (.error (.valueError "source graph edge would create a cycle"), g)
  else if 2 ^ 63 ≤ hops then (.error .overflowError, g)
  else if hops < g.maxAncestorHops hops parentKey + 1 + g.maxDescendantHops hops childKey then
    (.error (.valueError s!"source graph edge exceeds max_graph_hops={hops}"), g)
  else (.ok true, { g with edges := g.edges.insert ⟨parentKey, childKey, relation, now⟩ })

/-! ## Runs -/

inductive LineageEvent
  | register (key : String)
  | addEdge (parentKey childKey relation : String) (now : ℚ)

def step (hops : Nat) (g : Graph) : LineageEvent → Except PyError Bool × Graph
  | .register key => (.ok false, { g with candidates := g.candidates.insert key })
  | .addEdge parentKey childKey relation now => addEdge hops g parentKey childKey relation now

def lineage (hops : Nat) : Machine Graph LineageEvent (Except PyError Bool) where
  initial := ⟨.empty, .empty⟩
  step := step hops

def Graph.Edge (g : Graph) (a b : String) : Prop := ∃ row ∈ g.edges.rows, row.parentKey = a ∧ row.childKey = b

/-- Both endpoints exist, the triple is new, and the graph stays without cycles and within the bound. -/
structure Admissible (hops : Nat) (g : Graph) (parentKey childKey relation : String) : Prop where
  parent : parentKey ∈ g.candidates.rows
  child : childKey ∈ g.candidates.rows
  fresh : g.edges.get? (parentKey, childKey, relation) = none
  acyclic : Acyclic (WithEdge g.Edge parentKey childKey)
  bounded : Bounded (WithEdge g.Edge parentKey childKey) hops

structure LineageSafe (hops : Nat) (es : List LineageEvent) : Prop where
  acyclic : Acyclic ((lineage hops).final es).Edge
  bounded : Bounded ((lineage hops).final es).Edge hops
  /-- A call inserts its edge exactly when it is admissible, for a relation that is not blank. -/
  inserts : ∀ parentKey childKey relation now,
    (addEdge hops ((lineage hops).final es) parentKey childKey relation now).1 = .ok true ↔
      Admissible hops ((lineage hops).final es) parentKey childKey relation ∧ blank relation = false ∧ hops < 2 ^ 63
  inserted : ∀ parentKey childKey relation now,
    (addEdge hops ((lineage hops).final es) parentKey childKey relation now).1 = .ok true →
      (addEdge hops ((lineage hops).final es) parentKey childKey relation now).2.edges.rows =
        ((lineage hops).final es).edges.rows ++ [⟨parentKey, childKey, relation, now⟩]
  unchanged : ∀ parentKey childKey relation now,
    (addEdge hops ((lineage hops).final es) parentKey childKey relation now).1 ≠ .ok true →
      (addEdge hops ((lineage hops).final es) parentKey childKey relation now).2 = (lineage hops).final es
  /-- The queries end: they run out of rows, whatever their cap. -/
  ancestors : ∀ key, level ((lineage hops).final es).parents hops (((lineage hops).final es).parents key) = []
  descendants : ∀ key, level ((lineage hops).final es).children hops (((lineage hops).final es).children key) = []
  cycles : ∀ key, (union ((lineage hops).final es).children ((lineage hops).final es).edges.rows.length key).frontier = []

/-! ## One call -/

section
variable {hops : Nat} {g : Graph} {parentKey childKey relation : String} {now : ℚ}

theorem mem_children (g : Graph) (a b : String) : b ∈ g.children a ↔ g.Edge a b := by
  simp [Graph.children, Graph.Edge, and_assoc]

theorem mem_parents (g : Graph) (b a : String) : a ∈ g.parents b ↔ g.Edge a b := by
  simp only [Graph.parents, Graph.Edge, List.mem_map, List.mem_filter, decide_eq_true_eq, and_assoc]
  exact exists_congr fun row => and_congr_right fun _ => and_comm

/-- The query of `_would_cycle` ends. -/
theorem wouldCycle_ends (g : Graph) (key : String) : (union g.children g.edges.rows.length key).frontier = [] := by
  have size : g.edges.rows.length = (g.edges.rows.map (·.childKey)).length := (List.length_map _).symm
  rw [size]
  refine union_ends g.children (mem_children g) (fun a b member => ?_) key
  obtain ⟨row, inside, same⟩ := List.mem_map.mp member
  exact List.mem_map.mpr ⟨row, (List.mem_filter.mp inside).1, same⟩

theorem wouldCycle_iff (g : Graph) (parentKey childKey : String) :
    g.wouldCycle parentKey childKey ↔ ∃ n, Walk g.Edge (n + 1) childKey parentKey := by
  rw [Graph.wouldCycle, decide_eq_true_eq]
  exact mem_union g.children (mem_children g) (wouldCycle_ends g childKey) parentKey

theorem maxDescendantHops_le (bounded : Bounded g.Edge hops) (key : String) (n : Nat) :
    g.maxDescendantHops hops key ≤ n ↔ ∀ k b, Walk g.Edge k key b → k ≤ n :=
  maxDepth_le g.children (mem_children g) bounded key n

theorem maxAncestorHops_le (bounded : Bounded g.Edge hops) (key : String) (n : Nat) :
    g.maxAncestorHops hops key ≤ n ↔ ∀ k a, Walk g.Edge k a key → k ≤ n := by
  have reversed : Bounded (fun x y => g.Edge y x) hops := fun n a b walk => bounded n b a walk.reverse
  refine (maxDepth_le g.parents (mem_parents g) reversed key n).trans ?_
  exact forall_congr' fun k => forall_congr' fun a => imp_congr_left walk_reverse

/-- The longest walks above and below a new edge decide whether it is within the bound. -/
theorem hops_iff (bounded : Bounded g.Edge hops) :
    g.maxAncestorHops hops parentKey + 1 + g.maxDescendantHops hops childKey ≤ hops ↔
      ∀ i j a b, Walk g.Edge i a parentKey → Walk g.Edge j childKey b → i + 1 + j ≤ hops := by
  constructor
  · intro within i j a b before after
    have above := (maxAncestorHops_le bounded parentKey _).mp le_rfl i a before
    have below := (maxDescendantHops_le bounded childKey _).mp le_rfl j b after
    omega
  · intro through
    have most : 1 ≤ hops := by
      have := through 0 0 _ _ (.nil parentKey) (.nil childKey)
      omega
    have below : ∀ i a, Walk g.Edge i a parentKey → g.maxDescendantHops hops childKey ≤ hops - 1 - i := by
      intro i a before
      refine (maxDescendantHops_le bounded childKey _).mpr fun j b after => ?_
      have := through i j a b before after
      omega
    have base := below 0 _ (.nil parentKey)
    have above : g.maxAncestorHops hops parentKey ≤ hops - 1 - g.maxDescendantHops hops childKey := by
      refine (maxAncestorHops_le bounded parentKey _).mpr fun i a before => ?_
      have := below i a before
      have := through i 0 a _ before (.nil childKey)
      omega
    omega

theorem found_iff (apart : parentKey ≠ childKey) :
    g.found parentKey childKey = 2 ↔ parentKey ∈ g.candidates.rows ∧ childKey ∈ g.candidates.rows := by
  have once : g.candidates.rows.Nodup := by simpa using g.candidates.keyed
  have sub : (g.candidates.rows.filter (fun key => key = parentKey || key = childKey)).Nodup := once.filter _
  have pair : [parentKey, childKey].Nodup := by simp [apart]
  constructor
  · intro two
    have inside : g.candidates.rows.filter (fun key => key = parentKey || key = childKey) ⊆ [parentKey, childKey] := by
      intro key member
      simpa using (List.mem_filter.mp member).2
    have same := (sub.subperm inside).perm_of_length_le two.ge
    constructor
    · exact (List.mem_filter.mp (same.mem_iff.mpr (List.mem_cons_self))).1
    · exact (List.mem_filter.mp (same.mem_iff.mpr (List.mem_cons_of_mem _ List.mem_cons_self))).1
  · rintro ⟨parent, child⟩
    have inside : [parentKey, childKey] ⊆ g.candidates.rows.filter (fun key => key = parentKey || key = childKey) := by
      intro key member
      rcases List.mem_cons.mp member with rfl | last
      · exact List.mem_filter.mpr ⟨parent, by simp⟩
      · rw [List.mem_singleton.mp last]
        exact List.mem_filter.mpr ⟨child, by simp⟩
    have outside : g.candidates.rows.filter (fun key => key = parentKey || key = childKey) ⊆ [parentKey, childKey] := by
      intro key member
      simpa using (List.mem_filter.mp member).2
    exact ((List.perm_ext_iff_of_nodup sub pair).mpr fun key => ⟨fun m => outside m, fun m => inside m⟩).length_eq

theorem edge_insert (fresh : g.edges.get? (parentKey, childKey, relation) = none) :
    ({ g with edges := g.edges.insert ⟨parentKey, childKey, relation, now⟩ } : Graph).Edge =
      WithEdge g.Edge parentKey childKey := by
  have rows := Table.rows_insert (t := g.edges) (r := ⟨parentKey, childKey, relation, now⟩) fresh
  funext a b
  refine propext ?_
  simp only [Graph.Edge, WithEdge, rows, List.mem_append, List.mem_singleton]
  constructor
  · rintro ⟨row, old | rfl, parent, child⟩
    · exact .inl ⟨row, old, parent, child⟩
    · exact .inr ⟨parent.symm, child.symm⟩
  · rintro (⟨row, old, parent, child⟩ | ⟨rfl, rfl⟩)
    · exact ⟨row, .inl old, parent, child⟩
    · exact ⟨_, .inr rfl, rfl, rfl⟩

/-- What a call answers. -/
inductive Added (hops : Nat) (g : Graph) (parentKey childKey relation : String) (now : ℚ) : Except PyError Bool × Graph → Prop
  | refused (err : PyError) (why : ¬(Admissible hops g parentKey childKey relation ∧ blank relation = false ∧ hops < 2 ^ 63)) :
      Added hops g parentKey childKey relation now (.error err, g)
  | duplicate (why : ¬(Admissible hops g parentKey childKey relation ∧ blank relation = false ∧ hops < 2 ^ 63)) :
      Added hops g parentKey childKey relation now (.ok false, g)
  | inserted (admissible : Admissible hops g parentKey childKey relation) (given : blank relation = false) (fits : hops < 2 ^ 63) :
      Added hops g parentKey childKey relation now
        (.ok true, { g with edges := g.edges.insert ⟨parentKey, childKey, relation, now⟩ })

theorem addEdge_cases (bounded : Bounded g.Edge hops) (parentKey childKey relation : String) (now : ℚ) :
    Added hops g parentKey childKey relation now (addEdge hops g parentKey childKey relation now) := by
  have acyclic := bounded.acyclic
  unfold addEdge
  split
  · rename_i same
    subst same
    refine .refused _ fun admissible => ?_
    have loop : Walk (WithEdge g.Edge parentKey parentKey) 1 parentKey parentKey := .single (.inr ⟨rfl, rfl⟩)
    exact absurd (admissible.1.acyclic 1 parentKey loop) Nat.one_ne_zero
  rename_i apart
  split
  · rename_i empty
    refine .refused _ fun admissible => ?_
    rw [empty] at admissible
    exact absurd admissible.2.1 (by decide)
  rename_i given
  split
  · rename_i missing
    exact .refused _ fun admissible => missing ((found_iff apart).mpr ⟨admissible.1.parent, admissible.1.child⟩)
  rename_i both
  obtain ⟨parent, child⟩ := (found_iff apart).mp (not_not.mp both)
  split
  · rename_i taken
    refine .duplicate fun admissible => ?_
    rw [admissible.1.fresh] at taken
    cases taken
  rename_i fresh
  split
  · rename_i cycle
    refine .refused _ fun admissible => ?_
    obtain ⟨n, back⟩ := (wouldCycle_iff g parentKey childKey).mp cycle
    exact (acyclic_withEdge acyclic).mp admissible.1.acyclic _ back
  rename_i noCycle
  have noWay : ∀ n, ¬Walk g.Edge n childKey parentKey := by
    intro n back
    cases n with
    | zero => exact apart (walk_zero back).symm
    | succ n => exact noCycle ((wouldCycle_iff g parentKey childKey).mpr ⟨n, back⟩)
  split
  · rename_i large
    exact .refused _ fun admissible => absurd admissible.2.2 (by omega)
  rename_i fits
  split
  · rename_i long
    refine .refused _ fun admissible => ?_
    have through := (bounded_withEdge bounded noWay).mp admissible.1.bounded
    have := (hops_iff bounded).mpr through
    omega
  · rename_i short
    have through := (hops_iff bounded).mp (not_lt.mp short)
    refine .inserted ⟨parent, child, by simpa using fresh, (acyclic_withEdge acyclic).mpr noWay, ?_⟩ (by simpa using given) (by omega)
    exact (bounded_withEdge bounded noWay).mpr through

theorem bounded_step (bounded : Bounded g.Edge hops) (e : LineageEvent) : Bounded (step hops g e).2.Edge hops := by
  cases e with
  | register key => exact bounded
  | addEdge parentKey childKey relation now =>
    have answer := addEdge_cases bounded parentKey childKey relation now
    simp only [step]
    generalize addEdge hops g parentKey childKey relation now = result at answer
    cases answer with
    | refused => exact bounded
    | duplicate => exact bounded
    | inserted admissible =>
      rw [edge_insert admissible.fresh]
      exact admissible.bounded

end

theorem bounded_final (hops : Nat) (es : List LineageEvent) : Bounded ((lineage hops).final es).Edge hops := by
  refine (lineage hops).invariant (I := fun g => Bounded g.Edge hops) ?_ (fun _ e bounded => bounded_step bounded e) es
  intro n a b walk
  cases walk with
  | nil => exact Nat.zero_le hops
  | cons edge _ =>
    obtain ⟨row, member, -⟩ := edge
    cases member

/-- Within the bound no query has rows beyond it. -/
theorem level_ends {E : String → String → Prop} {next : String → List String} (succ : ∀ a b, b ∈ next a ↔ E a b) {hops : Nat}
    (bounded : Bounded E hops) (key : String) : level next hops (next key) = [] := by
  rw [List.eq_nil_iff_forall_not_mem]
  intro b member
  obtain ⟨a, first, walk⟩ := (mem_level next succ).mp member
  have := bounded _ _ _ (.cons ((succ key a).mp first) walk)
  omega

theorem lineage_safe (hops : Nat) (es : List LineageEvent) : LineageSafe hops es where
  acyclic := (bounded_final hops es).acyclic
  bounded := bounded_final hops es
  inserts parentKey childKey relation now := by
    have answer := addEdge_cases (bounded_final hops es) parentKey childKey relation now
    generalize addEdge hops ((lineage hops).final es) parentKey childKey relation now = result at answer
    cases answer with
    | refused err why => exact ⟨nofun, fun admissible => absurd admissible why⟩
    | duplicate why => exact ⟨nofun, fun admissible => absurd admissible why⟩
    | inserted admissible given fits => exact ⟨fun _ => ⟨admissible, given, fits⟩, fun _ => rfl⟩
  inserted parentKey childKey relation now := by
    have answer := addEdge_cases (bounded_final hops es) parentKey childKey relation now
    generalize addEdge hops ((lineage hops).final es) parentKey childKey relation now = result at answer
    cases answer with
    | refused err why => exact nofun
    | duplicate why => exact nofun
    | inserted admissible given fits => exact fun _ => Table.rows_insert admissible.fresh
  unchanged parentKey childKey relation now := by
    have answer := addEdge_cases (bounded_final hops es) parentKey childKey relation now
    generalize addEdge hops ((lineage hops).final es) parentKey childKey relation now = result at answer
    cases answer with
    | refused err why => exact fun _ => rfl
    | duplicate why => exact fun _ => rfl
    | inserted admissible given fits => exact fun other => absurd rfl other
  ancestors key := by
    refine level_ends (E := fun x y => ((lineage hops).final es).Edge y x) (mem_parents _) ?_ key
    exact fun n a b walk => bounded_final hops es n b a walk.reverse
  descendants key := level_ends (mem_children _) (bounded_final hops es) key
  cycles key := wouldCycle_ends _ key

def twoSources : List LineageEvent := [.register "a", .register "b"]

theorem blank_relation_refused : ¬∀ hops es parentKey childKey relation now,
    (addEdge hops ((lineage hops).final es) parentKey childKey relation now).1 = .ok true ↔
      Admissible hops ((lineage hops).final es) parentKey childKey relation := by
  intro exactly
  have bounded := bounded_final 4 twoSources
  have noEdges : ∀ n a b, Walk ((lineage 4).final twoSources).Edge n a b → n = 0 := by
    intro n a b walk
    cases walk with
    | nil => rfl
    | cons edge _ =>
      obtain ⟨row, member, -⟩ := edge
      cases member
  have noWay : ∀ n, ¬Walk ((lineage 4).final twoSources).Edge n "b" "a" := by
    intro n walk
    cases noEdges n _ _ walk
    exact absurd (walk_zero walk) (by decide)
  have admissible : Admissible 4 ((lineage 4).final twoSources) "a" "b" " " := by
    refine ⟨by decide, by decide, by decide, (acyclic_withEdge bounded.acyclic).mpr noWay, ?_⟩
    refine (bounded_withEdge bounded noWay).mpr fun i j a b before after => ?_
    rw [noEdges i _ _ before, noEdges j _ _ after]
    decide
  have refused : (addEdge 4 ((lineage 4).final twoSources) "a" "b" " " 0).1 ≠ .ok true := by decide
  exact refused ((exactly 4 twoSources "a" "b" " " 0).mpr admissible)

end Creeper.SourceLineage
