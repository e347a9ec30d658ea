import Creeper.ActionRewards

/-!
# Frozen frontiers

A submission is built from the canonical capsules up to a frontier, first by `build_runtime_snapshot`
and later, from what the store has become, by `export_runtime_submission`. The frontier fixes the
host-years, and not their capsules: the two agree exactly when nothing that is stored in between
sorts before the capsules that a host-year of the frontier already had.
-/

namespace Creeper.FrozenFrontier
open Creeper.Runs Creeper.Tables Creeper.EvidenceStore
open Creeper.FabricModels (PyError)
open Creeper.ReadinessLedger (yearBit)
open Creeper.ActionRewards (maxHostYearSequence)

/-! ## Snapshots and exports -/

/-- A host-year of a judged year that is not in the masks of the baseline. -/
def novelPair (yearMask : String → Nat) (pair : HostYear) : Bool :=
  (yearBit (ofLex pair).2).any fun bit => yearMask (ofLex pair).1 &&& bit = 0

/-- The novel ones of the capsules that are streamed, in batches of the default size. -/
def novelCapsules (yearMask : String → Nat) (s : Store) (frontier : Int) : Except PyError (List EvidenceCapsule) :=
  (iterCanonicalHostYearCapsules s 5000 (some frontier)).map (List.filter fun c => novelPair yearMask c.pair)

/-- `novel_capsules` of `build_runtime_snapshot`, for a frontier that was asked for. -/
def buildRuntimeSnapshot (yearMask : String → Nat) (s : Store) (frontier : Int) : Except PyError (List EvidenceCapsule) :=
  if frontier < 0 || maxHostYearSequence s.hostYears < frontier then
    .error (.valueError "evidence_sequence_frontier is outside the evidence store")
  else novelCapsules yearMask s frontier

/-- `novel_records` of `export_runtime_submission`. -/
def exportRuntimeSubmission (yearMask : String → Nat) (s : Store) (frontier : Int) : Except PyError (List EvidenceCapsule) :=
  novelCapsules yearMask s frontier

/-! ## What is stored later -/

def capsulesOf : StoreEvent → List EvidenceCapsule
  | .putMany capsules _ => capsules
  | .putManyWithTaskProvenance items _ => items.map (·.1)
  | .page _ => []

/-- The capsules that a step stores, unless they are there. -/
def put (r : Step System StoreEvent Outcome) : List EvidenceCapsule :=
  match r.outcome with
  | .ok _ => capsulesOf r.event
  | .error _ => []

/-- The capsules of the calls after some others. -/
def putAfter (burns : Bool) (before later : List StoreEvent) : List EvidenceCapsule :=
  ((storage burns).traceFrom ((storage burns).final before) later).flatMap put

/-- A host-year is numbered up to a frontier. -/
def Frozen (s : Store) (frontier : Int) (pair : HostYear) : Prop :=
  ∃ row ∈ s.hostYears.table.rows, row.pair = pair ∧ (row.sequence : Int) ≤ frontier

/-- A capsule sorts before all that its host-year has, and the frontier has the host-year. -/
def Undercuts (s : Store) (frontier : Int) (c : EvidenceCapsule) : Prop :=
  Frozen s frontier c.pair ∧ ∀ other ∈ s.capsules.rows, other.pair = c.pair → c.rank < other.rank

/-! ## The stream of a frontier -/

section
variable {s s' : Store} {frontier batchSize : Int} {capsules capsules' : List EvidenceCapsule}

theorem stream_ascending (answer : iterCanonicalHostYearCapsules s batchSize (some frontier) = .ok capsules) (inv : Inv s) :
    capsules.Pairwise fun a b => a.pair < b.pair := by
  unfold iterCanonicalHostYearCapsules at answer
  split_ifs at answer with negative
  have positive : 0 < batchSize.toNat := by omega
  rw [streamBatches_eq _ positive] at answer
  have ordered := List.pairwise_insertionSort (fun a b : CapsuleFields => a.key ≤ b.key) (s.capsules.rows.filter (s.indexed (some frontier)))
  have rise := (firstOfRuns_rise CapsuleFields.pair none (ordered.imp pair_le) nofun).1
  have part := (firstOfRuns_sublist CapsuleFields.pair none
    ((s.capsules.rows.filter (s.indexed (some frontier))).insertionSort (·.key ≤ ·.key))).subset
  obtain ⟨made, read, same⟩ := mapM_make fun c member =>
    inv.valid c (List.mem_filter.mp ((List.mem_insertionSort _).mp (part member))).1
  rw [read] at answer
  cases answer
  rwa [← same, List.pairwise_map] at rise

/-- A streamed capsule is the one of its host-year that sorts first. -/
theorem Canonical.mem_iff (canonical : Canonical s frontier capsules) (c : EvidenceCapsule) : c ∈ capsules ↔
    c.toCapsuleFields ∈ s.capsules.rows ∧ Frozen s frontier c.pair ∧
      ∀ other ∈ s.capsules.rows, other.pair = c.pair → c.rank ≤ other.rank := by
  constructor
  · intro member
    exact ⟨canonical.stored c member, (canonical.pairs c.pair).mp (List.mem_map_of_mem member), canonical.least c member⟩
  · rintro ⟨stored, frozen, least⟩
    obtain ⟨first, member, same⟩ := List.mem_map.mp ((canonical.pairs c.pair).mpr frozen)
    have rank : first.rank = c.rank :=
      le_antisymm (canonical.least first member _ stored same.symm) (least _ (canonical.stored first member) same)
    have key : first.key = c.key := by
      show toLex (first.pair, first.rank) = toLex (c.pair, c.rank)
      rw [same, rank]
    have fields := Table.row_unique (canonical.stored first member) stored key
    have whole : first = c := by
      cases first
      cases c
      cases fields
      rfl
    rwa [← whole]

/-- Two streams of the same capsules are the same. -/
theorem ascending_ext (first : capsules.Pairwise fun a b => a.pair < b.pair) (second : capsules'.Pairwise fun a b => a.pair < b.pair)
    (same : ∀ c, c ∈ capsules ↔ c ∈ capsules') : capsules = capsules' := by
  have distinct : ∀ {l : List EvidenceCapsule}, l.Pairwise (fun a b => a.pair < b.pair) → l.Nodup := fun ascending =>
    ascending.imp fun less equal => less.ne (congrArg (fun c : EvidenceCapsule => c.pair) equal)
  have perm := (List.perm_ext_iff_of_nodup (distinct first) (distinct second)).mpr same
  exact perm.eq_of_pairwise (fun a b _ _ ab ba => absurd (ab.trans ba) (lt_irrefl _)) first second

end

/-! ## Later calls -/

/-- What calls make of the capsules of a store: the old ones stay, and of every new one that was put there is one with its key. -/
structure Gains (s s' : Store) (new : List EvidenceCapsule) : Prop where
  kept : ∀ row ∈ s.capsules.rows, row ∈ s'.capsules.rows
  added : ∀ row ∈ s'.capsules.rows, row ∈ s.capsules.rows ∨ ∃ c ∈ new, c.toCapsuleFields = row
  present : ∀ c ∈ new, ∃ row ∈ s'.capsules.rows, row.key = c.key

section
variable {burns : Bool} {s s' s'' : Store} {new more : List EvidenceCapsule}

theorem Gains.refl (s : Store) : Gains s s [] := ⟨fun _ stored => stored, fun _ stored => .inl stored, nofun⟩

theorem Gains.trans (first : Gains s s' new) (second : Gains s' s'' more) : Gains s s'' (new ++ more) where
  kept row stored := second.kept row (first.kept row stored)
  added row stored := by
    rcases second.added row stored with middle | ⟨c, member, same⟩
    · rcases first.added row middle with old | ⟨c, member, same⟩
      · exact .inl old
      · exact .inr ⟨c, List.mem_append_left _ member, same⟩
    · exact .inr ⟨c, List.mem_append_right _ member, same⟩
  present c member := by
    rcases List.mem_append.mp member with early | late
    · obtain ⟨row, stored, same⟩ := first.present c early
      exact ⟨row, second.kept row stored, same⟩
    · exact second.present c late

theorem gains_put {capsules : List EvidenceCapsule} {provenance : List ProvenanceRow} {answer : Answer Nat}
    (cases_ : PutAnswer burns s capsules provenance answer) :
    Gains s answer.2 (match answer.1 with | .ok _ => capsules | .error _ => []) := by
  cases cases_ with
  | refused err => exact .refl s
  | written n =>
    refine ⟨fun row stored => foldl_insert_stored stored, fun row stored => ?_, fun c member => ?_⟩
    · rcases mem_foldl_insert stored with old | fresh
      · exact .inl old
      · obtain ⟨c, member, same⟩ := List.mem_map.mp fresh
        exact .inr ⟨c, member, same⟩
    · exact foldl_insert_key s.capsules (List.mem_map_of_mem member)

theorem gains_step (burns : Bool) (s : System) (e : StoreEvent) :
    Gains s.store (step burns s e).2.store (put ((storage burns).take s e)) := by
  have taken : put ((storage burns).take s e) = match (step burns s e).1 with | .ok _ => capsulesOf e | .error _ => [] := rfl
  rw [taken]
  cases e with
  | putMany capsules fault => exact gains_put (putMany_cases burns s.store capsules fault)
  | putManyWithTaskProvenance items fault => exact gains_put (putItems_cases burns s.store items fault)
  | page limit =>
    simp only [step]
    split <;> exact .refl s.store

theorem gains_later (burns : Bool) (s : System) (later : List StoreEvent) :
    Gains s.store ((storage burns).finalFrom s later).store (((storage burns).traceFrom s later).flatMap put) := by
  induction later generalizing s with
  | nil => exact .refl s.store
  | cons e later ih => exact (gains_step burns s e).trans (ih (step burns s e).2)

end

/-- The host-years up to a number that has been given are numbered for good. -/
theorem frozen_iff {h h' : HostYears} (grows : Grows h h') {frontier : Int} (given : frontier ≤ maxHostYearSequence h) (pair : HostYear) :
    (∃ row ∈ h'.table.rows, row.pair = pair ∧ (row.sequence : Int) ≤ frontier) ↔
      ∃ row ∈ h.table.rows, row.pair = pair ∧ (row.sequence : Int) ≤ frontier := by
  obtain ⟨⟨new, rows, above⟩, -⟩ := grows
  have bound : maxHostYearSequence h ≤ h.sequence := (foldr_max_le _).mpr fun row stored => (h.numbered row stored).2
  rw [rows]
  constructor
  · rintro ⟨row, member, name, below⟩
    rcases List.mem_append.mp member with old | fresh
    · exact ⟨row, old, name, below⟩
    · have := above row fresh
      omega
  · rintro ⟨row, member, rest⟩
    exact ⟨row, List.mem_append_left _ member, rest⟩

/-! ## Stable frontiers -/

section
variable {s s' : Store} {new : List EvidenceCapsule} {frontier : Int} {capsules capsules' : List EvidenceCapsule}

/-- The streams of a frontier agree on some host-years exactly when nothing new undercuts one of them. -/
theorem stable_iff (before : Canonical s frontier capsules) (after : Canonical s' frontier capsules')
    (ascending : capsules.Pairwise fun a b => a.pair < b.pair) (ascending' : capsules'.Pairwise fun a b => a.pair < b.pair)
    (gains : Gains s s' new) (frozen : ∀ pair, Frozen s' frontier pair ↔ Frozen s frontier pair) (q : HostYear → Bool) :
    capsules'.filter (fun c => q c.pair) = capsules.filter (fun c => q c.pair) ↔
      ∀ c ∈ new, q c.pair = true → ¬Undercuts s frontier c := by
  constructor
  · rintro same c member chosen ⟨isFrozen, less⟩
    obtain ⟨first, streamed, pair⟩ := List.mem_map.mp ((before.pairs c.pair).mpr isFrozen)
    have kept : first ∈ capsules'.filter fun c => q c.pair := by
      rw [same]
      exact List.mem_filter.mpr ⟨streamed, by rw [pair]; exact chosen⟩
    obtain ⟨row, stored, key⟩ := gains.present c member
    have rowPair : row.pair = first.pair := (pair_of_key key).trans pair.symm
    have rank : row.rank = c.rank := congrArg (fun key : CapsuleKey => (ofLex key).2) key
    have least := after.least first (List.mem_filter.mp kept).1 row stored rowPair
    rw [rank] at least
    exact absurd (less first.toCapsuleFields (before.stored first streamed) pair) (not_lt.mpr least)
  · intro none_
    refine ascending_ext (ascending'.sublist List.filter_sublist) (ascending.sublist List.filter_sublist) fun c => ?_
    rw [List.mem_filter, List.mem_filter]
    refine and_congr_left fun chosen => ?_
    -- What streamed before sorts first among all that is there afterwards.
    have stays : ∀ c ∈ capsules, q c.pair = true → c ∈ capsules' := by
      intro c member chosen
      obtain ⟨stored, isFrozen, least⟩ := (Canonical.mem_iff before c).mp member
      refine (Canonical.mem_iff after c).mpr ⟨gains.kept _ stored, (frozen _).mpr isFrozen, fun other there same => ?_⟩
      rcases gains.added other there with old | ⟨fresh, isNew, rfl⟩
      · exact least other old same
      · have apart := none_ fresh isNew (by rw [show fresh.pair = c.pair from same]; exact chosen)
        by_contra less
        refine apart ⟨show Frozen s frontier fresh.pair from same ▸ isFrozen, fun old inside pair => ?_⟩
        exact (not_le.mp less).trans_le (least old inside (pair.trans same))
    constructor
    · intro member
      obtain ⟨stored, isFrozen, -⟩ := (Canonical.mem_iff after c).mp member
      obtain ⟨first, streamed, same⟩ := List.mem_map.mp ((before.pairs c.pair).mpr ((frozen _).mp isFrozen))
      have again := stays first streamed (by rw [same]; exact chosen)
      rwa [← List.inj_on_of_nodup_map after.once again member same]
    · exact fun member => stays c member chosen

end

/-- What the canonical stream, and the snapshot and the export that are built from it, make of a frontier. -/
structure Stable (burns : Bool) (before later : List StoreEvent) (frontier : Int) : Prop where
  /-- The capsules of the frontier stay exactly when none that is put later undercuts a host-year of it. -/
  stream : ∀ batchSize, 1 ≤ batchSize → batchSize < 2 ^ 31 →
    (iterCanonicalHostYearCapsules ((storage burns).final (before ++ later)).store batchSize (some frontier) =
        iterCanonicalHostYearCapsules ((storage burns).final before).store batchSize (some frontier) ↔
      ∀ c ∈ putAfter burns before later, ¬Undercuts ((storage burns).final before).store frontier c)
  /-- A later export holds what the snapshot was built from exactly when none undercuts a novel one. -/
  exported : ∀ yearMask,
    (exportRuntimeSubmission yearMask ((storage burns).final (before ++ later)).store frontier =
        buildRuntimeSnapshot yearMask ((storage burns).final before).store frontier ↔
      ∀ c ∈ putAfter burns before later, novelPair yearMask c.pair = true → ¬Undercuts ((storage burns).final before).store frontier c)

theorem frontier_stable_iff (burns : Bool) (before later : List StoreEvent) (frontier : Int) (nonneg : 0 ≤ frontier)
    (given : frontier ≤ maxHostYearSequence ((storage burns).final before).store.hostYears) (fits : tooLarge frontier = false) :
    Stable burns before later frontier := by
  have gains : Gains ((storage burns).final before).store ((storage burns).final (before ++ later)).store (putAfter burns before later) := by
    rw [Machine.final_append]
    exact gains_later burns ((storage burns).final before) later
  have frozen := frozen_iff (grows_run burns before later) given
  have inv := (sound_final burns before).inv
  have inv' := (sound_final burns (before ++ later)).inv
  have agree : ∀ batchSize, 1 ≤ batchSize → batchSize < 2 ^ 31 → ∀ q : HostYear → Bool,
      ((iterCanonicalHostYearCapsules ((storage burns).final (before ++ later)).store batchSize (some frontier)).map
          (List.filter fun c => q c.pair) =
        (iterCanonicalHostYearCapsules ((storage burns).final before).store batchSize (some frontier)).map
          (List.filter fun c => q c.pair) ↔
      ∀ c ∈ putAfter burns before later, q c.pair = true → ¬Undercuts ((storage burns).final before).store frontier c) := by
    intro batchSize positive small q
    obtain ⟨capsules, answer, canonical⟩ := canonical_stream inv positive small nonneg fits
    obtain ⟨capsules', answer', canonical'⟩ := canonical_stream inv' positive small nonneg fits
    rw [answer, answer', ← stable_iff canonical canonical' (stream_ascending answer inv) (stream_ascending answer' inv') gains frozen q]
    exact ⟨fun same => Except.ok.inj same, congrArg Except.ok⟩
  constructor
  · intro batchSize positive small
    have whole : ∀ answer : Except PyError (List EvidenceCapsule), answer.map (List.filter fun _ => true) = answer := by
      intro answer
      cases answer <;> simp [Except.map]
    have every := agree batchSize positive small fun _ => true
    simpa [whole] using every
  · intro yearMask
    have within : (decide (frontier < 0) || decide ((maxHostYearSequence ((storage burns).final before).store.hostYears : Int) < frontier)) =
        false := by simp [not_lt.mpr nonneg, not_lt.mpr given]
    unfold exportRuntimeSubmission buildRuntimeSnapshot novelCapsules
    rw [within]
    exact agree 5000 (by norm_num) (by norm_num) (novelPair yearMask)

/-! ## A capsule that comes later -/

open Creeper.Readiness (capsuleA capsuleOf)

/-- The host-year of another capsule, from a provider that sorts before its own. -/
def earlierProvider : EvidenceCapsule := ⟨{ capsuleOf "a.com" with provider := "arquivo", sourceId := "arquivo" }, by decide +kernel, by decide +kernel⟩

/-- The same from a provider that sorts after it. -/
def laterProvider : EvidenceCapsule := ⟨{ capsuleOf "a.com" with provider := "loc", sourceId := "loc" }, by decide +kernel, by decide +kernel⟩

theorem laterProvider_stable : Stable false [.putMany [capsuleA] none] [.putMany [laterProvider] none] 1 :=
  frontier_stable_iff false [.putMany [capsuleA] none] [.putMany [laterProvider] none] 1 (by decide) (by decide +kernel) (by decide)

theorem earlierProvider_replaces :
    iterCanonicalHostYearCapsules ((storage false).final [.putMany [capsuleA] none, .putMany [earlierProvider] none]).store 5000 (some 1) ≠
      iterCanonicalHostYearCapsules ((storage false).final [.putMany [capsuleA] none]).store 5000 (some 1) := by
  have providers : ∀ s s' : Store, (iterCanonicalHostYearCapsules s 5000 (some 1)).map (List.map (·.provider)) ≠
      (iterCanonicalHostYearCapsules s' 5000 (some 1)).map (List.map (·.provider)) →
      iterCanonicalHostYearCapsules s 5000 (some 1) ≠ iterCanonicalHostYearCapsules s' 5000 (some 1) :=
    fun s s' apart same => apart (congrArg _ same)
  exact providers _ _ (by decide +kernel)

end Creeper.FrozenFrontier
