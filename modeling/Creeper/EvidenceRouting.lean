import Creeper.BacklogAdmission
import Creeper.Interleavings

/-!
# Routing evidence needs

`evidence/router.py`: a need is staged in a spillover table before anything else, and leaves it
only after its task and the origin of its lineage are stored. Producers, tasks that end and
processes that die may interleave between any two transactions; a need that was staged once is
never lost.
-/

namespace Creeper.EvidenceRouting
open Creeper.Runs Creeper.Tables Creeper.PyNumbers Creeper.Transactions Creeper.Interleavings Creeper.EvidenceTasks
open Creeper.EvidenceQueue (QueueEvent freshRow insertTasks)
open Creeper.BacklogAdmission (Backlog Reply CapacityReservation Lineage AdmissionEvent availableCapacity tryReserve bindLease
  enqueueReserved release settle)
open Creeper.FabricModels (PyError blank)

/-! ## Needs -/

/-- `EvidenceNeed`, after its checks. -/
structure EvidenceNeed where
  key : EvidenceQueryKey
  sourceKey : String
  reservoirId : String
  leaseId : String
  named : !blank sourceKey && !blank reservoirId && !blank leaseId
  deriving DecidableEq

def EvidenceNeed.origin (need : EvidenceNeed) : EvidenceQueryKey × String × String × String :=
  (need.key, need.sourceKey, need.reservoirId, need.leaseId)

/-- The provider and the lineage of a need. -/
def EvidenceNeed.group (need : EvidenceNeed) : String × String × String × String :=
  (need.key.provider, need.sourceKey, need.reservoirId, need.leaseId)

/-- A row of `evidence_route_backlog_v1`. -/
structure StagedRow where
  need : EvidenceNeed
  createdAt : ℚ≥0
  deriving DecidableEq

/-- The control database, the clock and what `uuid4` draws next. -/
structure Routes where
  clock : ℚ≥0
  draw : String
  backlog : Backlog
  staged : Table StagedRow EvidenceNeed (·.need)

structure EvidenceRouteResult where
  enqueued : Nat
  staged : Nat
  deriving DecidableEq

/-- `EvidenceRouter`. A provider without a capacity has none. -/
structure EvidenceRouter where
  backlogCapacities : String → Nat
  genericArchiveProvider : String
  named : !blank genericArchiveProvider

abbrev RouteCall := Call Routes PyError

/-- A call of the admission, at a reading of the clock. -/
def onBacklog {α : Type} (f : PyFloat → Backlog → Reply α) : RouteCall α :=
  .atomic fun s => ((f (.fin s.clock) s.backlog).1, { s with backlog := (f (.fin s.clock) s.backlog).2 })

/-! ## Staging -/

def routeKey (provider : String) (named : !blank provider) (key : EvidenceQueryKey) : EvidenceQueryKey where
  hostname := key.hostname
  yearFrom := key.yearFrom
  yearTo := key.yearTo
  provider := provider
  policyVersion := key.policyVersion
  valid := by
    have valid := key.valid
    simp only [Bool.and_eq_true] at valid ⊢
    exact ⟨⟨valid.1.1, named⟩, valid.2⟩

/-- `stage`. -/
def stage (needs : List EvidenceNeed) : RouteCall Nat :=
  if needs = [] then pure 0
  else .atomic fun s =>
    let staged := needs.eraseDups.foldl (fun t need => t.insert ⟨need, s.clock⟩) s.staged
    (.ok (staged.rows.length - s.staged.rows.length), { s with staged })

/-- `_delete_staged`. -/
def deleteStaged (needs : List EvidenceNeed) : RouteCall Unit :=
  if needs = [] then pure ()
  else .atomic fun s => (.ok (), { s with staged := s.staged.delete (needs.contains ·.need) })

/-- `pending_count_for_lineage`. -/
def pendingCountForLineage (sourceKey reservoirId leaseId : String) : RouteCall Nat :=
  .atomic fun s => (.ok (s.staged.rows.countP fun row =>
    row.need.sourceKey = sourceKey && row.need.reservoirId = reservoirId && row.need.leaseId = leaseId), s)

/-- `_reservation_amount`: a task takes one slot. -/
def reservationAmount (_ : EvidenceQueryKey) : Nat := 1

/-- The lists of `grouped.setdefault(key, []).append(need)`. -/
def grouped {α : Type} [DecidableEq α] (name : EvidenceNeed → α) (needs : List EvidenceNeed) : List (List EvidenceNeed) :=
  (needs.map name).eraseDups.map fun k => needs.filter (name · = k)

namespace EvidenceRouter
variable (r : EvidenceRouter)

/-- `route_external`. -/
def routeExternal (keys : List EvidenceQueryKey) (preferredProvider : Option String) : Except PyError (List EvidenceQueryKey) :=
  let provider := preferredProvider.getD r.genericArchiveProvider
  if named : !blank provider then
    .ok (keys.eraseDups.map fun key => if key.provider = "rdap" then key else routeKey provider named key)
  else .error (.valueError "preferred_provider must be non-empty")

def needsOf (keys : List EvidenceQueryKey) (sourceKey reservoirId leaseId : String) : Except PyError (List EvidenceNeed) :=
  if named : !blank sourceKey && !blank reservoirId && !blank leaseId then
    .ok (keys.map fun key => ⟨key, sourceKey, reservoirId, leaseId, named⟩)
  else if keys = [] then .ok []
  else .error (.valueError (if blank sourceKey then "source_key is required" else if blank reservoirId then "reservoir_id is required"
    else "lease_id is required"))

/-- `_try_enqueue_group`. -/
def tryEnqueueGroup (needs : List EvidenceNeed) (ttlSeconds : PyFloat) : RouteCall Nat :=
  match needs with
  | [] => pure 0
  | first :: _ =>
    if needs.any (fun need => need.group ≠ first.group) then
      throw (.valueError "router enqueue group must share provider and lineage")
    else if r.backlogCapacities first.key.provider = 0 then pure 0
    else do
      let reserved ← (.atomic fun s =>
        let answer := tryReserve s.backlog (.fin s.clock) first.key.provider (needs.map (reservationAmount ·.key)).sum
          (r.backlogCapacities first.key.provider) ttlSeconds s.draw
        (answer.1, { s with backlog := answer.2 }) : RouteCall (Option CapacityReservation))
      match reserved with
      | none => return 0
      | some reservation =>
        Call.andFinally
          (do
            onBacklog fun _ s => bindLease s reservation first.leaseId
            let inserted ← onBacklog fun clock s => enqueueReserved s clock reservation (needs.map (·.key))
              ⟨some first.sourceKey, some first.reservoirId, some first.leaseId⟩
            deleteStaged needs
            return inserted)
          (onBacklog fun _ s => release s (some reservation))

/-- The loop over groups. -/
def enqueueGroups (ttlSeconds : PyFloat) : List (List EvidenceNeed) → RouteCall Nat
  | [] => pure 0
  | group :: rest => do
    let enqueued ← r.tryEnqueueGroup group ttlSeconds
    let more ← enqueueGroups ttlSeconds rest
    return enqueued + more

/-- `enqueue_or_stage`. -/
def enqueueOrStage (keys : List EvidenceQueryKey) (sourceKey reservoirId leaseId : String) (ttlSeconds : PyFloat)
    (preferredProvider : Option String) : RouteCall EvidenceRouteResult := do
  let routed ← Call.ofExcept (r.routeExternal keys preferredProvider)
  let needs ← Call.ofExcept (needsOf routed sourceKey reservoirId leaseId)
  let _staged ← stage needs
  let enqueued ← r.enqueueGroups ttlSeconds (grouped (·.key.provider) needs)
  let staged ← pendingCountForLineage sourceKey reservoirId leaseId
  return ⟨enqueued, staged⟩

/-! ## Promotion -/

/-- The needs of a group that the capacity has room for. -/
def selectWithin (available : Nat) : Nat → List EvidenceNeed → List EvidenceNeed
  | _, [] => []
  | required, need :: rest =>
    if available < required + reservationAmount need.key then []
    else need :: selectWithin available (required + reservationAmount need.key) rest

/-- One turn of the loop of `flush_pending`. -/
def flushGroup (ttlSeconds : PyFloat) (group : List EvidenceNeed) : RouteCall Nat :=
  match group with
  | [] => pure 0
  | first :: _ =>
    if r.backlogCapacities first.key.provider = 0 then pure 0
    else do
      let available ← onBacklog fun clock s => availableCapacity s clock first.key.provider (r.backlogCapacities first.key.provider)
      if available = 0 then return 0
      else if selectWithin available 0 group = [] then return 0
      else r.tryEnqueueGroup (selectWithin available 0 group) ttlSeconds

def flushGroups (ttlSeconds : PyFloat) : List (List EvidenceNeed) → RouteCall Nat
  | [] => pure 0
  | group :: rest => do
    let inserted ← r.flushGroup ttlSeconds group
    let more ← flushGroups ttlSeconds rest
    return inserted + more

/-- The order of the SELECT; `scan` is the order in which SQLite meets rows that it leaves open. -/
def pendingOrder (scan : EvidenceNeed → Nat) (row : StagedRow) : ℚ≥0 ×ₗ String ×ₗ String ×ₗ ℤ ×ₗ ℤ ×ₗ ℕ :=
  toLex (row.createdAt, toLex (row.need.key.provider, toLex (row.need.key.hostname, toLex (row.need.key.yearFrom,
    toLex (row.need.key.yearTo, scan row.need)))))

/-- `flush_pending`. -/
def flushPending (scan : EvidenceNeed → Nat) (ttlSeconds : PyFloat) (maxNeeds : Int) : RouteCall Nat :=
  match positive ttlSeconds with
  | none => throw (.valueError "ttl_seconds must be finite and positive")
  | some _ =>
    if maxNeeds < 1 then pure 0
    else do
      let needs ← (.atomic fun s => (.ok (((s.staged.rows.insertionSort fun a b => pendingOrder scan a ≤ pendingOrder scan b).take
        maxNeeds.toNat).map (·.need)), s) : RouteCall (List EvidenceNeed))
      r.flushGroups ttlSeconds (grouped (·.group) needs)

end EvidenceRouter

/-! ## What is kept -/

/-- The need is in the spillover table. -/
def Staged (s : Routes) (need : EvidenceNeed) : Prop := (s.staged.get? need).isSome

/-- The need has a task, and an origin of its lineage. -/
def Queued (s : Routes) (need : EvidenceNeed) : Prop :=
  (s.backlog.store.tasks.get? need.key).isSome ∧ (s.backlog.origins.get? need.origin).isSome

def Kept (s : Routes) (need : EvidenceNeed) : Prop := Staged s need ∨ Queued s need

/-- What any party may do to the tables: tasks and origins stay, and needs are kept. -/
structure Advances (s s' : Routes) : Prop where
  tasks : ∀ key, (s.backlog.store.tasks.get? key).isSome → (s'.backlog.store.tasks.get? key).isSome
  origins : ∀ k row, s.backlog.origins.get? k = some row → s'.backlog.origins.get? k = some row
  staged : ∀ need, Staged s need → Kept s' need

/-- What promotions do: they add the fresh task and the origin of a staged need, and take away a
    staged row whose need has both. -/
structure Promotes (s s' : Routes) : Prop where
  tasks : ∀ key, s'.backlog.store.tasks.get? key = s.backlog.store.tasks.get? key ∨
    s.backlog.store.tasks.get? key = none ∧ (∃ need, Staged s need ∧ need.key = key) ∧
      s'.backlog.store.tasks.get? key = some (freshRow s.backlog.store key)
  origins : ∀ k, s'.backlog.origins.get? k = s.backlog.origins.get? k ∨
    s.backlog.origins.get? k = none ∧ ∃ need t, Staged s need ∧ need.origin = k ∧
      s'.backlog.origins.get? k = some ⟨need.key, need.sourceKey, need.reservoirId, need.leaseId, t⟩
  staged : ∀ need, s'.staged.get? need = s.staged.get? need ∨ Staged s need ∧ s'.staged.get? need = none ∧ Queued s' need
  weights : s'.backlog.store.weights = s.backlog.store.weights

/-- A relation that the transactions of a promotion keep to. -/
structure Rules (step : Routes → Routes → Prop) : Prop where
  refl : ∀ s, step s s
  trans : ∀ s t u, step s t → step t u → step s u
  kept : ∀ s s' need, step s s' → Kept s need → Kept s' need
  queued : ∀ s s' need, step s s' → Queued s need → Queued s' need
  reserves : ∀ (s : Routes) (b : Backlog), b.store = s.backlog.store → b.origins = s.backlog.origins → step s { s with backlog := b }
  enqueues : ∀ (s : Routes) (b : Backlog) (needs : List EvidenceNeed) (keys : List EvidenceQueryKey), (∀ need ∈ needs, Kept s need) →
    (∀ key ∈ keys, ∃ need ∈ needs, need.key = key) → b.store = insertTasks s.backlog.store keys →
    (∀ k, b.origins.get? k = s.backlog.origins.get? k ∨ s.backlog.origins.get? k = none ∧ ∃ need t, need ∈ needs ∧ need.origin = k ∧
      b.origins.get? k = some ⟨need.key, need.sourceKey, need.reservoirId, need.leaseId, t⟩) → step s { s with backlog := b }
  deletes : ∀ (s : Routes) (needs : List EvidenceNeed), (∀ need ∈ needs, Queued s need) →
    step s { s with staged := s.staged.delete (needs.contains ·.need) }

section
variable {s s' s'' : Routes} {need : EvidenceNeed}

theorem Advances.queued (advances : Advances s s') (queued : Queued s need) : Queued s' need := by
  obtain ⟨task, origin⟩ := queued
  obtain ⟨row, found⟩ := Option.isSome_iff_exists.mp origin
  exact ⟨advances.tasks _ task, by rw [advances.origins _ row found]; rfl⟩

theorem Advances.kept (advances : Advances s s') (kept : Kept s need) : Kept s' need := by
  rcases kept with staged | queued
  · exact advances.staged need staged
  · exact .inr (advances.queued queued)

theorem Advances.trans (first : Advances s s') (second : Advances s' s'') : Advances s s'' :=
  ⟨fun key there => second.tasks key (first.tasks key there), fun k row found => second.origins k row (first.origins k row found),
    fun need staged => second.kept (first.staged need staged)⟩

theorem Promotes.task (promotes : Promotes s s') {key : EvidenceQueryKey} {row : TaskRow}
    (found : s.backlog.store.tasks.get? key = some row) : s'.backlog.store.tasks.get? key = some row := by
  rcases promotes.tasks key with same | ⟨none_, -⟩
  · rw [same, found]
  · rw [none_] at found
    cases found

theorem Promotes.advances (promotes : Promotes s s') : Advances s s' where
  tasks key there := by
    obtain ⟨row, found⟩ := Option.isSome_iff_exists.mp there
    rw [promotes.task found]
    rfl
  origins k row found := by
    rcases promotes.origins k with same | ⟨none_, -⟩
    · rw [same, found]
    · rw [none_] at found
      cases found
  staged need staged := by
    rcases promotes.staged need with same | ⟨-, -, queued⟩
    · exact .inl (by rw [Staged, same]; exact staged)
    · exact .inr queued

theorem Promotes.unstaged (promotes : Promotes s s') (staged : Staged s' need) : Staged s need := by
  rcases promotes.staged need with same | ⟨-, gone, -⟩
  · rw [Staged, same] at staged
    exact staged
  · rw [Staged, gone] at staged
    cases staged

theorem freshRow_congr {a b : EvidenceTasks.Store} (same : b.weights = a.weights) (key : EvidenceQueryKey) :
    freshRow b key = freshRow a key := by
  rw [freshRow, freshRow, same]

theorem Promotes.trans (first : Promotes s s') (second : Promotes s' s'') : Promotes s s'' where
  tasks key := by
    rcases second.tasks key with same | ⟨none_, ⟨need, staged, name⟩, fresh⟩
    · rw [same]
      exact first.tasks key
    · rcases first.tasks key with same | ⟨-, -, found⟩
      · exact .inr ⟨by rw [← same, none_], ⟨need, first.unstaged staged, name⟩, by rw [fresh, freshRow_congr first.weights]⟩
      · rw [none_] at found
        cases found
  origins k := by
    rcases second.origins k with same | ⟨none_, need, t, staged, name, fresh⟩
    · rw [same]
      exact first.origins k
    · rcases first.origins k with same | ⟨-, need', t', -, -, found⟩
      · exact .inr ⟨by rw [← same, none_], need, t, first.unstaged staged, name, fresh⟩
      · rw [none_] at found
        cases found
  staged need := by
    rcases second.staged need with same | ⟨staged, gone, queued⟩
    · rcases first.staged need with same' | ⟨staged, gone, queued⟩
      · exact .inl (same.trans same')
      · exact .inr ⟨staged, same.trans gone, second.advances.queued queued⟩
    · exact .inr ⟨first.unstaged staged, gone, queued⟩
  weights := second.weights.trans first.weights

theorem deleted_get? (t : Table StagedRow EvidenceNeed (·.need)) (needs : List EvidenceNeed) (need : EvidenceNeed) :
    (t.delete (needs.contains ·.need)).get? need = if need ∈ needs then none else t.get? need := by
  rw [Table.get?_delete]
  cases found : t.get? need with
  | none => simp
  | some row =>
    have name := Table.get?_key found
    by_cases member : need ∈ needs <;> simp [Option.filter, name, member]

theorem enqueued_get? (store : EvidenceTasks.Store) (keys : List EvidenceQueryKey) (key : EvidenceQueryKey) :
    (insertTasks store keys).tasks.get? key = (store.tasks.get? key).or (if key ∈ keys then some (freshRow store key) else none) :=
  EvidenceQueue.get?_insertTasks store keys key

end

theorem promotes_rules : Rules Promotes where
  refl s := ⟨fun _ => .inl rfl, fun _ => .inl rfl, fun _ => .inl rfl, rfl⟩
  trans _ _ _ := .trans
  kept _ _ _ promotes := promotes.advances.kept
  queued _ _ _ promotes := promotes.advances.queued
  reserves s b store origins := ⟨fun key => .inl (by rw [store]), fun k => .inl (by rw [origins]), fun _ => .inl rfl, by rw [store]⟩
  enqueues s b needs keys kept named store origins := by
    have staged (need : EvidenceNeed) (member : need ∈ needs) (missing : ¬Queued s need) : Staged s need :=
      (kept need member).resolve_right missing
    refine ⟨fun key => ?_, fun k => ?_, fun _ => .inl rfl, by rw [store]; rfl⟩
    · rw [store, enqueued_get?]
      cases found : s.backlog.store.tasks.get? key with
      | some row => exact .inl rfl
      | none =>
        by_cases member : key ∈ keys
        · obtain ⟨need, inside, rfl⟩ := named key member
          refine .inr ⟨rfl, ⟨need, staged need inside fun queued => ?_, rfl⟩, by rw [if_pos member]; rfl⟩
          rw [Queued, found] at queued
          exact absurd queued.1 (by simp)
        · exact .inl (by rw [if_neg member]; rfl)
    · rcases origins k with same | ⟨none_, need, t, member, name, fresh⟩
      · exact .inl same
      · refine .inr ⟨none_, need, t, staged need member fun queued => ?_, name, fresh⟩
        rw [Queued, name, none_] at queued
        exact absurd queued.2 (by simp)
  deletes s needs queued := by
    refine ⟨fun _ => .inl rfl, fun _ => .inl rfl, fun need => ?_, rfl⟩
    dsimp only
    rw [deleted_get?]
    by_cases member : need ∈ needs
    · rw [if_pos member]
      cases found : s.staged.get? need with
      | none => exact .inl rfl
      | some row => exact .inr ⟨by rw [Staged, found]; rfl, rfl, queued need member⟩
    · rw [if_neg member]
      exact .inl rfl

/-- Time passes. -/
theorem promotes_later (s : Routes) (clock : ℚ≥0) (drawn : String) : Promotes s { s with clock, draw := drawn } :=
  ⟨fun _ => .inl rfl, fun _ => .inl rfl, fun _ => .inl rfl, rfl⟩

theorem advances_rules : Rules Advances where
  refl s := (promotes_rules.refl s).advances
  trans _ _ _ := .trans
  kept _ _ _ advances := advances.kept
  queued _ _ _ advances := advances.queued
  reserves s b store origins := (promotes_rules.reserves s b store origins).advances
  enqueues s b needs keys kept named store origins := (promotes_rules.enqueues s b needs keys kept named store origins).advances
  deletes s needs queued := (promotes_rules.deletes s needs queued).advances

/-! ## The procedures keep to the rules -/

def AllKept (needs : List EvidenceNeed) (s : Routes) : Prop := ∀ need ∈ needs, Kept s need

section
variable {step : Routes → Routes → Prop} (rules : Rules step) {all needs : List EvidenceNeed}

include rules in
theorem Rules.allKept {s s' : Routes} (kept : AllKept all s) (moves : step s s') : AllKept all s' :=
  fun need member => rules.kept s s' need moves (kept need member)

include rules in
/-- A transaction that keeps to the rules leaves what was kept. -/
theorem quiet_meets {α : Type} {f : Routes → Except PyError α × Routes} (kept : ∀ s, AllKept all s → step s (f s).2) :
    Meets step (fun _ s => AllKept all s) (AllKept all) (ExceptT.run (Call.atomic f)) :=
  meets_atomic kept fun s here _ later => rules.allKept (rules.allKept here (kept s here)) later

/-- The origins that an enqueue adds for needs of one lineage. -/
theorem withOrigins_get? (b : Backlog) (keys : List EvidenceQueryKey) (sourceKey reservoirId leaseId : String) (now : ℚ)
    (k : EvidenceQueryKey × String × String × String) :
    (BacklogAdmission.withOrigins b keys ⟨some sourceKey, some reservoirId, some leaseId⟩ now).origins.get? k =
      (b.origins.get? k).or (if k.1 ∈ keys ∧ k.2 = (sourceKey, reservoirId, leaseId) then
        some ⟨k.1, sourceKey, reservoirId, leaseId, now⟩ else none) := by
  refine (Table.get?_foldl_insert keys (fun key => (⟨key, sourceKey, reservoirId, leaseId, now⟩ : BacklogAdmission.OriginRow)) b.origins k).trans ?_
  congr 1
  obtain ⟨key, lineage⟩ := k
  by_cases member : key ∈ keys ∧ lineage = (sourceKey, reservoirId, leaseId)
  · obtain ⟨inside, rfl⟩ := member
    rw [if_pos ⟨inside, rfl⟩]
    cases found : keys.find? (fun a => decide ((a, sourceKey, reservoirId, leaseId) = (key, sourceKey, reservoirId, leaseId))) with
    | none => exact absurd (List.find?_eq_none.mp found key inside) (by simp)
    | some a =>
      have same := of_decide_eq_true (List.find?_some (p := fun a => decide ((a, sourceKey, reservoirId, leaseId) =
        (key, sourceKey, reservoirId, leaseId))) found)
      cases same
      exact (congrArg (Option.map _) found).trans rfl
  · rw [if_neg member, Option.map_eq_none_iff, List.find?_eq_none]
    intro a inside same
    have same := of_decide_eq_true same
    cases same
    exact member ⟨inside, rfl⟩

include rules in
theorem enqueue_meets (reservation : CapacityReservation) (first : EvidenceNeed) (some_ : needs ≠ []) (inside : needs ⊆ all)
    (grouped : ∀ need ∈ needs, need.group = first.group) :
    Meets step (fun result s => AllKept all s ∧ ∀ n, result = .ok n → ∀ need ∈ needs, Queued s need) (AllKept all)
      (ExceptT.run (onBacklog fun clock s => enqueueReserved s clock reservation (needs.map (·.key))
        ⟨some first.sourceKey, some first.reservoirId, some first.leaseId⟩)) := by
  have cases_ (s : Routes) := BacklogAdmission.enqueue_cases s.backlog (.fin s.clock) reservation (needs.map (·.key))
    ⟨some first.sourceKey, some first.reservoirId, some first.leaseId⟩
  have lineage {need : EvidenceNeed} (member : need ∈ needs) : need.origin = (need.key, first.sourceKey, first.reservoirId, first.leaseId) := by
    have same := congrArg Prod.snd (grouped need member)
    exact congrArg (Prod.mk need.key) same
  have moves (s : Routes) (kept : AllKept all s) : step s
      { s with backlog := (enqueueReserved s.backlog (.fin s.clock) reservation (needs.map (·.key))
        ⟨some first.sourceKey, some first.reservoirId, some first.leaseId⟩).2 } ∧
      ∀ n, (enqueueReserved s.backlog (.fin s.clock) reservation (needs.map (·.key))
        ⟨some first.sourceKey, some first.reservoirId, some first.leaseId⟩).1 = .ok n → ∀ need ∈ needs, Queued
          { s with backlog := (enqueueReserved s.backlog (.fin s.clock) reservation (needs.map (·.key))
            ⟨some first.sourceKey, some first.reservoirId, some first.leaseId⟩).2 } need := by
    have answer := cases_ s
    generalize enqueueReserved s.backlog (.fin s.clock) reservation (needs.map (·.key))
      ⟨some first.sourceKey, some first.reservoirId, some first.leaseId⟩ = result at answer ⊢
    cases answer with
    | refused err => exact ⟨rules.refl s, nofun⟩
    | nothing none_ => exact absurd (List.map_eq_nil_iff.mp none_) some_
    | admitted id now row named providers reads found owner live enough =>
      have mine (need : EvidenceNeed) (member : need ∈ needs) : need.key ∈ (needs.map (·.key)).eraseDups :=
        List.mem_eraseDups.mpr (List.mem_map_of_mem member)
      refine ⟨rules.enqueues s _ needs _ (fun need member => kept need (inside member)) (fun key member => ?_) rfl fun k => ?_, fun n _ need member => ⟨?_, ?_⟩⟩
      · exact List.mem_map.mp (List.mem_eraseDups.mp member)
      · dsimp only
        rw [withOrigins_get?]
        cases old : s.backlog.origins.get? k with
        | some row => exact .inl rfl
        | none =>
          by_cases member : k.1 ∈ (needs.map (·.key)).eraseDups ∧ k.2 = (first.sourceKey, first.reservoirId, first.leaseId)
          · obtain ⟨key, line⟩ := k
            obtain ⟨isKey, rfl⟩ := member
            obtain ⟨need, isNeed, rfl⟩ := List.mem_map.mp (List.mem_eraseDups.mp isKey)
            have same := lineage isNeed
            refine .inr ⟨rfl, need, now, isNeed, same, ?_⟩
            rw [if_pos ⟨isKey, rfl⟩, Option.none_or]
            have parts := congrArg Prod.snd same
            simp only [EvidenceNeed.origin, Prod.mk.injEq] at parts
            rw [parts.1, parts.2.1, parts.2.2]
          · exact .inl (by rw [if_neg member]; rfl)
      · dsimp only
        rw [enqueued_get?, if_pos (mine need member)]
        cases s.backlog.store.tasks.get? need.key <;> rfl
      · dsimp only
        rw [withOrigins_get?, lineage member, if_pos ⟨mine need member, rfl⟩]
        cases s.backlog.origins.get? (need.key, first.sourceKey, first.reservoirId, first.leaseId) <;> rfl
  refine meets_atomic (fun s kept => (moves s kept).1) fun s kept later after => ?_
  exact ⟨rules.allKept (rules.allKept kept (moves s kept).1) after, fun n returned need member =>
    rules.queued _ _ need after ((moves s kept).2 n returned need member)⟩

include rules in
theorem deleteStaged_meets : Meets step (fun _ s => AllKept all s) (fun s => AllKept all s ∧ ∀ need ∈ needs, Queued s need)
    (ExceptT.run (deleteStaged needs)) := by
  rw [deleteStaged]
  by_cases none_ : needs = []
  · rw [if_pos none_]
    exact meets_pure fun s here => here.1
  · rw [if_neg none_]
    exact meets_atomic (fun s here => rules.deletes s needs here.2) fun s here later after =>
      rules.allKept (rules.allKept here.1 (rules.deletes s needs here.2)) after

end

/-- Reservations come and go beside the tasks. -/
theorem tryReserve_tables (s : Backlog) (clock : PyFloat) (provider : String) (amount capacity : Int) (ttlSeconds : PyFloat)
    (draw : String) : (tryReserve s clock provider amount capacity ttlSeconds draw).2.store = s.store ∧
      (tryReserve s clock provider amount capacity ttlSeconds draw).2.origins = s.origins := by
  unfold tryReserve
  repeat' split
  all_goals exact ⟨rfl, rfl⟩

theorem bindLease_tables (s : Backlog) (reservation : CapacityReservation) (leaseId : String) :
    (bindLease s reservation leaseId).2.store = s.store ∧ (bindLease s reservation leaseId).2.origins = s.origins := by
  unfold bindLease
  repeat' split
  all_goals exact ⟨rfl, rfl⟩

theorem release_tables (s : Backlog) (reservation : Option CapacityReservation) :
    (release s reservation).2.store = s.store ∧ (release s reservation).2.origins = s.origins := by
  unfold release
  repeat' split
  all_goals exact ⟨rfl, rfl⟩

theorem availableCapacity_tables (s : Backlog) (clock : PyFloat) (provider : String) (capacity : Int) :
    (availableCapacity s clock provider capacity).2.store = s.store ∧
      (availableCapacity s clock provider capacity).2.origins = s.origins := by
  unfold availableCapacity
  repeat' split
  all_goals exact ⟨rfl, rfl⟩

section
variable {step : Routes → Routes → Prop} (rules : Rules step) {all needs : List EvidenceNeed} (r : EvidenceRouter) (ttlSeconds : PyFloat)

include rules in
theorem tryEnqueueGroup_meets (inside : needs ⊆ all) :
    Meets step (fun _ s => AllKept all s) (AllKept all) (ExceptT.run (r.tryEnqueueGroup needs ttlSeconds)) := by
  unfold EvidenceRouter.tryEnqueueGroup
  cases needs with
  | nil => exact meets_pure fun _ here => here
  | cons first rest =>
    dsimp only
    by_cases mixed : (first :: rest).any (fun need => need.group ≠ first.group)
    · rw [if_pos mixed]
      exact meets_throw fun _ here => here
    rw [if_neg mixed]
    by_cases none_ : r.backlogCapacities first.key.provider = 0
    · rw [if_pos none_]
      exact meets_pure fun _ here => here
    rw [if_neg none_]
    have grouped : ∀ need ∈ first :: rest, need.group = first.group := by
      intro need member
      by_contra other
      exact mixed (List.any_eq_true.mpr ⟨need, member, decide_eq_true other⟩)
    refine meets_bind (quiet_meets rules fun s _ => ?_) (fun reserved => ?_) fun _ _ here => here
    · exact rules.reserves s _ (tryReserve_tables ..).1 (tryReserve_tables ..).2
    cases reserved with
    | none => exact meets_pure fun _ here => here
    | some reservation =>
      refine meets_finally (q := fun _ s => AllKept all s) ?_ fun _ => ?_
      · refine meets_bind (quiet_meets rules fun s _ => ?_) (fun _ => ?_) fun _ _ here => here
        · exact rules.reserves s _ (bindLease_tables ..).1 (bindLease_tables ..).2
        refine meets_bind (enqueue_meets rules reservation first (List.cons_ne_nil first rest) inside grouped) (fun inserted => ?_) ?_
        · refine meets_bind ((deleteStaged_meets rules).narrow fun s here => ⟨here.1, here.2 inserted rfl⟩) (fun _ => ?_) fun _ _ here => here
          exact meets_pure fun _ here => here
        · exact fun _ _ here => here.1
      · refine quiet_meets rules fun s _ => ?_
        exact rules.reserves s _ (release_tables ..).1 (release_tables ..).2

include rules in
theorem enqueueGroups_meets {groups : List (List EvidenceNeed)} (inside : ∀ group ∈ groups, group ⊆ all) :
    Meets step (fun _ s => AllKept all s) (AllKept all) (ExceptT.run (r.enqueueGroups ttlSeconds groups)) := by
  induction groups with
  | nil => exact meets_pure fun _ here => here
  | cons group rest ih =>
    obtain ⟨here, later⟩ := List.forall_mem_cons.mp inside
    refine meets_bind (tryEnqueueGroup_meets rules r ttlSeconds here) (fun _ => ?_) fun _ _ kept => kept
    exact meets_bind (ih later) (fun _ => meets_pure fun _ kept => kept) fun _ _ kept => kept

theorem selectWithin_subset (available required : Nat) (needs : List EvidenceNeed) :
    EvidenceRouter.selectWithin available required needs ⊆ needs := by
  induction needs generalizing required with
  | nil => exact List.Subset.refl _
  | cons need rest ih =>
    rw [EvidenceRouter.selectWithin]
    split
    · exact List.nil_subset _
    · exact List.cons_subset_cons need (ih _)

include rules in
theorem flushGroup_meets (inside : needs ⊆ all) :
    Meets step (fun _ s => AllKept all s) (AllKept all) (ExceptT.run (r.flushGroup ttlSeconds needs)) := by
  unfold EvidenceRouter.flushGroup
  cases needs with
  | nil => exact meets_pure fun _ here => here
  | cons first rest =>
    dsimp only
    by_cases none_ : r.backlogCapacities first.key.provider = 0
    · rw [if_pos none_]
      exact meets_pure fun _ here => here
    rw [if_neg none_]
    refine meets_bind (quiet_meets rules fun s _ => ?_) (fun available => ?_) fun _ _ here => here
    · exact rules.reserves s _ (availableCapacity_tables ..).1 (availableCapacity_tables ..).2
    by_cases full : available = 0
    · rw [if_pos full]
      exact meets_pure fun _ here => here
    rw [if_neg full]
    by_cases nothing : EvidenceRouter.selectWithin available 0 (first :: rest) = []
    · rw [if_pos nothing]
      exact meets_pure fun _ here => here
    rw [if_neg nothing]
    exact tryEnqueueGroup_meets rules r ttlSeconds (List.Subset.trans (selectWithin_subset ..) inside)

include rules in
theorem flushGroups_meets {groups : List (List EvidenceNeed)} (inside : ∀ group ∈ groups, group ⊆ all) :
    Meets step (fun _ s => AllKept all s) (AllKept all) (ExceptT.run (r.flushGroups ttlSeconds groups)) := by
  induction groups with
  | nil => exact meets_pure fun _ here => here
  | cons group rest ih =>
    obtain ⟨here, later⟩ := List.forall_mem_cons.mp inside
    refine meets_bind (flushGroup_meets rules r ttlSeconds here) (fun _ => ?_) fun _ _ kept => kept
    exact meets_bind (ih later) (fun _ => meets_pure fun _ kept => kept) fun _ _ kept => kept

theorem grouped_subset {α : Type} [DecidableEq α] (name : EvidenceNeed → α) (needs : List EvidenceNeed) :
    ∀ group ∈ grouped name needs, group ⊆ needs := by
  intro group member
  obtain ⟨k, -, rfl⟩ := List.mem_map.mp member
  exact List.filter_subset_self needs

include rules in
/-- Promotions keep to the rules, from any state. -/
theorem flushPending_meets (scan : EvidenceNeed → Nat) (maxNeeds : Int) :
    Meets step (fun _ _ => True) (fun _ => True) (ExceptT.run (r.flushPending scan ttlSeconds maxNeeds)) := by
  unfold EvidenceRouter.flushPending
  cases positive ttlSeconds with
  | none => exact meets_throw fun _ _ => trivial
  | some ttl =>
    dsimp only
    by_cases less : maxNeeds < 1
    · rw [if_pos less]
      exact meets_pure fun _ _ => trivial
    rw [if_neg less]
    -- the needs that are read are staged, and stay kept whatever the others do
    refine meets_bind (q := fun result s => ∀ needs, result = .ok needs → AllKept needs s)
      (meets_atomic (fun s _ => rules.refl s) fun s _ later after needs read need member => ?_) (fun needs => ?_) fun _ _ _ => trivial
    · cases read
      obtain ⟨row, chosen, rfl⟩ := List.mem_map.mp member
      have stored := (List.perm_insertionSort _ s.staged.rows).subset (List.mem_of_mem_take chosen)
      exact rules.kept s later row.need after (.inl (by rw [Staged, Table.get?_mem stored]; rfl))
    · refine ((flushGroups_meets rules r ttlSeconds (grouped_subset (·.group) needs)).narrow fun s here => here needs rfl).weaken ?_
      exact fun _ _ _ => trivial

end

/-! ## Staging keeps every need -/

section
variable {needs : List EvidenceNeed}

theorem stage_staged (s : Routes) (now : ℚ≥0) (need : EvidenceNeed) :
    Staged { s with staged := needs.eraseDups.foldl (fun t need => t.insert ⟨need, now⟩) s.staged } need ↔
      Staged s need ∨ need ∈ needs := by
  have inserted := Table.get?_foldl_insert needs.eraseDups (fun need => (⟨need, now⟩ : StagedRow)) s.staged need
  rw [Staged, inserted, Option.isSome_or, Option.isSome_map, Bool.or_eq_true, List.find?_isSome]
  simp only [decide_eq_true_eq, exists_eq_right, List.mem_eraseDups]
  rfl

theorem stage_advances (s : Routes) (now : ℚ≥0) :
    Advances s { s with staged := needs.eraseDups.foldl (fun t need => t.insert ⟨need, now⟩) s.staged } :=
  ⟨fun _ there => there, fun _ _ found => found, fun need staged => .inl ((stage_staged s now need).mpr (.inl staged))⟩

theorem stage_meets :
    Meets Advances (fun _ s => AllKept needs s) (fun _ => True) (ExceptT.run (stage needs)) := by
  rw [stage]
  by_cases none_ : needs = []
  · rw [if_pos none_, none_]
    exact meets_pure fun _ _ => nofun
  · rw [if_neg none_]
    refine meets_atomic (fun s _ => stage_advances s s.clock) fun s _ later after need member => ?_
    exact after.staged need ((stage_staged s s.clock need).mpr (.inr member))

end

/-- The needs that `enqueue_or_stage` makes of its arguments. -/
def EvidenceRouter.routed (r : EvidenceRouter) (keys : List EvidenceQueryKey) (sourceKey reservoirId leaseId : String)
    (preferredProvider : Option String) : Except PyError (List EvidenceNeed) :=
  (r.routeExternal keys preferredProvider).bind fun routed => EvidenceRouter.needsOf routed sourceKey reservoirId leaseId

theorem enqueueOrStage_eq (r : EvidenceRouter) (keys : List EvidenceQueryKey) (sourceKey reservoirId leaseId : String)
    (ttlSeconds : PyFloat) (preferredProvider : Option String) :
    r.enqueueOrStage keys sourceKey reservoirId leaseId ttlSeconds preferredProvider = (do
      let needs ← Call.ofExcept (r.routed keys sourceKey reservoirId leaseId preferredProvider)
      let _staged ← stage needs
      let enqueued ← r.enqueueGroups ttlSeconds (grouped (·.key.provider) needs)
      let staged ← pendingCountForLineage sourceKey reservoirId leaseId
      return ⟨enqueued, staged⟩ : RouteCall EvidenceRouteResult) := by
  unfold EvidenceRouter.enqueueOrStage EvidenceRouter.routed
  cases r.routeExternal keys preferredProvider <;> rfl

/-- A call that returns has accepted all its needs. -/
theorem enqueueOrStage_meets (r : EvidenceRouter) (keys : List EvidenceQueryKey) (sourceKey reservoirId leaseId : String)
    (ttlSeconds : PyFloat) (preferredProvider : Option String) :
    Meets Advances (fun result s => ∀ needs, r.routed keys sourceKey reservoirId leaseId preferredProvider = .ok needs →
      ∀ reply, result = .ok reply → AllKept needs s) (fun _ => True)
      (ExceptT.run (r.enqueueOrStage keys sourceKey reservoirId leaseId ttlSeconds preferredProvider)) := by
  rw [enqueueOrStage_eq]
  refine meets_bind (q := fun result s => r.routed keys sourceKey reservoirId leaseId preferredProvider = result)
    (meets_ofExcept fun _ _ => rfl) (fun needs => ?_) fun _ _ _ _ _ _ => nofun
  have inside : ∀ group ∈ grouped (·.key.provider) needs, group ⊆ needs := grouped_subset (·.key.provider) needs
  have all : Meets Advances (fun _ s => AllKept needs s) (fun _ => True) (ExceptT.run (do
      let _staged ← stage needs
      let enqueued ← r.enqueueGroups ttlSeconds (grouped (·.key.provider) needs)
      let staged ← pendingCountForLineage sourceKey reservoirId leaseId
      return ⟨enqueued, staged⟩ : RouteCall EvidenceRouteResult)) := by
    refine meets_bind stage_meets (fun _ => ?_) fun _ _ kept => kept
    refine meets_bind (enqueueGroups_meets advances_rules r ttlSeconds inside) (fun _ => ?_) fun _ _ kept => kept
    refine meets_bind (quiet_meets advances_rules fun s _ => advances_rules.refl s) (fun _ => ?_) fun _ _ kept => kept
    exact meets_pure fun _ kept => kept
  by_cases made : r.routed keys sourceKey reservoirId leaseId preferredProvider = .ok needs
  · refine (all.narrow fun _ _ => trivial).weaken fun _ s kept needs' same _ _ => ?_
    cases made.symm.trans same
    exact kept
  · exact Meets.never fun _ same => made same

/-! ## Producers, promotions and the work on tasks -/

inductive RouteJob
  | enqueueOrStage (r : EvidenceRouter) (keys : List EvidenceQueryKey) (sourceKey reservoirId leaseId : String) (ttlSeconds : PyFloat)
    (preferredProvider : Option String)
  | flushPending (r : EvidenceRouter) (scan : EvidenceNeed → Nat) (ttlSeconds : PyFloat) (maxNeeds : Int)

inductive RouteReply
  | routed (result : EvidenceRouteResult)
  | promoted (inserted : Nat)

def RouteJob.script : RouteJob → Script Routes (Except PyError RouteReply)
  | .enqueueOrStage r keys sourceKey reservoirId leaseId ttlSeconds preferredProvider =>
    ExceptT.run (.routed <$> r.enqueueOrStage keys sourceKey reservoirId leaseId ttlSeconds preferredProvider)
  | .flushPending r scan ttlSeconds maxNeeds => ExceptT.run (.promoted <$> r.flushPending scan ttlSeconds maxNeeds)

def RouteJob.accepts : RouteJob → List EvidenceNeed
  | .enqueueOrStage r keys sourceKey reservoirId leaseId _ preferredProvider =>
    (r.routed keys sourceKey reservoirId leaseId preferredProvider).toOption.getD []
  | .flushPending .. => []

/-- Processes start calls, go through their transactions one at a time and die; besides, tasks are
    claimed, renewed, finished and added, slots are reserved and released, and time passes. -/
inductive RouteEvent
  | start (process : Nat) (job : RouteJob)
  | advance (process : Nat)
  | crash (process : Nat)
  | queue (e : QueueEvent)
  | admission (capacity : String → Nat) (e : AdmissionEvent)
  | inherit (row : BacklogAdmission.OriginRow)
  | time (clock : ℚ≥0)
  | draw (drawn : String)

def RouteEvent.pooled : RouteEvent → PoolEvent Nat RouteJob Routes
  | .start process job => .start process job
  | .advance process => .advance process
  | .crash process => .crash process
  | .queue e => .other fun s => { s with backlog := { s.backlog with store := (EvidenceQueue.step s.backlog.store e).2 } }
  | .admission capacity e => .other fun s => { s with backlog := (BacklogAdmission.step capacity s.backlog e).2 }
  | .inherit row => .other fun s => { s with backlog := { s.backlog with origins := s.backlog.origins.insert row } }
  | .time clock => .other fun s => { s with clock }
  | .draw drawn => .other fun s => { s with draw := drawn }

/-- Processes over the tables of a control database. -/
def routing (tables : Routes) : Machine (Pool Nat RouteJob Routes (Except PyError RouteReply)) RouteEvent
    (Option (RouteJob × Except PyError RouteReply)) where
  initial := ⟨tables, fun _ => none⟩
  step p e := poolStep RouteJob.script p e.pooled

def tablesAfter (tables : Routes) (es : List RouteEvent) : Routes := ((routing tables).final es).state

/-- A need that is staged, or that a call accepted, is kept from then on; a key has one task; and a
    promotion that dies and runs again makes no change but to promote needs that were staged. -/
structure NeverLost (tables : Routes) (es : List RouteEvent) : Prop where
  kept : ∀ need before after, es = before ++ after → Kept (tablesAfter tables before) need → Kept (tablesAfter tables es) need
  accepted : ∀ need before e after job reply, es = before ++ e :: after →
    ((routing tables).step ((routing tables).final before) e).1 = some (job, .ok reply) → need ∈ job.accepts →
    Kept (tablesAfter tables es) need
  unique : ((tablesAfter tables es).backlog.store.tasks.rows.map (·.key)).Nodup
  again : ∀ (r : EvidenceRouter) scan ttlSeconds maxNeeds n clock drawn,
    Promotes (tablesAfter tables es) ((r.flushPending scan ttlSeconds maxNeeds).perform
      { Script.stopped n (ExceptT.run (r.flushPending scan ttlSeconds maxNeeds)) (tablesAfter tables es) with clock, draw := drawn }).2

/-! ## What the others do -/

section
variable (s : Routes)

theorem advances_backlog (b : Backlog) (tasks : ∀ key, (s.backlog.store.tasks.get? key).isSome → (b.store.tasks.get? key).isSome)
    (origins : ∀ k row, s.backlog.origins.get? k = some row → b.origins.get? k = some row) : Advances s { s with backlog := b } :=
  ⟨tasks, origins, fun _ staged => .inl staged⟩

/-- Work on tasks takes none away. -/
theorem queue_keeps (store : EvidenceTasks.Store) (e : QueueEvent) (key : EvidenceQueryKey) (there : (store.tasks.get? key).isSome) :
    ((EvidenceQueue.step store e).2.tasks.get? key).isSome := by
  obtain ⟨told, -, move⟩ := EvidenceQueue.step_moves store e key store
  generalize after : (EvidenceQueue.step store e).2.tasks.get? key = row? at move ⊢
  generalize EvidenceQueue.touch key _ = touched at move
  cases move with
  | same => exact there
  | entered | claimed | renewed | finished => rfl

theorem origins_insert (row : BacklogAdmission.OriginRow) (b : Backlog) {k : EvidenceQueryKey × String × String × String}
    {old : BacklogAdmission.OriginRow} (found : b.origins.get? k = some old) : (b.origins.insert row).get? k = some old := by
  rw [Table.get?_insert_or, found]
  rfl

theorem withOrigins_keeps (b : Backlog) (keys : List EvidenceQueryKey) (l : BacklogAdmission.Lineage) (now : ℚ)
    {k : EvidenceQueryKey × String × String × String} {old : BacklogAdmission.OriginRow} (found : b.origins.get? k = some old) :
    (BacklogAdmission.withOrigins b keys l now).origins.get? k = some old := by
  unfold BacklogAdmission.withOrigins
  cases l.sourceKey with
  | none => exact found
  | some sourceKey => rw [Table.get?_foldl_insert, found, Option.some_or]

theorem admission_advances (capacity : String → Nat) (e : AdmissionEvent) :
    Advances s { s with backlog := (BacklogAdmission.step capacity s.backlog e).2 } := by
  have moves := BacklogAdmission.step_moves capacity s.backlog e
  generalize (BacklogAdmission.step capacity s.backlog e).2 = after at moves ⊢
  cases moves with
  | same | purged | granted | bound | renewed | released => exact advances_backlog s _ (fun _ there => there) fun _ _ found => found
  | settled key state =>
    refine advances_backlog s _ (fun k there => ?_) fun _ _ found => found
    obtain ⟨row, found⟩ := Option.isSome_iff_exists.mp there
    simp only [settle, Table.get?_update, found, Option.map_some, Option.isSome_some]
  | enqueued reservation keys l n after op answer =>
    generalize outcome : ((.ok n, after) : BacklogAdmission.Reply Nat) = result at answer
    cases answer with
    | refused err => cases outcome
    | nothing none_ =>
      cases outcome
      exact advances_backlog s _ (fun _ there => there) fun _ _ found => found
    | admitted id now row named providers reads found owner live enough =>
      cases outcome
      refine advances_backlog s _ (fun k there => ?_) fun k old found => ?_
      · obtain ⟨row, found⟩ := Option.isSome_iff_exists.mp there
        dsimp only
        rw [enqueued_get?, found]
        rfl
      · exact withOrigins_keeps s.backlog _ l now found

theorem pooled_advances (e : RouteEvent) {write : Routes → Routes} (other : e.pooled = .other write) : Advances s (write s) := by
  cases e with
  | start | advance | crash => cases other
  | queue e =>
    cases other
    exact advances_backlog s _ (queue_keeps s.backlog.store e) fun _ _ found => found
  | admission capacity e =>
    cases other
    exact admission_advances s capacity e
  | inherit row =>
    cases other
    exact advances_backlog s _ (fun _ there => there) fun _ _ found => origins_insert row s.backlog found
  | time | draw =>
    cases other
    exact ⟨fun _ there => there, fun _ _ found => found, fun _ staged => .inl staged⟩

end

/-! ## Never lost -/

theorem job_meets (job : RouteJob) :
    Meets Advances (fun result s => ∀ reply, result = .ok reply → AllKept job.accepts s) (fun _ => True) job.script := by
  cases job with
  | enqueueOrStage r keys sourceKey reservoirId leaseId ttlSeconds preferredProvider =>
    refine Meets.bind (enqueueOrStage_meets r keys sourceKey reservoirId leaseId ttlSeconds preferredProvider) fun result => ?_
    cases result with
    | error err => exact fun _ _ _ returned => nomatch returned
    | ok answer =>
      intro s kept reply _
      cases made : r.routed keys sourceKey reservoirId leaseId preferredProvider with
      | error err =>
        have none_ : RouteJob.accepts (.enqueueOrStage r keys sourceKey reservoirId leaseId ttlSeconds preferredProvider) = [] := by
          rw [RouteJob.accepts, made]
          rfl
        rw [none_]
        exact fun _ inside => absurd inside List.not_mem_nil
      | ok needs =>
        have all : RouteJob.accepts (.enqueueOrStage r keys sourceKey reservoirId leaseId ttlSeconds preferredProvider) = needs := by
          rw [RouteJob.accepts, made]
          rfl
        rw [all]
        exact kept needs made answer rfl
  | flushPending r scan ttlSeconds maxNeeds =>
    refine Meets.bind (flushPending_meets advances_rules r ttlSeconds scan maxNeeds) fun result => ?_
    cases result with
    | error err => exact fun _ _ _ _ _ inside => nomatch inside
    | ok inserted => exact fun _ _ _ _ _ inside => nomatch inside

section
variable (tables : Routes) (es : List RouteEvent)

theorem final_pooled : (routing tables).final es = (pool RouteJob.script tables).final (es.map RouteEvent.pooled) := by
  induction es using List.reverseRecOn with
  | nil => rfl
  | append_singleton es e ih =>
    rw [List.map_append, List.map_singleton, Machine.final_snoc, Machine.final_snoc, ih]
    rfl

theorem pooled_keep : OthersKeep Advances (es.map RouteEvent.pooled) := by
  intro write member s
  obtain ⟨e, -, other⟩ := List.mem_map.mp member
  exact pooled_advances s e other

/-- Later tables of a run are later. -/
theorem routing_keeps (before after : List RouteEvent) : Advances (tablesAfter tables before) (tablesAfter tables (before ++ after)) := by
  have others : OthersKeep Advances (before.map RouteEvent.pooled ++ after.map RouteEvent.pooled) := by
    rw [← List.map_append]
    exact pooled_keep (before ++ after)
  have keeps := pool_keeps tables advances_rules.refl advances_rules.trans job_meets others
  rw [tablesAfter, tablesAfter, final_pooled, final_pooled, List.map_append]
  exact keeps

/-- The needs of a call that returns are kept. -/
theorem routing_answers (before : List RouteEvent) {e : RouteEvent} {job : RouteJob} {reply : RouteReply}
    (ended : ((routing tables).step ((routing tables).final before) e).1 = some (job, .ok reply)) :
    AllKept job.accepts (tablesAfter tables (before ++ [e])) := by
  rw [final_pooled] at ended
  have others : OthersKeep Advances (before.map RouteEvent.pooled ++ [e.pooled]) := by
    rw [← List.map_singleton, ← List.map_append]
    exact pooled_keep (before ++ [e])
  have promised := pool_answers tables advances_rules.refl advances_rules.trans job_meets others ended
  rw [tablesAfter, final_pooled, List.map_append]
  exact promised reply rfl

/-- Needs are never lost by routing: in every interleaving of producers and promotions with the work
    on tasks, and whichever of them die, a need that is staged or was accepted is staged or has its
    task and the origin of its lineage ever after, no key has two tasks, and promoting again after a
    crash only promotes. -/
theorem never_lost : NeverLost tables es where
  kept need before after split_ kept := by
    subst split_
    exact (routing_keeps tables before after).kept kept
  accepted need before e after job reply split_ ended member := by
    subst split_
    have kept := routing_answers tables before ended need member
    rw [List.append_cons]
    exact (routing_keeps tables (before ++ [e]) after).kept kept
  unique := (tablesAfter tables es).backlog.store.tasks.keyed
  again r scan ttlSeconds maxNeeds n clock drawn := by
    have meets := flushPending_meets promotes_rules r ttlSeconds scan maxNeeds
    have interrupted := meets.stopped promotes_rules.refl promotes_rules.trans n (s := tablesAfter tables es) trivial
    have resumed := (meets.run promotes_rules.refl promotes_rules.trans
      (s := { Script.stopped n (ExceptT.run (r.flushPending scan ttlSeconds maxNeeds)) (tablesAfter tables es) with
        clock, draw := drawn }) trivial).1
    exact (interrupted.trans (promotes_later _ clock drawn)).trans resumed

end

/-! ## Promoting again goes on -/

def firstNeed : EvidenceNeed := ⟨⟨"a.example", 1997, 1997, "wayback", "v1", by decide +kernel⟩, "source", "reservoir", "lease", by decide +kernel⟩
def secondNeed : EvidenceNeed := ⟨⟨"b.example", 1997, 1997, "wayback", "v1", by decide +kernel⟩, "source", "reservoir", "lease", by decide +kernel⟩

/-- Two needs wait, with room for both. -/
def waiting : Routes where
  clock := 1
  draw := "0"
  backlog := ⟨⟨.empty, .empty, .empty, false, .empty, .fin 300⟩, .empty, .empty⟩
  staged := (Table.empty.insert ⟨firstNeed, 0⟩).insert ⟨secondNeed, 0⟩

def archive : EvidenceRouter where
  backlogCapacities _ := 10
  genericArchiveProvider := "wayback"
  named := by decide +kernel

/-- A promotion of one need that nothing interrupts. -/
def promotedOnce : Routes := ((archive.flushPending (fun _ => 0) (.fin 60) 1).perform waiting).2

/-- It dies before it releases its slots, and runs again. -/
def promotedAgain : Routes := ((archive.flushPending (fun _ => 0) (.fin 60) 1).perform
  { Script.stopped 6 (ExceptT.run (archive.flushPending (fun _ => 0) (.fin 60) 1)) waiting with draw := "1" }).2

/-- The second run goes on to the need that an uninterrupted run leaves. -/
theorem again_goes_on : (promotedAgain.backlog.store.tasks.get? secondNeed.key).isSome ∧
    promotedOnce.backlog.store.tasks.get? secondNeed.key = none := by
  decide +kernel

end Creeper.EvidenceRouting
