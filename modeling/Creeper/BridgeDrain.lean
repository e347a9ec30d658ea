import Creeper.EvidenceBridge
import Creeper.OldestFirst

/-!
# Draining the bridge

`DistributedEvidenceBridge.drain` renews its leases, releases the tasks of dead work and reads
the oldest unconsumed batches of all producers. Batches of other producers are passed over but
count against the limit, so enough of them hide the batches of the bridge.
-/

namespace Creeper.BridgeDrain
open Creeper.OldestFirst Creeper.Tables Creeper.PyNumbers Creeper.Transactions Creeper.EvidenceTasks Creeper.ResultCommit
open Creeper.EvidenceBridge
open Creeper.EvidenceQueue (ownedBy finishedRow)
open Creeper.FabricModels (PyError)
open Creeper.AuthorityStore (BatchRow WorkRow)

abbrev Dispatch := Table MappingRow (EvidenceQueryKey × Nat) fun r => (r.key, r.attempt)

/-! ## The calls of a drain -/

/-- The order of `unconsumed_batches`; a task has one batch for each sequence number. -/
def batchOrder (batch : BatchRow) : ℚ ×ₗ String ×ₗ Nat := toLex (batch.committedAt, toLex (batch.taskId, batch.sequenceNo))

def unconsumed (s : AuthorityStore.Store) : List BatchRow := s.resultBatches.rows.filter fun b => b.consumedAt.isNone && !b.quarantined

/-- `unconsumed_batches`. -/
def unconsumedBatches (limit : Int) : BridgeCall (List BatchRow) :=
  if limit < 1 then throw (.raised (.valueError "limit must be positive"))
  else .atomic fun w => (.ok (oldestFirst batchOrder (unconsumed w.fabric) limit.toNat), w)

/-- The ACTIVE rows of the dispatch table; `scan` is the order in which SQLite meets rows of one time. -/
def activeMappings (scan : MappingRow → Nat) : BridgeCall (List MappingRow) :=
  .atomic fun w => (.ok ((w.dispatch.rows.filter (·.state = .active)).insertionSort fun a b =>
    toLex (a.dispatchedAt, scan a) ≤ toLex (b.dispatchedAt, scan b)), w)

/-- `EvidenceBridgeReport`, with the renewals of a drain. -/
structure DrainReport extends EvidenceBridgeReport where
  renewed : Nat

/-- The sum of two reports. -/
def addReports (r s : EvidenceBridgeReport) : EvidenceBridgeReport where
  committed := r.committed + s.committed
  terminal := r.terminal + s.terminal
  retryable := r.retryable + s.retryable
  insertedCapsules := r.insertedCapsules + s.insertedCapsules
  stale := r.stale + s.stale
  failed := r.failed + s.failed
  quarantined := r.quarantined + s.quarantined

section
variable (b : Bridge)

/-- The keys that `renew_active` renews; a mapping whose task is no longer the bridge's goes stale. -/
def keepCurrent : List MappingRow → BridgeCall (List EvidenceQueryKey)
  | [] => pure []
  | mapping :: rest => do
    match (← currentTask mapping.key).filter (b.current mapping) with
    | none =>
      mappingState mapping.fabricTaskId .stale
      keepCurrent rest
    | some _ =>
      let keys ← keepCurrent rest
      return mapping.key :: keys

/-- The task is still leased to the bridge. -/
def holds (task : Option EvidenceTask) : Bool := task.any (·.leaseOwner = some b.owner)

/-- The keys whose lease did not renew. -/
def dropLost : List EvidenceQueryKey → BridgeCall Unit
  | [] => pure ()
  | key :: rest => do
    let task ← currentTask key
    if holds b task then dropLost rest
    else
      let row ← (.atomic fun w => (.ok (w.dispatch.rows.find? fun m =>
        m.key = key && task.any (·.attempt = m.attempt) && m.state = .active), w) : BridgeCall (Option MappingRow))
      match row with
      | none => dropLost rest
      | some mapping =>
        mappingState mapping.fabricTaskId .stale
        dropLost rest

/-- `renew_active`. -/
def renewActive (scan : MappingRow → Nat) : BridgeCall Nat := do
  let rows ← activeMappings scan
  let keys ← keepCurrent b rows
  if keys = [] then return 0
  else
    let renewed ← onDatabases (onQueue fun clock queue => EvidenceQueue.renew queue clock keys b.owner b.leaseSeconds)
    if renewed = keys.length then return renewed
    else
      dropLost b keys
      return renewed

/-- The loop of `reconcile_failed_work`. -/
def releaseDead : List MappingRow → BridgeCall Nat
  | [] => pure 0
  | mapping :: rest => do
    match ← workRow mapping.fabricTaskId with
    | none => releaseDead rest
    | some work =>
      if work.state ≠ .dead then releaseDead rest
      else
        b.releaseDeadMapping mapping
        let changed ← releaseDead rest
        return changed + 1

/-- `reconcile_failed_work`. -/
def reconcileFailedWork (scan : MappingRow → Nat) : BridgeCall Nat := do
  let rows ← activeMappings scan
  releaseDead b rows

/-- The loop over batches. -/
def drainAll : List BatchRow → BridgeCall EvidenceBridgeReport
  | [] => pure {}
  | batch :: rest => do
    let report ← b.drainBatch batch
    let more ← drainAll rest
    return addReports report more

/-- `drain`. -/
def drain (scan : MappingRow → Nat) (limit : Int) : BridgeCall DrainReport := do
  let renewed ← renewActive b scan
  let _changed ← reconcileFailedWork b scan
  let batches ← unconsumedBatches limit
  let report ← drainAll b batches
  return { report with renewed }

end

/-! ## Which batches are the bridge's -/

def mappingOf (w : World) (taskId : String) : Option MappingRow := w.dispatch.rows.find? (·.fabricTaskId = taskId)

def claimedFor (b : Bridge) (w : World) (mapping : MappingRow) : Bool :=
  mapping.state = .active && (w.queue.tasks.get? mapping.key).any fun row => b.current mapping (taskOf row)

/-- The batch was made by an `EvidenceQueryProducer`. -/
def evidenceBatch (w : World) (batch : BatchRow) : Bool := (w.fabric.work.get? batch.taskId).any (·.fields.producer = producerName)

/-- A batch of an `EvidenceQueryProducer` with an ACTIVE mapping that the bridge owns. -/
def owned (b : Bridge) (w : World) (batch : BatchRow) : Bool := evidenceBatch w batch && (mappingOf w batch.taskId).any (claimedFor b w)

/-- The batch was consumed, or a failure of it was counted. -/
def Processed (w : World) (batch : BatchRow) : Prop :=
  ∃ row, w.fabric.resultBatches.get? batch.batchId = some row ∧ (row.consumedAt.isSome ∨ batch.consumeAttempts < row.consumeAttempts)

/-! ## What the upkeep does -/

/-- Mappings may go from ACTIVE to another state. -/
structure Stales (d d' : Dispatch) : Prop where
  active : ∀ row ∈ d'.rows, row.state = .active → row ∈ d.rows
  found : ∀ id row', d'.rows.find? (·.fabricTaskId = id) = some row' → ∃ row, d.rows.find? (·.fabricTaskId = id) = some row ∧
    row'.key = row.key ∧ row'.attempt = row.attempt ∧ (row'.state = .active → row.state = .active)
  there : ∀ id, (d.rows.find? (·.fabricTaskId = id)).isSome → (d'.rows.find? (·.fabricTaskId = id)).isSome

theorem Stales.refl (d : Dispatch) : Stales d d :=
  ⟨fun _ member _ => member, fun _ row found => ⟨row, found, rfl, rfl, id⟩, fun _ some_ => some_⟩

theorem Stales.trans {d d' d'' : Dispatch} (first : Stales d d') (second : Stales d' d'') : Stales d d'' where
  active row member active := first.active row (second.active row member active) active
  found id row'' found := by
    obtain ⟨row', found', key', attempt', state'⟩ := second.found id row'' found
    obtain ⟨row, found, key, attempt, state⟩ := first.found id row' found'
    exact ⟨row, found, key'.trans key, attempt'.trans attempt, fun active => state (state' active)⟩
  there id some_ := second.there id (first.there id some_)

theorem stales_update (d : Dispatch) (fabricTaskId : String) {state : MappingState} (other : state ≠ .active) :
    Stales d (d.update (·.fabricTaskId = fabricTaskId) ({ · with state })) := by
  have read (id : String) : (d.update (·.fabricTaskId = fabricTaskId) ({ · with state })).rows.find? (·.fabricTaskId = id) =
      (d.rows.find? (·.fabricTaskId = id)).map fun r => if r.fabricTaskId = fabricTaskId then { r with state } else r := by
    rw [Table.rows_update, List.find?_map]
    simp only [decide_eq_true_eq]
    congr 2
    funext r
    simp only [Function.comp_apply]
    split <;> rfl
  refine ⟨fun row member active => ?_, fun id row' found => ?_, fun id some_ => ?_⟩
  · rw [Table.rows_update] at member
    obtain ⟨old, stored, rfl⟩ := List.mem_map.mp member
    by_cases hit : old.fabricTaskId = fabricTaskId
    · rw [if_pos (decide_eq_true hit)] at active
      exact absurd active other
    · rw [if_neg (by simpa using hit)]
      exact stored
  · rw [read] at found
    obtain ⟨old, stored, rfl⟩ := Option.map_eq_some_iff.mp found
    refine ⟨old, stored, ?_⟩
    split
    · exact ⟨rfl, rfl, fun active => absurd active other⟩
    · exact ⟨rfl, rfl, fun active => active⟩
  · rw [read, Option.isSome_map]
    exact some_

/-- No work is new, and no task or mapping is the bridge's that was not before. -/
structure Upkept (b : Bridge) (w w' : World) : Prop where
  work : w'.fabric.work = w.fabric.work
  clock : w'.clock = w.clock
  dispatch : Stales w.dispatch w'.dispatch
  tasks : ∀ key row', w'.queue.tasks.get? key = some row' → row'.leaseOwner = some b.owner →
    ∃ row, w.queue.tasks.get? key = some row ∧ row.leaseOwner = some b.owner ∧ row.attempt = row'.attempt

section
variable {b : Bridge} {w w' w'' : World} {batch : BatchRow}

theorem Upkept.refl (b : Bridge) (w : World) : Upkept b w w :=
  ⟨rfl, rfl, .refl _, fun _ row found mine => ⟨row, found, mine, rfl⟩⟩

theorem Upkept.trans (first : Upkept b w w') (second : Upkept b w' w'') : Upkept b w w'' where
  work := second.work.trans first.work
  clock := second.clock.trans first.clock
  dispatch := first.dispatch.trans second.dispatch
  tasks key row'' found mine := by
    obtain ⟨row', found', mine', attempt'⟩ := second.tasks key row'' found mine
    obtain ⟨row, found, mine, attempt⟩ := first.tasks key row' found' mine'
    exact ⟨row, found, mine, attempt.trans attempt'⟩

theorem upkept_dispatch {d : Dispatch} (stales : Stales w.dispatch d) : Upkept b w { w with dispatch := d } :=
  ⟨rfl, rfl, stales, fun _ row found mine => ⟨row, found, mine, rfl⟩⟩

theorem current_iff {mapping : MappingRow} {row : TaskRow} :
    b.current mapping (taskOf row) = true ↔ row.attempt = mapping.attempt ∧ row.leaseOwner = some b.owner := by
  rw [Bridge.current, Bool.and_eq_true, decide_eq_true_eq, decide_eq_true_eq]
  exact Iff.rfl

theorem Upkept.claimed (upkept : Upkept b w w') {mapping mapping' : MappingRow} (key : mapping'.key = mapping.key)
    (attempt : mapping'.attempt = mapping.attempt) (state : mapping'.state = .active → mapping.state = .active)
    (claimed : claimedFor b w' mapping' = true) : claimedFor b w mapping = true := by
  simp only [claimedFor, Bool.and_eq_true, decide_eq_true_eq, Option.any_eq_true] at claimed ⊢
  obtain ⟨active, row', found, current⟩ := claimed
  obtain ⟨same, mine⟩ := current_iff.mp current
  obtain ⟨row, stored, mine', attempt'⟩ := upkept.tasks _ row' found mine
  refine ⟨state active, row, key ▸ stored, current_iff.mpr ⟨?_, mine'⟩⟩
  rw [attempt', same, attempt]

theorem Upkept.evidence (upkept : Upkept b w w') : evidenceBatch w' batch = evidenceBatch w batch := by
  rw [evidenceBatch, evidenceBatch, upkept.work]

/-- The bridge owns no batch that it did not own before. -/
theorem Upkept.owned (upkept : Upkept b w w') (own : owned b w' batch = true) : owned b w batch = true := by
  unfold BridgeDrain.owned at own ⊢
  rw [upkept.evidence, Bool.and_eq_true, Option.any_eq_true] at own
  obtain ⟨evidence, mapping', found', claimed⟩ := own
  obtain ⟨mapping, found, key, attempt, state⟩ := upkept.dispatch.found batch.taskId mapping' found'
  rw [evidence, show mappingOf w batch.taskId = some mapping from found, Option.any_some, Bool.true_and]
  exact upkept.claimed key attempt state claimed

/-! ## Renewal -/

theorem keepCurrent_upkept (mappings : List MappingRow) (w : World) : ∃ d, Stales w.dispatch d ∧
    (keepCurrent b mappings).perform w =
      (.ok ((mappings.filter fun m => (w.queue.tasks.get? m.key).any fun row => b.current m (taskOf row)).map (·.key)), { w with dispatch := d }) := by
  induction mappings generalizing w with
  | nil => exact ⟨w.dispatch, .refl _, rfl⟩
  | cons mapping rest ih =>
    unfold keepCurrent
    rw [Call.perform_bind_ok (perform_currentTask _ w)]
    cases found : w.queue.tasks.get? mapping.key with
    | none =>
      obtain ⟨d, stales, done⟩ := ih { w with dispatch := w.dispatch.update (·.fabricTaskId = mapping.fabricTaskId) ({ · with state := .stale }) }
      refine ⟨d, (stales_update w.dispatch mapping.fabricTaskId (by decide)).trans stales, ?_⟩
      rw [Option.map_none, Option.filter_none, List.filter_cons_of_neg (by simp [found])]
      dsimp only
      rw [Call.perform_bind_ok (perform_mappingState _ _ w), done]
    | some row =>
      by_cases current : b.current mapping (taskOf row) = true
      · obtain ⟨d, stales, done⟩ := ih w
        refine ⟨d, stales, ?_⟩
        rw [Option.map_some, show Option.filter (b.current mapping) (some (taskOf row)) = some (taskOf row) by simp [Option.filter, current],
          List.filter_cons_of_pos (by simp [found, current])]
        dsimp only
        rw [Call.perform_bind_ok done]
        rfl
      · obtain ⟨d, stales, done⟩ := ih { w with dispatch := w.dispatch.update (·.fabricTaskId = mapping.fabricTaskId) ({ · with state := .stale }) }
        refine ⟨d, (stales_update w.dispatch mapping.fabricTaskId (by decide)).trans stales, ?_⟩
        rw [Option.map_some, show Option.filter (b.current mapping) (some (taskOf row)) = none by simp [Option.filter, current],
          List.filter_cons_of_neg (by simp [found, current])]
        dsimp only
        rw [Call.perform_bind_ok (perform_mappingState _ _ w), done]

theorem dropLost_upkept (keys : List EvidenceQueryKey) (w : World) : ∃ d, Stales w.dispatch d ∧
    (dropLost b keys).perform w = (.ok (), { w with dispatch := d }) := by
  induction keys generalizing w with
  | nil => exact ⟨w.dispatch, .refl _, rfl⟩
  | cons key rest ih =>
    unfold dropLost
    rw [Call.perform_bind_ok (perform_currentTask _ w)]
    by_cases held : holds b ((w.queue.tasks.get? key).map taskOf) = true
    · rw [if_pos held]
      exact ih w
    rw [if_neg held, Call.perform_bind, Call.perform_atomic]
    dsimp only
    cases w.dispatch.rows.find? (fun m => m.key = key && ((w.queue.tasks.get? key).map taskOf).any (·.attempt = m.attempt) && m.state = .active) with
    | none => exact ih w
    | some mapping =>
      obtain ⟨d, stales, done⟩ := ih { w with dispatch := w.dispatch.update (·.fabricTaskId = mapping.fabricTaskId) ({ · with state := .stale }) }
      refine ⟨d, (stales_update w.dispatch mapping.fabricTaskId (by decide)).trans stales, ?_⟩
      dsimp only
      rw [Call.perform_bind_ok (perform_mappingState _ _ w), done]

/-- The leases of the tasks behind the ACTIVE mappings run. -/
def Live (b : Bridge) (w : World) : Prop :=
  ∀ mapping ∈ w.dispatch.rows, mapping.state = .active → ∀ row, w.queue.tasks.get? mapping.key = some row →
    b.current mapping (taskOf row) = true → ownedBy b.owner w.clock row = true

/-- A bridge whose leases last for a time, and whose retries have a deadline. -/
structure Configured (b : Bridge) : Prop where
  leases : ∃ seconds, finiteReading b.leaseSeconds = some seconds ∧ 0 < seconds
  retries : ∀ now attempt, ∃ deadline, b.retryAt now attempt = .ok deadline ∧ (finiteReading deadline).isSome

theorem renew_granted (configured : Configured b) {keys : List EvidenceQueryKey} (some_ : keys ≠ []) (clock : ℚ≥0) (s : EvidenceTasks.Store) :
    ∃ seconds tasks, 0 < seconds ∧ (∀ k, tasks.get? k = (s.tasks.get? k).map fun r =>
        if k ∈ keys.eraseDups ∧ r.leaseOwner = some b.owner then { r with leaseUntil := some ((clock : ℚ) + seconds) } else r) ∧
      ∃ renewed, EvidenceQueue.renew s (.fin clock) keys b.owner b.leaseSeconds = (.ok renewed, { s with tasks := tasks }) := by
  obtain ⟨seconds, reads, positive⟩ := configured.leases
  have asked : keys.eraseDups ≠ [] := by
    obtain ⟨key, member⟩ := List.exists_mem_of_ne_nil keys some_
    exact List.ne_nil_of_mem (List.mem_eraseDups.mpr member)
  rcases cases_ : EvidenceQueue.renew s (.fin clock) keys b.owner b.leaseSeconds with ⟨answer, s'⟩
  have answers := EvidenceQueue.renew_cases s clock keys b.owner b.leaseSeconds
  rw [cases_] at answers
  cases answers with
  | refused err =>
    unfold EvidenceQueue.renew at cases_
    rw [if_neg (by simp [b.named]), reads, Option.filter_some, if_pos (decide_eq_true positive)] at cases_
    simp only [if_neg asked, ResultCommit.reads, Prod.mk.injEq] at cases_
    cases cases_.1
  | idle none_ => exact absurd none_ asked
  | granted seconds' reads' tasks after =>
    cases reads.symm.trans reads'
    exact ⟨seconds, tasks, positive, after, _, rfl⟩

/-- After `renew_active` the bridge holds no more than before, and its leases run. -/
theorem renewActive_live (configured : Configured b) (scan : MappingRow → Nat) (w : World) :
    ∃ renewed w', (renewActive b scan).perform w = (.ok renewed, w') ∧ w'.fabric = w.fabric ∧ Upkept b w w' ∧ Live b w' := by
  unfold renewActive
  rw [activeMappings, Call.perform_bind, Call.perform_atomic]
  dsimp only
  have listed (mapping : MappingRow) : mapping ∈ (w.dispatch.rows.filter (·.state = .active)).insertionSort (fun a b =>
      toLex (a.dispatchedAt, scan a) ≤ toLex (b.dispatchedAt, scan b)) ↔ mapping ∈ w.dispatch.rows ∧ mapping.state = .active := by
    rw [(List.perm_insertionSort _ _).mem_iff, List.mem_filter, decide_eq_true_eq]
  generalize (w.dispatch.rows.filter (·.state = .active)).insertionSort (fun a b =>
      toLex (a.dispatchedAt, scan a) ≤ toLex (b.dispatchedAt, scan b)) = rows at listed ⊢
  obtain ⟨d, stales, kept⟩ := keepCurrent_upkept (b := b) rows w
  rw [Call.perform_bind_ok kept]
  have asked {mapping : MappingRow} (stored : mapping ∈ d.rows) (active : mapping.state = .active) {row : TaskRow}
      (found : w.queue.tasks.get? mapping.key = some row) (current : b.current mapping (taskOf row) = true) :
      mapping.key ∈ (rows.filter fun m => (w.queue.tasks.get? m.key).any fun row => b.current m (taskOf row)).map (·.key) := by
    refine List.mem_map_of_mem (List.mem_filter.mpr ⟨(listed mapping).mpr ⟨stales.active mapping stored active, active⟩, ?_⟩)
    rw [found, Option.any_some, current]
  generalize (rows.filter fun m => (w.queue.tasks.get? m.key).any fun row => b.current m (taskOf row)).map (·.key) = keys at asked ⊢
  by_cases none_ : keys = []
  · rw [if_pos none_]
    refine ⟨0, _, rfl, rfl, upkept_dispatch stales, fun mapping stored active row found current => ?_⟩
    have member := asked stored active found current
    rw [none_] at member
    cases member
  rw [if_neg none_]
  obtain ⟨seconds, tasks, positive, after, renewed, granted⟩ := renew_granted configured none_ w.clock w.queue
  have asks : (onDatabases (onQueue fun clock queue => EvidenceQueue.renew queue clock keys b.owner b.leaseSeconds)).perform
      { w with dispatch := d } = (.ok renewed, { w with dispatch := d, queue := { w.queue with tasks := tasks } }) := by
    rw [perform_onDatabases, perform_onQueue]
    dsimp only
    rw [granted]
    rfl
  rw [Call.perform_bind_ok asks]
  -- the rows that are the bridge's are the old ones with a new lease
  have renewedRow {key : EvidenceQueryKey} {row' : TaskRow} (found : tasks.get? key = some row') (mine : row'.leaseOwner = some b.owner) :
      ∃ row, w.queue.tasks.get? key = some row ∧ row.leaseOwner = some b.owner ∧ row.attempt = row'.attempt ∧
        (key ∈ keys → row'.leaseUntil = some ((w.clock : ℚ) + seconds)) := by
    rw [after] at found
    obtain ⟨row, stored, rfl⟩ := Option.map_eq_some_iff.mp found
    refine ⟨row, stored, ?_⟩
    by_cases hit : key ∈ keys.eraseDups ∧ row.leaseOwner = some b.owner
    · rw [if_pos hit]
      exact ⟨hit.2, rfl, fun _ => rfl⟩
    · rw [if_neg hit] at mine ⊢
      exact ⟨mine, rfl, fun member => absurd ⟨List.mem_eraseDups.mpr member, mine⟩ hit⟩
  have upkept {d' : Dispatch} (further : Stales d d') : Upkept b w { w with dispatch := d', queue := { w.queue with tasks := tasks } } := by
    refine ⟨rfl, rfl, stales.trans further, fun key row' found mine => ?_⟩
    obtain ⟨row, stored, mine', attempt, -⟩ := renewedRow found mine
    exact ⟨row, stored, mine', attempt⟩
  have live {d' : Dispatch} (further : Stales d d') : Live b { w with dispatch := d', queue := { w.queue with tasks := tasks } } := by
    intro mapping stored active row' found current
    obtain ⟨attempt, mine⟩ := current_iff.mp current
    obtain ⟨row, old, mine', attempt', until_⟩ := renewedRow found mine
    have member := asked (further.active mapping stored active) active old (current_iff.mpr ⟨attempt'.trans attempt, mine'⟩)
    unfold ownedBy
    rw [mine, until_ member]
    simpa using positive
  by_cases all : renewed = keys.length
  · rw [if_pos all]
    exact ⟨renewed, _, rfl, rfl, upkept (.refl d), live (.refl d)⟩
  · obtain ⟨d', further, dropped⟩ := dropLost_upkept (b := b) keys { w with dispatch := d, queue := { w.queue with tasks := tasks } }
    rw [if_neg all, Call.perform_bind_ok dropped]
    exact ⟨renewed, _, rfl, rfl, upkept further, live further⟩

/-! ## The tasks of dead work -/

/-- A task is finished, or stays as it was. -/
structure Released (b : Bridge) (w w' : World) : Prop where
  fabric : w'.fabric = w.fabric
  clock : w'.clock = w.clock
  dispatch : Stales w.dispatch w'.dispatch
  tasks : ∀ key row, w'.queue.tasks.get? key = some row → row.leaseOwner = some b.owner → w.queue.tasks.get? key = some row

theorem Released.refl (b : Bridge) (w : World) : Released b w w := ⟨rfl, rfl, .refl _, fun _ _ found _ => found⟩

theorem Released.trans (first : Released b w w') (second : Released b w' w'') : Released b w w'' :=
  ⟨second.fabric.trans first.fabric, second.clock.trans first.clock, first.dispatch.trans second.dispatch,
    fun key row found mine => first.tasks key row (second.tasks key row found mine) mine⟩

theorem Released.upkept (released : Released b w w') : Upkept b w w' :=
  ⟨congrArg _ released.fabric, released.clock, released.dispatch, fun key row found mine => ⟨row, released.tasks key row found mine, mine, rfl⟩⟩

theorem releaseDeadMapping_released (configured : Configured b) (mapping : MappingRow)
    (live : ∀ row, w.queue.tasks.get? mapping.key = some row → b.current mapping (taskOf row) = true → ownedBy b.owner w.clock row = true) :
    ∃ w', (b.releaseDeadMapping mapping).perform w = (.ok (), w') ∧ Released b w w' := by
  unfold Bridge.releaseDeadMapping
  rw [Call.perform_bind_ok (perform_currentTask _ w)]
  have fails (w : World) : Released b w { w with dispatch := w.dispatch.update (·.fabricTaskId = mapping.fabricTaskId) ({ · with state := .failed }) } :=
    ⟨rfl, rfl, stales_update w.dispatch mapping.fabricTaskId (by decide), fun _ _ found _ => found⟩
  cases kept : Option.filter (b.current mapping) ((w.queue.tasks.get? mapping.key).map taskOf) with
  | none => exact ⟨_, perform_mappingState _ _ w, fails w⟩
  | some task =>
    obtain ⟨there, current⟩ := Option.filter_eq_some_iff.mp kept
    obtain ⟨row, found, rfl⟩ := Option.map_eq_some_iff.mp there
    have owned := live row found current
    have stored : (terminalStates ++ retryableStates).contains QueryState.transientError := by decide
    have isDated : dated w.toDatabases b.toCommitter (taskOf row).attempt = true := by
      obtain ⟨deadline, answer, finite⟩ := configured.retries w.clock (taskOf row).attempt
      rw [dated, answer]
      exact finite
    have isLive : ResultCommit.live w.toDatabases b.owner mapping.key = true := by
      rw [ResultCommit.live, found]
      exact owned
    rcases retry_cases w.toDatabases b.toCommitter mapping.key (taskOf row) stored with ⟨-, -, t, done⟩ | ⟨refused, -⟩
    · have finished : Released b w (World.put (w.toDatabases.finished b.owner mapping.key .transientError t) w) := by
        refine ⟨rfl, rfl, .refl _, fun key row' found' mine => ?_⟩
        change (w.queue.tasks.update (fun r => r.key = mapping.key && ownedBy b.owner w.clock r) (finishedRow .transientError t)).get? key =
          some row' at found'
        rw [Table.get?_update] at found'
        obtain ⟨old, before, rfl⟩ := Option.map_eq_some_iff.mp found'
        split at mine
        · cases mine
        · rename_i untouched
          rw [if_neg untouched]
          exact before
      dsimp only
      rw [Call.perform_bind_ok (by rw [perform_onDatabases, done]; rfl), perform_mappingState]
      exact ⟨_, rfl, finished.trans (fails _)⟩
    · exact absurd ⟨isDated, isLive⟩ refused

theorem releaseDead_released (configured : Configured b) (mappings : List MappingRow) (live : Live b w)
    (stored : ∀ mapping ∈ mappings, mapping ∈ w.dispatch.rows ∧ mapping.state = .active) :
    ∃ changed w', (releaseDead b mappings).perform w = (.ok changed, w') ∧ Released b w w' := by
  -- an earlier mapping is FAILED by now, but its lease is gone or still runs
  have run (base : World) (live : Live b base) : ∀ mappings w, Released b base w →
      (∀ mapping ∈ mappings, mapping ∈ base.dispatch.rows ∧ mapping.state = .active) →
      ∃ changed w', (releaseDead b mappings).perform w = (.ok changed, w') ∧ Released b base w' := by
    intro mappings
    induction mappings with
    | nil => exact fun w released _ => ⟨0, w, rfl, released⟩
    | cons mapping rest ih =>
      intro w released stored
      have later := fun m member => stored m (List.mem_cons_of_mem mapping member)
      have read : (workRow mapping.fabricTaskId).perform w = (.ok (w.fabric.work.get? mapping.fabricTaskId), w) := rfl
      unfold releaseDead
      rw [Call.perform_bind_ok read]
      cases w.fabric.work.get? mapping.fabricTaskId with
      | none => exact ih w released later
      | some work =>
        dsimp only
        by_cases alive : work.state ≠ .dead
        · rw [if_pos alive]
          exact ih w released later
        obtain ⟨there, active⟩ := stored mapping List.mem_cons_self
        obtain ⟨w₁, done, more⟩ := releaseDeadMapping_released (w := w) configured mapping fun row found current => by
          rw [released.clock]
          exact live mapping there active row (released.tasks _ row found (current_iff.mp current).2) current
        obtain ⟨changed, w', rest', all⟩ := ih w₁ (released.trans more) later
        rw [if_neg alive, Call.perform_bind_ok done, Call.perform_bind_ok rest']
        exact ⟨changed + 1, w', rfl, all⟩
  exact run w live mappings w (.refl b w) stored

theorem reconcile_released (configured : Configured b) (scan : MappingRow → Nat) (live : Live b w) :
    ∃ changed w', (reconcileFailedWork b scan).perform w = (.ok changed, w') ∧ Released b w w' := by
  unfold reconcileFailedWork
  rw [activeMappings, Call.perform_bind, Call.perform_atomic]
  refine releaseDead_released configured _ live fun mapping member => ?_
  rw [(List.perm_insertionSort _ _).mem_iff, List.mem_filter, decide_eq_true_eq] at member
  exact member

/-! ## What a turn touches -/

/-- The call leaves the work and the batches of other names as they were. -/
def Touches {α : Type} (batchId : String) (call : BridgeCall α) : Prop :=
  ∀ w, (call.perform w).2.fabric.work = w.fabric.work ∧
    ∀ id ≠ batchId, (call.perform w).2.fabric.resultBatches.get? id = w.fabric.resultBatches.get? id

section
variable {α β : Type} {batchId : String}

theorem touches_idle {call : BridgeCall α} (idle : ∀ w, (call.perform w).2.fabric = w.fabric) : Touches batchId call :=
  fun w => ⟨congrArg _ (idle w), fun _ _ => by rw [idle w]⟩

theorem touches_bind {call : BridgeCall α} {next : α → BridgeCall β} (first : Touches batchId call) (then_ : ∀ answer, Touches batchId (next answer)) :
    Touches batchId (call >>= next) := by
  intro w
  obtain ⟨work, rows⟩ := first w
  rw [Call.perform_bind]
  rcases result : call.perform w with ⟨err | answer, w'⟩
  · rw [result] at work rows
    exact ⟨work, rows⟩
  · rw [result] at work rows
    obtain ⟨work', rows'⟩ := then_ answer w'
    exact ⟨work'.trans work, fun id other => (rows' id other).trans (rows id other)⟩

theorem touches_tryCatch {call : BridgeCall α} {handler : BridgeError → BridgeCall α} (first : Touches batchId call)
    (then_ : ∀ err, Touches batchId (handler err)) : Touches batchId (tryCatch call handler) := by
  intro w
  obtain ⟨work, rows⟩ := first w
  rw [Call.perform_tryCatch]
  rcases result : call.perform w with ⟨err | answer, w'⟩
  · rw [result] at work rows
    obtain ⟨work', rows'⟩ := then_ err w'
    exact ⟨work'.trans work, fun id other => (rows' id other).trans (rows id other)⟩
  · rw [result] at work rows
    exact ⟨work, rows⟩

theorem touches_pure (answer : α) : Touches batchId (pure answer : BridgeCall α) := touches_idle fun _ => rfl

theorem touches_throw (err : BridgeError) : Touches batchId (throw err : BridgeCall α) := touches_idle fun _ => rfl

theorem touches_onDatabases (call : CommitCall α) : Touches batchId (onDatabases call) :=
  touches_idle fun w => by rw [perform_onDatabases]; rfl

theorem touches_mappingState (fabricTaskId : String) (state : MappingState) : Touches batchId (mappingState fabricTaskId state) :=
  touches_idle fun _ => rfl

theorem touches_currentTask (key : EvidenceQueryKey) : Touches batchId (currentTask key) := touches_idle fun _ => rfl

end

theorem get?_update_other (rows : Table BatchRow String (·.batchId)) (batchId : String) (set : BatchRow → BatchRow)
    (keeps : ∀ r, (set r).batchId = r.batchId) {id : String} (other : id ≠ batchId) :
    (rows.update (·.batchId = batchId) set keeps).get? id = rows.get? id :=
  (Table.get?_update_key rows batchId set keeps id).trans (if_neg other)

theorem touches_markConsumed (batchId : String) : Touches batchId (markConsumed batchId) :=
  fun w => ⟨rfl, fun _ other => get?_update_other w.fabric.resultBatches batchId
    (fun b => { b with consumedAt := some (b.consumedAt.getD w.clock) }) (fun _ => rfl) other⟩

theorem perform_markConsumeFailed (batchId error : String) (w : World) : (markConsumeFailed batchId error).perform w =
    ((AuthorityStore.markBatchConsumeFailed w.fabric batchId error 20).1.mapError .raised,
      { w with fabric := (AuthorityStore.markBatchConsumeFailed w.fabric batchId error 20).2 }) := rfl

theorem touches_markConsumeFailed (batchId error : String) : Touches batchId (markConsumeFailed batchId error) := by
  intro w
  rw [perform_markConsumeFailed]
  unfold AuthorityStore.markBatchConsumeFailed
  rw [if_neg (by decide)]
  split
  · exact ⟨rfl, fun _ _ => rfl⟩
  · split
    · exact ⟨rfl, fun _ _ => rfl⟩
    · exact ⟨rfl, fun _ other => get?_update_other w.fabric.resultBatches batchId _ (by exact fun _ => rfl) other⟩

theorem releaseDead_fabric (b : Bridge) (mapping : MappingRow) (w : World) :
    ((b.releaseDeadMapping mapping).perform w).2.fabric = w.fabric := by
  unfold Bridge.releaseDeadMapping
  rw [Call.perform_bind_ok (perform_currentTask _ w)]
  cases Option.filter (b.current mapping) ((w.queue.tasks.get? mapping.key).map taskOf) with
  | none => rfl
  | some task =>
    dsimp only
    rw [Call.perform_bind, perform_onDatabases]
    rcases ((b.retry task mapping.key .transientError).perform w.toDatabases).1 with err | answer <;> rfl

theorem touches_refuse (b : Bridge) (batch : BatchRow) (mapping : MappingRow) (err : BridgeError) :
    Touches batch.batchId (b.refuseBatch batch mapping err) := by
  refine touches_bind (touches_markConsumeFailed _ _) fun quarantined => ?_
  cases quarantined with
  | true => exact touches_bind (touches_idle (releaseDead_fabric b mapping)) fun _ => touches_pure _
  | false => exact touches_pure _

theorem touches_commit (b : Bridge) (batch : BatchRow) (work : WorkRow) (task : EvidenceTask) :
    Touches batch.batchId (b.commitBatch batch work task) := by
  unfold Bridge.commitBatch
  cases b.accepted batch work task with
  | error err => exact touches_throw err
  | ok result =>
    exact touches_bind (touches_onDatabases _) fun _ => touches_bind (touches_mappingState _ _) fun _ =>
      touches_bind (touches_markConsumed _) fun _ => touches_pure _

theorem touches_drainBatch (b : Bridge) (batch : BatchRow) : Touches batch.batchId (b.drainBatch batch) := by
  refine touches_bind (touches_idle fun _ => rfl) fun work => ?_
  cases work with
  | none => exact touches_pure _
  | some work =>
    dsimp only
    split
    · exact touches_pure _
    refine touches_bind (touches_idle fun _ => rfl) fun mapping => ?_
    cases mapping with
    | none => exact touches_bind (touches_markConsumeFailed _ _) fun _ => touches_pure _
    | some mapping =>
      dsimp only
      split
      · exact touches_bind (touches_markConsumed _) fun _ => touches_pure _
      refine touches_bind (touches_currentTask _) fun task => ?_
      split
      · exact touches_bind (touches_mappingState _ _) fun _ => touches_bind (touches_markConsumed _) fun _ => touches_pure _
      · exact touches_tryCatch (touches_commit b batch work _) (touches_refuse b batch mapping)

/-! ## What a turn does -/

theorem Processed.congr (same : w'.fabric.resultBatches.get? batch.batchId = w.fabric.resultBatches.get? batch.batchId)
    (processed : Processed w batch) : Processed w' batch := by
  obtain ⟨row, found, done⟩ := processed
  exact ⟨row, same.trans found, done⟩

theorem markConsumed_processed (w : World) (batch : BatchRow) (stored : w.fabric.resultBatches.get? batch.batchId = some batch) :
    ∃ marked w', (markConsumed batch.batchId).perform w = (.ok marked, w') ∧ Processed w' batch := by
  refine ⟨_, _, rfl, { batch with consumedAt := some (batch.consumedAt.getD w.clock) }, ?_, .inl rfl⟩
  refine (Table.get?_update_key w.fabric.resultBatches batch.batchId
    (fun b => { b with consumedAt := some (b.consumedAt.getD w.clock) }) (fun _ => rfl) batch.batchId).trans ?_
  rw [if_pos rfl, stored, Option.map_some]

theorem markConsumeFailed_processed (error : String) (stored : w.fabric.resultBatches.get? batch.batchId = some batch)
    (waits : batch.consumedAt = none) :
    ∃ marked w', (markConsumeFailed batch.batchId error).perform w = (.ok marked, w') ∧ Processed w' batch := by
  rw [perform_markConsumeFailed]
  unfold AuthorityStore.markBatchConsumeFailed
  rw [if_neg (by decide), stored]
  dsimp only
  rw [if_neg (by simp [waits])]
  refine ⟨_, _, rfl, { batch with
    consumeAttempts := batch.consumeAttempts + 1
    consumeError := some (String.ofList (error.toList.take 2000))
    quarantined := decide ((20 : Int) ≤ (batch.consumeAttempts + 1 : Nat)) }, ?_, .inr (Nat.lt_succ_self _)⟩
  refine (Table.get?_update_key w.fabric.resultBatches batch.batchId _ (by exact fun _ => rfl) batch.batchId).trans ?_
  rw [if_pos rfl, stored, Option.map_some]

theorem commit_processed (b : Bridge) (work : WorkRow) (task : EvidenceTask) (stored : w.fabric.resultBatches.get? batch.batchId = some batch) :
    (∃ report w', (b.commitBatch batch work task).perform w = (.ok report, w') ∧ Processed w' batch) ∨
      ∃ err w', (b.commitBatch batch work task).perform w = (.error err, w') ∧ w'.fabric = w.fabric := by
  unfold Bridge.commitBatch
  cases b.accepted batch work task with
  | error err => exact .inr ⟨err, w, rfl, rfl⟩
  | ok result =>
    dsimp only
    rcases done : (b.commit task result).perform w.toDatabases with ⟨err | outcome, d⟩
    · rw [Call.perform_bind_error (by rw [perform_onDatabases, done]; rfl)]
      exact .inr ⟨_, _, rfl, rfl⟩
    · rw [Call.perform_bind_ok (by rw [perform_onDatabases, done]; rfl), Call.perform_bind_ok (perform_mappingState _ _ _)]
      dsimp only [World.put]
      obtain ⟨marked, w', marks, processed⟩ := markConsumed_processed ⟨d, w.dispatch.update (·.fabricTaskId = batch.taskId)
        ({ · with state := .consumed }), w.fabric⟩ batch stored
      rw [Call.perform_bind_ok marks]
      exact .inl ⟨_, w', rfl, processed⟩

theorem refuse_processed (b : Bridge) (mapping : MappingRow) (err : BridgeError)
    (stored : w.fabric.resultBatches.get? batch.batchId = some batch) (waits : batch.consumedAt = none) :
    Processed ((b.refuseBatch batch mapping err).perform w).2 batch := by
  obtain ⟨quarantined, w₁, marked, processed⟩ := markConsumeFailed_processed (b.describe err) stored waits
  unfold Bridge.refuseBatch
  rw [Call.perform_bind_ok marked]
  cases quarantined with
  | false => exact processed
  | true =>
    have fabric := releaseDead_fabric b mapping w₁
    rw [if_pos rfl, Call.perform_bind]
    rcases released : (b.releaseDeadMapping mapping).perform w₁ with ⟨err' | answer, w₂⟩
    · rw [released] at fabric
      exact processed.congr (by rw [fabric])
    · rw [released] at fabric
      exact processed.congr (by rw [← fabric]; rfl)

/-- A turn for a batch of an `EvidenceQueryProducer` processes it, whatever it raises. -/
theorem turn_processed (b : Bridge) (evidence : evidenceBatch w batch = true) (stored : w.fabric.resultBatches.get? batch.batchId = some batch)
    (waits : batch.consumedAt = none) : Processed ((b.drainBatch batch).perform w).2 batch := by
  obtain ⟨work, admitted, producer⟩ := Option.any_eq_true _ _ |>.mp evidence
  have read : (workRow batch.taskId).perform w = (.ok (some work), w) := by rw [workRow, Call.perform_atomic, admitted]
  unfold Bridge.drainBatch
  rw [Call.perform_bind_ok read]
  dsimp only
  rw [if_neg (not_not.mpr (of_decide_eq_true producer)), dispatchRow, Call.perform_bind, Call.perform_atomic]
  dsimp only
  cases w.dispatch.rows.find? (·.fabricTaskId = batch.taskId) with
  | none =>
    obtain ⟨quarantined, w', marked, processed⟩ := markConsumeFailed_processed "Fabric evidence batch has no dispatch mapping" stored waits
    dsimp only
    rw [Call.perform_bind_ok marked]
    exact processed
  | some mapping =>
    dsimp only
    by_cases inactive : mapping.state ≠ .active
    · obtain ⟨marked, w', marks, processed⟩ := markConsumed_processed w batch stored
      rw [if_pos inactive, Call.perform_bind_ok marks]
      exact processed
    rw [if_neg inactive, Call.perform_bind_ok (perform_currentTask _ w)]
    cases Option.filter (b.current mapping) ((w.queue.tasks.get? mapping.key).map taskOf) with
    | none =>
      obtain ⟨marked, w', marks, processed⟩ := markConsumed_processed { w with
        dispatch := w.dispatch.update (·.fabricTaskId = batch.taskId) ({ · with state := .stale }) } batch stored
      dsimp only
      rw [Call.perform_bind_ok (perform_mappingState _ _ w), Call.perform_bind_ok marks]
      exact processed
    | some task =>
      dsimp only
      rw [Call.perform_tryCatch]
      rcases commit_processed b work task stored with ⟨report, w', done, processed⟩ | ⟨err, w', raised, fabric⟩
      · rw [done]
        exact processed
      · rw [raised]
        exact refuse_processed b mapping err (by rw [fabric]; exact stored) waits

theorem upkept_marked {s : AuthorityStore.Store} (work : s.work = w.fabric.work) {d : Dispatch} (stales : Stales w.dispatch d) :
    Upkept b w { w with dispatch := d, fabric := s } :=
  ⟨work, rfl, stales, fun _ row found mine => ⟨row, found, mine, rfl⟩⟩

theorem turn_passes (other : owned b w batch = false) : ∃ report w', (b.drainBatch batch).perform w = (.ok report, w') ∧ Upkept b w w' := by
  unfold Bridge.drainBatch
  have read : (workRow batch.taskId).perform w = (.ok (w.fabric.work.get? batch.taskId), w) := rfl
  rw [Call.perform_bind_ok read]
  unfold owned evidenceBatch mappingOf at other
  cases admitted : w.fabric.work.get? batch.taskId with
  | none => exact ⟨_, w, rfl, .refl b w⟩
  | some work =>
    dsimp only
    by_cases foreign : work.fields.producer ≠ producerName
    · rw [if_pos foreign]
      exact ⟨_, w, rfl, .refl b w⟩
    rw [admitted, Option.any_some, decide_eq_true (not_not.mp foreign), Bool.true_and] at other
    rw [if_neg foreign, dispatchRow, Call.perform_bind, Call.perform_atomic]
    dsimp only
    cases found : w.dispatch.rows.find? (·.fabricTaskId = batch.taskId) with
    | none =>
      have work := (touches_markConsumeFailed batch.batchId "Fabric evidence batch has no dispatch mapping" w).1
      obtain ⟨quarantined, s, marked⟩ := markConsumeFailed_returns batch.batchId "Fabric evidence batch has no dispatch mapping" w
      rw [marked] at work
      dsimp only
      rw [Call.perform_bind_ok marked]
      exact ⟨_, _, rfl, upkept_marked work (.refl _)⟩
    | some mapping =>
      rw [found, Option.any_some] at other
      dsimp only
      by_cases inactive : mapping.state ≠ .active
      · obtain ⟨marked, s, marks⟩ := markConsumed_returns batch.batchId w
        have work := (touches_markConsumed batch.batchId w).1
        rw [marks] at work
        rw [if_pos inactive, Call.perform_bind_ok marks]
        exact ⟨_, _, rfl, upkept_marked work (.refl _)⟩
      rw [if_neg inactive, Call.perform_bind_ok (perform_currentTask _ w)]
      have none_ : Option.filter (b.current mapping) ((w.queue.tasks.get? mapping.key).map taskOf) = none := by
        rw [Option.filter_eq_none_iff]
        rintro task there current
        obtain ⟨row, stored, rfl⟩ := Option.map_eq_some_iff.mp there
        rw [claimedFor, decide_eq_true (not_not.mp inactive), stored, Option.any_some, current] at other
        cases other
      have stale := stales_update w.dispatch batch.taskId (by decide : MappingState.stale ≠ .active)
      obtain ⟨marked, s, marks⟩ := markConsumed_returns batch.batchId { w with
        dispatch := w.dispatch.update (·.fabricTaskId = batch.taskId) ({ · with state := .stale }) }
      have work := (touches_markConsumed batch.batchId { w with
        dispatch := w.dispatch.update (·.fabricTaskId = batch.taskId) ({ · with state := .stale }) }).1
      rw [marks] at work
      rw [none_]
      dsimp only
      rw [Call.perform_bind_ok (perform_mappingState _ _ w), Call.perform_bind_ok marks]
      exact ⟨_, _, rfl, upkept_marked (w := w) work stale⟩

/-! ## The loop -/

/-- The batches wait in the store, each once. -/
structure Waiting (w : World) (batches : List BatchRow) : Prop where
  stored : ∀ batch ∈ batches, w.fabric.resultBatches.get? batch.batchId = some batch ∧ batch.consumedAt = none
  apart : (batches.map (·.batchId)).Nodup

theorem Waiting.tail {batches : List BatchRow} (waiting : Waiting w (batch :: batches)) (call : BridgeCall EvidenceBridgeReport)
    (touches : Touches batch.batchId call) : Waiting (call.perform w).2 batches := by
  obtain ⟨other, apart⟩ := List.nodup_cons.mp waiting.apart
  refine ⟨fun later member => ?_, apart⟩
  obtain ⟨stored, waits⟩ := waiting.stored later (List.mem_cons_of_mem _ member)
  refine ⟨((touches w).2 later.batchId fun same => other ?_).trans stored, waits⟩
  exact List.mem_map.mpr ⟨later, member, same⟩

/-- The loop touches only the batches that it was given. -/
theorem drainAll_frame (b : Bridge) (batches : List BatchRow) (w : World) {id : String} (other : ∀ batch ∈ batches, id ≠ batch.batchId) :
    ((drainAll b batches).perform w).2.fabric.resultBatches.get? id = w.fabric.resultBatches.get? id := by
  induction batches generalizing w with
  | nil => rfl
  | cons batch rest ih =>
    have here := (touches_drainBatch b batch w).2 id (other batch List.mem_cons_self)
    have later := fun batch' member => other batch' (List.mem_cons_of_mem batch member)
    unfold drainAll
    rw [Call.perform_bind]
    rcases turn : (b.drainBatch batch).perform w with ⟨err | report, w₁⟩
    · rw [turn] at here
      exact here
    · rw [turn] at here
      have there := ih w₁ later
      dsimp only
      rw [Call.perform_bind]
      rcases loop : (drainAll b rest).perform w₁ with ⟨err | more, w₂⟩
      · rw [loop] at there
        exact there.trans here
      · rw [loop] at there
        exact there.trans here

/-- What the loop does to its first batch is done by its turn. -/
theorem drainAll_first (b : Bridge) {batches : List BatchRow} (apart : ((batch :: batches).map (·.batchId)).Nodup)
    (processed : Processed ((b.drainBatch batch).perform w).2 batch) : Processed ((drainAll b (batch :: batches)).perform w).2 batch := by
  obtain ⟨other, -⟩ := List.nodup_cons.mp apart
  unfold drainAll
  rw [Call.perform_bind]
  rcases turn : (b.drainBatch batch).perform w with ⟨err | report, w₁⟩
  · rw [turn] at processed
    exact processed
  · rw [turn] at processed
    have kept := drainAll_frame b batches w₁ fun later member (same : batch.batchId = later.batchId) => other (List.mem_map.mpr ⟨later, member, same.symm⟩)
    dsimp only
    rw [Call.perform_bind]
    rcases loop : (drainAll b batches).perform w₁ with ⟨err | more, w₂⟩
    · rw [loop] at kept
      exact processed.congr kept
    · rw [loop] at kept
      exact processed.congr kept

/-- A loop over batches with one of the bridge's processes one of them. -/
theorem drainAll_processes {base : World} {batches : List BatchRow} (mine : ∃ batch ∈ batches, owned b base batch = true) :
    ∀ {w}, Upkept b base w → Waiting w batches →
      ∃ batch ∈ batches, owned b base batch = true ∧ Processed ((drainAll b batches).perform w).2 batch := by
  induction batches with
  | nil => exact absurd mine (by simp)
  | cons batch rest ih =>
    intro w upkept waiting
    cases own : owned b base batch with
    | true =>
      obtain ⟨stored, waits⟩ := waiting.stored batch List.mem_cons_self
      refine ⟨batch, List.mem_cons_self, own, drainAll_first b waiting.apart (turn_processed b ?_ stored waits)⟩
      rw [upkept.evidence]
      exact (Bool.and_eq_true_iff.mp own).1
    | false =>
      have later : ∃ batch ∈ rest, owned b base batch = true := by
        obtain ⟨found, member, isMine⟩ := mine
        rcases List.mem_cons.mp member with rfl | member
        · rw [own] at isMine
          cases isMine
        · exact ⟨found, member, isMine⟩
      have other : owned b w batch = false := by
        by_contra mine'
        rw [upkept.owned (by simpa using mine')] at own
        cases own
      obtain ⟨report, w₁, turn, more⟩ := turn_passes other
      have waiting₁ := waiting.tail _ (touches_drainBatch b batch)
      rw [turn] at waiting₁
      obtain ⟨found, member, isMine, processed⟩ := ih later (upkept.trans more) waiting₁
      refine ⟨found, List.mem_cons_of_mem _ member, isMine, ?_⟩
      unfold drainAll
      rw [Call.perform_bind_ok turn, Call.perform_bind]
      rcases loop : (drainAll b rest).perform w₁ with ⟨err | more, w₂⟩
      · rw [loop] at processed
        exact processed
      · rw [loop] at processed
        exact processed

/-! ## Progress -/

/-- A drain processes a batch of the bridge. -/
def Progresses (b : Bridge) (scan : MappingRow → Nat) (w : World) (limit : Int) : Prop :=
  ∃ batch ∈ unconsumed w.fabric, owned b w batch = true ∧ Processed ((drain b scan limit).perform w).2 batch

/-- A drain is its loop over the oldest batches, in a world in which the bridge owns no more than before. -/
theorem drain_loops (configured : Configured b) (scan : MappingRow → Nat) (w : World) {limit : Int} (positive : 1 ≤ limit) :
    ∃ w', w'.fabric = w.fabric ∧ Upkept b w w' ∧ ((drain b scan limit).perform w).2 =
      ((drainAll b (oldestFirst batchOrder (unconsumed w.fabric) limit.toNat)).perform w').2 := by
  obtain ⟨renewed, w₁, renews, fabric₁, upkept₁, live⟩ := renewActive_live configured scan w
  obtain ⟨changed, w₂, releases, released⟩ := reconcile_released configured scan live
  have fabric := released.fabric.trans fabric₁
  refine ⟨w₂, fabric, upkept₁.trans released.upkept, ?_⟩
  unfold drain
  rw [Call.perform_bind_ok renews, Call.perform_bind_ok releases, unconsumedBatches, if_neg (by omega), Call.perform_bind, Call.perform_atomic]
  dsimp only
  rw [fabric, Call.perform_bind]
  rcases (drainAll b (oldestFirst batchOrder (unconsumed w.fabric) limit.toNat)).perform w₂ with ⟨err | report, w₃⟩ <;> rfl

theorem mem_unconsumed {s : AuthorityStore.Store} : batch ∈ unconsumed s ↔
    batch ∈ s.resultBatches.rows ∧ batch.consumedAt = none ∧ batch.quarantined = false := by
  simp [unconsumed]

theorem selected_waiting (n : Nat) (fabric : w'.fabric = w.fabric) : Waiting w' (oldestFirst batchOrder (unconsumed w.fabric) n) := by
  have perm := List.perm_insertionSort (fun a b => batchOrder a ≤ batchOrder b) (unconsumed w.fabric)
  refine ⟨fun batch member => ?_, ?_⟩
  · obtain ⟨stored, waits, -⟩ := mem_unconsumed.mp (perm.mem_iff.mp (List.mem_of_mem_take member))
    rw [fabric]
    exact ⟨Table.get?_mem (t := w.fabric.resultBatches) stored, waits⟩
  · have distinct : ((unconsumed w.fabric).map (·.batchId)).Nodup :=
      w.fabric.resultBatches.keyed.sublist (List.filter_sublist.map _)
    exact ((perm.map (·.batchId)).nodup_iff.mpr distinct).sublist ((List.take_sublist _ _).map _)

end

theorem progresses_selected (b : Bridge) (scan : MappingRow → Nat) (w : World) (limit : Int) (configured : Configured b) (positive : 1 ≤ limit)
    (progresses : Progresses b scan w limit) : ∃ batch ∈ oldestFirst batchOrder (unconsumed w.fabric) limit.toNat, owned b w batch = true := by
  obtain ⟨w', fabric, -, loops⟩ := drain_loops configured scan w positive
  have waiting := selected_waiting (w := w) limit.toNat fabric
  obtain ⟨batch, member, mine, row, found, done⟩ := progresses
  rw [loops] at found
  refine ⟨batch, ?_, mine⟩
  by_contra passed
  obtain ⟨stored, open_, -⟩ := mem_unconsumed.mp member
  have others : ∀ other ∈ oldestFirst batchOrder (unconsumed w.fabric) limit.toNat, batch.batchId ≠ other.batchId := by
    intro other chosen same
    obtain ⟨there, -⟩ := waiting.stored other chosen
    rw [← same, fabric, Table.get?_mem (t := w.fabric.resultBatches) stored] at there
    cases there
    exact passed chosen
  -- the loop left the row as it was
  rw [drainAll_frame b _ w' others, fabric, Table.get?_mem (t := w.fabric.resultBatches) stored] at found
  cases found
  rcases done with consumed | counted
  · rw [open_] at consumed
    cases consumed
  · exact absurd counted (Nat.lt_irrefl _)

/-- A drain processes a batch of the bridge, when it has one, exactly when fewer batches of others than the limit are
    older than all of them. -/
theorem drain_progress_iff (b : Bridge) (scan : MappingRow → Nat) (w : World) (limit : Int) (configured : Configured b) (positive : 1 ≤ limit)
    (waits : ∃ batch ∈ unconsumed w.fabric, owned b w batch = true) :
    Progresses b scan w limit ↔ ((unconsumed w.fabric).countP (ahead batchOrder (owned b w) (unconsumed w.fabric)) : Int) < limit := by
  have apart : ∀ first ∈ unconsumed w.fabric, ∀ second ∈ unconsumed w.fabric, owned b w first = false → owned b w second = true →
      batchOrder first ≠ batchOrder second := by
    intro first _ second _ other mine same
    have task : first.taskId = second.taskId := congrArg (fun rank => (ofLex (ofLex rank).2).1) same
    unfold owned evidenceBatch at other mine
    rw [task, mine] at other
    cases other
  have counted := selected_iff waits apart limit.toNat
  rw [show ((unconsumed w.fabric).countP (ahead batchOrder (owned b w) (unconsumed w.fabric)) : Int) < limit ↔
    (unconsumed w.fabric).countP (ahead batchOrder (owned b w) (unconsumed w.fabric)) < limit.toNat by omega, ← counted]
  refine ⟨progresses_selected b scan w limit configured positive, fun selected => ?_⟩
  obtain ⟨w', fabric, upkept, loops⟩ := drain_loops configured scan w positive
  obtain ⟨batch, chosen, mine, processed⟩ := drainAll_processes selected upkept (selected_waiting limit.toNat fabric)
  refine ⟨batch, (List.perm_insertionSort _ _).mem_iff.mp (List.mem_of_mem_take chosen), mine, ?_⟩
  rw [loops]
  exact processed

/-! ## A batch behind a bulk shard -/

/-- The work of a bulk shard, which consumes its batches when a whole region is done. -/
def bulkWork : WorkRow := { rangeWork with
  taskId := "bulk"
  workKey := "bulk"
  fields := { rangeWork.fields with producer := "BulkShardProducer" } }

/-- The batch of the range task, with an older one of a bulk shard. -/
def behindBulk : World := { oneClaimed (passJson [captureJson]) with
  fabric := { (oneClaimed (passJson [captureJson])).fabric with
    work := ⟨[bulkWork, rangeWork], by decide⟩
    resultBatches := ⟨[{ batchOf (passJson []) with batchId := "bulk", taskId := "bulk" },
      { batchOf (passJson [captureJson]) with committedAt := 1 }], by decide⟩ } }

theorem plain_configured : Configured plainBridge := by
  refine ⟨⟨900, rfl, by norm_num⟩, fun now _ => ⟨.fin (now + 30), rfl, ?_⟩⟩
  have positive : (0 : ℚ) ≤ now + 30 := by positivity
  simp [finiteReading, positive]

/-- A drain of two batches reaches it. -/
theorem behind_reached : Progresses plainBridge (fun _ => 0) behindBulk 2 :=
  (drain_progress_iff plainBridge (fun _ => 0) behindBulk 2 plain_configured (by decide) (by decide +kernel)).mpr (by decide +kernel)

/-- A drain of one batch does not. -/
theorem bulk_hides : (∃ batch ∈ unconsumed behindBulk.fabric, owned plainBridge behindBulk batch = true) ∧
    ¬Progresses plainBridge (fun _ => 0) behindBulk 1 := by
  refine ⟨by decide +kernel, fun progresses => ?_⟩
  have selected := progresses_selected plainBridge (fun _ => 0) behindBulk 1 plain_configured (by decide) progresses
  exact absurd selected (by decide +kernel)

end Creeper.BridgeDrain
