import Creeper.AuthorityStore
import Creeper.BatchPayload

/-!
# The worker's spool

`WorkerResultSpool`: the batches that a worker has produced and the authority has
not acknowledged yet. Runs of `put`, `ack` and `discard_generation` keep exactly
the batches that were put and not removed since, and `pending` decodes them.
-/

namespace Creeper.WorkerSpool
open Creeper.Runs Creeper.Tables Creeper.PyText Creeper.JsonText Creeper.FabricModels Creeper.BatchPayload
open Creeper.AuthorityStore (thenBy)

/-! ## Tables -/

/-- The columns of `pending_result_batches`. -/
structure SpoolFields where
  batchId : String
  taskId : String
  generation : Nat
  sequenceNo : Nat
  payloadJson : PyStr
  createdAt : ℚ

/-- The columns that `put` writes. -/
def SpoolFields.of (batch : ResultBatch) (now : ℚ) : SpoolFields :=
  ⟨batch.batchId, batch.taskId, batch.generation, batch.sequenceNo, batchPayload batch, now⟩

/-- A row; only `put` writes rows. -/
structure SpoolRow extends SpoolFields where
  written : ∃ batch now, toSpoolFields = .of batch now ∧ encodable (batchPayload batch)

def SpoolRow.of (batch : ResultBatch) (now : ℚ) (encodes : encodable (batchPayload batch)) : SpoolRow :=
  ⟨.of batch now, batch, now, rfl, encodes⟩

def SpoolRow.batch? (row : SpoolRow) : Option ResultBatch := spooledBatch row.payloadJson

structure Spool where
  workerInstanceId : Option String
  pendingResultBatches : Table SpoolRow String (·.batchId)

def Spool.empty : Spool := ⟨none, .empty⟩

/-! ## Operations -/

/-- `put`. -/
def Spool.put (s : Spool) (now : ℚ) (batch : ResultBatch) : Except PyError Unit × Spool :=
  match s.pendingResultBatches.get? batch.batchId with
  | some prior =>
    if prior.payloadJson ≠ batchPayload batch then (.error (.valueError "local batch replay changed payload"), s)
    else (.ok (), s)
  | none =>
    if encodes : encodable (batchPayload batch) then
      (.ok (), { s with pendingResultBatches := s.pendingResultBatches.insert (.of batch now encodes) })
    else (.error .unicodeEncodeError, s)

/-- `ack`. -/
def Spool.ack (s : Spool) (batchId : String) : Spool :=
  { s with pendingResultBatches := s.pendingResultBatches.delete (·.batchId = batchId) }

/-- `discard_generation`. -/
def Spool.discardGeneration (s : Spool) (taskId : String) (generation : Int) : Spool :=
  { s with pendingResultBatches := s.pendingResultBatches.delete (fun r => r.taskId = taskId && r.generation = generation) }

/-- `pending_count`. -/
def Spool.pendingCount (s : Spool) : Nat := s.pendingResultBatches.rows.length

/-- `ORDER BY created_at, task_id, sequence_no`. -/
def listedBefore (a b : SpoolRow) : Bool :=
  thenBy a.createdAt b.createdAt (a.taskId < b.taskId || a.taskId = b.taskId && a.sequenceNo ≤ b.sequenceNo)

/-- The rows in the order in which `pending` reads them. -/
def Spool.listed (s : Spool) : List SpoolRow := s.pendingResultBatches.rows.insertionSort (fun a b => listedBefore a b)

/-- `pending`. -/
def Spool.pending (s : Spool) : Option (List ResultBatch) := s.listed.mapM SpoolRow.batch?

/-- `resolve_worker_instance_id`. -/
def Spool.resolveWorkerInstanceId (s : Spool) (proposed : String) (auto : Bool) : Except PyError String × Spool :=
  let proposed := strip proposed
  if proposed = "" then (.error (.valueError "proposed_instance_id is required"), s)
  else
    match s.workerInstanceId.filter (fun prior => auto && 0 < s.pendingCount && strip prior ≠ "") with
    | some prior => (.ok (strip prior), s)
    | none => (.ok proposed, { s with workerInstanceId := some proposed })

/-! ## What a row says about its batch -/

structure Records (row : SpoolRow) (batch : ResultBatch) : Prop where
  batchId : row.batchId = batch.batchId
  taskId : row.taskId = batch.taskId
  generation : row.generation = batch.generation
  sequenceNo : row.sequenceNo = batch.sequenceNo
  payloadJson : row.payloadJson = batchPayload batch
  encodes : encodable (batchPayload batch)

theorem SpoolRow.records_of (batch : ResultBatch) (now : ℚ) (encodes : encodable (batchPayload batch)) :
    Records (.of batch now encodes) batch := ⟨rfl, rfl, rfl, rfl, rfl, encodes⟩

theorem Records.decodes {row : SpoolRow} {batch : ResultBatch} (records : Records row batch) :
    row.batch? = some batch := by
  rw [SpoolRow.batch?, records.payloadJson, spooledBatch_written]

theorem exists_records (row : SpoolRow) : ∃ batch, Records row batch := by
  obtain ⟨batch, now, fields, encodes⟩ := row.written
  exact ⟨batch, by rw [fields]; rfl, by rw [fields]; rfl, by rw [fields]; rfl, by rw [fields]; rfl,
    by rw [fields]; rfl, encodes⟩

theorem Records.unique {row : SpoolRow} {a b : ResultBatch} (first : Records row a) (second : Records row b) : a = b :=
  batchPayload_injective (first.payloadJson.symm.trans second.payloadJson)

def Spool.Holds (s : Spool) (batch : ResultBatch) : Prop := ∃ row ∈ s.pendingResultBatches.rows, Records row batch

def SpoolRow.batch (row : SpoolRow) : ResultBatch :=
  row.batch?.get (by
    obtain ⟨batch, records⟩ := exists_records row
    rw [records.decodes]
    rfl)

theorem Records.batch_eq {row : SpoolRow} {batch : ResultBatch} (records : Records row batch) : row.batch = batch := by
  simp [SpoolRow.batch, records.decodes]

theorem SpoolRow.records (row : SpoolRow) : Records row row.batch := by
  obtain ⟨batch, records⟩ := exists_records row
  rw [records.batch_eq]
  exact records

theorem mem_listed {s : Spool} {row : SpoolRow} : row ∈ s.listed ↔ row ∈ s.pendingResultBatches.rows :=
  List.mem_insertionSort _

/-- `pending` never fails: it lists the batch of every row, in the order of the rows. -/
theorem pending_eq (s : Spool) : s.pending = some (s.listed.map (·.batch)) := by
  unfold Spool.pending
  induction s.listed with
  | nil => rfl
  | cons row rest ih => simp [row.records.decodes, ih]

theorem mem_pending {s : Spool} (batch : ResultBatch) : batch ∈ s.listed.map (·.batch) ↔ s.Holds batch := by
  rw [List.mem_map]
  constructor
  · rintro ⟨row, listed, rfl⟩
    exact ⟨row, mem_listed.mp listed, row.records⟩
  · rintro ⟨row, member, records⟩
    exact ⟨row, mem_listed.mpr member, records.batch_eq⟩

/-! ## What each operation keeps -/

theorem holds_put {s : Spool} {now : ℚ} {batch : ResultBatch} (other : ResultBatch) :
    (s.put now batch).2.Holds other ↔ s.Holds other ∨ (other = batch ∧ (s.put now batch).1 = .ok ()) := by
  unfold Spool.put
  cases found : s.pendingResultBatches.get? batch.batchId with
  | some prior =>
    simp only
    split
    · simp
    · rename_i same
      simp only [ne_eq, not_not] at same
      simp only [and_true, iff_self_or]
      rintro rfl
      obtain ⟨recorded, records⟩ := exists_records prior
      have equal : recorded = other := batchPayload_injective (records.payloadJson.symm.trans same)
      exact ⟨prior, Table.mem_of_get? found, equal ▸ records⟩
  | none =>
    simp only
    split
    · rename_i encodes
      have rows := Table.rows_insert (t := s.pendingResultBatches) (r := .of batch now encodes) found
      simp only [Spool.Holds, rows, List.mem_append, List.mem_singleton, and_true]
      constructor
      · rintro ⟨row, member | rfl, records⟩
        · exact .inl ⟨row, member, records⟩
        · exact .inr (records.unique (SpoolRow.records_of batch now encodes))
      · rintro (⟨row, member, records⟩ | rfl)
        · exact ⟨row, .inl member, records⟩
        · exact ⟨_, .inr rfl, SpoolRow.records_of other now encodes⟩
    · simp

theorem holds_ack {s : Spool} {batchId : String} (batch : ResultBatch) :
    (s.ack batchId).Holds batch ↔ s.Holds batch ∧ batch.batchId ≠ batchId := by
  simp only [Spool.Holds, Spool.ack, Table.rows_delete, List.mem_filter, Bool.not_eq_true', decide_eq_false_iff_not]
  constructor
  · rintro ⟨row, ⟨member, other⟩, records⟩
    exact ⟨⟨row, member, records⟩, records.batchId ▸ other⟩
  · rintro ⟨⟨row, member, records⟩, other⟩
    exact ⟨row, ⟨member, records.batchId ▸ other⟩, records⟩

theorem holds_discard {s : Spool} {taskId : String} {generation : Int} (batch : ResultBatch) :
    (s.discardGeneration taskId generation).Holds batch ↔
      s.Holds batch ∧ ¬(batch.taskId = taskId ∧ (batch.generation : Int) = generation) := by
  simp only [Spool.Holds, Spool.discardGeneration, Table.rows_delete, List.mem_filter, Bool.not_eq_true',
    Bool.and_eq_false_iff, decide_eq_false_iff_not, not_and_or]
  constructor
  · rintro ⟨row, ⟨member, other⟩, records⟩
    exact ⟨⟨row, member, records⟩, by rw [← records.taskId, ← records.generation]; exact other⟩
  · rintro ⟨⟨row, member, records⟩, other⟩
    exact ⟨row, ⟨member, by rw [records.taskId, records.generation]; exact other⟩, records⟩

theorem holds_resolve {s : Spool} {proposed : String} {auto : Bool} (batch : ResultBatch) :
    (s.resolveWorkerInstanceId proposed auto).2.Holds batch ↔ s.Holds batch := by
  simp only [Spool.resolveWorkerInstanceId]
  split
  · rfl
  · split <;> rfl

/-- Rows of one identity are one row. -/
theorem holds_unique {s : Spool} {a b : ResultBatch} (first : s.Holds a) (second : s.Holds b)
    (same : a.batchId = b.batchId) : a = b := by
  obtain ⟨row, member, records⟩ := first
  obtain ⟨other, otherMember, otherRecords⟩ := second
  have one := Table.row_unique member otherMember (records.batchId.trans (same.trans otherRecords.batchId.symm))
  subst one
  exact records.unique otherRecords

/-! ## Runs -/

/-- The calls that change the spool. -/
inductive SpoolOp
  | put (now : ℚ) (batch : ResultBatch)
  | ack (batchId : String)
  | discardGeneration (taskId : String) (generation : Int)

def SpoolOp.Removes (op : SpoolOp) (batch : ResultBatch) : Prop :=
  match op with
  | .put _ _ => False
  | .ack batchId => batch.batchId = batchId
  | .discardGeneration taskId generation => batch.taskId = taskId ∧ (batch.generation : Int) = generation

def spoolStep (s : Spool) : SpoolOp → Except PyError Unit × Spool
  | .put now batch => s.put now batch
  | .ack batchId => (.ok (), s.ack batchId)
  | .discardGeneration taskId generation => (.ok (), s.discardGeneration taskId generation)

def spool : Machine Spool SpoolOp (Except PyError Unit) := ⟨.empty, spoolStep⟩

/-- The batch was put, the put did not raise, and no later call removes it. -/
def Kept (ops : List SpoolOp) (batch : ResultBatch) : Prop :=
  ∃ before now after, ops = before ++ .put now batch :: after ∧ (spool.take (spool.final before) (.put now batch)).outcome = .ok () ∧
    ∀ op ∈ after, ¬op.Removes batch

theorem holds_step {s : Spool} {op : SpoolOp} (batch : ResultBatch) :
    (spool.take s op).after.Holds batch ↔
      s.Holds batch ∧ ¬op.Removes batch ∨ ∃ now, op = .put now batch ∧ (spool.take s op).outcome = .ok () := by
  cases op with
  | put now other =>
    simp only [SpoolOp.Removes, not_false_eq_true, and_true, SpoolOp.put.injEq]
    refine (holds_put batch).trans (or_congr_right ?_)
    constructor
    · rintro ⟨rfl, accepted⟩
      exact ⟨now, ⟨rfl, rfl⟩, accepted⟩
    · rintro ⟨now, ⟨-, rfl⟩, accepted⟩
      exact ⟨rfl, accepted⟩
  | ack batchId => simpa [SpoolOp.Removes, spool, spoolStep] using holds_ack batch
  | discardGeneration taskId generation => simpa [SpoolOp.Removes, spool, spoolStep] using holds_discard batch

theorem holds_iff_kept (ops : List SpoolOp) (batch : ResultBatch) : (spool.final ops).Holds batch ↔ Kept ops batch := by
  induction ops using List.reverseRecOn with
  | nil =>
    constructor
    · rintro ⟨row, member, -⟩
      cases member
    · rintro ⟨before, now, after, split, -⟩
      simp at split
  | append_singleton ops op ih =>
    rw [Machine.final_snoc]
    refine (holds_step (s := spool.final ops) batch).trans ?_
    constructor
    · rintro (⟨held, stays⟩ | ⟨now, rfl, accepted⟩)
      · obtain ⟨before, now, after, rfl, accepted, kept⟩ := ih.mp held
        refine ⟨before, now, after ++ [op], by simp, accepted, ?_⟩
        intro later member
        rcases List.mem_append.mp member with early | last
        · exact kept later early
        · rw [List.mem_singleton.mp last]
          exact stays
      · exact ⟨ops, now, [], rfl, accepted, by simp⟩
    · rintro ⟨before, now, after, split, accepted, kept⟩
      rcases List.eq_nil_or_concat after with rfl | ⟨after, last, rfl⟩
      · obtain ⟨rfl, final⟩ := List.append_inj' split rfl
        cases final
        exact .inr ⟨now, rfl, accepted⟩
      · rw [List.concat_eq_append] at split kept
        have apart : ops ++ [op] = (before ++ .put now batch :: after) ++ [last] := by simp [split]
        obtain ⟨rfl, final⟩ := List.append_inj' apart rfl
        cases final
        refine .inl ⟨ih.mpr ⟨before, now, after, rfl, accepted, ?_⟩, kept op (by simp)⟩
        exact fun later early => kept later (by simp [early])

/-! ## The order of `pending` -/

/-- The readings of the clock never decrease, and a generation is put in the order of its
    sequence numbers. -/
def PutInOrder (first second : ℚ × ResultBatch) : Prop :=
  first.1 ≤ second.1 ∧ (first.2.taskId = second.2.taskId → first.2.generation = second.2.generation →
    first.2.sequenceNo ≤ second.2.sequenceNo)

def SpoolOp.putOf : SpoolOp → Option (ℚ × ResultBatch)
  | .put now batch => some (now, batch)
  | _ => none

theorem row_put (ops : List SpoolOp) :
    ∀ row ∈ (spool.final ops).pendingResultBatches.rows, (row.createdAt, row.batch) ∈ ops.filterMap SpoolOp.putOf := by
  induction ops using List.reverseRecOn with
  | nil =>
    intro row member
    cases member
  | append_singleton ops op ih =>
    intro row member
    rw [Machine.final_snoc] at member
    rw [List.filterMap_append, List.mem_append]
    cases op with
    | put now batch =>
      simp only [spool, spoolStep, Spool.put] at member
      split at member
      · split at member <;> exact .inl (ih row member)
      · rename_i fresh
        split at member
        · rename_i encodes
          have rows := Table.rows_insert (r := SpoolRow.of batch now encodes) fresh
          rcases List.mem_append.mp (rows ▸ member) with old | new
          · exact .inl (ih row old)
          · right
            rw [List.mem_singleton.mp new, (SpoolRow.records_of batch now encodes).batch_eq]
            simp [SpoolOp.putOf, SpoolRow.of, SpoolFields.of]
        · exact .inl (ih row member)
    | ack batchId => exact .inl (ih row (List.mem_of_mem_filter member))
    | discardGeneration taskId generation => exact .inl (ih row (List.mem_of_mem_filter member))

theorem either_order {α : Type} {R : α → α → Prop} {xs : List α} (ordered : xs.Pairwise R) {x y : α} (first : x ∈ xs)
    (second : y ∈ xs) (apart : x ≠ y) : R x y ∨ R y x := by
  induction ordered with
  | nil => cases first
  | cons head _ ih =>
    rcases List.mem_cons.mp first with rfl | firstTail
    · rcases List.mem_cons.mp second with rfl | secondTail
      · exact absurd rfl apart
      · exact .inl (head y secondTail)
    · rcases List.mem_cons.mp second with rfl | secondTail
      · exact .inr (head x firstTail)
      · exact ih firstTail secondTail

/-- In a generation that is put in order, a lower sequence number was put no later. -/
theorem createdAt_le {ops : List SpoolOp} (inOrder : (ops.filterMap SpoolOp.putOf).Pairwise PutInOrder)
    {a b : SpoolRow} (first : a ∈ (spool.final ops).pendingResultBatches.rows)
    (second : b ∈ (spool.final ops).pendingResultBatches.rows) (task : a.taskId = b.taskId)
    (generation : a.generation = b.generation) (below : a.sequenceNo < b.sequenceNo) : a.createdAt ≤ b.createdAt := by
  rw [a.records.taskId, b.records.taskId] at task
  rw [a.records.generation, b.records.generation] at generation
  rw [a.records.sequenceNo, b.records.sequenceNo] at below
  have apart : (a.createdAt, a.batch) ≠ (b.createdAt, b.batch) := by
    intro same
    rw [(Prod.mk.inj same).2] at below
    omega
  rcases either_order inOrder (row_put ops a first) (row_put ops b second) apart with ordered | ordered
  · exact ordered.1
  · have := ordered.2 task.symm generation.symm
    simp only at this
    omega

theorem listedBefore_iff (a b : SpoolRow) :
    listedBefore a b ↔ a.createdAt < b.createdAt ∨ a.createdAt = b.createdAt ∧
      (a.taskId < b.taskId ∨ a.taskId = b.taskId ∧ a.sequenceNo ≤ b.sequenceNo) := by
  simp [listedBefore, thenBy]

/-- The rows come out in the order of the query. -/
theorem listed_sorted (s : Spool) : s.listed.Pairwise (fun a b => listedBefore a b) := by
  have total : Std.Total (fun a b : SpoolRow => listedBefore a b = true) := by
    refine ⟨fun a b => ?_⟩
    rw [listedBefore_iff, listedBefore_iff]
    rcases lt_trichotomy a.createdAt b.createdAt with earlier | same | later
    · exact .inl (.inl earlier)
    · rcases lt_trichotomy a.taskId b.taskId with below | task | above
      · exact .inl (.inr ⟨same, .inl below⟩)
      · rcases le_total a.sequenceNo b.sequenceNo with low | high
        · exact .inl (.inr ⟨same, .inr ⟨task, low⟩⟩)
        · exact .inr (.inr ⟨same.symm, .inr ⟨task.symm, high⟩⟩)
      · exact .inr (.inr ⟨same.symm, .inl above⟩)
    · exact .inr (.inl later)
  have trans : IsTrans SpoolRow (fun a b => listedBefore a b = true) := by
    refine ⟨fun a b c first second => ?_⟩
    rw [listedBefore_iff] at first second ⊢
    rcases first with earlier | ⟨same, first⟩
    · rcases second with later | ⟨same', -⟩
      · exact .inl (earlier.trans later)
      · exact .inl (same' ▸ earlier)
    · rcases second with later | ⟨same', second⟩
      · exact .inl (same ▸ later)
      · refine .inr ⟨same.trans same', ?_⟩
        rcases first with below | ⟨task, low⟩
        · rcases second with above | ⟨task', -⟩
          · exact .inl (below.trans above)
          · exact .inl (task' ▸ below)
        · rcases second with above | ⟨task', high⟩
          · exact .inl (task ▸ above)
          · exact .inr ⟨task.trans task', low.trans high⟩
  exact List.pairwise_insertionSort _ _

/-- `pending` lists every batch once. -/
theorem pending_once (s : Spool) : (s.listed.map (·.batch)).Nodup := by
  have keyed := s.pendingResultBatches.keyed
  rw [← ((List.perm_insertionSort (fun a b => listedBefore a b = true) s.pendingResultBatches.rows).map _).nodup_iff] at keyed
  refine List.pairwise_map.mpr ((List.pairwise_map.mp keyed).imp ?_)
  intro a b apart same
  exact apart (by rw [a.records.batchId, b.records.batchId, same])

/-- `pending` lists a generation that was put in order by increasing sequence numbers. -/
theorem pending_increasing {ops : List SpoolOp} (inOrder : (ops.filterMap SpoolOp.putOf).Pairwise PutInOrder) :
    ((spool.final ops).listed.map (·.batch)).Pairwise (fun a b =>
      a.taskId = b.taskId → a.generation = b.generation → a.sequenceNo < b.sequenceNo) := by
  rw [List.pairwise_map]
  have once := List.pairwise_map.mp (pending_once (spool.final ops))
  refine (listed_sorted _).and once |>.imp_of_mem ?_
  rintro a b first second ⟨sorted, apart⟩ task generation
  rw [← a.records.taskId, ← b.records.taskId] at task
  rw [← a.records.generation, ← b.records.generation] at generation
  rw [← a.records.sequenceNo, ← b.records.sequenceNo]
  by_contra notBelow
  rcases lt_or_eq_of_le (not_lt.mp notBelow) with above | same
  · have earlier := createdAt_le inOrder (mem_listed.mp second) (mem_listed.mp first) task.symm generation.symm above
    rw [listedBefore_iff] at sorted
    rcases sorted with late | ⟨-, below | ⟨-, low⟩⟩
    · exact absurd late (not_lt.mpr earlier)
    · exact absurd below (task ▸ lt_irrefl _)
    · omega
  · have ids : a.batchId = b.batchId := by
      rw [a.records.batchId, b.records.batchId, ResultBatch.batchId, ResultBatch.batchId, ← a.records.taskId,
        ← b.records.taskId, ← a.records.sequenceNo, ← b.records.sequenceNo, task, same]
    exact apart (congrArg SpoolRow.batch (Table.row_unique (mem_listed.mp first) (mem_listed.mp second) ids))

end Creeper.WorkerSpool
