import Mathlib.Data.List.Sort
import Creeper.Runs
import Creeper.Tables
import Creeper.FabricModels

/-!
# The SQLite authority store

The tables and operations of `DistributedAuthorityStore`. One call is one
transaction at one reading of the clock. A call that raises inside its
transaction leaves the tables as they were; identifiers that `uuid4` draws are
inputs. The outbox and the artifact tables, which no operation reads back, are
left out.
-/

namespace Creeper.AuthorityStore
open Creeper.Runs Creeper.Tables Creeper.PyNumbers Creeper.JsonText Creeper.Hashing Creeper.FabricModels

/-! ## Rows -/

structure WorkerRow where
  descriptor : WorkerFields
  lastHeartbeat : ℚ
  revoked : Bool

inductive WorkState
  | pending
  | leased
  | retry
  | complete
  | dead
  deriving DecidableEq, Repr

/-- A row of `fabric_work`; `fields` are the columns of its definition. -/
structure WorkRow where
  taskId : String
  workKey : String
  fields : WorkFields
  state : WorkState
  leaseOwner : Option String
  leaseOwnerInstance : Option String
  leaseGeneration : Nat
  leaseDeadline : Option PyFloat
  attempt : Nat
  cursor : Option String
  nextSequenceNo : Nat
  lastError : Option String
  createdAt : ℚ
  updatedAt : ℚ

structure BatchRow where
  batchId : String
  taskId : String
  generation : Nat
  sequenceNo : Nat
  payloadJson : PyText.PyStr
  payloadDigest : String
  cursorAfter : Option String
  final : Bool
  committedAt : ℚ
  consumedAt : Option ℚ
  consumeAttempts : Nat
  consumeError : Option String
  quarantined : Bool

structure NonceRow where
  workerId : String
  nonce : String
  seenAt : ℚ

structure BudgetRow where
  provider : String
  requestsPerSecond : PyFloat
  maxGlobalInflight : Int
  requireQualifiedRegion : Bool
  allowUnknownRegionProbe : Bool
  regionReprobeAfterSeconds : PyFloat
  nextRequestAt : PyFloat
  cooldownUntil : PyFloat
  updatedAt : ℚ
  deriving DecidableEq

inductive RegionState
  | unknown
  | qualified
  | unqualified
  | blocked
  deriving DecidableEq, Repr

structure RegionRow where
  provider : String
  region : String
  state : RegionState
  samples : Nat
  successes : Nat
  timeouts : Nat
  throttles : Nat
  policyBlocks : Nat
  totalLatencyMs : PyFloat
  responseBytes : Int
  updatedAt : ℚ

/-- A permit as `issue_provider_permit` returns it. -/
structure ProviderPermit where
  permitId : String
  requestId : String
  provider : String
  workerId : String
  workerInstanceId : String
  taskId : String
  generation : Int
  allowedRequests : Nat
  maxInflight : Int
  expiresAt : PyFloat
  deriving DecidableEq

structure PermitRow extends ProviderPermit where
  active : Bool
  issuedAt : ℚ
  statusCode : Option Int
  deriving DecidableEq

structure EgressRow where
  workerId : String
  dayKey : Int
  responseBytes : Int
  updatedAt : ℚ
  deriving DecidableEq

structure Store where
  workers : Table WorkerRow String (·.descriptor.workerId)
  work : Table WorkRow String (·.taskId)
  resultBatches : Table BatchRow String (·.batchId)
  requestNonces : Table NonceRow (String × String) (fun r => (r.workerId, r.nonce))
  providerBudgets : Table BudgetRow String (·.provider)
  providerRegions : Table RegionRow (String × String) (fun r => (r.provider, r.region))
  providerPermits : Table PermitRow String (·.permitId)
  workerEgressDaily : Table EgressRow (String × Int) (fun r => (r.workerId, r.dayKey))

/-- The tables of `_initialize`. -/
def Store.empty : Store :=
  ⟨.empty, .empty, .empty, .empty, .empty, .empty, .empty, .empty⟩

/-- What a call returns or raises, and the tables after it. -/
abbrev Answer (α : Type) := Except PyError α × Store

/-- `ORDER BY ... LIMIT`. -/
def selectOrdered {Row : Type} (rows : List Row) (inOrder : Row → Row → Bool) (limit : Nat) : List Row :=
  (rows.insertionSort (fun a b => inOrder a b)).take limit

/-- The order of a column, then the order that settles its ties. -/
def thenBy (a b : ℚ) (ties : Bool) : Bool := a < b || a = b && ties

/-! ## Workers -/

/-- Clearing the lease columns. -/
abbrev WorkRow.unleased (row : WorkRow) (state : WorkState) (now : ℚ) : WorkRow :=
  { row with state, leaseOwner := none, leaseOwnerInstance := none, leaseDeadline := none, updatedAt := now }

/-- `register_worker`. -/
def registerWorker (s : Store) (now : ℚ) (descriptor : WorkerDescriptor) : Answer Unit :=
  if descriptor.protocolVersion ≠ fabricProtocolVersion then
    (.error (.fabricProtocolMismatch descriptor.protocolVersion fabricProtocolVersion), s)
  else
    (.ok (), { s with
      workers := s.workers.upsert ⟨descriptor.toWorkerFields, now, false⟩
        (fun old => ⟨{ descriptor.toWorkerFields with workerId := old.descriptor.workerId }, now, false⟩)
      work := s.work.update
        (fun r => r.state = .leased && r.leaseOwner = some descriptor.workerId &&
          r.leaseOwnerInstance.any (· ≠ descriptor.workerInstanceId))
        (·.unleased .pending now) })

/-- `_worker_row`. -/
def workerRow (s : Store) (workerId workerInstanceId : String) : Except PyError WorkerRow :=
  match s.workers.get? workerId with
  | none => .error (.workerRejected "unknown, revoked, or stale worker instance")
  | some row =>
    if row.revoked || row.descriptor.workerInstanceId ≠ workerInstanceId then
      .error (.workerRejected "unknown, revoked, or stale worker instance")
    else .ok row

/-- `heartbeat`. -/
def heartbeat (s : Store) (now : ℚ) (workerId workerInstanceId : String) : Answer Unit :=
  match workerRow s workerId workerInstanceId with
  | .error e => (.error e, s)
  | .ok _ =>
    (.ok (), { s with
      workers := s.workers.update (·.descriptor.workerId = workerId) ({ · with lastHeartbeat := now }) })

/-- `revoke_worker`. -/
def revokeWorker (s : Store) (now : ℚ) (workerId : String) : Answer Unit :=
  match s.workers.get? workerId with
  | none => (.error (.keyError workerId), s)
  | some _ =>
    (.ok (), { s with
      workers := s.workers.update (·.descriptor.workerId = workerId) ({ · with lastHeartbeat := now, revoked := true })
      work := s.work.update (fun r => r.state = .leased && r.leaseOwner = some workerId) (·.unleased .pending now) })

/-! ## Work -/

/-- `admit_work`; `taskId` is the drawn identifier. -/
def admitWork (s : Store) (now : ℚ) (taskId : String) (work : WorkDefinition) : Answer (String × Bool) :=
  match workKey work.toWorkFields with
  | .error e => (.error e, s)
  | .ok key =>
    if s.work.rows.any (fun r => r.taskId = taskId || r.workKey = key) then
      match s.work.rows.find? (·.workKey = key) with
      | some row => (.ok (row.taskId, false), s)
      | none => (.error .integrityError, s)
    else
      (.ok (taskId, true), { s with
        work := s.work.insert {
          taskId, workKey := key, fields := work.toWorkFields, state := .pending, leaseOwner := none,
          leaseOwnerInstance := none, leaseGeneration := 0, leaseDeadline := none, attempt := 0, cursor := none,
          nextSequenceNo := 0, lastError := none, createdAt := now, updatedAt := now } })

/-- `_eligible`. -/
def eligible (row : WorkRow) (worker : WorkerRow) : Bool :=
  row.fields.requiredCapabilities.all worker.descriptor.capabilities.contains &&
  row.fields.requiredProviders.all worker.descriptor.allowedProviders.contains &&
  (worker.descriptor.producers.isEmpty || worker.descriptor.producers.contains row.fields.producer)

/-- The state of a region, with a blocked or unqualified one probed again in time. -/
def observedState (budget : BudgetRow) (observed : Option RegionRow) (now : ℚ) : RegionState :=
  match observed with
  | none => .unknown
  | some region =>
    if (region.state = .blocked || region.state = .unqualified) && budget.allowUnknownRegionProbe &&
        budget.regionReprobeAfterSeconds.le (.fin (now - region.updatedAt)) then .unknown
    else region.state

/-- `_region_eligible`. -/
def regionEligible (s : Store) (row : WorkRow) (worker : WorkerRow) (now : ℚ) : Bool :=
  row.fields.requiredProviders.all (fun provider =>
    match s.providerBudgets.get? provider with
    | none => false
    | some budget =>
      !budget.requireQualifiedRegion ||
        (match observedState budget (s.providerRegions.get? (provider, worker.descriptor.region)) now with
          | .blocked | .unqualified => false
          | .qualified => true
          | .unknown => budget.allowUnknownRegionProbe))

/-- The lease of a row; the stored definition passes its constructor again. -/
def leaseOf (row : WorkRow) (workerId workerInstanceId : String) (generation : Nat) (deadline : PyFloat)
    (attempt : Nat) : Except PyError TaskLease :=
  match WorkDefinition.make row.fields with
  | .error e => .error e
  | .ok work => TaskLease.make {
      taskId := row.taskId, workKey := row.workKey, workerId, workerInstanceId, generation, leaseDeadline := deadline,
      attempt, work, cursor := row.cursor, nextSequenceNo := row.nextSequenceNo }

/-- The unexpired lease that a claim replays. -/
def activeLease (s : Store) (workerId workerInstanceId : String) (now : ℚ) : Option WorkRow :=
  (selectOrdered
    (s.work.rows.filter (fun r => r.state = .leased && r.leaseOwner = some workerId &&
      r.leaseOwnerInstance = some workerInstanceId && r.leaseDeadline.any (PyFloat.lt (.fin now))))
    (fun a b => thenBy a.updatedAt b.updatedAt (a.taskId ≤ b.taskId)) 1).head?

/-- The rows that a claim can grant. -/
def claimable (row : WorkRow) (now : ℚ) : Bool :=
  (row.state = .pending || row.state = .retry ||
    row.state = .leased && row.leaseDeadline.any (·.le (.fin now))) &&
  row.fields.notBefore.le (.fin now) && (row.attempt : ℤ) < row.fields.maxAttempts

/-- The rows that a claim looks at, highest priority first, then oldest. `scan` is the
    order in which the database meets rows that tie. -/
def candidates (s : Store) (now : ℚ) (scan : String → Nat) : List WorkRow :=
  selectOrdered (s.work.rows.filter (claimable · now))
    (fun a b => b.fields.priority.lt a.fields.priority ||
      !a.fields.priority.lt b.fields.priority && thenBy a.createdAt b.createdAt (scan a.taskId ≤ scan b.taskId)) 128

/-- The columns that a claim writes. -/
abbrev WorkRow.granted (row : WorkRow) (workerId workerInstanceId : String) (deadline : PyFloat) (now : ℚ) : WorkRow :=
  { row with
    state := .leased, leaseOwner := some workerId, leaseOwnerInstance := some workerInstanceId,
    leaseGeneration := row.leaseGeneration + 1, leaseDeadline := deadline.column, attempt := row.attempt + 1,
    updatedAt := now }

/-- `claim_work`. -/
def claimWork (s : Store) (now : ℚ) (scan : String → Nat) (workerId workerInstanceId : String)
    (leaseSeconds : PyFloat) : Answer (Option TaskLease) :=
  if leaseSeconds.le (.fin 0) then (.error (.valueError "lease_seconds must be positive"), s)
  else
    match workerRow s workerId workerInstanceId with
    | .error e => (.error e, s)
    | .ok worker =>
      match activeLease s workerId workerInstanceId now with
      | some active =>
        (some <$> leaseOf active workerId workerInstanceId active.leaseGeneration (active.leaseDeadline.getD .nan)
          active.attempt, s)
      | none =>
        match (candidates s now scan).find? (fun row => eligible row worker && regionEligible s row worker now) with
        | none => (.ok none, s)
        | some chosen =>
          let deadline := (PyFloat.fin now).add leaseSeconds
          -- The lease is built after the commit.
          (some <$> leaseOf chosen workerId workerInstanceId (chosen.leaseGeneration + 1) deadline (chosen.attempt + 1),
            { s with
              work := s.work.update (fun r => r.taskId = chosen.taskId && r.leaseGeneration = chosen.leaseGeneration)
                (·.granted workerId workerInstanceId deadline now) })

/-- A nullable text as `str(...)` shows it. -/
def strOf (column : Option String) : String := column.getD "None"

/-- `_assert_active_lease`. -/
def assertActiveLease (s : Store) (now : ℚ) (taskId workerId workerInstanceId : String) (generation : Int) :
    Except PyError WorkRow :=
  match s.work.get? taskId with
  | none => .error (.staleLease "worker no longer owns the active lease generation")
  | some row =>
    if row.state ≠ .leased || strOf row.leaseOwner ≠ workerId || strOf row.leaseOwnerInstance ≠ workerInstanceId ||
        row.leaseGeneration ≠ generation || row.leaseDeadline.all (·.le (.fin now)) then
      .error (.staleLease "worker no longer owns the active lease generation")
    else .ok row

/-- The deadline that `renew_task` writes, or keeps when an earlier renewal is replayed. -/
def renewedDeadline (now : ℚ) (current leaseSeconds : PyFloat) (expected : Option PyFloat) :
    Except PyError PyFloat :=
  match expected with
  | none => .ok ((PyFloat.fin now).add leaseSeconds)
  | some expected =>
    if current.lt expected then .error (.staleLease "authority lease deadline regressed below client expectation")
    else if expected.lt current then .ok current
    else .ok ((PyFloat.fin now).add leaseSeconds)

/-- `renew_task`. -/
def renewTask (s : Store) (now : ℚ) (taskId workerId workerInstanceId : String) (generation : Int)
    (leaseSeconds : PyFloat) (expectedLeaseDeadline : Option PyFloat) : Answer TaskLease :=
  if leaseSeconds.le (.fin 0) then (.error (.valueError "lease_seconds must be positive"), s)
  else
    match assertActiveLease s now taskId workerId workerInstanceId generation with
    | .error e => (.error e, s)
    | .ok row =>
      let current := row.leaseDeadline.getD .nan
      match renewedDeadline now current leaseSeconds expectedLeaseDeadline with
      | .error e => (.error e, s)
      | .ok deadline =>
        let lease := leaseOf row workerId workerInstanceId row.leaseGeneration deadline row.attempt
        if deadline = current then (lease, s)
        else (lease, { s with
          work := s.work.update (·.taskId = taskId)
            ({ · with leaseDeadline := deadline.column, updatedAt := now }) })

/-- The columns that an accepted batch writes. -/
abbrev WorkRow.committed (row : WorkRow) (cursorAfter : Option String) (final : Bool) (now : ℚ) : WorkRow :=
  { row with
    cursor := cursorAfter, nextSequenceNo := row.nextSequenceNo + 1, state := if final then .complete else .leased,
    leaseOwner := if final then none else row.leaseOwner,
    leaseOwnerInstance := if final then none else row.leaseOwnerInstance,
    leaseDeadline := if final then none else row.leaseDeadline, updatedAt := now }

/-- `commit_result_batch`. -/
def commitResultBatch (s : Store) (now : ℚ) (batch : ResultBatch) (workerId workerInstanceId : String) :
    Answer Bool :=
  match encodeUtf8 (batchPayload batch) with
  | none => (.error .unicodeEncodeError, s)
  | some bytes =>
    let digest := sha256Hex bytes
    match s.resultBatches.get? batch.batchId with
    | some existing =>
      if existing.payloadDigest ≠ digest then (.error (.batchConflict "batch replay changed payload"), s)
      else (.ok false, s)
    | none =>
      match assertActiveLease s now batch.taskId workerId workerInstanceId batch.generation with
      | .error e => (.error e, s)
      | .ok row =>
        if row.nextSequenceNo ≠ batch.sequenceNo then
          (.error (.batchSequence s!"expected sequence {row.nextSequenceNo}, got {batch.sequenceNo}"), s)
        else if s.resultBatches.rows.any (fun b => b.taskId = batch.taskId && b.sequenceNo = batch.sequenceNo) then
          (.error .integrityError, s)
        else
          (.ok true, { s with
            resultBatches := s.resultBatches.insert {
              batchId := batch.batchId, taskId := batch.taskId, generation := batch.generation,
              sequenceNo := batch.sequenceNo, payloadJson := batchPayload batch, payloadDigest := digest,
              cursorAfter := batch.cursorAfter, final := batch.final, committedAt := now, consumedAt := none,
              consumeAttempts := 0, consumeError := none, quarantined := false }
            work := s.work.update (·.taskId = batch.taskId) (·.committed batch.cursorAfter batch.final now) })

/-- `finish_task`. -/
def finishTask (s : Store) (now : ℚ) (taskId workerId workerInstanceId : String) (generation : Int) : Answer Unit :=
  match assertActiveLease s now taskId workerId workerInstanceId generation with
  | .error e => (.error e, s)
  | .ok _ => (.ok (), { s with work := s.work.update (·.taskId = taskId) (·.unleased .complete now) })

/-- Whether a failed row is tried again. -/
def canRetry (row : WorkRow) (retryable : Bool) : Bool := retryable && (row.attempt : ℤ) < row.fields.maxAttempts

/-- The `not_before` that a failure writes. -/
def retryAt (row : WorkRow) (now : ℚ) (retryable : Bool) (retryAfterSeconds : PyFloat) : PyFloat :=
  (PyFloat.fin now).add (if canRetry row retryable then retryAfterSeconds else .fin 0)

/-- The columns that a failure writes. -/
abbrev WorkRow.failed (row : WorkRow) (state : WorkState) (notBefore : PyFloat) (error : String) (now : ℚ) : WorkRow :=
  { row.unleased state now with
    fields := { row.fields with notBefore }, lastError := some (String.ofList (error.toList.take 2000)) }

/-- `fail_task`. A `not_before` that is no number breaks the NOT NULL of its column. -/
def failTask (s : Store) (now : ℚ) (taskId workerId workerInstanceId : String) (generation : Int) (error : String)
    (retryable : Bool) (retryAfterSeconds : PyFloat) : Answer Unit :=
  if retryAfterSeconds.lt (.fin 0) then (.error (.valueError "retry_after_seconds must be non-negative"), s)
  else
    match assertActiveLease s now taskId workerId workerInstanceId generation with
    | .error e => (.error e, s)
    | .ok row =>
      if (retryAt row now retryable retryAfterSeconds).isNan then (.error .integrityError, s)
      else
        (.ok (), { s with
          work := s.work.update (·.taskId = taskId)
            (·.failed (if canRetry row retryable then .retry else .dead) (retryAt row now retryable retryAfterSeconds)
              error now) })

/-- `task_row`. -/
def taskRow (s : Store) (taskId : String) : Except PyError WorkRow :=
  match s.work.get? taskId with
  | none => .error (.keyError taskId)
  | some row => .ok row

/-! ## Consuming batches -/

/-- `mark_batch_consumed`. -/
def markBatchConsumed (s : Store) (now : ℚ) (batchId : String) : Answer Bool :=
  (.ok (s.resultBatches.get? batchId).isSome, { s with
    resultBatches := s.resultBatches.update (·.batchId = batchId)
      (fun b => { b with consumedAt := some (b.consumedAt.getD now) }) })

/-- `mark_batch_consume_failed`. -/
def markBatchConsumeFailed (s : Store) (batchId error : String) (maxAttempts : Int) : Answer Bool :=
  if maxAttempts < 1 then (.error (.valueError "max_attempts must be positive"), s)
  else
    match s.resultBatches.get? batchId with
    | none => (.ok false, s)
    | some row =>
      if row.consumedAt.isSome then (.ok false, s)
      else
        let attempts := row.consumeAttempts + 1
        let quarantined := decide (maxAttempts ≤ attempts)
        (.ok quarantined, { s with
          resultBatches := s.resultBatches.update (·.batchId = batchId) (fun b => { b with
            consumeAttempts := attempts, consumeError := some (String.ofList (error.toList.take 2000)), quarantined }) })

/-! ## Request nonces -/

/-- `consume_request_nonce`; the deletion stays when the nonce was seen before. -/
def consumeRequestNonce (s : Store) (now : ℚ) (workerId nonce : String) (retentionSeconds : PyFloat) : Answer Bool :=
  if retentionSeconds.le (.fin 0) then (.error (.valueError "retention_seconds must be positive"), s)
  else
    let cutoff := (PyFloat.fin now).add retentionSeconds.neg
    let kept := s.requestNonces.delete (fun r => PyFloat.lt (.fin r.seenAt) cutoff)
    if (kept.get? (workerId, nonce)).isSome then (.ok false, { s with requestNonces := kept })
    else (.ok true, { s with requestNonces := kept.insert ⟨workerId, nonce, now⟩ })

/-! ## Provider budgets, regions and permits -/

/-- `1.0 / x` for a positive number. -/
def reciprocal : PyFloat → PyFloat
  | .fin q => .fin (1 / q)
  | .posInf => .fin 0
  | _ => .nan

/-- `configure_provider_budget`. A value that is no number breaks the NOT NULL of its column. -/
def configureProviderBudget (s : Store) (now : ℚ) (provider : String) (requestsPerSecond : PyFloat)
    (maxGlobalInflight : Int) (requireQualifiedRegion allowUnknownRegionProbe : Bool)
    (regionReprobeAfterSeconds : PyFloat) : Answer Unit :=
  if blank provider || requestsPerSecond.le (.fin 0) || maxGlobalInflight < 1 ||
      regionReprobeAfterSeconds.le (.fin 0) then (.error (.valueError "invalid provider budget"), s)
  else if requestsPerSecond.isNan || regionReprobeAfterSeconds.isNan then (.error .integrityError, s)
  else
    (.ok (), { s with
      providerBudgets := s.providerBudgets.upsert
        { provider, requestsPerSecond, maxGlobalInflight, requireQualifiedRegion, allowUnknownRegionProbe,
          regionReprobeAfterSeconds, nextRequestAt := .fin 0, cooldownUntil := .fin 0, updatedAt := now }
        (fun old => { old with
          requestsPerSecond, maxGlobalInflight, requireQualifiedRegion, allowUnknownRegionProbe,
          regionReprobeAfterSeconds, updatedAt := now }) })

/-- What one probe of a region saw. -/
structure Observation where
  connectSuccess : Bool
  statusCode : Option Int
  latencyMs : PyFloat
  responseBytes : Int
  timeout : Bool
  policyBlock : Bool

/-- The counters of a region after one more observation. -/
def RegionRow.observe (row : RegionRow) (seen : Observation) (now : ℚ) : RegionRow :=
  let success := seen.connectSuccess && seen.statusCode.any (· < 500) && !seen.policyBlock
  let throttle := seen.statusCode = some 429 || seen.statusCode = some 503
  { row with
    samples := row.samples + 1, successes := row.successes + success.toNat,
    timeouts := row.timeouts + seen.timeout.toNat, throttles := row.throttles + throttle.toNat,
    policyBlocks := row.policyBlocks + seen.policyBlock.toNat,
    totalLatencyMs := row.totalLatencyMs.add (if PyFloat.lt (.fin 0) seen.latencyMs then seen.latencyMs else .fin 0),
    responseBytes := row.responseBytes + max 0 seen.responseBytes, updatedAt := now }

/-- The state that the counters of a region give. -/
def RegionRow.judged (row : RegionRow) (policyBlock : Bool) : RegionState :=
  let failures := row.timeouts + row.throttles + row.policyBlocks
  if policyBlock then .blocked
  else if 3 ≤ row.samples ∧ 2 ≤ row.successes ∧ failures ≤ row.samples / 2 then .qualified
  else if 3 ≤ row.samples ∧ row.successes = 0 then .unqualified
  else .unknown

/-- `record_provider_region_observation`. -/
def recordProviderRegionObservation (s : Store) (now : ℚ) (provider workerId workerInstanceId taskId : String)
    (generation : Int) (seen : Observation) : Answer RegionState :=
  match workerRow s workerId workerInstanceId with
  | .error e => (.error e, s)
  | .ok worker =>
    match assertActiveLease s now taskId workerId workerInstanceId generation with
    | .error e => (.error e, s)
    | .ok _ =>
      let region := worker.descriptor.region
      let fresh : RegionRow := ⟨provider, region, .unknown, 0, 0, 0, 0, 0, .fin 0, 0, now⟩
      let row := ((s.providerRegions.get? (provider, region)).getD fresh).observe seen now
      let state := row.judged seen.policyBlock
      (.ok state, { s with
        providerRegions := s.providerRegions.upsert { fresh.observe seen now with state }
          (fun old => { old.observe seen now with state }) })

/-- `_egress_day_key`. -/
def egressDayKey (now : ℚ) : Int := ⌊now / 86400⌋

/-- `_egress_available`. -/
def egressAvailable (s : Store) (worker : WorkerRow) (now : ℚ) : Bool :=
  worker.descriptor.dailyEgressBudgetBytes ≤ 0 ||
    (s.workerEgressDaily.get? (worker.descriptor.workerId, egressDayKey now)).all
      (·.responseBytes < worker.descriptor.dailyEgressBudgetBytes)

/-- The permit of an earlier request with the same identifier. -/
def priorPermit (s : Store) (workerId requestId : String) : Option PermitRow :=
  s.providerPermits.rows.find? (fun p => p.workerId = workerId && p.requestId = requestId)

/-- `active` and not expired. -/
def PermitRow.live (p : PermitRow) (now : ℚ) : Bool := p.active && PyFloat.lt (.fin now) p.expiresAt

/-- Expired permits of a provider lose `active`. -/
def sweepPermits (permits : Table PermitRow String (·.permitId)) (provider : String) (now : ℚ) :
    Table PermitRow String (·.permitId) :=
  permits.update (fun p => p.provider = provider && p.active && p.expiresAt.le (.fin now)) ({ · with active := false })

/-- Whether the region of the worker keeps a permit back. -/
def regionDenies (s : Store) (permits : Table PermitRow String (·.permitId)) (budget : BudgetRow)
    (worker : WorkerRow) (now : ℚ) : Bool :=
  budget.requireQualifiedRegion &&
    (let region := worker.descriptor.region
    match observedState budget (s.providerRegions.get? (budget.provider, region)) now with
    | .blocked | .unqualified => true
    | .qualified => false
    | .unknown =>
      !budget.allowUnknownRegionProbe ||
        permits.rows.any (fun p => p.provider = budget.provider && p.active &&
          (s.workers.get? p.workerId).any (·.descriptor.region = region)))

def activePermits (permits : Table PermitRow String (·.permitId)) (provider : String) : Nat :=
  permits.rows.countP (fun p => p.provider = provider && p.active)

/-- Whether the in-flight limit, the rate or a cooldown keeps a permit back. -/
def budgetDenies (permits : Table PermitRow String (·.permitId)) (budget : BudgetRow) (now : ℚ) : Bool :=
  budget.maxGlobalInflight ≤ activePermits permits budget.provider ||
    PyFloat.lt (.fin now) budget.nextRequestAt || PyFloat.lt (.fin now) budget.cooldownUntil

/-- `issue_provider_permit`; `permitId` is the drawn identifier. Every answer but a fresh
    permit rolls back. -/
def issueProviderPermit (s : Store) (now : ℚ) (permitId provider workerId workerInstanceId taskId : String)
    (generation : Int) (requestId : String) (ttlSeconds : PyFloat) : Answer (Option ProviderPermit) :=
  if blank requestId || ttlSeconds.le (.fin 0) then (.error (.valueError "invalid provider permit request"), s)
  else
    match workerRow s workerId workerInstanceId with
    | .error e => (.error e, s)
    | .ok worker =>
      match assertActiveLease s now taskId workerId workerInstanceId generation with
      | .error e => (.error e, s)
      | .ok _ =>
        if !worker.descriptor.allowedProviders.contains provider then (.error (.providerAccessDenied provider), s)
        else if !egressAvailable s worker now then (.error (.workerEgressBudgetExceeded workerId), s)
        else
          match (priorPermit s workerId requestId).filter (·.live now) with
          | some prior =>
            if prior.provider ≠ provider || prior.workerInstanceId ≠ workerInstanceId || prior.taskId ≠ taskId ||
                prior.generation ≠ generation then
              (.error (.providerAccessDenied "permit request id is bound to different work"), s)
            else (.ok (some prior.toProviderPermit), s)
          | none =>
            let kept := s.providerPermits.delete (fun p => (priorPermit s workerId requestId).any (·.permitId = p.permitId))
            match s.providerBudgets.get? provider with
            | none => (.error (.providerAccessDenied ("provider budget is not configured: " ++ provider)), s)
            | some budget =>
              let swept := sweepPermits kept provider now
              if regionDenies s swept budget worker now || budgetDenies swept budget now then (.ok none, s)
              else
                let permit : ProviderPermit := {
                  permitId, requestId, provider, workerId, workerInstanceId, taskId, generation, allowedRequests := 1,
                  maxInflight := budget.maxGlobalInflight, expiresAt := (PyFloat.fin now).add ttlSeconds }
                if permit.expiresAt.isNan || (swept.get? permitId).isSome then (.error .integrityError, s)
                else
                  (.ok (some permit), { s with
                    providerBudgets := s.providerBudgets.update (·.provider = provider) (fun b => { b with
                      nextRequestAt := (PyFloat.fin now).add (reciprocal budget.requestsPerSecond), updatedAt := now })
                    providerPermits := swept.insert {
                      toProviderPermit := permit, active := true, issuedAt := now, statusCode := none } })

/-- The response bytes of a report, added to the day of a worker. -/
def addEgress (egress : Table EgressRow (String × Int) (fun r => (r.workerId, r.dayKey))) (workerId : String)
    (responseBytes : Int) (now : ℚ) : Table EgressRow (String × Int) (fun r => (r.workerId, r.dayKey)) :=
  egress.upsert ⟨workerId, egressDayKey now, responseBytes, now⟩
    (fun old => { old with responseBytes := old.responseBytes + responseBytes, updatedAt := now })

/-- `MAX(cooldown_until, ?)`. -/
def laterOf (a b : PyFloat) : PyFloat := if a.lt b then b else a

/-- `report_provider_permit`. -/
def reportProviderPermit (s : Store) (now : ℚ) (permitId workerId workerInstanceId : String)
    (statusCode : Option Int) (cooldownSeconds : PyFloat) (responseBytes : Int) : Answer Unit :=
  if cooldownSeconds.lt (.fin 0) || responseBytes < 0 then (.error (.valueError "invalid provider report"), s)
  else
    match workerRow s workerId workerInstanceId with
    | .error e => (.error e, s)
    | .ok _ =>
      match (s.providerPermits.get? permitId).filter
          (fun p => p.workerId = workerId && p.workerInstanceId = workerInstanceId) with
      | none => (.error (.providerAccessDenied "unknown provider permit"), s)
      | some row =>
        if !row.active then (.ok (), s)
        else if cooldownSeconds.isNan && (s.providerBudgets.get? row.provider).isSome then (.error .integrityError, s)
        else
          (.ok (), { s with
            providerPermits := s.providerPermits.update (·.permitId = permitId) ({ · with active := false, statusCode })
            providerBudgets :=
              if cooldownSeconds = .fin 0 then s.providerBudgets
              else s.providerBudgets.update (·.provider = row.provider) (fun b => { b with
                cooldownUntil := laterOf b.cooldownUntil ((PyFloat.fin now).add cooldownSeconds), updatedAt := now })
            workerEgressDaily := addEgress s.workerEgressDaily workerId responseBytes now })

/-! ## Garbage collection -/

/-- The counts that `gc_transient_state` reports. -/
structure GcReport where
  providerPermits : Nat
  resultBatches : Nat
  requestNonces : Nat
  egressDays : Nat
  workPayloadsCompacted : Nat
  deriving DecidableEq

/-- A consumed batch, or a quarantined one, past the cutoff. -/
def BatchRow.disposable (b : BatchRow) (cutoff : ℚ) : Bool :=
  b.consumedAt.any (· ≤ cutoff) || b.quarantined && b.committedAt ≤ cutoff

/-- Rows that `gc_transient_state` compacts, once the batches and permits are pruned. -/
def compactable (batches : List BatchRow) (permits : List PermitRow) (row : WorkRow) (cutoff : ℚ) : Bool :=
  row.state = .complete && row.updatedAt ≤ cutoff && !row.fields.payload.members.isEmpty &&
    !batches.any (fun b => b.taskId = row.taskId && b.consumedAt.isNone && !b.quarantined) &&
    !permits.any (fun p => p.taskId = row.taskId && p.active)

/-- The columns that compaction writes. -/
abbrev WorkRow.compacted (row : WorkRow) : WorkRow :=
  { row with fields := { row.fields with payload := emptyDict }, cursor := none, lastError := none }

/-- `gc_transient_state`. -/
def gcTransientState (s : Store) (now : ℚ) (retentionSeconds : PyFloat) (limit : Int) : Answer GcReport :=
  match retentionSeconds with
  | .fin retention =>
    if retention ≤ 0 then (.error (.valueError "retention_seconds must be finite and positive"), s)
    else if limit < 1 then (.error (.valueError "limit must be a positive integer"), s)
    else
      let cutoff := now - retention
      let permits := selectOrdered (s.providerPermits.rows.filter (fun p => !p.active && p.expiresAt.le (.fin cutoff)))
        (fun a b => a.expiresAt.lt b.expiresAt || !b.expiresAt.lt a.expiresAt && a.permitId ≤ b.permitId) limit.toNat
      let batches := selectOrdered (s.resultBatches.rows.filter (·.disposable cutoff))
        (fun a b => thenBy a.committedAt b.committedAt (a.batchId ≤ b.batchId)) limit.toNat
      let nonces := selectOrdered (s.requestNonces.rows.filter (·.seenAt ≤ cutoff))
        (fun a b => thenBy a.seenAt b.seenAt (a.workerId < b.workerId || a.workerId = b.workerId && a.nonce ≤ b.nonce))
        limit.toNat
      let egressDays := selectOrdered (s.workerEgressDaily.rows.filter (·.updatedAt ≤ cutoff))
        (fun a b => thenBy a.updatedAt b.updatedAt (a.workerId < b.workerId || a.workerId = b.workerId && a.dayKey ≤ b.dayKey))
        limit.toNat
      let keptPermits := s.providerPermits.delete (fun p => permits.any (·.permitId = p.permitId))
      let keptBatches := s.resultBatches.delete (fun b => batches.any (·.batchId = b.batchId))
      let compact := selectOrdered
        (s.work.rows.filter (fun r => compactable keptBatches.rows keptPermits.rows r cutoff))
        (fun a b => thenBy a.updatedAt b.updatedAt (a.taskId ≤ b.taskId)) limit.toNat
      (.ok ⟨permits.length, batches.length, nonces.length, egressDays.length, compact.length⟩, { s with
        providerPermits := keptPermits
        resultBatches := keptBatches
        requestNonces := s.requestNonces.delete
          (fun r => nonces.any (fun n => n.workerId = r.workerId && n.nonce = r.nonce))
        workerEgressDaily := s.workerEgressDaily.delete
          (fun r => egressDays.any (fun e => e.workerId = r.workerId && e.dayKey = r.dayKey))
        work := s.work.update (fun r => compact.any (·.taskId = r.taskId)) (·.compacted) })
  | _ => (.error (.valueError "retention_seconds must be finite and positive"), s)

/-! ## The machine -/

inductive Op
  | registerWorker (descriptor : WorkerDescriptor)
  | heartbeat (workerId workerInstanceId : String)
  | revokeWorker (workerId : String)
  | admitWork (taskId : String) (work : WorkDefinition)
  | claimWork (scan : String → Nat) (workerId workerInstanceId : String) (leaseSeconds : PyFloat)
  | renewTask (taskId workerId workerInstanceId : String) (generation : Int) (leaseSeconds : PyFloat)
      (expectedLeaseDeadline : Option PyFloat)
  | commitResultBatch (batch : ResultBatch) (workerId workerInstanceId : String)
  | finishTask (taskId workerId workerInstanceId : String) (generation : Int)
  | failTask (taskId workerId workerInstanceId : String) (generation : Int) (error : String) (retryable : Bool)
      (retryAfterSeconds : PyFloat)
  | markBatchConsumed (batchId : String)
  | markBatchConsumeFailed (batchId error : String) (maxAttempts : Int)
  | gcTransientState (retentionSeconds : PyFloat) (limit : Int)
  | consumeRequestNonce (workerId nonce : String) (retentionSeconds : PyFloat)
  | configureProviderBudget (provider : String) (requestsPerSecond : PyFloat) (maxGlobalInflight : Int)
      (requireQualifiedRegion allowUnknownRegionProbe : Bool) (regionReprobeAfterSeconds : PyFloat)
  | recordProviderRegionObservation (provider workerId workerInstanceId taskId : String) (generation : Int)
      (seen : Observation)
  | issueProviderPermit (permitId provider workerId workerInstanceId taskId : String) (generation : Int)
      (requestId : String) (ttlSeconds : PyFloat)
  | reportProviderPermit (permitId workerId workerInstanceId : String) (statusCode : Option Int)
      (cooldownSeconds : PyFloat) (responseBytes : Int)

/-- What the calls return. -/
inductive Reply
  | nothing
  | admitted (taskId : String) (created : Bool)
  | claimed (lease : Option TaskLease)
  | renewed (lease : TaskLease)
  | flag (value : Bool)
  | collected (report : GcReport)
  | region (state : RegionState)
  | permit (permit : Option ProviderPermit)

/-! ### The keys of written rows -/

theorem WorkRow.committed_taskId (now : ℚ) (batch : ResultBatch) (r : WorkRow) :
    (r.committed batch.cursorAfter batch.final now).taskId = r.taskId := rfl

theorem BudgetRow.paced_provider (now : ℚ) (budget r : BudgetRow) : { r with
    nextRequestAt := (PyFloat.fin now).add (reciprocal budget.requestsPerSecond), updatedAt := now : BudgetRow }.provider = r.provider := rfl

theorem BudgetRow.cooled_provider (now : ℚ) (cooldown : PyFloat) (r : BudgetRow) : { r with
    cooldownUntil := laterOf r.cooldownUntil ((PyFloat.fin now).add cooldown), updatedAt := now : BudgetRow }.provider = r.provider := rfl

theorem PermitRow.reported_permitId (statusCode : Option Int) (r : PermitRow) :
    { r with active := false, statusCode : PermitRow }.permitId = r.permitId := rfl

/-- A call at a reading of the clock, in seconds since the epoch. -/
structure Event where
  now : ℚ
  op : Op
  sinceEpoch : 0 ≤ now := by norm_num

theorem zero_sinceEpoch : (0 : ℚ) ≤ 0 := le_rfl

theorem one_sinceEpoch : (0 : ℚ) ≤ 1 := by norm_num

theorem two_sinceEpoch : (0 : ℚ) ≤ 2 := by norm_num

theorem three_sinceEpoch : (0 : ℚ) ≤ 3 := by norm_num

def Answer.reply {α : Type} (answer : Answer α) (wrap : α → Reply) : Answer Reply := (wrap <$> answer.1, answer.2)

def step (s : Store) (e : Event) : Except PyError Reply × Store :=
  match e.op with
  | .registerWorker d => Answer.reply (registerWorker s e.now d) (fun _ => .nothing)
  | .heartbeat w i => Answer.reply (heartbeat s e.now w i) (fun _ => .nothing)
  | .revokeWorker w => Answer.reply (revokeWorker s e.now w) (fun _ => .nothing)
  | .admitWork t work => Answer.reply (admitWork s e.now t work) (fun r => .admitted r.1 r.2)
  | .claimWork scan w i ls => Answer.reply (claimWork s e.now scan w i ls) .claimed
  | .renewTask t w i g ls x => Answer.reply (renewTask s e.now t w i g ls x) .renewed
  | .commitResultBatch b w i => Answer.reply (commitResultBatch s e.now b w i) .flag
  | .finishTask t w i g => Answer.reply (finishTask s e.now t w i g) (fun _ => .nothing)
  | .failTask t w i g err retry after => Answer.reply (failTask s e.now t w i g err retry after) (fun _ => .nothing)
  | .markBatchConsumed b => Answer.reply (markBatchConsumed s e.now b) .flag
  | .markBatchConsumeFailed b err m => Answer.reply (markBatchConsumeFailed s b err m) .flag
  | .gcTransientState ret limit => Answer.reply (gcTransientState s e.now ret limit) .collected
  | .consumeRequestNonce w n ret => Answer.reply (consumeRequestNonce s e.now w n ret) .flag
  | .configureProviderBudget p rps m q u r =>
    Answer.reply (configureProviderBudget s e.now p rps m q u r) (fun _ => .nothing)
  | .recordProviderRegionObservation p w i t g seen =>
    Answer.reply (recordProviderRegionObservation s e.now p w i t g seen) .region
  | .issueProviderPermit id p w i t g r ttl => Answer.reply (issueProviderPermit s e.now id p w i t g r ttl) .permit
  | .reportProviderPermit id w i code cooldown bytes =>
    Answer.reply (reportProviderPermit s e.now id w i code cooldown bytes) (fun _ => .nothing)

def authority : Machine Store Event (Except PyError Reply) := ⟨Store.empty, step⟩

end Creeper.AuthorityStore
