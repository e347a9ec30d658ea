import Creeper.AuthorityStore
import Creeper.BatchPayload
import Creeper.ResultCommit

/-!
# Accepting distributed results

`DistributedEvidenceBridge.drain` reads the result that a worker put into its batch and commits
it to the evidence task that the batch was dispatched for. The kind of the result is the
worker's word: a PASS need not carry a capsule, and a result of one kind can finish a task of
another.
-/

namespace Creeper.EvidenceBridge
open Creeper.Tables Creeper.PyText Creeper.PyNumbers Creeper.JsonText Creeper.Transactions Creeper.EvidenceTasks
open Creeper.ResultCommit
open Creeper.EvidenceStore (CapsuleFields EvidenceCapsule)
open Creeper.EvidenceQueue (ownedBy finishedRow)
open Creeper.BatchPayload (member charsOf)
open Creeper.FabricModels (PyError)
open Creeper.AuthorityStore (BatchRow WorkRow)

/-! ## Values -/

/-- What Python makes of a text in lower case, and the text of a float, an array or an object. -/
structure Python where
  lower : String → String
  repr : Json → String

/-- `str(value)`. -/
def Python.str (py : Python) : Json → Option String
  | .str text => (charsOf text).map String.ofList
  | .null => some "None"
  | .bool true => some "True"
  | .bool false => some "False"
  | .int n => some (toString n)
  | value => some (py.repr value)

/-- `int(text)`: underscores stand between digits, of which there are at most 4300. -/
def intText (text : List Char) : Option Int :=
  let ascii := (((text.map asciiForm).dropWhile cSpace).reverse.dropWhile cSpace).reverse
  match withoutUnderscores '\x00' ascii with
  | none => none
  | some chars =>
    let (negative, digits) := signOf chars
    if digits.isEmpty || !digits.all Char.isDigit || 4300 < digits.length then none
    else some (if negative then -(natOfDigits digits : Int) else natOfDigits digits)

/-- `int(value)`. -/
def intOf : Json → Option Int
  | .int n => some n
  | .bool value => some (if value then 1 else 0)
  | .float (.finite text _) =>
    match floatOf (String.ofList text) with
    | some (.fin q) => some (q.num.tdiv q.den)
    | _ => none
  | .str text => (charsOf text).bind intText
  | _ => none

/-- `isinstance(value, Mapping)`. -/
def isMapping : Json → Bool
  | .obj _ => true
  | _ => false

/-- `normalize_official`. -/
def Python.normalizeOfficial (py : Python) (raw : String) : Option String :=
  let value := py.lower (strip raw)
  if officialHost value then some value else none

/-- The value of a member of `CDXQueryState`. -/
def queryState : String → Option QueryState
  | "unknown" => some .unknown
  | "pending" => some .pending
  | "pass" => some .pass
  | "empty_exhaustive" => some .emptyExhaustive
  | "decomposed" => some .decomposed
  | "incomplete" => some .incomplete
  | "transient_error" => some .transientError
  | "invalid" => some .invalid
  | _ => none

/-! ## The reader -/

section
variable (py : Python) (raw : Json)

/-- `str(raw[name])`. -/
def text (name : String) : Option String := (member raw name).bind py.str

/-- `str(raw.get(name, ""))`. -/
def textOrEmpty (name : String) : Option String := ((member raw name).map py.str).getD (some "")

/-- `int(raw[name])`. -/
def number (name : String) : Option Int := (member raw name).bind intOf

/-- `int(raw.get(name, 0))`. -/
def count (name : String) : Option Int := ((member raw name).map intOf).getD (some 0)

/-- The constructors of `TemporalScope` and `EvidenceQueryKey`, of a normalized hostname. -/
def makeKey (hostname : String) (yearFrom yearTo : Int) (provider policyVersion : String) : Option EvidenceQueryKey :=
  if valid : officialHost hostname && (1996 ≤ yearFrom && yearFrom ≤ yearTo && yearTo ≤ 2001) && !FabricModels.blank provider &&
      !FabricModels.blank policyVersion then
    some ⟨hostname, yearFrom, yearTo, provider, policyVersion, valid⟩
  else none

/-- `deserialize_key`. -/
def deserializeKey : Option EvidenceQueryKey := do
  let hostname ← text py raw "hostname"
  let yearFrom ← number raw "year_from"
  let yearTo ← number raw "year_to"
  let provider ← text py raw "provider"
  let policyVersion ← text py raw "policy_version"
  makeKey (← py.normalizeOfficial hostname) yearFrom yearTo provider policyVersion

/-- `deserialize_capsule`. -/
def deserializeCapsule : Option EvidenceCapsule := do
  let fields : CapsuleFields := {
    hostname := ← py.normalizeOfficial (← text py raw "hostname")
    year := ← number raw "year"
    provider := ← text py raw "provider"
    temporalSemantics := ← text py raw "temporal_semantics"
    evidenceTimestamp := ← text py raw "evidence_timestamp"
    sourceLocator := ← text py raw "source_locator"
    payloadHash := ← text py raw "payload_hash"
    policyVersion := ← text py raw "policy_version"
    evidenceType := ← textOrEmpty py raw "evidence_type"
    sourceId := ← textOrEmpty py raw "source_id"
    originalUrl := ← textOrEmpty py raw "original_url"
    recordLocator := ← textOrEmpty py raw "record_locator"
    extractionMethod := ← textOrEmpty py raw "extraction_method" }
  (EvidenceCapsule.make fields).toOption

/-- What all results say of their cost. -/
def readAccounting : Option Accounting := do
  return {
    pagesSeen := ← count raw "pages_seen"
    recordsSeen := ← count raw "records_seen"
    providerRequests := ← count raw "provider_requests"
    providerElapsedMilliseconds := ← count raw "provider_elapsed_milliseconds"
    error := ←
      match member raw "error" with
      | none | some .null => some none
      | some value => (py.str value).map some }

/-- `raw.get(name, ())`, which must be a list. -/
def items (name : String) : Option (List Json) := (member raw name).bind BatchPayload.asItems

/-- The capsules of an array; what is no object is passed over. -/
def deserializeCapsules (values : List Json) : Option (List EvidenceCapsule) :=
  (values.filter isMapping).mapM (deserializeCapsule py)

/-- A result, when its constructor accepts it. -/
def makeExact (fields : ExactFields) : Option ProviderResult :=
  if valid : fields.postInit = none then some (.exact ⟨fields, valid⟩) else none

def makeRange (fields : RangeFields) : Option ProviderResult :=
  if valid : fields.postInit = none then some (.range ⟨fields, valid⟩) else none

def makeDomain (fields : DomainFields) : Option ProviderResult :=
  if valid : fields.postInit = none then some (.domain ⟨fields, valid⟩) else none

/-- The branch of `EVIDENCE_DOMAIN_RESULT`. -/
def deserializeDomain (key : EvidenceQueryKey) (state : QueryState) (accounting : Accounting) : Option ProviderResult := do
  let values ← items raw "capsules"
  let domain ← py.normalizeOfficial (← text py raw "domain")
  makeDomain { accounting with domain, key, state, capsules := ← deserializeCapsules py values }

/-- The branch of `EVIDENCE_RANGE_RESULT`. -/
def deserializeRange (key : EvidenceQueryKey) (state : QueryState) (accounting : Accounting) : Option ProviderResult := do
  let values ← items raw "capsules"
  let candidates ← items raw "candidate_years"
  let followups ← items raw "followup_years"
  let hostname ← py.normalizeOfficial (← text py raw "hostname")
  makeRange { accounting with
    hostname, key, state
    candidateYears := ← candidates.mapM intOf
    followupYears := ← followups.mapM intOf
    capsules := ← deserializeCapsules py values }

/-- `raw.get("capsule")`: an object or nothing. -/
def exactCapsule : Option (Option EvidenceCapsule) :=
  match member raw "capsule" with
  | none | some .null => some none
  | some value => if isMapping value then (deserializeCapsule py value).map some else none

/-- The branch of `EVIDENCE_EXACT_RESULT`. -/
def deserializeExact (key : EvidenceQueryKey) (state : QueryState) (accounting : Accounting) : Option ProviderResult := do
  let hostname ← py.normalizeOfficial (← text py raw "hostname")
  let year ← number raw "year"
  makeExact { accounting with hostname, year, state, capsule := ← exactCapsule py raw, key := some key }

/-- `deserialize_result`; a payload that it raises on gives nothing. -/
def deserializeResult : Option ProviderResult := do
  let keyRaw ← member raw "key"
  if !isMapping keyRaw then none
  else
    let key ← deserializeKey py keyRaw
    let state ← queryState (← text py raw "state")
    let accounting ← readAccounting py raw
    let kind ← textOrEmpty py raw "kind"
    if kind = "EVIDENCE_DOMAIN_RESULT" then deserializeDomain py raw key state accounting
    else if kind = "EVIDENCE_RANGE_RESULT" then deserializeRange py raw key state accounting
    else if kind = "EVIDENCE_EXACT_RESULT" then deserializeExact py raw key state accounting
    else none

end

/-! ## Stores -/

/-- The state of a row of `fabric_evidence_dispatch_v1`. -/
inductive MappingState
  | active
  | consumed
  | stale
  | failed
  deriving DecidableEq, Repr

/-- A row of `fabric_evidence_dispatch_v1`: the Fabric work of an attempt of a task. -/
structure MappingRow where
  key : EvidenceQueryKey
  attempt : Nat
  fabricTaskId : String
  fabricWorkKey : String
  state : MappingState
  dispatchedAt : ℚ≥0
  deriving DecidableEq

structure World extends Databases where
  dispatch : Table MappingRow (EvidenceQueryKey × Nat) (fun r => (r.key, r.attempt))
  fabric : AuthorityStore.Store

def World.put (d : Databases) (w : World) : World := { w with toDatabases := d }

/-- What ends a call: a payload that cannot be read, or an exception. -/
inductive BridgeError
  | malformed
  | raised (err : PyError)
  deriving DecidableEq

abbrev BridgeCall := Call World BridgeError

/-- A call on the control and the evidence database. -/
def onDatabases {α : Type} (call : CommitCall α) : BridgeCall α :=
  call.within World.toDatabases World.put .raised

def onFabric {α : Type} (f : ℚ → AuthorityStore.Store → AuthorityStore.Answer α) : BridgeCall α :=
  .atomic fun w => ((f w.clock w.fabric).1.mapError .raised, { w with fabric := (f w.clock w.fabric).2 })

/-- `DistributedEvidenceBridge`, with the texts of exceptions, which are only stored. -/
structure Bridge extends Committer where
  py : Python
  describe : BridgeError → String
  leaseSeconds : PyFloat

/-- `EvidenceBridgeReport`. -/
structure EvidenceBridgeReport where
  committed : Nat := 0
  terminal : Nat := 0
  retryable : Nat := 0
  insertedCapsules : Nat := 0
  stale : Nat := 0
  failed : Nat := 0
  quarantined : Nat := 0
  deriving DecidableEq

/-! ## One batch -/

/-- `PRODUCER_NAME`. -/
def producerName : String := "EvidenceQueryProducer"

/-- `task_row`, whose exception is caught. -/
def workRow (fabricTaskId : String) : BridgeCall (Option WorkRow) :=
  .atomic fun w => (.ok (w.fabric.work.get? fabricTaskId), w)

/-- `_dispatch_row`. -/
def dispatchRow (fabricTaskId : String) : BridgeCall (Option MappingRow) :=
  .atomic fun w => (.ok (w.dispatch.rows.find? (·.fabricTaskId = fabricTaskId)), w)

def taskOf (row : TaskRow) : EvidenceTask := ⟨row.key, row.state, row.attempt, row.retryAt, row.leaseOwner, row.leaseUntil⟩

/-- `_current_task`. -/
def currentTask (key : EvidenceQueryKey) : BridgeCall (Option EvidenceTask) :=
  .atomic fun w => (.ok ((w.queue.tasks.get? key).map taskOf), w)

/-- `_mapping_state`. -/
def mappingState (fabricTaskId : String) (state : MappingState) : BridgeCall Unit :=
  .atomic fun w => (.ok (), { w with dispatch := w.dispatch.update (·.fabricTaskId = fabricTaskId) ({ · with state }) })

/-- `mark_batch_consumed`. -/
def markConsumed (batchId : String) : BridgeCall Bool := onFabric fun now s => AuthorityStore.markBatchConsumed s now batchId

/-- `mark_batch_consume_failed`, with its default of 20 attempts. -/
def markConsumeFailed (batchId error : String) : BridgeCall Bool :=
  onFabric fun _ s => AuthorityStore.markBatchConsumeFailed s batchId error 20

def resultRaw (batch : BatchRow) : Except BridgeError Json :=
  match loads batch.payloadJson with
  | none => .error .malformed
  | some payload =>
    if !isMapping payload then .error (.raised (.valueError "expected JSON object"))
    else
      match (member payload "results").bind BatchPayload.asItems with
      | some [raw] => if isMapping raw then .ok raw else .error (.raised (.valueError "Fabric evidence result must be an object"))
      | _ => .error (.raised (.valueError "Fabric evidence batch must contain exactly one result"))

/-- `int(work_payload.get("attempt", -1))`. -/
def workAttempt (work : WorkRow) : Option Int := ((member (.obj work.fields.payload.members) "attempt").map intOf).getD (some (-1))

namespace Bridge
variable (b : Bridge)

/-- The attempt and the lease are still those of the mapping. -/
def current (mapping : MappingRow) (task : EvidenceTask) : Bool :=
  task.attempt = mapping.attempt && task.leaseOwner = some b.owner

/-- What `drain` checks before it commits. -/
def accepted (batch : BatchRow) (work : WorkRow) (task : EvidenceTask) : Except BridgeError ProviderResult :=
  match resultRaw batch with
  | .error err => .error err
  | .ok raw =>
    match deserializeResult b.py raw with
    | none => .error .malformed
    | some result =>
      match workAttempt work with
      | none => .error .malformed
      | some attempt =>
        if attempt ≠ task.attempt then .error (.raised (.valueError "Fabric evidence attempt disagrees with mapping"))
        else if result.key ≠ some task.key then .error (.raised (.valueError "Fabric evidence result key disagrees with mapping"))
        else .ok result

/-- `_release_dead_mapping`. -/
def releaseDeadMapping (mapping : MappingRow) : BridgeCall Unit := do
  match (← currentTask mapping.key).filter (b.current mapping) with
  | none => mappingState mapping.fabricTaskId .failed
  | some task =>
    let _finished ← onDatabases (b.retry task mapping.key .transientError)
    mappingState mapping.fabricTaskId .failed

/-- The body of the `try`. -/
def commitBatch (batch : BatchRow) (work : WorkRow) (task : EvidenceTask) : BridgeCall EvidenceBridgeReport := do
  match b.accepted batch work task with
  | .error err => throw err
  | .ok result =>
    let outcome ← onDatabases (b.commit task result)
    mappingState batch.taskId .consumed
    let _marked ← markConsumed batch.batchId
    return { committed := 1, terminal := outcome.terminal, retryable := outcome.retryable, insertedCapsules := outcome.insertedCapsules }

/-- The handler of its exceptions. -/
def refuseBatch (batch : BatchRow) (mapping : MappingRow) (err : BridgeError) : BridgeCall EvidenceBridgeReport := do
  let quarantined ← markConsumeFailed batch.batchId (b.describe err)
  if quarantined then
    b.releaseDeadMapping mapping
    return { failed := 1, quarantined := 1 }
  else return { failed := 1 }

/-- One turn of the loop of `drain`. -/
def drainBatch (batch : BatchRow) : BridgeCall EvidenceBridgeReport := do
  match ← workRow batch.taskId with
  | none => return {}
  | some work =>
    if work.fields.producer ≠ producerName then return {}
    else
      match ← dispatchRow batch.taskId with
      | none =>
        let quarantined ← markConsumeFailed batch.batchId "Fabric evidence batch has no dispatch mapping"
        return { failed := 1, quarantined := quarantined.toNat }
      | some mapping =>
        if mapping.state ≠ .active then
          let _marked ← markConsumed batch.batchId
          return { stale := 1 }
        else
          match (← currentTask mapping.key).filter (b.current mapping) with
          | none =>
            mappingState batch.taskId .stale
            let _marked ← markConsumed batch.batchId
            return { stale := 1 }
          | some task => tryCatch (b.commitBatch batch work task) (b.refuseBatch batch mapping)

end Bridge

/-! ## What was read -/

/-- The payload carries a capsule object. -/
def carriesCapsule (py : Python) (raw : Json) : Bool :=
  if textOrEmpty py raw "kind" = some "EVIDENCE_EXACT_RESULT" then (member raw "capsule").any isMapping
  else ((items raw "capsules").getD []).any isMapping

section
variable {py : Python} {raw : Json} {key : EvidenceQueryKey} {state : QueryState} {accounting : Accounting} {result : ProviderResult}

theorem queryState_pass {name : String} (pass : queryState name = some .pass) : name = "pass" := by
  unfold queryState at pass
  split at pass <;> first | rfl | cases pass

/-- Reading every value of a list gives as many values. -/
theorem length_mapM {α β : Type} {read : α → Option β} {values : List α} {results : List β}
    (each : values.mapM read = some results) : results.length = values.length := by
  induction values generalizing results with
  | nil =>
    cases each
    rfl
  | cons value rest ih =>
    simp only [List.mapM_cons, Option.bind_eq_bind, Option.bind_eq_some_iff] at each
    obtain ⟨first, -, others, later, same⟩ := each
    cases same
    rw [List.length_cons, ih later, List.length_cons]

theorem capsules_empty {values : List Json} {capsules : List EvidenceCapsule} (read : deserializeCapsules py values = some capsules) :
    capsules = [] ↔ values.any isMapping = false := by
  rw [← List.length_eq_zero_iff, length_mapM read, List.length_eq_zero_iff, List.filter_eq_nil_iff, List.any_eq_false]

/-- A result of the worker's kind, with the state and the capsules of its payload. -/
structure Read (py : Python) (raw : Json) (kind : String) (result : ProviderResult) : Prop where
  kind : textOrEmpty py raw "kind" = some kind
  state : (text py raw "state").bind queryState = some result.state
  capsules : result.capsules = [] ↔ carriesCapsule py raw = false

theorem domain_read (kind : textOrEmpty py raw "kind" = some "EVIDENCE_DOMAIN_RESULT")
    (named : (text py raw "state").bind queryState = some state)
    (read : deserializeDomain py raw key state accounting = some result) :
    ∃ r, result = .domain r ∧ Read py raw "EVIDENCE_DOMAIN_RESULT" result := by
  simp only [deserializeDomain, Option.bind_eq_bind, Option.bind_eq_some_iff, makeDomain, Option.dite_none_right_eq_some,
    Option.some.injEq] at read
  obtain ⟨values, isArray, raw', -, domain, -, capsules, each, valid, rfl⟩ := read
  refine ⟨_, rfl, kind, named, ?_⟩
  have other : ¬some "EVIDENCE_DOMAIN_RESULT" = some "EVIDENCE_EXACT_RESULT" := by decide
  unfold carriesCapsule
  rw [kind, if_neg other, isArray]
  exact capsules_empty each

theorem range_read (kind : textOrEmpty py raw "kind" = some "EVIDENCE_RANGE_RESULT")
    (named : (text py raw "state").bind queryState = some state)
    (read : deserializeRange py raw key state accounting = some result) :
    ∃ r, result = .range r ∧ Read py raw "EVIDENCE_RANGE_RESULT" result := by
  simp only [deserializeRange, Option.bind_eq_bind, Option.bind_eq_some_iff, makeRange, Option.dite_none_right_eq_some,
    Option.some.injEq] at read
  obtain ⟨values, isArray, candidates, -, followups, -, raw', -, hostname, -, years, -, years', -, capsules, each, valid, rfl⟩ := read
  refine ⟨_, rfl, kind, named, ?_⟩
  have other : ¬some "EVIDENCE_RANGE_RESULT" = some "EVIDENCE_EXACT_RESULT" := by decide
  unfold carriesCapsule
  rw [kind, if_neg other, isArray]
  exact capsules_empty each

theorem exact_read (kind : textOrEmpty py raw "kind" = some "EVIDENCE_EXACT_RESULT")
    (named : (text py raw "state").bind queryState = some state)
    (read : deserializeExact py raw key state accounting = some result) :
    ∃ r, result = .exact r ∧ Read py raw "EVIDENCE_EXACT_RESULT" result := by
  simp only [deserializeExact, Option.bind_eq_bind, Option.bind_eq_some_iff, makeExact, Option.dite_none_right_eq_some,
    Option.some.injEq] at read
  obtain ⟨raw', -, hostname, -, year, -, capsule, one, valid, rfl⟩ := read
  refine ⟨_, rfl, kind, named, ?_⟩
  unfold carriesCapsule
  rw [kind, if_pos rfl]
  unfold exactCapsule at one
  split at one
  · rename_i absent
    cases one
    simp [ProviderResult.capsules, absent]
  · rename_i null
    cases one
    simp [ProviderResult.capsules, null, isMapping]
  · rename_i value given
    rw [given]
    split_ifs at one with mapping
    obtain ⟨c, -, rfl⟩ := Option.map_eq_some_iff.mp one
    simp [ProviderResult.capsules, mapping]

theorem deserialize_read (read : deserializeResult py raw = some result) :
    (∃ r, result = .domain r ∧ Read py raw "EVIDENCE_DOMAIN_RESULT" result) ∨
      (∃ r, result = .range r ∧ Read py raw "EVIDENCE_RANGE_RESULT" result) ∨
      ∃ r, result = .exact r ∧ Read py raw "EVIDENCE_EXACT_RESULT" result := by
  simp only [deserializeResult, Option.bind_eq_bind, Option.bind_eq_some_iff] at read
  obtain ⟨keyRaw, -, read⟩ := read
  split_ifs at read
  simp only [Option.bind_eq_some_iff] at read
  obtain ⟨key, -, name, isText, state, known, accounting, -, kind, isKind, read⟩ := read
  have named : (text py raw "state").bind queryState = some state := by rw [isText]; exact known
  split_ifs at read with domain range exact
  · subst domain
    exact .inl (domain_read isKind named read)
  · subst range
    exact .inr (.inl (range_read isKind named read))
  · subst exact
    exact .inr (.inr (exact_read isKind named read))

end

/-! ## One turn of the loop -/

/-- The task that a batch answers: its mapping is ACTIVE, and the task is claimed for it. -/
structure Awaits (b : Bridge) (w : World) (batch : BatchRow) (work : WorkRow) (mapping : MappingRow) (row : TaskRow) : Prop where
  admitted : w.fabric.work.get? batch.taskId = some work
  producer : work.fields.producer = producerName
  dispatched : w.dispatch.rows.find? (·.fabricTaskId = batch.taskId) = some mapping
  active : mapping.state = .active
  stored : w.queue.tasks.get? mapping.key = some row
  claimed : row.attempt = mapping.attempt ∧ row.leaseOwner = some b.owner ∧ row.state ∈ claimableStates

/-- The databases and the clock are a part of the world. -/
@[simp] theorem perform_onDatabases {α : Type} (call : CommitCall α) (w : World) :
    (onDatabases call).perform w = ((call.perform w.toDatabases).1.mapError .raised, World.put (call.perform w.toDatabases).2 w) :=
  Call.perform_within World.toDatabases World.put (fun _ _ => rfl) (fun _ _ _ => rfl) (fun _ => rfl) BridgeError.raised call w

@[simp] theorem perform_currentTask (key : EvidenceQueryKey) (w : World) :
    (currentTask key).perform w = (.ok ((w.queue.tasks.get? key).map taskOf), w) := rfl

@[simp] theorem perform_mappingState (fabricTaskId : String) (state : MappingState) (w : World) :
    (mappingState fabricTaskId state).perform w = (.ok (), { w with
      dispatch := w.dispatch.update (·.fabricTaskId = fabricTaskId) ({ · with state }) }) := rfl

theorem markConsumed_returns (batchId : String) (w : World) :
    ∃ marked s, (markConsumed batchId).perform w = (.ok marked, { w with fabric := s }) := ⟨_, _, rfl⟩

theorem markConsumeFailed_returns (batchId error : String) (w : World) :
    ∃ quarantined s, (markConsumeFailed batchId error).perform w = (.ok quarantined, { w with fabric := s }) := by
  have asked : (markConsumeFailed batchId error).perform w =
      ((AuthorityStore.markBatchConsumeFailed w.fabric batchId error 20).1.mapError .raised,
        { w with fabric := (AuthorityStore.markBatchConsumeFailed w.fabric batchId error 20).2 }) := rfl
  rw [asked]
  unfold AuthorityStore.markBatchConsumeFailed
  rw [if_neg (by decide)]
  split
  · exact ⟨_, _, rfl⟩
  · split
    · exact ⟨_, _, rfl⟩
    · exact ⟨_, _, rfl⟩

section
variable {b : Bridge} {w w' : World} {batch : BatchRow} {work : WorkRow} {mapping : MappingRow} {row : TaskRow}

/-- The task can be claimed again, or its lease runs out. -/
def Retryable (w : World) (key : EvidenceQueryKey) : Prop :=
  ∃ row, w.queue.tasks.get? key = some row ∧ row.state ∈ claimableStates

theorem release_retryable (b : Bridge) (mapping : MappingRow) (again : Retryable w mapping.key) :
    Retryable ((b.releaseDeadMapping mapping).perform w).2 mapping.key := by
  obtain ⟨row, found, state⟩ := again
  unfold Bridge.releaseDeadMapping
  rw [Call.perform_bind_ok (perform_currentTask _ w), found, Option.map_some]
  cases kept : Option.filter (b.current mapping) (some (taskOf row)) with
  | none => exact ⟨row, found, state⟩
  | some task =>
    dsimp only
    have stored : (terminalStates ++ retryableStates).contains QueryState.transientError := by decide
    rcases retry_cases w.toDatabases b.toCommitter mapping.key task stored with ⟨-, -, t, result⟩ | ⟨-, err, result⟩
    · rw [Call.perform_bind_ok (by rw [perform_onDatabases, result]; rfl)]
      refine ⟨_, get?_finished found b.owner w.clock .transientError t, ?_⟩
      split
      · exact (by decide : QueryState.transientError ∈ claimableStates)
      · exact state
    · rw [Call.perform_bind_error (by rw [perform_onDatabases, result]; rfl)]
      exact ⟨row, found, state⟩

theorem refuse_retryable (b : Bridge) (batch : BatchRow) (mapping : MappingRow) (err : BridgeError) (again : Retryable w mapping.key) :
    Retryable ((b.refuseBatch batch mapping err).perform w).2 mapping.key ∧
      ∀ report, ((b.refuseBatch batch mapping err).perform w).1 = .ok report → report.committed = 0 := by
  obtain ⟨quarantined, s, marked⟩ := markConsumeFailed_returns batch.batchId (b.describe err) w
  unfold Bridge.refuseBatch
  rw [Call.perform_bind_ok marked]
  cases quarantined with
  | false =>
    refine ⟨again, fun report answer => ?_⟩
    cases answer
    rfl
  | true =>
    have released := release_retryable (w := { w with fabric := s }) b mapping again
    rw [if_pos rfl, Call.perform_bind]
    rcases result : (b.releaseDeadMapping mapping).perform { w with fabric := s } with ⟨err' | answer, w₁⟩
    · rw [result] at released
      exact ⟨released, nofun⟩
    · rw [result] at released
      refine ⟨released, fun report answer => ?_⟩
      cases answer
      rfl

/-- A turn for a claimed task is the `try` with its handler. -/
theorem drainBatch_awaited (awaits : Awaits b w batch work mapping row) :
    (b.drainBatch batch).perform w =
      (tryCatch (b.commitBatch batch work (taskOf row)) (b.refuseBatch batch mapping) : BridgeCall EvidenceBridgeReport).perform w := by
  have mine : Option.filter (b.current mapping) (some (taskOf row)) = some (taskOf row) := by
    simp [Option.filter, Bridge.current, taskOf, awaits.claimed.1, awaits.claimed.2.1]
  unfold Bridge.drainBatch
  have read : (workRow batch.taskId).perform w = (.ok (some work), w) := by
    rw [workRow, Call.perform_atomic, awaits.admitted]
  rw [Call.perform_bind_ok read]
  dsimp only
  rw [if_neg (not_not.mpr awaits.producer)]
  have asked : (dispatchRow batch.taskId).perform w = (.ok (some mapping), w) := by
    rw [dispatchRow, Call.perform_atomic, awaits.dispatched]
  rw [Call.perform_bind_ok asked]
  dsimp only
  rw [if_neg (not_not.mpr awaits.active), Call.perform_bind_ok (perform_currentTask _ w), awaits.stored, Option.map_some, mine]

/-- The payload can be committed: the checks of `drain` and of the committer pass. -/
def Committable (b : Bridge) (w : World) (batch : BatchRow) (work : WorkRow) (row : TaskRow) (result : ProviderResult) : Prop :=
  b.accepted batch work (taskOf row) = .ok result ∧ Commits b.toCommitter w.toDatabases (taskOf row) result

theorem accepted_key {task : EvidenceTask} {result : ProviderResult} (accepts : b.accepted batch work task = .ok result) :
    result.key = some task.key ∧ ∃ raw, resultRaw batch = .ok raw ∧ deserializeResult b.py raw = some result := by
  unfold Bridge.accepted at accepts
  split at accepts
  · cases accepts
  rename_i raw one
  split at accepts
  · cases accepts
  rename_i read
  split at accepts
  · cases accepts
  split_ifs at accepts with attempt named
  cases accepts
  exact ⟨not_not.mp named, raw, one, read⟩

theorem commitBatch_cases (b : Bridge) (w : World) (batch : BatchRow) (work : WorkRow) (row : TaskRow) :
    (∃ result, Committable b w batch work row result ∧ ∃ report w' state again,
        (b.commitBatch batch work (taskOf row)).perform w = (.ok report, w') ∧ report.committed = 1 ∧
        result.landing = some (state, again) ∧ Committed b.toCommitter w.toDatabases w'.toDatabases row.key state ∧
        ∀ capsule ∈ result.proved, Proven w'.evidence row.key capsule) ∨
      ((∀ result, ¬Committable b w batch work row result) ∧ ∃ err w', (b.commitBatch batch work (taskOf row)).perform w = (.error err, w') ∧
        Keeps w.toDatabases w'.toDatabases) := by
  unfold Bridge.commitBatch
  cases accepts : b.accepted batch work (taskOf row) with
  | error err =>
    refine .inr ⟨fun result committable => ?_, err, w, rfl, .refl _⟩
    have taken := committable.1
    rw [accepts] at taken
    cases taken
  | ok result =>
    dsimp only
    rcases commit_settles b.toCommitter w.toDatabases (taskOf row) (accepted_key accepts).1 with
      ⟨commits, outcome, d', state, again, returned, lands, committed, proven⟩ | ⟨no, err, d', raised, keeps⟩
    · refine .inl ⟨result, ⟨accepts, commits⟩, ?_⟩
      rw [Call.perform_bind_ok (by rw [perform_onDatabases, returned]; rfl), Call.perform_bind_ok (perform_mappingState _ _ _)]
      obtain ⟨marked, s, marks⟩ := markConsumed_returns batch.batchId _
      rw [Call.perform_bind_ok marks]
      exact ⟨_, _, state, again, rfl, rfl, lands, committed, proven⟩
    · refine .inr ⟨fun other committable => ?_, ?_⟩
      · have taken := committable.1
        rw [accepts] at taken
        cases taken
        exact no committable.2
      · rw [Call.perform_bind_error (by rw [perform_onDatabases, raised]; rfl)]
        exact ⟨_, _, rfl, keeps⟩

end

/-! ## What is accepted -/

/-- The shape of the key that a result of a kind is made for. -/
def suits (key : EvidenceQueryKey) (kind : Option String) : Prop :=
  (kind = some "EVIDENCE_EXACT_RESULT" → key.yearFrom = key.yearTo) ∧
    (kind = some "EVIDENCE_RANGE_RESULT" → key.yearFrom ≠ key.yearTo ∧ classifyEvidenceAction key ≠ .domain) ∧
    (kind = some "EVIDENCE_DOMAIN_RESULT" → classifyEvidenceAction key = .domain)

/-- `drain` committed the batch. -/
def commits (answer : Except BridgeError EvidenceBridgeReport × World) : Prop :=
  ∃ report, answer.1 = .ok report ∧ report.committed = 1

/-- What a turn of `drain` may do to the task that a batch answers. -/
structure Acceptable (b : Bridge) (w : World) (batch : BatchRow) (key : EvidenceQueryKey)
    (answer : Except BridgeError EvidenceBridgeReport × World) : Prop where
  /-- A PASS stands on a capsule of the payload, inside the scope of the task, that is stored with its provenance. -/
  proven : commits answer → ∀ row, answer.2.queue.tasks.get? key = some row → row.state = .pass →
    ∃ raw result capsule, resultRaw batch = .ok raw ∧ deserializeResult b.py raw = some result ∧ capsule ∈ result.capsules ∧
      capsule.hostname = key.hostname ∧ inScope key capsule.year ∧ Proven answer.2.evidence key capsule
  /-- A result of a kind only changes a task of its shape. -/
  suited : commits answer → ∀ raw, resultRaw batch = .ok raw → suits key (textOrEmpty b.py raw "kind")
  /-- Every other payload leaves the task retryable. -/
  retryable : ¬commits answer → Retryable answer.2 key

/-- The payload is refused by the checks, or it is of the kind that the task asks for and carries a
    capsule when it says PASS. -/
def Honest (b : Bridge) (w : World) (batch : BatchRow) (work : WorkRow) (row : TaskRow) : Prop :=
  ∀ raw result, resultRaw batch = .ok raw → Committable b w batch work row result →
    suits row.key (textOrEmpty b.py raw "kind") ∧ (text b.py raw "state" = some "pass" → carriesCapsule b.py raw = true)

section
variable {b : Bridge} {w : World} {batch : BatchRow} {work : WorkRow} {mapping : MappingRow} {row : TaskRow}

theorem committable_unique {result result' : ProviderResult} (one : Committable b w batch work row result)
    (other : Committable b w batch work row result') : result' = result := by
  have accepts := other.1
  rw [one.1] at accepts
  exact (Except.ok.inj accepts).symm

theorem committable_read {result : ProviderResult} (committable : Committable b w batch work row result) :
    ∃ raw kind, resultRaw batch = .ok raw ∧ deserializeResult b.py raw = some result ∧ Read b.py raw kind result := by
  obtain ⟨-, raw, one, read⟩ := accepted_key committable.1
  rcases deserialize_read read with ⟨r, -, is⟩ | ⟨r, -, is⟩ | ⟨r, -, is⟩
  · exact ⟨raw, _, one, read, is⟩
  · exact ⟨raw, _, one, read, is⟩
  · exact ⟨raw, _, one, read, is⟩

theorem Read.reads_pass {py : Python} {raw : Json} {kind : String} {result : ProviderResult} (is : Read py raw kind result) :
    text py raw "state" = some "pass" ↔ result.state = .pass := by
  have state := is.state
  constructor
  · intro told
    rw [told] at state
    exact (Option.some.inj state).symm
  · intro passes
    rw [passes] at state
    obtain ⟨name, told, known⟩ := Option.bind_eq_some_iff.mp state
    rw [told, queryState_pass known]

/-- A turn of the loop for a claimed task does what it may, exactly when the payload is refused or honest. -/
theorem acceptable_iff (b : Bridge) (w : World) (batch : BatchRow) (work : WorkRow) (mapping : MappingRow) (row : TaskRow)
    (awaits : Awaits b w batch work mapping row) :
    Acceptable b w batch mapping.key ((b.drainBatch batch).perform w) ↔ Honest b w batch work row := by
  have name : row.key = mapping.key := Table.get?_key awaits.stored
  have found := awaits.stored
  rw [drainBatch_awaited awaits, Call.perform_tryCatch, ← name]
  rw [← name] at found
  rcases commitBatch_cases b w batch work row with
    ⟨result, committable, report, w', state, again, returned, counted, lands, committed, proven⟩ | ⟨none_, err, w', raised, keeps⟩
  · rw [returned]
    obtain ⟨raw, kind, one, read, is⟩ := committable_read committable
    have done : commits ((.ok report, w') : Except BridgeError EvidenceBridgeReport × World) := ⟨report, rfl, counted⟩
    have ended : ∃ t, w'.queue.tasks.get? row.key = some (finishedRow state t row) := by
      obtain ⟨t, tasks⟩ := committed.tasks
      have owned := committable.2.live
      unfold live at owned
      rw [show (taskOf row).key = row.key from rfl, found, Option.any_some] at owned
      exact ⟨t, by rw [tasks, get?_finished found, if_pos owned]⟩
    obtain ⟨t, ended⟩ := ended
    constructor
    · intro acceptable raw' result' one' committable'
      cases one.symm.trans one'
      cases committable_unique committable committable'
      refine ⟨acceptable.suited done raw one, fun told => ?_⟩
      have passes := (landing_pass lands).mpr (is.reads_pass.mp told)
      obtain ⟨raw', result', capsule, one', read', member, -⟩ := acceptable.proven done _ ended passes
      cases one.symm.trans one'
      cases read.symm.trans read'
      by_contra none_
      rw [is.capsules.mpr (by simpa using none_)] at member
      cases member
    · intro honest
      obtain ⟨suited, carries⟩ := honest raw result one committable
      refine ⟨fun _ row' found' passed => ?_, fun _ raw' one' => ?_, fun open_ => absurd done open_⟩
      · cases ended.symm.trans found'
        have passes := (landing_pass lands).mp passed
        obtain ⟨all, notDomain⟩ := pass_proved passes
        have named := (accepted_key committable.1).1
        have some_ : result.capsules ≠ [] := by
          intro empty
          have given := carries (is.reads_pass.mpr passes)
          rw [is.capsules.mp empty] at given
          cases given
        obtain ⟨capsule, member⟩ := List.exists_mem_of_ne_nil _ some_
        exact ⟨raw, result, capsule, one, read, member, ProviderResult.own_host named notDomain capsule member,
          (ProviderResult.fits named capsule member).year, proven capsule (all ▸ member)⟩
      · cases one.symm.trans one'
        exact suited
  · rw [raised]
    have again : Retryable w' mapping.key := ⟨row, by rw [← name, keeps.tasks, found], awaits.claimed.2.2⟩
    obtain ⟨retryable, uncounted⟩ := refuse_retryable b batch mapping err again
    have open_ : ¬commits ((b.refuseBatch batch mapping err).perform w') := by
      rintro ⟨report, answer, counted⟩
      rw [uncounted report answer] at counted
      cases counted
    refine iff_of_true ⟨fun done => absurd done open_, fun done => absurd done open_, fun _ => ?_⟩
      fun raw result _ committable => absurd committable (none_ result)
    rw [name]
    exact retryable

end

/-! ## A PASS without proof -/

def keyJson (key : EvidenceQueryKey) : Json := .obj [(py "hostname", .str (py key.hostname)),
  (py "policy_version", .str (py key.policyVersion)), (py "provider", .str (py key.provider)), (py "year_from", .int key.yearFrom),
  (py "year_to", .int key.yearTo)]

/-- A capture of the range task in 1998. -/
def captureJson : Json := .obj [(py "evidence_timestamp", .str (py "19980101000000")), (py "hostname", .str (py "b.com")),
  (py "payload_hash", .str (py "h")), (py "policy_version", .str (py "cdx-v1")), (py "provider", .str (py "wayback")),
  (py "source_locator", .str (py "u")), (py "temporal_semantics", .str (py "archive_capture")), (py "year", .int 1998)]

/-- The result of a range task that says PASS, with some capsules. -/
def passJson (capsules : List Json) : Json := .obj [(py "candidate_years", .arr []), (py "capsules", .arr capsules),
  (py "followup_years", .arr []), (py "hostname", .str (py "b.com")), (py "key", keyJson rangeKey),
  (py "kind", .str (py "EVIDENCE_RANGE_RESULT")), (py "state", .str (py "pass"))]

def batchOf (result : Json) : BatchRow where
  batchId := "batch"
  taskId := "work"
  generation := 1
  sequenceNo := 0
  payloadJson := dumps (.obj [(py "results", .arr [result])])
  payloadDigest := ""
  cursorAfter := some "EOF"
  final := true
  committedAt := 0
  consumedAt := none
  consumeAttempts := 0
  consumeError := none
  quarantined := false

/-- The Fabric work of the first attempt of the range task. -/
def rangeWork : WorkRow where
  taskId := "work"
  workKey := "key"
  fields := { (FabricModels.plainWork 8).toWorkFields with
    producer := producerName, payload := ⟨[(py "attempt", .int 1)], by simp [Ordered, KeysRise, OrderedMembers]⟩ }
  state := .complete
  leaseOwner := none
  leaseOwnerInstance := none
  leaseGeneration := 1
  leaseDeadline := none
  attempt := 1
  cursor := some "EOF"
  nextSequenceNo := 1
  lastError := none
  createdAt := 0
  updatedAt := 0

def rangeMapping : MappingRow := ⟨rangeKey, 1, "work", "key", .active, 0⟩

def claimedRow : TaskRow := { rangeRow with attempt := 1, leaseOwner := some "fabric:evidence", leaseUntil := some 900 }

/-- A bridge with one claimed task whose work is done. -/
def oneClaimed (result : Json) : World where
  clock := 1
  queue := { tasks := ⟨[claimedRow], List.nodup_singleton _⟩, costs := .empty, rewards := .empty, authority := false, weights := .empty, defaultLeaseSeconds := .fin 300 }
  metrics := .empty
  efforts := .empty
  taskOrigins := .empty
  known := fun _ => true
  referenced := nofun
  origins := .empty
  evidence := ⟨.empty, .empty, .empty⟩
  dispatch := ⟨[rangeMapping], List.nodup_singleton _⟩
  fabric := { AuthorityStore.Store.empty with
    work := ⟨[rangeWork], List.nodup_singleton _⟩
    resultBatches := ⟨[batchOf result], List.nodup_singleton _⟩ }

def plainBridge : Bridge where
  owner := "fabric:evidence"
  retryAt := fun now _ => .ok (.fin (now + 30))
  burns := false
  named := by decide
  py := ⟨String.toLower, fun _ => ""⟩
  describe := fun _ => "error"
  leaseSeconds := .fin 900

theorem oneClaimed_awaits (result : Json) :
    Awaits plainBridge (oneClaimed result) (batchOf result) rangeWork rangeMapping claimedRow :=
  ⟨rfl, rfl, rfl, rfl, Table.get?_eq_some.mpr ⟨List.mem_singleton_self _, rfl⟩, by decide +kernel⟩

theorem resultRaw_batchOf {result : Json} (ordered : Ordered result) (mapping : isMapping result = true) :
    resultRaw (batchOf result) = .ok result := by
  have whole : Ordered (.obj [(py "results", .arr [result])]) :=
    ⟨List.pairwise_singleton _ _, ⟨ordered, trivial⟩, trivial⟩
  unfold resultRaw batchOf
  dsimp only
  rw [loads_dumps whole]
  have results : (member (.obj [(py "results", .arr [result])]) "results").bind BatchPayload.asItems = some [result] := rfl
  dsimp only
  rw [if_neg (by simp [isMapping]), results]
  exact if_pos mapping

/-- With a capture the PASS is acceptable. -/
theorem capture_acceptable : Acceptable plainBridge (oneClaimed (passJson [captureJson])) (batchOf (passJson [captureJson])) rangeKey
    ((plainBridge.drainBatch (batchOf (passJson [captureJson]))).perform (oneClaimed (passJson [captureJson]))) := by
  refine (acceptable_iff plainBridge _ _ rangeWork rangeMapping claimedRow (oneClaimed_awaits _)).mpr fun raw result one _ => ?_
  cases (resultRaw_batchOf (by decide +kernel) rfl).symm.trans one
  exact ⟨⟨by decide +kernel, by decide +kernel, by decide +kernel⟩, fun _ => by decide +kernel⟩

/-- Without one the task becomes PASS all the same. -/
theorem bare_pass_committed : Awaits plainBridge (oneClaimed (passJson [])) (batchOf (passJson [])) rangeWork rangeMapping claimedRow ∧
    ¬Acceptable plainBridge (oneClaimed (passJson [])) (batchOf (passJson [])) rangeKey
      ((plainBridge.drainBatch (batchOf (passJson []))).perform (oneClaimed (passJson []))) := by
  refine ⟨oneClaimed_awaits _, fun acceptable => ?_⟩
  have done : ((plainBridge.drainBatch (batchOf (passJson []))).perform (oneClaimed (passJson []))).1.toOption.map (·.committed) =
      some 1 := by decide +kernel
  have ended : (((plainBridge.drainBatch (batchOf (passJson []))).perform (oneClaimed (passJson []))).2.queue.tasks.get? rangeKey).map
      (·.state) = some .pass := by decide +kernel
  obtain ⟨row, found, passed⟩ := Option.map_eq_some_iff.mp ended
  obtain ⟨report, returned, counted⟩ := Option.map_eq_some_iff.mp done
  have committed : commits ((plainBridge.drainBatch (batchOf (passJson []))).perform (oneClaimed (passJson []))) := by
    refine ⟨report, ?_, counted⟩
    revert returned
    cases ((plainBridge.drainBatch (batchOf (passJson []))).perform (oneClaimed (passJson []))).1 with
    | error => exact nofun
    | ok answer => exact fun same => congrArg _ (Option.some.inj same)
  obtain ⟨raw, result, capsule, one, read, member, -⟩ := acceptable.proven committed row found passed
  cases (resultRaw_batchOf (by decide +kernel) rfl).symm.trans one
  have empty : result.capsules = [] := by
    rcases deserialize_read read with ⟨-, -, is⟩ | ⟨-, -, is⟩ | ⟨-, -, is⟩
    · exact is.capsules.mpr (by decide +kernel)
    · exact is.capsules.mpr (by decide +kernel)
    · exact is.capsules.mpr (by decide +kernel)
  rw [empty] at member
  cases member

end Creeper.EvidenceBridge
