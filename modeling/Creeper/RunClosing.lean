import Creeper.Readiness
import Creeper.HostYearOrigins
import Creeper.PlatformHarvests
import Creeper.RunEnds

/-!
# Closing source runs

`_reconcile_source_run_rewards` of `runtime/readiness.py`, over everything that it reads: runs and
their exposures, leases, evidence tasks and spillover, platform harvests, the evidence store, the
origins of its host-years, and the readiness ledger that credited them. A finished run closes
exactly when the host-years credited to it reach the last one that names it, and nothing before
it in the list stops the loop.
-/

namespace Creeper.RunClosing
open Creeper.Runs Creeper.Tables Creeper.PyNumbers Creeper.SourceRuns Creeper.HostYearOrigins
open Creeper.FabricModels (PyError blank)
open Creeper.EvidenceTasks (EvidenceQueryKey finiteReading terminalStates)
open Creeper.EvidenceStore (HostYear HostYearRow EvidenceCapsule ProvenanceKey)
open Creeper.ReadinessLedger (Authorities Signatures Ledger Entry)
open Creeper.BacklogAdmission (Backlog AdmissionEvent)
open Creeper.ProductionExposures (ExposureState ExposureRow Exposures ExposureEvent Opening Draw Readable fitsColumn fromRow)
open Creeper.PlatformHarvests (PlatformHarvestState)
open Creeper.Readiness (Insertion Effect)
open Creeper.RunEnds (readReport validationReport)

/-! ## What reconciliation reads -/

/-- The columns of `platform_year_harvests` that are read. -/
structure HarvestRow where
  harvestId : String
  exposureId : String
  state : PlatformHarvestState
  requests : Nat
  elapsedSeconds : ℚ≥0
  deriving DecidableEq

/-- The columns of `evidence_task_attempt_metrics` that are read. -/
structure MetricRow where
  task : EvidenceQueryKey
  attempt : Nat
  providerRequests : Nat
  providerElapsedMilliseconds : Nat
  recordedAt : ℚ
  deriving DecidableEq

/-- A row of `evidence_route_backlog_v1`. -/
structure EvidenceNeed where
  task : EvidenceQueryKey
  run : ReadinessLedger.RunKey
  deriving DecidableEq

structure State where
  exposures : ProductionExposures.System
  runs : Runs
  /-- `updated_at` of the runs. -/
  updatedAt : RunKey → ℚ
  scoutAuthority : Option Authority
  backlog : Backlog
  staged : Table EvidenceNeed (EvidenceQueryKey × ReadinessLedger.RunKey) (fun need => (need.task, need.run))
  metrics : Table MetricRow (EvidenceQueryKey × Nat) (fun m => (m.task, m.attempt))
  harvests : Table HarvestRow String (·.harvestId)
  origins : Origins
  readiness : Readiness.System Unit

/-- `source_key`, `reservoir_id` and `lease_id` of a run. -/
def lineage (key : RunKey) : ReadinessLedger.RunKey := toLex (key.sourceKey, toLex (key.reservoirId, key.leaseId))

def signatures (key : RunKey) : Signatures := ⟨key.baselineSignature, key.modelSignature⟩

/-- `"|".join`. -/
def runName (run : ReadinessLedger.RunKey) : String :=
  (ofLex run).1 ++ "|" ++ (ofLex (ofLex run).2).1 ++ "|" ++ (ofLex (ofLex run).2).2

/-- The payload of a name in `source_run_attribution`: of several runs with one name, the last. -/
def payload (l : Ledger) (name : String) : Option ReadinessLedger.RunRow :=
  (l.sourceRun.sorted.rows.filter fun row => runName row.key = name).getLast?

section
variable (s : State) (run : RunRow)

def State.exposure : Option ExposureRow := run.exposureId.bind s.exposures.exposures.get?

def State.payload : Option ReadinessLedger.RunRow := RunClosing.payload s.readiness.ledger (runName (lineage run.key))

def State.acceptedHostYears : Nat := ((s.payload run).map (·.novelHostYears)).getD 0
def State.acceptedEed : ℚ := ((s.payload run).map (·.novelEed)).getD 0
def State.readinessSequence : Nat := ((s.payload run).map (·.maxEvidenceSequence)).getD 0

def State.actualSequence : Nat := maxSourceRunEvidenceSequence s.origins s.readiness.store (lineage run.key)

/-- The host-years with provenance rows of some kind. -/
def State.proven (q : ProvenanceKey → Bool) : Nat :=
  ((s.readiness.store.provenance.rows.filter (q ·.key)).map provenPair).eraseDups.length

/-- A provenance row names the exposure of a run in place of its lease. -/
def namesExposure (key : ProvenanceKey) : Bool :=
  key.sourceKey = run.key.sourceKey && key.reservoirId = run.key.reservoirId && run.exposureId = some key.leaseId

/-- What `_source_run_operational_metrics` returns. -/
structure Operational where
  leaseTerminal : Bool
  evidenceCreated : Nat
  evidenceTerminal : Nat
  directCommitted : Nat
  providerRequests : Int
  providerElapsedSeconds : ℚ

/-- The seconds of a finite time. -/
def seconds : PyFloat → ℚ
  | .fin x => x
  | _ => 0

/-- The branch of the platform lane. -/
def State.platformMetrics (row : ExposureRow) : Operational :=
  let task := (s.harvests.get? row.identity.taskId).filter fun harvest => run.exposureId = some harvest.exposureId
  let evidenceCount := s.proven fun key => key.taskKind = "platform_year" && namesExposure run key
  { leaseTerminal := task.any (·.state = .complete)
    evidenceCreated := evidenceCount
    evidenceTerminal := evidenceCount
    directCommitted := evidenceCount
    providerRequests := max row.counters.providerRequests ((task.map (·.requests)).getD 0 : Nat)
    providerElapsedSeconds := max (seconds row.counters.providerElapsedSeconds) ((task.map (·.elapsedSeconds)).getD 0 : ℚ≥0) }

def State.taskOrigins : List BacklogAdmission.OriginRow := s.backlog.origins.rows.filter fun o => runOf o = lineage run.key

/-- The tasks of a run, with the states that count. -/
def State.tasks (states : List EvidenceTasks.QueryState) : Nat :=
  (s.taskOrigins run).countP fun o => (s.backlog.store.tasks.get? o.task).any (states.contains ·.state)

/-- `SUM` over the attempts of the tasks of a run. -/
def State.provider (amount : MetricRow → Nat) : Nat :=
  ((s.taskOrigins run).map fun o =>
    ((s.metrics.rows.filter fun m => m.task = o.task && o.firstObservedAt ≤ m.recordedAt).map amount).sum).sum

/-- The branch of the other lanes, with the lease that owns the run. -/
def State.leaseMetrics (leaseIdentity : String) : Operational where
  leaseTerminal := (s.exposures.leases.store.leases.get? leaseIdentity).any fun lease =>
    lease.reservoirId = run.key.reservoirId && ([.succeeded, .aborted, .expired] : List WorkLeases.LeaseState).contains lease.state
  evidenceCreated := (s.taskOrigins run).countP (fun o => (s.backlog.store.tasks.get? o.task).isSome) +
    s.staged.rows.countP (·.run = lineage run.key)
  evidenceTerminal := s.tasks run terminalStates
  directCommitted := match run.exposureId with
    | some _ => s.proven (namesExposure run)
    | none => s.origins.origins.rows.countP fun row => row.run = lineage run.key && row.direct
  providerRequests := s.provider run (·.providerRequests)
  providerElapsedSeconds := s.provider run (·.providerElapsedMilliseconds) / 1000

/-- `_source_run_operational_metrics`, with the exposure that it reads. -/
def State.operational : Option ExposureRow → Operational
  | none => s.leaseMetrics run run.key.leaseId
  | some row =>
    if row.identity.lane = "platform_year" then s.platformMetrics run row
    else s.leaseMetrics run (if row.identity.taskId = "" then run.key.leaseId else row.identity.taskId)

/-- The report on a run. -/
def State.measured (evidenceCursor : Nat) (row : Option ExposureRow) : Validation :=
  let o := s.operational run row
  { evidenceTasksCreated := o.evidenceCreated
    evidenceTasksTerminal := o.evidenceTerminal
    directCapsulesCommitted := o.directCommitted
    providerRequests := o.providerRequests
    providerElapsedSeconds := o.providerElapsedSeconds
    acceptedHostYears := s.acceptedHostYears run
    finalAcceptedEed := s.acceptedEed run
    maxEvidenceSequence := s.actualSequence run
    complete := o.leaseTerminal && o.evidenceCreated = o.evidenceTerminal &&
      (s.actualSequence run = 0 || (s.actualSequence run ≤ evidenceCursor && s.actualSequence run ≤ s.readinessSequence run)) }

end

/-! ## Calls on runs -/

abbrev Reply (α : Type) := Except PyError α × State

def clockError : PyError := .valueError "source registry clock must be finite and non-negative"

def State.withExposures (s : State) (exposures : Exposures) : State := { s with exposures := { s.exposures with exposures } }

/-- A run is written at a time. -/
def State.wrote (s : State) (key : RunKey) (now : ℚ) (runs : Runs) : State :=
  { s with runs, updatedAt := Function.update s.updatedAt key now }

/-- A run has been reported on, and its exposure is next. -/
def State.report (s : State) (clock : PyFloat) (key : RunKey) (report : ProductionExposures.Report) : Reply Unit :=
  match (s.runs.get? key).bind (·.exposureId) with
  | none => (.ok (), s)
  | some exposureId =>
    let answer := ProductionExposures.recordProductionExposureProgress s.exposures.exposures clock exposureId report
    (answer.1.map fun _ => (), s.withExposures answer.2)

/-- A row for a run, unless there is one. -/
def State.register (s : State) (key : RunKey) (now : ℚ) (exposureId : String) (readStarted : Option ℚ) : State :=
  { s with
    runs := beginRun s.runs key exposureId readStarted
    updatedAt := if (s.runs.get? key).isSome then s.updatedAt else Function.update s.updatedAt key now }

/-- What `begin_source_run` opens. -/
def sequential (key : RunKey) : Opening where
  sourceKey := key.sourceKey
  reservoirId := key.reservoirId
  leaseId := some key.leaseId
  lane := "sequential"
  baselineSignature := some key.baselineSignature
  modelSignature := some key.modelSignature

/-- `begin_source_run` of a known source. -/
def beginSourceRun (s : State) (clock : PyFloat) (key : RunKey) (readStarted : Option ℚ) (fresh : Draw) : Reply Unit :=
  if blank key.reservoirId || blank key.leaseId || blank key.baselineSignature || blank key.modelSignature then
    (.error (.valueError "source-run identity and authority are required"), s)
  else
    match finiteReading clock with
    | none => (.error clockError, s)
    | some now =>
      if readStarted.any (· < 0) then (.error (.valueError "read_started must be finite and non-negative"), s)
      else
        match ProductionExposures.beginProductionExposure s.exposures.exposures clock (sequential key) fresh with
        | (.error err, exposures) => (.error err, s.withExposures exposures)
        | (.ok exposure, exposures) =>
          (.ok (), (s.withExposures exposures).register key now exposure.exposureId (some (readStarted.getD now)))

/-- `begin_source_run_for_exposure` of a known source. The lanes that call it own exposures of their
    own, whose identifier stands in place of the lease. -/
def beginSourceRunForExposure (s : State) (clock : PyFloat) (exposureId : String) (readStarted : Option ℚ) : Reply Unit :=
  match s.exposures.exposures.get? exposureId with
  | none => (.error (.keyError ("unknown production exposure: " ++ exposureId)), s)
  | some row =>
    match fromRow row with
    | .error err => (.error err, s)
    | .ok exposure =>
      if exposure.identity.lane = "sequential" then (.ok (), s)
      else
        match finiteReading clock with
        | none => (.error clockError, s)
        | some now =>
          if readStarted.any (· < 0) then (.error (.valueError "read_started must be finite and non-negative"), s)
          else
            let key : RunKey := ⟨exposure.identity.sourceKey, exposure.identity.reservoirId, exposureId,
              exposure.identity.baselineSignature, exposure.identity.modelSignature⟩
            if (s.runs.get? key).any (·.exposureId ≠ some exposureId) then
              (.error (.valueError "source-run exposure identity mismatch"), s)
            else (.ok (), s.register key now exposureId readStarted)

/-- `record_source_run_read`. -/
def recordSourceRunRead (s : State) (clock : PyFloat) (key : RunKey) (counters : ReadCounters) (readFinished : Option ℚ)
    (readComplete : Bool) : Reply Unit :=
  match readProblem counters readFinished with
  | some err => (.error err, s)
  | none =>
    match finiteReading clock with
    | none => (.error clockError, s)
    | some now =>
      match recordRead s.runs now key counters readFinished readComplete with
      | (.error err, _) => (.error err, s)
      | (.ok _, runs) => (s.wrote key now runs).report clock key (readReport counters readComplete)

/-- `record_source_run_validation`. -/
def recordSourceRunValidation (s : State) (clock : PyFloat) (key : RunKey) (v : Validation) : Reply Unit :=
  match v.problem with
  | some err => (.error err, s)
  | none =>
    match finiteReading clock with
    | none => (.error clockError, s)
    | some now =>
      match recordValidation s.runs key v with
      | (.error err, _) => (.error err, s)
      | (.ok _, runs) => (s.wrote key now runs).report clock key (validationReport v)

/-- `abort_source_run`. -/
def abortSourceRun (s : State) (clock : PyFloat) (key : RunKey) (state : ExposureState) (reason : String) : Reply Bool :=
  if !([.aborted, .expired] : List ExposureState).contains state then
    (.error (.valueError "source-run terminal state must be ABORTED or EXPIRED"), s)
  else if blank reason then (.error (.valueError "source-run terminal reason is required"), s)
  else
    match s.runs.get? key with
    | none => (.error (.keyError "unknown source run"), s)
    | some run =>
      if run.terminalState.isSome then (.ok (run.terminalState = some state && run.terminalReason = some reason), s)
      else
        let answer : Except PyError Bool × Exposures := match run.exposureId with
          | none => (.ok true, s.exposures.exposures)
          | some exposureId =>
            ProductionExposures.abortProductionExposure s.exposures.exposures clock exposureId state reason (some key.authority)
        match answer with
        | (.error err, exposures) => (.error err, s.withExposures exposures)
        | (.ok _, exposures) =>
          match finiteReading clock with
          | none => (.error clockError, s.withExposures exposures)
          | some now =>
            if (markTerminal s.runs key state reason).1 then
              (.ok true, (s.withExposures exposures).wrote key now (markTerminal s.runs key state reason).2)
            else (.ok false, s.withExposures exposures)

/-- `publish_platform_year_final`, whose columns nothing here reads. -/
def publishPlatformYearFinal (s : State) (exposureId : String) : Except PyError Bool :=
  match s.exposures.exposures.get? exposureId with
  | none => .ok false
  | some row =>
    match fromRow row with
    | .error err => .error err
    | .ok exposure => .ok (exposure.state = .finalClosed &&
        (s.harvests.rows.find? (·.exposureId = exposureId)).any (·.state = .complete))

/-- The transaction of `close_source_run`; the rewards it publishes are not read here. -/
def closeRow (s : State) (clock : PyFloat) (key : RunKey) : Reply Bool :=
  match s.runs.get? key with
  | none => (.error (.keyError "unknown source run"), s)
  | some run =>
    if !run.closable then (.ok false, s)
    else
      match finiteReading clock with
      | none => (.error clockError, s)
      | some now => (.ok true, s.wrote key now (markClosed s.runs key))

/-- The exposure of `close_source_run`. -/
def closeExposure (s : State) (clock : PyFloat) (key : RunKey) (exposureId : String) (v : Validation) : Reply Bool :=
  match s.exposures.exposures.get? exposureId with
  | none => (.ok false, s)
  | some row =>
    match fromRow row with
    | .error err => (.error err, s)
    | .ok exposure =>
      match ProductionExposures.finalizeProductionExposure s.exposures.exposures clock exposureId (.fin v.finalAcceptedEed)
          v.acceptedHostYears v.maxEvidenceSequence key.authority with
      | (.error err, exposures) => (.error err, s.withExposures exposures)
      | (.ok false, exposures) => (.ok false, s.withExposures exposures)
      | (.ok true, exposures) =>
        if exposure.identity.lane ≠ "platform_year" then (.ok true, s.withExposures exposures)
        else (publishPlatformYearFinal (s.withExposures exposures) exposureId, s.withExposures exposures)

/-- `close_source_run`. -/
def closeSourceRun (s : State) (clock : PyFloat) (key : RunKey) : Reply Bool :=
  if s.scoutAuthority.any (· ≠ key.authority) then (.ok false, s)
  else
    match s.runs.get? key with
    | none => (.error (.keyError "unknown source run"), s)
    | some run =>
      if run.terminalState.any (· ≠ .finalClosed) then (.ok false, s)
      else
        match run.exposureId with
        | none => closeRow s clock key
        | some exposureId =>
          if !run.readComplete || !run.validation.complete then (.ok false, s)
          else if run.validation.evidenceTasksTerminal ≠ run.validation.evidenceTasksCreated then (.ok false, s)
          else
            match closeExposure s clock key exposureId run.validation with
            | (.ok true, s) => closeRow s clock key
            | refused => refused

/-! ## Reconciliation -/

/-- One pass of the loop, for a run that is not closed. -/
def reconcileRun (s : State) (clock : PyFloat) (evidenceCursor : Nat) (run : RunRow) : Reply Bool :=
  match (s.exposure run).mapM fromRow with
  | .error err => (.error err, s)
  | .ok exposure =>
    let v := s.measured run evidenceCursor (exposure.map (·.toExposureRow))
    match recordSourceRunValidation s clock run.key v with
    | (.error err, s) => (.error err, s)
    | (.ok _, s) => if v.complete then closeSourceRun s clock run.key else (.ok false, s)

def reconcileRuns (clock : PyFloat) (evidenceCursor : Nat) : List RunRow → State → Reply Nat
  | [], s => (.ok 0, s)
  | run :: rest, s =>
    if run.closed then reconcileRuns clock evidenceCursor rest s
    else
      match reconcileRun s clock evidenceCursor run with
      | (.error err, s) => (.error err, s)
      | (.ok closed, s) =>
        ((reconcileRuns clock evidenceCursor rest s).1.map (closed.toNat + ·), (reconcileRuns clock evidenceCursor rest s).2)

/-- `list_source_run_outcomes` of an authority. -/
def State.listed (s : State) (authority : Authority) : List RunRow :=
  (s.runs.rows.filter fun run => run.terminalState.all (· = .finalClosed) && run.key.authority = authority).insertionSort fun a b =>
    toLex (s.updatedAt a.key, toLex (a.key.sourceKey, a.key.leaseId)) ≤ toLex (s.updatedAt b.key, toLex (b.key.sourceKey, b.key.leaseId))

/-- `report` and `_reconcile_source_run_rewards`. -/
def reconcileSourceRunRewards (s : State) (clock : PyFloat) : Reply Nat :=
  match s.readiness.ledger.state with
  | none => (.error (.runtimeError "readiness authority has not been initialized"), s)
  | some state => reconcileRuns clock state.evidenceCursor (s.listed (state.signatures.baseline, state.signatures.model)) s

/-! ## Histories -/

inductive Attributing
  | taskHostYears (key : EvidenceQueryKey) (years : List Int)
  | domainTaskHostYears (key : EvidenceQueryKey) (capsules : List EvidenceCapsule)
  | directHostYears (pairs : List HostYear) (sourceKey reservoirId leaseId : String)
  | directOriginUnitHostYears (pairs : List HostYear) (sourceKey reservoirId originKind originUnitId : String)

inductive Event
  /-- A call on exposures, or a step of a process that works on leases. -/
  | exposure (e : ExposureEvent)
  | beginSourceRun (clock : PyFloat) (key : RunKey) (readStarted : Option ℚ) (fresh : Draw)
  | beginSourceRunForExposure (clock : PyFloat) (exposureId : String) (readStarted : Option ℚ)
  | recordSourceRunRead (clock : PyFloat) (key : RunKey) (counters : ReadCounters) (readFinished : Option ℚ) (readComplete : Bool)
  | abortSourceRun (clock : PyFloat) (key : RunKey) (state : ExposureState) (reason : String)
  /-- By a service other than readiness. -/
  | setScoutAuthority (authority : Authority)
  /-- Evidence tasks are reserved, enqueued, retried and finished. -/
  | backlog (e : AdmissionEvent)
  | stage (need : EvidenceNeed)
  | deleteStaged (need : EvidenceNeed)
  | recordMetric (row : MetricRow)
  | harvest (row : HarvestRow)
  | insert (insertion : Insertion)
  /-- The process may stop between the two transactions of a call. -/
  | attribute (when_ : ℚ) (stops : Bool) (a : Attributing)
  | start (found : Signatures)
  | refresh (found : Signatures)
  | fetch (batchSize : Int)
  | apply
  | stop
  /-- The end of `sync_once`. -/
  | reconcile (clock : PyFloat)

abbrev Outcome := Except PyError Effect

/-- The reservoir and the lease of an origin row are there. -/
def State.known (s : State) (run : ReadinessLedger.RunKey) : Bool :=
  (s.exposures.leases.store.reservoirs.get? (ofLex (ofLex run).2).1).isSome &&
    (s.exposures.leases.store.leases.get? (ofLex (ofLex run).2).2).isSome

def State.attribute (s : State) (when_ : ℚ) (stops : Bool) : Attributing → Except PyError Nat × Origins
  | .taskHostYears key years => attributeTaskHostYears s.origins s.backlog.origins s.known key years when_ stops
  | .domainTaskHostYears key capsules => attributeDomainTaskHostYears s.origins s.backlog.origins s.known key capsules when_ stops
  | .directHostYears pairs sourceKey reservoirId leaseId =>
    attributeDirectHostYears s.origins s.known pairs sourceKey reservoirId leaseId when_ stops
  | .directOriginUnitHostYears pairs sourceKey reservoirId originKind originUnitId =>
    attributeDirectOriginUnitHostYears s.origins (fun id => (s.exposures.leases.store.reservoirs.get? id).isSome) pairs sourceKey
      reservoirId originKind originUnitId when_

/-- What `_resolved_attribution` finds for a host-year, by the host-year. -/
def State.resolved (s : State) (cutover : Nat) (pair : HostYear) : ReadinessLedger.Attribution :=
  match s.readiness.store.hostYears.table.get? pair with
  | none => ⟨none, none, none⟩
  | some row => resolvedAttribution s.origins s.readiness.store cutover row

def kept {α : Type} (answer : Except PyError α) : Outcome := answer.map fun _ => .kept

/-- A step of the readiness runtime. -/
def State.ready (s : State) (answer : Readiness.Outcome × Readiness.System Unit) : Outcome × State :=
  (answer.1, { s with readiness := answer.2 })

/-- The steps, with the weights and masks behind signatures, the cutover of the evidence store, whether ignored inserts
    use up numbers, and the capacities of providers. -/
def step (a : Authorities) (cutover : Nat) (burns : Bool) (capacity : String → Nat) (s : State) : Event → Outcome × State
  | .exposure e => (kept (ProductionExposures.step s.exposures e).1, { s with exposures := (ProductionExposures.step s.exposures e).2 })
  | .beginSourceRun clock key readStarted fresh =>
    (kept (beginSourceRun s clock key readStarted fresh).1, (beginSourceRun s clock key readStarted fresh).2)
  | .beginSourceRunForExposure clock exposureId readStarted =>
    (kept (beginSourceRunForExposure s clock exposureId readStarted).1, (beginSourceRunForExposure s clock exposureId readStarted).2)
  | .recordSourceRunRead clock key counters readFinished readComplete =>
    (kept (recordSourceRunRead s clock key counters readFinished readComplete).1,
      (recordSourceRunRead s clock key counters readFinished readComplete).2)
  | .abortSourceRun clock key state reason =>
    (kept (abortSourceRun s clock key state reason).1, (abortSourceRun s clock key state reason).2)
  | .setScoutAuthority authority => (.ok .kept, { s with scoutAuthority := some authority })
  | .backlog e => (kept (BacklogAdmission.step capacity s.backlog e).1,
      { s with backlog := (BacklogAdmission.step capacity s.backlog e).2 })
  | .stage need => (.ok .kept, { s with staged := s.staged.insert need })
  | .deleteStaged need => (.ok .kept, { s with staged := s.staged.delete (· = need) })
  | .recordMetric row => (.ok .kept, { s with metrics := s.metrics.insert row })
  | .harvest row => (.ok .kept, { s with harvests := s.harvests.upsert row (fun old => { row with harvestId := old.harvestId }) (fun _ => rfl) })
  | .insert insertion => s.ready (Readiness.step a burns s.readiness (.insert insertion))
  | .attribute when_ stops e => (kept (s.attribute when_ stops e).1, { s with origins := (s.attribute when_ stops e).2 })
  | .start found => { s with
      scoutAuthority := if s.readiness.phase () matches .down then some (found.baseline, found.model) else s.scoutAuthority }.ready
        (Readiness.step a burns s.readiness (.start () found))
  | .refresh found => { s with
      scoutAuthority := match s.readiness.phase () with
        | .idle held => if found = held then s.scoutAuthority else some (found.baseline, found.model)
        | _ => s.scoutAuthority }.ready (Readiness.step a burns s.readiness (.refresh () found))
  | .fetch batchSize => s.ready (Readiness.step a burns s.readiness (.fetch () batchSize))
  | .apply => s.ready (Readiness.step a burns s.readiness (.apply () (s.resolved cutover)))
  | .stop => s.ready (Readiness.step a burns s.readiness (.stop ()))
  | .reconcile clock =>
    match s.readiness.phase () with
    | .idle _ => (kept (reconcileSourceRunRewards s clock).1, (reconcileSourceRunRewards s clock).2)
    | _ => (.ok .kept, s)

def initial (leases : WorkLeases.System) : State where
  exposures := ⟨leases, .empty⟩
  runs := .empty
  updatedAt := fun _ => 0
  scoutAuthority := none
  backlog := ⟨⟨.empty, .empty, .empty, false, .empty, .fin 300⟩, .empty, .empty⟩
  staged := .empty
  metrics := .empty
  harvests := .empty
  origins := .empty
  readiness := ⟨⟨.empty, .empty, .empty⟩, .empty, fun _ => .down⟩

def machine (a : Authorities) (cutover : Nat) (burns : Bool) (capacity : String → Nat) (leases : WorkLeases.System) :
    Machine State Event Outcome where
  initial := initial leases
  step := step a cutover burns capacity

/-- The host-years in the ledger, each with what was resolved for it when it was applied. -/
def applied (trace : List (Step State Event Outcome)) : List Entry := trace.foldl (fun es r => Effect.after es r.outcome) []

/-! ## The condition -/

section
variable (s : State) (clock : PyFloat)

/-- The counts that a report on a run stores, there and on its exposure. -/
def State.countsOf (run : RunRow) (row : ExposureRow) : List Int :=
  let o := s.operational run (some row)
  [o.evidenceCreated, o.evidenceTerminal, o.directCommitted, o.providerRequests, s.acceptedHostYears run, s.actualSequence run,
    row.counters.sourceRecords, row.counters.sourceRequests, row.counters.sourceBytes, row.counters.providerBytes]

/-- Reconciliation can report on a run: its exposure is open and readable, the clock is not before it, no count is
    beyond a column, and its EED is not negative. -/
structure Steady (run : RunRow) : Prop where
  exposure : ∃ row, s.exposure run = some row ∧ Readable row ∧ row.state.terminal = false ∧ row.Dates clock ∧
    (s.countsOf run row).all fitsColumn
  eed : 0 ≤ s.acceptedEed run

/-- On the platform lane, the harvest that is found by the exposure is complete. -/
def Published (run : RunRow) : Prop :=
  ∀ row, s.exposure run = some row → row.identity.lane = "platform_year" →
    (s.harvests.rows.find? fun harvest => run.exposureId = some harvest.exposureId).any (·.state = .complete) = true

/-- The open runs that are listed before one. -/
def State.ahead (key : RunKey) : List RunRow :=
  ((s.listed key.authority).takeWhile (·.key ≠ key)).filter (!·.closed)

/-- A host-year is credited under the name of a run: to the last run with that name. -/
def CreditedAs (es : List Entry) (name : String) (e : Entry) : Prop :=
  ∃ run, e.attribution.run = some run ∧ runName run = name ∧
    ∀ other ∈ es, ∀ run', other.attribution.run = some run' → runName run' = name → run' ≤ run

/-- The credit of a run reaches the last host-year that names it, if there is one. -/
def Reached (es : List Entry) (key : RunKey) : Prop :=
  namedRows s.origins s.readiness.store (lineage key) = [] ∨ ∃ e ∈ es, CreditedAs es (runName (lineage key)) e ∧
    ∀ row ∈ namedRows s.origins s.readiness.store (lineage key), row.sequence ≤ e.row.sequence

/-- The lease of a run has ended; on the platform lane, its harvest. -/
def State.leaseEnded (run : RunRow) : Prop := (s.operational run (s.exposure run)).leaseTerminal = true

/-- A run is read, its lease is terminal, its evidence tasks too, none of them is staged, and the ledger of its
    own authority has consumed every host-year. -/
structure Finished (key : RunKey) (run : RunRow) : Prop where
  found : s.runs.get? key = some run
  open_ : run.closed = false
  read : run.readComplete = true
  lease : s.leaseEnded run
  tasks : ∀ o ∈ s.backlog.origins.rows, runOf o = lineage key → ∀ task, s.backlog.store.tasks.get? o.task = some task →
    task.state ∈ terminalStates
  staged : ∀ need ∈ s.staged.rows, need.run ≠ lineage key
  consumed : ∃ state, s.readiness.ledger.state = some state ∧ state.signatures = signatures key ∧
    ∀ row ∈ s.readiness.store.hostYears.table.rows, row.sequence ≤ state.evidenceCursor
  authority : ∀ authority ∈ s.scoutAuthority, authority = key.authority

def ClosedIn (key : RunKey) : Prop := ∃ run, s.runs.get? key = some run ∧ run.validation.complete = true ∧ run.closed = true

end

/-! ## Reports -/

section
variable {s : State} {clock : PyFloat} {run : RunRow} {row : ExposureRow} {evidenceCursor : Nat} {exposure : Option ExposureRow}

theorem terminal_le : (s.operational run exposure).evidenceTerminal ≤ (s.operational run exposure).evidenceCreated := by
  have tasks : ∀ leaseIdentity, (s.leaseMetrics run leaseIdentity).evidenceTerminal ≤ (s.leaseMetrics run leaseIdentity).evidenceCreated := by
    intro leaseIdentity
    refine (List.countP_mono_left fun o _ counted => ?_).trans (Nat.le_add_right _ _)
    obtain ⟨task, stored, -⟩ := (Option.any_eq_true _ _).mp counted
    exact Option.isSome_of_eq_some stored
  unfold State.operational
  split
  · exact tasks _
  · split
    · exact le_rfl
    · exact tasks _

theorem provider_nonneg : 0 ≤ (s.operational run exposure).providerRequests ∧ 0 ≤ (s.operational run exposure).providerElapsedSeconds := by
  have lease : ∀ leaseIdentity, 0 ≤ (s.leaseMetrics run leaseIdentity).providerRequests ∧
      0 ≤ (s.leaseMetrics run leaseIdentity).providerElapsedSeconds := by
    intro leaseIdentity
    exact ⟨Int.natCast_nonneg _, div_nonneg (Nat.cast_nonneg _) (by norm_num)⟩
  unfold State.operational
  split
  · exact lease _
  · split
    · exact ⟨le_max_of_le_right (Int.natCast_nonneg _), le_max_of_le_right (NNRat.cast_nonneg _)⟩
    · exact lease _

/-- Only a negative EED is refused in a report. -/
theorem measured_problem : (s.measured run evidenceCursor exposure).problem = none ↔ 0 ≤ s.acceptedEed run := by
  obtain ⟨requests, elapsed⟩ := @provider_nonneg s run exposure
  have tasks := @terminal_le s run exposure
  unfold Validation.problem
  have counts : (s.measured run evidenceCursor exposure).counts.any (· < 0) = false := by
    simp [Validation.counts, State.measured, requests]
  have order : ¬(s.measured run evidenceCursor exposure).evidenceTasksCreated < (s.measured run evidenceCursor exposure).evidenceTasksTerminal := by
    simp [State.measured, tasks]
  rw [counts, if_neg Bool.false_ne_true, if_neg order]
  have paid : decide ((s.measured run evidenceCursor exposure).providerElapsedSeconds < 0) = false :=
    decide_eq_false (not_lt.mpr elapsed)
  rw [paid, Bool.false_or, ite_eq_right_iff]
  constructor
  · intro fine
    by_contra negative
    cases fine (decide_eq_true (not_le.mp negative))
  · intro fine negative
    exact absurd (of_decide_eq_true negative) (not_lt.mpr fine)

theorem report_problem {v : Validation} (fine : v.problem = none) : (validationReport v).problem = none := by
  obtain ⟨-, elapsed⟩ := v.amounts fine
  unfold Validation.problem at fine
  split at fine
  · cases fine
  · rename_i counts
    simp only [Validation.counts, List.any_cons, List.any_nil, Bool.or_false, Bool.or_eq_true, decide_eq_true_eq, not_or, not_lt] at counts
    obtain ⟨-, -, -, requests, hostYears, sequence⟩ := counts
    simp [ProductionExposures.Report.problem, validationReport, ExposureState.terminal, ProductionExposures.Report.resolved,
      ProductionExposures.Report.counts, ProductionExposures.Report.elapsed, WorkLeases.finiteNonneg, PyFloat.isFinite,
      not_lt.mpr elapsed, not_lt.mpr requests, not_lt.mpr hostYears, not_lt.mpr sequence]

theorem fits_iff : (s.countsOf run row).all fitsColumn = true ↔ (s.measured run evidenceCursor (some row)).counts.all fitsColumn = true ∧
    ((validationReport (s.measured run evidenceCursor (some row))).updated row.counters).counts.all (fitsColumn ·.2) = true := by
  simp only [State.countsOf, Validation.counts, State.measured, validationReport, ProductionExposures.Report.updated,
    ProductionExposures.Report.resolved, ProductionExposures.Counters.counts, List.all_cons, List.all_nil, Bool.and_true,
    Bool.and_eq_true, Option.or_none, Option.none_or, Option.getD_none, Option.getD_some]
  constructor
  · rintro ⟨created, terminal, direct, requests, hostYears, sequence, records, sourceRequests, bytes, providerBytes⟩
    exact ⟨⟨created, terminal, direct, requests, hostYears, sequence⟩, records, sourceRequests, bytes, requests, providerBytes,
      sequence, hostYears⟩
  · rintro ⟨⟨created, terminal, direct, requests, hostYears, sequence⟩, records, sourceRequests, bytes, -, providerBytes, -⟩
    exact ⟨created, terminal, direct, requests, hostYears, sequence, records, sourceRequests, bytes, providerBytes⟩

theorem reading (readable : Readable row) (dates : row.Dates clock) : ∃ now, clock = .fin now ∧ finiteReading clock = some now := by
  have valid := ProductionExposures.dates_nonneg readable dates
  cases clock with
  | fin now =>
    refine ⟨now, rfl, if_neg ?_⟩
    simpa [WorkLeases.finiteNonneg, PyFloat.isFinite] using valid
  | _ => exact absurd dates.1 (by simp [PyFloat.isFinite])

end

/-! ## One pass -/

structure Placed (s : State) (run : RunRow) (id : String) (row : ExposureRow) : Prop where
  found : s.runs.get? run.key = some run
  named : run.exposureId = some id
  stored : s.exposures.exposures.get? id = some row
  own : row.authority = run.key.authority

theorem validated_key (v : Validation) (r : RunRow) : { r with validation := v : RunRow }.key = r.key := rfl

/-- A run and its exposure after a report. -/
def State.validated (s : State) (now : ℚ) (key : RunKey) (id : String) (v : Validation) : State :=
  (s.wrote key now (s.runs.update (fun r => r.key = key) (fun r => { r with validation := v }) (validated_key v))).withExposures
    (s.exposures.exposures.update (·.exposureId = id) (ProductionExposures.recorded (validationReport v) (.fin now)))

section
variable {s : State} {clock : PyFloat} {run : RunRow} {id : String} {row : ExposureRow} {evidenceCursor : Nat}

theorem Placed.exposure (placed : Placed s run id row) : s.exposure run = some row := by
  rw [State.exposure, placed.named]
  exact placed.stored

/-- A report with nothing wrong in it reaches the exposure, if the row of the run has room for it. -/
theorem validation_eq (placed : Placed s run id row) (open_ : run.closed = false) {now : ℚ} (reads : finiteReading clock = some now)
    {v : Validation} (fine : v.problem = none) : recordSourceRunValidation s clock run.key v =
      if v.counts.all fitsColumn then
        let answer := ProductionExposures.recordProductionExposureProgress s.exposures.exposures clock id (validationReport v)
        (answer.1.map fun _ => (), (s.wrote run.key now
          (s.runs.update (fun r => r.key = run.key) (fun r => { r with validation := v }) (by intro _; rfl))).withExposures answer.2)
      else (.error .overflowError, s) := by
  have after : (s.runs.update (fun r => r.key = run.key) (fun r => { r with validation := v }) (by intro _; rfl)).get? run.key =
      some { run with validation := v } := by
    rw [Table.get?_update_key, if_pos rfl, placed.found]
    rfl
  unfold recordSourceRunValidation recordValidation
  rw [fine, reads, placed.found]
  by_cases room : v.counts.all fitsColumn = true
  · simp only [Option.filter_some, open_, Bool.not_false, if_true, room, Bool.not_true, Bool.false_eq_true, if_false]
    unfold State.report State.wrote
    dsimp only
    rw [after]
    simp only [Option.bind_some, placed.named]
  · rw [Bool.not_eq_true] at room
    simp only [Option.filter_some, open_, Bool.not_false, if_true, room, Bool.false_eq_true, if_false]

theorem validation_steady (placed : Placed s run id row) (open_ : run.closed = false) (steady : Steady s clock run) :
    ∃ now, clock = .fin now ∧ finiteReading clock = some now ∧
      recordSourceRunValidation s clock run.key (s.measured run evidenceCursor (some row)) =
        (.ok (), s.validated now run.key id (s.measured run evidenceCursor (some row))) := by
  obtain ⟨⟨row', found, readable, live, dates, fits⟩, eed⟩ := steady
  obtain rfl := Option.some.inj (placed.exposure.symm.trans found)
  obtain ⟨now, rfl, reads⟩ := reading readable dates
  have fine := (@measured_problem s run evidenceCursor (some row)).mpr eed
  obtain ⟨own, exposed⟩ := (@fits_iff s run row evidenceCursor).mp fits
  have sound := report_problem fine
  have written := @ProductionExposures.record_written s.exposures.exposures (.fin now) _ _ _
    ⟨placed.stored, sound, (ProductionExposures.problem_none row).mpr readable, ⟨none, rfl, nofun⟩, live, exposed⟩ _ rfl
  have stays := ProductionExposures.readable_recorded readable dates sound
  rw [ProductionExposures.fromRow_of ((ProductionExposures.problem_none _).mpr stays)] at written
  refine ⟨now, rfl, reads, ?_⟩
  rw [validation_eq placed open_ reads fine, if_pos own]
  dsimp only
  rw [written]
  rfl

/-- Any other run makes the report raise. -/
theorem steady_of_validation (placed : Placed s run id row) (open_ : run.closed = false) (readable : row.problem = none)
    (answer : (recordSourceRunValidation s clock run.key (s.measured run evidenceCursor (some row))).1 = .ok ()) :
    Steady s clock run := by
  have sound := (ProductionExposures.problem_none row).mp readable
  have fine : (s.measured run evidenceCursor (some row)).problem = none := by
    by_contra wrong
    obtain ⟨err, wrong⟩ := Option.ne_none_iff_exists'.mp wrong
    unfold recordSourceRunValidation at answer
    rw [wrong] at answer
    cases answer
  have timed : finiteReading clock ≠ none := by
    intro off
    unfold recordSourceRunValidation at answer
    rw [fine, off] at answer
    cases answer
  obtain ⟨now, reads⟩ := Option.ne_none_iff_exists'.mp timed
  rw [validation_eq placed open_ reads fine] at answer
  split at answer
  swap
  · cases answer
  rename_i own
  have recorded := ProductionExposures.record_cases s.exposures.exposures clock id
    (validationReport (s.measured run evidenceCursor (some row)))
  dsimp only at answer
  generalize ProductionExposures.recordProductionExposureProgress s.exposures.exposures clock id
    (validationReport (s.measured run evidenceCursor (some row))) = result at recorded answer
  cases recorded with
  | refused err => cases answer
  | written row' records at_ number =>
    obtain rfl := Option.some.inj (placed.stored.symm.trans records.found)
    obtain ⟨rfl, -⟩ := EvidenceTasks.finiteReading_nonneg reads
    cases number
    have after : ProductionExposures.Readable (ProductionExposures.recorded (validationReport (s.measured run evidenceCursor (some row)))
        (.fin now) row) := by
      refine (ProductionExposures.problem_none _).mp ?_
      by_contra wrong
      obtain ⟨problem, wrong⟩ := Option.ne_none_iff_exists'.mp wrong
      unfold fromRow at answer
      split at answer
      · cases answer
      · rename_i right
        rw [wrong] at right
        cases right
    exact ⟨⟨row, placed.exposure, sound, records.open_, ⟨rfl, after.updated.2⟩, fits_iff.mpr ⟨own, records.fits⟩⟩,
      measured_problem.mp fine⟩

theorem placed_validated (placed : Placed s run id row) (now : ℚ) (v : Validation) :
    (s.validated now run.key id v).runs.get? run.key = some { run with validation := v } ∧
      (s.validated now run.key id v).exposures.exposures.get? id =
        some (ProductionExposures.recorded (validationReport v) (.fin now) row) := by
  constructor
  · refine (Table.get?_update_key _ _ _ (by intro _; rfl) _).trans ?_
    rw [if_pos rfl, placed.found]
    rfl
  · refine (Table.get?_update_key _ _ _ (by intro _; rfl) _).trans ?_
    rw [if_pos rfl, placed.stored]
    rfl

end

/-- A validated run whose exposure is final. -/
def State.settled (s : State) (now : ℚ) (key : RunKey) (id : String) (v : Validation) : State :=
  (s.validated now key id v).withExposures ((s.validated now key id v).exposures.exposures.update (·.exposureId = id)
    (ProductionExposures.finalized (.fin v.finalAcceptedEed) v.acceptedHostYears v.maxEvidenceSequence (.fin now)))

def State.closed (s : State) (now : ℚ) (key : RunKey) (id : String) (v : Validation) : State :=
  (s.settled now key id v).wrote key now (markClosed (s.settled now key id v).runs key)

/-- What `close_source_run` asks of a run and its report before it looks at the exposure. -/
def gate (s : State) (run : RunRow) (v : Validation) : Bool :=
  !s.scoutAuthority.any (· ≠ run.key.authority) && !run.terminalState.any (· ≠ .finalClosed) && run.readComplete && v.complete &&
    v.evidenceTasksTerminal = v.evidenceTasksCreated

section
variable {s : State} {run : RunRow} {id : String} {row : ExposureRow} {now : ℚ} {v : Validation}

/-- What `publish_platform_year_final` answers once the exposure is final. -/
def harvested (s : State) (id : String) (row : ExposureRow) : Bool :=
  row.identity.lane ≠ "platform_year" || (s.harvests.rows.find? (·.exposureId = id)).any (·.state = .complete)

theorem validating_of (live : row.state.terminal = false) :
    (ProductionExposures.recorded (validationReport v) (.fin now) row).state = .validating := by
  cases state : row.state <;> simp_all [validationReport, ExposureState.order, ExposureState.terminal]

theorem closeExposure_validated (placed : Placed s run id row) (readable : Readable row) (live : row.state.terminal = false)
    (dates : row.Dates (.fin now)) (fine : v.problem = none) (room : v.counts.all fitsColumn = true) :
    closeExposure (s.validated now run.key id v) (.fin now) run.key id v = (.ok (harvested s id row), s.settled now run.key id v) := by
  have sound := report_problem fine
  have reported := ProductionExposures.readable_recorded readable dates sound
  obtain ⟨eed, -⟩ := v.amounts fine
  obtain ⟨-, stored⟩ := placed_validated placed now v
  have counts : 0 ≤ v.acceptedHostYears ∧ 0 ≤ v.maxEvidenceSequence := by
    unfold Validation.problem at fine
    split at fine
    · cases fine
    · rename_i counts
      simp only [Validation.counts, List.any_cons, List.any_nil, Bool.or_false, Bool.or_eq_true, decide_eq_true_eq, not_or, not_lt] at counts
      exact counts.2.2.2.2
  have fits : fitsColumn v.acceptedHostYears = true ∧ fitsColumn v.maxEvidenceSequence = true := by
    simp only [Validation.counts, List.all_cons, List.all_nil, Bool.and_true, Bool.and_eq_true] at room
    exact room.2.2.2.2
  have finite : WorkLeases.finiteNonneg (.fin v.finalAcceptedEed) = true := by
    simp [WorkLeases.finiteNonneg, PyFloat.isFinite, not_lt.mpr eed]
  have admitted := ProductionExposures.readable_authority reported
  rw [show (ProductionExposures.recorded (validationReport v) (.fin now) row).authority = run.key.authority from placed.own] at admitted
  have final := @ProductionExposures.finalize_written (s.validated now run.key id v).exposures.exposures (.fin now) _ _ _ _ _ _
    ⟨stored, finite, counts, (ProductionExposures.problem_none _).mpr reported, placed.own.symm, validating_of live, fits, le_rfl, le_rfl⟩
    admitted _ rfl
  have after : (s.settled now run.key id v).exposures.exposures.get? id = some (ProductionExposures.finalized (.fin v.finalAcceptedEed)
      v.acceptedHostYears v.maxEvidenceSequence (.fin now) (ProductionExposures.recorded (validationReport v) (.fin now) row)) := by
    refine (Table.get?_update_key _ _ _ (by intro _; rfl) _).trans ?_
    rw [if_pos rfl, stored]
    rfl
  have readableAfter := ProductionExposures.readable_finalized reported dates finite counts
  unfold closeExposure
  rw [stored]
  dsimp only
  rw [ProductionExposures.fromRow_of ((ProductionExposures.problem_none _).mpr reported)]
  dsimp only
  rw [final]
  dsimp only
  show (if row.identity.lane ≠ "platform_year" then (Except.ok true, s.settled now run.key id v)
    else (publishPlatformYearFinal (s.settled now run.key id v) id, s.settled now run.key id v)) = _
  unfold harvested
  by_cases platform : row.identity.lane = "platform_year"
  · rw [if_neg (not_not.mpr platform)]
    unfold publishPlatformYearFinal
    rw [after]
    dsimp only
    rw [ProductionExposures.fromRow_of ((ProductionExposures.problem_none _).mpr readableAfter)]
    simp only [decide_true, Bool.true_and, ne_eq, platform, not_true_eq_false, decide_false, Bool.false_or]
    rfl
  · rw [if_pos platform]
    simp [platform]

theorem close_validated (placed : Placed s run id row) (readable : Readable row) (live : row.state.terminal = false)
    (dates : row.Dates (.fin now)) (reads : finiteReading (.fin now) = some now) (open_ : run.closed = false)
    (fine : v.problem = none) (room : v.counts.all fitsColumn = true) :
    closeSourceRun (s.validated now run.key id v) (.fin now) run.key =
      if gate s run v then
        if harvested s id row then (.ok true, s.closed now run.key id v) else (.ok false, s.settled now run.key id v)
      else (.ok false, s.validated now run.key id v) := by
  obtain ⟨found, -⟩ := placed_validated placed now v
  have closing := closeExposure_validated placed readable live dates fine room
  unfold closeSourceRun gate
  rw [show (s.validated now run.key id v).scoutAuthority = s.scoutAuthority from rfl, found]
  dsimp only
  by_cases other : s.scoutAuthority.any (· ≠ run.key.authority) = true
  · simp only [other, if_true, Bool.not_true, Bool.false_and, Bool.false_eq_true, if_false]
  · rw [if_neg other]
    by_cases ended : run.terminalState.any (· ≠ .finalClosed) = true
    · simp only [ended, if_true, Bool.not_true, Bool.and_false, Bool.false_and, Bool.false_eq_true, if_false]
    · rw [if_neg ended, placed.named]
      dsimp only
      simp only [Bool.not_eq_true] at other ended
      by_cases read : run.readComplete = true ∧ v.complete = true
      · by_cases tasks : v.evidenceTasksTerminal = v.evidenceTasksCreated
        · have closable : RunRow.closable { run with validation := v } = true := by
            simp [RunRow.closable, open_, read, tasks]
          simp only [other, ended, read, tasks, closing, Bool.not_false, Bool.not_true, Bool.and_true, Bool.or_self, decide_true, ne_eq,
            not_true_eq_false, Bool.false_eq_true, if_true, if_false]
          cases harvest : harvested s id row with
          | false => rfl
          | true =>
            show closeRow (s.settled now run.key id v) (.fin now) run.key = (.ok true, s.closed now run.key id v)
            unfold closeRow
            rw [show (s.settled now run.key id v).runs.get? run.key = some { run with validation := v } from found]
            dsimp only
            rw [closable, reads]
            rfl
        · simp [read, tasks]
      · have refused : (!run.readComplete || !v.complete) = true := by
          cases isRead : run.readComplete <;> cases isComplete : v.complete <;> simp_all
        have gate : (run.readComplete && v.complete) = false := by
          cases isRead : run.readComplete <;> cases isComplete : v.complete <;> simp_all
        simp [refused, Bool.and_assoc, gate]

end

/-! ## What a pass leaves as it was -/

/-- Only a run and its exposure are written. -/
structure Apart (run : RunRow) (s s' : State) : Prop where
  runs : ∀ key, key ≠ run.key → s'.runs.get? key = s.runs.get? key
  exposures : ∀ id, run.exposureId ≠ some id → s'.exposures.exposures.get? id = s.exposures.exposures.get? id
  leases : s'.exposures.leases = s.exposures.leases
  scoutAuthority : s'.scoutAuthority = s.scoutAuthority
  backlog : s'.backlog = s.backlog
  staged : s'.staged = s.staged
  metrics : s'.metrics = s.metrics
  harvests : s'.harvests = s.harvests
  origins : s'.origins = s.origins
  readiness : s'.readiness = s.readiness

section
variable {s s' s'' : State} {clock : PyFloat} {run : RunRow} {id : String} {row : ExposureRow} {evidenceCursor : Nat} {v : Validation}

theorem Apart.refl (run : RunRow) (s : State) : Apart run s s := ⟨fun _ _ => rfl, fun _ _ => rfl, rfl, rfl, rfl, rfl, rfl, rfl, rfl, rfl⟩

theorem Apart.trans (first : Apart run s s') (second : Apart run s' s'') : Apart run s s'' where
  runs key other := (second.runs key other).trans (first.runs key other)
  exposures id other := (second.exposures id other).trans (first.exposures id other)
  leases := second.leases.trans first.leases
  scoutAuthority := second.scoutAuthority.trans first.scoutAuthority
  backlog := second.backlog.trans first.backlog
  staged := second.staged.trans first.staged
  metrics := second.metrics.trans first.metrics
  harvests := second.harvests.trans first.harvests
  origins := second.origins.trans first.origins
  readiness := second.readiness.trans first.readiness

theorem apart_wrote (now : ℚ) {set : RunRow → RunRow} (keeps : ∀ r, (set r).key = r.key) :
    Apart run s (s.wrote run.key now (s.runs.update (fun r => r.key = run.key) set keeps)) := by
  refine ⟨fun key other => ?_, fun _ _ => rfl, rfl, rfl, rfl, rfl, rfl, rfl, rfl, rfl⟩
  refine (Table.get?_update_key _ _ _ keeps _).trans ?_
  rw [if_neg other]

theorem apart_exposure (named : run.exposureId = some id) {set : ExposureRow → ExposureRow}
    (keeps : ∀ r, (set r).exposureId = r.exposureId) :
    Apart run s (s.withExposures (s.exposures.exposures.update (·.exposureId = id) set keeps)) := by
  refine ⟨fun _ _ => rfl, fun other apart => ?_, rfl, rfl, rfl, rfl, rfl, rfl, rfl, rfl⟩
  refine (Table.get?_update_key _ _ _ keeps _).trans ?_
  rw [if_neg fun same => apart (named.trans (congrArg some same.symm))]

theorem apart_validated (named : run.exposureId = some id) (now : ℚ) : Apart run s (s.validated now run.key id v) :=
  (apart_wrote now (by intro _; rfl)).trans (apart_exposure named (by intro _; rfl))

theorem apart_settled (named : run.exposureId = some id) (now : ℚ) : Apart run s (s.settled now run.key id v) :=
  (apart_validated named now).trans (apart_exposure named (by intro _; rfl))

theorem apart_closed (named : run.exposureId = some id) (now : ℚ) : Apart run s (s.closed now run.key id v) :=
  (apart_settled named now).trans (apart_wrote now (by intro _; rfl))

theorem validation_apart (placed : Placed s run id row) (open_ : run.closed = false) (v : Validation) :
    Apart run s (recordSourceRunValidation s clock run.key v).2 ∧
      ∃ w, (recordSourceRunValidation s clock run.key v).2.runs.get? run.key = some { run with validation := w } := by
  have unchanged : Apart run s s ∧ ∃ w, s.runs.get? run.key = some { run with validation := w } := ⟨.refl run s, run.validation, placed.found⟩
  cases problem : v.problem with
  | some err =>
    unfold recordSourceRunValidation
    rw [problem]
    exact unchanged
  | none =>
    cases reads : finiteReading clock with
    | none =>
      unfold recordSourceRunValidation
      rw [problem, reads]
      exact unchanged
    | some now =>
      rw [validation_eq placed open_ reads problem]
      split
      · have wrote := @apart_wrote s run now (fun r => { r with validation := v }) (by intro _; rfl)
        have found : (s.wrote run.key now (s.runs.update (fun r => r.key = run.key) (fun r => { r with validation := v }) (by intro _; rfl))).runs.get?
            run.key = some { run with validation := v } := (placed_validated placed now v).1
        have recorded := ProductionExposures.record_cases s.exposures.exposures clock id (validationReport v)
        dsimp only
        generalize ProductionExposures.recordProductionExposureProgress s.exposures.exposures clock id (validationReport v) = result at recorded
        cases recorded with
        | refused err => exact ⟨wrote, v, found⟩
        | written row' records at_ number => exact ⟨wrote.trans (apart_exposure placed.named (by intro _; rfl)), v, found⟩
      · exact unchanged

end

/-! ## One pass for one run -/

section
variable {s : State} {clock : PyFloat} {run : RunRow} {id : String} {row : ExposureRow} {evidenceCursor : Nat}

/-- A pass for a steady run does not raise, and closes the run exactly when it passes all gates. -/
theorem pass_steady (placed : Placed s run id row) (open_ : run.closed = false) (steady : Steady s clock run) :
    (∃ closed, (reconcileRun s clock evidenceCursor run).1 = .ok closed) ∧ Apart run s (reconcileRun s clock evidenceCursor run).2 ∧
      (ClosedIn (reconcileRun s clock evidenceCursor run).2 run.key ↔
        gate s run (s.measured run evidenceCursor (some row)) = true ∧ harvested s id row = true) := by
  obtain ⟨now, isNow, reads, validated⟩ := @validation_steady s clock run id row evidenceCursor placed open_ steady
  obtain ⟨⟨row', found, readable, live, dates, fits⟩, eed⟩ := steady
  obtain rfl := Option.some.inj (placed.exposure.symm.trans found)
  subst isNow
  have fine := (@measured_problem s run evidenceCursor (some row)).mpr eed
  have room := ((@fits_iff s run row evidenceCursor).mp fits).1
  have closing := close_validated placed readable live dates reads open_ fine room
  have pass : reconcileRun s (.fin now) evidenceCursor run =
      if (s.measured run evidenceCursor (some row)).complete then
        closeSourceRun (s.validated now run.key id (s.measured run evidenceCursor (some row))) (.fin now) run.key
      else (.ok false, s.validated now run.key id (s.measured run evidenceCursor (some row))) := by
    unfold reconcileRun
    rw [placed.exposure, show (some row).mapM fromRow = (.ok (some ⟨row, (ProductionExposures.problem_none row).mpr readable⟩)) by
      simp [Option.mapM, ProductionExposures.fromRow_of ((ProductionExposures.problem_none row).mpr readable)]]
    dsimp only
    rw [show Option.map (·.toExposureRow) (some (⟨row, (ProductionExposures.problem_none row).mpr readable⟩ :
      ProductionExposures.ProductionExposure)) = some row from rfl, validated]
  rw [pass, closing]
  generalize s.measured run evidenceCursor (some row) = v at *
  obtain ⟨foundAfter, -⟩ := placed_validated placed now v
  have open' : ¬ClosedIn (s.validated now run.key id v) run.key := by
    rintro ⟨r, stored, -, closed⟩
    rw [foundAfter] at stored
    cases stored
    rw [open_] at closed
    cases closed
  cases complete : v.complete with
  | false =>
    have gated : gate s run v = false := by simp [gate, complete]
    rw [if_neg Bool.false_ne_true, gated]
    exact ⟨⟨false, rfl⟩, apart_validated placed.named now, iff_of_false open' (fun all => Bool.false_ne_true all.1)⟩
  | true =>
    rw [if_pos rfl]
    cases gated : gate s run v with
    | false =>
      rw [if_neg Bool.false_ne_true]
      exact ⟨⟨false, rfl⟩, apart_validated placed.named now, iff_of_false open' (fun all => Bool.false_ne_true all.1)⟩
    | true =>
      rw [if_pos rfl]
      cases harvest : harvested s id row with
      | false =>
        rw [if_neg Bool.false_ne_true]
        exact ⟨⟨false, rfl⟩, apart_settled placed.named now, iff_of_false open' (fun all => Bool.false_ne_true all.2)⟩
      | true =>
        rw [if_pos rfl]
        refine ⟨⟨true, rfl⟩, apart_closed placed.named now, iff_of_true ?_ ⟨rfl, rfl⟩⟩
        refine ⟨{ run with validation := v, closed := true }, ?_, complete, rfl⟩
        refine (Table.get?_update_key _ _ _ (by intro _; rfl) _).trans ?_
        rw [if_pos rfl, show (s.settled now run.key id v).runs.get? run.key = some { run with validation := v } from foundAfter]
        rfl

theorem pass_unsteady (placed : Placed s run id row) (open_ : run.closed = false) (unsteady : ¬Steady s clock run) :
    (∃ err, (reconcileRun s clock evidenceCursor run).1 = .error err) ∧ Apart run s (reconcileRun s clock evidenceCursor run).2 ∧
      ¬ClosedIn (reconcileRun s clock evidenceCursor run).2 run.key := by
  have stays : ∀ {t : State} {w : Validation}, t.runs.get? run.key = some { run with validation := w } → ¬ClosedIn t run.key := by
    rintro t w found ⟨r, stored, -, closed⟩
    rw [found] at stored
    cases stored
    rw [open_] at closed
    cases closed
  cases problem : row.problem with
  | some text =>
    have raises : reconcileRun s clock evidenceCursor run = (.error (.valueError text), s) := by
      have unread : fromRow row = .error (.valueError text) := by
        unfold fromRow
        split
        · rename_i other same
          rw [problem] at same
          cases same
          rfl
        · rename_i none_
          rw [problem] at none_
          cases none_
      unfold reconcileRun
      rw [placed.exposure, show (some row).mapM fromRow = .error (.valueError text) by simp [Option.mapM, unread]]
    rw [raises]
    exact ⟨⟨_, rfl⟩, .refl run s, stays (w := run.validation) placed.found⟩
  | none =>
    obtain ⟨apart, w, found⟩ := @validation_apart s clock run id row placed open_ (s.measured run evidenceCursor (some row))
    have refused := fun answer => unsteady (@steady_of_validation s clock run id row evidenceCursor placed open_ problem answer)
    have pass : reconcileRun s clock evidenceCursor run =
        match recordSourceRunValidation s clock run.key (s.measured run evidenceCursor (some row)) with
        | (.error err, s) => (.error err, s)
        | (.ok _, t) => if (s.measured run evidenceCursor (some row)).complete then closeSourceRun t clock run.key else (.ok false, t) := by
      unfold reconcileRun
      rw [placed.exposure, show (some row).mapM fromRow = (.ok (some ⟨row, problem⟩)) by
        simp [Option.mapM, ProductionExposures.fromRow_of problem]]
      rfl
    rw [pass]
    generalize recordSourceRunValidation s clock run.key (s.measured run evidenceCursor (some row)) = answer at *
    obtain ⟨_ | _, t⟩ := answer
    · exact ⟨⟨_, rfl⟩, apart, stays found⟩
    · exact absurd rfl refused

end

/-! ## The loop -/

def Passes (s : State) (clock : PyFloat) (evidenceCursor : Nat) (run : RunRow) : Prop :=
  Steady s clock run ∧ ∃ id row, Placed s run id row ∧ gate s run (s.measured run evidenceCursor (some row)) = true ∧
    harvested s id row = true

section
variable {s s' : State} {clock : PyFloat} {run other : RunRow} {id : String} {row : ExposureRow} {evidenceCursor : Nat}

theorem Placed.unique {id' : String} {row' : ExposureRow} (placed : Placed s run id row) (placed' : Placed s run id' row') :
    id' = id ∧ row' = row := by
  obtain rfl := Option.some.inj (placed.named.symm.trans placed'.named)
  exact ⟨rfl, Option.some.inj (placed'.stored.symm.trans placed.stored)⟩

theorem pass_closes (placed : Placed s run id row) (open_ : run.closed = false) :
    ClosedIn (reconcileRun s clock evidenceCursor run).2 run.key ↔ Passes s clock evidenceCursor run := by
  by_cases steady : Steady s clock run
  · rw [(pass_steady placed open_ steady).2.2]
    constructor
    · exact fun gates => ⟨steady, id, row, placed, gates⟩
    · rintro ⟨-, id', row', placed', gates⟩
      obtain ⟨rfl, rfl⟩ := placed.unique placed'
      exact gates
  · exact iff_of_false (pass_unsteady placed open_ steady).2.2 fun passes => steady passes.1

theorem pass_apart (placed : Placed s run id row) (open_ : run.closed = false) :
    Apart run s (reconcileRun s clock evidenceCursor run).2 := by
  by_cases steady : Steady s clock run
  · exact (pass_steady placed open_ steady).2.1
  · exact (pass_unsteady placed open_ steady).2.1

section
variable (apart : Apart other s s')
include apart

theorem Apart.operational (exposure : Option ExposureRow) : s'.operational run exposure = s.operational run exposure := by
  have lease : ∀ leaseIdentity, s'.leaseMetrics run leaseIdentity = s.leaseMetrics run leaseIdentity := by
    intro leaseIdentity
    simp only [State.leaseMetrics, State.taskOrigins, State.tasks, State.provider, State.proven, apart.leases, apart.backlog, apart.staged,
      apart.metrics, apart.origins, apart.readiness]
  have platform : ∀ row, s'.platformMetrics run row = s.platformMetrics run row := by
    intro row
    simp only [State.platformMetrics, State.proven, apart.harvests, apart.readiness]
  simp only [State.operational, lease, platform]

theorem Apart.credit : s'.payload run = s.payload run ∧ s'.actualSequence run = s.actualSequence run := by
  simp only [State.payload, State.actualSequence, apart.readiness, apart.origins, and_self]

theorem Apart.measured (exposure : Option ExposureRow) : s'.measured run evidenceCursor exposure = s.measured run evidenceCursor exposure := by
  obtain ⟨payload, actual⟩ := @Apart.credit s s' run other apart
  have hostYears : s'.acceptedHostYears run = s.acceptedHostYears run := by simp only [State.acceptedHostYears, payload]
  have eed : s'.acceptedEed run = s.acceptedEed run := by simp only [State.acceptedEed, payload]
  have sequence : s'.readinessSequence run = s.readinessSequence run := by simp only [State.readinessSequence, payload]
  rw [State.measured, State.measured, apart.operational, hostYears, eed, sequence, actual]

theorem Apart.exposure (elsewhere : other.exposureId ≠ run.exposureId) : s'.exposure run = s.exposure run := by
  unfold State.exposure
  cases named : run.exposureId with
  | none => rfl
  | some id => exact apart.exposures id fun same => elsewhere (same.trans named.symm)

theorem Apart.steady (elsewhere : other.exposureId ≠ run.exposureId) : Steady s' clock run ↔ Steady s clock run := by
  obtain ⟨payload, actual⟩ := @Apart.credit s s' run other apart
  have counts : ∀ row, s'.countsOf run row = s.countsOf run row := by
    intro row
    simp only [State.countsOf, State.acceptedHostYears, apart.operational, payload, actual]
  have eed : s'.acceptedEed run = s.acceptedEed run := by simp only [State.acceptedEed, payload]
  constructor
  · rintro ⟨⟨row, found, readable, live, dates, fits⟩, paid⟩
    rw [apart.exposure elsewhere] at found
    rw [counts] at fits
    exact ⟨⟨row, found, readable, live, dates, fits⟩, eed ▸ paid⟩
  · rintro ⟨⟨row, found, readable, live, dates, fits⟩, paid⟩
    rw [← apart.exposure elsewhere] at found
    rw [← counts] at fits
    exact ⟨⟨row, found, readable, live, dates, fits⟩, eed ▸ paid⟩

theorem Apart.placed (key : run.key ≠ other.key) (elsewhere : other.exposureId ≠ run.exposureId) :
    Placed s' run id row ↔ Placed s run id row := by
  have stored : run.exposureId = some id → s'.exposures.exposures.get? id = s.exposures.exposures.get? id :=
    fun named => apart.exposures id fun same => elsewhere (same.trans named.symm)
  constructor
  · intro placed
    exact ⟨(apart.runs _ key).symm.trans placed.found, placed.named, (stored placed.named).symm.trans placed.stored, placed.own⟩
  · intro placed
    exact ⟨(apart.runs _ key).trans placed.found, placed.named, (stored placed.named).trans placed.stored, placed.own⟩

theorem Apart.passes (key : run.key ≠ other.key) (elsewhere : other.exposureId ≠ run.exposureId) :
    Passes s' clock evidenceCursor run ↔ Passes s clock evidenceCursor run := by
  unfold Passes gate harvested
  simp only [apart.steady elsewhere, apart.placed key elsewhere, apart.measured, apart.scoutAuthority, apart.harvests]

end

/-- Runs with their exposures, all different. -/
structure Separate (s : State) (l : List RunRow) : Prop where
  placed : ∀ run ∈ l, ∃ id row, Placed s run id row
  distinct : l.Pairwise fun a b => b.key ≠ a.key ∧ a.exposureId ≠ b.exposureId

theorem Separate.rest {l : List RunRow} (separate : Separate s (run :: l)) (apart : Apart run s s') : Separate s' l := by
  obtain ⟨first, rest⟩ := List.pairwise_cons.mp separate.distinct
  refine ⟨fun u member => ?_, rest⟩
  obtain ⟨id, row, placed⟩ := separate.placed u (List.mem_cons_of_mem _ member)
  exact ⟨id, row, (apart.placed (first u member).1 (first u member).2).mpr placed⟩

theorem loop_others {l : List RunRow} (separate : Separate s l) {key : RunKey} (absent : ∀ run ∈ l, key ≠ run.key) :
    (reconcileRuns clock evidenceCursor l s).2.runs.get? key = s.runs.get? key := by
  induction l generalizing s with
  | nil => rfl
  | cons run rest ih =>
    have later := fun u member => absent u (List.mem_cons_of_mem _ member)
    rw [reconcileRuns]
    split
    · exact ih (separate.rest (.refl run s)) later
    · rename_i open_
      obtain ⟨id, row, placed⟩ := separate.placed run List.mem_cons_self
      have apart := @pass_apart s clock run id row evidenceCursor placed (by simpa using open_)
      have here := apart.runs key (absent run List.mem_cons_self)
      have rest := separate.rest apart
      generalize reconcileRun s clock evidenceCursor run = answer at *
      obtain ⟨_ | _, t⟩ := answer
      · exact here
      · exact (ih rest later).trans here

/-- The loop closes a run exactly when all open runs before it are steady, and its own pass does. -/
theorem loop_closes {l : List RunRow} (separate : Separate s l) (member : run ∈ l) (open_ : run.closed = false) :
    ClosedIn (reconcileRuns clock evidenceCursor l s).2 run.key ↔
      (∀ u ∈ (l.takeWhile (·.key ≠ run.key)).filter (!·.closed), Steady s clock u) ∧ Passes s clock evidenceCursor run := by
  induction l generalizing s with
  | nil => cases member
  | cons u rest ih =>
    obtain ⟨first, -⟩ := List.pairwise_cons.mp separate.distinct
    obtain ⟨id, row, placed⟩ := separate.placed u List.mem_cons_self
    rw [reconcileRuns]
    rcases List.mem_cons.mp member with rfl | later
    · have absent : ∀ v ∈ rest, run.key ≠ v.key := fun v inside same => (first v inside).1 same.symm
      rw [List.takeWhile_cons_of_neg (by simp), open_, if_neg Bool.false_ne_true, ← pass_closes placed open_]
      have apart := @pass_apart s clock run id row evidenceCursor placed open_
      have others := @loop_others _ clock evidenceCursor rest (separate.rest apart) run.key absent
      generalize reconcileRun s clock evidenceCursor run = answer at *
      obtain ⟨_ | _, t⟩ := answer
      · simp
      · unfold ClosedIn
        dsimp only at others ⊢
        rw [others]
        simp
    · obtain ⟨other, elsewhere⟩ := first run later
      rw [List.takeWhile_cons_of_pos (by simpa using fun same : u.key = run.key => other same.symm), List.filter_cons]
      by_cases closed : u.closed = true
      · rw [if_pos closed, if_neg (by simp [closed])]
        exact ih (separate.rest (.refl u s)) later
      · have live : u.closed = false := by simpa using closed
        rw [if_neg closed, if_pos (by simp [live]), List.forall_mem_cons]
        have apart := @pass_apart s clock u id row evidenceCursor placed live
        by_cases steady : Steady s clock u
        · obtain ⟨⟨answered, isOk⟩, -, -⟩ := @pass_steady s clock u id row evidenceCursor placed live steady
          have next := ih (separate.rest apart) later
          have same : (∀ v ∈ (rest.takeWhile (·.key ≠ run.key)).filter (!·.closed),
              Steady (reconcileRun s clock evidenceCursor u).2 clock v) ↔
              ∀ v ∈ (rest.takeWhile (·.key ≠ run.key)).filter (!·.closed), Steady s clock v := by
            refine forall₂_congr fun v inside => apart.steady (first v ?_).2
            exact (List.takeWhile_prefix _).subset (List.mem_filter.mp inside).1
          rw [same, apart.passes other elsewhere] at next
          generalize reconcileRun s clock evidenceCursor u = answer at *
          obtain ⟨_ | _, t⟩ := answer
          · cases isOk
          · rw [and_iff_right steady]
            exact next
        · obtain ⟨⟨err, raises⟩, -, -⟩ := @pass_unsteady s clock u id row evidenceCursor placed live steady
          have stays := apart.runs run.key other
          obtain ⟨ownId, ownRow, own⟩ := separate.placed run (List.mem_cons_of_mem _ later)
          generalize reconcileRun s clock evidenceCursor u = answer at *
          obtain ⟨_ | _, t⟩ := answer
          · refine iff_of_false ?_ fun all => steady all.1.1
            rintro ⟨r, stored, -, isClosed⟩
            dsimp only at stored stays
            rw [stays, own.found] at stored
            cases stored
            rw [open_] at isClosed
            cases isClosed
          · cases raises

end

/-! ## Runs and their exposures -/

structure Belongs (row : ExposureRow) (id : String) (key : RunKey) : Prop where
  source : row.identity.sourceKey = key.sourceKey
  reservoir : row.identity.reservoirId = key.reservoirId
  authority : row.authority = key.authority
  lease : key.leaseId = if row.identity.lane = "sequential" then row.identity.leaseId else id

def Registered (s : State) : Prop :=
  ∀ run ∈ s.runs.rows, ∃ id row, run.exposureId = some id ∧ s.exposures.exposures.get? id = some row ∧ Belongs row id run.key

/-- Exposures stay whose they are, and runs keep theirs. -/
structure Keeps (s s' : State) : Prop where
  exposures : ∀ id row, s.exposures.exposures.get? id = some row →
    ∃ row', s'.exposures.exposures.get? id = some row' ∧ row'.identity = row.identity
  runs : ∀ run' ∈ s'.runs.rows, ∃ run ∈ s.runs.rows, run'.key = run.key ∧ run'.exposureId = run.exposureId
  origins : s'.origins = s.origins
  readiness : s'.readiness = s.readiness

section
variable {s s' s'' : State} {clock : PyFloat} {key : RunKey} {row : ExposureRow} {id : String}

theorem Belongs.same {row' : ExposureRow} (belongs : Belongs row id key) (same : row'.identity = row.identity) : Belongs row' id key where
  source := by rw [same, belongs.source]
  reservoir := by rw [same, belongs.reservoir]
  authority := by rw [← belongs.authority, ProductionExposures.ExposureRow.authority, same, ProductionExposures.ExposureRow.authority]
  lease := by rw [same, belongs.lease]

theorem Belongs.unique {key' : RunKey} (belongs : Belongs row id key) (belongs' : Belongs row id key') : key = key' := by
  have authority := belongs.authority.symm.trans belongs'.authority
  have lease := belongs.lease.trans belongs'.lease.symm
  obtain ⟨sourceKey, reservoirId, leaseId, baseline, model⟩ := key
  obtain ⟨sourceKey', reservoirId', leaseId', baseline', model'⟩ := key'
  obtain ⟨rfl, rfl⟩ := Prod.mk.inj authority
  obtain rfl : sourceKey = sourceKey' := belongs.source.symm.trans belongs'.source
  obtain rfl : reservoirId = reservoirId' := belongs.reservoir.symm.trans belongs'.reservoir
  obtain rfl : leaseId = leaseId' := lease
  rfl

theorem Keeps.refl (s : State) : Keeps s s :=
  ⟨fun _ row found => ⟨row, found, rfl⟩, fun run member => ⟨run, member, rfl, rfl⟩, rfl, rfl⟩

theorem Keeps.trans (first : Keeps s s') (second : Keeps s' s'') : Keeps s s'' := by
  refine ⟨fun id row found => ?_, fun run'' member => ?_, second.origins.trans first.origins, second.readiness.trans first.readiness⟩
  · obtain ⟨row', found', same⟩ := first.exposures id row found
    obtain ⟨row'', found'', same'⟩ := second.exposures id row' found'
    exact ⟨row'', found'', same'.trans same⟩
  · obtain ⟨run', member', key, exposure⟩ := second.runs run'' member
    obtain ⟨run, inside, key', exposure'⟩ := first.runs run' member'
    exact ⟨run, inside, key.trans key', exposure.trans exposure'⟩

theorem Keeps.registered (keeps : Keeps s s') (registered : Registered s) : Registered s' := by
  intro run' member
  obtain ⟨run, inside, key, exposure⟩ := keeps.runs run' member
  obtain ⟨id, row, named, stored, belongs⟩ := registered run inside
  obtain ⟨row', stored', same⟩ := keeps.exposures id row stored
  exact ⟨id, row', exposure.trans named, stored', key ▸ belongs.same same⟩

theorem identity_step (x : ProductionExposures.System) (e : ExposureEvent) (found : x.exposures.get? id = some row) :
    ∃ row', (ProductionExposures.step x e).2.exposures.get? id = some row' ∧ row'.identity = row.identity := by
  obtain ⟨row', found', change⟩ := ProductionExposures.row_change x e found
  exact ⟨row', found', by cases change <;> rfl⟩

theorem keeps_exposures (s : State) (e : ExposureEvent) : Keeps s { s with exposures := (ProductionExposures.step s.exposures e).2 } :=
  ⟨fun _ _ found => identity_step s.exposures e found, fun run member => ⟨run, member, rfl, rfl⟩, rfl, rfl⟩

theorem keeps_with (s : State) (e : ExposureEvent) : Keeps s (s.withExposures (ProductionExposures.step s.exposures e).2.exposures) :=
  ⟨fun _ _ found => identity_step s.exposures e found, fun run member => ⟨run, member, rfl, rfl⟩, rfl, rfl⟩

theorem keeps_wrote (s : State) (key : RunKey) (now : ℚ) {where_ : RunRow → Bool} {set : RunRow → RunRow} (keeps : ∀ r, (set r).key = r.key)
    (exposure : ∀ r, (set r).exposureId = r.exposureId) : Keeps s (s.wrote key now (s.runs.update where_ set keeps)) := by
  refine ⟨fun _ row found => ⟨row, found, rfl⟩, fun run' member => ?_, rfl, rfl⟩
  obtain ⟨run, inside, ⟨-, rfl⟩ | ⟨-, rfl⟩⟩ := mem_update member
  · exact ⟨run, inside, keeps run, exposure run⟩
  · exact ⟨run', inside, rfl, rfl⟩

theorem keeps_report (s : State) (clock : PyFloat) (key : RunKey) (report : ProductionExposures.Report) :
    Keeps s (s.report clock key report).2 := by
  unfold State.report
  split
  · exact .refl s
  · rename_i exposureId named
    exact keeps_with s ⟨clock, .record exposureId report⟩

theorem keeps_read (s : State) (clock : PyFloat) (key : RunKey) (counters : ReadCounters) (readFinished : Option ℚ) (readComplete : Bool) :
    Keeps s (recordSourceRunRead s clock key counters readFinished readComplete).2 := by
  unfold recordSourceRunRead
  split
  · exact .refl s
  split
  · exact .refl s
  rename_i problem _ now reads
  unfold recordRead
  rw [problem]
  dsimp only
  cases (s.runs.get? key).filter (!·.closed) with
  | none => exact .refl s
  | some found =>
    by_cases room : counters.list.all fitsColumn = true
    · simp only [room, Bool.not_true, Bool.false_eq_true, if_false]
      refine Keeps.trans ?_ (keeps_report _ clock key _)
      exact keeps_wrote s key now (by intro _; rfl) fun _ => rfl
    · simp only [room, Bool.not_false, if_true]
      exact .refl s

theorem keeps_validation (s : State) (clock : PyFloat) (key : RunKey) (v : Validation) :
    Keeps s (recordSourceRunValidation s clock key v).2 := by
  unfold recordSourceRunValidation
  split
  · exact .refl s
  split
  · exact .refl s
  rename_i problem _ now reads
  unfold recordValidation
  rw [problem]
  dsimp only
  cases (s.runs.get? key).filter (!·.closed) with
  | none => exact .refl s
  | some found =>
    by_cases room : v.counts.all fitsColumn = true
    · simp only [room, Bool.not_true, Bool.false_eq_true, if_false]
      refine Keeps.trans ?_ (keeps_report _ clock key _)
      exact keeps_wrote s key now (by intro _; rfl) fun _ => rfl
    · simp only [room, Bool.not_false, if_true]
      exact .refl s

theorem keeps_closeRow (s : State) (clock : PyFloat) (key : RunKey) : Keeps s (closeRow s clock key).2 := by
  unfold closeRow
  split
  · exact .refl s
  split
  · exact .refl s
  split
  · exact .refl s
  · exact keeps_wrote s key _ (by intro _; rfl) fun _ => rfl

theorem keeps_closeExposure (s : State) (clock : PyFloat) (key : RunKey) (exposureId : String) (v : Validation) :
    Keeps s (closeExposure s clock key exposureId v).2 := by
  have finalized := keeps_with s ⟨clock, .finalize exposureId (.fin v.finalAcceptedEed) v.acceptedHostYears v.maxEvidenceSequence key.authority⟩
  simp only [ProductionExposures.step] at finalized
  unfold closeExposure
  split
  · exact .refl s
  split
  · exact .refl s
  generalize ProductionExposures.finalizeProductionExposure s.exposures.exposures clock exposureId (.fin v.finalAcceptedEed)
    v.acceptedHostYears v.maxEvidenceSequence key.authority = answer at *
  obtain ⟨_ | _ | _, exposures⟩ := answer
  · exact finalized
  · exact finalized
  · dsimp only
    split
    · exact finalized
    · exact finalized

theorem keeps_close (s : State) (clock : PyFloat) (key : RunKey) : Keeps s (closeSourceRun s clock key).2 := by
  unfold closeSourceRun
  split
  · exact .refl s
  split
  · exact .refl s
  rename_i run found
  split
  · exact .refl s
  split
  · exact keeps_closeRow s clock key
  rename_i exposureId named
  split
  · exact .refl s
  split
  · exact .refl s
  have exposed := keeps_closeExposure s clock key exposureId run.validation
  generalize closeExposure s clock key exposureId run.validation = answer at *
  obtain ⟨_ | _ | _, t⟩ := answer
  · exact exposed
  · exact exposed
  · exact exposed.trans (keeps_closeRow t clock key)

theorem keeps_pass (s : State) (clock : PyFloat) (evidenceCursor : Nat) (run : RunRow) :
    Keeps s (reconcileRun s clock evidenceCursor run).2 := by
  unfold reconcileRun
  split
  · exact .refl s
  rename_i exposure read
  dsimp only
  have validated := keeps_validation s clock run.key (s.measured run evidenceCursor (exposure.map (·.toExposureRow)))
  generalize recordSourceRunValidation s clock run.key (s.measured run evidenceCursor (exposure.map (·.toExposureRow))) = answer at *
  obtain ⟨_ | _, t⟩ := answer
  · exact validated
  · dsimp only
    split
    · exact validated.trans (keeps_close t clock run.key)
    · exact validated

theorem keeps_loop (clock : PyFloat) (evidenceCursor : Nat) (l : List RunRow) (s : State) :
    Keeps s (reconcileRuns clock evidenceCursor l s).2 := by
  induction l generalizing s with
  | nil => exact .refl s
  | cons run rest ih =>
    rw [reconcileRuns]
    split
    · exact ih s
    · have pass := keeps_pass s clock evidenceCursor run
      generalize reconcileRun s clock evidenceCursor run = answer at *
      obtain ⟨_ | _, t⟩ := answer
      · exact pass
      · exact pass.trans (ih t)

theorem keeps_reconcile (s : State) (clock : PyFloat) : Keeps s (reconcileSourceRunRewards s clock).2 := by
  unfold reconcileSourceRunRewards
  split
  · exact .refl s
  · exact keeps_loop clock _ _ s

theorem keeps_abort (s : State) (clock : PyFloat) (key : RunKey) (state : ExposureState) (reason : String) :
    Keeps s (abortSourceRun s clock key state reason).2 := by
  unfold abortSourceRun
  split
  · exact .refl s
  split
  · exact .refl s
  split
  · exact .refl s
  rename_i run found
  split
  · exact .refl s
  dsimp only
  have asked : ∀ answer : Except PyError Bool × Exposures, (answer = match run.exposureId with
      | none => (.ok true, s.exposures.exposures)
      | some exposureId =>
        ProductionExposures.abortProductionExposure s.exposures.exposures clock exposureId state reason (some key.authority)) →
      Keeps s (s.withExposures answer.2) := by
    rintro answer rfl
    split
    · exact .refl s
    · rename_i exposureId named
      exact keeps_with s ⟨clock, .abort exposureId state reason (some key.authority)⟩
  have kept := asked _ rfl
  generalize (match run.exposureId with
      | none => ((.ok true, s.exposures.exposures) : Except PyError Bool × Exposures)
      | some exposureId =>
        ProductionExposures.abortProductionExposure s.exposures.exposures clock exposureId state reason (some key.authority)) = answer at *
  obtain ⟨_ | _, exposures⟩ := answer
  · exact kept
  · dsimp only
    split
    · exact kept
    · split
      · exact kept.trans (keeps_wrote _ key _ (by intro _; rfl) fun _ => rfl)
      · exact kept

/-! ### Registration -/

theorem registered_register (registered : Registered s) (now : ℚ) {exposureId : String} (readStarted : Option ℚ)
    (stored : s.exposures.exposures.get? exposureId = some row) (belongs : Belongs row exposureId key) :
    Registered (s.register key now exposureId readStarted) := by
  intro run member
  have exposed : ∀ r ∈ (s.runs.insert (.registered key (some exposureId) readStarted)).rows, r.exposureId.isNone = false ∧
      ∃ id row, r.exposureId = some id ∧ s.exposures.exposures.get? id = some row ∧ Belongs row id r.key := by
    intro r inside
    rcases mem_insert inside with rfl | old
    · exact ⟨rfl, exposureId, row, rfl, stored, belongs⟩
    · obtain ⟨id, row, named, found, own⟩ := registered r old
      exact ⟨by rw [named]; rfl, id, row, named, found, own⟩
  obtain ⟨old, inside, ⟨hit, -⟩ | ⟨-, rfl⟩⟩ := mem_update member
  · have bare := (exposed old inside).1
    simp [bare] at hit
  · exact (exposed run inside).2

theorem sequential_identity {identity : ProductionExposures.Identity} (checked : (sequential key).checked = .ok identity) :
    identity = ⟨key.sourceKey, key.reservoirId, key.leaseId, "", "sequential", key.baselineSignature, key.modelSignature⟩ := by
  unfold Opening.checked at checked
  split at checked
  · cases checked
  · split at checked
    · cases checked
    · rename_i baseline model authority
      have pair : baseline = key.baselineSignature ∧ model = key.modelSignature := by
        simp only [sequential, ProductionExposures.exposureAuthority, ProductionExposures.exposureAuthority.given] at authority
        split at authority
        · cases authority
        · cases authority
          exact ⟨rfl, rfl⟩
      split at checked
      · cases checked
      · split at checked
        · cases checked
        · split at checked
          · cases checked
          · cases checked
            rw [pair.1, pair.2]
            rfl

/-- The exposure of `begin_source_run` is the one that its run will have. -/
theorem begin_belongs {exposures : Exposures} {clock : PyFloat} {key : RunKey} {fresh : Draw} {exposure : ProductionExposures.ProductionExposure}
    (answer : (ProductionExposures.beginProductionExposure exposures clock (sequential key) fresh).1 = .ok exposure) :
    (ProductionExposures.beginProductionExposure exposures clock (sequential key) fresh).2.get? exposure.exposureId =
        some exposure.toExposureRow ∧ Belongs exposure.toExposureRow exposure.exposureId key := by
  have own : ∀ {row : ExposureRow} {identity : ProductionExposures.Identity}, (sequential key).checked = .ok identity →
      row.identity = identity → fromRow row = .ok exposure → exposure.toExposureRow = row ∧ Belongs row row.exposureId key := by
    intro row identity checked isIdentity read
    have fields := sequential_identity checked
    rw [← isIdentity] at fields
    refine ⟨(ProductionExposures.fromRow_ok read).1, ?_, ?_, ?_, ?_⟩ <;>
      simp [ProductionExposures.ExposureRow.authority, fields, RunKey.authority]
  have begun := ProductionExposures.begin_cases exposures clock (sequential key) fresh
  generalize ProductionExposures.beginProductionExposure exposures clock (sequential key) fresh = result at begun answer
  cases begun with
  | refused err => cases answer
  | kept identity checked stored found =>
    obtain ⟨same, belongs⟩ := own checked (by simpa using List.find?_some found) answer
    rw [same]
    exact ⟨Table.get?_mem (List.mem_of_find?_eq_some found), belongs⟩
  | opened identity checked timed unused new =>
    obtain ⟨same, belongs⟩ := own checked rfl answer
    rw [same]
    refine ⟨?_, belongs⟩
    rw [Table.get?_insert unused]
    exact if_pos rfl

theorem registered_begin (registered : Registered s) (clock : PyFloat) (key : RunKey) (readStarted : Option ℚ) (fresh : Draw) :
    Registered (beginSourceRun s clock key readStarted fresh).2 := by
  unfold beginSourceRun
  split
  · exact registered
  split
  · exact registered
  rename_i now reads
  split
  · exact registered
  have kept := keeps_with s ⟨clock, .begin (sequential key) fresh⟩
  have belongs := @begin_belongs s.exposures.exposures clock key fresh
  simp only [ProductionExposures.step] at kept
  generalize ProductionExposures.beginProductionExposure s.exposures.exposures clock (sequential key) fresh = result at kept belongs
  obtain ⟨err | exposure, exposures⟩ := result
  · exact kept.registered registered
  · obtain ⟨stored, own⟩ := belongs rfl
    exact registered_register (kept.registered registered) now _ stored own

theorem registered_beginForExposure (registered : Registered s) (clock : PyFloat) (exposureId : String) (readStarted : Option ℚ) :
    Registered (beginSourceRunForExposure s clock exposureId readStarted).2 := by
  unfold beginSourceRunForExposure
  split
  · exact registered
  rename_i row stored
  split
  · exact registered
  rename_i exposure read
  obtain ⟨same, -⟩ := ProductionExposures.fromRow_ok read
  rw [same]
  split
  · exact registered
  rename_i lane
  split
  · exact registered
  split
  · exact registered
  dsimp only
  split
  · exact registered
  · exact registered_register registered _ readStarted stored ⟨rfl, rfl, rfl, by rw [if_neg lane]⟩

end

/-! ## Histories -/

section
variable {a : Authorities} {cutover : Nat} {burns : Bool} {capacity : String → Nat} {s : State} {es : List Entry}

/-- Every credit of the ledger goes to a run that its host-year names. -/
def Named (s : State) (es : List Entry) : Prop :=
  ∀ e ∈ es, ∀ run, e.attribution.run = some run → names s.origins s.readiness.store run e.row.pair = true

structure Inv (a : Authorities) (s : State) (es : List Entry) : Prop where
  registered : Registered s
  ledger : Readiness.Inv a s.readiness es
  sole : Readiness.Sole s.readiness
  named : Named s es

theorem originate_grows (t : Origins) (known : ReadinessLedger.RunKey → Bool) (pairs : List HostYear) (run : ReadinessLedger.RunKey)
    (direct : Bool) (when_ : ℚ) {pair : HostYear} {row : HostYearOrigin} (stored : t.origins.get? pair = some row) :
    (t.originate known pairs run direct when_).2.origins.get? pair = some row := by
  unfold Origins.originate
  split
  · exact stored
  · dsimp only
    rw [Table.get?_foldl_insert, stored]
    rfl

theorem attributeTask_grows (t : Origins) (taskOrigins : TaskOrigins) (known : ReadinessLedger.RunKey → Bool) (key : EvidenceQueryKey)
    (pairs : List HostYear) (kind : String) (when_ : ℚ) (stops : Bool) {pair : HostYear} {row : HostYearOrigin}
    (stored : t.origins.get? pair = some row) :
    (attributeTask t taskOrigins known key pairs kind when_ stops).2.origins.get? pair = some row := by
  unfold attributeTask
  split
  · exact stored
  · split
    · exact stored
    · exact originate_grows _ known pairs _ false when_ stored

theorem attribute_grows (s : State) (when_ : ℚ) (stops : Bool) (e : Attributing) {pair : HostYear} {row : HostYearOrigin}
    (stored : s.origins.origins.get? pair = some row) : (s.attribute when_ stops e).2.origins.get? pair = some row := by
  cases e with
  | taskHostYears key years =>
    simp only [State.attribute, attributeTaskHostYears]
    split_ifs
    · exact stored
    · exact stored
    · exact attributeTask_grows _ _ _ _ _ _ _ _ stored
  | domainTaskHostYears key capsules =>
    simp only [State.attribute, attributeDomainTaskHostYears]
    split_ifs
    · exact stored
    · exact attributeTask_grows _ _ _ _ _ _ _ _ stored
  | directHostYears pairs sourceKey reservoirId leaseId =>
    simp only [State.attribute, attributeDirectHostYears]
    split_ifs
    · exact stored
    · exact stored
    · exact stored
    · exact originate_grows _ _ _ _ _ _ stored
  | directOriginUnitHostYears pairs sourceKey reservoirId originKind originUnitId =>
    simp only [State.attribute, attributeDirectOriginUnitHostYears]
    split_ifs
    · exact stored
    · exact stored
    · exact stored
    · exact stored

theorem insert_grows (burns : Bool) (store : EvidenceStore.Store) (insertion : Insertion) {row : EvidenceStore.ProvenanceRow}
    (stored : row ∈ store.provenance.rows) : row ∈ (insertion.answer burns store).2.provenance.rows := by
  have grows : ∀ {capsules provenance answer}, EvidenceStore.PutAnswer burns store capsules provenance answer →
      row ∈ answer.2.provenance.rows := by
    intro capsules provenance answer put
    cases put with
    | refused => exact stored
    | written => exact foldl_insert_stored stored
  cases insertion with
  | putMany capsules fault => exact grows (EvidenceStore.putMany_cases burns store capsules fault)
  | putManyWithTaskProvenance items fault => exact grows (EvidenceStore.putItems_cases burns store items fault)

theorem store_apply (r : Readiness.System Unit) (attribution : HostYear → ReadinessLedger.Attribution) :
    (Readiness.apply a r () attribution).2.store = r.store := by
  unfold Readiness.apply
  split
  · split <;> rfl
  · rfl

theorem store_refresh (r : Readiness.System Unit) (found : Signatures) : (Readiness.refresh r () found).2.store = r.store := by
  unfold Readiness.refresh
  split
  · split <;> rfl
  · rfl

theorem store_start (r : Readiness.System Unit) (found : Signatures) : (Readiness.start r () found).2.store = r.store := by
  unfold Readiness.start
  split <;> rfl

theorem store_fetch (r : Readiness.System Unit) (batchSize : Int) : (Readiness.fetch r () batchSize).2.store = r.store := by
  unfold Readiness.fetch
  split
  · split
    · rfl
    · split <;> rfl
  · rfl

theorem Inv.keeps (inv : Inv a s es) {s' : State} (keeps : Keeps s s') : Inv a s' es where
  registered := keeps.registered inv.registered
  ledger := by rw [keeps.readiness]; exact inv.ledger
  sole := by rw [keeps.readiness]; exact inv.sole
  named := by
    unfold Named
    rw [keeps.origins, keeps.readiness]
    exact inv.named

theorem Inv.ready (inv : Inv a s es) (e : Readiness.Action Unit) (scoutAuthority : Option Authority)
    (kept : Effect.after es (Readiness.step a burns s.readiness e).1 ⊆ es)
    (store : ∀ row ∈ s.readiness.store.provenance.rows, row ∈ (Readiness.step a burns s.readiness e).2.store.provenance.rows) :
    Inv a { s with scoutAuthority, readiness := (Readiness.step a burns s.readiness e).2 }
      (Effect.after es (Readiness.step a burns s.readiness e).1) where
  registered := inv.registered
  ledger := Readiness.inv_step inv.ledger e (inv.sole.fresh e)
  sole := inv.sole.step e
  named entry member run credited := names_grows (fun _ _ stored => stored) store (inv.named entry (kept member) run credited)

theorem after_kept {α : Type} (answer : Except PyError α) : Effect.after es (kept answer) = es := by
  cases answer <;> rfl

theorem ensure_after (r : Readiness.System Unit) (found : Signatures) (phase : Readiness.Phase) :
    Effect.after es (Readiness.ensure r () found phase).1 ⊆ es := by
  show Effect.after es (.ok (if (ReadinessLedger.ensureAuthority r.ledger found).1 then .reset else .kept)) ⊆ es
  split
  · exact List.nil_subset es
  · exact List.Subset.refl es

theorem Inv.start (inv : Inv a s es) (found : Signatures) (scoutAuthority : Option Authority) :
    Inv a { s with scoutAuthority, readiness := (Readiness.start s.readiness () found).2 }
      (Effect.after es (Readiness.start s.readiness () found).1) := by
  refine @Inv.ready a false s es inv (.start () found) scoutAuthority ?_ ?_
  · show Effect.after es (Readiness.start s.readiness () found).1 ⊆ es
    unfold Readiness.start
    split
    · exact ensure_after _ _ _
    · exact List.Subset.refl es
  · show ∀ row ∈ _, row ∈ (Readiness.start s.readiness () found).2.store.provenance.rows
    rw [store_start]
    exact fun _ stored => stored

theorem Inv.refresh (inv : Inv a s es) (found : Signatures) (scoutAuthority : Option Authority) :
    Inv a { s with scoutAuthority, readiness := (Readiness.refresh s.readiness () found).2 }
      (Effect.after es (Readiness.refresh s.readiness () found).1) := by
  refine @Inv.ready a false s es inv (.refresh () found) scoutAuthority ?_ ?_
  · show Effect.after es (Readiness.refresh s.readiness () found).1 ⊆ es
    unfold Readiness.refresh
    split
    · split
      · exact List.Subset.refl es
      · exact ensure_after _ _ _
    · exact List.Subset.refl es
  · show ∀ row ∈ _, row ∈ (Readiness.refresh s.readiness () found).2.store.provenance.rows
    rw [store_refresh]
    exact fun _ stored => stored

theorem Inv.fetch (inv : Inv a s es) (batchSize : Int) :
    Inv a { s with readiness := (Readiness.fetch s.readiness () batchSize).2 }
      (Effect.after es (Readiness.fetch s.readiness () batchSize).1) := by
  refine @Inv.ready a false s es inv (.fetch () batchSize) s.scoutAuthority ?_ ?_
  · show Effect.after es (Readiness.fetch s.readiness () batchSize).1 ⊆ es
    unfold Readiness.fetch
    split
    · split
      · exact List.Subset.refl es
      · split <;> exact List.Subset.refl es
    · exact List.Subset.refl es
  · show ∀ row ∈ _, row ∈ (Readiness.fetch s.readiness () batchSize).2.store.provenance.rows
    rw [store_fetch]
    exact fun _ stored => stored

/-- What is resolved for a host-year that was read names the run that is credited. -/
theorem Inv.apply (inv : Inv a s es) :
    Inv a { s with readiness := (Readiness.apply a s.readiness () (s.resolved cutover)).2 }
      (Effect.after es (Readiness.apply a s.readiness () (s.resolved cutover)).1) where
  registered := inv.registered
  ledger := @Readiness.inv_step Unit _ a false s.readiness es inv.ledger (.apply () (s.resolved cutover)) (inv.sole.fresh _)
  sole := inv.sole.apply _
  named := by
    unfold Named
    dsimp only
    rw [store_apply]
    unfold Readiness.apply
    cases phase : s.readiness.phase () with
    | fetched held cursor rows =>
      dsimp only
      split
      · exact inv.named
      · intro entry member run credited
        rcases List.mem_append.mp member with old | new
        · exact inv.named entry old run credited
        · obtain ⟨row, read, rfl⟩ := List.mem_map.mp new
          have inside := (inv.ledger.fetched () held cursor rows phase).subset read
          have stored := Table.get?_mem (List.mem_filter.mp inside).1
          have resolved : s.resolved cutover row.pair = resolvedAttribution s.origins s.readiness.store cutover row := by
            rw [State.resolved, stored]
          exact names_resolved (resolved ▸ credited)
    | _ => exact inv.named

theorem begin_readiness (s : State) (clock : PyFloat) (key : RunKey) (readStarted : Option ℚ) (fresh : Draw) :
    (beginSourceRun s clock key readStarted fresh).2.readiness = s.readiness ∧
      (beginSourceRun s clock key readStarted fresh).2.origins = s.origins := by
  unfold beginSourceRun
  split
  · exact ⟨rfl, rfl⟩
  split
  · exact ⟨rfl, rfl⟩
  split
  · exact ⟨rfl, rfl⟩
  split <;> exact ⟨rfl, rfl⟩

theorem beginForExposure_readiness (s : State) (clock : PyFloat) (exposureId : String) (readStarted : Option ℚ) :
    (beginSourceRunForExposure s clock exposureId readStarted).2.readiness = s.readiness ∧
      (beginSourceRunForExposure s clock exposureId readStarted).2.origins = s.origins := by
  unfold beginSourceRunForExposure
  split
  · exact ⟨rfl, rfl⟩
  split
  · exact ⟨rfl, rfl⟩
  split
  · exact ⟨rfl, rfl⟩
  split
  · exact ⟨rfl, rfl⟩
  split
  · exact ⟨rfl, rfl⟩
  dsimp only
  split <;> exact ⟨rfl, rfl⟩

theorem Inv.registers (inv : Inv a s es) {s' : State} (registered : Registered s')
    (same : s'.readiness = s.readiness ∧ s'.origins = s.origins) : Inv a s' es where
  registered := registered
  ledger := by rw [same.1]; exact inv.ledger
  sole := by rw [same.1]; exact inv.sole
  named := by
    unfold Named
    rw [same.1, same.2]
    exact inv.named

theorem inv_step (inv : Inv a s es) (e : Event) :
    Inv a (step a cutover burns capacity s e).2 (Effect.after es (step a cutover burns capacity s e).1) := by
  cases e with
  | exposure e =>
    simp only [step, after_kept]
    exact inv.keeps (keeps_exposures s e)
  | beginSourceRun clock key readStarted fresh =>
    simp only [step, after_kept]
    exact inv.registers (registered_begin inv.registered clock key readStarted fresh) (begin_readiness s clock key readStarted fresh)
  | beginSourceRunForExposure clock exposureId readStarted =>
    simp only [step, after_kept]
    exact inv.registers (registered_beginForExposure inv.registered clock exposureId readStarted)
      (beginForExposure_readiness s clock exposureId readStarted)
  | recordSourceRunRead clock key counters readFinished readComplete =>
    simp only [step, after_kept]
    exact inv.keeps (keeps_read s clock key counters readFinished readComplete)
  | abortSourceRun clock key state reason =>
    simp only [step, after_kept]
    exact inv.keeps (keeps_abort s clock key state reason)
  | setScoutAuthority authority => exact ⟨inv.registered, inv.ledger, inv.sole, inv.named⟩
  | backlog e =>
    simp only [step, after_kept]
    exact ⟨inv.registered, inv.ledger, inv.sole, inv.named⟩
  | stage need => exact ⟨inv.registered, inv.ledger, inv.sole, inv.named⟩
  | deleteStaged need => exact ⟨inv.registered, inv.ledger, inv.sole, inv.named⟩
  | recordMetric row => exact ⟨inv.registered, inv.ledger, inv.sole, inv.named⟩
  | harvest row => exact ⟨inv.registered, inv.ledger, inv.sole, inv.named⟩
  | insert insertion =>
    refine @Inv.ready a burns s es inv (.insert insertion) s.scoutAuthority ?_ fun row => insert_grows burns s.readiness.store insertion
    show Effect.after es (Except.map _ _) ⊆ es
    cases (insertion.answer burns s.readiness.store).1 <;> exact List.Subset.refl es
  | «attribute» when_ stops e =>
    simp only [step, after_kept]
    exact ⟨inv.registered, inv.ledger, inv.sole, fun entry member run credited =>
      names_grows (fun _ _ => attribute_grows s when_ stops e) (fun _ stored => stored) (inv.named entry member run credited)⟩
  | start found => exact @Inv.start a s es inv found _
  | refresh found => exact @Inv.refresh a s es inv found _
  | fetch batchSize => exact @Inv.fetch a s es inv batchSize
  | apply => exact @Inv.apply a cutover s es inv
  | stop => exact @Inv.ready a burns s es inv (.stop ()) s.scoutAuthority (List.Subset.refl es) fun _ stored => stored
  | reconcile clock =>
    simp only [step]
    split
    · rw [after_kept]
      exact inv.keeps (keeps_reconcile s clock)
    · exact inv

theorem applied_snoc (trace : List (Step State Event Outcome)) (r : Step State Event Outcome) :
    applied (trace ++ [r]) = Effect.after (applied trace) r.outcome := by
  simp [applied]

/-- After every history the ledger is exact, every run has its exposure, and every credit is of a run that is named. -/
theorem run_inv (a : Authorities) (cutover : Nat) (burns : Bool) (capacity : String → Nat) (leases : WorkLeases.System)
    (history : List Event) : Inv a ((machine a cutover burns capacity leases).final history)
      (applied ((machine a cutover burns capacity leases).trace history)) := by
  induction history using List.reverseRecOn with
  | nil =>
    refine ⟨?_, ⟨fun _ => rfl, ?_, ?_⟩, ⟨?_, ?_⟩, ?_⟩
    · exact fun _ member => nomatch member
    · exact fun _ stored => nomatch stored
    · exact fun _ _ _ _ here => nomatch here
    · exact fun _ here => nomatch here
    · exact fun _ _ _ here => nomatch here
    · exact fun _ member => nomatch member
  | append_singleton history e ih =>
    rw [Machine.final_snoc, Machine.trace_snoc, applied_snoc]
    exact inv_step ih e

end

/-! ## What is listed -/

section
variable {s : State} {authority : Authority} {run : RunRow}

theorem mem_listed : run ∈ s.listed authority ↔
    run ∈ s.runs.rows ∧ run.terminalState.all (· = .finalClosed) = true ∧ run.key.authority = authority := by
  rw [State.listed, List.mem_insertionSort, List.mem_filter]
  simp

theorem separate_listed (registered : Registered s) (authority : Authority) : Separate s (s.listed authority) where
  placed run member := by
    obtain ⟨stored, -, -⟩ := mem_listed.mp member
    obtain ⟨id, row, named, found, belongs⟩ := registered run stored
    exact ⟨id, row, Table.get?_mem stored, named, found, belongs.authority⟩
  distinct := by
    have keys : ((s.listed authority).map (·.key)).Nodup :=
      ((List.perm_insertionSort _ _).map _).nodup_iff.mpr (s.runs.keyed.sublist (List.filter_sublist.map _))
    refine (List.pairwise_map.mp keys).imp_of_mem fun {a b} first second apart => ?_
    refine ⟨apart.symm, fun shared => apart ?_⟩
    obtain ⟨id, row, named, found, belongs⟩ := registered a (mem_listed.mp first).1
    obtain ⟨id', row', named', found', belongs'⟩ := registered b (mem_listed.mp second).1
    obtain rfl := Option.some.inj (named.symm.trans (shared.trans named'))
    obtain rfl := Option.some.inj (found.symm.trans found')
    exact belongs.unique belongs'

end

/-! ## The number that the ledger reached -/

section
variable {a : Authorities} {l : Ledger} {state : ReadinessLedger.StateRow} {es : List Entry} {name : String}
  {row : ReadinessLedger.RunRow}

theorem last_of_filter {rows : List ReadinessLedger.RunRow} (sorted : rows.Pairwise (fun a b => a.key ≤ b.key))
    {q : ReadinessLedger.RunRow → Bool} (last : (rows.filter q).getLast? = some row) :
    row ∈ rows ∧ q row = true ∧ ∀ other ∈ rows, q other = true → other.key ≤ row.key := by
  obtain ⟨earlier, split⟩ := List.getLast?_eq_some_iff.mp last
  have inside : row ∈ rows.filter q := split ▸ List.mem_append_right _ List.mem_cons_self
  refine ⟨(List.mem_filter.mp inside).1, (List.mem_filter.mp inside).2, fun other member meets => ?_⟩
  have here : other ∈ earlier ++ [row] := split ▸ List.mem_filter.mpr ⟨member, meets⟩
  rcases List.mem_append.mp here with before | same
  · have order := split ▸ sorted.sublist List.filter_sublist
    exact (List.pairwise_append.mp order).2.2 other before row List.mem_cons_self
  · rw [List.mem_singleton.mp same]

theorem lastSequence_le {n : Nat} : n ≤ ReadinessLedger.lastSequence es ↔ n = 0 ∨ ∃ e ∈ es, n ≤ e.row.sequence := by
  induction es with
  | nil => simp [ReadinessLedger.lastSequence]
  | cons e es ih =>
    rw [ReadinessLedger.lastSequence, List.foldr_cons, ← ReadinessLedger.lastSequence, le_max_iff, ih, List.exists_mem_cons_iff]
    tauto

theorem mem_sourceRun (recounts : l.Recounts a state es) {run : ReadinessLedger.RunKey} :
    (∃ row ∈ l.sourceRun.rows, row.key = run) ↔ ∃ e ∈ es, e.attribution.run = some run := by
  have counted := recounts.totals.run run
  change l.sourceRun.get? run = _ at counted
  unfold ReadinessLedger.ran at counted
  constructor
  · rintro ⟨row, member, rfl⟩
    rw [Table.get?_mem member] at counted
    split at counted
    · cases counted
    · rename_i some_
      obtain ⟨e, inside⟩ := List.exists_mem_of_ne_nil _ fun none_ => some_ (List.isEmpty_iff.mpr none_)
      exact ⟨e, (List.mem_filter.mp inside).1, by simpa using (List.mem_filter.mp inside).2⟩
  · rintro ⟨e, member, credited⟩
    have some_ : ¬(es.filter fun e => e.attribution.run = some run).isEmpty = true := by
      intro none_
      have inside : e ∈ es.filter fun e => e.attribution.run = some run := List.mem_filter.mpr ⟨member, by simp [credited]⟩
      rw [List.isEmpty_iff.mp none_] at inside
      cases inside
    rw [if_neg some_] at counted
    exact ⟨_, Table.mem_of_get? counted, Table.get?_key counted⟩

theorem payload_sorted (l : Ledger) : l.sourceRun.sorted.rows.Pairwise (fun a b => a.key ≤ b.key) := by
  have sorted := List.pairwise_insertionSort (fun a b : ReadinessLedger.RunRow => a.key ≤ b.key) l.sourceRun.rows
  exact sorted

theorem mem_sorted (l : Ledger) : row ∈ l.sourceRun.sorted.rows ↔ row ∈ l.sourceRun.rows :=
  List.mem_insertionSort _

theorem payload_some (recounts : l.Recounts a state es) (found : payload l name = some row) :
    row.maxEvidenceSequence = ReadinessLedger.lastSequence (es.filter fun e => e.attribution.run = some row.key) ∧
      ∀ e ∈ es, CreditedAs es name e ↔ e.attribution.run = some row.key := by
  obtain ⟨member, named, last⟩ := last_of_filter (payload_sorted l) found
  have stored := (mem_sorted l).mp member
  have isName : runName row.key = name := by simpa using named
  have counted := recounts.totals.run row.key
  change l.sourceRun.get? row.key = _ at counted
  have atMost : ∀ e ∈ es, ∀ run, e.attribution.run = some run → runName run = name → run ≤ row.key := by
    intro e inside run credited same
    obtain ⟨other, there, rfl⟩ := (mem_sourceRun recounts).mpr ⟨e, inside, credited⟩
    exact last other ((mem_sorted l).mpr there) (by simpa using same)
  obtain ⟨own, ownMember, ownCredit⟩ := (mem_sourceRun recounts).mp ⟨row, stored, rfl⟩
  constructor
  · rw [Table.get?_mem stored] at counted
    unfold ReadinessLedger.ran at counted
    split at counted
    · cases counted
    · exact congrArg (·.maxEvidenceSequence) (Option.some.inj counted)
  · intro e inside
    constructor
    · rintro ⟨run, credited, same, latest⟩
      rw [credited, le_antisymm (atMost e inside run credited same) (latest own ownMember row.key ownCredit isName)]
    · intro credited
      exact ⟨row.key, credited, isName, atMost⟩

theorem payload_none (recounts : l.Recounts a state es) (missing : payload l name = none) : ∀ e ∈ es, ¬CreditedAs es name e := by
  rintro e inside ⟨run, credited, same, -⟩
  obtain ⟨row, stored, rfl⟩ := (mem_sourceRun recounts).mpr ⟨e, inside, credited⟩
  have kept : row ∈ l.sourceRun.sorted.rows.filter fun row => runName row.key = name :=
    List.mem_filter.mpr ⟨(mem_sorted l).mpr stored, by simpa using same⟩
  rw [List.getLast?_eq_none_iff.mp missing] at kept
  cases kept

/-- The number that is stored for a name reaches another one exactly when that of a host-year credited under the name does. -/
theorem reaches_iff (recounts : l.Recounts a state es) {n : Nat} (positive : 0 < n) :
    n ≤ ((payload l name).map (·.maxEvidenceSequence)).getD 0 ↔ ∃ e ∈ es, CreditedAs es name e ∧ n ≤ e.row.sequence := by
  cases found : payload l name with
  | none =>
    refine iff_of_false (by simpa using positive.ne') ?_
    rintro ⟨e, inside, credited, -⟩
    exact payload_none recounts found e inside credited
  | some row =>
    obtain ⟨sequence, credited⟩ := payload_some recounts found
    rw [Option.map_some, Option.getD_some, sequence, lastSequence_le, or_iff_right positive.ne']
    constructor
    · rintro ⟨e, inside, reach⟩
      obtain ⟨member, isRun⟩ := List.mem_filter.mp inside
      exact ⟨e, member, (credited e member).mpr (by simpa using isRun), reach⟩
    · rintro ⟨e, member, isCredited, reach⟩
      exact ⟨e, List.mem_filter.mpr ⟨member, by simpa using (credited e member).mp isCredited⟩, reach⟩

end

section
variable {t : Origins} {store : EvidenceStore.Store} {run : ReadinessLedger.RunKey} {n : Nat}

theorem maxSequence_le : maxSourceRunEvidenceSequence t store run ≤ n ↔ ∀ row ∈ namedRows t store run, row.sequence ≤ n :=
  EvidenceStore.foldr_max_le _

/-- Only a run that no host-year names has no last one. -/
theorem maxSequence_zero : maxSourceRunEvidenceSequence t store run = 0 ↔ namedRows t store run = [] := by
  rw [← Nat.le_zero, maxSequence_le, List.eq_nil_iff_forall_not_mem]
  refine forall_congr' fun row => ⟨fun zero member => ?_, fun none_ member => absurd member (none_)⟩
  have positive := (store.hostYears.numbered row (List.mem_filter.mp member).1).1
  exact absurd (zero member) (by omega)

end

/-- The validation gate on numbers, over what the ledger credited. -/
theorem reached_iff {a : Authorities} {s : State} {es : List Entry} {state : ReadinessLedger.StateRow}
    (recounts : s.readiness.ledger.Recounts a state es) (run : RunRow) :
    (s.actualSequence run = 0 ∨ s.actualSequence run ≤ s.readinessSequence run) ↔ Reached s es run.key := by
  unfold Reached State.actualSequence State.readinessSequence State.payload
  rw [maxSequence_zero]
  by_cases none_ : namedRows s.origins s.readiness.store (lineage run.key) = []
  · simp only [none_, true_or]
  · have positive := Nat.pos_of_ne_zero fun zero => none_ (maxSequence_zero.mp zero)
    rw [or_iff_right none_, or_iff_right none_, reaches_iff recounts positive]
    simp only [maxSequence_le]

/-! ## Finished runs -/

section
variable {s : State} {clock : PyFloat} {key : RunKey} {run : RunRow} {id : String} {row : ExposureRow}

theorem Finished.counted (finished : Finished s key run) (isKey : run.key = key) (exposure : Option ExposureRow) :
    (s.operational run exposure).evidenceCreated = (s.operational run exposure).evidenceTerminal := by
  have lease : ∀ leaseIdentity, (s.leaseMetrics run leaseIdentity).evidenceCreated = (s.leaseMetrics run leaseIdentity).evidenceTerminal := by
    intro leaseIdentity
    have unstaged : s.staged.rows.countP (·.run = lineage run.key) = 0 := by
      rw [List.countP_eq_zero]
      intro need member
      rw [isKey]
      simpa using finished.staged need member
    show (s.taskOrigins run).countP (fun o => (s.backlog.store.tasks.get? o.task).isSome) + s.staged.rows.countP (·.run = lineage run.key) =
      (s.taskOrigins run).countP fun o => (s.backlog.store.tasks.get? o.task).any (terminalStates.contains ·.state)
    rw [unstaged, Nat.add_zero]
    refine List.countP_congr fun o member => ?_
    obtain ⟨stored, own⟩ := List.mem_filter.mp member
    cases found : s.backlog.store.tasks.get? o.task with
    | none => simp
    | some task =>
      have terminal := finished.tasks o stored (by rw [← isKey]; simpa using own) task found
      simpa using terminal
  unfold State.operational
  split
  · exact lease _
  · split
    · rfl
    · exact lease _

theorem Finished.gated (finished : Finished s key run) (placed : Placed s run id row) (isKey : run.key = key)
    (live : run.terminalState.all (· = .finalClosed) = true) {state : ReadinessLedger.StateRow} (stored : s.readiness.ledger.state = some state) :
    gate s run (s.measured run state.evidenceCursor (some row)) = true ↔
      s.actualSequence run = 0 ∨ s.actualSequence run ≤ s.readinessSequence run := by
  have authority : s.scoutAuthority.any (· ≠ run.key.authority) = false := by
    rw [isKey, Option.any_eq_false]
    intro other is
    simpa using finished.authority other is
  have ended : run.terminalState.any (· ≠ .finalClosed) = false := by
    cases terminal : run.terminalState with
    | none => rfl
    | some t => simpa [terminal] using live
  have lease : (s.operational run (some row)).leaseTerminal = true := placed.exposure ▸ finished.lease
  have consumed : s.actualSequence run ≤ state.evidenceCursor := by
    obtain ⟨state', stored', -, all⟩ := finished.consumed
    obtain rfl := Option.some.inj (stored.symm.trans stored')
    exact maxSequence_le.mpr fun row member => all row (List.mem_filter.mp member).1
  have tasks := finished.counted isKey (some row)
  unfold gate
  rw [authority, ended, finished.read]
  simp [State.measured, lease, tasks, consumed]

/-- A finished run closes in a loop that reaches it, if its credit reaches the last host-year that names it. -/
theorem Finished.passes (finished : Finished s key run) (placed : Placed s run id row) (isKey : run.key = key)
    (live : run.terminalState.all (· = .finalClosed) = true) {a : Authorities} {es : List Entry} {state : ReadinessLedger.StateRow}
    (recounts : s.readiness.ledger.Recounts a state es) :
    Passes s clock state.evidenceCursor run ↔ Steady s clock run ∧ Reached s es key ∧ Published s run := by
  have gated := finished.gated placed isKey live recounts.stored
  rw [reached_iff recounts run, isKey] at gated
  have published : harvested s id row = true ↔ Published s run := by
    have same : (fun harvest : HarvestRow => decide (some id = some harvest.exposureId)) = fun harvest => decide (harvest.exposureId = id) := by
      funext harvest
      exact decide_eq_decide.mpr ⟨fun equal => (Option.some.inj equal).symm, fun equal => congrArg some equal.symm⟩
    unfold harvested Published
    rw [placed.exposure, placed.named, same]
    constructor
    · rintro complete other ⟨⟩ platform
      simpa [platform] using complete
    · intro complete
      by_cases platform : row.identity.lane = "platform_year"
      · simpa [platform] using complete row rfl platform
      · simp [platform]
  unfold Passes
  refine and_congr_right fun _ => ⟨?_, ?_⟩
  · rintro ⟨id', row', placed', gates, complete⟩
    obtain ⟨rfl, rfl⟩ := placed.unique placed'
    exact ⟨gated.mp gates, published.mp complete⟩
  · rintro ⟨reached, complete⟩
    exact ⟨id, row, placed, gated.mpr reached, published.mpr complete⟩

end

/-- The next reconciliation closes a finished run exactly when the run was not aborted, its credit reaches the last
    host-year that names it, and it and the open runs listed before it can be reported on. -/
theorem closes_iff (a : Authorities) (cutover : Nat) (burns : Bool) (capacity : String → Nat) (leases : WorkLeases.System)
    (history : List Event) (clock : PyFloat) (key : RunKey) (run : RunRow) (held : Signatures)
    (finished : Finished ((machine a cutover burns capacity leases).final history) key run)
    (idle : ((machine a cutover burns capacity leases).final history).readiness.phase () = .idle held) :
    ClosedIn ((machine a cutover burns capacity leases).final (history ++ [.reconcile clock])) key ↔
      run.terminalState.all (· = .finalClosed) = true ∧
      Reached ((machine a cutover burns capacity leases).final history) (applied ((machine a cutover burns capacity leases).trace history)) key ∧
      Published ((machine a cutover burns capacity leases).final history) run ∧
      Steady ((machine a cutover burns capacity leases).final history) clock run ∧
      ∀ u ∈ ((machine a cutover burns capacity leases).final history).ahead key,
        Steady ((machine a cutover burns capacity leases).final history) clock u := by
  have inv := run_inv a cutover burns capacity leases history
  rw [Machine.final_snoc]
  generalize (machine a cutover burns capacity leases).final history = s at *
  generalize applied ((machine a cutover burns capacity leases).trace history) = es at *
  have next : ((machine a cutover burns capacity leases).step s (.reconcile clock)).2 = (reconcileSourceRunRewards s clock).2 := by
    show (step a cutover burns capacity s (.reconcile clock)).2 = _
    simp only [step, idle]
  obtain ⟨state, stored, signed, -⟩ := finished.consumed
  obtain ⟨recounts, -⟩ := inv.ledger.recounts state stored
  have isKey : run.key = key := Table.get?_key finished.found
  subst isKey
  have listed : (reconcileSourceRunRewards s clock).2 = (reconcileRuns clock state.evidenceCursor (s.listed run.key.authority) s).2 := by
    unfold reconcileSourceRunRewards
    rw [stored]
    dsimp only
    rw [signed]
    rfl
  have separate := separate_listed inv.registered run.key.authority
  have member := Table.mem_of_get? finished.found
  rw [next, listed]
  by_cases live : run.terminalState.all (· = .finalClosed) = true
  · have inside := mem_listed.mpr ⟨member, live, rfl⟩
    obtain ⟨id, row, placed⟩ := separate.placed run inside
    rw [loop_closes separate inside finished.open_, finished.passes placed rfl live recounts, and_iff_right live]
    show (∀ u ∈ s.ahead run.key, Steady s clock u) ∧ Steady s clock run ∧ Reached s es run.key ∧ Published s run ↔ _
    tauto
  · refine iff_of_false ?_ fun all => live all.1
    have absent : ∀ u ∈ s.listed run.key.authority, run.key ≠ u.key := by
      intro u inside same
      obtain ⟨there, open_, -⟩ := mem_listed.mp inside
      rw [Table.row_unique member there same] at live
      exact live open_
    rintro ⟨after, found, -, closed⟩
    rw [loop_others separate absent, finished.found] at found
    cases found
    rw [finished.open_] at closed
    cases closed

/-! ## Runs that stay open -/

open Creeper.Readiness (twoBaselines capsuleA capsuleOf)

/-- A reservoir, and a lease of it that is over. -/
def endedLeases : WorkLeases.System where
  store := {
    reservoirs := ⟨[⟨"reservoir", none, .ready⟩], by decide⟩
    leases := ⟨[⟨"lease", "reservoir", none, none, 0, 0, 0, .fin 0, "network", 0, .fin 0, some "worker", none, .succeeded⟩], by decide⟩ }
  saving := fun _ => none

def sampleKey : RunKey := ⟨"source", "reservoir", "lease", "x", "m"⟩

def sample : Machine State Event Outcome := machine twoBaselines 0 false (fun _ => 0) endedLeases

def directCapsule : EvidenceCapsule :=
  ⟨{ capsuleOf "a.com" with provider := "direct:list", sourceId := "source" }, by decide +kernel, by decide +kernel⟩

def provenanceOf (leaseId : String) : EvidenceStore.EvidenceTaskProvenance where
  key := ⟨"a.com", 1996, 1996, "cdx", "v1", by decide +kernel⟩
  sourceKey := "source"
  reservoirId := "reservoir"
  leaseId := leaseId
  committedAt := 2
  taskKind := ""
  valid := by decide

def readThrough : List Event :=
  [.beginSourceRun (.fin 1) sampleKey none ProductionExposures.draw, .recordSourceRunRead (.fin 2) sampleKey ⟨0, 0, 0, 0, 0⟩ none true]

def syncOnce : List Event := [.start ⟨"x", "m"⟩, .refresh ⟨"x", "m"⟩, .fetch 10, .apply]

def attributeDirect : Event := .attribute 3 false (.directHostYears [directCapsule.pair] "source" "reservoir" "lease")

/-- A direct host-year of the run, attributed before it is applied. -/
def attributedFirst : List Event := readThrough ++ [.insert (.putMany [directCapsule] none), attributeDirect] ++ syncOnce

/-- It is attributed once it has been applied. -/
def attributedLate : List Event := readThrough ++ [.insert (.putMany [directCapsule] none)] ++ syncOnce ++ [attributeDirect]

/-- Two runs have a task that proved the same host-year. -/
def sharedPair : List Event := readThrough ++
  [.insert (.putManyWithTaskProvenance [(capsuleA, provenanceOf "other"), (capsuleA, provenanceOf "lease")] none)] ++ syncOnce

def readRow : RunRow := ⟨sampleKey, some "fresh", some 1, some 2, ⟨0, 0, 0, 0, 0⟩, true, .zero, false, none, none⟩

theorem sample_finished {s : State} (found : s.runs.get? sampleKey = some readRow)
    (lease : (s.operational readRow (s.exposure readRow)).leaseTerminal = true) (tasks : s.backlog.origins.rows = [])
    (staged : s.staged.rows = []) (state : s.readiness.ledger.state.map (fun state => (state.signatures, state.evidenceCursor)) = some (⟨"x", "m"⟩, 1))
    (rows : s.readiness.store.hostYears.table.rows.all (·.sequence ≤ 1) = true)
    (authority : s.scoutAuthority = some ("x", "m")) : Finished s sampleKey readRow where
  found := found
  open_ := rfl
  read := rfl
  lease := lease
  tasks o member := by rw [tasks] at member; cases member
  staged need member := by rw [staged] at member; cases member
  consumed := by
    obtain ⟨row, stored, values⟩ := Option.map_eq_some_iff.mp state
    obtain ⟨signed, cursor⟩ := Prod.mk.inj values
    refine ⟨row, stored, signed, fun hostYear member => ?_⟩
    rw [cursor]
    simpa using List.all_eq_true.mp rows hostYear member
  authority other is := by
    rw [authority] at is
    cases is
    rfl

theorem attributedFirst_closes : ClosedIn (sample.final (attributedFirst ++ [.reconcile (.fin 4)])) sampleKey := by
  have finished : Finished (sample.final attributedFirst) sampleKey readRow :=
    sample_finished (by decide +kernel) (by decide +kernel) (by decide +kernel) (by decide +kernel) (by decide +kernel)
      (by decide +kernel) (by decide +kernel)
  have inv := run_inv twoBaselines 0 false (fun _ => 0) endedLeases attributedFirst
  obtain ⟨state, stored, -⟩ := finished.consumed
  have reached := (reached_iff (inv.ledger.recounts state stored).1 readRow).mp (.inr (by decide +kernel))
  have exposed : ((sample.final attributedFirst).exposure readRow).any (fun row => row.problem = none && !row.state.terminal &&
      !(PyFloat.fin 4).lt row.createdAt && row.identity.lane ≠ "platform_year" &&
      ((sample.final attributedFirst).countsOf readRow row).all fitsColumn) = true := by decide +kernel
  obtain ⟨row, found, fine⟩ := (Option.any_eq_true _ _).mp exposed
  simp only [Bool.and_eq_true, decide_eq_true_eq, Bool.not_eq_true'] at fine
  obtain ⟨⟨⟨⟨readable, live⟩, later⟩, sequentially⟩, fits⟩ := fine
  have steady : Steady (sample.final attributedFirst) (.fin 4) readRow :=
    ⟨⟨row, found, (ProductionExposures.problem_none row).mp readable, live, ⟨rfl, later⟩, fits⟩, by decide +kernel⟩
  have published : Published (sample.final attributedFirst) readRow := by
    intro other stored platform
    cases found.symm.trans stored
    exact absurd platform sequentially
  have none_ : (sample.final attributedFirst).ahead sampleKey = [] := by decide +kernel
  have ahead : ∀ u ∈ (sample.final attributedFirst).ahead sampleKey, Steady (sample.final attributedFirst) (.fin 4) u := by
    rw [none_]
    exact fun _ member => nomatch member
  exact (closes_iff twoBaselines 0 false (fun _ => 0) endedLeases attributedFirst (.fin 4) sampleKey readRow ⟨"x", "m"⟩ finished rfl).mpr
    ⟨rfl, reached, published, steady, ahead⟩

/-- The run is finished, and a reconciliation leaves it open. -/
def StaysOpen (history : List Event) : Prop :=
  Finished (sample.final history) sampleKey readRow ∧ (sample.final history).readiness.phase () = .idle ⟨"x", "m"⟩ ∧
    ¬ClosedIn (sample.final (history ++ [.reconcile (.fin 4)])) sampleKey

theorem stays_open : StaysOpen attributedLate ∧ StaysOpen sharedPair := by
  have open_ : ∀ {s : State}, (s.runs.get? sampleKey).any (!·.closed) = true → ¬ClosedIn s sampleKey := by
    rintro s isOpen ⟨run, found, -, closed⟩
    rw [found] at isOpen
    simp [closed] at isOpen
  have late : Finished (sample.final attributedLate) sampleKey readRow :=
    sample_finished (by decide +kernel) (by decide +kernel) (by decide +kernel) (by decide +kernel) (by decide +kernel)
      (by decide +kernel) (by decide +kernel)
  have shared : Finished (sample.final sharedPair) sampleKey readRow :=
    sample_finished (by decide +kernel) (by decide +kernel) (by decide +kernel) (by decide +kernel) (by decide +kernel)
      (by decide +kernel) (by decide +kernel)
  exact ⟨⟨late, rfl, open_ (by decide +kernel)⟩, shared, rfl, open_ (by decide +kernel)⟩

end Creeper.RunClosing
