import Creeper.SourceActivation
import Creeper.SourceLineage
import Creeper.Interleavings

/-!
# The discovery coordinator

`source_discovery/coordinator_core.py`: a cycle recovers what an earlier process left, plans, claims
sources for scouting, and commits what the outside work found. Each call of the registry is a
transaction of its own: the process may die between two of them, any of them may raise, and other
processes write meanwhile.
-/

namespace Creeper.SourceCoordinator
open Creeper.Runs Creeper.Tables Creeper.PyNumbers Creeper.PyText Creeper.Transactions Creeper.SourceActivation
open Creeper.FabricModels (PyError blank)
open Creeper.SourceLineage (EdgeRow EdgeKey Graph addEdge)
open Creeper.EvidenceTasks (finiteReading)

/-! ## The registry -/

inductive SuppressionScope
  | source | family | origin
  deriving DecidableEq

structure SuppressionRow where
  scopeType : SuppressionScope
  scopeKey : String
  reason : String
  createdAt : ℚ
  expiresAt : Option ℚ

/-- The primary key of `source_suppressions`. -/
abbrev SuppressionRow.key (row : SuppressionRow) : SuppressionScope × String := (row.scopeType, row.scopeKey)

/-- The database, the clock, and what the coordinator of the process remembers. -/
structure World where
  registry : Registry
  suppressions : Table SuppressionRow (SuppressionScope × String) (·.key)
  edges : Table EdgeRow EdgeKey (·.key)
  clock : PyFloat
  /-- The database error that the next call of the coordinator meets. -/
  fault : Option SourceError
  /-- `_startup_recovered`. -/
  startupRecovered : Bool

/-- What a source is besides its state; the coordinator's settings. -/
structure Settings where
  family : String → String
  origin : String → String
  /-- `is_background_bulk_candidate`. -/
  background : String → Bool
  /-- `is_audited_arquivo_catalog`. -/
  audited : String → Bool
  /-- `_candidate_value` among the active sources. -/
  candidateValue : World → String → List String → ℚ
  maxGraphHops : Nat
  triageBatch : Nat
  activeTarget : Nat
  /-- `targets.scout_parallelism`. -/
  scoutTarget : Nat
  scoutParallelism : Nat
  failureRetrySeconds : ℚ
  scoutAuthority : Option (String × String)

/-- A candidate on its way into the registry. -/
structure Proposal where
  row : CandidateRow
  /-- Candidates enter as DISCOVERED. -/
  enters : row.state = .discovered
  /-- `is_common_crawl_provenance`. -/
  commonCrawl : Bool

abbrev Proposal.key (proposal : Proposal) : String := proposal.row.sourceKey

/-- A call's answer, or what it raises, and the world after it. -/
abbrev Answer (α : Type) := Except SourceError α × World

/-- A call that only reads the clock before it writes. -/
def World.timed {α : Type} (w : World) (write : ℚ → α × World) : Answer α :=
  match finiteReading w.clock with
  | none => (.error clockError, w)
  | some now => (.ok (write now).1, (write now).2)

/-- An operation of the registry at the time of the clock. -/
def onRegistry {α : Type} (op : Registry → PyFloat → Reply α) (w : World) : Answer α :=
  ((op w.registry w.clock).1, { w with registry := (op w.registry w.clock).2 })

/-- `suppress`. -/
def suppress (scope : SuppressionScope) (scopeKey reason : String) (ttlSeconds : Option ℚ) (w : World) : Answer Unit :=
  if blank scopeKey || blank reason then (.error (valueError "suppression key and reason are required"), w)
  else if ttlSeconds.any (· < 0) then (.error (valueError "ttl_seconds must be finite and non-negative"), w)
  else
    w.timed fun now => ((), { w with
      suppressions := w.suppressions.upsert ⟨scope, scopeKey, reason, now, ttlSeconds.map (now + ·)⟩
        (fun old => { old with reason := reason, createdAt := now, expiresAt := ttlSeconds.map (now + ·) }) (fun _ => rfl) })

/-- A suppression that still holds. -/
def World.suppression (w : World) (now : ℚ) (scope : SuppressionScope) (scopeKey : String) : Option String :=
  ((w.suppressions.get? (scope, scopeKey)).filter fun row => row.expiresAt.all (now < ·)).map (·.reason)

/-- `suppression_reason`. -/
def suppressionReason (cfg : Settings) (sourceKey : String) (w : World) : Answer (Option String) :=
  w.timed fun now =>
    ((w.suppression now .source sourceKey).or ((w.suppression now .family (cfg.family sourceKey)).or
      (w.suppression now .origin (cfg.origin sourceKey))), w)

/-- `prune_expired_suppressions`. -/
def pruneExpiredSuppressions (w : World) : Answer Unit :=
  w.timed fun now => ((), { w with suppressions := w.suppressions.delete fun row => row.expiresAt.any (· ≤ now) })

/-- `register_proposal`, and whether the source is new. -/
def register (proposal : Proposal) (w : World) : Answer Bool :=
  if proposal.commonCrawl then (.error (valueError "Common Crawl corpus is excluded from the active candidate pool"), w)
  else
    match (registerProposal w.registry w.clock proposal.row).1 with
    | .error err => (.error err, w)
    | .ok _ =>
      (.ok (w.registry.candidates.get? proposal.key).isNone,
        { w with registry := (registerProposal w.registry w.clock proposal.row).2 })

/-- The graph that `add_edge` reads. -/
def World.graph (w : World) : Graph where
  candidates := ⟨w.registry.candidates.rows.map (·.sourceKey), by
    simpa only [List.map_map, Function.id_comp] using w.registry.candidates.keyed⟩
  edges := w.edges

/-- `add_edge`. -/
def linkSources (cfg : Settings) (parentKey childKey relation : String) (w : World) : Answer Bool :=
  match finiteReading w.clock with
  | none => (.error clockError, w)
  | some now =>
    match addEdge cfg.maxGraphHops w.graph parentKey childKey relation now with
    | (.error err, _) => (.error (.other err), w)
    | (.ok added, g) => (.ok added, { w with edges := g.edges })

/-- `record_triage_observation`. -/
def recordTriageObservation (sourceKey : String) (w : World) : Answer Unit :=
  if (w.registry.candidates.get? sourceKey).isNone then (.error (unknownSource sourceKey), w)
  else w.timed fun _ => ((), w)

/-! ### Observations -/

/-- The double nearest to 0.95. -/
def highConfidence : ℚ := 8556839292003942 / 2 ^ 53

/-- What becomes of an observation beside the one that is stored. -/
inductive Verdict
  | conflict | keep | replace

/-- Same bindings, or not; `strict` observations of other bindings need more confidence. -/
def verdict (same equal strict : Bool) (current observed : ℚ) : Verdict :=
  if !same && highConfidence ≤ current && highConfidence ≤ observed then .conflict
  else if observed < current then .keep
  else if strict && !same && observed ≤ current then .keep
  else if equal then .keep
  else .replace

/-- An observation, recorded as the verdict says. -/
def recordObservation {Observation : Type} (stored : Surroundings → Observations Observation)
    (put : Observations Observation → Surroundings → Surroundings) (judge : Observation → Observation → Verdict)
    (message : String) (sourceKey : String) (observation : Observation) (w : World) : Answer Bool :=
  if (w.registry.candidates.get? sourceKey).isNone then (.error (unknownSource sourceKey), w)
  else
    match ((stored w.registry.around).get? sourceKey).elim Verdict.replace fun old => judge old.observation observation with
    | .conflict => (.error (valueError message), w)
    | .keep => (.ok false, w)
    | .replace =>
      w.timed fun now => (true, { w with registry := { w.registry with
        around := put (SourceActivation.bind (stored w.registry.around) sourceKey observation now) w.registry.around } })

/-- `record_format_observation`. -/
def recordFormatObservation : String → SourceFormatObservation → World → Answer Bool :=
  recordObservation (·.formats) (fun formats around => { around with formats := formats })
    (fun current new => verdict (current.parserKind = new.parserKind && current.compression = new.compression) (current = new) true
      current.confidence new.confidence)
    "conflicting high-confidence source format observations"

/-- `record_layout_observation`. -/
def recordLayoutObservation : String → SourceRecordLayout → World → Answer Bool :=
  recordObservation (·.layouts) (fun layouts around => { around with layouts := layouts })
    (fun current new => verdict (current.parserKind = new.parserKind && current.hostnameField = new.hostnameField &&
      current.delimiter = new.delimiter) (current = new) false current.confidence new.confidence)
    "conflicting high-confidence record layout observations"

/-- `record_schema_observation`. -/
def recordSchemaObservation : String → SourceRecordSchema → World → Answer Bool :=
  recordObservation (·.schemas) (fun schemas around => { around with schemas := schemas })
    (fun current new => verdict (current.parserKind = new.parserKind && current.hostnameField = new.hostnameField &&
      current.timestampField = new.timestampField && current.delimiter = new.delimiter &&
      current.directYearEligible = new.directYearEligible) (current = new) false current.confidence new.confidence)
    "conflicting high-confidence record schema observations"

/-- `record_scout_measurement` under the authority of the executor, and whether that is the current one. -/
def recordScoutMeasurement (authority : Option (String × String)) (sourceKey : String) (w : World) : Answer Bool :=
  let current := w.registry.around.authority
  let measured := authority.or current
  if (w.registry.candidates.get? sourceKey).isNone then (.error (unknownSource sourceKey), w)
  else if measured.any fun (baseline, model) => baseline = "" || model = "" then
    (.error (valueError "scout authority signatures must be non-empty"), w)
  else
    let eligible := current.isNone || measured = current
    let preserved := !eligible && current.any fun (baseline, model) =>
      (w.registry.around.metrics.get? sourceKey).any fun m =>
        m.baselineSignature = some baseline && m.modelSignature = some model
    if preserved then (.ok eligible, w)
    else
      w.timed fun _ => (eligible, { w with registry := { w.registry with around := { w.registry.around with
        metrics := w.registry.around.metrics.upsert ⟨sourceKey, measured.map (·.1), measured.map (·.2)⟩
          (fun old => { old with baselineSignature := measured.map (·.1), modelSignature := measured.map (·.2) })
          (fun _ => rfl) } } })

/-! ## Calls of the coordinator -/

/-- A transaction, or the error that waits for it. -/
def World.answer {α : Type} (f : World → Answer α) (w : World) : Answer α :=
  match w.fault with
  | some err => (.error err, { w with fault := none })
  | none => f w

/-- One transaction of the coordinator. -/
def call {α : Type} (f : World → Answer α) : Call World SourceError α := Call.atomic (World.answer f)

/-- What `except ValueError` catches, and its text. -/
def caught : SourceError → Option String
  | .stateTransition message => some message
  | .other (.valueError message) => some message
  | .other _ => none

/-- What `except (KeyError, ValueError)` catches. -/
def caughtOrMissing : SourceError → Option String
  | .other (.keyError key) => some key
  | err => caught err

/-- What a call that may be caught comes to: the text, where it was. -/
def handled {α : Type} (catches : SourceError → Option String) : Except SourceError α → Except SourceError (Option String)
  | .ok _ => .ok none
  | .error err => (catches err).elim (.error err) fun message => .ok (some message)

/-- A transaction inside a `try`. -/
def attempt {α : Type} (catches : SourceError → Option String) (f : World → Answer α) : Call World SourceError (Option String) :=
  Call.atomic fun w => (handled catches (w.answer f).1, (w.answer f).2)

def getCandidate (sourceKey : String) : Call World SourceError (Option CandidateRow) :=
  call fun w => (.ok (w.registry.candidates.get? sourceKey), w)

/-- `registry.transition`. -/
def moveTo (sourceKey : String) (target : SourceState) : Call World SourceError CandidateRow :=
  call (onRegistry fun registry clock => transition registry clock sourceKey target)

/-- `suppress_candidate` with its default scope. -/
def suppressCandidate (sourceKey reason : String) (ttlSeconds : Option ℚ) : Call World SourceError Unit :=
  call (suppress .source sourceKey reason ttlSeconds)

def setReason (sourceKey reason : String) : Call World SourceError Unit :=
  call (onRegistry fun registry clock => setStateReason registry clock sourceKey reason)

def forAll {α : Type} (body : α → Call World SourceError Unit) : List α → Call World SourceError Unit
  | [] => pure ()
  | first :: rest => do
    body first
    forAll body rest

structure ExecutorError where
  className : String
  message : String

/-- `_failure_reason`. -/
def failureReason (stage : String) (err : ExecutorError) : String :=
  let detail := String.ofList (((strip err.message).toList.map fun c => if c = '\n' then ' ' else c).take 400)
  let text := stage ++ " transient failure: " ++ err.className ++ ": " ++ detail
  String.ofList (text.toList.reverse.dropWhile fun c => c = ':' || c = ' ').reverse

/-! ### Recovery -/

def strandedScoutReason : String := "recovered stranded SCOUTING state after coordinator restart"

/-- HOLD, a suppression for a while, and SCOUT_READY again. -/
def retryScout (cfg : Settings) (sourceKey reason : String) : Call World SourceError Unit := do
  let _held ← moveTo sourceKey .hold
  suppressCandidate sourceKey reason (some cfg.failureRetrySeconds)
  let _ready ← moveTo sourceKey .scoutReady
  pure ()

/-- `_recover_stranded_scouts`. -/
def recoverStrandedScouts (cfg : Settings) : Call World SourceError Unit := do
  let stranded ← call fun w => (.ok ((w.registry.candidates.rows.filter (·.state = .scouting)).map (·.sourceKey)), w)
  forAll (fun sourceKey => retryScout cfg sourceKey strandedScoutReason) stranded

/-- `_recover_stranded_activations`. -/
def recoverActivations : Call World SourceError Unit := do
  let stranded ← call fun w => (.ok (w.registry.select (·.state = .activating)), w)
  forAll (fun sourceKey => do
    let _held ← call (onRegistry fun registry clock =>
      recordActivationFailure registry clock sourceKey strandedReason false (.fin defaultRetrySeconds))
    pure ()) stranded

/-- `reconcile_exhausted_activations`, a transaction for each source. -/
def reconcileExhausted : Call World SourceError Unit := do
  let drained ← call fun w => (.ok (w.registry.select w.registry.around.drained), w)
  forAll (fun sourceKey => do
    let _exhausted ← moveTo sourceKey .exhausted
    pure ()) drained

/-- What the saturation controller and the distributed searches have found. -/
structure Findings where
  /-- Origins to suppress, with the reason and the time to live. -/
  saturated : List (String × String × Option ℚ)
  drained : List Proposal

/-- `run_once` up to its plan. -/
def prepare (cfg : Settings) (recovered : Bool) (found : Findings) : Call World SourceError Unit := do
  if recovered then pure ()
  else do
    recoverStrandedScouts cfg
    recoverActivations
    Call.atomic fun w => (.ok (), { w with startupRecovered := true })
  reconcileExhausted
  call pruneExpiredSuppressions
  forAll (fun (origin, reason, ttl) => call (suppress .origin origin reason ttl)) found.saturated
  forAll (fun proposal => do
    let _inserted ← call (register proposal)
    pure ()) found.drained

/-! ### Triage -/

inductive TriageDisposition
  | scout | hold | reject
  deriving DecidableEq

/-- The disposition of a `TriageResult`; `_commit_triage` drops its reason. -/
structure TriageResult where
  disposition : TriageDisposition

inductive Outcome (Result : Type)
  | value (result : Result)
  | error (err : ExecutorError)

/-- Where a triaged source goes. -/
def TriageDisposition.target : TriageDisposition → SourceState
  | .scout => .scoutReady
  | .hold => .hold
  | .reject => .rejected

/-- One source of `_commit_triage`. -/
def commitTriage (cfg : Settings) (sourceKey : String) (outcome : Outcome TriageResult) : Call World SourceError Unit := do
  let current ← getCandidate sourceKey
  if current.any (·.state = .discovered) then
    match outcome with
    | .error err => suppressCandidate sourceKey (failureReason "triage" err) (some cfg.failureRetrySeconds)
    | .value result => do
      call (recordTriageObservation sourceKey)
      let _triaged ← moveTo sourceKey .triaged
      let _moved ← moveTo sourceKey result.disposition.target
      pure ()
  else pure ()

/-! ### Scouting -/

inductive ScoutDisposition
  | warm | hold | reject
  deriving DecidableEq

structure ScoutResult where
  disposition : ScoutDisposition
  /-- `measurement is not None`. -/
  measured : Bool
  reason : String
  discovered : List Proposal
  edgeRelation : String
  formatObservation : Option SourceFormatObservation
  layoutObservation : Option SourceRecordLayout
  schemaObservation : Option SourceRecordSchema
  /-- The constructor refuses WARM without a measurement. -/
  warmMeasured : disposition = .warm → measured = true

/-- `_claim_scouts`: the sources that are still ready are claimed one by one. -/
def claimScouts (cfg : Settings) : List String → Call World SourceError (List String)
  | [] => pure []
  | sourceKey :: rest => do
    let current ← getCandidate sourceKey
    if current.any (·.state = .scoutReady) then do
      let reason ← call (suppressionReason cfg sourceKey)
      if reason.isSome then claimScouts cfg rest
      else do
        let _claimed ← moveTo sourceKey .scouting
        let others ← claimScouts cfg rest
        pure (sourceKey :: others)
    else claimScouts cfg rest

/-- An edge to a child; a new child that no edge may reach is rejected. -/
def attach (cfg : Settings) (parent relation child : String) (inserted : Bool) : Call World SourceError Unit := do
  let refused ← attempt caught (linkSources cfg parent child relation)
  if refused.isSome && inserted then do
    let _rejected ← moveTo child .rejected
    pure ()
  else pure ()

/-- A child of a scouted source. -/
def commitChild (cfg : Settings) (checksProvenance : Bool) (parent relation : String) (proposed : Proposal) :
    Call World SourceError Unit := do
  let existing ← getCandidate proposed.key
  let reason ← call (suppressionReason cfg proposed.key)
  if reason.isSome then pure ()
  else if existing.isSome then attach cfg parent relation proposed.key false
  else if checksProvenance && proposed.commonCrawl then pure ()
  else do
    let inserted ← call (register proposed)
    attach cfg parent relation proposed.key inserted

/-- `_commit_scout_children`. -/
def commitScoutChildren (cfg : Settings) (parent relation : String) : List String → List Proposal → Call World SourceError Unit
  | _, [] => pure ()
  | seen, proposed :: rest =>
    if proposed.key ∈ seen || proposed.key = parent then commitScoutChildren cfg parent relation seen rest
    else do
      commitChild cfg true parent relation proposed
      commitScoutChildren cfg parent relation (proposed.key :: seen) rest

/-- `_commit_year_motif_siblings`. -/
def commitYearMotifSiblings (cfg : Settings) (parent : String) (siblings : List Proposal) : Call World SourceError Unit :=
  forAll (commitChild cfg false parent "year_sibling_of") siblings

/-- A recorded observation, or why the source fails closed. -/
def observe {Observation : Type} (what : String) (record : Observation → World → Answer Bool) :
    Option Observation → Call World SourceError (Option String)
  | none => pure none
  | some observation => do
    let refused ← attempt caught (record observation)
    pure (refused.map fun message => what ++ " observation failed closed: " ++ String.ofList ((strip message).toList.take 240))

/-- The observations of a result, up to the first that is refused. -/
def observeAll (sourceKey : String) (result : ScoutResult) : Call World SourceError (Option String) := do
  let format ← observe "source format" (recordFormatObservation sourceKey) result.formatObservation
  if format.isSome then pure format
  else do
    let layout ← observe "source record layout" (recordLayoutObservation sourceKey) result.layoutObservation
    if layout.isSome then pure layout
    else observe "source schema" (recordSchemaObservation sourceKey) result.schemaObservation

def settle (sourceKey : String) (state : SourceState) (reason : String) : Call World SourceError Unit := do
  let _moved ← moveTo sourceKey state
  setReason sourceKey reason

def unavailableReason : String := "current-authority scout measurement is unavailable"

/-- What a result decides, once its measurement is recorded. -/
def decideScout (cfg : Settings) (sourceKey : String) (siblings : List Proposal) (result : ScoutResult) (measurementCurrent : Bool) :
    Call World SourceError Unit :=
  match result.disposition with
  | .warm =>
    if measurementCurrent then do
      settle sourceKey .warm ""
      commitYearMotifSiblings cfg sourceKey siblings
    else settle sourceKey .hold unavailableReason
  | .hold => settle sourceKey .hold result.reason
  | .reject => settle sourceKey .rejected result.reason

/-- The measurement of a result, if it has one, and whether it counts under the current authority. -/
def recordMeasurement (cfg : Settings) (sourceKey : String) (result : ScoutResult) : Call World SourceError Bool :=
  if result.measured then call (recordScoutMeasurement cfg.scoutAuthority sourceKey) else pure true

/-- One source of `_commit_scouts`. -/
def commitScout (cfg : Settings) (sourceKey : String) (siblings : List Proposal) (outcome : Outcome ScoutResult) :
    Call World SourceError Unit := do
  let current ← getCandidate sourceKey
  if current.any (·.state = .scouting) then
    match outcome with
    | .error err => retryScout cfg sourceKey (failureReason "scout" err)
    | .value result => do
      let refused ← observeAll sourceKey result
      match refused with
      | some reason => do
        suppressCandidate sourceKey reason none
        let _held ← moveTo sourceKey .hold
        pure ()
      | none => do
        let measurementCurrent ← recordMeasurement cfg sourceKey result
        commitScoutChildren cfg sourceKey result.edgeRelation [] result.discovered
        decideScout cfg sourceKey siblings result measurementCurrent
  else pure ()

/-! ### The plan -/

structure ReservoirPlan where
  activate : List String
  triage : List String
  scout : List String
  backgroundActivate : List String
  backgroundTriage : List String
  backgroundScout : List String

/-- The states that `plan` looks at. -/
def schedulableStates : List SourceState := [.discovered, .triaged, .scoutReady, .scouting, .warm, .active]

/-- The sources of a state, on one side of the background lane. -/
def inState (cfg : Settings) (background : Bool) (usable : List CandidateRow) (state : SourceState) : List String :=
  (usable.filter fun row => row.state = state && cfg.background row.sourceKey = background).map (·.sourceKey)

/-- By falling value, then by key. -/
def byValue (value : String → ℚ) (keys : List String) : List String :=
  keys.insertionSort fun a b => value b < value a ∨ value a = value b ∧ a ≤ b

/-- `_rank_warm`: by value and key, reversed. -/
def rankWarm (value : String → ℚ) (keys : List String) : List String :=
  keys.insertionSort fun a b => value b < value a ∨ value a = value b ∧ b ≤ a

/-- `SourceReservoirManager.plan`, as far as it chooses sources. -/
def plan (cfg : Settings) (w : World) : Answer ReservoirPlan :=
  w.timed fun now =>
    let unsuppressed (row : CandidateRow) : Bool :=
      (w.suppression now .source row.sourceKey).isNone && (w.suppression now .family (cfg.family row.sourceKey)).isNone &&
        (w.suppression now .origin (cfg.origin row.sourceKey)).isNone
    let usable := w.registry.candidates.rows.filter fun row => row.state ∈ schedulableStates && unsuppressed row
    let active := inState cfg false usable .active
    let value := fun key => cfg.candidateValue w key active
    let behind := fun key => cfg.candidateValue w key (inState cfg true usable .active)
    ({ activate := (rankWarm value (inState cfg false usable .warm)).take (cfg.activeTarget - active.length)
       triage := (byValue value (inState cfg false usable .discovered)).take cfg.triageBatch
       scout := (byValue value (inState cfg false usable .scoutReady)).take
         (cfg.scoutTarget - (inState cfg false usable .scouting).length)
       backgroundActivate := (rankWarm behind (inState cfg true usable .warm)).take 1
       backgroundTriage := ((inState cfg true usable .discovered).insertionSort (· ≤ ·)).take 1
       backgroundScout := ((inState cfg true usable .scoutReady).insertionSort (· ≤ ·)).take 1 }, w)

/-! ### The cycle -/

/-- What searches bring into the registry. -/
inductive SearchAction
  | proposed (proposal : Proposal)
  /-- A validated adapter for a source on HOLD. -/
  | adapter (sourceKey : String) (format : SourceFormatObservation) (layout : SourceRecordLayout)
      (schema : Option SourceRecordSchema)

/-- What the outside work of a cycle finds. -/
structure Work where
  triage : String → Outcome TriageResult
  scout : String → Outcome ScoutResult
  siblings : String → List Proposal
  /-- Searches are planned. -/
  searching : Bool
  searches : List SearchAction

/-- Planned sources that are still WARM begin their activation. -/
def beginActivations : List String → Call World SourceError Unit :=
  forAll fun sourceKey => do
    let current ← getCandidate sourceKey
    if current.any (·.state = .warm) then do
      let _activating ← call (onRegistry fun registry clock => beginActivation registry clock sourceKey)
      pure ()
    else pure ()

/-- The planned sources that are still DISCOVERED and not suppressed. -/
def triageCandidates (cfg : Settings) : List String → Call World SourceError (List String)
  | [] => pure []
  | sourceKey :: rest => do
    let current ← getCandidate sourceKey
    if current.any (·.state = .discovered) then do
      let reason ← call (suppressionReason cfg sourceKey)
      let others ← triageCandidates cfg rest
      pure (if reason.isSome then others else sourceKey :: others)
    else triageCandidates cfg rest

/-- One step of the background lane, when the foreground has nothing to do: what it triages and scouts. -/
def backgroundStep (cfg : Settings) (planned : ReservoirPlan) (busy : Bool) : Call World SourceError (List String × List String) :=
  if busy then pure ([], [])
  else if planned.backgroundActivate ≠ [] then do
    beginActivations planned.backgroundActivate
    pure ([], [])
  else if planned.backgroundScout ≠ [] then do
    let claimed ← claimScouts cfg planned.backgroundScout
    pure ([], claimed)
  else do
    let triaged ← triageCandidates cfg planned.backgroundTriage
    pure (triaged, [])

/-- `_commit_searches`, for what it writes about sources. -/
def commitSearch : SearchAction → Call World SourceError Unit
  | .proposed proposal => do
    let _inserted ← call (register proposal)
    pure ()
  | .adapter sourceKey format layout schema => do
    let current ← getCandidate sourceKey
    match current with
    | none => pure ()
    | some row => do
      let _refused ← attempt caughtOrMissing (onRegistry fun registry clock =>
        applyValidatedAdapterBinding registry clock sourceKey format layout schema row.stateReason)
      pure ()

/-- `run_once` behind its plan. -/
def work (cfg : Settings) (planned : ReservoirPlan) (found : Work) : Call World SourceError Unit := do
  beginActivations planned.activate
  let triaged ← triageCandidates cfg planned.triage
  let claimed ← claimScouts cfg (planned.scout.take cfg.scoutParallelism)
  let (moreTriaged, moreClaimed) ← backgroundStep cfg planned
    (planned.activate ≠ [] || triaged ≠ [] || claimed ≠ [] || found.searching)
  forAll (fun sourceKey => commitTriage cfg sourceKey (found.triage sourceKey)) (triaged ++ moreTriaged)
  forAll (fun sourceKey => commitScout cfg sourceKey (found.siblings sourceKey) (found.scout sourceKey)) (claimed ++ moreClaimed)
  forAll commitSearch found.searches

/-! ### The process -/

/-- The relation that the expansion of a catalog leaves behind. -/
def catalogRelation : String := "catalog_enumerates_cdxj"

/-- `_requeue_unexpanded_audited_arquivo_catalog`, for one source on HOLD. -/
def requeueCatalog (cfg : Settings) (sourceKey : String) : Call World SourceError Unit :=
  if cfg.audited sourceKey then do
    let reason ← call (suppressionReason cfg sourceKey)
    if reason.isSome then pure ()
    else do
      let expanded ← call fun w =>
        (.ok (w.edges.rows.any fun row => row.parentKey = sourceKey && row.relation = catalogRelation), w)
      if expanded then pure ()
      else do
        let _ready ← moveTo sourceKey .scoutReady
        pure ()
  else pure ()

/-- What the service does before the first cycle: the curated seeds, and the catalogs that were not expanded. -/
def startup (cfg : Settings) (seeds : List Proposal) : Call World SourceError Unit := do
  forAll (fun proposal => do
    let _inserted ← call (register proposal)
    pure ()) seeds
  let held ← call fun w => (.ok ((w.registry.candidates.rows.filter (·.state = .hold)).map (·.sourceKey)), w)
  forAll (requeueCatalog cfg) held

/-- The stages of a process that call the registry. -/
inductive Stage
  | startup | prepare | work
  deriving DecidableEq

inductive Phase
  /-- Between two cycles. -/
  | idle
  /-- About to plan. -/
  | planning
  /-- Inside a stage, with what it has still to do. -/
  | running (stage : Stage) (rest : Script World (Except SourceError Unit))

/-- Where a stage leads to. -/
def Stage.after : Stage → Phase
  | .startup => .idle
  | .prepare => .planning
  | .work => .idle

/-- What is left of the process when a stage raises. -/
def Stage.raised : Stage → Option Phase
  | .startup => none
  | .prepare => some .idle
  | .work => some .idle

/-- The world, and the coordinator's process while there is one. -/
structure System where
  world : World
  process : Option Phase

/-- What other processes do to the registry. -/
inductive Elsewhere
  | register (proposal : Proposal)
  /-- `compile_active` promotes a source. -/
  | promote (sourceKey : String)
  | fail (sourceKey reason : String) (permanent : Bool) (retrySeconds : PyFloat)
  /-- Authorities, measurements, bindings, activations, reservoirs and edges. -/
  | beside (around : Surroundings) (edges : Table EdgeRow EdgeKey (·.key))
  | tick (clock : PyFloat)

def Elsewhere.write (w : World) : Elsewhere → World
  | .register proposal => (SourceCoordinator.register proposal w).2
  | .promote sourceKey => (onRegistry (fun registry clock => transition registry clock sourceKey .active) w).2
  | .fail sourceKey reason permanent retrySeconds =>
    (onRegistry (fun registry clock => recordActivationFailure registry clock sourceKey reason permanent retrySeconds) w).2
  | .beside around edges => { w with registry := { w.registry with around := around }, edges := edges }
  | .tick clock => { w with clock := clock }

inductive Event
  | start (seeds : List Proposal)
  | cycle (found : Findings)
  | plan (found : Work)
  /-- The next transaction of the stage, or its end. -/
  | advance
  | die
  /-- The next call meets a database error. -/
  | fault (err : SourceError)
  | elsewhere (other : Elsewhere)

/-- A step, and what a stage that ends returns or raises. -/
def step (cfg : Settings) (s : System) : Event → Option (Except SourceError Unit) × System
  | .start seeds =>
    match s.process with
    | some _ => (none, s)
    | none => (none, ⟨{ s.world with startupRecovered := false }, some (.running .startup (ExceptT.run (startup cfg seeds)))⟩)
  | .cycle found =>
    match s.process with
    | some .idle => (none, ⟨s.world, some (.running .prepare (ExceptT.run (prepare cfg s.world.startupRecovered found)))⟩)
    | _ => (none, s)
  | .plan found =>
    match s.process with
    | some .planning =>
      match s.world.answer (plan cfg) with
      | (.error err, w) => (some (.error err), ⟨w, some .idle⟩)
      | (.ok planned, w) => (none, ⟨w, some (.running .work (ExceptT.run (work cfg planned found)))⟩)
    | _ => (none, s)
  | .advance =>
    match s.process with
    | some (.running stage (.txn write next)) => (none, ⟨write s.world, some (.running stage (next s.world))⟩)
    | some (.running stage (.done (.ok _))) => (some (.ok ()), ⟨s.world, some stage.after⟩)
    | some (.running stage (.done (.error err))) => (some (.error err), ⟨s.world, stage.raised⟩)
    | _ => (none, s)
  | .die => (none, ⟨{ s.world with startupRecovered := false }, none⟩)
  | .fault err => (none, ⟨{ s.world with fault := some err }, s.process⟩)
  | .elsewhere other => (none, ⟨other.write s.world, s.process⟩)

/-- No candidates and no process. -/
def emptyWorld : World :=
  ⟨⟨.empty, ⟨.empty, none, .empty, .empty, .empty, .empty, .empty⟩⟩, .empty, .empty, .fin 0, none, false⟩

def coordinator (cfg : Settings) : Machine System Event (Option (Except SourceError Unit)) where
  initial := ⟨emptyWorld, none⟩
  step := step cfg

end Creeper.SourceCoordinator
