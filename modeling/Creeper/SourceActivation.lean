import Creeper.Runs
import Creeper.EvidenceTasks

/-!
# Activation of discovered sources

`source_discovery/registry.py`: the states of a candidate, and the deadline after which a
failed activation is tried again. A source goes back from HOLD by itself only after a
transient failure, as long as no other step puts it on HOLD with a deadline left over.
-/

namespace Creeper.SourceActivation
open Creeper.Runs Creeper.Tables Creeper.PyNumbers Creeper.PyText
open Creeper.FabricModels (PyError blank)
open Creeper.EvidenceTasks (finiteReading positive)

/-! ## States -/

inductive SourceState
  | discovered | triaged | scoutReady | scouting | warm | activating | active | hold | rejected | exhausted
  deriving DecidableEq, Repr

def SourceState.value : SourceState → String
  | discovered => "DISCOVERED"
  | triaged => "TRIAGED"
  | scoutReady => "SCOUT_READY"
  | scouting => "SCOUTING"
  | warm => "WARM"
  | activating => "ACTIVATING"
  | active => "ACTIVE"
  | hold => "HOLD"
  | rejected => "REJECTED"
  | exhausted => "EXHAUSTED"

/-- `_TRANSITIONS`. -/
def transitions : SourceState → List SourceState
  | .discovered => [.triaged, .hold, .rejected]
  | .triaged => [.scoutReady, .hold, .rejected]
  | .scoutReady => [.scouting, .hold, .rejected]
  | .scouting => [.warm, .hold, .rejected]
  | .warm => [.activating, .active, .hold, .rejected]
  | .activating => [.active, .warm, .hold, .rejected]
  | .active => [.warm, .hold, .exhausted]
  | .hold => [.triaged, .scoutReady, .warm, .rejected]
  | .rejected => []
  | .exhausted => []

/-- The states that no transition leaves. -/
def SourceState.Terminal (state : SourceState) : Prop := state = .rejected ∨ state = .exhausted

theorem transitions_terminal {state : SourceState} (terminal : state.Terminal) : transitions state = [] := by
  rcases terminal with rfl | rfl <;> rfl

/-- What the operations raise; `StateTransitionError` is caught apart from other errors. -/
inductive SourceError
  | stateTransition (message : String)
  | other (err : PyError)
  deriving DecidableEq, Repr

def valueError (message : String) : SourceError := .other (.valueError message)
def unknownSource (sourceKey : String) : SourceError := .other (.keyError ("unknown source: " ++ sourceKey))
def clockError : SourceError := valueError "source registry clock must be finite and non-negative"

/-! ## Tables -/

/-- The columns of `source_candidates` that the operations use. -/
structure CandidateRow where
  sourceKey : String
  state : SourceState
  stateReason : String
  activationRetryAt : Option ℚ
  activationAttempts : Nat
  updatedAt : ℚ
  deriving DecidableEq

/-- The authority under which a source was measured. -/
structure MetricsRow where
  sourceKey : String
  baselineSignature : Option String
  modelSignature : Option String
  deriving DecidableEq

structure ActivationRow where
  sourceKey : String
  reservoirId : String
  deriving DecidableEq

structure ReservoirRow where
  reservoirId : String
  state : String
  deriving DecidableEq

structure SourceFormatObservation where
  parserKind : String
  compression : String
  detectionMethod : String
  confidence : ℚ
  contentType : String
  delimiter : Option String
  policyVersion : String
  deriving DecidableEq

structure SourceRecordLayout where
  parserKind : String
  hostnameField : String
  delimiter : Option String
  detectionMethod : String
  confidence : ℚ
  sampleRecords : Nat
  matchedRecords : Nat
  policyVersion : String
  deriving DecidableEq

structure SourceRecordSchema where
  parserKind : String
  hostnameField : String
  timestampField : String
  delimiter : Option String
  detectionMethod : String
  confidence : ℚ
  sampleRecords : Nat
  matchedRecords : Nat
  directYearEligible : Bool
  policyVersion : String
  deriving DecidableEq

/-- An observation stored for a source. -/
structure Observed (Observation : Type) where
  sourceKey : String
  observation : Observation
  observedAt : ℚ

abbrev Observations (Observation : Type) := Table (Observed Observation) String (·.sourceKey)

/-- What the operations read beside the candidates. -/
structure Surroundings where
  metrics : Table MetricsRow String (·.sourceKey)
  authority : Option (String × String)
  activations : Table ActivationRow String (·.sourceKey)
  reservoirs : Table ReservoirRow String (·.reservoirId)
  formats : Observations SourceFormatObservation
  layouts : Observations SourceRecordLayout
  schemas : Observations SourceRecordSchema

structure Registry where
  candidates : Table CandidateRow String (·.sourceKey)
  around : Surroundings

abbrev Reply (α : Type) := Except SourceError α × Registry

/-! ## Operations -/

/-- The row of a source, rewritten, and what `get_candidate` then reads. -/
def Registry.rewrite (s : Registry) (row : CandidateRow) (set : CandidateRow → CandidateRow)
    (keeps : ∀ r, (set r).sourceKey = r.sourceKey) : Reply CandidateRow :=
  (.ok (set row), { s with candidates := s.candidates.update (fun r => r.sourceKey = row.sourceKey) set keeps })

/-- Scout metrics of the source exist and carry the current authority. -/
def Surroundings.measured (around : Surroundings) (sourceKey : String) : Bool :=
  (around.metrics.get? sourceKey).any fun m =>
    around.authority.all fun (baseline, model) => m.baselineSignature.getD "" = baseline && m.modelSignature.getD "" = model

/-- `transition`. -/
def transition (s : Registry) (clock : PyFloat) (sourceKey : String) (target : SourceState) : Reply CandidateRow :=
  match finiteReading clock with
  | none => (.error clockError, s)
  | some now =>
    match s.candidates.get? sourceKey with
    | none => (.error (unknownSource sourceKey), s)
    | some row =>
      if target ∉ transitions row.state then
        (.error (.stateTransition ("invalid source transition: " ++ row.state.value ++ " -> " ++ target.value)), s)
      else if (target = .active || (row.state = .scouting && target = .warm)) && !s.around.measured sourceKey then
        (.error (.stateTransition
          "current-authority measured scout evidence is required before warm/active promotion"), s)
      else s.rewrite row (fun r => { r with state := target, updatedAt := now }) (fun _ => rfl)

/-- `begin_activation`. -/
def beginActivation (s : Registry) (clock : PyFloat) (sourceKey : String) : Reply CandidateRow :=
  match finiteReading clock with
  | none => (.error clockError, s)
  | some now =>
    match s.candidates.get? sourceKey with
    | none => (.error (unknownSource sourceKey), s)
    | some row =>
      if row.state = .activating then (.ok row, s)
      else if row.state = .hold && row.activationRetryAt.all (now < ·) then
        (.error (.stateTransition "activation backoff is still active"), s)
      else if row.state ≠ .hold && row.state ≠ .warm then
        (.error (.stateTransition ("invalid activation claim from " ++ row.state.value)), s)
      else if !s.around.measured sourceKey then
        (.error (.stateTransition "current-authority measured scout evidence is required before activation"), s)
      else
        s.rewrite row
          (fun r => { r with
            state := .activating
            stateReason := ""
            activationRetryAt := none
            activationAttempts := r.activationAttempts + 1
            updatedAt := now })
          (fun _ => rfl)

/-- `record_activation_failure`. -/
def recordActivationFailure (s : Registry) (clock : PyFloat) (sourceKey reason : String) (permanent : Bool)
    (retrySeconds : PyFloat) : Reply CandidateRow :=
  if blank reason then (.error (valueError "activation failure reason is required"), s)
  else if !permanent && (positive retrySeconds).isNone then
    (.error (valueError "retry_seconds must be finite and positive for transient failures"), s)
  else
    match finiteReading clock with
    | none => (.error clockError, s)
    | some now =>
      match s.candidates.get? sourceKey with
      | none => (.error (unknownSource sourceKey), s)
      | some row =>
        if row.state ≠ .activating && row.state ≠ .active then
          (.error (.stateTransition ("cannot record activation failure from " ++ row.state.value)), s)
        else
          s.rewrite row
            (fun r => { r with
              state := if permanent then .rejected else .hold
              stateReason := strip reason
              activationRetryAt := if permanent then none else (positive retrySeconds).map (now + ·)
              updatedAt := now })
            (fun _ => rfl)

/-- One call for every source of a list, and how many changed. Errors to skip leave the
    source as it is; any other ends the loop. -/
def forEach (call : Registry → String → Reply CandidateRow) (skip : SourceError → Bool) :
    List String → Nat → Registry → Reply Nat
  | [], changed, s => (.ok changed, s)
  | sourceKey :: rest, changed, s =>
    match (call s sourceKey).1 with
    | .ok _ => forEach call skip rest (changed + 1) (call s sourceKey).2
    | .error err =>
      if skip err then forEach call skip rest changed (call s sourceKey).2 else (.error err, (call s sourceKey).2)

/-- The sources that meet a condition, in the order of their keys. -/
def Registry.select (s : Registry) (where_ : CandidateRow → Bool) : List String :=
  (s.candidates.sorted.rows.filter where_).map (·.sourceKey)

def SourceError.isTransition : SourceError → Bool
  | .stateTransition _ => true
  | .other _ => false

/-- On HOLD with a deadline that is not after the time. -/
def dueAt (time : PyFloat) (row : CandidateRow) : Bool :=
  row.state = .hold && row.activationRetryAt.any (fun deadline => (PyFloat.fin deadline).le time)

/-- `retry_due_activations`. -/
def retryDueActivations (s : Registry) (clock : PyFloat) (now : Option PyFloat) : Reply Nat :=
  forEach (fun s sourceKey => transition s clock sourceKey .warm) (·.isTransition) (s.select (dueAt (now.getD clock))) 0 s

def strandedReason : String := "recovered stranded ACTIVATING state after coordinator restart"

/-- The default of `retry_seconds`. -/
def defaultRetrySeconds : ℚ := 30

/-- `recover_stranded_activations`. -/
def recoverStrandedActivations (s : Registry) (clock : PyFloat) : Reply Nat :=
  forEach (fun s sourceKey => recordActivationFailure s clock sourceKey strandedReason false (.fin defaultRetrySeconds))
    (fun _ => false) (s.select (·.state = .activating)) 0 s

/-- The production reservoir of an active source is exhausted. -/
def Surroundings.drained (around : Surroundings) (row : CandidateRow) : Bool :=
  row.state = .active && (around.activations.get? row.sourceKey).any fun activation =>
    (around.reservoirs.get? activation.reservoirId).any (·.state = "EXHAUSTED")

/-- `reconcile_exhausted_activations`. -/
def reconcileExhaustedActivations (s : Registry) (clock : PyFloat) : Reply Nat :=
  forEach (fun s sourceKey => transition s clock sourceKey .exhausted) (fun _ => false) (s.select s.around.drained) 0 s

/-- `set_state_reason`. -/
def setStateReason (s : Registry) (clock : PyFloat) (sourceKey reason : String) : Reply Unit :=
  if 8 * 1024 < (strip reason).length then (.error (valueError "source state reason exceeds 8192 characters"), s)
  else
    match finiteReading clock with
    | none => (.error clockError, s)
    | some now =>
      match s.candidates.get? sourceKey with
      | none => (.error (unknownSource sourceKey), s)
      | some row =>
        (.ok (), (s.rewrite row (fun r => { r with stateReason := strip reason, updatedAt := now }) (fun _ => rfl)).2)

/-- What `apply_validated_adapter_binding` finds wrong with its arguments. -/
def bindingProblem (format : SourceFormatObservation) (layout : SourceRecordLayout) (schema : Option SourceRecordSchema)
    (expectedStateReason : String) : Option SourceError :=
  if schema.any (·.directYearEligible) then
    some (valueError "LLM-assisted adapter binding cannot grant direct-year authority")
  else if format.parserKind ≠ layout.parserKind then some (valueError "adapter format/layout parser kinds disagree")
  else if schema.any (fun x => x.parserKind ≠ layout.parserKind || x.hostnameField ≠ layout.hostnameField) then
    some (valueError "adapter layout/schema bindings disagree")
  else if expectedStateReason = "" then some (valueError "expected unknown-format state reason is required")
  else none

/-- What it finds against the observations that are stored. -/
def Surroundings.conflict (around : Surroundings) (sourceKey : String) (format : SourceFormatObservation)
    (layout : SourceRecordLayout) (schema : Option SourceRecordSchema) : Option SourceError :=
  if (around.formats.get? sourceKey).any (·.observation ≠ format) then
    some (valueError "adapter-compilation conflicts with an existing format binding")
  else if (around.layouts.get? sourceKey).any (·.observation ≠ layout) then
    some (valueError "adapter-compilation conflicts with an existing layout binding")
  else if schema.isNone && (around.schemas.get? sourceKey).isSome then
    some (valueError "adapter-compilation omitted an existing temporal schema")
  else if schema.any (fun x => (around.schemas.get? sourceKey).any (·.observation ≠ x)) then
    some (valueError "adapter-compilation conflicts with an existing schema binding")
  else none

/-- An observation, stored or replaced. -/
def bind {Observation : Type} (t : Observations Observation) (sourceKey : String) (observation : Observation) (now : ℚ) :
    Observations Observation :=
  t.upsert ⟨sourceKey, observation, now⟩ (fun old => { old with observation := observation, observedAt := now })

/-- `apply_validated_adapter_binding`. -/
def applyValidatedAdapterBinding (s : Registry) (clock : PyFloat) (sourceKey : String) (format : SourceFormatObservation)
    (layout : SourceRecordLayout) (schema : Option SourceRecordSchema) (expectedStateReason : String) :
    Reply CandidateRow :=
  match bindingProblem format layout schema expectedStateReason with
  | some err => (.error err, s)
  | none =>
    match s.candidates.get? sourceKey with
    | none => (.error (unknownSource sourceKey), s)
    | some row =>
      if row.state ≠ .hold then (.error (valueError "adapter-compilation source is no longer in HOLD"), s)
      else if row.stateReason ≠ expectedStateReason then
        (.error (valueError "adapter-compilation case changed before commit"), s)
      else
        match s.around.conflict sourceKey format layout schema with
        | some err => (.error err, s)
        | none =>
          match finiteReading clock with
          | none => (.error clockError, s)
          | some now =>
            let around := { s.around with
              formats := bind s.around.formats sourceKey format now
              layouts := bind s.around.layouts sourceKey layout now
              schemas := schema.elim s.around.schemas (bind s.around.schemas sourceKey · now) }
            ({ s with around }).rewrite row
              (fun r => { r with state := .scoutReady, stateReason := "", updatedAt := now }) (fun _ => rfl)

/-- The row that `register_proposal` inserts for a candidate; a key that is taken keeps its row. -/
def registerProposal (s : Registry) (clock : PyFloat) (candidate : CandidateRow) : Reply CandidateRow :=
  match finiteReading clock with
  | none => (.error clockError, s)
  | some now =>
    (.ok ((s.candidates.get? candidate.sourceKey).getD { candidate with updatedAt := now }),
      { s with candidates := s.candidates.insert { candidate with updatedAt := now } })

/-! ## Runs -/

inductive Event
  | registerProposal (clock : PyFloat) (candidate : CandidateRow)
  | transition (clock : PyFloat) (sourceKey : String) (target : SourceState)
  | beginActivation (clock : PyFloat) (sourceKey : String)
  | recordActivationFailure (clock : PyFloat) (sourceKey reason : String) (permanent : Bool) (retrySeconds : PyFloat)
  | retryDueActivations (clock : PyFloat) (now : Option PyFloat)
  | recoverStrandedActivations (clock : PyFloat)
  | applyValidatedAdapterBinding (clock : PyFloat) (sourceKey : String) (format : SourceFormatObservation)
      (layout : SourceRecordLayout) (schema : Option SourceRecordSchema) (expectedStateReason : String)
  | setStateReason (clock : PyFloat) (sourceKey reason : String)
  | reconcileExhaustedActivations (clock : PyFloat)
  /-- Other operations change what these read beside the candidates. -/
  | elsewhere (around : Surroundings)

def step (s : Registry) : Event → Option SourceError × Registry
  | .registerProposal clock candidate => outcome (registerProposal s clock candidate)
  | .transition clock sourceKey target => outcome (transition s clock sourceKey target)
  | .beginActivation clock sourceKey => outcome (beginActivation s clock sourceKey)
  | .recordActivationFailure clock sourceKey reason permanent retrySeconds =>
    outcome (recordActivationFailure s clock sourceKey reason permanent retrySeconds)
  | .retryDueActivations clock now => outcome (retryDueActivations s clock now)
  | .recoverStrandedActivations clock => outcome (recoverStrandedActivations s clock)
  | .applyValidatedAdapterBinding clock sourceKey format layout schema expectedStateReason =>
    outcome (applyValidatedAdapterBinding s clock sourceKey format layout schema expectedStateReason)
  | .setStateReason clock sourceKey reason => outcome (setStateReason s clock sourceKey reason)
  | .reconcileExhaustedActivations clock => outcome (reconcileExhaustedActivations s clock)
  | .elsewhere around => (none, { s with around })
where
  outcome {α : Type} (reply : Reply α) : Option SourceError × Registry :=
    (match reply.1 with | .ok _ => none | .error err => some err, reply.2)

def machine : Machine Registry Event (Option SourceError) where
  initial := ⟨.empty, ⟨.empty, none, .empty, .empty, .empty, .empty, .empty⟩⟩
  step := step

def Registry.standing (s : Registry) (sourceKey : String) : Option (SourceState × Option ℚ) :=
  (s.candidates.get? sourceKey).map (fun row => (row.state, row.activationRetryAt))

def Registry.stateOf (s : Registry) (sourceKey : String) : Option SourceState :=
  (s.candidates.get? sourceKey).map (·.state)

theorem stateOf_standing (s : Registry) (sourceKey : String) : s.stateOf sourceKey = (s.standing sourceKey).map (·.1) := by
  simp [Registry.stateOf, Registry.standing, Function.comp_def]

/-! ## What one step does to a source -/

/-- The deadline that a transient failure of the event sets for a source. -/
def failureDeadline (sourceKey : String) : Event → Option ℚ
  | .recordActivationFailure clock failed _ false retrySeconds =>
    if failed = sourceKey then (finiteReading clock).bind fun now => (positive retrySeconds).map (now + ·) else none
  | .recoverStrandedActivations clock => (finiteReading clock).map (· + defaultRetrySeconds)
  | _ => none

/-- The changes that an event makes to the state and the deadline of a source. -/
inductive Change (e : Event) (sourceKey : String) : Option (SourceState × Option ℚ) → Option (SourceState × Option ℚ) → Prop
  | kept (standing : Option (SourceState × Option ℚ)) : Change e sourceKey standing standing
  | registered (clock : PyFloat) (candidate : CandidateRow) (op : e = .registerProposal clock candidate)
      (name : candidate.sourceKey = sourceKey) :
      Change e sourceKey none (some (candidate.state, candidate.activationRetryAt))
  | moved {state target : SourceState} {retryAt : Option ℚ} (clock : PyFloat) (op : e = .transition clock sourceKey target)
      (allowed : target ∈ transitions state) : Change e sourceKey (some (state, retryAt)) (some (target, retryAt))
  | promoted {deadline : ℚ} (clock : PyFloat) (now : Option PyFloat) (op : e = .retryDueActivations clock now)
      (due : (PyFloat.fin deadline).le (now.getD clock) = true) :
      Change e sourceKey (some (.hold, some deadline)) (some (.warm, some deadline))
  | drained {retryAt : Option ℚ} (clock : PyFloat) (op : e = .reconcileExhaustedActivations clock) :
      Change e sourceKey (some (.active, retryAt)) (some (.exhausted, retryAt))
  | claimed {state : SourceState} {retryAt : Option ℚ} (clock : PyFloat) (op : e = .beginActivation clock sourceKey)
      (ready : state = .hold ∨ state = .warm) : Change e sourceKey (some (state, retryAt)) (some (.activating, none))
  | held {state : SourceState} {retryAt : Option ℚ} {deadline : ℚ} (running : state = .activating ∨ state = .active)
      (fails : failureDeadline sourceKey e = some deadline) :
      Change e sourceKey (some (state, retryAt)) (some (.hold, some deadline))
  | rejected {state : SourceState} {retryAt : Option ℚ} (clock : PyFloat) (reason : String) (retrySeconds : PyFloat)
      (op : e = .recordActivationFailure clock sourceKey reason true retrySeconds)
      (running : state = .activating ∨ state = .active) : Change e sourceKey (some (state, retryAt)) (some (.rejected, none))
  | bound {retryAt : Option ℚ} (clock : PyFloat) (format : SourceFormatObservation) (layout : SourceRecordLayout)
      (schema : Option SourceRecordSchema) (expectedStateReason : String)
      (op : e = .applyValidatedAdapterBinding clock sourceKey format layout schema expectedStateReason) :
      Change e sourceKey (some (.hold, retryAt)) (some (.scoutReady, retryAt))

section
variable {s : Registry}

theorem standing_rewrite {row : CandidateRow} {set : CandidateRow → CandidateRow} {keeps : ∀ r, (set r).sourceKey = r.sourceKey}
    (sourceKey : String) :
    (s.rewrite row set keeps).2.standing sourceKey =
      if sourceKey = row.sourceKey then (s.candidates.get? sourceKey).map (fun r => ((set r).state, (set r).activationRetryAt))
      else s.standing sourceKey := by
  simp only [Registry.standing, Registry.rewrite, Table.get?_update_key]
  split
  · rw [Option.map_map]
    rfl
  · rfl

theorem standing_rewrite_self {row : CandidateRow} {set : CandidateRow → CandidateRow}
    {keeps : ∀ r, (set r).sourceKey = r.sourceKey} {sourceKey : String} (found : s.candidates.get? sourceKey = some row) :
    (s.rewrite row set keeps).2.standing sourceKey = some ((set row).state, (set row).activationRetryAt) := by
  rw [standing_rewrite, if_pos (Table.get?_key found).symm, found, Option.map_some]

theorem standing_rewrite_other {row : CandidateRow} {set : CandidateRow → CandidateRow}
    {keeps : ∀ r, (set r).sourceKey = r.sourceKey} {sourceKey other : String}
    (found : s.candidates.get? sourceKey = some row) (apart : other ≠ sourceKey) :
    (s.rewrite row set keeps).2.standing other = s.standing other := by
  rw [standing_rewrite, if_neg (by rwa [Table.get?_key found])]

/-- The same beside other surroundings. -/
theorem standing_rewrite_around {row : CandidateRow} {set : CandidateRow → CandidateRow}
    {keeps : ∀ r, (set r).sourceKey = r.sourceKey} {sourceKey : String} (around : Surroundings)
    (found : s.candidates.get? sourceKey = some row) :
    (Registry.rewrite ⟨s.candidates, around⟩ row set keeps).2.standing sourceKey =
      some ((set row).state, (set row).activationRetryAt) :=
  standing_rewrite_self (s := ⟨s.candidates, around⟩) found

theorem standing_rewrite_around_other {row : CandidateRow} {set : CandidateRow → CandidateRow}
    {keeps : ∀ r, (set r).sourceKey = r.sourceKey} {sourceKey other : String} (around : Surroundings)
    (found : s.candidates.get? sourceKey = some row) (apart : other ≠ sourceKey) :
    (Registry.rewrite ⟨s.candidates, around⟩ row set keeps).2.standing other = s.standing other :=
  standing_rewrite_other (s := ⟨s.candidates, around⟩) found apart

theorem standing_found {row : CandidateRow} {sourceKey : String} (found : s.candidates.get? sourceKey = some row) :
    s.standing sourceKey = some (row.state, row.activationRetryAt) := by
  rw [Registry.standing, found, Option.map_some]

/-- A `transition` keeps the standing of its source or moves it along the table. -/
theorem transition_standing (clock : PyFloat) (sourceKey : String) (target : SourceState) :
    (transition s clock sourceKey target).2.standing sourceKey = s.standing sourceKey ∨
      ∃ state retryAt, s.standing sourceKey = some (state, retryAt) ∧ target ∈ transitions state ∧
        (transition s clock sourceKey target).2.standing sourceKey = some (target, retryAt) := by
  unfold transition
  split
  · exact .inl rfl
  · split
    · exact .inl rfl
    · rename_i row found
      split
      · exact .inl rfl
      · rename_i allowed
        split
        · exact .inl rfl
        · exact .inr ⟨row.state, row.activationRetryAt, standing_found found, not_not.mp allowed, standing_rewrite_self found⟩

theorem transition_other (clock : PyFloat) {sourceKey other : String} (target : SourceState) (apart : other ≠ sourceKey) :
    (transition s clock sourceKey target).2.standing other = s.standing other := by
  unfold transition
  split
  · rfl
  · split
    · rfl
    · rename_i row found
      split
      · rfl
      · split
        · rfl
        · exact standing_rewrite_other found apart

theorem failure_standing (clock : PyFloat) (sourceKey reason : String) (permanent : Bool) (retrySeconds : PyFloat) :
    (recordActivationFailure s clock sourceKey reason permanent retrySeconds).2.standing sourceKey = s.standing sourceKey ∨
      ∃ state retryAt now, s.standing sourceKey = some (state, retryAt) ∧ (state = .activating ∨ state = .active) ∧
        finiteReading clock = some now ∧
        (permanent = true ∧ (recordActivationFailure s clock sourceKey reason permanent retrySeconds).2.standing sourceKey =
            some (.rejected, none) ∨
          ∃ seconds, permanent = false ∧ positive retrySeconds = some seconds ∧
            (recordActivationFailure s clock sourceKey reason permanent retrySeconds).2.standing sourceKey =
              some (.hold, some (now + seconds))) := by
  unfold recordActivationFailure
  split
  · exact .inl rfl
  · split
    · exact .inl rfl
    · rename_i given
      split
      · exact .inl rfl
      · rename_i now reads
        split
        · exact .inl rfl
        · rename_i row found
          split
          · exact .inl rfl
          · rename_i running
            refine .inr ⟨row.state, row.activationRetryAt, now, standing_found found, ?_, reads, ?_⟩
            · simpa [or_iff_not_imp_left] using running
            · rw [standing_rewrite_self found]
              cases permanent with
              | true => exact .inl ⟨rfl, rfl⟩
              | false =>
                cases seconds : positive retrySeconds with
                | none => simp [seconds] at given
                | some q => exact .inr ⟨q, rfl, rfl, rfl⟩

theorem failure_other (clock : PyFloat) {sourceKey other : String} (reason : String) (permanent : Bool)
    (retrySeconds : PyFloat) (apart : other ≠ sourceKey) :
    (recordActivationFailure s clock sourceKey reason permanent retrySeconds).2.standing other = s.standing other := by
  unfold recordActivationFailure
  split
  · rfl
  · split
    · rfl
    · split
      · rfl
      · split
        · rfl
        · rename_i row found
          split
          · rfl
          · exact standing_rewrite_other found apart

/-- A loop of calls does to a source of its list what the call does to it, and nothing to
    the others. -/
theorem forEach_standing {e : Event} {call : Registry → String → Reply CandidateRow} {skip : SourceError → Bool}
    {names : List String} (distinct : names.Nodup)
    (frame : ∀ s sourceKey other, other ≠ sourceKey → (call s sourceKey).2.standing other = s.standing other)
    (each : ∀ t sourceKey, sourceKey ∈ names → t.standing sourceKey = s.standing sourceKey →
      Change e sourceKey (s.standing sourceKey) ((call t sourceKey).2.standing sourceKey))
    (n : Nat) {t : Registry} (same : ∀ sourceKey ∈ names, t.standing sourceKey = s.standing sourceKey) (sourceKey : String) :
    (sourceKey ∈ names ∧ Change e sourceKey (s.standing sourceKey) ((forEach call skip names n t).2.standing sourceKey)) ∨
      (forEach call skip names n t).2.standing sourceKey = t.standing sourceKey := by
  induction names generalizing n t with
  | nil => exact .inr rfl
  | cons first rest ih =>
    obtain ⟨absent, distinct⟩ := List.nodup_cons.mp distinct
    have called := each t first List.mem_cons_self (same first List.mem_cons_self)
    have others : ∀ other ∈ rest, (call t first).2.standing other = s.standing other := by
      intro other member
      rw [frame t first other (fun here => absent (here ▸ member))]
      exact same other (List.mem_cons_of_mem _ member)
    have stops : (sourceKey ∈ first :: rest ∧ Change e sourceKey (s.standing sourceKey) ((call t first).2.standing sourceKey)) ∨
        (call t first).2.standing sourceKey = t.standing sourceKey := by
      by_cases here : sourceKey = first
      · subst here
        exact .inl ⟨List.mem_cons_self, called⟩
      · exact .inr (frame t first sourceKey here)
    have goesOn : ∀ n, (sourceKey ∈ first :: rest ∧
          Change e sourceKey (s.standing sourceKey) ((forEach call skip rest n (call t first).2).2.standing sourceKey)) ∨
        (forEach call skip rest n (call t first).2).2.standing sourceKey = t.standing sourceKey := by
      intro n
      rcases ih distinct (fun t k member => each t k (List.mem_cons_of_mem _ member)) n others with ⟨member, changed⟩ | unchanged
      · exact .inl ⟨List.mem_cons_of_mem _ member, changed⟩
      · rw [unchanged]
        exact stops
    simp only [forEach]
    split
    · exact goesOn _
    · split
      · exact goesOn _
      · exact stops

theorem select_nodup (where_ : CandidateRow → Bool) : (s.select where_).Nodup :=
  s.candidates.sorted.keyed.sublist (List.filter_sublist.map _)

theorem select_found {where_ : CandidateRow → Bool} {sourceKey : String} (member : sourceKey ∈ s.select where_) :
    ∃ row, s.candidates.get? sourceKey = some row ∧ where_ row = true := by
  obtain ⟨row, selected, rfl⟩ := List.mem_map.mp member
  obtain ⟨stored, here⟩ := List.mem_filter.mp selected
  refine ⟨row, ?_, here⟩
  rw [← Table.get?_sorted]
  exact Table.get?_mem stored

/-- A loop over selected sources, from the state that they were selected in. -/
theorem forEach_change {e : Event} {call : Registry → String → Reply CandidateRow} {skip : SourceError → Bool}
    {where_ : CandidateRow → Bool}
    (frame : ∀ s sourceKey other, other ≠ sourceKey → (call s sourceKey).2.standing other = s.standing other)
    (each : ∀ t sourceKey row, s.candidates.get? sourceKey = some row → where_ row = true →
      t.standing sourceKey = s.standing sourceKey →
      Change e sourceKey (s.standing sourceKey) ((call t sourceKey).2.standing sourceKey)) (sourceKey : String) :
    Change e sourceKey (s.standing sourceKey) ((forEach call skip (s.select where_) 0 s).2.standing sourceKey) := by
  have looped := @forEach_standing s e call skip _ (select_nodup where_) frame
    (fun t sourceKey member same => by
      obtain ⟨row, found, here⟩ := select_found member
      exact each t sourceKey row found here same)
    0 _ (fun _ _ => rfl) sourceKey
  rcases looped with ⟨-, changed⟩ | unchanged
  · exact changed
  · rw [unchanged]
    exact .kept _

theorem change_register (clock : PyFloat) (candidate : CandidateRow) (sourceKey : String) :
    Change (.registerProposal clock candidate) sourceKey (s.standing sourceKey)
      ((registerProposal s clock candidate).2.standing sourceKey) := by
  unfold registerProposal
  split
  · exact .kept _
  · rename_i now reads
    simp only [Registry.standing, Table.get?_insert_or]
    cases found : s.candidates.get? sourceKey with
    | some row => exact .kept _
    | none =>
      by_cases name : candidate.sourceKey = sourceKey
      · rw [if_pos name]
        exact .registered clock candidate rfl name
      · rw [if_neg name]
        exact .kept _

theorem change_transition (clock : PyFloat) (moved : String) (target : SourceState) (sourceKey : String) :
    Change (.transition clock moved target) sourceKey (s.standing sourceKey)
      ((transition s clock moved target).2.standing sourceKey) := by
  by_cases here : sourceKey = moved
  · subst here
    rcases transition_standing (s := s) clock sourceKey target with same | ⟨state, retryAt, before, allowed, after⟩
    · rw [same]
      exact .kept _
    · rw [before, after]
      exact .moved clock rfl allowed
  · rw [transition_other clock target here]
    exact .kept _

theorem change_begin (clock : PyFloat) (claimed sourceKey : String) :
    Change (.beginActivation clock claimed) sourceKey (s.standing sourceKey)
      ((beginActivation s clock claimed).2.standing sourceKey) := by
  unfold beginActivation
  split
  · exact .kept _
  · split
    · exact .kept _
    · rename_i row found
      split
      · exact .kept _
      · split
        · exact .kept _
        · split
          · exact .kept _
          · rename_i ready
            split
            · exact .kept _
            · by_cases here : sourceKey = claimed
              · subst here
                rw [standing_found found, standing_rewrite_self found]
                refine .claimed clock rfl ?_
                simpa [or_iff_not_imp_left] using ready
              · rw [standing_rewrite_other found here]
                exact .kept _

theorem change_failure (clock : PyFloat) (failed reason : String) (permanent : Bool) (retrySeconds : PyFloat)
    (sourceKey : String) :
    Change (.recordActivationFailure clock failed reason permanent retrySeconds) sourceKey (s.standing sourceKey)
      ((recordActivationFailure s clock failed reason permanent retrySeconds).2.standing sourceKey) := by
  by_cases here : sourceKey = failed
  · subst here
    rcases failure_standing (s := s) clock sourceKey reason permanent retrySeconds with
      same | ⟨state, retryAt, now, before, running, reads, ⟨rfl, after⟩ | ⟨seconds, rfl, positive, after⟩⟩
    · rw [same]
      exact .kept _
    · rw [before, after]
      exact .rejected clock reason retrySeconds rfl running
    · rw [before, after]
      exact .held running (by simp [failureDeadline, reads, positive])
  · rw [failure_other clock reason permanent retrySeconds here]
    exact .kept _

theorem change_retry (clock : PyFloat) (now : Option PyFloat) (sourceKey : String) :
    Change (.retryDueActivations clock now) sourceKey (s.standing sourceKey)
      ((retryDueActivations s clock now).2.standing sourceKey) := by
  refine forEach_change (fun _ _ _ apart => transition_other clock .warm apart) ?_ sourceKey
  intro t sourceKey row found due same
  rcases transition_standing (s := t) clock sourceKey .warm with kept | ⟨state, retryAt, before, -, after⟩
  · rw [kept, same]
    exact .kept _
  · simp only [dueAt, Bool.and_eq_true, decide_eq_true_eq, Option.any_eq_true] at due
    obtain ⟨onHold, deadline, set, passed⟩ := due
    rw [after, standing_found found, onHold, set]
    rw [same, standing_found found, onHold, set] at before
    cases before
    exact .promoted clock now rfl passed

theorem change_recover (clock : PyFloat) (sourceKey : String) :
    Change (.recoverStrandedActivations clock) sourceKey (s.standing sourceKey)
      ((recoverStrandedActivations s clock).2.standing sourceKey) := by
  refine forEach_change (fun _ _ _ apart => failure_other clock _ _ _ apart) ?_ sourceKey
  intro t sourceKey row found _ same
  rcases failure_standing (s := t) clock sourceKey strandedReason false (.fin defaultRetrySeconds) with
    kept | ⟨state, retryAt, now, before, running, reads, ⟨no, -⟩ | ⟨seconds, -, given, after⟩⟩
  · rw [kept, same]
    exact .kept _
  · cases no
  · have seconds30 : defaultRetrySeconds = seconds := by
      have positive30 : (0 : ℚ) < defaultRetrySeconds := by norm_num [defaultRetrySeconds]
      simpa [positive, positive30] using given
    rw [after, ← same, before]
    exact .held running (by simp [failureDeadline, reads, seconds30])

theorem change_reconcile (clock : PyFloat) (sourceKey : String) :
    Change (.reconcileExhaustedActivations clock) sourceKey (s.standing sourceKey)
      ((reconcileExhaustedActivations s clock).2.standing sourceKey) := by
  refine forEach_change (fun _ _ _ apart => transition_other clock .exhausted apart) ?_ sourceKey
  intro t sourceKey row found drained same
  rcases transition_standing (s := t) clock sourceKey .exhausted with kept | ⟨state, retryAt, before, -, after⟩
  · rw [kept, same]
    exact .kept _
  · simp only [Surroundings.drained, Bool.and_eq_true, decide_eq_true_eq] at drained
    rw [same, standing_found found, drained.1] at before
    cases before
    rw [after, standing_found found, drained.1]
    exact .drained clock rfl

theorem change_bind (clock : PyFloat) (bound : String) (format : SourceFormatObservation) (layout : SourceRecordLayout)
    (schema : Option SourceRecordSchema) (expectedStateReason sourceKey : String) :
    Change (.applyValidatedAdapterBinding clock bound format layout schema expectedStateReason) sourceKey
      (s.standing sourceKey)
      ((applyValidatedAdapterBinding s clock bound format layout schema expectedStateReason).2.standing sourceKey) := by
  unfold applyValidatedAdapterBinding
  split
  · exact .kept _
  · split
    · exact .kept _
    · rename_i row found
      split
      · exact .kept _
      · rename_i onHold
        split
        · exact .kept _
        · split
          · exact .kept _
          · split
            · exact .kept _
            · dsimp only
              by_cases here : sourceKey = bound
              · subst here
                rw [standing_found found, standing_rewrite_around _ found, not_not.mp onHold]
                exact .bound clock format layout schema expectedStateReason rfl
              · rw [standing_rewrite_around_other _ found here]
                exact .kept _

theorem standing_setStateReason (clock : PyFloat) (named reason sourceKey : String) :
    (setStateReason s clock named reason).2.standing sourceKey = s.standing sourceKey := by
  unfold setStateReason
  split
  · rfl
  · split
    · rfl
    · split
      · rfl
      · rename_i row found
        by_cases here : sourceKey = named
        · subst here
          rw [standing_rewrite_self found, standing_found found]
        · exact standing_rewrite_other found here

theorem change_step (s : Registry) (e : Event) (sourceKey : String) :
    Change e sourceKey (s.standing sourceKey) ((machine.step s e).2.standing sourceKey) := by
  cases e with
  | registerProposal clock candidate => exact change_register clock candidate sourceKey
  | transition clock moved target => exact change_transition clock moved target sourceKey
  | beginActivation clock claimed => exact change_begin clock claimed sourceKey
  | recordActivationFailure clock failed reason permanent retrySeconds =>
    exact change_failure clock failed reason permanent retrySeconds sourceKey
  | retryDueActivations clock now => exact change_retry clock now sourceKey
  | recoverStrandedActivations clock => exact change_recover clock sourceKey
  | applyValidatedAdapterBinding clock bound format layout schema expectedStateReason =>
    exact change_bind clock bound format layout schema expectedStateReason sourceKey
  | setStateReason clock named reason =>
    simp only [machine, step, step.outcome]
    rw [standing_setStateReason]
    exact .kept _
  | reconcileExhaustedActivations clock => exact change_reconcile clock sourceKey
  | elsewhere around => exact .kept _

end

/-! ## Runs that reactivate only after failures -/

/-- The latest entry of a source into HOLD was a transient failure with a deadline; it has
    stayed there since. -/
def HeldByFailure (es : List Event) (sourceKey : String) (deadline : ℚ) : Prop :=
  ∃ before e after, es = before ++ e :: after ∧ failureDeadline sourceKey e = some deadline ∧
    (machine.final before).stateOf sourceKey ≠ some .hold ∧
    ∀ first rest, after = first ++ rest → (machine.final (before ++ e :: first)).stateOf sourceKey = some .hold

structure ReactivationSafe (es : List Event) : Prop where
  promoted : ∀ before clock now after sourceKey, es = before ++ .retryDueActivations clock now :: after →
    (machine.final before).stateOf sourceKey = some .hold →
    (machine.final (before ++ [.retryDueActivations clock now])).stateOf sourceKey = some .warm →
    ∃ deadline, HeldByFailure before sourceKey deadline ∧ (PyFloat.fin deadline).le (now.getD clock) = true
  terminal : ∀ before e after sourceKey state, es = before ++ e :: after → state.Terminal →
    (machine.final before).stateOf sourceKey = some state → (machine.final (before ++ [e])).stateOf sourceKey = some state

/-- The event puts no source on HOLD with a deadline left over from before. -/
def Fresh (s : Registry) : Event → Prop
  | .transition _ sourceKey .hold => ∀ state deadline, s.standing sourceKey = some (state, some deadline) → .hold ∉ transitions state
  | .registerProposal _ candidate =>
    s.standing candidate.sourceKey = none → candidate.state = .hold → candidate.activationRetryAt = none
  | _ => True

def AllFresh (es : List Event) : Prop := ∀ before e after, es = before ++ e :: after → Fresh (machine.final before) e

theorem AllFresh.init {es : List Event} {e : Event} (fresh : AllFresh (es ++ [e])) : AllFresh es :=
  fun before e' after split => fresh before e' (after ++ [e]) (by simp [split])

/-- What led to HOLD was the last step, or the source was there before it. -/
theorem HeldByFailure.last {es : List Event} {e : Event} {sourceKey : String} {deadline : ℚ}
    (held : HeldByFailure (es ++ [e]) sourceKey deadline) :
    failureDeadline sourceKey e = some deadline ∨ (machine.final es).stateOf sourceKey = some .hold := by
  obtain ⟨before, failure, after, split, fails, -, stays⟩ := held
  rcases List.eq_nil_or_concat after with rfl | ⟨after', last, rfl⟩
  · obtain ⟨-, same⟩ := List.append_inj' split rfl
    cases same
    exact .inl fails
  · rw [List.concat_eq_append, ← List.cons_append, ← List.append_assoc] at split
    rw [List.append_inj_left' split rfl]
    exact .inr (stays after' [last] (by simp))

/-- A source that stays on HOLD stays there since the same failure. -/
theorem HeldByFailure.extend {es : List Event} {e : Event} {sourceKey : String} {deadline : ℚ}
    (held : HeldByFailure es sourceKey deadline) (still : (machine.final (es ++ [e])).stateOf sourceKey = some .hold) :
    HeldByFailure (es ++ [e]) sourceKey deadline := by
  obtain ⟨before, failure, after, rfl, fails, entered, stays⟩ := held
  refine ⟨before, failure, after ++ [e], by simp, fails, entered, fun first rest split => ?_⟩
  rcases List.eq_nil_or_concat rest with rfl | ⟨rest', last, rfl⟩
  · have whole : first = after ++ [e] := by simpa using split.symm
    rw [whole]
    simpa using still
  · rw [List.concat_eq_append, ← List.append_assoc] at split
    exact stays first rest' (List.append_inj_left' split rfl)

/-- In a fresh run a deadline on HOLD is the one of the failure that led there. -/
theorem held_by_failure (es : List Event) (fresh : AllFresh es) (sourceKey : String) (deadline : ℚ)
    (held : (machine.final es).standing sourceKey = some (.hold, some deadline)) : HeldByFailure es sourceKey deadline := by
  induction es using List.reverseRecOn with
  | nil => cases held
  | append_singleton es e ih =>
    have change := change_step (machine.final es) e sourceKey
    have still : (machine.final (es ++ [e])).stateOf sourceKey = some .hold := by
      rw [stateOf_standing, held]
      rfl
    rw [Machine.final_snoc] at held
    generalize earlier : (machine.final es).standing sourceKey = old at change
    generalize (machine.step (machine.final es) e).2.standing sourceKey = new at change held
    have now := fresh es e [] rfl
    cases change with
    | kept =>
      rw [held] at earlier
      exact (ih fresh.init earlier).extend still
    | registered clock candidate op name =>
      subst op name
      obtain ⟨onHold, set⟩ := Prod.mk.inj (Option.some.inj held)
      rw [now earlier onHold] at set
      cases set
    | @moved state _ _ clock op allowed =>
      subst op
      cases held
      exact absurd allowed (now state deadline earlier)
    | promoted => cases held
    | drained => cases held
    | claimed => cases held
    | rejected => cases held
    | bound => cases held
    | @held state retryAt _ running fails =>
      cases held
      refine ⟨es, e, [], rfl, fails, ?_, fun first rest split => ?_⟩
      · rw [stateOf_standing, earlier]
        rintro ⟨⟩
        rcases running with bad | bad <;> cases bad
      · obtain ⟨rfl, -⟩ := List.append_eq_nil_iff.mp split.symm
        exact still

theorem terminal_kept (s : Registry) (e : Event) {sourceKey : String} {state : SourceState} (terminal : state.Terminal)
    (before : s.stateOf sourceKey = some state) : (machine.step s e).2.stateOf sourceKey = some state := by
  have change := change_step s e sourceKey
  rw [stateOf_standing] at before ⊢
  cases standing : s.standing sourceKey with
  | none =>
    rw [standing] at before
    cases before
  | some pair =>
    obtain ⟨old, retryAt⟩ := pair
    rw [standing] at before change
    cases before
    generalize (machine.step s e).2.standing sourceKey = new at change ⊢
    cases change with
    | kept => rfl
    | moved clock op allowed =>
      rw [transitions_terminal terminal] at allowed
      cases allowed
    | promoted => rcases terminal with bad | bad <;> cases bad
    | drained => rcases terminal with bad | bad <;> cases bad
    | claimed clock op ready => rcases ready with rfl | rfl <;> rcases terminal with bad | bad <;> cases bad
    | held running => rcases running with rfl | rfl <;> rcases terminal with bad | bad <;> cases bad
    | rejected clock reason retrySeconds op running =>
      rcases running with rfl | rfl <;> rcases terminal with bad | bad <;> cases bad
    | bound => rcases terminal with bad | bad <;> cases bad

/-- When no step puts a source on HOLD with a deadline left over, only failed activations
    come back by themselves, once their own deadline has passed. -/
theorem reactivation_safe (es : List Event) (fresh : AllFresh es) : ReactivationSafe es := by
  refine ⟨?_, ?_⟩
  · rintro before clock now after sourceKey rfl onHold onWarm
    have earlier : AllFresh before := fun first e rest split =>
      fresh first e (rest ++ .retryDueActivations clock now :: after) (by simp [split])
    have change := change_step (machine.final before) (.retryDueActivations clock now) sourceKey
    rw [Machine.final_snoc, stateOf_standing] at onWarm
    rw [stateOf_standing] at onHold
    generalize held : (machine.final before).standing sourceKey = old at change onHold
    generalize (machine.step (machine.final before) (.retryDueActivations clock now)).2.standing sourceKey = new at change onWarm
    cases change with
    | kept =>
      rw [onHold] at onWarm
      cases onWarm
    | registered => cases onHold
    | moved clock op allowed => cases op
    | @promoted deadline clock' now' op due =>
      cases op
      exact ⟨deadline, held_by_failure before earlier sourceKey deadline held, due⟩
    | drained => cases onHold
    | claimed clock op ready => cases op
    | held => cases onWarm
    | rejected => cases onWarm
    | bound => cases onWarm
  · rintro before e after sourceKey state rfl terminal held
    rw [Machine.final_snoc]
    exact terminal_kept _ e terminal held

/-! ## A deadline left over -/

/-- The reading of the clock that an event brings. -/
def Event.clock : Event → Option PyFloat
  | .registerProposal clock _ | .transition clock _ _ | .beginActivation clock _ | .recordActivationFailure clock _ _ _ _
  | .retryDueActivations clock _ | .recoverStrandedActivations clock | .applyValidatedAdapterBinding clock _ _ _ _ _
  | .setStateReason clock _ _ | .reconcileExhaustedActivations clock => some clock
  | .elsewhere _ => none

/-- The clock never goes back. -/
def NonDecreasing (es : List Event) : Prop := (es.filterMap Event.clock).Pairwise (fun first later => first.le later = true)

instance (es : List Event) : Decidable (NonDecreasing es) := by
  unfold NonDecreasing
  infer_instance

/-- A source is discovered, scouted and measured, and its activation begins. -/
def activating : List Event := [
  .registerProposal (.fin 0) ⟨"source", .discovered, "", none, 0, 0⟩,
  .transition (.fin 1) "source" .triaged,
  .transition (.fin 2) "source" .scoutReady,
  .transition (.fin 3) "source" .scouting,
  .elsewhere ⟨Table.empty.insert ⟨"source", none, none⟩, none, .empty, .empty, .empty, .empty, .empty⟩,
  .transition (.fin 4) "source" .warm,
  .beginActivation (.fin 5) "source"]

/-- The activation fails for now and is tried again once it is due. -/
def retried : List Event := activating ++ [
  .recordActivationFailure (.fin 10) "source" "compiler unavailable" false (.fin 30),
  .retryDueActivations (.fin 50) none]

theorem retried_safe : ReactivationSafe retried ∧ (machine.final retried).stateOf "source" = some .warm := by
  refine ⟨reactivation_safe retried fun before e after split => ?_, by decide +kernel⟩
  have member : e ∈ retried := by simp [split]
  simp only [retried, activating, List.cons_append, List.nil_append, List.mem_cons, List.not_mem_nil, or_false] at member
  rcases member with rfl | rfl | rfl | rfl | rfl | rfl | rfl | rfl | rfl <;> simp [Fresh]

/-- The activation fails for now, then triage looks at the source again and holds it. -/
def heldByTriage : List Event := activating ++ [
  .recordActivationFailure (.fin 10) "source" "compiler unavailable" false (.fin 30),
  .transition (.fin 11) "source" .triaged,
  .transition (.fin 12) "source" .hold]

/-- The deadline of the failed activation promotes the source that triage put on HOLD. -/
theorem promoted_from_triage : NonDecreasing (heldByTriage ++ [.retryDueActivations (.fin 50) none]) ∧
    ¬ ReactivationSafe (heldByTriage ++ [.retryDueActivations (.fin 50) none]) := by
  refine ⟨by decide +kernel, fun safe => ?_⟩
  obtain ⟨deadline, held, -⟩ := safe.promoted heldByTriage (.fin 50) none [] "source" rfl (by decide +kernel) (by decide +kernel)
  have triaged : (machine.final (activating ++ [
      .recordActivationFailure (.fin 10) "source" "compiler unavailable" false (.fin 30),
      .transition (.fin 11) "source" .triaged])).stateOf "source" = some .triaged := by decide +kernel
  have split : heldByTriage = (activating ++ [
      .recordActivationFailure (.fin 10) "source" "compiler unavailable" false (.fin 30),
      .transition (.fin 11) "source" .triaged]) ++ [.transition (.fin 12) "source" .hold] := rfl
  rw [split] at held
  rcases held.last with failure | onHold
  · cases failure
  · rw [triaged] at onHold
    cases onHold

end Creeper.SourceActivation
