import Creeper.WorkLeases

/-!
# Production exposures

`runtime/exposure.py` and the calls of the control store on `production_exposures`:
begin, record progress, finalize, abort, and the recovery of the exposures whose
lease was lost.
-/

namespace Creeper.ProductionExposures
open Creeper.Runs Creeper.Tables Creeper.PyNumbers
open Creeper.FabricModels (PyError blank)
open Creeper.WorkLeases (LeaseOp LeaseState finiteNonneg recoverExpiredLeases)

/-! ## Exposures -/

inductive ExposureState
  | running
  | readComplete
  | validating
  | finalClosed
  | aborted
  | expired
  deriving DecidableEq, Repr

/-- `terminal`. -/
def ExposureState.terminal (s : ExposureState) : Bool := ([.finalClosed, .aborted, .expired] : List ExposureState).contains s

/-- The `order` of the open states; terminal states come last. -/
def ExposureState.order : ExposureState → Nat
  | .running => 0
  | .readComplete => 1
  | .validating => 2
  | .finalClosed | .aborted | .expired => 3

/-- What makes an exposure the one that a caller means. -/
structure Identity where
  sourceKey : String
  reservoirId : String
  leaseId : String
  taskId : String
  lane : String
  baselineSignature : String
  modelSignature : String
  deriving DecidableEq

structure Counters where
  sourceRecords : Int
  sourceRequests : Int
  sourceBytes : Int
  providerRequests : Int
  providerBytes : Int
  sourceElapsedSeconds : PyFloat
  providerElapsedSeconds : PyFloat
  evidenceFrontier : Int
  acceptedHostYears : Int
  deriving DecidableEq

def Counters.counts (c : Counters) : List (String × Int) :=
  [("source_records", c.sourceRecords), ("source_requests", c.sourceRequests), ("source_bytes", c.sourceBytes),
   ("provider_requests", c.providerRequests), ("provider_bytes", c.providerBytes),
   ("evidence_frontier", c.evidenceFrontier), ("accepted_host_years", c.acceptedHostYears)]

def Counters.elapsed (c : Counters) : List (String × PyFloat) :=
  [("source_elapsed_seconds", c.sourceElapsedSeconds), ("provider_elapsed_seconds", c.providerElapsedSeconds)]

def Counters.zero : Counters := ⟨0, 0, 0, 0, 0, .fin 0, .fin 0, 0, 0⟩

/-- The columns of `production_exposures`. -/
structure ExposureRow where
  exposureId : String
  identity : Identity
  counters : Counters
  finalAcceptedEed : PyFloat
  state : ExposureState
  terminalReason : Option String
  createdAt : PyFloat
  updatedAt : PyFloat
  closedAt : Option PyFloat
  deriving DecidableEq

/-- `authority`. -/
def ExposureRow.authority (row : ExposureRow) : String × String :=
  (row.identity.baselineSignature, row.identity.modelSignature)

/-- The first field that fails a check, with the text of the error. -/
def failing {α : Type} (fields : List (String × α)) (bad : α → Bool) (text : String) : Option String :=
  (fields.find? (fun field => bad field.2)).map (·.1 ++ text)

/-- `__post_init__` on the columns of a row. -/
def ExposureRow.problem (row : ExposureRow) : Option String :=
  (failing [("exposure_id", row.exposureId), ("source_key", row.identity.sourceKey),
    ("reservoir_id", row.identity.reservoirId), ("lane", row.identity.lane),
    ("baseline_signature", row.identity.baselineSignature), ("model_signature", row.identity.modelSignature)]
    blank " is required").or <|
  (if row.identity.leaseId = "" && row.identity.taskId = "" then some "lease_id or task_id is required" else none).or <|
  (failing row.counters.counts (· < 0) " must be a non-negative integer").or <|
  (failing (row.counters.elapsed ++ [("final_accepted_eed", row.finalAcceptedEed), ("created_at", row.createdAt),
    ("updated_at", row.updatedAt)]) (!finiteNonneg ·) " must be finite and non-negative").or <|
  (if row.updatedAt.lt row.createdAt then some "updated_at cannot precede created_at" else none).or <|
  (if row.closedAt.any (fun t => !t.isFinite || t.lt row.createdAt) then
    some "closed_at must be finite and not precede created_at" else none)

/-- An exposure that passed its constructor. -/
structure ProductionExposure extends ExposureRow where
  valid : toExposureRow.problem = none

/-- `_production_exposure_from_row`. -/
def fromRow (row : ExposureRow) : Except PyError ProductionExposure :=
  match valid : row.problem with
  | some problem => .error (.valueError problem)
  | none => .ok ⟨row, valid⟩

/-- `_exposure_authority`. -/
def exposureAuthority (authority : Option (String × String)) (baselineSignature modelSignature : Option String) :
    Except PyError (String × String) :=
  match authority, baselineSignature, modelSignature with
  | some (b, m), none, none => given b m
  | some (b, m), b', m' =>
    if (b', m') ≠ (some b, some m) then .error (.valueError "conflicting exposure authority arguments") else given b m
  | none, some b, some m => given b m
  | none, none, none => .error (.valueError "exposure authority signatures are required")
  | none, _, _ => .error (.valueError "baseline_signature and model_signature must be provided together")
where
  given (b m : String) : Except PyError (String × String) :=
    if blank b || blank m then .error (.valueError "exposure authority signatures are required") else .ok (b, m)

/-- Integers that a column of SQLite holds. -/
def fitsColumn (n : Int) : Bool := -2 ^ 63 ≤ n && n < 2 ^ 63

/-! ## Reports -/

/-- The arguments of `record_production_exposure_progress`. -/
structure Report where
  state : ExposureState
  sourceRecords : Option Int := none
  sourceRequests : Option Int := none
  sourceBytes : Option Int := none
  bytesRead : Option Int := none
  providerRequests : Option Int := none
  providerBytes : Option Int := none
  sourceElapsedSeconds : Option PyFloat := none
  providerElapsedSeconds : Option PyFloat := none
  elapsedSeconds : Option PyFloat := none
  evidenceFrontier : Option Int := none
  acceptedHostYears : Option Int := none
  authority : Option (String × String) := none
  baselineSignature : Option String := none
  modelSignature : Option String := none

/-- The two aliases put in their places. -/
def Report.resolved (r : Report) : Report :=
  { r with sourceBytes := r.bytesRead.or r.sourceBytes, providerElapsedSeconds := r.elapsedSeconds.or r.providerElapsedSeconds }

def Report.counts (r : Report) : List (Option Int) :=
  [r.sourceRecords, r.sourceRequests, r.sourceBytes, r.providerRequests, r.providerBytes, r.evidenceFrontier, r.acceptedHostYears]

def Report.elapsed (r : Report) : List (Option PyFloat) := [r.sourceElapsedSeconds, r.providerElapsedSeconds]

/-- What is wrong with a report before its exposure is read. -/
def Report.problem (r : Report) : Option String :=
  if r.state.terminal then some "terminal exposure states use terminal transitions"
  else if r.bytesRead.isSome && r.sourceBytes.isSome then some "bytes_read and source_bytes are aliases"
  else if r.elapsedSeconds.isSome && (r.sourceElapsedSeconds.isSome || r.providerElapsedSeconds.isSome) then
    some "elapsed_seconds conflicts with split elapsed counters"
  else if r.resolved.counts.any (·.any (· < 0)) then some "production exposure count fields must be non-negative integers"
  else if r.resolved.elapsed.any (·.any (!finiteNonneg ·)) then
    some "production exposure counters must be finite and non-negative"
  else none

/-- The authority that a report names, if it names one. -/
def Report.requested (r : Report) : Except PyError (Option (String × String)) :=
  if r.authority.isSome || r.baselineSignature.isSome || r.modelSignature.isSome then
    some <$> exposureAuthority r.authority r.baselineSignature r.modelSignature
  else .ok none

/-- The stored counters with the given ones in their place. -/
def Report.updated (r : Report) (c : Counters) : Counters where
  sourceRecords := r.resolved.sourceRecords.getD c.sourceRecords
  sourceRequests := r.resolved.sourceRequests.getD c.sourceRequests
  sourceBytes := r.resolved.sourceBytes.getD c.sourceBytes
  providerRequests := r.resolved.providerRequests.getD c.providerRequests
  providerBytes := r.resolved.providerBytes.getD c.providerBytes
  sourceElapsedSeconds := r.resolved.sourceElapsedSeconds.getD c.sourceElapsedSeconds
  providerElapsedSeconds := r.resolved.providerElapsedSeconds.getD c.providerElapsedSeconds
  evidenceFrontier := r.resolved.evidenceFrontier.getD c.evidenceFrontier
  acceptedHostYears := r.resolved.acceptedHostYears.getD c.acceptedHostYears

/-- The arguments of `begin_production_exposure`. -/
structure Opening where
  sourceKey : String
  reservoirId : String
  lane : String
  baselineSignature : Option String := none
  modelSignature : Option String := none
  authority : Option (String × String) := none
  leaseId : Option String := none
  taskId : Option String := none
  exposureId : Option String := none

/-- The identity that an opening asks for, once its arguments are checked. -/
def Opening.checked (o : Opening) : Except PyError Identity :=
  match failing [("source_key", o.sourceKey), ("reservoir_id", o.reservoirId), ("lane", o.lane)] blank " is required" with
  | some problem => .error (.valueError problem)
  | none =>
    match exposureAuthority o.authority o.baselineSignature o.modelSignature with
    | .error e => .error e
    | .ok (baseline, model) =>
      match failing [("lease_id", o.leaseId), ("task_id", o.taskId)] (·.any blank) " must be non-empty when provided" with
      | some problem => .error (.valueError problem)
      | none =>
        if o.exposureId.any blank then .error (.valueError "exposure_id must be non-empty when provided")
        else if o.leaseId.getD "" = "" && o.taskId.getD "" = "" then .error (.valueError "lease_id or task_id is required")
        else .ok ⟨o.sourceKey, o.reservoirId, o.leaseId.getD "", o.taskId.getD "", o.lane, baseline, model⟩

/-- A drawn `uuid4`. -/
structure Draw where
  id : String
  named : blank id = false

/-! ## Calls -/

abbrev Exposures := Table ExposureRow String (·.exposureId)

/-- `begin_production_exposure`. -/
def beginProductionExposure (s : Exposures) (clock : PyFloat) (o : Opening) (fresh : Draw) :
    Except PyError ProductionExposure × Exposures :=
  match o.checked with
  | .error e => (.error e, s)
  | .ok identity =>
    if !finiteNonneg clock then (.error (.valueError "production exposure clock must be finite and non-negative"), s)
    else
      let row : ExposureRow := ⟨o.exposureId.getD fresh.id, identity, .zero, .fin 0, .running, none, clock, clock, none⟩
      -- INSERT OR IGNORE: a row under the identifier or the identity stays.
      let s' := if (s.get? row.exposureId).isSome || s.rows.any (·.identity = identity) then s else s.insert row
      match s'.rows.find? (·.identity = identity) with
      | none => (.error (.runtimeError "production exposure was not persisted"), s)
      | some stored => (fromRow stored, s')

/-- `record_production_exposure_progress`. -/
def recordProductionExposureProgress (s : Exposures) (clock : PyFloat) (exposureId : String) (report : Report) :
    Except PyError ProductionExposure × Exposures :=
  match report.problem with
  | some problem => (.error (.valueError problem), s)
  | none =>
    match report.requested with
    | .error e => (.error e, s)
    | .ok requested =>
      match s.get? exposureId with
      | none => (.error (.keyError ("unknown production exposure: " ++ exposureId)), s)
      | some row =>
        match fromRow row with
        | .error e => (.error e, s)
        | .ok current =>
          if requested.any (· ≠ current.authority) then (.error (.valueError "production exposure authority mismatch"), s)
          else if current.state.terminal then
            if report.state = current.state then (.ok current, s)
            else (.error (.valueError "production exposure is terminal"), s)
          else
            -- A late writer may report an earlier phase: the furthest state stays.
            let target := if report.state.order < current.state.order then current.state else report.state
            let updated := report.updated current.counters
            if !updated.counts.all (fitsColumn ·.2) then (.error .overflowError, s)
            else
              match clock.column with
              | none => (.error .integrityError, s)
              | some now => (fromRow { row with counters := updated, state := target, updatedAt := now },
                  s.update (·.exposureId = exposureId) ({ · with counters := updated, state := target, updatedAt := now }))

/-- `finalize_production_exposure`. -/
def finalizeProductionExposure (s : Exposures) (clock : PyFloat) (exposureId : String) (finalAcceptedEed : PyFloat)
    (acceptedHostYears evidenceFrontier : Int) (authority : String × String) : Except PyError Bool × Exposures :=
  if !finiteNonneg finalAcceptedEed then
    (.error (.valueError "production exposure final EED must be finite and non-negative"), s)
  else if acceptedHostYears < 0 || evidenceFrontier < 0 then
    (.error (.valueError "production exposure final counts must be non-negative integers"), s)
  else
    match exposureAuthority (some authority) none none with
    | .error e => (.error e, s)
    | .ok requested =>
      match s.get? exposureId with
      | none => (.error (.keyError ("unknown production exposure: " ++ exposureId)), s)
      | some row =>
        match fromRow row with
        | .error e => (.error e, s)
        | .ok current =>
          if current.authority ≠ requested then (.ok false, s)
          else if current.state = .finalClosed then
            (.ok (current.finalAcceptedEed = finalAcceptedEed && current.counters.acceptedHostYears = acceptedHostYears &&
              current.counters.evidenceFrontier = evidenceFrontier), s)
          else if current.state.terminal || current.state ≠ .validating then (.ok false, s)
          else if evidenceFrontier < current.counters.evidenceFrontier then
            (.error (.valueError "final evidence frontier cannot move backwards"), s)
          else if acceptedHostYears < current.counters.acceptedHostYears then
            (.error (.valueError "final accepted host-years cannot move backwards"), s)
          else if !fitsColumn acceptedHostYears || !fitsColumn evidenceFrontier then (.error .overflowError, s)
          else
            match clock.column with
            | none => (.error .integrityError, s)
            | some now => (.ok true, s.update (·.exposureId = exposureId) (fun row => { row with
                state := .finalClosed, counters := { row.counters with acceptedHostYears, evidenceFrontier },
                finalAcceptedEed, terminalReason := some "finalized", updatedAt := now, closedAt := some now }))

/-- `abort_production_exposure`. -/
def abortProductionExposure (s : Exposures) (clock : PyFloat) (exposureId : String) (state : ExposureState) (reason : String)
    (authority : Option (String × String)) : Except PyError Bool × Exposures :=
  if !([.aborted, .expired] : List ExposureState).contains state then
    (.error (.valueError "abort state must be ABORTED or EXPIRED"), s)
  else if blank reason then (.error (.valueError "terminal reason is required"), s)
  else
    match authority.mapM (fun pair => exposureAuthority (some pair) none none) with
    | .error e => (.error e, s)
    | .ok requested =>
      match s.get? exposureId with
      | none => (.error (.keyError ("unknown production exposure: " ++ exposureId)), s)
      | some row =>
        match fromRow row with
        | .error e => (.error e, s)
        | .ok current =>
          if requested.any (· ≠ current.authority) then (.ok false, s)
          else if current.state.terminal then (.ok (current.state = state && current.terminalReason = some reason), s)
          else
            match clock.column with
            | none => (.error .integrityError, s)
            | some now => (.ok true, s.update (·.exposureId = exposureId)
                ({ · with state, terminalReason := some reason, updatedAt := now, closedAt := some now }))

/-- The terminal state of an open exposure whose lease was lost. -/
def lostLease (leases : WorkLeases.Store) (row : ExposureRow) : Option ExposureState :=
  if row.state.terminal then none
  else
    match leases.leases.get? row.identity.leaseId with
    | none => none
    | some lease => if lease.state = .expired then some .expired else if lease.state = .aborted then some .aborted else none

def closedWithLease (now : PyFloat) (state : ExposureState) (row : ExposureRow) : ExposureRow :=
  { row with state, terminalReason := some (if state = .expired then "lease expired" else "lease aborted"),
             updatedAt := now, closedAt := some now }

/-- `recover_open_production_exposures`. -/
def recoverOpenProductionExposures (s : WorkLeases.Store × Exposures) (clock : PyFloat) :
    Except PyError Nat × WorkLeases.Store × Exposures :=
  match recoverExpiredLeases s.1 clock (some clock) with
  | (.error e, leases) => (.error e, leases, s.2)
  | (.ok _, leases) =>
    (.ok (s.2.rows.filter (fun row => (lostLease leases row).isSome)).length, leases,
      s.2.update (fun row => (lostLease leases row).isSome)
        (fun row => (((lostLease leases row).map (closedWithLease clock · row)).getD row))
        (fun row => by cases lostLease leases row <;> rfl))

/-! ## Histories -/

inductive ExposureOp
  | begin (opening : Opening) (fresh : Draw)
  | record (exposureId : String) (report : Report)
  | finalize (exposureId : String) (finalAcceptedEed : PyFloat) (acceptedHostYears evidenceFrontier : Int)
      (authority : String × String)
  | abort (exposureId : String) (state : ExposureState) (reason : String) (authority : Option (String × String))
  | recover
  /-- A step of a process that works on leases. -/
  | lease (process : String) (op : LeaseOp)

/-- A call, at a reading of the clock. -/
structure ExposureEvent where
  clock : PyFloat
  op : ExposureOp

inductive Reply
  | exposure (stored : ProductionExposure)
  | closed (answer : Bool)
  | recovered (count : Nat)
  | stepped

abbrev Outcome := Except PyError Reply

structure System where
  leases : WorkLeases.System
  exposures : Exposures

def step (s : System) (e : ExposureEvent) : Outcome × System :=
  match e.op with
  | .begin opening fresh =>
    let answer := beginProductionExposure s.exposures e.clock opening fresh
    (.exposure <$> answer.1, { s with exposures := answer.2 })
  | .record id report =>
    let answer := recordProductionExposureProgress s.exposures e.clock id report
    (.exposure <$> answer.1, { s with exposures := answer.2 })
  | .finalize id eed years frontier authority =>
    let answer := finalizeProductionExposure s.exposures e.clock id eed years frontier authority
    (.closed <$> answer.1, { s with exposures := answer.2 })
  | .abort id state reason authority =>
    let answer := abortProductionExposure s.exposures e.clock id state reason authority
    (.closed <$> answer.1, { s with exposures := answer.2 })
  | .recover =>
    let answer := recoverOpenProductionExposures (s.leases.store, s.exposures) e.clock
    (.recovered <$> answer.1, { leases := { s.leases with store := answer.2.1 }, exposures := answer.2.2 })
  | .lease process op =>
    let answer := WorkLeases.step s.leases ⟨e.clock, process, op⟩
    ((fun _ => .stepped) <$> answer.1, { s with leases := answer.2 })

def histories (leases : WorkLeases.System) : Machine System ExposureEvent Outcome where
  initial := ⟨leases, .empty⟩
  step := step

/-! ## The calls that write -/

structure Records (s : Exposures) (id : String) (report : Report) (row : ExposureRow) : Prop where
  found : s.get? id = some row
  sound : report.problem = none
  readable : row.problem = none
  own : ∃ requested, report.requested = .ok requested ∧ ∀ pair ∈ requested, pair = row.authority
  open_ : row.state.terminal = false
  fits : (report.updated row.counters).counts.all (fitsColumn ·.2)

/-- A finalization reaches its UPDATE of a row. -/
structure Finalizes (s : Exposures) (id : String) (eed : PyFloat) (years frontier : Int) (authority : String × String)
    (row : ExposureRow) : Prop where
  found : s.get? id = some row
  finite : finiteNonneg eed
  counts : 0 ≤ years ∧ 0 ≤ frontier
  readable : row.problem = none
  own : authority = row.authority
  validating : row.state = .validating
  fits : fitsColumn years ∧ fitsColumn frontier
  forward : row.counters.acceptedHostYears ≤ years ∧ row.counters.evidenceFrontier ≤ frontier

/-- An abort reaches its UPDATE of a row. -/
structure Aborts (s : Exposures) (id : String) (state : ExposureState) (reason : String) (authority : Option (String × String))
    (row : ExposureRow) : Prop where
  found : s.get? id = some row
  ending : state = .aborted ∨ state = .expired
  named : blank reason = false
  readable : row.problem = none
  own : ∀ pair ∈ authority, pair = row.authority
  open_ : row.state.terminal = false

/-- The arguments of a finalization pass their checks. -/
def FinalAdmitted (eed : PyFloat) (years frontier : Int) (authority : String × String) : Prop :=
  finiteNonneg eed ∧ (0 ≤ years ∧ 0 ≤ frontier) ∧ exposureAuthority (some authority) none none = .ok authority

/-- The arguments of an abort pass their checks. -/
def AbortAdmitted (state : ExposureState) (reason : String) (authority : Option (String × String)) : Prop :=
  (state = .aborted ∨ state = .expired) ∧ blank reason = false ∧
    authority.mapM (fun pair => exposureAuthority (some pair) none none) = .ok authority

def openedRow (id : String) (identity : Identity) (clock : PyFloat) : ExposureRow :=
  ⟨id, identity, .zero, .fin 0, .running, none, clock, clock, none⟩

abbrev recorded (report : Report) (now : PyFloat) (row : ExposureRow) : ExposureRow :=
  { row with counters := report.updated row.counters, updatedAt := now,
             state := if report.state.order < row.state.order then row.state else report.state }

abbrev finalized (eed : PyFloat) (years frontier : Int) (now : PyFloat) (row : ExposureRow) : ExposureRow :=
  { row with state := .finalClosed, finalAcceptedEed := eed, terminalReason := some "finalized", updatedAt := now,
             counters := { row.counters with acceptedHostYears := years, evidenceFrontier := frontier }, closedAt := some now }

abbrev aborted (state : ExposureState) (reason : String) (now : PyFloat) (row : ExposureRow) : ExposureRow :=
  { row with state, terminalReason := some reason, updatedAt := now, closedAt := some now }

theorem fromRow_ok {row : ExposureRow} {e : ProductionExposure} (read : fromRow row = .ok e) :
    e.toExposureRow = row ∧ row.problem = none := by
  unfold fromRow at read
  split at read
  · cases read
  · rename_i valid
    cases read
    exact ⟨rfl, valid⟩

theorem fromRow_of {row : ExposureRow} (valid : row.problem = none) : fromRow row = .ok ⟨row, valid⟩ := by
  unfold fromRow
  split
  · rename_i bad
    rw [valid] at bad
    cases bad
  · rfl

theorem Report.sound_parts {r : Report} (sound : r.problem = none) : r.state.terminal = false ∧
    (∀ n ∈ r.resolved.counts, ∀ m ∈ n, 0 ≤ m) ∧ ∀ x ∈ r.resolved.elapsed, ∀ y ∈ x, finiteNonneg y := by
  unfold Report.problem at sound
  split at sound
  · cases sound
  rename_i open_
  split at sound
  · cases sound
  split at sound
  · cases sound
  split at sound
  · cases sound
  rename_i counts
  split at sound
  · cases sound
  rename_i elapsed
  refine ⟨by simpa using open_, ?_, ?_⟩
  · intro n member m given
    by_contra negative
    refine counts (List.any_eq_true.mpr ⟨n, member, ?_⟩)
    rw [Option.mem_def.mp given]
    simpa using negative
  · intro x member y given
    by_contra bad
    refine elapsed (List.any_eq_true.mpr ⟨x, member, ?_⟩)
    rw [Option.mem_def.mp given]
    simpa using bad

theorem exposureAuthority_pair {pair found : String × String} (checked : exposureAuthority (some pair) none none = .ok found) :
    found = pair := by
  simp only [exposureAuthority, exposureAuthority.given] at checked
  split at checked
  · cases checked
  · cases checked
    rfl

theorem exposureAuthority_mapM {authority requested : Option (String × String)}
    (checked : authority.mapM (fun pair => exposureAuthority (some pair) none none) = .ok requested) : requested = authority := by
  cases authority with
  | none =>
    cases checked
    rfl
  | some pair =>
    cases one : exposureAuthority (some pair) none none with
    | error e => simp [one, Option.mapM] at checked
    | ok found =>
      simp only [Option.mapM, one] at checked
      cases checked
      rw [exposureAuthority_pair one]

section
variable (s : Exposures) (clock : PyFloat)

/-- The answers of `begin_production_exposure`. -/
inductive BeginAnswer (o : Opening) (fresh : Draw) : Except PyError ProductionExposure × Exposures → Prop
  | refused (err : PyError) : BeginAnswer o fresh (.error err, s)
  | kept (identity : Identity) (checked : o.checked = .ok identity) (stored : ExposureRow)
      (found : s.rows.find? (·.identity = identity) = some stored) : BeginAnswer o fresh (fromRow stored, s)
  | opened (identity : Identity) (checked : o.checked = .ok identity) (timed : finiteNonneg clock)
      (unused : s.get? (o.exposureId.getD fresh.id) = none) (new : s.rows.find? (·.identity = identity) = none) :
      BeginAnswer o fresh
        (fromRow (openedRow (o.exposureId.getD fresh.id) identity clock),
          s.insert (openedRow (o.exposureId.getD fresh.id) identity clock))

theorem begin_cases (o : Opening) (fresh : Draw) : BeginAnswer s clock o fresh (beginProductionExposure s clock o fresh) := by
  unfold beginProductionExposure
  split
  · exact .refused _
  rename_i identity checked
  split
  · exact .refused _
  rename_i timed
  simp only [Bool.not_eq_true', Bool.not_eq_false] at timed
  dsimp only
  by_cases taken : ((s.get? (o.exposureId.getD fresh.id)).isSome || s.rows.any (·.identity = identity)) = true
  · simp only [taken, if_true]
    split
    · exact .refused _
    · rename_i stored found
      exact .kept identity checked stored found
  · simp only [taken, if_false, Bool.false_eq_true]
    simp only [Bool.or_eq_true, not_or, Bool.not_eq_true, Option.isSome_eq_false_iff, Option.isNone_iff_eq_none] at taken
    obtain ⟨unused, absent⟩ := taken
    have new : s.rows.find? (·.identity = identity) = none := by
      simpa [List.find?_eq_none] using absent
    rw [Table.rows_insert unused, List.find?_append, new]
    simp only [List.find?_cons, decide_true, Option.none_or]
    exact .opened identity checked timed unused new

theorem update_recorded {id : String} {row : ExposureRow} (found : s.get? id = some row) (report : Report) (now : PyFloat) :
    s.update (·.exposureId = id) ({ · with counters := report.updated row.counters, state :=
      if report.state.order < row.state.order then row.state else report.state, updatedAt := now }) =
      s.update (·.exposureId = id) (recorded report now) := by
  refine Table.update_congr _ _ _ _ _ _ fun r member here => ?_
  rw [Table.row_unique member (Table.mem_of_get? found) ((of_decide_eq_true here).trans (Table.get?_key found).symm)]

/-- The answers of `record_production_exposure_progress`. -/
inductive RecordAnswer (id : String) (report : Report) : Except PyError ProductionExposure × Exposures → Prop
  | refused (err : PyError) : RecordAnswer id report (.error err, s)
  | written (row : ExposureRow) (records : Records s id report row) (now : PyFloat) (number : clock.column = some now) :
      RecordAnswer id report (fromRow (recorded report now row), s.update (·.exposureId = id) (recorded report now))

theorem record_cases (id : String) (report : Report) :
    RecordAnswer s clock id report (recordProductionExposureProgress s clock id report) := by
  unfold recordProductionExposureProgress
  split
  · exact .refused _
  rename_i sound
  split
  · exact .refused _
  rename_i requested asked
  split
  · exact .refused _
  rename_i row found
  split
  · exact .refused _
  rename_i current read
  obtain ⟨same, readable⟩ := fromRow_ok read
  rw [same]
  split
  · exact .refused _
  rename_i own
  split
  · rename_i terminal
    split
    · rename_i again
      have open_ := (Report.sound_parts sound).1
      rw [again, terminal] at open_
      cases open_
    · exact .refused _
  rename_i open_
  dsimp only
  split
  · exact .refused _
  rename_i fits
  split
  · exact .refused _
  rename_i now number
  rw [update_recorded s found]
  refine .written row ⟨found, sound, readable, ⟨requested, asked, ?_⟩, by simpa using open_, by simpa using fits⟩ now number
  intro pair member
  rw [Option.mem_def.mp member] at own
  simpa using own

variable {s clock} in
theorem record_written {id : String} {report : Report} {row : ExposureRow} (records : Records s id report row) {now : PyFloat}
    (number : clock.column = some now) : recordProductionExposureProgress s clock id report =
      (fromRow (recorded report now row), s.update (·.exposureId = id) (recorded report now)) := by
  obtain ⟨found, sound, readable, ⟨requested, asked, own⟩, open_, fits⟩ := records
  have mine : requested.any (· ≠ row.authority) = false := by
    cases requested with
    | none => rfl
    | some pair => simpa using own pair rfl
  simp only [recordProductionExposureProgress, sound, asked, found, fromRow_of readable, mine, open_, fits, number,
    Bool.not_true, Bool.false_eq_true, if_false, update_recorded s found]

/-- The answers of `finalize_production_exposure`. -/
inductive FinalizeAnswer (id : String) (eed : PyFloat) (years frontier : Int) (authority : String × String) :
    Except PyError Bool × Exposures → Prop
  | refused (err : PyError) : FinalizeAnswer id eed years frontier authority (.error err, s)
  | denied : FinalizeAnswer id eed years frontier authority (.ok false, s)
  | repeated (row : ExposureRow) (admitted : FinalAdmitted eed years frontier authority) (found : s.get? id = some row)
      (own : authority = row.authority) (closed : row.state = .finalClosed) (same : row.finalAcceptedEed = eed ∧ row.counters.acceptedHostYears = years ∧
        row.counters.evidenceFrontier = frontier) : FinalizeAnswer id eed years frontier authority (.ok true, s)
  | written (row : ExposureRow) (admitted : FinalAdmitted eed years frontier authority)
      (finalizes : Finalizes s id eed years frontier authority row) (now : PyFloat) (number : clock.column = some now) : FinalizeAnswer id eed years frontier authority
        (.ok true, s.update (·.exposureId = id) (finalized eed years frontier now))

theorem finalize_cases (id : String) (eed : PyFloat) (years frontier : Int) (authority : String × String) :
    FinalizeAnswer s clock id eed years frontier authority
      (finalizeProductionExposure s clock id eed years frontier authority) := by
  unfold finalizeProductionExposure
  split
  · exact .refused _
  rename_i finite
  split
  · exact .refused _
  rename_i counts
  split
  · exact .refused _
  rename_i requested asked
  have isPair := exposureAuthority_pair asked
  subst isPair
  simp only [Bool.or_eq_true, not_or, decide_eq_true_eq, Bool.not_eq_true', not_lt, Bool.not_eq_false] at finite counts
  have admitted : FinalAdmitted eed years frontier requested := ⟨finite, counts, asked⟩
  split
  · exact .refused _
  rename_i row found
  split
  · exact .refused _
  rename_i current read
  obtain ⟨same, readable⟩ := fromRow_ok read
  rw [same]
  split
  · exact .denied
  rename_i own
  have own : requested = row.authority := (not_not.mp own).symm
  split
  · rename_i closed
    by_cases values : row.finalAcceptedEed = eed ∧ row.counters.acceptedHostYears = years ∧
        row.counters.evidenceFrontier = frontier
    · simp only [values.1, values.2.1, values.2.2, decide_true, Bool.and_self]
      exact .repeated row admitted found own closed values
    · have differ : (decide (row.finalAcceptedEed = eed) && decide (row.counters.acceptedHostYears = years) &&
          decide (row.counters.evidenceFrontier = frontier)) = false := by
        simpa [and_assoc] using values
      rw [differ]
      exact .denied
  split
  · exact .denied
  rename_i validating
  split
  · exact .refused _
  rename_i frontierForward
  split
  · exact .refused _
  rename_i yearsForward
  split
  · exact .refused _
  rename_i fits
  split
  · exact .refused _
  rename_i now number
  simp only [Bool.or_eq_true, not_or, decide_eq_true_eq, Bool.not_eq_true', Bool.not_eq_true, not_lt, Bool.not_eq_false,
    not_not] at validating frontierForward yearsForward fits
  exact .written row admitted ⟨found, finite, counts, readable, own, validating.2, fits, yearsForward, frontierForward⟩ now number

variable {s clock} in
theorem finalize_written {id : String} {eed : PyFloat} {years frontier : Int} {authority : String × String} {row : ExposureRow}
    (finalizes : Finalizes s id eed years frontier authority row)
    (asked : exposureAuthority (some authority) none none = .ok authority) {now : PyFloat} (number : clock.column = some now) :
    finalizeProductionExposure s clock id eed years frontier authority =
      (.ok true, s.update (·.exposureId = id) (finalized eed years frontier now)) := by
  obtain ⟨found, finite, counts, readable, own, validating, fits, forward⟩ := finalizes
  have positive : (decide (years < 0) || decide (frontier < 0)) = false := by simp [not_lt.mpr counts.1, not_lt.mpr counts.2]
  have unclosed : ¬row.state = .finalClosed := by simp [validating]
  have open_ : (row.state.terminal || decide (row.state ≠ .validating)) = false := by simp [validating, ExposureState.terminal]
  simp only [finalizeProductionExposure, finite, positive, asked, found, fromRow_of readable, ← own, ne_eq, not_true_eq_false,
    unclosed, open_, not_lt.mpr forward.1, not_lt.mpr forward.2, fits.1, fits.2, number, Bool.not_true, Bool.or_self,
    Bool.false_eq_true, if_false]

/-- The answers of `abort_production_exposure`. -/
inductive AbortAnswer (id : String) (state : ExposureState) (reason : String) (authority : Option (String × String)) :
    Except PyError Bool × Exposures → Prop
  | refused (err : PyError) : AbortAnswer id state reason authority (.error err, s)
  | denied : AbortAnswer id state reason authority (.ok false, s)
  | repeated (row : ExposureRow) (admitted : AbortAdmitted state reason authority) (found : s.get? id = some row) (own : ∀ pair ∈ authority, pair = row.authority)
      (closed : row.state = state ∧ row.terminalReason = some reason) (ended : row.state.terminal) :
      AbortAnswer id state reason authority (.ok true, s)
  | written (row : ExposureRow) (admitted : AbortAdmitted state reason authority)
      (aborts : Aborts s id state reason authority row) (now : PyFloat) (number : clock.column = some now) : AbortAnswer id state reason authority
        (.ok true, s.update (·.exposureId = id) (aborted state reason now))

theorem abort_cases (id : String) (state : ExposureState) (reason : String) (authority : Option (String × String)) :
    AbortAnswer s clock id state reason authority (abortProductionExposure s clock id state reason authority) := by
  unfold abortProductionExposure
  split
  · exact .refused _
  rename_i ending
  split
  · exact .refused _
  rename_i named
  split
  · exact .refused _
  rename_i requested asked
  split
  · exact .refused _
  rename_i row found
  split
  · exact .refused _
  rename_i current read
  obtain ⟨same, readable⟩ := fromRow_ok read
  rw [same]
  split
  · exact .denied
  rename_i own
  have isAuthority := exposureAuthority_mapM asked
  subst isAuthority
  have admitted : AbortAdmitted state reason requested :=
    ⟨by simpa [or_iff_not_imp_left] using ending, by simpa using named, asked⟩
  have own : ∀ pair ∈ requested, pair = row.authority := by
    rintro pair member
    rw [Option.mem_def.mp member] at own
    simpa using own
  split
  · rename_i ended
    by_cases again : row.state = state ∧ row.terminalReason = some reason
    · simp only [again.1, again.2, decide_true, Bool.and_self]
      exact .repeated row admitted found own again ended
    · have differ : (decide (row.state = state) && decide (row.terminalReason = some reason)) = false := by
        simpa using again
      rw [differ]
      exact .denied
  rename_i open_
  split
  · exact .refused _
  rename_i now number
  exact .written row admitted ⟨found, admitted.1, admitted.2.1, readable, own, by simpa using open_⟩ now number

end

/-! ## What a step does to a row -/

/-- The lease of an exposure was lost, or is when the expired ones are recovered. -/
def LosesLease (leases : WorkLeases.Store) (clock : PyFloat) (row : ExposureRow) : Prop :=
  ∃ l, leases.leases.get? row.identity.leaseId = some l ∧
    (l.state = .aborted ∨ l.state = .expired ∨ l.Live ∧ l.expiresAt.any (·.le clock))

/-- A call reaches its UPDATE of a row. -/
inductive Writes (s : System) (e : ExposureEvent) (row : ExposureRow) : Prop
  | record (id : String) (report : Report) (op : e.op = .record id report) (records : Records s.exposures id report row)
  | finalize (id : String) (eed : PyFloat) (years frontier : Int) (authority : String × String)
      (op : e.op = .finalize id eed years frontier authority)
      (finalizes : Finalizes s.exposures id eed years frontier authority row)
  | abort (id : String) (state : ExposureState) (reason : String) (authority : Option (String × String))
      (op : e.op = .abort id state reason authority) (aborts : Aborts s.exposures id state reason authority row)
  | recover (op : e.op = .recover) (stored : row ∈ s.exposures.rows) (open_ : row.state.terminal = false)
      (timed : finiteNonneg e.clock) (loses : LosesLease s.leases.store e.clock row)

/-- What a call makes of a row. -/
inductive RowChange (s : System) (e : ExposureEvent) (row : ExposureRow) : ExposureRow → Prop
  | same : RowChange s e row row
  | recorded (report : Report) (op : e.op = .record row.exposureId report)
      (records : Records s.exposures row.exposureId report row) (now : PyFloat) (number : e.clock.column = some now) :
      RowChange s e row (recorded report now row)
  | finalized (eed : PyFloat) (years frontier : Int) (authority : String × String)
      (op : e.op = .finalize row.exposureId eed years frontier authority)
      (finalizes : Finalizes s.exposures row.exposureId eed years frontier authority row) (now : PyFloat)
      (number : e.clock.column = some now) : RowChange s e row (finalized eed years frontier now row)
  | aborted (state : ExposureState) (reason : String) (authority : Option (String × String))
      (op : e.op = .abort row.exposureId state reason authority)
      (aborts : Aborts s.exposures row.exposureId state reason authority row) (now : PyFloat)
      (number : e.clock.column = some now) : RowChange s e row (aborted state reason now row)
  | lost (state : ExposureState) (ending : state = .aborted ∨ state = .expired) (op : e.op = .recover)
      (open_ : row.state.terminal = false) (timed : finiteNonneg e.clock) (loses : LosesLease s.leases.store e.clock row) :
      RowChange s e row (closedWithLease e.clock state row)

theorem lostLease_loses {s : WorkLeases.Store} {clock : PyFloat} {row : ExposureRow} {state : ExposureState}
    (lost : lostLease (recoverExpiredLeases s clock (some clock)).2 row = some state) :
    row.state.terminal = false ∧ (state = .aborted ∨ state = .expired) ∧ LosesLease s clock row := by
  unfold lostLease at lost
  split at lost
  · cases lost
  rename_i open_
  refine ⟨by simpa using open_, ?_⟩
  split at lost
  · cases lost
  rename_i lease found
  obtain ⟨l, before, same | ⟨live, expired, -⟩⟩ := WorkLeases.recover_leases s clock found
  · subst same
    split at lost
    · rename_i state
      cases lost
      exact ⟨.inr rfl, lease, before, .inr (.inl state)⟩
    · split at lost
      · rename_i state
        cases lost
        exact ⟨.inl rfl, lease, before, .inl state⟩
      · cases lost
  · refine ⟨?_, l, before, .inr (.inr ⟨live, expired⟩)⟩
    split at lost
    · cases lost
      exact .inr rfl
    · split at lost
      · cases lost
        exact .inl rfl
      · cases lost

theorem recover_timed {s s' : WorkLeases.Store} {clock : PyFloat} {n : Nat}
    (recovered : recoverExpiredLeases s clock (some clock) = (.ok n, s')) : finiteNonneg clock := by
  unfold recoverExpiredLeases at recovered
  dsimp only [Option.getD_some] at recovered
  split at recovered
  · cases recovered
  · rename_i timed
    simpa using timed

theorem change_key {t : Exposures} {at_ id : String} {set : ExposureRow → ExposureRow}
    (keeps : ∀ r, (set r).exposureId = r.exposureId) {row : ExposureRow} (found : t.get? id = some row) : (t.update (·.exposureId = at_) set keeps).get? id =
      some (if id = at_ then set row else row) := by
  rw [Table.get?_update_key, found]
  split <;> rfl

theorem row_change (s : System) (e : ExposureEvent) {id : String} {row : ExposureRow} (found : s.exposures.get? id = some row) :
    ∃ row', (step s e).2.exposures.get? id = some row' ∧ RowChange s e row row' := by
  have name : row.exposureId = id := Table.get?_key found
  have stays : ∃ row', s.exposures.get? id = some row' ∧ RowChange s e row row' := ⟨row, found, .same⟩
  cases op : e.op with
  | begin opening fresh =>
    have answer := begin_cases s.exposures e.clock opening fresh
    simp only [step, op]
    generalize beginProductionExposure s.exposures e.clock opening fresh = result at answer
    cases answer with
    | refused => exact stays
    | kept => exact stays
    | opened identity checked timed unused new =>
      refine ⟨row, ?_, .same⟩
      dsimp only
      rw [Table.get?_insert unused, if_neg, found]
      rintro rfl
      cases unused.symm.trans found
  | record at_ report =>
    have answer := record_cases s.exposures e.clock at_ report
    simp only [step, op]
    generalize recordProductionExposureProgress s.exposures e.clock at_ report = result at answer
    cases answer with
    | refused => exact stays
    | written old records now number =>
      refine ⟨_, change_key (by intro _; rfl) found, ?_⟩
      split
      · rename_i same
        subst same
        have one := records.found
        rw [found] at one
        cases one
        rw [← name] at op records
        exact .recorded report op records now number
      · exact .same
  | finalize at_ eed years frontier authority =>
    have answer := finalize_cases s.exposures e.clock at_ eed years frontier authority
    simp only [step, op]
    generalize finalizeProductionExposure s.exposures e.clock at_ eed years frontier authority = result at answer
    cases answer with
    | refused => exact stays
    | denied => exact stays
    | repeated => exact stays
    | written old admitted finalizes now number =>
      refine ⟨_, change_key (by intro _; rfl) found, ?_⟩
      split
      · rename_i same
        subst same
        have one := finalizes.found
        rw [found] at one
        cases one
        rw [← name] at op finalizes
        exact .finalized eed years frontier authority op finalizes now number
      · exact .same
  | abort at_ state reason authority =>
    have answer := abort_cases s.exposures e.clock at_ state reason authority
    simp only [step, op]
    generalize abortProductionExposure s.exposures e.clock at_ state reason authority = result at answer
    cases answer with
    | refused => exact stays
    | denied => exact stays
    | repeated => exact stays
    | written old admitted aborts now number =>
      refine ⟨_, change_key (by intro _; rfl) found, ?_⟩
      split
      · rename_i same
        subst same
        have one := aborts.found
        rw [found] at one
        cases one
        rw [← name] at op aborts
        exact .aborted state reason authority op aborts now number
      · exact .same
  | recover =>
    simp only [step, op, recoverOpenProductionExposures]
    split
    · exact stays
    · rename_i n leases recovered
      have after : (recoverExpiredLeases s.leases.store e.clock (some e.clock)).2 = leases := by rw [recovered]
      dsimp only
      rw [Table.get?_update, found, Option.map_some]
      refine ⟨_, rfl, ?_⟩
      split
      · rename_i hit
        obtain ⟨state, lost⟩ := Option.isSome_iff_exists.mp hit
        rw [lost]
        obtain ⟨open_, ending, loses⟩ := lostLease_loses (after ▸ lost)
        exact .lost state ending op open_ (recover_timed recovered) loses
      · exact .same
  | lease process op' =>
    simp only [step, op]
    exact stays

/-! ## Accounting never goes back -/

/-- No counter is below the one it replaces. -/
structure Counters.Ahead (old new : Counters) : Prop where
  counts : List.Forall₂ (fun before after => before.2 ≤ after.2) old.counts new.counts
  elapsed : List.Forall₂ (fun before after => after.2.lt before.2 = false) old.elapsed new.elapsed

/-- A report gives a counter below the stored one. -/
def Report.Lowers (r : Report) (c : Counters) : Prop :=
  (∃ p ∈ r.resolved.counts.zip c.counts, ∃ n ∈ p.1, n < p.2.2) ∨ ∃ p ∈ r.resolved.elapsed.zip c.elapsed, ∃ x ∈ p.1, x.lt p.2.2

theorem le_getD_iff (given : Option Int) (old : Int) : old ≤ given.getD old ↔ ∀ n ∈ given, ¬n < old := by
  cases given <;> simp

theorem lt_getD_iff (given : Option PyFloat) (old : PyFloat) :
    (given.getD old).lt old = false ↔ ∀ x ∈ given, ¬x.lt old = true := by
  cases given <;> simp

theorem ahead_self (c : Counters) : c.Ahead c := by
  constructor <;> simp [Counters.counts, Counters.elapsed]

theorem ahead_updated_iff (r : Report) (c : Counters) : c.Ahead (r.updated c) ↔ ¬r.Lowers c := by
  have counts : List.Forall₂ (fun before after => before.2 ≤ after.2) c.counts (r.updated c).counts ↔
      ¬∃ p ∈ r.resolved.counts.zip c.counts, ∃ n ∈ p.1, n < p.2.2 := by
    simp only [Counters.counts, Report.updated, Report.counts, List.forall₂_cons, List.forall₂_nil_left_iff, le_getD_iff,
      List.zip_cons_cons, List.zip_nil_left, List.exists_mem_cons_iff, not_or, not_exists, not_and, List.not_mem_nil,
      false_and, not_false_eq_true, implies_true, and_true]
  have elapsed : List.Forall₂ (fun before after => after.2.lt before.2 = false) c.elapsed (r.updated c).elapsed ↔
      ¬∃ p ∈ r.resolved.elapsed.zip c.elapsed, ∃ x ∈ p.1, x.lt p.2.2 := by
    simp only [Counters.elapsed, Report.updated, Report.elapsed, List.forall₂_cons, List.forall₂_nil_left_iff, lt_getD_iff,
      List.zip_cons_cons, List.zip_nil_left, List.exists_mem_cons_iff, not_or, not_exists, not_and, List.not_mem_nil,
      false_and, not_false_eq_true, implies_true, and_true]
  rw [Report.Lowers, not_or, ← counts, ← elapsed]
  exact ⟨fun ahead => ⟨ahead.counts, ahead.elapsed⟩, fun ahead => ⟨ahead.1, ahead.2⟩⟩

/-- A report is written although it gives a counter below the stored one. -/
def LowersCounter (s : System) (e : ExposureEvent) : Prop :=
  match e.op with
  | .record id report => ∃ row, Records s.exposures id report row ∧ e.clock ≠ .nan ∧ report.Lowers row.counters
  | _ => False

/-- Every exposure keeps its rank and its counters, or moves them forward. -/
def Accounted (r : Step System ExposureEvent Outcome) : Prop :=
  ∀ id row, r.before.exposures.get? id = some row → ∃ row', r.after.exposures.get? id = some row' ∧
    row.state.order ≤ row'.state.order ∧ row.counters.Ahead row'.counters

theorem order_open {state : ExposureState} (open_ : state.terminal = false) : state.order ≤ 2 := by
  cases state <;> simp_all [ExposureState.terminal, ExposureState.order]

theorem accounted_step {leases : WorkLeases.System} (s : System) (e : ExposureEvent) :
    Accounted ((histories leases).take s e) ↔ ¬LowersCounter s e := by
  constructor
  · intro accounted lowers
    unfold LowersCounter at lowers
    split at lowers
    · rename_i id report op
      obtain ⟨row, records, number, low⟩ := lowers
      obtain ⟨row', found', -, ahead⟩ := accounted id row records.found
      have written : ((histories leases).take s e).after.exposures.get? id = some (recorded report e.clock row) := by
        simp only [Machine.take_after, histories, step, op, record_written records (PyFloat.column_of_ne number)]
        rw [change_key (by intro _; rfl) records.found, if_pos rfl]
      rw [written] at found'
      cases found'
      exact (ahead_updated_iff report row.counters).mp ahead low
    · exact lowers
  · intro keeps id row found
    obtain ⟨row', found', change⟩ := row_change s e found
    refine ⟨row', found', ?_⟩
    cases change with
    | same => exact ⟨le_rfl, ahead_self _⟩
    | recorded report op records now number =>
      refine ⟨?_, (ahead_updated_iff report row.counters).mpr fun low => keeps ?_⟩
      · dsimp only
        split
        · exact le_rfl
        · rename_i forward
          exact not_lt.mp forward
      · simp only [LowersCounter, op]
        exact ⟨row, records, fun bad => by simp [bad] at number, low⟩
    | finalized eed years frontier authority op finalizes now number =>
      refine ⟨?_, ?_⟩
      · simp [finalizes.validating, ExposureState.order]
      · constructor <;> simp [Counters.counts, Counters.elapsed, finalizes.forward.1, finalizes.forward.2]
    | aborted state reason authority op aborts now number =>
      refine ⟨?_, ahead_self _⟩
      have low := order_open aborts.open_
      rcases aborts.ending with rfl | rfl <;> exact low.trans (show 2 ≤ 3 by decide)
    | lost state ending op open_ timed loses =>
      refine ⟨?_, ahead_self _⟩
      have low := order_open open_
      rcases ending with rfl | rfl <;> exact low.trans (show 2 ≤ 3 by decide)

/-- A history never lowers a rank or a counter exactly when it writes no report that does. -/
theorem accounting_advances_iff (leases : WorkLeases.System) (es : List ExposureEvent) :
    (∀ r ∈ (histories leases).trace es, Accounted r) ↔ ∀ r ∈ (histories leases).trace es, ¬LowersCounter r.before r.event := by
  refine forall₂_congr fun r member => ?_
  obtain ⟨before, after, -, taken⟩ := Machine.mem_trace _ member
  rw [taken]
  exact accounted_step _ _

def noLeases : WorkLeases.System := (WorkLeases.processes .empty).initial

def opening : Opening where
  sourceKey := "source"
  reservoirId := "reservoir"
  lane := "sequential"
  authority := some ("baseline", "model")
  leaseId := some "lease"
  exposureId := some "exposure"

def draw : Draw := ⟨"fresh", by decide⟩

/-- An exposure under validation, with eight pieces of evidence accepted for two host-years. -/
def validated : List ExposureEvent :=
  [⟨.fin 0, .begin opening draw⟩,
   ⟨.fin 2, .record "exposure" { state := .validating, evidenceFrontier := some 8, acceptedHostYears := some 2 }⟩]

/-- The report of the reader arrives after that of the validator. -/
def lateReport : ExposureEvent :=
  ⟨.fin 3, .record "exposure" { state := .readComplete, sourceRecords := some 3, evidenceFrontier := some 3 }⟩

theorem late_report_lowers : ¬∀ r ∈ (histories noLeases).trace (validated ++ [lateReport]), Accounted r := by
  intro accounted
  rw [Machine.trace_snoc] at accounted
  have last := accounted _ (List.mem_append_right _ (List.mem_singleton_self _))
  have lower : ∃ row ∈ ((histories noLeases).final validated).exposures.rows,
      ∃ row' ∈ ((histories noLeases).final (validated ++ [lateReport])).exposures.rows, row'.exposureId = row.exposureId ∧
        row'.counters.evidenceFrontier < row.counters.evidenceFrontier := by
    decide +kernel
  obtain ⟨row, stored, row', stored', name, low⟩ := lower
  obtain ⟨found, isFound, -, ahead⟩ := last row.exposureId row (Table.get?_mem stored)
  rw [Machine.final_snoc] at stored'
  rw [Machine.take_after, ← name, Table.get?_mem stored'] at isFound
  cases isFound
  have kept := ahead.counts
  simp only [Counters.counts, List.forall₂_cons] at kept
  omega

/-! ## Readable rows -/

/-- What the constructor asks of a row. -/
structure Readable (row : ExposureRow) : Prop where
  named : ∀ text ∈ [row.exposureId, row.identity.sourceKey, row.identity.reservoirId, row.identity.lane,
    row.identity.baselineSignature, row.identity.modelSignature], blank text = false
  owned : ¬(row.identity.leaseId = "" ∧ row.identity.taskId = "")
  counts : ∀ field ∈ row.counters.counts, 0 ≤ field.2
  elapsed : ∀ field ∈ row.counters.elapsed, finiteNonneg field.2
  eed : finiteNonneg row.finalAcceptedEed
  created : finiteNonneg row.createdAt
  updated : finiteNonneg row.updatedAt ∧ row.updatedAt.lt row.createdAt = false
  closed : ∀ t ∈ row.closedAt, t.isFinite ∧ t.lt row.createdAt = false

theorem failing_none {α : Type} {fields : List (String × α)} {bad : α → Bool} {text : String} :
    failing fields bad text = none ↔ ∀ field ∈ fields, bad field.2 = false := by
  simp [failing, List.find?_eq_none]

theorem problem_none (row : ExposureRow) : row.problem = none ↔ Readable row := by
  simp only [ExposureRow.problem, Option.or_eq_none_iff, failing_none, ite_eq_right_iff, reduceCtorEq, imp_false]
  constructor
  · rintro ⟨named, owned, counts, amounts, order, closed⟩
    simp only [List.forall_mem_append, List.forall_mem_cons] at amounts
    refine ⟨by simpa using named, by simpa using owned, by simpa using counts, by simpa using amounts.1, ?_, ?_, ?_, ?_⟩
    · simpa using amounts.2.1
    · simpa using amounts.2.2.1
    · exact ⟨by simpa using amounts.2.2.2.1, by simpa using order⟩
    · intro t member
      rw [Option.mem_def.mp member] at closed
      simpa using closed
  · rintro ⟨named, owned, counts, elapsed, eed, created, updated, closed⟩
    refine ⟨by simpa using named, by simpa using owned, by simpa using counts, ?_, by simpa using updated.2, ?_⟩
    · simp only [List.forall_mem_append, List.forall_mem_cons]
      exact ⟨by simpa using elapsed, by simpa using eed, by simpa using created, by simpa using updated.1, by simp⟩
    · cases at_ : row.closedAt with
      | none => simp
      | some t => simpa [at_] using closed

theorem readable_authority {row : ExposureRow} (readable : Readable row) :
    exposureAuthority (some row.authority) none none = .ok row.authority := by
  have baseline := readable.named row.identity.baselineSignature (by simp)
  have model := readable.named row.identity.modelSignature (by simp)
  simp [exposureAuthority, exposureAuthority.given, ExposureRow.authority, baseline, model]

/-- A reading of the clock that a row can take. -/
def ExposureRow.Dates (row : ExposureRow) (clock : PyFloat) : Prop := clock.isFinite ∧ clock.lt row.createdAt = false

/-- A call writes a row at a reading of the clock that the row cannot take. -/
def Undated (s : System) (e : ExposureEvent) : Prop := ∃ row, Writes s e row ∧ e.clock ≠ .nan ∧ ¬row.Dates e.clock

theorem dates_nonneg {row : ExposureRow} (readable : Readable row) {clock : PyFloat} (dates : row.Dates clock) :
    finiteNonneg clock := by
  obtain ⟨finite, later⟩ := dates
  have created := readable.created
  unfold finiteNonneg at created ⊢
  cases clock with
  | fin t =>
    cases from_ : row.createdAt with
    | fin c =>
      simp only [from_, PyFloat.isFinite, PyFloat.lt_fin, Bool.true_and, Bool.not_eq_true', decide_eq_false_iff_not,
        not_lt] at created later ⊢
      exact created.trans later
    | _ => simp [from_, PyFloat.isFinite] at created
  | _ => simp [PyFloat.isFinite] at finite

section
variable {row : ExposureRow} (readable : Readable row) {now : PyFloat} (dates : row.Dates now)
include readable dates

theorem readable_recorded {report : Report} (sound : report.problem = none) : Readable (recorded report now row) := by
  obtain ⟨-, counts, elapsed⟩ := Report.sound_parts sound
  refine ⟨readable.named, readable.owned, ?_, ?_, readable.eed, readable.created, ⟨dates_nonneg readable dates, dates.2⟩, readable.closed⟩
  · have kept : ∀ (given : Option Int) (old : Int), (∀ m ∈ given, 0 ≤ m) → 0 ≤ old → 0 ≤ given.getD old := by
      intro given old fresh stored
      cases given with
      | none => exact stored
      | some n => exact fresh n rfl
    have stored := readable.counts
    simp only [Report.counts, Counters.counts, List.forall_mem_cons] at counts stored
    simp only [Counters.counts, Report.updated, List.forall_mem_cons, List.not_mem_nil, false_implies, implies_true,
      and_true]
    refine ⟨?_, ?_, ?_, ?_, ?_, ?_, ?_⟩ <;> apply kept <;> tauto
  · have kept : ∀ (given : Option PyFloat) (old : PyFloat), (∀ x ∈ given, finiteNonneg x) → finiteNonneg old →
        finiteNonneg (given.getD old) := by
      intro given old fresh stored
      cases given with
      | none => exact stored
      | some n => exact fresh n rfl
    have stored := readable.elapsed
    simp only [Report.elapsed, Counters.elapsed, List.forall_mem_cons] at elapsed stored
    simp only [Counters.elapsed, Report.updated, List.forall_mem_cons, List.not_mem_nil, false_implies, implies_true,
      and_true]
    refine ⟨?_, ?_⟩ <;> apply kept <;> tauto

theorem readable_finalized {eed : PyFloat} {years frontier : Int} (finite : finiteNonneg eed) (counts : 0 ≤ years ∧ 0 ≤ frontier) :
    Readable (finalized eed years frontier now row) := by
  refine ⟨readable.named, readable.owned, ?_, readable.elapsed, finite, readable.created,
    ⟨dates_nonneg readable dates, dates.2⟩, ?_⟩
  · have stored := readable.counts
    simp only [Counters.counts, List.forall_mem_cons] at stored
    simp only [Counters.counts, List.forall_mem_cons]
    exact ⟨stored.1, stored.2.1, stored.2.2.1, stored.2.2.2.1, stored.2.2.2.2.1, counts.2, counts.1, stored.2.2.2.2.2.2.2⟩
  · rintro t ⟨⟩
    exact dates

theorem readable_aborted (state : ExposureState) (reason : String) : Readable (aborted state reason now row) := by
  refine ⟨readable.named, readable.owned, readable.counts, readable.elapsed, readable.eed, readable.created,
    ⟨dates_nonneg readable dates, dates.2⟩, ?_⟩
  rintro t ⟨⟩
  exact dates

end

theorem readable_change {s : System} {e : ExposureEvent} {row row' : ExposureRow} (stored : row ∈ s.exposures.rows)
    (readable : Readable row) (dated : ¬Undated s e) (change : RowChange s e row row') : Readable row' := by
  have clock : ∀ now, e.clock.column = some now → Writes s e row → row.Dates now := by
    intro now number writes
    have isNow : e.clock = now := by
      cases reading : e.clock <;> simp_all [PyFloat.column]
    by_contra undated
    refine dated ⟨row, writes, ?_, isNow ▸ undated⟩
    intro bad
    rw [bad] at number
    cases number
  cases change with
  | same => exact readable
  | recorded report op records now number =>
    exact readable_recorded readable (clock now number (.record _ report op records)) records.sound
  | finalized eed years frontier authority op finalizes now number =>
    exact readable_finalized readable (clock now number (.finalize _ _ _ _ _ op finalizes)) finalizes.finite finalizes.counts
  | aborted state reason authority op aborts now number =>
    exact readable_aborted readable (clock now number (.abort _ _ _ _ op aborts)) state reason
  | lost state ending op open_ timed loses =>
    have number : e.clock.column = some e.clock := by
      refine PyFloat.column_of_ne fun bad => ?_
      simp [bad, finiteNonneg, PyFloat.isFinite] at timed
    exact readable_aborted readable (clock _ number (.recover op stored open_ timed loses)) state _

theorem authority_named {authority : Option (String × String)} {b' m' : Option String} {b m : String}
    (checked : exposureAuthority authority b' m' = .ok (b, m)) : blank b = false ∧ blank m = false := by
  have given : ∀ x y, exposureAuthority.given x y = .ok (b, m) → blank b = false ∧ blank m = false := by
    intro x y found
    unfold exposureAuthority.given at found
    split at found
    · cases found
    · rename_i named
      cases found
      simpa using named
  unfold exposureAuthority at checked
  split at checked
  · exact given _ _ checked
  · split at checked
    · cases checked
    · exact given _ _ checked
  · exact given _ _ checked
  · cases checked
  · cases checked

theorem readable_opened {o : Opening} {identity : Identity} (checked : o.checked = .ok identity) (fresh : Draw) {clock : PyFloat}
    (timed : finiteNonneg clock) : Readable (openedRow (o.exposureId.getD fresh.id) identity clock) := by
  unfold Opening.checked at checked
  split at checked
  · cases checked
  rename_i named
  split at checked
  · cases checked
  rename_i baseline model authority
  obtain ⟨isBaseline, isModel⟩ := authority_named authority
  split at checked
  · cases checked
  split at checked
  · cases checked
  rename_i id
  split at checked
  · cases checked
  rename_i owned
  cases checked
  have idNamed : blank (o.exposureId.getD fresh.id) = false := by
    cases given : o.exposureId with
    | none => exact fresh.named
    | some text => simpa [given] using id
  have named := failing_none.mp named
  simp only [List.forall_mem_cons] at named
  have finite : clock.isFinite := by
    unfold finiteNonneg at timed
    simp only [Bool.and_eq_true] at timed
    exact timed.1
  refine ⟨?_, by simpa [openedRow] using owned, ?_, ?_, rfl, timed, ⟨timed, PyFloat.lt_self _⟩, ?_⟩
  · simp [openedRow, idNamed, named.1, named.2.1, named.2.2.1, isBaseline, isModel]
  · show ∀ field ∈ Counters.zero.counts, 0 ≤ field.2
    decide
  · show ∀ field ∈ Counters.zero.elapsed, finiteNonneg field.2
    decide +kernel
  · rintro t ⟨⟩

theorem row_origin (s : System) (e : ExposureEvent) {id : String} {row' : ExposureRow}
    (found' : (step s e).2.exposures.get? id = some row') :
    (∃ row, s.exposures.get? id = some row ∧ RowChange s e row row') ∨
      ∃ o fresh identity, e.op = .begin o fresh ∧ o.checked = .ok identity ∧ finiteNonneg e.clock ∧
        row' = openedRow (o.exposureId.getD fresh.id) identity e.clock := by
  cases found : s.exposures.get? id with
  | some row =>
    obtain ⟨after, isAfter, change⟩ := row_change s e found
    rw [found'] at isAfter
    cases isAfter
    exact .inl ⟨row, rfl, change⟩
  | none =>
    have gone : s.exposures.get? id ≠ some row' := by
      rw [found]
      rintro ⟨⟩
    cases op : e.op with
    | begin o fresh =>
      have answer := begin_cases s.exposures e.clock o fresh
      simp only [step, op] at found'
      generalize beginProductionExposure s.exposures e.clock o fresh = result at answer found'
      cases answer with
      | refused => exact absurd found' gone
      | kept => exact absurd found' gone
      | opened identity checked timed unused new =>
        dsimp only at found'
        rw [Table.get?_insert unused] at found'
        split at found'
        · cases found'
          exact .inr ⟨o, fresh, identity, rfl, checked, timed, rfl⟩
        · exact absurd found' gone
    | record at_ report =>
      have answer := record_cases s.exposures e.clock at_ report
      simp only [step, op] at found'
      generalize recordProductionExposureProgress s.exposures e.clock at_ report = result at answer found'
      cases answer with
      | refused => exact absurd found' gone
      | written =>
        rw [Table.get?_update, found] at found'
        cases found'
    | finalize at_ eed years frontier authority =>
      have answer := finalize_cases s.exposures e.clock at_ eed years frontier authority
      simp only [step, op] at found'
      generalize finalizeProductionExposure s.exposures e.clock at_ eed years frontier authority = result at answer found'
      cases answer with
      | written =>
        rw [Table.get?_update, found] at found'
        cases found'
      | _ => exact absurd found' gone
    | abort at_ state reason authority =>
      have answer := abort_cases s.exposures e.clock at_ state reason authority
      simp only [step, op] at found'
      generalize abortProductionExposure s.exposures e.clock at_ state reason authority = result at answer found'
      cases answer with
      | written =>
        rw [Table.get?_update, found] at found'
        cases found'
      | _ => exact absurd found' gone
    | recover =>
      simp only [step, op, recoverOpenProductionExposures] at found'
      split at found'
      · exact absurd found' gone
      · rw [Table.get?_update, found] at found'
        cases found'
    | lease process op' =>
      simp only [step, op] at found'
      exact absurd found' gone

/-- Every row can be read back. -/
def Inv (s : System) : Prop := ∀ row ∈ s.exposures.rows, Readable row

theorem inv_step {s : System} (inv : Inv s) {e : ExposureEvent} (dated : ¬Undated s e) : Inv (step s e).2 := by
  intro row' stored'
  rcases row_origin s e (Table.get?_mem stored') with ⟨row, found, change⟩ | ⟨o, fresh, identity, -, checked, timed, rfl⟩
  · have stored := Table.mem_of_get? found
    exact readable_change stored (inv row stored) dated change
  · exact readable_opened checked fresh timed

/-! ## Terminal exposures -/

/-- The answer that an event gets after a history. -/
def answerTo (leases : WorkLeases.System) (es : List ExposureEvent) (e : ExposureEvent) : Outcome :=
  (step ((histories leases).final es) e).1

/-- The exposure that a finalization or an abort names. -/
def ExposureOp.closing (op : ExposureOp) : Option String :=
  match op with
  | .finalize id .. | .abort id .. => some id
  | _ => none

/-- A row is closed the way a request asks for. -/
def ClosedAs (row : ExposureRow) (op : ExposureOp) : Prop :=
  match op with
  | .finalize _ eed years frontier authority => authority = row.authority ∧ row.state = .finalClosed ∧
      row.finalAcceptedEed = eed ∧ row.counters.acceptedHostYears = years ∧ row.counters.evidenceFrontier = frontier
  | .abort _ state reason authority => (∀ pair ∈ authority, pair = row.authority) ∧ row.state = state ∧
      row.terminalReason = some reason
  | _ => False

structure TerminalSafe (leases : WorkLeases.System) (es : List ExposureEvent) : Prop where
  /-- A terminal row stays as it is. -/
  frozen : ∀ before after, es = before ++ after → ∀ id row, ((histories leases).final before).exposures.get? id = some row →
    row.state.terminal → ((histories leases).final es).exposures.get? id = some row
  /-- FINAL_CLOSED is entered by a finalization under the row's own authority, from VALIDATING. -/
  entered : ∀ r ∈ (histories leases).trace es, ∀ id row', r.after.exposures.get? id = some row' → row'.state = .finalClosed →
    r.before.exposures.get? id = some row' ∨ ∃ row eed, r.before.exposures.get? id = some row ∧ row.state = .validating ∧
      r.event.op = .finalize id eed row'.counters.acceptedHostYears row'.counters.evidenceFrontier row.authority ∧
      row.counters.evidenceFrontier ≤ row'.counters.evidenceFrontier ∧
      row.counters.acceptedHostYears ≤ row'.counters.acceptedHostYears
  /-- The same finalization or abort is granted again. -/
  repeated : ∀ before e middle e' after, es = before ++ e :: middle ++ e' :: after → e.op.closing.isSome → e'.op = e.op →
    answerTo leases before e = .ok (.closed true) → answerTo leases (before ++ e :: middle) e' = .ok (.closed true)
  /-- Another request on a terminal row is refused. -/
  others : ∀ r ∈ (histories leases).trace es, ∀ id, r.event.op.closing = some id → ∀ row, r.before.exposures.get? id = some row →
    row.state.terminal → ¬ClosedAs row r.event.op → r.outcome ≠ .ok (.closed true)
  /-- A call that raises leaves every row. -/
  raises : ∀ r ∈ (histories leases).trace es, ∀ err, r.outcome = .error err → r.after.exposures = r.before.exposures
  /-- An identity has one exposure. -/
  begun : ∀ before e middle e' after, es = before ++ e :: middle ++ e' :: after → ∀ o fresh o' fresh' identity,
    e.op = .begin o fresh → e'.op = .begin o' fresh' → o.checked = .ok identity → o'.checked = .ok identity →
    finiteNonneg e'.clock → ∀ exposure, answerTo leases before e = .ok (.exposure exposure) →
    ∃ exposure', answerTo leases (before ++ e :: middle) e' = .ok (.exposure exposure') ∧
      exposure'.exposureId = exposure.exposureId

theorem frozen_step {s : System} {id : String} {row : ExposureRow} (found : s.exposures.get? id = some row)
    (ended : row.state.terminal) (e : ExposureEvent) : (step s e).2.exposures.get? id = some row := by
  obtain ⟨row', found', change⟩ := row_change s e found
  cases change with
  | same => exact found'
  | recorded report op records => exact absurd ended (by simp [records.open_])
  | finalized eed years frontier authority op finalizes =>
    exact absurd ended (by simp [finalizes.validating, ExposureState.terminal])
  | aborted state reason authority op aborts => exact absurd ended (by simp [aborts.open_])
  | lost state ending op open_ => exact absurd ended (by simp [open_])

theorem entered_step {s : System} {e : ExposureEvent} {id : String} {row' : ExposureRow}
    (found' : (step s e).2.exposures.get? id = some row') (closed : row'.state = .finalClosed) :
    s.exposures.get? id = some row' ∨ ∃ row eed, s.exposures.get? id = some row ∧ row.state = .validating ∧
      e.op = .finalize id eed row'.counters.acceptedHostYears row'.counters.evidenceFrontier row.authority ∧
      row.counters.evidenceFrontier ≤ row'.counters.evidenceFrontier ∧
      row.counters.acceptedHostYears ≤ row'.counters.acceptedHostYears := by
  rcases row_origin s e found' with ⟨row, found, change⟩ | ⟨o, fresh, identity, -, -, -, rfl⟩
  · have name : row.exposureId = id := Table.get?_key found
    cases change with
    | same => exact .inl found
    | recorded report op records =>
      dsimp only at closed
      have ended : ExposureState.terminal .finalClosed = true := rfl
      split at closed
      · rw [← closed, records.open_] at ended
        cases ended
      · rw [← closed, (Report.sound_parts records.sound).1] at ended
        cases ended
    | finalized eed years frontier authority op finalizes =>
      refine .inr ⟨row, eed, found, finalizes.validating, ?_, finalizes.forward.2, finalizes.forward.1⟩
      rw [op, name, finalizes.own]
    | aborted state reason authority op aborts =>
      cases closed
      rcases aborts.ending with bad | bad <;> cases bad
    | lost state ending =>
      cases closed
      rcases ending with bad | bad <;> cases bad
  · cases closed

/-- The arguments of a request to close pass their checks. -/
def ExposureOp.Admitted (op : ExposureOp) : Prop :=
  match op with
  | .finalize _ eed years frontier authority => FinalAdmitted eed years frontier authority
  | .abort _ state reason authority => AbortAdmitted state reason authority
  | _ => False

theorem granted_closed {s : System} {e : ExposureEvent} {id : String} (closing : e.op.closing = some id)
    (granted : (step s e).1 = .ok (.closed true)) :
    ∃ row, (step s e).2.exposures.get? id = some row ∧ row.state.terminal ∧ ClosedAs row e.op ∧ e.op.Admitted := by
  cases op : e.op with
  | finalize at_ eed years frontier authority =>
    rw [op] at closing
    cases closing
    have answer := finalize_cases s.exposures e.clock id eed years frontier authority
    simp only [step, op] at granted ⊢
    generalize finalizeProductionExposure s.exposures e.clock id eed years frontier authority = result at answer granted ⊢
    cases answer with
    | refused => cases granted
    | denied => cases granted
    | repeated row admitted found own closed same =>
      exact ⟨row, found, by rw [closed]; rfl, ⟨own, closed, same⟩, admitted⟩
    | written row admitted finalizes now number =>
      refine ⟨finalized eed years frontier now row, ?_, rfl, ⟨finalizes.own, rfl, rfl, rfl, rfl⟩, admitted⟩
      dsimp only
      rw [change_key (by intro _; rfl) finalizes.found, if_pos rfl]
  | abort at_ state reason authority =>
    rw [op] at closing
    cases closing
    have answer := abort_cases s.exposures e.clock id state reason authority
    simp only [step, op] at granted ⊢
    generalize abortProductionExposure s.exposures e.clock id state reason authority = result at answer granted ⊢
    cases answer with
    | refused => cases granted
    | denied => cases granted
    | repeated row admitted found own closed ended => exact ⟨row, found, ended, ⟨own, closed⟩, admitted⟩
    | written row admitted aborts now number =>
      refine ⟨aborted state reason now row, ?_, ?_, ⟨aborts.own, rfl, rfl⟩, admitted⟩
      · dsimp only
        rw [change_key (by intro _; rfl) aborts.found, if_pos rfl]
      · rcases aborts.ending with rfl | rfl <;> rfl
  | _ =>
    rw [op] at closing
    cases closing

theorem closed_granted {s : System} (inv : Inv s) {e : ExposureEvent} {id : String} (closing : e.op.closing = some id)
    (admitted : e.op.Admitted) {row : ExposureRow} (found : s.exposures.get? id = some row) (ended : row.state.terminal)
    (closed : ClosedAs row e.op) : (step s e).1 = .ok (.closed true) := by
  have readable : row.problem = none := (problem_none row).mpr (inv row (Table.mem_of_get? found))
  cases op : e.op with
  | finalize at_ eed years frontier authority =>
    rw [op] at closing admitted closed
    cases closing
    obtain ⟨finite, ⟨isYears, isFrontier⟩, asked⟩ := admitted
    obtain ⟨own, state, same⟩ := closed
    have counts : ¬(years < 0 ∨ frontier < 0) := by omega
    subst own
    simp [step, op, finalizeProductionExposure, finite, counts, asked, found, fromRow_of readable, state, same]
  | abort at_ state reason authority =>
    rw [op] at closing admitted closed
    cases closing
    obtain ⟨ending, named, asked⟩ := admitted
    obtain ⟨own, state, same⟩ := closed
    have mine : authority.any (· ≠ row.authority) = false := by
      cases authority with
      | none => rfl
      | some pair => simpa using own pair rfl
    subst state
    have ending : ([.aborted, .expired] : List ExposureState).contains row.state = true := by
      rcases ending with state | state <;> rw [state] <;> decide
    simp only [step, op, abortProductionExposure, ending, named, asked, found, fromRow_of readable, mine, ended, same, Bool.not_true,
      Bool.false_eq_true, if_false, if_true, decide_true, Bool.and_self]
    rfl
  | _ =>
    rw [op] at closing
    cases closing

theorem other_refused {s : System} {e : ExposureEvent} {id : String} (closing : e.op.closing = some id) {row : ExposureRow}
    (found : s.exposures.get? id = some row) (ended : row.state.terminal) (other : ¬ClosedAs row e.op) :
    (step s e).1 ≠ .ok (.closed true) := by
  intro granted
  obtain ⟨row', found', -, closed, -⟩ := granted_closed closing granted
  rw [frozen_step found ended e] at found'
  cases found'
  exact other closed

theorem raises_step {s : System} (inv : Inv s) {e : ExposureEvent} (dated : ¬Undated s e) {err : PyError}
    (raised : (step s e).1 = .error err) : (step s e).2.exposures = s.exposures := by
  cases op : e.op with
  | begin o fresh =>
    have answer := begin_cases s.exposures e.clock o fresh
    simp only [step, op] at raised ⊢
    generalize beginProductionExposure s.exposures e.clock o fresh = result at answer raised ⊢
    cases answer with
    | refused => rfl
    | kept => rfl
    | opened identity checked timed unused new =>
      have readable := (problem_none _).mpr (readable_opened checked fresh timed)
      dsimp only at raised
      rw [fromRow_of readable] at raised
      cases raised
  | record id report =>
    have answer := record_cases s.exposures e.clock id report
    simp only [step, op] at raised ⊢
    generalize recordProductionExposureProgress s.exposures e.clock id report = result at answer raised ⊢
    cases answer with
    | refused => rfl
    | written row records now number =>
      have stored := Table.mem_of_get? records.found
      have name := Table.get?_key records.found
      rw [← name] at op records
      have readable := (problem_none _).mpr
        (readable_change stored (inv row stored) dated (.recorded report op records now number))
      dsimp only at raised
      rw [fromRow_of readable] at raised
      cases raised
  | finalize id eed years frontier authority =>
    have answer := finalize_cases s.exposures e.clock id eed years frontier authority
    simp only [step, op] at raised ⊢
    generalize finalizeProductionExposure s.exposures e.clock id eed years frontier authority = result at answer raised ⊢
    cases answer with
    | written => cases raised
    | _ => rfl
  | abort id state reason authority =>
    have answer := abort_cases s.exposures e.clock id state reason authority
    simp only [step, op] at raised ⊢
    generalize abortProductionExposure s.exposures e.clock id state reason authority = result at answer raised ⊢
    cases answer with
    | written => cases raised
    | _ => rfl
  | recover =>
    simp only [step, op, recoverOpenProductionExposures] at raised ⊢
    split
    · rfl
    · rename_i recovered
      rw [recovered] at raised
      cases raised
  | lease process op' => simp only [step, op]

def owner (s : System) (identity : Identity) : Option String :=
  (s.exposures.rows.find? (·.identity = identity)).map (·.exposureId)

theorem rows_step (s : System) (e : ExposureEvent) : ∃ (set : ExposureRow → ExposureRow) (new : List ExposureRow),
    (∀ row, (set row).identity = row.identity ∧ (set row).exposureId = row.exposureId) ∧
      (step s e).2.exposures.rows = s.exposures.rows.map set ++ new := by
  have same : ∃ (set : ExposureRow → ExposureRow) (new : List ExposureRow),
      (∀ row, (set row).identity = row.identity ∧ (set row).exposureId = row.exposureId) ∧
        s.exposures.rows = s.exposures.rows.map set ++ new := ⟨id, [], fun _ => ⟨rfl, rfl⟩, by simp⟩
  have rewritten : ∀ (where_ : ExposureRow → Bool) (set : ExposureRow → ExposureRow),
      (∀ row, (set row).identity = row.identity ∧ (set row).exposureId = row.exposureId) →
      ∃ (set' : ExposureRow → ExposureRow) (new : List ExposureRow),
        (∀ row, (set' row).identity = row.identity ∧ (set' row).exposureId = row.exposureId) ∧
        s.exposures.rows.map (fun row => if where_ row then set row else row) = s.exposures.rows.map set' ++ new := by
    intro where_ set keeps
    refine ⟨fun row => if where_ row then set row else row, [], fun row => ?_, by simp⟩
    dsimp only
    split
    · exact keeps row
    · exact ⟨rfl, rfl⟩
  cases op : e.op with
  | begin o fresh =>
    have answer := begin_cases s.exposures e.clock o fresh
    simp only [step, op]
    generalize beginProductionExposure s.exposures e.clock o fresh = result at answer
    cases answer with
    | opened identity checked timed unused new => exact ⟨id, [_], fun _ => ⟨rfl, rfl⟩, by rw [Table.rows_insert unused, List.map_id]⟩
    | _ => exact same
  | record id report =>
    have answer := record_cases s.exposures e.clock id report
    simp only [step, op]
    generalize recordProductionExposureProgress s.exposures e.clock id report = result at answer
    cases answer with
    | refused => exact same
    | written => exact rewritten _ _ fun _ => ⟨rfl, rfl⟩
  | finalize id eed years frontier authority =>
    have answer := finalize_cases s.exposures e.clock id eed years frontier authority
    simp only [step, op]
    generalize finalizeProductionExposure s.exposures e.clock id eed years frontier authority = result at answer
    cases answer with
    | written => exact rewritten _ _ fun _ => ⟨rfl, rfl⟩
    | _ => exact same
  | abort id state reason authority =>
    have answer := abort_cases s.exposures e.clock id state reason authority
    simp only [step, op]
    generalize abortProductionExposure s.exposures e.clock id state reason authority = result at answer
    cases answer with
    | written => exact rewritten _ _ fun _ => ⟨rfl, rfl⟩
    | _ => exact same
  | recover =>
    simp only [step, op, recoverOpenProductionExposures]
    split
    · exact same
    · rename_i leases recovered
      refine rewritten _ _ fun row => ?_
      cases lostLease leases row <;> exact ⟨rfl, rfl⟩
  | lease process op' =>
    simp only [step, op]
    exact same

theorem owner_step {s : System} {identity : Identity} {id : String} (owned : owner s identity = some id) (e : ExposureEvent) :
    owner (step s e).2 identity = some id := by
  obtain ⟨set, new, keeps, rows⟩ := rows_step s e
  obtain ⟨row, found, name⟩ := Option.map_eq_some_iff.mp owned
  have same : ((fun r : ExposureRow => decide (r.identity = identity)) ∘ set) = fun r => decide (r.identity = identity) := by
    funext r
    simp [(keeps r).1]
  rw [owner, rows, List.find?_append, List.find?_map, same, found]
  simp [(keeps row).2, name]

theorem begin_owner {s : System} {e : ExposureEvent} {o : Opening} {fresh : Draw} (op : e.op = .begin o fresh)
    {identity : Identity} (checked : o.checked = .ok identity) {exposure : ProductionExposure}
    (begun : (step s e).1 = .ok (.exposure exposure)) : owner (step s e).2 identity = some exposure.exposureId := by
  have answer := begin_cases s.exposures e.clock o fresh
  simp only [step, op] at begun ⊢
  generalize beginProductionExposure s.exposures e.clock o fresh = result at answer begun ⊢
  cases answer with
  | refused => cases begun
  | kept identity' checked' stored found =>
    rw [checked] at checked'
    cases checked'
    dsimp only at begun
    cases read : fromRow stored with
    | error err =>
      rw [read] at begun
      cases begun
    | ok e' =>
      rw [read] at begun
      cases begun
      rw [owner, found, ← (fromRow_ok read).1]
      rfl
  | opened identity' checked' timed unused new =>
    rw [checked] at checked'
    cases checked'
    dsimp only at begun
    cases read : fromRow (openedRow (o.exposureId.getD fresh.id) identity e.clock) with
    | error err =>
      rw [read] at begun
      cases begun
    | ok e' =>
      rw [read] at begun
      cases begun
      rw [owner, Table.rows_insert unused, List.find?_append, new, (fromRow_ok read).1]
      simp [openedRow]

theorem owner_begins {s : System} (inv : Inv s) {e : ExposureEvent} {o : Opening} {fresh : Draw} (op : e.op = .begin o fresh)
    {identity : Identity} (checked : o.checked = .ok identity) (timed : finiteNonneg e.clock) {id : String}
    (owned : owner s identity = some id) :
    ∃ exposure, (step s e).1 = .ok (.exposure exposure) ∧ exposure.exposureId = id := by
  obtain ⟨row, found, name⟩ := Option.map_eq_some_iff.mp owned
  have readable : row.problem = none := (problem_none row).mpr (inv row (List.mem_of_find?_eq_some found))
  have present : s.exposures.rows.any (·.identity = identity) = true :=
    List.any_eq_true.mpr ⟨row, List.mem_of_find?_eq_some found, by simpa using List.find?_some found⟩
  refine ⟨⟨row, readable⟩, ?_, name⟩
  simp only [step, op, beginProductionExposure, checked, timed, present, Bool.not_true, Bool.false_eq_true, if_false, Bool.or_true,
    if_true, found, fromRow_of readable]
  rfl

section
variable {leases : WorkLeases.System} {es : List ExposureEvent}

theorem inv_run (dated : ∀ r ∈ (histories leases).trace es, ¬Undated r.before r.event) : Inv ((histories leases).final es) := by
  induction es using List.reverseRecOn with
  | nil =>
    intro row member
    simp [histories] at member
  | append_singleton es e ih =>
    rw [Machine.trace_snoc] at dated
    rw [Machine.final_snoc]
    exact inv_step (ih fun r member => dated r (List.mem_append_left _ member))
      (dated _ (List.mem_append_right _ (List.mem_singleton_self _)))

/-- In a history that never dates a row before its creation or at no time, terminal exposures are
    immutable and closed under their own authority, and calls that raise change nothing. -/
theorem terminal_safe (dated : ∀ r ∈ (histories leases).trace es, ¬Undated r.before r.event) : TerminalSafe leases es := by
  have inv : ∀ before after, es = before ++ after → Inv ((histories leases).final before) := by
    rintro before after rfl
    refine inv_run fun r member => dated r ?_
    rw [Machine.trace_append]
    exact List.mem_append_left _ member
  have later : ∀ {I : System → Prop}, (∀ s e, I s → I (step s e).2) → ∀ first rest,
      I ((histories leases).final first) → I ((histories leases).final (first ++ rest)) := by
    intro I kept first rest holds
    rw [Machine.final_append]
    exact Machine.invariant_from _ kept holds rest
  refine ⟨?_, ?_, ?_, ?_, ?_, ?_⟩
  · rintro before after rfl id row found ended
    exact later (I := fun s => s.exposures.get? id = some row) (fun s e found => frozen_step found ended e) before after found
  · intro r member id row' found' closed
    obtain ⟨before, after, -, taken⟩ := Machine.mem_trace _ member
    rw [taken] at found' ⊢
    exact entered_step found' closed
  · intro before e middle e' after split closing same granted
    obtain ⟨id, closing⟩ := Option.isSome_iff_exists.mp closing
    obtain ⟨row, found, ended, closed, admitted⟩ := granted_closed closing granted
    have reached : ((histories leases).final (before ++ [e])).exposures.get? id = some row := by
      rw [Machine.final_snoc]
      exact found
    have stays := later (I := fun s => s.exposures.get? id = some row) (fun s e found => frozen_step found ended e) _ middle reached
    rw [List.append_assoc] at stays
    rw [← same] at closing closed admitted
    exact closed_granted (inv _ _ split) closing admitted stays ended closed
  · intro r member id closing row found ended other
    obtain ⟨before, after, -, taken⟩ := Machine.mem_trace _ member
    rw [taken] at found closing other ⊢
    exact other_refused closing found ended other
  · intro r member err raised
    have calm := dated r member
    obtain ⟨before, after, split, taken⟩ := Machine.mem_trace _ member
    rw [taken] at raised calm ⊢
    exact raises_step (inv before _ split) calm raised
  · intro before e middle e' after split o fresh o' fresh' identity op op' checked checked' timed exposure begun
    have reached : owner ((histories leases).final (before ++ [e])) identity = some exposure.exposureId := by
      rw [Machine.final_snoc]
      exact begin_owner op checked begun
    have stays := later (I := fun s => owner s identity = some exposure.exposureId)
      (fun s e owned => owner_step owned e) _ middle reached
    rw [List.append_assoc] at stays
    exact owner_begins (inv _ _ split) op' checked' timed stays

end

theorem writes_stored {s : System} {e : ExposureEvent} {row : ExposureRow} (writes : Writes s e row) : row ∈ s.exposures.rows := by
  cases writes with
  | record id report op records => exact Table.mem_of_get? records.found
  | finalize id eed years frontier authority op finalizes => exact Table.mem_of_get? finalizes.found
  | abort id state reason authority op aborts => exact Table.mem_of_get? aborts.found
  | recover op stored => exact stored

theorem not_undated {s : System} {e : ExposureEvent} (dates : ∀ row ∈ s.exposures.rows, row.Dates e.clock) : ¬Undated s e := by
  rintro ⟨row, writes, -, undated⟩
  exact undated (dates row (writes_stored writes))

instance (row : ExposureRow) (clock : PyFloat) : Decidable (row.Dates clock) := by unfold ExposureRow.Dates; infer_instance

def closedHistory : List ExposureEvent := validated ++ [⟨.fin 4, .finalize "exposure" (.fin 1) 2 8 ("baseline", "model")⟩]

theorem closedHistory_safe : TerminalSafe noLeases closedHistory := by
  have dates : ∀ r ∈ (histories noLeases).trace closedHistory, ∀ row ∈ r.before.exposures.rows, row.Dates r.event.clock := by
    decide +kernel
  exact terminal_safe fun r member => not_undated (dates r member)

/-- The clock is set back between the opening of an exposure and a report. -/
def setBack : List ExposureEvent := [⟨.fin 5, .begin opening draw⟩, ⟨.fin 3, .record "exposure" { state := .validating }⟩]

theorem set_back_raises : ¬TerminalSafe noLeases setBack := by
  intro safe
  have raised : ∃ r ∈ (histories noLeases).trace setBack, r.outcome.toBool = false ∧ r.after.exposures ≠ r.before.exposures := by
    decide +kernel
  obtain ⟨r, member, failed, moved⟩ := raised
  cases answer : r.outcome with
  | error err => exact moved (safe.raises r member err answer)
  | ok reply => simp [answer, Except.toBool] at failed

end Creeper.ProductionExposures
