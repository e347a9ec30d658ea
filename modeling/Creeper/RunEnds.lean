import Creeper.Runs
import Creeper.SourceRuns

/-!
# The ends of a source run

`close_source_run`, `abort_source_run`, `recover_source_runs`, `record_source_run_validation` and
`record_source_run_read` of `source_discovery/registry.py` on one run, transaction by transaction.
The row of the run and its production exposure are written one after the other.
-/

namespace Creeper.RunEnds
open Creeper.Runs Creeper.Tables Creeper.PyNumbers Creeper.SourceRuns
open Creeper.FabricModels (PyError blank)
open Creeper.ProductionExposures (ExposureState ExposureRow Exposures Report Opening Draw fromRow row_change frozen_step)

/-! ## Processes -/

/-- What a process goes on with after its last transaction or read. -/
inductive Phase
  | idle
  /-- A report on the run is stored, and the one on its exposure is next. -/
  | reporting (exposureId : String) (report : Report)
  /-- `close_source_run` has read the run. -/
  | finalizing (exposureId : String) (v : Validation)
  /-- Its exposure is final. -/
  | closing (v : Validation)
  /-- `abort_source_run` has read the run. -/
  | aborting (exposureId : String) (state : ExposureState) (reason : String)
  /-- Its exposure was asked to end. -/
  | marking (state : ExposureState) (reason : String)
  /-- `recover_source_runs` has recovered the exposures. -/
  | recovering
  /-- It has found the run with a lost lease. -/
  | recovered (state : ExposureState)

structure State (Process : Type) where
  exposures : ProductionExposures.System
  runs : Runs
  phase : Process → Phase

inductive Call
  | recordSourceRunRead (now : ℚ) (counters : ReadCounters) (readFinished : Option ℚ) (readComplete : Bool)
  | recordSourceRunValidation (v : Validation)
  /-- `otherAuthority` is what the read of the scout authority finds. -/
  | closeSourceRun (otherAuthority : Bool)
  | abortSourceRun (state : ExposureState) (reason : String)
  | recoverSourceRuns

inductive Event (Process : Type)
  | beginExposure (clock : PyFloat) (opening : Opening) (fresh : Draw)
  /-- The end of `begin_source_run` and of `begin_source_run_for_exposure`. -/
  | register (exposureId : String) (readStarted : Option ℚ)
  | lease (clock : PyFloat) (process : String) (op : WorkLeases.LeaseOp)
  | call (p : Process) (clock : PyFloat) (c : Call)
  /-- The next transaction of a process; `platform` is what `publish_platform_year_final` answers. -/
  | next (p : Process) (clock : PyFloat) (platform : Except PyError Bool)
  | crash (p : Process)

/-- The end of a call, if this was it. -/
abbrev Outcome := Option (Except PyError Unit)

/-- What `record_source_run_read` reports on the exposure. -/
def readReport (counters : ReadCounters) (readComplete : Bool) : Report where
  state := if readComplete then .readComplete else .running
  sourceRecords := some counters.sourceRecords
  sourceBytes := some counters.bytesRead
  sourceRequests := some counters.sourceRequests

/-- What `record_source_run_validation` reports on the exposure. -/
def validationReport (v : Validation) : Report where
  state := .validating
  providerRequests := some v.providerRequests
  providerElapsedSeconds := some (.fin v.providerElapsedSeconds)
  acceptedHostYears := some v.acceptedHostYears
  evidenceFrontier := some v.maxEvidenceSequence

/-- The reason that `recover_source_runs` gives. -/
def recoveredReason (state : ExposureState) : String :=
  "recovered source run after lease " ++ if state = .expired then "expired" else "aborted"

variable {Process : Type} [DecidableEq Process]

def State.goOn (s : State Process) (p : Process) (phase : Phase) : Outcome × State Process :=
  (none, { s with phase := Function.update s.phase p phase })

def State.end (s : State Process) (p : Process) (answer : Except PyError Unit) : Outcome × State Process :=
  (some answer, { s with phase := Function.update s.phase p .idle })

def State.withExposures (s : State Process) (exposures : Exposures) : State Process :=
  { s with exposures := { s.exposures with exposures } }

section
variable (key : RunKey)

/-- A report on the run is stored; the exposure is next. -/
def State.report (s : State Process) (p : Process) (answer : Except PyError Unit × Runs) (report : Report) :
    Outcome × State Process :=
  match answer with
  | (.error err, _) => s.end p (.error err)
  | (.ok _, runs) =>
    match (runs.get? key).bind (·.exposureId) with
    | none => State.end { s with runs } p (.ok ())
    | some exposureId => State.goOn { s with runs } p (.reporting exposureId report)

/-- The read of the run in `close_source_run`. -/
def State.readToClose (s : State Process) (p : Process) : Outcome × State Process :=
  match s.runs.get? key with
  | none => s.end p (.error (.keyError "unknown source run"))
  | some run =>
    if run.terminalState.any (· ≠ .finalClosed) then s.end p (.ok ())
    else
      match run.exposureId with
      | none => s.goOn p (.closing run.validation)
      | some exposureId =>
        if !run.readComplete || !run.validation.complete then s.end p (.ok ())
        else if run.validation.evidenceTasksTerminal ≠ run.validation.evidenceTasksCreated then s.end p (.ok ())
        else s.goOn p (.finalizing exposureId run.validation)

/-- The checks and the read of `abort_source_run`. -/
def State.readToAbort (s : State Process) (p : Process) (state : ExposureState) (reason : String) : Outcome × State Process :=
  if !([.aborted, .expired] : List ExposureState).contains state then
    s.end p (.error (.valueError "source-run terminal state must be ABORTED or EXPIRED"))
  else if blank reason then s.end p (.error (.valueError "source-run terminal reason is required"))
  else
    match s.runs.get? key with
    | none => s.end p (.error (.keyError "unknown source run"))
    | some run =>
      if run.terminalState.isSome then s.end p (.ok ())
      else
        match run.exposureId with
        | none => s.goOn p (.marking state reason)
        | some exposureId => s.goOn p (.aborting exposureId state reason)

/-- `recover_open_production_exposures`. -/
def State.recoverExposures (s : State Process) (p : Process) (clock : PyFloat) : Outcome × State Process :=
  match ProductionExposures.step s.exposures ⟨clock, .recover⟩ with
  | (.error err, exposures) => State.end { s with exposures } p (.error err)
  | (.ok _, exposures) => State.goOn { s with exposures } p .recovering

/-- The SELECT of `recover_source_runs`. -/
def State.selectLost (s : State Process) (p : Process) : Outcome × State Process :=
  match s.runs.get? key with
  | none => s.end p (.ok ())
  | some run =>
    if run.closed || run.terminalState.isSome then s.end p (.ok ())
    else
      match s.exposures.leases.store.leases.get? key.leaseId with
      | none => s.end p (.ok ())
      | some lease =>
        if lease.state = .expired then s.goOn p (.recovered .expired)
        else if lease.state = .aborted then s.goOn p (.recovered .aborted)
        else s.end p (.ok ())

/-- The calls on the exposure in `close_source_run`. -/
def State.finalize (s : State Process) (p : Process) (clock : PyFloat) (platform : Except PyError Bool) (exposureId : String)
    (v : Validation) : Outcome × State Process :=
  match s.exposures.exposures.get? exposureId with
  | none => s.end p (.ok ())
  | some row =>
    match fromRow row with
    | .error err => s.end p (.error err)
    | .ok exposure =>
      match ProductionExposures.finalizeProductionExposure s.exposures.exposures clock exposureId (.fin v.finalAcceptedEed)
          v.acceptedHostYears v.maxEvidenceSequence key.authority with
      | (.error err, exposures) => State.end (s.withExposures exposures) p (.error err)
      | (.ok false, exposures) => State.end (s.withExposures exposures) p (.ok ())
      | (.ok true, exposures) =>
        if exposure.identity.lane ≠ "platform_year" then State.goOn (s.withExposures exposures) p (.closing v)
        else
          match platform with
          | .error err => State.end (s.withExposures exposures) p (.error err)
          | .ok false => State.end (s.withExposures exposures) p (.ok ())
          | .ok true => State.goOn (s.withExposures exposures) p (.closing v)

/-- The transaction of `close_source_run`. -/
def State.close (s : State Process) (p : Process) : Outcome × State Process :=
  match s.runs.get? key with
  | none => s.end p (.error (.keyError "unknown source run"))
  | some run => if run.closable then State.end { s with runs := markClosed s.runs key } p (.ok ()) else s.end p (.ok ())

def State.start (s : State Process) (p : Process) (clock : PyFloat) : Call → Outcome × State Process
  | .recordSourceRunRead now counters readFinished readComplete =>
    s.report key p (recordRead s.runs now key counters readFinished readComplete) (readReport counters readComplete)
  | .recordSourceRunValidation v => s.report key p (recordValidation s.runs key v) (validationReport v)
  | .closeSourceRun otherAuthority => if otherAuthority then s.end p (.ok ()) else s.readToClose key p
  | .abortSourceRun state reason => s.readToAbort key p state reason
  | .recoverSourceRuns => s.recoverExposures p clock

def State.proceed (s : State Process) (p : Process) (clock : PyFloat) (platform : Except PyError Bool) : Outcome × State Process :=
  match s.phase p with
  | .idle => (none, s)
  | .reporting exposureId report =>
    let answer := ProductionExposures.recordProductionExposureProgress s.exposures.exposures clock exposureId report
    State.end (s.withExposures answer.2) p (answer.1.map fun _ => ())
  | .finalizing exposureId v => s.finalize key p clock platform exposureId v
  | .closing _ => s.close key p
  | .aborting exposureId state reason =>
    match ProductionExposures.abortProductionExposure s.exposures.exposures clock exposureId state reason (some key.authority) with
    | (.error err, exposures) => State.end (s.withExposures exposures) p (.error err)
    -- whether the exposure did end is not looked at
    | (.ok _, exposures) => State.goOn (s.withExposures exposures) p (.marking state reason)
  | .marking state reason => State.end { s with runs := (markTerminal s.runs key state reason).2 } p (.ok ())
  | .recovering => s.selectLost key p
  | .recovered state => s.readToAbort key p state (recoveredReason state)

def step (s : State Process) : Event Process → Outcome × State Process
  | .beginExposure clock opening fresh =>
    (some (.ok ()), { s with exposures := (ProductionExposures.step s.exposures ⟨clock, .begin opening fresh⟩).2 })
  | .register exposureId readStarted =>
    match s.exposures.exposures.get? exposureId with
    | none => (some (.error (.keyError ("unknown production exposure: " ++ exposureId))), s)
    | some row =>
      if row.identity.sourceKey ≠ key.sourceKey || row.identity.reservoirId ≠ key.reservoirId || row.authority ≠ key.authority then
        (some (.error (.valueError "production exposure/source-run identity mismatch")), s)
      else (some (.ok ()), { s with runs := beginRun s.runs key exposureId readStarted })
  | .lease clock process op =>
    (some (.ok ()), { s with exposures := (ProductionExposures.step s.exposures ⟨clock, .lease process op⟩).2 })
  | .call p clock c =>
    match s.phase p with
    | .idle => s.start key p clock c
    | _ => (none, s)
  | .next p clock platform => s.proceed key p clock platform
  | .crash p => s.goOn p .idle

/-- Any number of processes on one run, from no exposures. -/
def machine (leases : WorkLeases.System) : Machine (State Process) (Event Process) Outcome where
  initial := ⟨⟨leases, .empty⟩, .empty, fun _ => .idle⟩
  step := step key

end

/-! ## One end -/

def exposureOf (s : State Process) (run : RunRow) : Option ExposureRow := run.exposureId.bind s.exposures.exposures.get?

structure FinalWith (row : ExposureRow) (v : Validation) : Prop where
  state : row.state = .finalClosed
  hostYears : row.counters.acceptedHostYears = v.acceptedHostYears
  eed : row.finalAcceptedEed = .fin v.finalAcceptedEed
  frontier : row.counters.evidenceFrontier = v.maxEvidenceSequence

structure SameEnd (key : RunKey) (s : State Process) : Prop where
  single : ∀ run, s.runs.get? key = some run → run.closed = true → run.terminalState ≠ some .aborted ∧ run.terminalState ≠ some .expired
  closed : ∀ run, s.runs.get? key = some run → run.closed = true → ∃ row, exposureOf s run = some row ∧ FinalWith row run.validation
  ended : ∀ run state, s.runs.get? key = some run → run.terminalState = some state → state = .aborted ∨ state = .expired →
    ∃ row, exposureOf s run = some row ∧ row.state = state

/-- The outcome of a run is what `close_source_run` has read of it. -/
def SameOutcome (v w : Validation) : Prop :=
  v.acceptedHostYears = w.acceptedHostYears ∧ v.finalAcceptedEed = w.finalAcceptedEed ∧ v.maxEvidenceSequence = w.maxEvidenceSequence

/-- The exposure was finalized with the outcome that a closing run still has, and has ended as
    an abort writes it on an open run. -/
def InStep (key : RunKey) (s : State Process) : Event Process → Prop
  | .next p _ _ =>
    match s.phase p with
    | .closing v => ∀ run, s.runs.get? key = some run → run.closable = true → SameOutcome run.validation v
    | .marking state _ => ∀ run, s.runs.get? key = some run → run.terminalState = none → run.closed = false →
        ∃ row, exposureOf s run = some row ∧ row.state = state
    | _ => True
  | _ => True

/-! ## What a step leaves as it was -/

section
variable (key : RunKey)

/-- Terminal exposures stay, and a run keeps its exposure. -/
structure Grows (s s' : State Process) : Prop where
  exposures : ∀ id row, s.exposures.exposures.get? id = some row →
    ∃ row', s'.exposures.exposures.get? id = some row' ∧ (row.state.terminal = true → row' = row)
  runs : ∀ run, s.runs.get? key = some run → ∃ run', s'.runs.get? key = some run' ∧ run'.exposureId = run.exposureId

/-- The end of the run does not change. -/
structure Quiet (s s' : State Process) : Prop extends Grows key s s' where
  standing : ∀ run', s'.runs.get? key = some run' →
    (∃ run, s.runs.get? key = some run ∧ run'.exposureId = run.exposureId ∧ run'.closed = run.closed ∧
      run'.terminalState = run.terminalState ∧ (run.closed = true → run'.validation = run.validation)) ∨
    (run'.closed = false ∧ run'.terminalState = none ∧ (exposureOf s' run').isSome)

/-- What a process has read or written still stands. -/
def Backed (s : State Process) : Phase → Prop
  | .finalizing exposureId _ => ∃ run, s.runs.get? key = some run ∧ run.exposureId = some exposureId
  | .closing v => ∃ run row, s.runs.get? key = some run ∧ exposureOf s run = some row ∧ FinalWith row v
  | .aborting _ state _ => state = .aborted ∨ state = .expired
  | .marking state _ => state = .aborted ∨ state = .expired
  | .recovered state => state = .aborted ∨ state = .expired
  | _ => True

structure Inv (s : State Process) : Prop where
  exposed : ∀ run, s.runs.get? key = some run → (exposureOf s run).isSome
  endings : ∀ run state, s.runs.get? key = some run → run.terminalState = some state → state = .aborted ∨ state = .expired
  backed : ∀ p, Backed key s (s.phase p)

/-- A step that leaves the end of the run, with phases that stand. -/
structure Move (s s' : State Process) : Prop extends Quiet key s s' where
  phases : ∀ p, s'.phase p = s.phase p ∨ Backed key s' (s'.phase p)

end

section
variable {key : RunKey} {s s' : State Process}

omit [DecidableEq Process] in
theorem Grows.exposure (grows : Grows key s s') {run run' : RunRow} (same : run'.exposureId = run.exposureId) {row : ExposureRow}
    (found : exposureOf s run = some row) :
    ∃ row', exposureOf s' run' = some row' ∧ (row.state.terminal = true → row' = row) := by
  obtain ⟨id, named, stored⟩ := Option.bind_eq_some_iff.mp found
  obtain ⟨row', stored', kept⟩ := grows.exposures id row stored
  exact ⟨row', Option.bind_eq_some_iff.mpr ⟨id, same.trans named, stored'⟩, kept⟩

omit [DecidableEq Process] in
theorem Grows.backed (grows : Grows key s s') {phase : Phase} (backed : Backed key s phase) : Backed key s' phase := by
  cases phase with
  | finalizing exposureId v =>
    obtain ⟨run, found, named⟩ := backed
    obtain ⟨run', found', same⟩ := grows.runs run found
    exact ⟨run', found', same.trans named⟩
  | closing v =>
    obtain ⟨run, row, found, stored, final⟩ := backed
    obtain ⟨run', found', same⟩ := grows.runs run found
    obtain ⟨row', stored', kept⟩ := grows.exposure same stored
    obtain rfl := kept (by simp [final.state, ExposureState.terminal])
    exact ⟨run', row', found', stored', final⟩
  | idle | reporting exposureId report | aborting exposureId state reason | marking state reason | recovering | recovered state =>
    exact backed

omit [DecidableEq Process] in
theorem Move.inv (move : Move key s s') (inv : Inv key s) : Inv key s' := by
  refine ⟨fun run' found' => ?_, fun run' state found' ended => ?_, fun p => ?_⟩
  · rcases move.standing run' found' with ⟨run, found, same, -⟩ | ⟨-, -, exposed⟩
    · obtain ⟨row, stored⟩ := Option.isSome_iff_exists.mp (inv.exposed run found)
      obtain ⟨row', stored', -⟩ := move.exposure same stored
      exact Option.isSome_of_eq_some stored'
    · exact exposed
  · rcases move.standing run' found' with ⟨run, found, -, -, same, -⟩ | ⟨-, none_, -⟩
    · exact inv.endings run state found (same.symm.trans ended)
    · rw [none_] at ended
      cases ended
  · rcases move.phases p with same | backed
    · rw [same]
      exact move.backed (inv.backed p)
    · exact backed

omit [DecidableEq Process] in
theorem Quiet.sameEnd (quiet : Quiet key s s') (same : SameEnd key s) : SameEnd key s' := by
  refine ⟨fun run' found' closed => ?_, fun run' found' closed => ?_, fun run' state found' ended ending => ?_⟩
  · rcases quiet.standing run' found' with ⟨run, found, -, sameClosed, sameEnd, -⟩ | ⟨open_, -, -⟩
    · rw [sameEnd]
      exact same.single run found (sameClosed.symm.trans closed)
    · rw [open_] at closed
      cases closed
  · rcases quiet.standing run' found' with ⟨run, found, named, sameClosed, -, outcome⟩ | ⟨open_, -, -⟩
    · have before := sameClosed.symm.trans closed
      obtain ⟨row, stored, final⟩ := same.closed run found before
      obtain ⟨row', stored', kept⟩ := quiet.exposure named stored
      obtain rfl := kept (by simp [final.state, ExposureState.terminal])
      rw [outcome before]
      exact ⟨row', stored', final⟩
    · rw [open_] at closed
      cases closed
  · rcases quiet.standing run' found' with ⟨run, found, named, -, sameEnd, -⟩ | ⟨-, none_, -⟩
    · obtain ⟨row, stored, ends⟩ := same.ended run state found (sameEnd.symm.trans ended) ending
      obtain ⟨row', stored', kept⟩ := quiet.exposure named stored
      obtain rfl := kept (by rcases ending with rfl | rfl <;> simp [ends, ExposureState.terminal])
      exact ⟨row', stored', ends⟩
    · rw [none_] at ended
      cases ended

end

/-! ## Steps -/

section
variable {key : RunKey} {s : State Process}

/-- A call on exposures keeps the ended ones. -/
theorem persists (x : ProductionExposures.System) (e : ProductionExposures.ExposureEvent) (id : String) (row : ExposureRow)
    (found : x.exposures.get? id = some row) :
    ∃ row', (ProductionExposures.step x e).2.exposures.get? id = some row' ∧ (row.state.terminal = true → row' = row) := by
  obtain ⟨row', found', -⟩ := row_change x e found
  refine ⟨row', found', fun ended => ?_⟩
  have frozen := frozen_step found ended e
  rw [found'] at frozen
  exact Option.some.inj frozen

theorem phases_update {s' : State Process} {p : Process} {phase : Phase} (moved : s'.phase = Function.update s.phase p phase)
    (backed : Backed key s' phase) (q : Process) : s'.phase q = s.phase q ∨ Backed key s' (s'.phase q) := by
  rw [moved]
  by_cases here : q = p
  · subst here
    rw [Function.update_self]
    exact .inr backed
  · exact .inl (Function.update_of_ne here _ _)

theorem move_exposures {x : ProductionExposures.System} (kept : ∀ id row, s.exposures.exposures.get? id = some row →
      ∃ row', x.exposures.get? id = some row' ∧ (row.state.terminal = true → row' = row)) (p : Process) {phase : Phase}
    (backed : Backed key ⟨x, s.runs, Function.update s.phase p phase⟩ phase) :
    Move key s ⟨x, s.runs, Function.update s.phase p phase⟩ where
  exposures := kept
  runs := fun run found => ⟨run, found, rfl⟩
  standing := fun run found => .inl ⟨run, found, rfl, rfl, rfl, fun _ => rfl⟩
  phases := phases_update rfl backed

/-- A process goes on after a read. -/
theorem move_goOn (p : Process) {phase : Phase} (backed : Backed key s phase) : Move key s (s.goOn p phase).2 :=
  move_exposures (fun _ row found => ⟨row, found, fun _ => rfl⟩) p (by cases phase <;> exact backed)

theorem move_end (p : Process) (answer : Except PyError Unit) : Move key s (s.end p answer).2 :=
  @move_goOn _ _ key s p .idle trivial

/-- The run is rewritten without its end. -/
structure Rewrites (key : RunKey) (t u : Runs) : Prop where
  stays : ∀ run, t.get? key = some run → ∃ run', u.get? key = some run' ∧ run'.exposureId = run.exposureId
  origin : ∀ run', u.get? key = some run' → ∃ run, t.get? key = some run ∧ run'.exposureId = run.exposureId ∧
    run'.closed = run.closed ∧ run'.terminalState = run.terminalState ∧ (run.closed = true → run'.validation = run.validation)

theorem Rewrites.refl (key : RunKey) (t : Runs) : Rewrites key t t :=
  ⟨fun run found => ⟨run, found, rfl⟩, fun run found => ⟨run, found, rfl, rfl, rfl, fun _ => rfl⟩⟩

theorem rewrites_open {t : Runs} {found : RunRow} (open_ : (t.get? key).filter (!·.closed) = some found) {set : RunRow → RunRow}
    (keeps : ∀ r, (set r).key = r.key)
    (same : ∀ r, (set r).exposureId = r.exposureId ∧ (set r).closed = r.closed ∧ (set r).terminalState = r.terminalState) :
    Rewrites key t (t.update (fun r => r.key = key) set keeps) := by
  obtain ⟨stored, unclosed⟩ := Option.filter_eq_some_iff.mp open_
  have after : (t.update (fun r => r.key = key) set keeps).get? key = some (set found) := by
    rw [Table.get?_update_key, if_pos rfl, stored]
    rfl
  obtain ⟨exposure, closed, ended⟩ := same found
  refine ⟨fun run before => ⟨set found, after, ?_⟩, fun run' now => ⟨found, stored, ?_⟩⟩
  · rw [stored] at before
    cases before
    exact exposure
  · rw [after] at now
    cases now
    exact ⟨exposure, closed, ended, fun is => by simp [is] at unclosed⟩

theorem rewrites_read (t : Runs) (now : ℚ) (counters : ReadCounters) (readFinished : Option ℚ) (readComplete : Bool) :
    Rewrites key t (recordRead t now key counters readFinished readComplete).2 := by
  unfold recordRead
  split
  · exact .refl _ _
  · split
    · exact .refl _ _
    · rename_i found
      split
      · exact .refl _ _
      · exact rewrites_open found (by intro _; rfl) fun _ => ⟨rfl, rfl, rfl⟩

theorem rewrites_validation (t : Runs) (v : Validation) : Rewrites key t (recordValidation t key v).2 := by
  unfold recordValidation
  split
  · exact .refl _ _
  · split
    · exact .refl _ _
    · rename_i found
      split
      · exact .refl _ _
      · exact rewrites_open found (by intro _; rfl) fun _ => ⟨rfl, rfl, rfl⟩

theorem move_runs {runs : Runs} (rewrites : Rewrites key s.runs runs) (p : Process) {phase : Phase}
    (backed : Backed key ⟨s.exposures, runs, Function.update s.phase p phase⟩ phase) :
    Move key s ⟨s.exposures, runs, Function.update s.phase p phase⟩ where
  exposures := fun _ row found => ⟨row, found, fun _ => rfl⟩
  runs := rewrites.stays
  standing := fun run' found' => .inl (rewrites.origin run' found')
  phases := phases_update rfl backed

theorem move_report {answer : Except PyError Unit} {runs : Runs} (rewrites : Rewrites key s.runs runs) (p : Process)
    (report : Report) : Move key s (s.report key p (answer, runs) report).2 := by
  unfold State.report
  split
  · exact move_end p _
  · rename_i given
    cases given
    split
    · exact move_runs rewrites p trivial
    · exact move_runs rewrites p trivial

theorem move_readToClose (p : Process) (inv : Inv key s) : Move key s (s.readToClose key p).2 := by
  unfold State.readToClose
  split
  · exact move_end p _
  · rename_i run found
    split
    · exact move_end p _
    · split
      · rename_i none_
        have exposed := inv.exposed run found
        simp [exposureOf, none_] at exposed
      · rename_i exposureId named
        split
        · exact move_end p _
        · split
          · exact move_end p _
          · exact move_goOn p ⟨run, found, named⟩

theorem move_readToAbort (p : Process) (state : ExposureState) (reason : String) :
    Move key s (s.readToAbort key p state reason).2 := by
  unfold State.readToAbort
  split
  · exact move_end p _
  · rename_i ending
    have ends : state = .aborted ∨ state = .expired := by simpa [or_iff_not_imp_left] using ending
    split
    · exact move_end p _
    · split
      · exact move_end p _
      · split
        · exact move_end p _
        · split
          · exact move_goOn p ends
          · exact move_goOn p ends

theorem move_recoverExposures (p : Process) (clock : PyFloat) : Move key s (s.recoverExposures p clock).2 := by
  have kept := persists s.exposures ⟨clock, .recover⟩
  unfold State.recoverExposures
  split
  · rename_i err exposures answer
    rw [answer] at kept
    exact move_exposures kept p trivial
  · rename_i reply exposures answer
    rw [answer] at kept
    exact move_exposures kept p trivial

theorem move_selectLost (p : Process) : Move key s (s.selectLost key p).2 := by
  unfold State.selectLost
  split
  · exact move_end p _
  · split
    · exact move_end p _
    · split
      · exact move_end p _
      · split
        · exact move_goOn p (.inr rfl)
        · split
          · exact move_goOn p (.inl rfl)
          · exact move_end p _

theorem move_finalize (p : Process) (clock : PyFloat) (platform : Except PyError Bool) {exposureId : String} {v : Validation}
    (backed : Backed key s (.finalizing exposureId v)) : Move key s (s.finalize key p clock platform exposureId v).2 := by
  obtain ⟨run, found, named⟩ := backed
  have kept := persists s.exposures ⟨clock, .finalize exposureId (.fin v.finalAcceptedEed) v.acceptedHostYears v.maxEvidenceSequence
    key.authority⟩
  have answer := ProductionExposures.finalize_cases s.exposures.exposures clock exposureId (.fin v.finalAcceptedEed)
    v.acceptedHostYears v.maxEvidenceSequence key.authority
  simp only [ProductionExposures.step] at kept
  unfold State.finalize
  split
  · exact move_end p _
  · rename_i row stored
    split
    · exact move_end p _
    · rename_i exposure read
      generalize ProductionExposures.finalizeProductionExposure s.exposures.exposures clock exposureId (.fin v.finalAcceptedEed)
        v.acceptedHostYears v.maxEvidenceSequence key.authority = result at kept answer ⊢
      -- a granted finalization leaves the exposure with the outcome that was read
      have granted {exposures : Exposures} (kept : ∀ id row, s.exposures.exposures.get? id = some row →
            ∃ row', exposures.get? id = some row' ∧ (row.state.terminal = true → row' = row))
          (final : ∃ row, exposures.get? exposureId = some row ∧ FinalWith row v) :
          Move key s (State.goOn (s.withExposures exposures) p (.closing v)).2 ∧
            ∀ answer, Move key s (State.end (s.withExposures exposures) p answer).2 := by
        obtain ⟨row, stored, final⟩ := final
        refine ⟨move_exposures (x := { s.exposures with exposures }) kept p ?_, fun answer =>
          move_exposures (x := { s.exposures with exposures }) kept p trivial⟩
        exact ⟨run, row, found, Option.bind_eq_some_iff.mpr ⟨exposureId, named, stored⟩, final⟩
      cases answer with
      | refused err => exact move_exposures (x := { s.exposures with exposures := s.exposures.exposures }) kept p trivial
      | denied => exact move_exposures (x := { s.exposures with exposures := s.exposures.exposures }) kept p trivial
      | repeated row admitted stored own closed same =>
        obtain ⟨goes, ends⟩ := granted kept ⟨row, stored, closed, same.2.1, same.1, same.2.2⟩
        dsimp only
        split
        · exact goes
        · split
          · exact ends _
          · exact ends _
          · exact goes
      | written row admitted finalizes now number =>
        have after : (s.exposures.exposures.update (·.exposureId = exposureId) (ProductionExposures.finalized
            (.fin v.finalAcceptedEed) v.acceptedHostYears v.maxEvidenceSequence now)).get? exposureId =
            some (ProductionExposures.finalized (.fin v.finalAcceptedEed) v.acceptedHostYears v.maxEvidenceSequence now row) := by
          rw [Table.get?_update_key, if_pos rfl, finalizes.found]
          rfl
        obtain ⟨goes, ends⟩ := granted kept ⟨_, after, rfl, rfl, rfl, rfl⟩
        dsimp only
        split
        · exact goes
        · split
          · exact ends _
          · exact ends _
          · exact goes

theorem move_start (inv : Inv key s) (p : Process) (clock : PyFloat) (c : Call) : Move key s (s.start key p clock c).2 := by
  cases c with
  | recordSourceRunRead now counters readFinished readComplete =>
    exact move_report (rewrites_read s.runs now counters readFinished readComplete) p _
  | recordSourceRunValidation v => exact move_report (rewrites_validation s.runs v) p _
  | closeSourceRun otherAuthority =>
    simp only [State.start]
    split
    · exact move_end p _
    · exact move_readToClose p inv
  | abortSourceRun state reason => exact move_readToAbort p state reason
  | recoverSourceRuns => exact move_recoverExposures p clock

theorem move_record (p : Process) (clock : PyFloat) (exposureId : String) (report : Report) (answer : Except PyError Unit) :
    Move key s (State.end (s.withExposures
      (ProductionExposures.recordProductionExposureProgress s.exposures.exposures clock exposureId report).2) p answer).2 := by
  have kept := persists s.exposures ⟨clock, .record exposureId report⟩
  exact move_exposures (x := { s.exposures with
    exposures := (ProductionExposures.recordProductionExposureProgress s.exposures.exposures clock exposureId report).2 })
    kept p trivial

/-- The call on the exposure in `abort_source_run`, whatever it answers. -/
theorem move_abort (p : Process) (clock : PyFloat) (exposureId : String) {state : ExposureState} (reason : String)
    (ends : state = .aborted ∨ state = .expired) {phase : Phase} (goes : phase = .idle ∨ phase = .marking state reason) :
    Move key s ⟨{ s.exposures with exposures :=
        (ProductionExposures.abortProductionExposure s.exposures.exposures clock exposureId state reason (some key.authority)).2 },
      s.runs, Function.update s.phase p phase⟩ := by
  have kept := persists s.exposures ⟨clock, .abort exposureId state reason (some key.authority)⟩
  refine move_exposures (x := { s.exposures with exposures := _ }) kept p ?_
  rcases goes with rfl | rfl
  · trivial
  · exact ends

omit [DecidableEq Process] in
/-- The exposure of a new run is there. -/
theorem move_register {exposureId : String} {row : ExposureRow} (inv : Inv key s) (stored : s.exposures.exposures.get? exposureId = some row)
    (readStarted : Option ℚ) : Move key s { s with runs := beginRun s.runs key exposureId readStarted } := by
  have same : (beginRun s.runs key exposureId readStarted).get? key =
      some ((s.runs.get? key).getD (.registered key (some exposureId) readStarted)) := by
    unfold beginRun
    rw [Table.get?_update, Table.get?_insert_or]
    cases found : s.runs.get? key with
    | none => simp [RunRow.registered]
    | some run =>
      obtain ⟨row, exposed⟩ := Option.isSome_iff_exists.mp (inv.exposed run found)
      obtain ⟨id, named, -⟩ := Option.bind_eq_some_iff.mp exposed
      simp [named]
  refine ⟨⟨⟨fun _ row found => ⟨row, found, fun _ => rfl⟩, fun run found => ?_⟩, fun run' found' => ?_⟩, fun p => .inl rfl⟩
  · rw [found] at same
    exact ⟨run, same, rfl⟩
  · cases found : s.runs.get? key with
    | none =>
      rw [found] at same
      obtain rfl := Option.some.inj (found'.symm.trans same)
      exact .inr ⟨rfl, rfl, by simp [exposureOf, RunRow.registered, stored]⟩
    | some run =>
      rw [found] at same
      obtain rfl := Option.some.inj (found'.symm.trans same)
      exact .inl ⟨run', rfl, rfl, rfl, rfl, fun _ => rfl⟩

/-! ## The two ends -/

theorem inv_ends (inv : Inv key s) {runs : Runs}
    (stays : ∀ run, s.runs.get? key = some run → ∃ run', runs.get? key = some run' ∧ run'.exposureId = run.exposureId)
    (origin : ∀ run', runs.get? key = some run' → ∃ run, s.runs.get? key = some run ∧ run'.exposureId = run.exposureId ∧
      (run'.terminalState = run.terminalState ∨ run'.terminalState = some .aborted ∨ run'.terminalState = some .expired))
    (p : Process) (answer : Except PyError Unit) : Inv key (State.end { s with runs } p answer).2 := by
  have grows : Grows key s (State.end { s with runs } p answer).2 := ⟨fun _ row found => ⟨row, found, fun _ => rfl⟩, stays⟩
  refine ⟨fun run' found' => ?_, fun run' state found' ended => ?_, fun q => ?_⟩
  · obtain ⟨run, found, same, -⟩ := origin run' found'
    obtain ⟨row, stored⟩ := Option.isSome_iff_exists.mp (inv.exposed run found)
    obtain ⟨row', stored', -⟩ := grows.exposure same stored
    exact Option.isSome_of_eq_some stored'
  · obtain ⟨run, found, -, same | new | new⟩ := origin run' found'
    · exact inv.endings run state found (same.symm.trans ended)
    · exact .inl (Option.some.inj (ended.symm.trans new))
    · exact .inr (Option.some.inj (ended.symm.trans new))
  · rcases @phases_update _ _ key s (State.end { s with runs } p answer).2 p .idle rfl trivial q with same | backed
    · rw [same]
      exact grows.backed (inv.backed q)
    · exact backed

omit [DecidableEq Process] in
theorem get?_markClosed {run : RunRow} (found : s.runs.get? key = some run) :
    (markClosed s.runs key).get? key = some { run with closed := true } := by
  rw [markClosed, Table.get?_update_key, if_pos rfl, found]
  rfl

theorem inv_close (inv : Inv key s) (p : Process) : Inv key (s.close key p).2 := by
  unfold State.close
  split
  · exact (move_end p _).inv inv
  · rename_i run found
    split
    · have after := get?_markClosed found
      refine inv_ends inv (fun run' before => ⟨_, after, ?_⟩) (fun run' now => ⟨run, found, ?_⟩) p _
      · rw [found] at before
        cases before
        rfl
      · rw [after] at now
        cases now
        exact ⟨rfl, .inl rfl⟩
    · exact (move_end p _).inv inv

/-- A run that closes has the end of its exposure exactly when its outcome is the one that was read. -/
theorem sameEnd_close (same : SameEnd key s) {p : Process} {v : Validation} (backed : Backed key s (.closing v)) :
    SameEnd key (s.close key p).2 ↔ ∀ run, s.runs.get? key = some run → run.closable = true → SameOutcome run.validation v := by
  obtain ⟨run, row, found, stored, final⟩ := backed
  unfold State.close
  rw [found]
  dsimp only
  cases closable : run.closable with
  | false =>
    refine iff_of_true ((move_end p _).sameEnd same) fun other found' closable' => ?_
    cases found'
    rw [closable] at closable'
    cases closable'
  | true =>
    rw [if_pos rfl]
    have after := get?_markClosed found
    have kept : exposureOf (State.end { s with runs := markClosed s.runs key } p (.ok ())).2 { run with closed := true } = some row := stored
    constructor
    · intro ended other found' _
      cases found'
      obtain ⟨row', stored', final'⟩ := ended.closed _ after rfl
      obtain rfl := Option.some.inj (kept.symm.trans stored')
      exact ⟨final'.hostYears.symm.trans final.hostYears, PyFloat.fin.inj (final'.eed.symm.trans final.eed),
        final'.frontier.symm.trans final.frontier⟩
    · intro agrees
      obtain ⟨hostYears, eed, frontier⟩ := agrees run rfl closable
      have open_ : ∀ state, run.terminalState = some state → state = .aborted ∨ state = .expired → False := by
        intro state ended ending
        obtain ⟨row', stored', ends⟩ := same.ended run state found ended ending
        obtain rfl := Option.some.inj (stored.symm.trans stored')
        rw [final.state] at ends
        rcases ending with rfl | rfl <;> cases ends
      refine ⟨fun run' found' closed => ?_, fun run' found' closed => ?_, fun run' state found' ended ending => ?_⟩
      · obtain rfl := Option.some.inj (after.symm.trans found')
        exact ⟨fun ended => open_ _ ended (.inl rfl), fun ended => open_ _ ended (.inr rfl)⟩
      · obtain rfl := Option.some.inj (after.symm.trans found')
        exact ⟨row, kept, final.state, final.hostYears.trans hostYears.symm, final.eed.trans (congrArg _ eed.symm),
          final.frontier.trans frontier.symm⟩
      · obtain rfl := Option.some.inj (after.symm.trans found')
        exact (open_ state ended ending).elim

omit [DecidableEq Process] in
/-- What the transaction of `abort_source_run` makes of the run. -/
theorem get?_markTerminal {run : RunRow} (found : s.runs.get? key = some run) (state : ExposureState) (reason : String) :
    (markTerminal s.runs key state reason).2.get? key = some (if run.terminalState.isNone && !run.closed then
      { run with terminalState := some state, terminalReason := some (PyText.strip reason) } else run) := by
  rw [markTerminal, Table.get?_update, found]
  simp [Table.get?_key found]

theorem inv_mark (inv : Inv key s) (p : Process) {state : ExposureState} (ends : state = .aborted ∨ state = .expired)
    (reason : String) : Inv key (State.end { s with runs := (markTerminal s.runs key state reason).2 } p (.ok ())).2 := by
  refine inv_ends inv (fun run found => ⟨_, get?_markTerminal found state reason, ?_⟩) (fun run' now => ?_) p _
  · split <;> rfl
  · cases found : s.runs.get? key with
    | none =>
      rw [markTerminal, Table.get?_update, found] at now
      cases now
    | some run =>
      refine ⟨run, rfl, ?_⟩
      rw [get?_markTerminal found] at now
      obtain rfl := Option.some.inj now
      split
      · rcases ends with rfl | rfl
        · exact ⟨rfl, .inr (.inl rfl)⟩
        · exact ⟨rfl, .inr (.inr rfl)⟩
      · exact ⟨rfl, .inl rfl⟩

/-- An abort gives an open run the end of its exposure exactly when the exposure has ended so. -/
theorem sameEnd_mark (same : SameEnd key s) (p : Process) {state : ExposureState} (ends : state = .aborted ∨ state = .expired)
    (reason : String) :
    SameEnd key (State.end { s with runs := (markTerminal s.runs key state reason).2 } p (.ok ())).2 ↔
      ∀ run, s.runs.get? key = some run → run.terminalState = none → run.closed = false →
        ∃ row, exposureOf s run = some row ∧ row.state = state := by
  constructor
  · intro after run found none_ open_
    have marked := get?_markTerminal found state reason
    simp only [none_, open_, Option.isNone_none, Bool.not_false, Bool.and_self, if_true] at marked
    obtain ⟨row, stored, ended⟩ := after.ended _ state marked rfl ends
    exact ⟨row, stored, ended⟩
  · intro ended
    have apart : ∀ run', (markTerminal s.runs key state reason).2.get? key = some run' → ∃ run, s.runs.get? key = some run ∧
        (run' = run ∨ run.terminalState = none ∧ run.closed = false ∧
          run' = { run with terminalState := some state, terminalReason := some (PyText.strip reason) }) := by
      intro run' now
      cases found : s.runs.get? key with
      | none =>
        rw [markTerminal, Table.get?_update, found] at now
        cases now
      | some run =>
        refine ⟨run, rfl, ?_⟩
        rw [get?_markTerminal found] at now
        obtain rfl := Option.some.inj now
        split
        · rename_i writes
          simp only [Bool.and_eq_true, Option.isNone_iff_eq_none, Bool.not_eq_true'] at writes
          exact .inr ⟨writes.1, writes.2, rfl⟩
        · exact .inl rfl
    refine ⟨fun run' found' closed => ?_, fun run' found' closed => ?_, fun run' st found' now ending => ?_⟩
    · obtain ⟨run, found, rfl | ⟨-, open_, rfl⟩⟩ := apart run' found'
      · exact same.single _ found closed
      · rw [open_] at closed
        cases closed
    · obtain ⟨run, found, rfl | ⟨-, open_, rfl⟩⟩ := apart run' found'
      · exact same.closed _ found closed
      · rw [open_] at closed
        cases closed
    · obtain ⟨run, found, rfl | ⟨none_, open_, rfl⟩⟩ := apart run' found'
      · exact same.ended _ st found now ending
      · obtain rfl := Option.some.inj now
        exact ended run found none_ open_

end

/-! ## Runs -/

section
variable {key : RunKey} {s : State Process}

/-- A step is one of the two transactions that end the run. -/
def Ending (s : State Process) : Event Process → Prop
  | .next p _ _ => (∃ v, s.phase p = .closing v) ∨ ∃ state reason, s.phase p = .marking state reason
  | _ => False

omit [DecidableEq Process] in
theorem move_apart {x : ProductionExposures.System} (kept : ∀ id row, s.exposures.exposures.get? id = some row →
    ∃ row', x.exposures.get? id = some row' ∧ (row.state.terminal = true → row' = row)) : Move key s { s with exposures := x } :=
  ⟨⟨⟨kept, fun run found => ⟨run, found, rfl⟩⟩, fun run found => .inl ⟨run, found, rfl, rfl, rfl, fun _ => rfl⟩⟩, fun _ => .inl rfl⟩

omit [DecidableEq Process] in
theorem move_refl : Move key s s := move_apart fun _ row found => ⟨row, found, fun _ => rfl⟩

theorem move_step (inv : Inv key s) (e : Event Process) (other : ¬Ending s e) : Move key s (step key s e).2 := by
  cases e with
  | beginExposure clock opening fresh => exact move_apart (persists s.exposures _)
  | register exposureId readStarted =>
    simp only [step]
    split
    · exact move_refl
    · rename_i row stored
      split
      · exact move_refl
      · exact move_register inv stored readStarted
  | lease clock process op => exact move_apart (persists s.exposures _)
  | call p clock c =>
    simp only [step]
    split
    · exact move_start inv p clock c
    · exact move_refl
  | next p clock platform =>
    have backed := inv.backed p
    simp only [step, State.proceed]
    cases phase : s.phase p with
    | idle => exact move_refl
    | reporting exposureId report => exact move_record p clock exposureId report _
    | finalizing exposureId v =>
      rw [phase] at backed
      exact move_finalize p clock platform backed
    | closing v => exact absurd (.inl ⟨v, phase⟩) other
    | aborting exposureId state reason =>
      rw [phase] at backed
      have refused := @move_abort _ _ key s p clock exposureId _ reason backed .idle (.inl rfl)
      have goes := @move_abort _ _ key s p clock exposureId _ reason backed (.marking state reason) (.inr rfl)
      dsimp only
      split
      · rename_i answer
        rw [answer] at refused
        exact refused
      · rename_i answer
        rw [answer] at goes
        exact goes
    | marking state reason => exact absurd (.inr ⟨state, reason, phase⟩) other
    | recovering => exact move_selectLost p
    | recovered state => exact move_readToAbort p state _
  | crash p => exact move_goOn p trivial

theorem inv_step (inv : Inv key s) (e : Event Process) : Inv key (step key s e).2 := by
  by_cases ends : Ending s e
  · cases e with
    | next p clock platform =>
      have backed := inv.backed p
      rcases ends with ⟨v, phase⟩ | ⟨state, reason, phase⟩
      · simp only [step, State.proceed, phase]
        exact inv_close inv p
      · rw [phase] at backed
        simp only [step, State.proceed, phase]
        exact inv_mark inv p backed reason
    | beginExposure | register | lease | call | crash => exact ends.elim
  · exact (move_step inv e ends).inv inv

theorem sameEnd_step (inv : Inv key s) (same : SameEnd key s) (e : Event Process) :
    SameEnd key (step key s e).2 ↔ InStep key s e := by
  by_cases ends : Ending s e
  · cases e with
    | next p clock platform =>
      have backed := inv.backed p
      rcases ends with ⟨v, phase⟩ | ⟨state, reason, phase⟩
      · rw [phase] at backed
        simp only [step, State.proceed, InStep, phase]
        exact sameEnd_close same backed
      · rw [phase] at backed
        simp only [step, State.proceed, InStep, phase]
        exact sameEnd_mark same p backed reason
    | beginExposure | register | lease | call | crash => exact ends.elim
  · refine iff_of_true ((move_step inv e ends).sameEnd same) ?_
    cases e with
    | next p clock platform =>
      simp only [InStep]
      split
      · rename_i v phase
        exact absurd (.inl ⟨v, phase⟩) ends
      · rename_i state reason phase
        exact absurd (.inr ⟨state, reason, phase⟩) ends
      · trivial
    | beginExposure | register | lease | call | crash => trivial

end

section
variable (key : RunKey) (leases : WorkLeases.System) (es : List (Event Process))

theorem run_inv : Inv key ((machine key leases).final es) := by
  refine (machine key leases).invariant (I := Inv key) ⟨fun _ found => (nomatch found), fun _ _ found => (nomatch found), fun _ => trivial⟩
    (fun _ e inv => inv_step inv e) es

def AllInStep : Prop := ∀ before e after, es = before ++ e :: after → InStep key ((machine key leases).final before) e

/-- The run and its exposure reach the same end, whatever the interleaving and the crashes, exactly when every
    transaction that ends the run finds its exposure so. -/
theorem same_end_iff :
    (∀ before after, es = before ++ after → SameEnd key ((machine key leases).final before)) ↔ AllInStep key leases es := by
  constructor
  · rintro same before e after rfl
    have later := same (before ++ [e]) after (by simp)
    rw [Machine.final_snoc] at later
    exact (sameEnd_step (run_inv key leases before) (same before (e :: after) rfl) e).mp later
  · intro inStep before
    induction before using List.reverseRecOn with
    | nil => exact fun _ _ => ⟨fun _ found => (nomatch found), fun _ found => (nomatch found), fun _ _ found => (nomatch found)⟩
    | append_singleton before e ih =>
      intro after split
      rw [Machine.final_snoc]
      exact (sameEnd_step (run_inv key leases before) (ih (e :: after) (by simp [split])) e).mpr (inStep before e after (by simp [split]))

end

/-! ## Three histories -/

open Creeper.ProductionExposures (opening draw noLeases)

def sampleKey : RunKey := ⟨"source", "reservoir", "lease", "baseline", "model"⟩

def sampleValidation (hostYears : Int) : Validation := ⟨0, 0, 0, 0, 0, hostYears, 5, 8, true⟩

/-- The run is read and validated, and its exposure is final; the run is next. -/
def halfClosed : List (Event Bool) :=
  [.beginExposure (.fin 1) opening draw, .register "exposure" none,
    .call false (.fin 2) (.recordSourceRunRead 2 ⟨0, 0, 0, 0, 0⟩ none true), .next false (.fin 2) (.ok true),
    .call false (.fin 3) (.recordSourceRunValidation (sampleValidation 2)), .next false (.fin 3) (.ok true),
    .call false (.fin 4) (.closeSourceRun false), .next false (.fin 4) (.ok true)]

/-- An abort by another process. -/
def abortRun : List (Event Bool) :=
  [.call true (.fin 5) (.abortSourceRun .aborted "stopped"), .next true (.fin 5) (.ok true), .next true (.fin 5) (.ok true)]

/-- The process that closes stops, and the run is aborted. -/
def crashed : List (Event Bool) := halfClosed ++ [.crash false] ++ abortRun

/-- The run is aborted before its transaction, which goes on. -/
def overtaken : List (Event Bool) := halfClosed ++ abortRun ++ [.next false (.fin 6) (.ok true)]

/-- The run is validated again before its transaction. -/
def revalidated : List (Event Bool) := halfClosed ++
  [.call true (.fin 5) (.recordSourceRunValidation (sampleValidation 3)), .next false (.fin 6) (.ok true)]

/-- The end of the run, and the end and the count of its exposure. -/
def endsOf (s : State Bool) : Option (Bool × Option ExposureState × Int × Option (ExposureState × Int)) :=
  (s.runs.get? sampleKey).map fun run => (run.closed, run.terminalState, run.validation.acceptedHostYears,
    (exposureOf s run).map fun row => (row.state, row.counters.acceptedHostYears))

theorem ends_apart : ¬SameEnd sampleKey ((machine sampleKey noLeases).final crashed) ∧
    ¬SameEnd sampleKey ((machine sampleKey noLeases).final overtaken) ∧
    ¬SameEnd sampleKey ((machine sampleKey noLeases).final revalidated) := by
  refine ⟨fun same => ?_, fun same => ?_, fun same => ?_⟩
  · have ends : endsOf ((machine sampleKey noLeases).final crashed) = some (false, some .aborted, 2, some (.finalClosed, 2)) := by
      decide +kernel
    obtain ⟨run, found, values⟩ := Option.map_eq_some_iff.mp ends
    simp only [Prod.mk.injEq] at values
    obtain ⟨row, stored, state⟩ := same.ended run .aborted found values.2.1 (.inl rfl)
    have final := values.2.2.2
    rw [stored] at final
    simp [state] at final
  · have ends : endsOf ((machine sampleKey noLeases).final overtaken) = some (true, some .aborted, 2, some (.finalClosed, 2)) := by
      decide +kernel
    obtain ⟨run, found, values⟩ := Option.map_eq_some_iff.mp ends
    simp only [Prod.mk.injEq] at values
    exact (same.single run found values.1).1 values.2.1
  · have ends : endsOf ((machine sampleKey noLeases).final revalidated) = some (true, none, 3, some (.finalClosed, 2)) := by
      decide +kernel
    obtain ⟨run, found, values⟩ := Option.map_eq_some_iff.mp ends
    simp only [Prod.mk.injEq] at values
    obtain ⟨row, stored, final⟩ := same.closed run found values.1
    have count := values.2.2.2
    rw [stored] at count
    have hostYears := final.hostYears
    simp_all

end Creeper.RunEnds
