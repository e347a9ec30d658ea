import Creeper.RunClosing

/-!
# Runs whose calls stop in the middle

The calls on source runs, transaction by transaction: a process may crash after any of them, and
others may step in between. Reconciliation then finds runs that are open with exposures that have
ended. It completes exactly when there is none among the runs of its authority.
-/

namespace Creeper.RunRecovery
open Creeper.Runs Creeper.Tables Creeper.PyNumbers Creeper.SourceRuns Creeper.RunClosing
open Creeper.FabricModels (PyError blank)
open Creeper.EvidenceTasks (finiteReading)
open Creeper.ReadinessLedger (Authorities Entry)
open Creeper.ProductionExposures (ExposureState ExposureRow Exposures ExposureEvent Report Draw fromRow)
open Creeper.RunEnds (readReport validationReport recoveredReason)
open Creeper.Readiness (Effect)

/-! ## Processes -/

/-- What a process goes on with after its last transaction or read. -/
inductive Stage
  | idle
  /-- `begin_source_run` has its exposure. -/
  | registering (key : RunKey) (exposureId : String) (now : ℚ) (readStarted : Option ℚ)
  /-- A report on the run is stored, and the one on its exposure is next. -/
  | reporting (key : RunKey) (report : Report)
  /-- `close_source_run` has compared the authority. -/
  | authorized (key : RunKey)
  /-- It has read the run. -/
  | finalizing (key : RunKey) (exposureId : String) (v : Validation)
  /-- Its exposure is final. -/
  | publishing (key : RunKey) (exposureId : String)
  | closing (key : RunKey)
  /-- `abort_source_run` has read the run. -/
  | aborting (key : RunKey) (exposureId : String) (state : ExposureState) (reason : String)
  /-- Its exposure was asked to end. -/
  | marking (key : RunKey) (state : ExposureState) (reason : String)
  /-- `recover_source_runs` has recovered the exposures. -/
  | selecting
  /-- It calls `abort_source_run`. -/
  | rescuing (key : RunKey) (state : ExposureState)

/-- A stage, with the runs that `recover_source_runs` has yet to abort. -/
structure Phase where
  stage : Stage
  rest : List (RunKey × ExposureState)

structure System (Process : Type) where
  world : State
  phase : Process → Phase

inductive Call
  | beginSourceRun (key : RunKey) (readStarted : Option ℚ) (fresh : Draw)
  | recordSourceRunRead (key : RunKey) (counters : ReadCounters) (readFinished : Option ℚ) (readComplete : Bool)
  | recordSourceRunValidation (key : RunKey) (v : Validation)
  | closeSourceRun (key : RunKey)
  | abortSourceRun (key : RunKey) (state : ExposureState) (reason : String)
  | recoverSourceRuns

inductive Action (Process : Type)
  /-- Anything else, and calls that nothing interrupts. -/
  | world (e : Event)
  | call (p : Process) (clock : PyFloat) (c : Call)
  /-- The next transaction of a process. -/
  | next (p : Process) (clock : PyFloat)
  | crash (p : Process)

/-- The end of a call, if this was it. -/
abbrev Ending := Option (Except PyError Unit)

section
variable {Process : Type} [DecidableEq Process]

def System.goOn (s : System Process) (p : Process) (world : State) (stage : Stage) : Ending × System Process :=
  (none, { world, phase := Function.update s.phase p { s.phase p with stage } })

/-- A call ends. In `recover_source_runs` the next run follows, unless it raised. -/
def System.end (s : System Process) (p : Process) (world : State) (answer : Except PyError Unit) : Ending × System Process :=
  match answer, (s.phase p).rest with
  | .ok _, (key, state) :: rest => (none, { world, phase := Function.update s.phase p ⟨.rescuing key state, rest⟩ })
  | answer, _ => (some answer, { world, phase := Function.update s.phase p ⟨.idle, []⟩ })

/-- The exposure of `begin_source_run`. -/
def System.beginExposure (s : System Process) (p : Process) (clock : PyFloat) (key : RunKey) (readStarted : Option ℚ) (fresh : Draw) :
    Ending × System Process :=
  if blank key.reservoirId || blank key.leaseId || blank key.baselineSignature || blank key.modelSignature then
    s.end p s.world (.error (.valueError "source-run identity and authority are required"))
  else
    match finiteReading clock with
    | none => s.end p s.world (.error clockError)
    | some now =>
      if readStarted.any (· < 0) then s.end p s.world (.error (.valueError "read_started must be finite and non-negative"))
      else
        match ProductionExposures.beginProductionExposure s.world.exposures.exposures clock (sequential key) fresh with
        | (.error err, exposures) => s.end p (s.world.withExposures exposures) (.error err)
        | (.ok exposure, exposures) =>
          s.goOn p (s.world.withExposures exposures) (.registering key exposure.exposureId now (some (readStarted.getD now)))

/-- The transaction of `record_source_run_read`. -/
def System.read (s : System Process) (p : Process) (clock : PyFloat) (key : RunKey) (counters : ReadCounters)
    (readFinished : Option ℚ) (readComplete : Bool) : Ending × System Process :=
  match readProblem counters readFinished with
  | some err => s.end p s.world (.error err)
  | none =>
    match finiteReading clock with
    | none => s.end p s.world (.error clockError)
    | some now =>
      match recordRead s.world.runs now key counters readFinished readComplete with
      | (.error err, _) => s.end p s.world (.error err)
      | (.ok _, runs) => s.goOn p (s.world.wrote key now runs) (.reporting key (readReport counters readComplete))

/-- The transaction of `record_source_run_validation`. -/
def System.validate (s : System Process) (p : Process) (clock : PyFloat) (key : RunKey) (v : Validation) : Ending × System Process :=
  match v.problem with
  | some err => s.end p s.world (.error err)
  | none =>
    match finiteReading clock with
    | none => s.end p s.world (.error clockError)
    | some now =>
      match recordValidation s.world.runs key v with
      | (.error err, _) => s.end p s.world (.error err)
      | (.ok _, runs) => s.goOn p (s.world.wrote key now runs) (.reporting key (validationReport v))

/-- The read of the run in `close_source_run`. -/
def System.readToClose (s : System Process) (p : Process) (key : RunKey) : Ending × System Process :=
  match s.world.runs.get? key with
  | none => s.end p s.world (.error (.keyError "unknown source run"))
  | some run =>
    if run.terminalState.any (· ≠ .finalClosed) then s.end p s.world (.ok ())
    else
      match run.exposureId with
      | none => s.goOn p s.world (.closing key)
      | some exposureId =>
        if !run.readComplete || !run.validation.complete then s.end p s.world (.ok ())
        else if run.validation.evidenceTasksTerminal ≠ run.validation.evidenceTasksCreated then s.end p s.world (.ok ())
        else s.goOn p s.world (.finalizing key exposureId run.validation)

/-- The calls on the exposure in `close_source_run`. -/
def System.finalize (s : System Process) (p : Process) (clock : PyFloat) (key : RunKey) (exposureId : String) (v : Validation) :
    Ending × System Process :=
  match s.world.exposures.exposures.get? exposureId with
  | none => s.end p s.world (.ok ())
  | some row =>
    match fromRow row with
    | .error err => s.end p s.world (.error err)
    | .ok exposure =>
      match ProductionExposures.finalizeProductionExposure s.world.exposures.exposures clock exposureId (.fin v.finalAcceptedEed)
          v.acceptedHostYears v.maxEvidenceSequence key.authority with
      | (.error err, exposures) => s.end p (s.world.withExposures exposures) (.error err)
      | (.ok false, exposures) => s.end p (s.world.withExposures exposures) (.ok ())
      | (.ok true, exposures) =>
        s.goOn p (s.world.withExposures exposures)
          (if exposure.identity.lane = "platform_year" then .publishing key exposureId else .closing key)

/-- The checks and the read of `abort_source_run`. -/
def System.readToAbort (s : System Process) (p : Process) (key : RunKey) (state : ExposureState) (reason : String) :
    Ending × System Process :=
  if !([.aborted, .expired] : List ExposureState).contains state then
    s.end p s.world (.error (.valueError "source-run terminal state must be ABORTED or EXPIRED"))
  else if blank reason then s.end p s.world (.error (.valueError "source-run terminal reason is required"))
  else
    match s.world.runs.get? key with
    | none => s.end p s.world (.error (.keyError "unknown source run"))
    | some run =>
      if run.terminalState.isSome then s.end p s.world (.ok ())
      else
        match run.exposureId with
        | none => s.goOn p s.world (.marking key state reason)
        | some exposureId => s.goOn p s.world (.aborting key exposureId state reason)

/-- The transaction of `abort_source_run`. -/
def System.mark (s : System Process) (p : Process) (clock : PyFloat) (key : RunKey) (state : ExposureState) (reason : String) :
    Ending × System Process :=
  match finiteReading clock with
  | none => s.end p s.world (.error clockError)
  | some now =>
    s.end p (if (markTerminal s.world.runs key state reason).1 then s.world.wrote key now (markTerminal s.world.runs key state reason).2
      else s.world) (.ok ())

/-- The runs that `recover_source_runs` selects, by their `lease_id`. -/
def lostRuns (s : State) : List (RunKey × ExposureState) :=
  ((s.runs.rows.filter fun run => !run.closed && run.terminalState.isNone).insertionSort fun a b =>
      toLex (a.key.sourceKey, a.key.leaseId) ≤ toLex (b.key.sourceKey, b.key.leaseId)).filterMap fun run =>
    match s.exposures.leases.store.leases.get? run.key.leaseId with
    | none => none
    | some lease =>
      if lease.state = .expired then some (run.key, .expired)
      else if lease.state = .aborted then some (run.key, .aborted)
      else none

def System.start (s : System Process) (p : Process) (clock : PyFloat) : Call → Ending × System Process
  | .beginSourceRun key readStarted fresh => s.beginExposure p clock key readStarted fresh
  | .recordSourceRunRead key counters readFinished readComplete => s.read p clock key counters readFinished readComplete
  | .recordSourceRunValidation key v => s.validate p clock key v
  | .closeSourceRun key =>
    if s.world.scoutAuthority.any (· ≠ key.authority) then s.end p s.world (.ok ()) else s.goOn p s.world (.authorized key)
  | .abortSourceRun key state reason => s.readToAbort p key state reason
  | .recoverSourceRuns =>
    match ProductionExposures.step s.world.exposures ⟨clock, .recover⟩ with
    | (.error err, exposures) => s.end p { s.world with exposures } (.error err)
    | (.ok _, exposures) => s.goOn p { s.world with exposures } .selecting

def System.proceed (s : System Process) (p : Process) (clock : PyFloat) : Ending × System Process :=
  match (s.phase p).stage with
  | .idle => (none, s)
  | .registering key exposureId now readStarted => s.end p (s.world.register key now exposureId readStarted) (.ok ())
  | .reporting key report => s.end p (s.world.report clock key report).2 (s.world.report clock key report).1
  | .authorized key => s.readToClose p key
  | .finalizing key exposureId v => s.finalize p clock key exposureId v
  | .publishing key exposureId =>
    match publishPlatformYearFinal s.world exposureId with
    | .error err => s.end p s.world (.error err)
    | .ok false => s.end p s.world (.ok ())
    | .ok true => s.goOn p s.world (.closing key)
  | .closing key => s.end p (closeRow s.world clock key).2 ((closeRow s.world clock key).1.map fun _ => ())
  | .aborting key exposureId state reason =>
    match ProductionExposures.abortProductionExposure s.world.exposures.exposures clock exposureId state reason (some key.authority) with
    | (.error err, exposures) => s.end p (s.world.withExposures exposures) (.error err)
    -- whether the exposure did end is not looked at
    | (.ok _, exposures) => s.goOn p (s.world.withExposures exposures) (.marking key state reason)
  | .marking key state reason => s.mark p clock key state reason
  | .selecting => ({ s with phase := Function.update s.phase p ⟨.idle, lostRuns s.world⟩ } : System Process).end p s.world (.ok ())
  | .rescuing key state => s.readToAbort p key state (recoveredReason state)

/-- The steps, with the weights and masks behind signatures, the cutover of the evidence store, whether ignored inserts
    use up numbers, and the capacities of providers. -/
def step (a : Authorities) (cutover : Nat) (burns : Bool) (capacity : String → Nat) (s : System Process) :
    Action Process → Ending × System Process
  | .world e => (some ((RunClosing.step a cutover burns capacity s.world e).1.map fun _ => ()),
      { s with world := (RunClosing.step a cutover burns capacity s.world e).2 })
  | .call p clock c =>
    match (s.phase p).stage with
    | .idle => s.start p clock c
    | _ => (none, s)
  | .next p clock => s.proceed p clock
  | .crash p => (none, { s with phase := Function.update s.phase p ⟨.idle, []⟩ })

/-- Any number of processes, from no exposures. -/
def machine (a : Authorities) (cutover : Nat) (burns : Bool) (capacity : String → Nat) (leases : WorkLeases.System) :
    Machine (System Process) (Action Process) Ending where
  initial := ⟨RunClosing.initial leases, fun _ => ⟨.idle, []⟩⟩
  step := step a cutover burns capacity

end

/-! ## What a transaction leaves -/

section
variable {s s' s'' : State} {key : RunKey} {row : ExposureRow}

/-- Exposures stay whose they are. -/
def Holds (s s' : State) : Prop := ∀ id row, s.exposures.exposures.get? id = some row →
  ∃ row', s'.exposures.exposures.get? id = some row' ∧ row'.identity = row.identity

theorem Holds.belongs (holds : Holds s s') {id : String} (there : ∃ row, s.exposures.exposures.get? id = some row ∧ Belongs row id key) :
    ∃ row, s'.exposures.exposures.get? id = some row ∧ Belongs row id key := by
  obtain ⟨row, stored, belongs⟩ := there
  obtain ⟨row', stored', same⟩ := holds id row stored
  exact ⟨row', stored', belongs.same same⟩

theorem Holds.refl (s : State) : Holds s s := fun _ row stored => ⟨row, stored, rfl⟩

theorem holds_begin (s : State) (clock : PyFloat) (key : RunKey) (readStarted : Option ℚ) (fresh : Draw) :
    Holds s (beginSourceRun s clock key readStarted fresh).2 := by
  have begun := keeps_with s ⟨clock, .begin (sequential key) fresh⟩
  simp only [ProductionExposures.step] at begun
  unfold beginSourceRun
  split
  · exact .refl s
  split
  · exact .refl s
  split
  · exact .refl s
  generalize ProductionExposures.beginProductionExposure s.exposures.exposures clock (sequential key) fresh = result at begun
  obtain ⟨_ | _, exposures⟩ := result
  · exact begun.exposures
  · exact begun.exposures

theorem beginForExposure_exposures (s : State) (clock : PyFloat) (exposureId : String) (readStarted : Option ℚ) :
    (beginSourceRunForExposure s clock exposureId readStarted).2.exposures = s.exposures := by
  unfold beginSourceRunForExposure
  split
  · rfl
  split
  · rfl
  split
  · rfl
  split
  · rfl
  split
  · rfl
  dsimp only
  split <;> rfl

theorem holds_step (a : Authorities) (cutover : Nat) (burns : Bool) (capacity : String → Nat) (s : State) (e : Event) :
    Holds s (RunClosing.step a cutover burns capacity s e).2 := by
  cases e with
  | exposure e => exact (keeps_exposures s e).exposures
  | beginSourceRun clock key readStarted fresh => exact holds_begin s clock key readStarted fresh
  | beginSourceRunForExposure clock exposureId readStarted =>
    have same := beginForExposure_exposures s clock exposureId readStarted
    intro id row stored
    refine ⟨row, ?_, rfl⟩
    show (beginSourceRunForExposure s clock exposureId readStarted).2.exposures.exposures.get? id = some row
    rw [same]
    exact stored
  | recordSourceRunRead clock key counters readFinished readComplete =>
    exact (keeps_read s clock key counters readFinished readComplete).exposures
  | abortSourceRun clock key state reason => exact (keeps_abort s clock key state reason).exposures
  | reconcile clock =>
    simp only [RunClosing.step]
    split
    · exact (keeps_reconcile s clock).exposures
    · exact .refl s
  | _ => exact .refl s

end

/-! ## The invariant -/

section
variable {Process : Type} [DecidableEq Process] {a : Authorities} {s : System Process}

/-- Runs have exposures of their own, also those that are about to be registered. -/
structure Inv (a : Authorities) (s : System Process) : Prop where
  world : ∃ es, RunClosing.Inv a s.world es
  registering : ∀ p key exposureId now readStarted, (s.phase p).stage = .registering key exposureId now readStarted →
    ∃ row, s.world.exposures.exposures.get? exposureId = some row ∧ Belongs row exposureId key

theorem Inv.move (inv : Inv a s) (p : Process) {world : State} (kept : ∃ es, RunClosing.Inv a world es) (holds : Holds s.world world)
    {phase : Phase} (own : ∀ key exposureId now readStarted, phase.stage = .registering key exposureId now readStarted →
      ∃ row, world.exposures.exposures.get? exposureId = some row ∧ Belongs row exposureId key) :
    Inv a ⟨world, Function.update s.phase p phase⟩ where
  world := kept
  registering q key exposureId now readStarted here := by
    have moved : (Function.update s.phase p phase q).stage = .registering key exposureId now readStarted := here
    rw [Function.update_apply] at moved
    split at moved
    · exact own key exposureId now readStarted moved
    · exact holds.belongs (inv.registering q key exposureId now readStarted moved)

theorem Inv.end (inv : Inv a s) (p : Process) {world : State} (kept : ∃ es, RunClosing.Inv a world es) (holds : Holds s.world world)
    (answer : Except PyError Unit) : Inv a (s.end p world answer).2 := by
  unfold System.end
  split
  · exact inv.move p kept holds fun _ _ _ _ here => nomatch here
  · exact inv.move p kept holds fun _ _ _ _ here => nomatch here

theorem Inv.goOn (inv : Inv a s) (p : Process) {world : State} (kept : ∃ es, RunClosing.Inv a world es) (holds : Holds s.world world)
    {stage : Stage} (own : ∀ key exposureId now readStarted, stage = .registering key exposureId now readStarted →
      ∃ row, world.exposures.exposures.get? exposureId = some row ∧ Belongs row exposureId key) :
    Inv a (s.goOn p world stage).2 := inv.move p kept holds own

omit [DecidableEq Process] in
theorem Inv.kept (inv : Inv a s) {world : State} (keeps : Keeps s.world world) : ∃ es, RunClosing.Inv a world es := by
  obtain ⟨es, held⟩ := inv.world
  exact ⟨es, held.keeps keeps⟩

theorem Inv.ends (inv : Inv a s) (p : Process) {world : State} (keeps : Keeps s.world world) (answer : Except PyError Unit) :
    Inv a (s.end p world answer).2 := inv.end p (inv.kept keeps) keeps.exposures answer

theorem Inv.goes (inv : Inv a s) (p : Process) {world : State} (keeps : Keeps s.world world) {stage : Stage}
    (other : ∀ key exposureId now readStarted, stage ≠ .registering key exposureId now readStarted) :
    Inv a (s.goOn p world stage).2 :=
  inv.goOn p (inv.kept keeps) keeps.exposures fun key exposureId now readStarted here => absurd here (other key exposureId now readStarted)

theorem Inv.stays (inv : Inv a s) (p : Process) (answer : Except PyError Unit) : Inv a (s.end p s.world answer).2 :=
  inv.ends p (.refl s.world) answer

theorem Inv.beginExposure (inv : Inv a s) (p : Process) (clock : PyFloat) (key : RunKey) (readStarted : Option ℚ) (fresh : Draw) :
    Inv a (s.beginExposure p clock key readStarted fresh).2 := by
  unfold System.beginExposure
  split
  · exact inv.stays p _
  split
  · exact inv.stays p _
  split
  · exact inv.stays p _
  have begun := keeps_with s.world ⟨clock, .begin (sequential key) fresh⟩
  have belongs := @begin_belongs s.world.exposures.exposures clock key fresh
  simp only [ProductionExposures.step] at begun
  generalize ProductionExposures.beginProductionExposure s.world.exposures.exposures clock (sequential key) fresh = result at begun belongs
  obtain ⟨err | exposure, exposures⟩ := result
  · exact inv.ends p begun _
  · refine inv.goOn p (inv.kept begun) begun.exposures ?_
    rintro _ _ _ _ ⟨⟩
    exact ⟨_, belongs rfl⟩

theorem Inv.read (inv : Inv a s) (p : Process) (clock : PyFloat) (key : RunKey) (counters : ReadCounters) (readFinished : Option ℚ)
    (readComplete : Bool) : Inv a (s.read p clock key counters readFinished readComplete).2 := by
  unfold System.read
  split
  · exact inv.stays p _
  split
  · exact inv.stays p _
  rename_i problem _ now reads
  unfold recordRead
  rw [problem]
  dsimp only
  cases (s.world.runs.get? key).filter (!·.closed) with
  | none => exact inv.stays p _
  | some found =>
    by_cases room : counters.list.all ProductionExposures.fitsColumn = true
    · simp only [room, Bool.not_true, Bool.false_eq_true, if_false]
      refine inv.goes p ?_ (by simp)
      exact keeps_wrote s.world key now (by intro _; rfl) fun _ => rfl
    · simp only [room, Bool.not_false, if_true]
      exact inv.stays p _

theorem Inv.validate (inv : Inv a s) (p : Process) (clock : PyFloat) (key : RunKey) (v : Validation) :
    Inv a (s.validate p clock key v).2 := by
  unfold System.validate
  split
  · exact inv.stays p _
  split
  · exact inv.stays p _
  rename_i problem _ now reads
  unfold recordValidation
  rw [problem]
  dsimp only
  cases (s.world.runs.get? key).filter (!·.closed) with
  | none => exact inv.stays p _
  | some found =>
    by_cases room : v.counts.all ProductionExposures.fitsColumn = true
    · simp only [room, Bool.not_true, Bool.false_eq_true, if_false]
      refine inv.goes p ?_ (by simp)
      exact keeps_wrote s.world key now (by intro _; rfl) fun _ => rfl
    · simp only [room, Bool.not_false, if_true]
      exact inv.stays p _

theorem Inv.readToClose (inv : Inv a s) (p : Process) (key : RunKey) : Inv a (s.readToClose p key).2 := by
  unfold System.readToClose
  split
  · exact inv.stays p _
  split
  · exact inv.stays p _
  split
  · exact inv.goes p (.refl s.world) nofun
  split
  · exact inv.stays p _
  split
  · exact inv.stays p _
  · exact inv.goes p (.refl s.world) nofun

theorem Inv.finalize (inv : Inv a s) (p : Process) (clock : PyFloat) (key : RunKey) (exposureId : String) (v : Validation) :
    Inv a (s.finalize p clock key exposureId v).2 := by
  have finalized := keeps_with s.world
    ⟨clock, .finalize exposureId (.fin v.finalAcceptedEed) v.acceptedHostYears v.maxEvidenceSequence key.authority⟩
  simp only [ProductionExposures.step] at finalized
  unfold System.finalize
  split
  · exact inv.stays p _
  split
  · exact inv.stays p _
  generalize ProductionExposures.finalizeProductionExposure s.world.exposures.exposures clock exposureId (.fin v.finalAcceptedEed)
    v.acceptedHostYears v.maxEvidenceSequence key.authority = answer at *
  obtain ⟨_ | _ | _, exposures⟩ := answer
  · exact inv.ends p finalized _
  · exact inv.ends p finalized _
  · refine inv.goes p finalized ?_
    intro _ _ _ _
    split <;> simp

theorem Inv.readToAbort (inv : Inv a s) (p : Process) (key : RunKey) (state : ExposureState) (reason : String) :
    Inv a (s.readToAbort p key state reason).2 := by
  unfold System.readToAbort
  split
  · exact inv.stays p _
  split
  · exact inv.stays p _
  split
  · exact inv.stays p _
  split
  · exact inv.stays p _
  split
  · exact inv.goes p (.refl s.world) nofun
  · exact inv.goes p (.refl s.world) nofun

theorem Inv.mark (inv : Inv a s) (p : Process) (clock : PyFloat) (key : RunKey) (state : ExposureState) (reason : String) :
    Inv a (s.mark p clock key state reason).2 := by
  unfold System.mark
  split
  · exact inv.stays p _
  · split
    · refine inv.ends p ?_ _
      exact keeps_wrote s.world key _ (by intro _; rfl) fun _ => rfl
    · exact inv.stays p _

theorem Inv.start (inv : Inv a s) (p : Process) (clock : PyFloat) (c : Call) : Inv a (s.start p clock c).2 := by
  cases c with
  | beginSourceRun key readStarted fresh => exact inv.beginExposure p clock key readStarted fresh
  | recordSourceRunRead key counters readFinished readComplete => exact inv.read p clock key counters readFinished readComplete
  | recordSourceRunValidation key v => exact inv.validate p clock key v
  | closeSourceRun key =>
    simp only [System.start]
    split
    · exact inv.stays p _
    · exact inv.goes p (.refl s.world) nofun
  | abortSourceRun key state reason => exact inv.readToAbort p key state reason
  | recoverSourceRuns =>
    have recovered := keeps_exposures s.world ⟨clock, .recover⟩
    simp only [System.start]
    generalize ProductionExposures.step s.world.exposures ⟨clock, .recover⟩ = answer at *
    obtain ⟨_ | _, exposures⟩ := answer
    · exact inv.ends p recovered _
    · exact inv.goes p recovered nofun

theorem Inv.proceed (inv : Inv a s) (p : Process) (clock : PyFloat) : Inv a (s.proceed p clock).2 := by
  unfold System.proceed
  split
  · exact inv
  · rename_i key exposureId now readStarted here
    obtain ⟨row, stored, belongs⟩ := inv.registering p key exposureId now readStarted here
    obtain ⟨es, held⟩ := inv.world
    exact inv.end p ⟨es, held.registers (registered_register held.registered now readStarted stored belongs) ⟨rfl, rfl⟩⟩ (.refl s.world) _
  · exact inv.ends p (keeps_report s.world clock _ _) _
  · exact inv.readToClose p _
  · exact inv.finalize p clock _ _ _
  · split
    · exact inv.stays p _
    · exact inv.stays p _
    · exact inv.goes p (.refl s.world) (by simp)
  · exact inv.ends p (keeps_closeRow s.world clock _) _
  · rename_i key exposureId state reason here
    have aborted := keeps_with s.world ⟨clock, .abort exposureId state reason (some key.authority)⟩
    simp only [ProductionExposures.step] at aborted
    generalize ProductionExposures.abortProductionExposure s.world.exposures.exposures clock exposureId state reason (some key.authority) =
      answer at *
    obtain ⟨_ | _, exposures⟩ := answer
    · exact inv.ends p aborted _
    · exact inv.goes p aborted (by simp)
  · exact inv.mark p clock _ _ _
  · have listed : Inv a ⟨s.world, Function.update s.phase p ⟨.idle, lostRuns s.world⟩⟩ :=
      inv.move p inv.world (.refl s.world) (by simp)
    exact listed.stays p _
  · exact inv.readToAbort p _ _ _

theorem inv_step (inv : Inv a s) (cutover : Nat) (burns : Bool) (capacity : String → Nat) (e : Action Process) :
    Inv a (step a cutover burns capacity s e).2 := by
  cases e with
  | world e =>
    obtain ⟨es, held⟩ := inv.world
    refine ⟨⟨_, RunClosing.inv_step held e⟩, fun p key exposureId now readStarted here => ?_⟩
    exact (holds_step a cutover burns capacity s.world e).belongs (inv.registering p key exposureId now readStarted here)
  | call p clock c =>
    simp only [step]
    split
    · exact inv.start p clock c
    · exact inv
  | next p clock => exact inv.proceed p clock
  | crash p => exact inv.move p inv.world (.refl s.world) fun _ _ _ _ here => nomatch here

theorem run_inv (a : Authorities) (cutover : Nat) (burns : Bool) (capacity : String → Nat) (leases : WorkLeases.System)
    (history : List (Action Process)) : Inv a ((machine a cutover burns capacity leases).final history) := by
  induction history using List.reverseRecOn with
  | nil => exact ⟨⟨[], RunClosing.run_inv a cutover burns capacity leases []⟩, fun _ _ _ _ _ here => nomatch here⟩
  | append_singleton history e ih =>
    rw [Machine.final_snoc]
    exact inv_step ih cutover burns capacity e

end

/-! ## Reconciliation -/

theorem loop_answers {s : State} {clock : PyFloat} {evidenceCursor : Nat} {l : List RunRow} (separate : Separate s l) :
    (∃ closed, (reconcileRuns clock evidenceCursor l s).1 = .ok closed) ↔ ∀ u ∈ l, u.closed = false → Steady s clock u := by
  induction l generalizing s with
  | nil => exact iff_of_true ⟨0, rfl⟩ fun _ member => nomatch member
  | cons u rest ih =>
    obtain ⟨first, -⟩ := List.pairwise_cons.mp separate.distinct
    obtain ⟨id, row, placed⟩ := separate.placed u List.mem_cons_self
    rw [reconcileRuns, List.forall_mem_cons]
    by_cases closed : u.closed = true
    · rw [if_pos closed, ih (separate.rest (.refl u s))]
      simp [closed]
    · have open_ : u.closed = false := by simpa using closed
      rw [if_neg closed]
      have apart := @pass_apart s clock u id row evidenceCursor placed open_
      by_cases steady : Steady s clock u
      · obtain ⟨⟨answered, isOk⟩, -, -⟩ := @pass_steady s clock u id row evidenceCursor placed open_ steady
        have next := ih (separate.rest apart)
        have same : (∀ v ∈ rest, v.closed = false → Steady (reconcileRun s clock evidenceCursor u).2 clock v) ↔
            ∀ v ∈ rest, v.closed = false → Steady s clock v :=
          forall₂_congr fun v inside => imp_congr_right fun _ => apart.steady (first v inside).2
        rw [same] at next
        generalize reconcileRun s clock evidenceCursor u = answer at *
        obtain ⟨_ | _, t⟩ := answer
        · cases isOk
        · rw [← next, and_iff_right fun _ => steady]
          dsimp only
          generalize (reconcileRuns clock evidenceCursor rest t).1 = later
          cases later <;> simp [Except.map]
      · obtain ⟨⟨err, raises⟩, -, -⟩ := @pass_unsteady s clock u id row evidenceCursor placed open_ steady
        refine iff_of_false ?_ fun all => steady (all.1 open_)
        rintro ⟨n, answer⟩
        generalize reconcileRun s clock evidenceCursor u = result at *
        obtain ⟨_ | _, t⟩ := result
        · cases answer
        · cases raises

/-- The ledger has an authority, and every run of it that is neither closed nor aborted can be reported on. -/
def Unwedged (s : State) (clock : PyFloat) : Prop :=
  ∃ state, s.readiness.ledger.state = some state ∧ ∀ run ∈ s.runs.rows,
    run.key.authority = (state.signatures.baseline, state.signatures.model) → run.terminalState.all (· = .finalClosed) = true →
      run.closed = false → Steady s clock run

/-- Reconciliation completes without raising exactly in these states. -/
theorem completes_iff {Process : Type} [DecidableEq Process] (a : Authorities) (cutover : Nat) (burns : Bool) (capacity : String → Nat)
    (leases : WorkLeases.System) (history : List (Action Process)) (clock : PyFloat) :
    (∃ closed, (reconcileSourceRunRewards ((machine a cutover burns capacity leases).final history).world clock).1 = .ok closed) ↔
      Unwedged ((machine a cutover burns capacity leases).final history).world clock := by
  obtain ⟨es, inv⟩ := (run_inv a cutover burns capacity leases history).world
  generalize ((machine a cutover burns capacity leases).final history).world = s at *
  unfold reconcileSourceRunRewards Unwedged
  cases s.readiness.ledger.state with
  | none => simp
  | some state =>
    simp only [Option.some.injEq, exists_eq_left']
    rw [loop_answers (separate_listed inv.registered _)]
    simp only [mem_listed]
    exact ⟨fun all run member authority live => all run ⟨member, live, authority⟩, fun all run listed => all run listed.1 listed.2.2 listed.2.1⟩

/-! ## Runs that wedge it -/

/-- A process stops once the exposure of a run is final. -/
def stoppedClosing : List (Action Bool) :=
  [.world (.start ⟨"x", "m"⟩), .world (.beginSourceRun (.fin 1) sampleKey none ProductionExposures.draw),
    .world (.recordSourceRunRead (.fin 2) sampleKey ⟨0, 0, 0, 0, 0⟩ none true),
    .call false (.fin 3) (.recordSourceRunValidation sampleKey ⟨0, 0, 0, 0, 0, 0, 0, 0, true⟩), .next false (.fin 3),
    .call false (.fin 4) (.closeSourceRun sampleKey), .next false (.fin 4), .next false (.fin 4), .crash false]

def regionOpening : ProductionExposures.Opening where
  sourceKey := "source"
  reservoirId := "reservoir"
  leaseId := some "region"
  taskId := "lease"
  lane := "historical_region"
  baselineSignature := some "x"
  modelSignature := some "m"
  exposureId := some "region"

/-- It expires with the lease of the region, and runs are recovered. -/
def expiredRegion : List (Action Bool) :=
  [.world (.start ⟨"x", "m"⟩), .world (.exposure ⟨.fin 1, .begin regionOpening ProductionExposures.draw⟩),
    .world (.beginSourceRunForExposure (.fin 1) "region" none),
    .world (.exposure ⟨.fin 2, .abort "region" .expired "ownership lease expired" none⟩),
    .call false (.fin 3) .recoverSourceRuns, .next false (.fin 3)]

def Raises (history : List (Action Bool)) : Prop :=
  (reconcileSourceRunRewards ((machine Readiness.twoBaselines 0 false (fun _ => 0) endedLeases).final history).world (.fin 5)).1 =
    .error (.valueError "production exposure is terminal")

theorem reconciliation_raises : Raises stoppedClosing ∧ Raises expiredRegion := by
  have raises : ∀ {answer : Except PyError Nat} {err : PyError},
      Except.rec (fun e => decide (e = err)) (fun _ => false) answer = true → answer = .error err := by
    intro answer err isErr
    cases answer with
    | error e => rw [of_decide_eq_true isErr]
    | ok n => cases isErr
  exact ⟨raises (by decide +kernel), raises (by decide +kernel)⟩

end Creeper.RunRecovery
