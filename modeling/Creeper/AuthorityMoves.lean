import Creeper.AuthorityStore

/-!
# What one call does to one row of work

Every call either leaves a row of `fabric_work` as it is or makes one of a few
moves. The moves keep the shape of the row: its lease columns are set exactly
when it is leased, and its counters and its definition stay well formed.
-/

namespace Creeper.AuthorityStore
open Creeper.Runs Creeper.Tables Creeper.PyNumbers Creeper.JsonText Creeper.FabricModels

/-! ## Shapes -/

/-- The row is leased to an instance under a generation, and the lease has not expired. -/
structure Holds (row : WorkRow) (now : ℚ) (workerId workerInstanceId : String) (generation : Int) : Prop where
  leased : row.state = .leased
  owner : row.leaseOwner = some workerId
  owningInstance : row.leaseOwnerInstance = some workerInstanceId
  current : (row.leaseGeneration : Int) = generation
  unexpired : ∃ deadline, row.leaseDeadline = some deadline ∧ PyFloat.lt (.fin now) deadline

/-- What every row of a reachable store satisfies. -/
structure RowShape (row : WorkRow) : Prop where
  held : row.state = .leased → ∃ w i, row.leaseOwner = some w ∧ row.leaseOwnerInstance = some i
  free : row.state ≠ .leased → row.leaseOwner = none ∧ row.leaseOwnerInstance = none ∧ row.leaseDeadline = none
  deadline : row.leaseDeadline ≠ some .nan
  counters : row.attempt = row.leaseGeneration
  bounded : (row.attempt : ℤ) ≤ row.fields.maxAttempts
  retryable : row.state = .retry → (row.attempt : ℤ) < row.fields.maxAttempts
  started : row.state = .leased → 1 ≤ row.attempt ∧ row.fields.notBefore.isFinite
  waits : row.fields.notBefore.isNan = false ∧ row.fields.notBefore.lt (.fin 0) = false
  definition : ∀ notBefore : PyFloat, notBefore.isFinite → notBefore.lt (.fin 0) = false →
    ({ row.fields with notBefore } : WorkFields).postInit = none

def Shaped (s : Store) : Prop := ∀ row ∈ s.work.rows, RowShape row

theorem shaped_empty : Shaped Store.empty := by
  intro row member
  cases member

theorem Shaped.get {s : Store} (shaped : Shaped s) {taskId : String} {row : WorkRow}
    (found : s.work.get? taskId = some row) : RowShape row := shaped row (Table.mem_of_get? found)

theorem Holds.earlier {row : WorkRow} {now later : ℚ} {w i : String} {g : Int} (le : now ≤ later)
    (holds : Holds row later w i g) : Holds row now w i g := by
  obtain ⟨d, due, above⟩ := holds.unexpired
  exact ⟨holds.leased, holds.owner, holds.owningInstance, holds.current, d, due, PyFloat.lt_of_le_lt le above⟩

def Terminal (row : WorkRow) : Prop := row.state = .complete ∨ row.state = .dead

theorem lt_of_not_le {now : ℚ} {x : PyFloat} (number : x ≠ .nan) (notPast : x.le (.fin now) = false) :
    PyFloat.lt (.fin now) x := by
  rw [PyFloat.le_iff_not_lt number] at notPast
  simpa using notPast

theorem workerRow_error {s : Store} {w i : String} {err : PyError} (rejected : workerRow s w i = .error err) :
    err = .workerRejected "unknown, revoked, or stale worker instance" := by
  unfold workerRow at rejected
  split at rejected
  · cases rejected
    rfl
  · split at rejected
    · cases rejected
      rfl
    · cases rejected

theorem assertActiveLease_error {s : Store} {now : ℚ} {t w i : String} {g : Int} {err : PyError}
    (rejected : assertActiveLease s now t w i g = .error err) :
    err = .staleLease "worker no longer owns the active lease generation" := by
  unfold assertActiveLease at rejected
  split at rejected
  · cases rejected
    rfl
  · split at rejected
    · cases rejected
      rfl
    · cases rejected

/-- The fence lets only the holder of the unexpired lease through. -/
theorem assertActiveLease_ok {s : Store} (shaped : Shaped s) {now : ℚ} {taskId workerId workerInstanceId : String}
    {generation : Int} {row : WorkRow}
    (accepted : assertActiveLease s now taskId workerId workerInstanceId generation = .ok row) :
    s.work.get? taskId = some row ∧ Holds row now workerId workerInstanceId generation := by
  unfold assertActiveLease at accepted
  cases found : s.work.get? taskId with
  | none => simp [found] at accepted
  | some r =>
    simp only [found] at accepted
    split at accepted
    · cases accepted
    · rename_i through
      cases accepted
      simp only [Bool.or_eq_true, decide_eq_true_eq, not_or, ne_eq, not_not, Bool.not_eq_true] at through
      obtain ⟨⟨⟨⟨leased, owner⟩, owningInstance⟩, current⟩, deadline⟩ := through
      have shape := shaped.get found
      obtain ⟨w, i, ownerIs, instanceIs⟩ := shape.held leased
      refine ⟨rfl, leased, ?_, ?_, current, ?_⟩
      · rw [← owner, ownerIs]
        rfl
      · rw [← owningInstance, instanceIs]
        rfl
      · cases due : row.leaseDeadline with
        | none => simp [due] at deadline
        | some d =>
          simp only [due, Option.all_some] at deadline
          refine ⟨d, rfl, lt_of_not_le ?_ deadline⟩
          rintro rfl
          exact shape.deadline due

theorem assertActiveLease_holds {s : Store} {now : ℚ} {taskId workerId workerInstanceId : String}
    {generation : Int} {row : WorkRow} (found : s.work.get? taskId = some row)
    (holds : Holds row now workerId workerInstanceId generation) :
    assertActiveLease s now taskId workerId workerInstanceId generation = .ok row := by
  obtain ⟨leased, owner, owningInstance, current, d, due, above⟩ := holds
  have number : d ≠ .nan := by
    rintro rfl
    simp [PyFloat.lt] at above
  have notPast : d.le (.fin now) = false := by rw [PyFloat.le_iff_not_lt number, above]; rfl
  simp [assertActiveLease, found, leased, owner, owningInstance, current, due, strOf, notPast]

/-- A row that can be granted, or is, holds a valid definition. -/
def RowShape.work {row : WorkRow} (shape : RowShape row) (finite : row.fields.notBefore.isFinite) : WorkDefinition :=
  ⟨row.fields, shape.definition row.fields.notBefore finite shape.waits.2⟩

theorem leaseOf_ok {row : WorkRow} (shape : RowShape row) (finite : row.fields.notBefore.isFinite)
    {generation attempt : Nat} (positive : 1 ≤ generation ∧ 1 ≤ attempt) (w i : String) (deadline : PyFloat) :
    leaseOf row w i generation deadline attempt =
      .ok ⟨row.taskId, row.workKey, w, i, generation, deadline, attempt, shape.work finite, row.cursor,
        row.nextSequenceNo⟩ := by
  have valid : row.fields.postInit = none := shape.definition row.fields.notBefore finite shape.waits.2
  have made : WorkDefinition.make row.fields = .ok (shape.work finite) := by
    unfold WorkDefinition.make
    split
    · rfl
    · rename_i bad
      rw [valid] at bad
      cases bad
  have counters : ¬(generation < 1 ∨ attempt < 1) := by omega
  simp only [leaseOf, made, TaskLease.make, counters, if_false]

/-! ## Moves -/

def accepted (r : Step Store Event (Except PyError Reply)) : Option ResultBatch :=
  match r.event.op, r.outcome with
  | .commitResultBatch batch _ _, .ok (.flag true) => some batch
  | _, _ => none

/-- The lease that a step grants, as opposed to one that it replays. -/
def freshGrant (r : Step Store Event (Except PyError Reply)) : Option TaskLease :=
  match r.event.op, r.outcome with
  | .claimWork _ w i _, .ok (.claimed (some lease)) =>
    if (activeLease r.before w i r.event.now).isNone then some lease else none
  | _, _ => none

abbrev taken (s : Store) (e : Event) : Step Store Event (Except PyError Reply) := authority.take s e

/-- A call of another instance of the owner, or the revocation of the owner. -/
def Releases (op : Op) (row : WorkRow) : Prop :=
  (∃ d : WorkerDescriptor, op = .registerWorker d ∧ row.leaseOwner = some d.workerId ∧
      row.leaseOwnerInstance ≠ some d.workerInstanceId) ∨
    ∃ w, op = .revokeWorker w ∧ row.leaseOwner = some w

/-- The row that a claim would grant: the first candidate that fits, for a registered
    instance that holds nothing. -/
def grantee (s : Store) (now : ℚ) (scan : String → Nat) (w i : String) : Option WorkRow :=
  match workerRow s w i with
  | .error _ => none
  | .ok worker =>
    match activeLease s w i now with
    | some _ => none
    | none => (candidates s now scan).find? (fun row => eligible row worker && regionEligible s row worker now)

theorem grantee_some {s : Store} {now : ℚ} {scan : String → Nat} {w i : String} {row : WorkRow}
    (chosen : grantee s now scan w i = some row) :
    ∃ worker, workerRow s w i = .ok worker ∧ activeLease s w i now = none ∧
      (candidates s now scan).find? (fun row => eligible row worker && regionEligible s row worker now) = some row := by
  unfold grantee at chosen
  split at chosen
  · cases chosen
  · rename_i worker registered
    split at chosen
    · cases chosen
    · rename_i idle
      exact ⟨worker, registered, idle, chosen⟩

inductive RowMove (s : Store) (e : Event) (taskId : String) : Option WorkRow → Option WorkRow → Prop
  | same (row : Option WorkRow) (notAccepted : ∀ batch, accepted (taken s e) = some batch → batch.taskId ≠ taskId)
      (notGranted : ∀ lease, freshGrant (taken s e) = some lease → lease.taskId ≠ taskId) : RowMove s e taskId row row
  | admitted (work : WorkDefinition) (key : String) (isAdmit : e.op = .admitWork taskId work) :
      RowMove s e taskId none (some {
        taskId, workKey := key, fields := work.toWorkFields, state := .pending, leaseOwner := none,
        leaseOwnerInstance := none, leaseGeneration := 0, leaseDeadline := none, attempt := 0, cursor := none,
        nextSequenceNo := 0, lastError := none, createdAt := e.now, updatedAt := e.now })
  | released (row : WorkRow) (leased : row.state = .leased) (release : Releases e.op row) :
      RowMove s e taskId (some row) (some (row.unleased .pending e.now))
  | granted (row : WorkRow) (scan : String → Nat) (w i : String) (leaseSeconds : PyFloat)
      (isClaim : e.op = .claimWork scan w i leaseSeconds) (positive : leaseSeconds.le (.fin 0) = false)
      (chosen : grantee s e.now scan w i = some row) (open_ : claimable row e.now) (lease : TaskLease) (grant : freshGrant (taken s e) = some lease)
      (sameTask : lease.taskId = taskId) (next : lease.generation = row.leaseGeneration + 1)
      (due : lease.leaseDeadline = (PyFloat.fin e.now).add leaseSeconds) :
      RowMove s e taskId (some row) (some (row.granted w i ((PyFloat.fin e.now).add leaseSeconds) e.now))
  | renewed (row : WorkRow) (w i : String) (generation : Int) (leaseSeconds : PyFloat) (expected : Option PyFloat)
      (deadline : PyFloat) (isRenew : e.op = .renewTask taskId w i generation leaseSeconds expected)
      (positive : leaseSeconds.le (.fin 0) = false) (holds : Holds row e.now w i generation)
      (renewal : renewedDeadline e.now (row.leaseDeadline.getD .nan) leaseSeconds expected = .ok deadline)
      (moved : deadline = (PyFloat.fin e.now).add leaseSeconds) :
      RowMove s e taskId (some row) (some { row with leaseDeadline := deadline.column, updatedAt := e.now })
  | committed (row : WorkRow) (batch : ResultBatch) (w i : String) (isCommit : e.op = .commitResultBatch batch w i)
      (sameTask : batch.taskId = taskId) (accept : accepted (taken s e) = some batch)
      (holds : Holds row e.now w i batch.generation) (next : row.nextSequenceNo = batch.sequenceNo) :
      RowMove s e taskId (some row) (some (row.committed batch.cursorAfter batch.final e.now))
  | finished (row : WorkRow) (w i : String) (generation : Int) (isFinish : e.op = .finishTask taskId w i generation)
      (holds : Holds row e.now w i generation) : RowMove s e taskId (some row) (some (row.unleased .complete e.now))
  | failed (row : WorkRow) (w i : String) (generation : Int) (error : String) (retryable : Bool) (after : PyFloat)
      (isFail : e.op = .failTask taskId w i generation error retryable after)
      (holds : Holds row e.now w i generation) (state : WorkState) (notBefore : PyFloat)
      (chosen : state = .retry ∧ (row.attempt : ℤ) < row.fields.maxAttempts ∨ state = .dead)
      (waits : notBefore.isNan = false ∧ notBefore.lt (.fin 0) = false) :
      RowMove s e taskId (some row) (some (row.failed state notBefore error e.now))
  | compacted (row : WorkRow) (retention : PyFloat) (limit : Int) (isGc : e.op = .gcTransientState retention limit)
      (complete : row.state = .complete) (nonempty : row.fields.payload.members.isEmpty = false) :
      RowMove s e taskId (some row) (some row.compacted)

/-- The checks of a definition, without the one of `not_before`. -/
theorem postInit_none {w : WorkFields} (valid : w.postInit = none) :
    1 ≤ w.maxAttempts ∧ w.notBefore.isFinite ∧ w.notBefore.lt (.fin 0) = false ∧
      ∀ notBefore : PyFloat, notBefore.isFinite → notBefore.lt (.fin 0) = false →
        ({ w with notBefore } : WorkFields).postInit = none := by
  unfold WorkFields.postInit at valid
  split_ifs at valid with text version capabilities providers attempts priority waits
  simp only [Bool.or_eq_true, Bool.not_eq_true', not_or, Bool.not_eq_false, Bool.not_eq_true] at waits
  refine ⟨by omega, waits.1, waits.2, ?_⟩
  intro notBefore finite positive
  simp [WorkFields.postInit, text, version, capabilities, providers, attempts, priority, finite, positive]

theorem isFinite_of_le {x : PyFloat} {now : ℚ} (past : x.le (.fin now)) (notNegative : x.lt (.fin 0) = false) :
    x.isFinite := by
  cases x <;> simp_all [PyFloat.le, PyFloat.lt, PyFloat.isFinite]

theorem RowShape.unleased {row : WorkRow} (shape : RowShape row) {state : WorkState} (notLeased : state ≠ .leased)
    (notRetry : state ≠ .retry) (now : ℚ) : RowShape (row.unleased state now) where
  held leased := absurd leased notLeased
  free _ := ⟨rfl, rfl, rfl⟩
  deadline := by simp
  counters := shape.counters
  bounded := shape.bounded
  retryable retry := absurd retry notRetry
  started leased := absurd leased notLeased
  waits := shape.waits
  definition := shape.definition

theorem RowMove.shape {s : Store} {e : Event} {taskId : String} {before after : Option WorkRow}
    (move : RowMove s e taskId before after) (shape : ∀ row, before = some row → RowShape row) :
    ∀ row, after = some row → RowShape row := by
  cases move with
  | same row => exact shape
  | admitted work key =>
    rintro row ⟨⟩
    obtain ⟨positive, finite, notNegative, definition⟩ := postInit_none work.valid
    have number : work.notBefore.isNan = false := by
      revert finite
      cases work.notBefore <;> simp [PyFloat.isFinite, PyFloat.isNan]
    exact ⟨by simp, by simp, by simp, rfl, by simp; omega, by simp, by simp, ⟨number, notNegative⟩, definition⟩
  | released old leased =>
    rintro row ⟨⟩
    exact (shape old rfl).unleased (by simp) (by simp) e.now
  | granted old scan w i leaseSeconds _ positive _ open_ =>
    rintro row ⟨⟩
    have oldShape := shape old rfl
    simp only [claimable, Bool.and_eq_true, decide_eq_true_eq] at open_
    have finite := isFinite_of_le open_.1.2 oldShape.waits.2
    refine ⟨fun _ => ⟨w, i, rfl, rfl⟩, by simp, PyFloat.column_ne_nan _, ?_, ?_, ?_, ?_,
      oldShape.waits, oldShape.definition⟩
    · simp [oldShape.counters]
    · have := open_.2
      simp only
      omega
    · intro retry
      cases retry
    · exact fun _ => ⟨by simp, finite⟩
  | renewed old w i generation leaseSeconds expected deadline _ _ holds =>
    rintro row ⟨⟩
    have oldShape := shape old rfl
    refine ⟨fun _ => ⟨w, i, holds.owner, holds.owningInstance⟩, ?_, PyFloat.column_ne_nan _, oldShape.counters,
      oldShape.bounded, oldShape.retryable, oldShape.started, oldShape.waits, oldShape.definition⟩
    exact fun notLeased => absurd holds.leased notLeased
  | committed old batch w i =>
    rintro row ⟨⟩
    have oldShape := shape old rfl
    rename_i holds _
    cases final : batch.final with
    | true =>
      refine ⟨by simp, by simp,
        by simp, oldShape.counters, oldShape.bounded, by simp,
        by simp, oldShape.waits, oldShape.definition⟩
    | false =>
      refine ⟨fun _ => ⟨w, i, by simp [holds.owner], by simp [holds.owningInstance]⟩,
        by simp, by simpa [WorkRow.committed] using oldShape.deadline,
        oldShape.counters, oldShape.bounded, by simp, ?_, oldShape.waits, oldShape.definition⟩
      exact fun _ => oldShape.started holds.leased
  | finished old w i generation =>
    rintro row ⟨⟩
    exact (shape old rfl).unleased (by simp) (by simp) e.now
  | failed old w i generation error retryable later _ _ state notBefore chosen waits =>
    rintro row ⟨⟩
    have oldShape := shape old rfl
    refine ⟨?_, fun _ => ⟨rfl, rfl, rfl⟩, by simp, oldShape.counters, oldShape.bounded, ?_, ?_, waits,
      oldShape.definition⟩
    · rcases chosen with ⟨rfl, -⟩ | rfl <;> simp
    · intro retry
      rcases chosen with ⟨-, below⟩ | rfl
      · exact below
      · cases retry
    · rcases chosen with ⟨rfl, -⟩ | rfl <;> simp
  | compacted old retention limit _ complete =>
    rintro row ⟨⟩
    have oldShape := shape old rfl
    have free := oldShape.free (by simp [complete])
    refine ⟨by simp [complete], fun _ => free, oldShape.deadline, oldShape.counters,
      oldShape.bounded, by simp [complete], by simp [complete], oldShape.waits, ?_⟩
    exact oldShape.definition

/-! ## Every call moves every row -/

theorem accepted_eq_none {s : Store} {e : Event} (other : ∀ batch w i, e.op ≠ .commitResultBatch batch w i) :
    accepted (taken s e) = none := by
  unfold accepted
  split
  · rename_i batch w i op _
    exact absurd op (other batch w i)
  · rfl

theorem freshGrant_eq_none {s : Store} {e : Event} (other : ∀ scan w i ls, e.op ≠ .claimWork scan w i ls) :
    freshGrant (taken s e) = none := by
  unfold freshGrant
  split
  · rename_i scan w i ls lease op _
    exact absurd op (other scan w i ls)
  · rfl

/-- A call that neither commits nor claims, and does not touch a row. -/
theorem RowMove.untouched {s : Store} {e : Event} {taskId : String} {before after : Option WorkRow}
    (noCommit : ∀ batch w i, e.op ≠ .commitResultBatch batch w i) (noClaim : ∀ scan w i ls, e.op ≠ .claimWork scan w i ls)
    (same : after = before) : RowMove s e taskId before after := by
  rw [same]
  refine .same _ ?_ ?_
  · simp [accepted_eq_none noCommit]
  · simp [freshGrant_eq_none noClaim]

section
variable {s : Store} {e : Event} (taskId : String)

theorem register_moves (d : WorkerDescriptor) (op : e.op = .registerWorker d) :
    RowMove s e taskId (s.work.get? taskId) ((registerWorker s e.now d).2.work.get? taskId) := by
  unfold registerWorker
  split
  · exact .untouched (by simp [op]) (by simp [op]) rfl
  · simp only [Table.get?_update]
    cases found : s.work.get? taskId with
    | none => exact .untouched (by simp [op]) (by simp [op]) rfl
    | some row =>
      simp only [Option.map_some]
      split
      · rename_i hit
        simp only [Bool.and_eq_true, decide_eq_true_eq] at hit
        obtain ⟨⟨leased, owner⟩, other⟩ := hit
        refine .released row leased (.inl ⟨d, op, owner, ?_⟩)
        intro same
        simp [same] at other
      · exact .untouched (by simp [op]) (by simp [op]) rfl

theorem revoke_moves (w : String) (op : e.op = .revokeWorker w) :
    RowMove s e taskId (s.work.get? taskId) ((revokeWorker s e.now w).2.work.get? taskId) := by
  unfold revokeWorker
  split
  · exact .untouched (by simp [op]) (by simp [op]) rfl
  · simp only [Table.get?_update]
    cases found : s.work.get? taskId with
    | none => exact .untouched (by simp [op]) (by simp [op]) rfl
    | some row =>
      simp only [Option.map_some]
      split
      · rename_i hit
        simp only [Bool.and_eq_true, decide_eq_true_eq] at hit
        exact .released row hit.1 (.inr ⟨w, op, hit.2⟩)
      · exact .untouched (by simp [op]) (by simp [op]) rfl

theorem admit_moves (drawn : String) (work : WorkDefinition) (op : e.op = .admitWork drawn work) :
    RowMove s e taskId (s.work.get? taskId) ((admitWork s e.now drawn work).2.work.get? taskId) := by
  unfold admitWork
  split
  · exact .untouched (by simp [op]) (by simp [op]) rfl
  rename_i key _
  split
  · split <;> exact .untouched (by simp [op]) (by simp [op]) rfl
  · rename_i fresh
    have absent : s.work.get? drawn = none := by
      rw [Table.get?_eq_none]
      intro row member same
      exact fresh (List.any_eq_true.mpr ⟨row, member, by simp [same]⟩)
    rw [Table.get?_insert (t := s.work) (r := ⟨drawn, key, work.toWorkFields, .pending, none, none, 0, none, 0, none, 0,
      none, e.now, e.now⟩) absent]
    split
    · rename_i here
      simp only at here
      subst here
      rw [absent]
      exact .admitted work key op
    · exact .untouched (by simp [op]) (by simp [op]) rfl

theorem renew_moves (shaped : Shaped s) (task w i : String) (generation : Int) (leaseSeconds : PyFloat) (expected : Option PyFloat)
    (op : e.op = .renewTask task w i generation leaseSeconds expected) :
    RowMove s e taskId (s.work.get? taskId)
      ((renewTask s e.now task w i generation leaseSeconds expected).2.work.get? taskId) := by
  unfold renewTask
  split
  · exact .untouched (by simp [op]) (by simp [op]) rfl
  rename_i positive
  split
  · exact .untouched (by simp [op]) (by simp [op]) rfl
  rename_i row through
  obtain ⟨found, holds⟩ := assertActiveLease_ok shaped through
  simp only []
  split
  · exact .untouched (by simp [op]) (by simp [op]) rfl
  rename_i deadline renewal
  split
  · exact .untouched (by simp [op]) (by simp [op]) rfl
  rename_i moved
  simp only [Table.get?_update_key]
  split
  · rename_i here
    subst here
    rw [found]
    refine .renewed row w i generation leaseSeconds expected deadline op (by simpa using positive) holds renewal ?_
    unfold renewedDeadline at renewal
    split at renewal
    · exact (Except.ok.inj renewal).symm
    · split_ifs at renewal
      · exact absurd (Except.ok.inj renewal).symm moved
      · exact (Except.ok.inj renewal).symm
  · exact .untouched (by simp [op]) (by simp [op]) rfl

theorem finish_moves (shaped : Shaped s) (task w i : String) (generation : Int) (op : e.op = .finishTask task w i generation) :
    RowMove s e taskId (s.work.get? taskId) ((finishTask s e.now task w i generation).2.work.get? taskId) := by
  unfold finishTask
  split
  · exact .untouched (by simp [op]) (by simp [op]) rfl
  rename_i row through
  obtain ⟨found, holds⟩ := assertActiveLease_ok shaped through
  simp only [Table.get?_update_key]
  split
  · rename_i here
    subst here
    rw [found]
    exact .finished row w i generation op holds
  · exact .untouched (by simp [op]) (by simp [op]) rfl

theorem fail_moves (shaped : Shaped s) (task w i : String) (generation : Int) (error : String) (retryable : Bool) (after : PyFloat)
    (op : e.op = .failTask task w i generation error retryable after) :
    RowMove s e taskId (s.work.get? taskId)
      ((failTask s e.now task w i generation error retryable after).2.work.get? taskId) := by
  unfold failTask
  split
  · exact .untouched (by simp [op]) (by simp [op]) rfl
  rename_i notNegative
  split
  · exact .untouched (by simp [op]) (by simp [op]) rfl
  rename_i row through
  obtain ⟨found, holds⟩ := assertActiveLease_ok shaped through
  split
  · exact .untouched (by simp [op]) (by simp [op]) rfl
  rename_i number
  simp only [Table.get?_update_key]
  split
  · rename_i here
    subst here
    rw [found]
    refine .failed row w i generation error retryable after op holds _ _ ?_ ⟨by simpa using number, ?_⟩
    · by_cases again : canRetry row retryable
      · left
        simp only [again, if_true, true_and]
        simp only [canRetry, Bool.and_eq_true, decide_eq_true_eq] at again
        exact again.2
      · right
        simp [again]
    · have epoch := e.sinceEpoch
      have zero : ∀ x : PyFloat, x.lt (.fin 0) = false → ((PyFloat.fin e.now).add x).lt (.fin 0) = false := by
        intro x above
        cases x <;> simp_all [PyFloat.add, PyFloat.lt]
        linarith
      unfold retryAt
      split
      · exact zero _ (by simpa using notNegative)
      · exact zero _ (by simp)
  · exact .untouched (by simp [op]) (by simp [op]) rfl

def Store.accept (s : Store) (now : ℚ) (batch : ResultBatch) (digest : String) : Store :=
  { s with
    resultBatches := s.resultBatches.insert {
      batchId := batch.batchId, taskId := batch.taskId, generation := batch.generation,
      sequenceNo := batch.sequenceNo, payloadJson := batchPayload batch, payloadDigest := digest,
      cursorAfter := batch.cursorAfter, final := batch.final, committedAt := now, consumedAt := none,
      consumeAttempts := 0, consumeError := none, quarantined := false }
    work := s.work.update (·.taskId = batch.taskId) (·.committed batch.cursorAfter batch.final now) (WorkRow.committed_taskId now batch) }

/-- The answers of `commit_result_batch`. -/
inductive CommitAnswer (s : Store) (now : ℚ) (batch : ResultBatch) (w i : String) : Answer Bool → Prop
  | unencodable (bad : Hashing.encodeUtf8 (batchPayload batch) = none) :
      CommitAnswer s now batch w i (.error .unicodeEncodeError, s)
  | conflict (bytes : List UInt8) (encoded : Hashing.encodeUtf8 (batchPayload batch) = some bytes)
      (existing : BatchRow) (found : s.resultBatches.get? batch.batchId = some existing)
      (differs : existing.payloadDigest ≠ Hashing.sha256Hex bytes) :
      CommitAnswer s now batch w i (.error (.batchConflict "batch replay changed payload"), s)
  | replayed (bytes : List UInt8) (encoded : Hashing.encodeUtf8 (batchPayload batch) = some bytes)
      (existing : BatchRow) (found : s.resultBatches.get? batch.batchId = some existing)
      (same : existing.payloadDigest = Hashing.sha256Hex bytes) : CommitAnswer s now batch w i (.ok false, s)
  | fenced (bytes : List UInt8) (encoded : Hashing.encodeUtf8 (batchPayload batch) = some bytes)
      (absent : s.resultBatches.get? batch.batchId = none) (err : PyError)
      (rejected : assertActiveLease s now batch.taskId w i batch.generation = .error err) :
      CommitAnswer s now batch w i (.error err, s)
  | outOfSequence (bytes : List UInt8) (encoded : Hashing.encodeUtf8 (batchPayload batch) = some bytes)
      (absent : s.resultBatches.get? batch.batchId = none) (row : WorkRow)
      (through : assertActiveLease s now batch.taskId w i batch.generation = .ok row)
      (jump : row.nextSequenceNo ≠ batch.sequenceNo) : CommitAnswer s now batch w i
        (.error (.batchSequence s!"expected sequence {row.nextSequenceNo}, got {batch.sequenceNo}"), s)
  | duplicate (bytes : List UInt8) (encoded : Hashing.encodeUtf8 (batchPayload batch) = some bytes)
      (absent : s.resultBatches.get? batch.batchId = none) (row : WorkRow)
      (through : assertActiveLease s now batch.taskId w i batch.generation = .ok row)
      (next : row.nextSequenceNo = batch.sequenceNo) (stored : BatchRow) (member : stored ∈ s.resultBatches.rows)
      (same : stored.taskId = batch.taskId ∧ stored.sequenceNo = batch.sequenceNo) :
      CommitAnswer s now batch w i (.error .integrityError, s)
  | accepted (bytes : List UInt8) (encoded : Hashing.encodeUtf8 (batchPayload batch) = some bytes)
      (absent : s.resultBatches.get? batch.batchId = none) (row : WorkRow)
      (through : assertActiveLease s now batch.taskId w i batch.generation = .ok row)
      (next : row.nextSequenceNo = batch.sequenceNo) :
      CommitAnswer s now batch w i (.ok true, s.accept now batch (Hashing.sha256Hex bytes))

theorem commit_cases (s : Store) (now : ℚ) (batch : ResultBatch) (w i : String) :
    CommitAnswer s now batch w i (commitResultBatch s now batch w i) := by
  unfold commitResultBatch
  split
  · rename_i bad
    exact .unencodable bad
  rename_i bytes encoded
  simp only []
  split
  · rename_i existing found
    split
    · rename_i differs
      exact .conflict bytes encoded existing found differs
    · rename_i same
      exact .replayed bytes encoded existing found (by simpa using same)
  rename_i absent
  split
  · rename_i err rejected
    exact .fenced bytes encoded absent err rejected
  rename_i row through
  split
  · rename_i jump
    exact .outOfSequence bytes encoded absent row through jump
  rename_i next
  split
  · rename_i duplicate
    obtain ⟨stored, member, same⟩ := List.any_eq_true.mp duplicate
    exact .duplicate bytes encoded absent row through (by simpa using next) stored member (by simpa using same)
  · exact .accepted bytes encoded absent row through (by simpa using next)

theorem commit_moves (shaped : Shaped s) (batch : ResultBatch) (w i : String)
    (op : e.op = .commitResultBatch batch w i) :
    RowMove s e taskId (s.work.get? taskId) ((commitResultBatch s e.now batch w i).2.work.get? taskId) := by
  have outcome : (taken s e).outcome = .flag <$> (commitResultBatch s e.now batch w i).1 := by
    simp [taken, authority, step, op, Answer.reply]
  have noGrant : freshGrant (taken s e) = none := freshGrant_eq_none (by simp [op])
  have accepts : ∀ b, accepted (taken s e) = some b →
      b = batch ∧ (commitResultBatch s e.now batch w i).1 = .ok true := by
    intro b accept
    unfold accepted at accept
    split at accept
    · rename_i b' w' i' op' outcome'
      rw [show (taken s e).event.op = e.op from rfl, op] at op'
      cases op'
      rw [outcome] at outcome'
      refine ⟨(Option.some.inj accept).symm, ?_⟩
      cases result : (commitResultBatch s e.now batch w i).1 with
      | error err => simp [result] at outcome'
      | ok value => simpa [result] using outcome'
    · cases accept
  have rejected : ∀ {row : Option WorkRow}, (commitResultBatch s e.now batch w i).1 ≠ .ok true →
      RowMove s e taskId row row := fun no =>
    .same _ (fun b accept => absurd (accepts b accept).2 no) (by simp [noGrant])
  have answer := commit_cases s e.now batch w i
  revert outcome accepts rejected
  generalize commitResultBatch s e.now batch w i = result at answer
  intro outcome accepts rejected
  cases answer with
  | accepted bytes encoded absent row through next =>
    obtain ⟨found, holds⟩ := assertActiveLease_ok shaped through
    have accept : accepted (taken s e) = some batch := by
      unfold accepted
      rw [show (taken s e).event.op = e.op from rfl, op, outcome]
      rfl
    simp only [Store.accept, Table.get?_update_key]
    split
    · rename_i here
      subst here
      rw [found]
      exact .committed row batch w i op rfl accept holds next
    · rename_i elsewhere
      refine .same _ ?_ (by simp [noGrant])
      intro b accept'
      rw [accept] at accept'
      cases accept'
      exact fun same => elsewhere same.symm
  | _ => exact rejected (by simp)

theorem mem_selectOrdered {Row : Type} {rows : List Row} {inOrder : Row → Row → Bool} {limit : Nat} {row : Row}
    (member : row ∈ selectOrdered rows inOrder limit) : row ∈ rows :=
  (List.mem_insertionSort _).mp (List.mem_of_mem_take member)

theorem selectOrdered_eq_nil {Row : Type} {rows : List Row} {inOrder : Row → Row → Bool} {limit : Nat}
    (nothing : selectOrdered rows inOrder (limit + 1) = []) : rows = [] := by
  unfold selectOrdered at nothing
  rw [List.take_eq_nil_iff] at nothing
  have sorted := nothing.resolve_left (by omega)
  have length := congrArg List.length sorted
  rw [List.length_insertionSort] at length
  exact List.length_eq_zero_iff.mp length

/-- The lease that a claim replays is held by the caller. -/
theorem activeLease_some {s : Store} {w i : String} {now : ℚ} {row : WorkRow} (active : activeLease s w i now = some row) :
    row ∈ s.work.rows ∧ Holds row now w i row.leaseGeneration := by
  have member := List.mem_filter.mp (mem_selectOrdered (List.mem_of_mem_head? active))
  obtain ⟨stored, holds⟩ := member
  simp only [Bool.and_eq_true, decide_eq_true_eq] at holds
  obtain ⟨⟨⟨leased, owner⟩, owningInstance⟩, above⟩ := holds
  obtain ⟨d, due, above⟩ := (Option.any_eq_true _ _).mp above
  exact ⟨stored, leased, owner, owningInstance, rfl, d, due, above⟩

theorem activeLease_none {s : Store} {w i : String} {now : ℚ} (idle : activeLease s w i now = none) {row : WorkRow}
    (member : row ∈ s.work.rows) (generation : Int) : ¬Holds row now w i generation := by
  intro holds
  obtain ⟨leased, owner, owningInstance, -, d, due, above⟩ := holds
  have nothing := selectOrdered_eq_nil (List.head?_eq_none_iff.mp idle)
  have listed : row ∈ s.work.rows.filter (fun r => r.state = .leased && r.leaseOwner = some w &&
      r.leaseOwnerInstance = some i && r.leaseDeadline.any (PyFloat.lt (.fin now))) := by
    rw [List.mem_filter]
    exact ⟨member, by simp [leased, owner, owningInstance, due, above]⟩
  rw [nothing] at listed
  cases listed

/-- The tables after a fresh grant. -/
def Store.grant (s : Store) (now : ℚ) (chosen : WorkRow) (w i : String) (deadline : PyFloat) : Store :=
  { s with
    work := s.work.update (fun r => r.taskId = chosen.taskId && r.leaseGeneration = chosen.leaseGeneration)
      (·.granted w i deadline now) }

/-- The answers of `claim_work`. -/
inductive ClaimAnswer (s : Store) (now : ℚ) (scan : String → Nat) (w i : String) (leaseSeconds : PyFloat) :
    Answer (Option TaskLease) → Prop
  | invalid (notPositive : leaseSeconds.le (.fin 0)) :
      ClaimAnswer s now scan w i leaseSeconds (.error (.valueError "lease_seconds must be positive"), s)
  | rejected (err : PyError) (unknown : workerRow s w i = .error err) :
      ClaimAnswer s now scan w i leaseSeconds (.error err, s)
  | replayed (worker : WorkerRow) (registered : workerRow s w i = .ok worker) (row : WorkRow)
      (active : activeLease s w i now = some row) : ClaimAnswer s now scan w i leaseSeconds
        (some <$> leaseOf row w i row.leaseGeneration (row.leaseDeadline.getD .nan) row.attempt, s)
  | nothing (worker : WorkerRow) (registered : workerRow s w i = .ok worker) (idle : activeLease s w i now = none)
      (unfit : ∀ row ∈ candidates s now scan, (eligible row worker && regionEligible s row worker now) = false) :
      ClaimAnswer s now scan w i leaseSeconds (.ok none, s)
  | granted (positive : leaseSeconds.le (.fin 0) = false) (worker : WorkerRow)
      (registered : workerRow s w i = .ok worker) (idle : activeLease s w i now = none) (chosen : WorkRow)
      (first : grantee s now scan w i = some chosen) (member : chosen ∈ s.work.rows) (open_ : claimable chosen now) :
      ClaimAnswer s now scan w i leaseSeconds
        (some <$> leaseOf chosen w i (chosen.leaseGeneration + 1) ((PyFloat.fin now).add leaseSeconds)
            (chosen.attempt + 1), s.grant now chosen w i ((PyFloat.fin now).add leaseSeconds))

theorem claim_cases (s : Store) (now : ℚ) (scan : String → Nat) (w i : String) (leaseSeconds : PyFloat) :
    ClaimAnswer s now scan w i leaseSeconds (claimWork s now scan w i leaseSeconds) := by
  unfold claimWork
  split
  · rename_i notPositive
    exact .invalid notPositive
  rename_i positive
  split
  · rename_i err unknown
    exact .rejected err unknown
  rename_i worker registered
  split
  · rename_i row active
    exact .replayed worker registered row active
  rename_i idle
  split
  · rename_i unfit
    refine .nothing worker registered idle ?_
    simpa using unfit
  · rename_i chosen found
    obtain ⟨member, open_⟩ := List.mem_filter.mp (mem_selectOrdered (List.mem_of_find?_eq_some found))
    exact .granted (by simpa using positive) worker registered idle chosen (by simp [grantee, registered, idle, found])
      member open_

theorem claim_moves (shaped : Shaped s) (scan : String → Nat) (w i : String) (leaseSeconds : PyFloat)
    (op : e.op = .claimWork scan w i leaseSeconds) :
    RowMove s e taskId (s.work.get? taskId) ((claimWork s e.now scan w i leaseSeconds).2.work.get? taskId) := by
  have outcome : (taken s e).outcome = .claimed <$> (claimWork s e.now scan w i leaseSeconds).1 := by
    simp [taken, authority, step, op, Answer.reply]
  have noAccept : accepted (taken s e) = none := accepted_eq_none (by simp [op])
  have grants : ∀ lease, freshGrant (taken s e) = some lease →
      (claimWork s e.now scan w i leaseSeconds).1 = .ok (some lease) ∧ activeLease s w i e.now = none := by
    intro lease grant
    unfold freshGrant at grant
    split at grant
    · rename_i scan' w' i' ls' lease' op' outcome'
      rw [show (taken s e).event.op = e.op from rfl, op] at op'
      cases op'
      rw [outcome] at outcome'
      split at grant
      · rename_i idle
        cases grant
        refine ⟨?_, Option.isNone_iff_eq_none.mp idle⟩
        cases result : (claimWork s e.now scan w i leaseSeconds).1 with
        | error err => simp [result] at outcome'
        | ok value => simpa [result] using outcome'
      · cases grant
    · cases grant
  have answer := claim_cases s e.now scan w i leaseSeconds
  revert outcome grants
  generalize claimWork s e.now scan w i leaseSeconds = result at answer
  intro outcome grants
  cases answer with
  | invalid => exact .same _ (by simp [noAccept]) (fun lease grant => by cases (grants lease grant).1)
  | rejected err => exact .same _ (by simp [noAccept]) (fun lease grant => by cases (grants lease grant).1)
  | nothing worker registered idle =>
    exact .same _ (by simp [noAccept]) (fun lease grant => by cases (grants lease grant).1)
  | replayed worker registered row active =>
    refine .same _ (by simp [noAccept]) (fun lease grant => ?_)
    rw [(grants lease grant).2] at active
    cases active
  | granted positive worker registered idle chosen first member open_ =>
    have shape := shaped chosen member
    have due : chosen.fields.notBefore.le (.fin e.now) := by
      simp only [claimable, Bool.and_eq_true] at open_
      exact open_.1.2
    obtain ⟨lease, built, sameTask, next, deadline⟩ : ∃ lease : TaskLease,
        leaseOf chosen w i (chosen.leaseGeneration + 1) ((PyFloat.fin e.now).add leaseSeconds) (chosen.attempt + 1) =
          .ok lease ∧ lease.taskId = chosen.taskId ∧ lease.generation = chosen.leaseGeneration + 1 ∧
          lease.leaseDeadline = (PyFloat.fin e.now).add leaseSeconds :=
      ⟨_, leaseOf_ok shape (isFinite_of_le due shape.waits.2) (by omega) w i _, rfl, rfl, rfl⟩
    simp only [built] at outcome grants
    have grant : freshGrant (taken s e) = some lease := by
      unfold freshGrant
      rw [show (taken s e).event.op = e.op from rfl, op, outcome]
      simp only [Functor.map, Except.map]
      rw [show (taken s e).before = s from rfl, show (taken s e).event.now = e.now from rfl, idle]
      rfl
    have stored := Table.get?_mem member
    simp only [Store.grant, Table.get?_update]
    by_cases here : taskId = chosen.taskId
    · subst here
      rw [stored]
      simp only [Option.map_some, decide_true, Bool.and_self, if_true]
      exact .granted chosen scan w i leaseSeconds op positive first open_ lease grant sameTask next deadline
    · have same : (s.work.get? taskId).map (fun r =>
          if r.taskId = chosen.taskId && r.leaseGeneration = chosen.leaseGeneration then
            r.granted w i ((PyFloat.fin e.now).add leaseSeconds) e.now else r) = s.work.get? taskId := by
        cases found : s.work.get? taskId with
        | none => rfl
        | some row =>
          have key := Table.get?_key found
          have apart : row.taskId ≠ chosen.taskId := fun equal => here (key.symm.trans equal)
          simp [apart]
      rw [same]
      refine .same _ (by simp [noAccept]) ?_
      intro lease' grant'
      rw [grant] at grant'
      cases grant'
      rw [sameTask]
      exact fun equal => here equal.symm

theorem gc_moves (retention : PyFloat) (limit : Int) (op : e.op = .gcTransientState retention limit) :
    RowMove s e taskId (s.work.get? taskId) ((gcTransientState s e.now retention limit).2.work.get? taskId) := by
  unfold gcTransientState
  split
  · rename_i period
    split
    · exact .untouched (by simp [op]) (by simp [op]) rfl
    split
    · exact .untouched (by simp [op]) (by simp [op]) rfl
    simp only [Table.get?_update]
    cases found : s.work.get? taskId with
    | none => exact .untouched (by simp [op]) (by simp [op]) rfl
    | some row =>
      simp only [Option.map_some]
      split
      · rename_i hit
        obtain ⟨picked, listed, same⟩ := List.any_eq_true.mp hit
        obtain ⟨member, complete⟩ := List.mem_filter.mp (mem_selectOrdered listed)
        have equal : picked = row := Table.row_unique member (Table.mem_of_get? found) (by simpa using same)
        subst equal
        simp only [compactable, Bool.and_eq_true, decide_eq_true_eq, Bool.not_eq_true'] at complete
        exact .compacted picked _ limit op complete.1.1.1.1 complete.1.1.2
      · exact .untouched (by simp [op]) (by simp [op]) rfl
  · exact .untouched (by simp [op]) (by simp [op]) rfl

end

/-! ## The tables that a call leaves alone -/

section
variable (s : Store) (now : ℚ)

theorem admit_frame (t : String) (work : WorkDefinition) :
    ∃ work', (admitWork s now t work).2 = { s with work := work' } := by
  unfold admitWork
  repeat' (first | split | exact ⟨_, rfl⟩)

theorem claim_frame (scan : String → Nat) (w i : String) (ls : PyFloat) :
    ∃ work', (claimWork s now scan w i ls).2 = { s with work := work' } := by
  unfold claimWork
  repeat' (first | split | exact ⟨_, rfl⟩)

theorem renew_frame (t w i : String) (g : Int) (ls : PyFloat) (x : Option PyFloat) :
    ∃ work', (renewTask s now t w i g ls x).2 = { s with work := work' } := by
  unfold renewTask
  repeat' (first | split | exact ⟨_, rfl⟩ | dsimp only)

theorem commit_frame (b : ResultBatch) (w i : String) :
    ∃ work' batches, (commitResultBatch s now b w i).2 = { s with work := work', resultBatches := batches } := by
  have answer := commit_cases s now b w i
  generalize commitResultBatch s now b w i = result at answer
  cases answer <;> exact ⟨_, _, rfl⟩

theorem finish_frame (t w i : String) (g : Int) :
    ∃ work', (finishTask s now t w i g).2 = { s with work := work' } := by
  unfold finishTask
  repeat' (first | split | exact ⟨_, rfl⟩)

theorem fail_frame (t w i : String) (g : Int) (err : String) (retry : Bool) (after : PyFloat) :
    ∃ work', (failTask s now t w i g err retry after).2 = { s with work := work' } := by
  unfold failTask
  repeat' (first | split | exact ⟨_, rfl⟩)

theorem consume_failed_frame (b err : String) (m : Int) :
    ∃ batches, (markBatchConsumeFailed s b err m).2 = { s with resultBatches := batches } := by
  unfold markBatchConsumeFailed
  repeat' (first | split | exact ⟨_, rfl⟩)

theorem nonce_frame (w n : String) (ret : PyFloat) :
    ∃ nonces, (consumeRequestNonce s now w n ret).2 = { s with requestNonces := nonces } := by
  unfold consumeRequestNonce
  repeat' (first | split | exact ⟨_, rfl⟩ | dsimp only)

theorem configure_frame (p : String) (rps : PyFloat) (m : Int) (q u : Bool) (r : PyFloat) :
    ∃ budgets, (configureProviderBudget s now p rps m q u r).2 = { s with providerBudgets := budgets } := by
  unfold configureProviderBudget
  repeat' (first | split | exact ⟨_, rfl⟩)

theorem region_frame (p w i t : String) (g : Int) (seen : Observation) :
    ∃ regions, (recordProviderRegionObservation s now p w i t g seen).2 = { s with providerRegions := regions } := by
  unfold recordProviderRegionObservation
  repeat' (first | split | exact ⟨_, rfl⟩)

theorem issue_frame (id p w i t : String) (g : Int) (r : String) (ttl : PyFloat) :
    ∃ budgets permits, (issueProviderPermit s now id p w i t g r ttl).2 =
      { s with providerBudgets := budgets, providerPermits := permits } := by
  unfold issueProviderPermit
  repeat' (first | split | exact ⟨_, _, rfl⟩ | dsimp only)

theorem report_frame (id w i : String) (code : Option Int) (cooldown : PyFloat) (bytes : Int) :
    ∃ budgets permits egress, (reportProviderPermit s now id w i code cooldown bytes).2 =
      { s with providerBudgets := budgets, providerPermits := permits, workerEgressDaily := egress } := by
  unfold reportProviderPermit
  split
  · exact ⟨_, _, _, rfl⟩
  split
  · exact ⟨_, _, _, rfl⟩
  split
  · exact ⟨_, _, _, rfl⟩
  split
  · exact ⟨_, _, _, rfl⟩
  split
  · exact ⟨_, _, _, rfl⟩
  · exact ⟨_, _, _, rfl⟩

theorem gc_frame (ret : PyFloat) (limit : Int) :
    ∃ work' batches nonces permits egress, (gcTransientState s now ret limit).2 =
      { s with work := work', resultBatches := batches, requestNonces := nonces, providerPermits := permits,
               workerEgressDaily := egress } := by
  unfold gcTransientState
  repeat' (first | split | exact ⟨_, _, _, _, _, rfl⟩)

/-- Only commits, marks and the collection touch the stored batches. -/
theorem resultBatches_untouched (s : Store) (e : Event) (noCommit : ∀ b w i, e.op ≠ .commitResultBatch b w i)
    (noMark : ∀ b, e.op ≠ .markBatchConsumed b) (noFailure : ∀ b err m, e.op ≠ .markBatchConsumeFailed b err m)
    (noCollection : ∀ ret limit, e.op ≠ .gcTransientState ret limit) : (step s e).2.resultBatches = s.resultBatches := by
  cases op : e.op with
  | commitResultBatch b w i => exact absurd op (noCommit b w i)
  | markBatchConsumed b => exact absurd op (noMark b)
  | markBatchConsumeFailed b err m => exact absurd op (noFailure b err m)
  | gcTransientState ret limit => exact absurd op (noCollection ret limit)
  | registerWorker d =>
    simp only [step, op, Answer.reply, registerWorker]
    split <;> rfl
  | heartbeat w i =>
    simp only [step, op, Answer.reply, heartbeat]
    split <;> rfl
  | revokeWorker w =>
    simp only [step, op, Answer.reply, revokeWorker]
    split <;> rfl
  | admitWork t work =>
    obtain ⟨work', frame⟩ := admit_frame s e.now t work
    simp [step, op, Answer.reply, frame]
  | claimWork scan w i ls =>
    obtain ⟨work', frame⟩ := claim_frame s e.now scan w i ls
    simp [step, op, Answer.reply, frame]
  | renewTask t w i g ls x =>
    obtain ⟨work', frame⟩ := renew_frame s e.now t w i g ls x
    simp [step, op, Answer.reply, frame]
  | finishTask t w i g =>
    obtain ⟨work', frame⟩ := finish_frame s e.now t w i g
    simp [step, op, Answer.reply, frame]
  | failTask t w i g err retry after =>
    obtain ⟨work', frame⟩ := fail_frame s e.now t w i g err retry after
    simp [step, op, Answer.reply, frame]
  | consumeRequestNonce w n ret =>
    obtain ⟨nonces, frame⟩ := nonce_frame s e.now w n ret
    simp [step, op, Answer.reply, frame]
  | configureProviderBudget p rps m q u r =>
    obtain ⟨budgets, frame⟩ := configure_frame s e.now p rps m q u r
    simp [step, op, Answer.reply, frame]
  | recordProviderRegionObservation p w i t g seen =>
    obtain ⟨regions, frame⟩ := region_frame s e.now p w i t g seen
    simp [step, op, Answer.reply, frame]
  | issueProviderPermit id p w i t g r ttl =>
    obtain ⟨budgets, permits, frame⟩ := issue_frame s e.now id p w i t g r ttl
    simp [step, op, Answer.reply, frame]
  | reportProviderPermit id w i code cooldown bytes =>
    obtain ⟨budgets, permits, egress, frame⟩ := report_frame s e.now id w i code cooldown bytes
    simp [step, op, Answer.reply, frame]

end

section
variable {s : Store} {e : Event} (taskId : String)

theorem row_moves (shaped : Shaped s) (e : Event) (taskId : String) :
    RowMove s e taskId (s.work.get? taskId) ((step s e).2.work.get? taskId) := by
  cases op : e.op with
  | registerWorker d => simpa [step, op, Answer.reply] using register_moves taskId d op
  | revokeWorker w => simpa [step, op, Answer.reply] using revoke_moves taskId w op
  | admitWork t work => simpa [step, op, Answer.reply] using admit_moves taskId t work op
  | claimWork scan w i ls => simpa [step, op, Answer.reply] using claim_moves taskId shaped scan w i ls op
  | renewTask t w i g ls x => simpa [step, op, Answer.reply] using renew_moves taskId shaped t w i g ls x op
  | commitResultBatch b w i => simpa [step, op, Answer.reply] using commit_moves taskId shaped b w i op
  | finishTask t w i g => simpa [step, op, Answer.reply] using finish_moves taskId shaped t w i g op
  | failTask t w i g err retry after =>
    simpa [step, op, Answer.reply] using fail_moves taskId shaped t w i g err retry after op
  | gcTransientState ret limit => simpa [step, op, Answer.reply] using gc_moves taskId ret limit op
  | heartbeat w i =>
    refine .untouched (by simp [op]) (by simp [op]) ?_
    simp only [step, op, Answer.reply, heartbeat]
    split <;> rfl
  | markBatchConsumed b =>
    exact .untouched (by simp [op]) (by simp [op]) (by simp [step, op, Answer.reply, markBatchConsumed])
  | markBatchConsumeFailed b err m =>
    obtain ⟨batches, frame⟩ := consume_failed_frame s b err m
    exact .untouched (by simp [op]) (by simp [op]) (by simp [step, op, Answer.reply, frame])
  | consumeRequestNonce w n ret =>
    obtain ⟨nonces, frame⟩ := nonce_frame s e.now w n ret
    exact .untouched (by simp [op]) (by simp [op]) (by simp [step, op, Answer.reply, frame])
  | configureProviderBudget p rps m q u r =>
    obtain ⟨budgets, frame⟩ := configure_frame s e.now p rps m q u r
    exact .untouched (by simp [op]) (by simp [op]) (by simp [step, op, Answer.reply, frame])
  | recordProviderRegionObservation p w i t g seen =>
    obtain ⟨regions, frame⟩ := region_frame s e.now p w i t g seen
    exact .untouched (by simp [op]) (by simp [op]) (by simp [step, op, Answer.reply, frame])
  | issueProviderPermit id p w i t g r ttl =>
    obtain ⟨budgets, permits, frame⟩ := issue_frame s e.now id p w i t g r ttl
    exact .untouched (by simp [op]) (by simp [op]) (by simp [step, op, Answer.reply, frame])
  | reportProviderPermit id w i code cooldown bytes =>
    obtain ⟨budgets, permits, egress, frame⟩ := report_frame s e.now id w i code cooldown bytes
    exact .untouched (by simp [op]) (by simp [op]) (by simp [step, op, Answer.reply, frame])

theorem shaped_step {s : Store} (shaped : Shaped s) (e : Event) : Shaped (step s e).2 := by
  intro row member
  have move := row_moves shaped e row.taskId
  rw [Table.get?_mem member] at move
  exact move.shape (fun _ found => shaped.get found) row rfl

theorem shaped_from {s : Store} (shaped : Shaped s) (es : List Event) : Shaped (authority.finalFrom s es) :=
  authority.invariant_from (I := Shaped) (fun _ e shaped => shaped_step shaped e) shaped es

theorem shaped_final (es : List Event) : Shaped (authority.final es) :=
  authority.invariant shaped_empty (fun _ e shaped => shaped_step shaped e) es

end

end Creeper.AuthorityStore
