import Creeper.LeaseInvariant

/-!
# Stranded work

A row should be finished, held by an unexpired lease, or open to a later claim.
`claim_work` counts an attempt when it grants, and only `fail_task` ends a row
whose attempts are used up: a crash, a restart or a revocation during the last
attempt leaves the row to nobody.
-/

namespace Creeper.StrandedWork
open Creeper.Runs Creeper.Tables Creeper.PyNumbers Creeper.FabricModels Creeper.AuthorityStore Creeper.LeaseInvariant

/-! ## Accounted rows -/

/-- The row is leased and the lease has not expired. -/
def Live (row : WorkRow) (now : ℚ) : Prop :=
  row.state = .leased ∧ ∃ d, row.leaseDeadline = some d ∧ PyFloat.lt (.fin now) d

def Expired (row : WorkRow) (now : ℚ) : Prop :=
  row.state = .leased ∧ ∃ d, row.leaseDeadline = some d ∧ d.le (.fin now)

/-- A claim can grant the row, now or later. -/
def Open (row : WorkRow) (now : ℚ) : Prop :=
  (row.state = .pending ∨ row.state = .retry ∨ Expired row now) ∧ (row.attempt : ℤ) < row.fields.maxAttempts

def Accounted (now : ℚ) (s : Store) : Prop :=
  ∀ row ∈ s.work.rows, Terminal row ∨ Live row now ∨ Open row now

/-- The attempts of the row are used up, and nobody holds it. -/
def Spent (row : WorkRow) (now : ℚ) : Prop :=
  (row.attempt : ℤ) = row.fields.maxAttempts ∧ (row.state = .pending ∨ Expired row now)

theorem Expired.later {row : WorkRow} {now later : ℚ} (le : now ≤ later) (expired : Expired row now) :
    Expired row later := by
  obtain ⟨leased, d, due, past⟩ := expired
  refine ⟨leased, d, due, ?_⟩
  cases d with
  | fin x =>
    simp only [PyFloat.le_fin, decide_eq_true_eq] at past ⊢
    exact past.trans le
  | negInf => rfl
  | posInf | nan => simp [PyFloat.le] at past

theorem not_live_of_expired {row : WorkRow} {now : ℚ} (expired : Expired row now) : ¬Live row now := by
  rintro ⟨-, d, due, above⟩
  obtain ⟨-, d', due', past⟩ := expired
  rw [due] at due'
  cases due'
  have number : d ≠ .nan := by
    rintro rfl
    simp [PyFloat.lt] at above
  rw [PyFloat.le_iff_not_lt number, above] at past
  cases past

theorem spent_not_accounted {row : WorkRow} {now : ℚ} (spent : Spent row now) :
    ¬(Terminal row ∨ Live row now ∨ Open row now) := by
  obtain ⟨used, state⟩ := spent
  rintro ((complete | dead) | live | ⟨-, below⟩)
  · rcases state with pending | ⟨leased, -⟩ <;> simp_all
  · rcases state with pending | ⟨leased, -⟩ <;> simp_all
  · rcases state with pending | expired
    · simp [live.1] at pending
    · exact not_live_of_expired expired live
  · omega

theorem Holds.live {row : WorkRow} {now : ℚ} {w i : String} {g : Int} (holds : Holds row now w i g) : Live row now :=
  ⟨holds.leased, holds.unexpired⟩

theorem spent_step {s : Store} (shaped : Shaped s) {e : Event} {taskId : String} {row : WorkRow}
    (found : s.work.get? taskId = some row) (spent : Spent row e.now) :
    ∃ row', (step s e).2.work.get? taskId = some row' ∧ Spent row' e.now := by
  have move := row_moves shaped e taskId
  rw [found] at move
  generalize (step s e).2.work.get? taskId = after at move
  have notLive : ¬Live row e.now := fun live => spent_not_accounted spent (.inr (.inl live))
  cases move with
  | same => exact ⟨row, rfl, spent⟩
  | released _ leased release => exact ⟨_, rfl, spent.1, .inl rfl⟩
  | granted _ scan w i leaseSeconds isClaim positive chosen open_ =>
    simp only [claimable, Bool.and_eq_true, decide_eq_true_eq] at open_
    exact absurd spent.1 (by omega)
  | renewed _ w i generation leaseSeconds expected deadline isRenew positive holds =>
    exact absurd (Holds.live holds) notLive
  | committed _ batch w i isCommit sameTask accept holds => exact absurd (Holds.live holds) notLive
  | finished _ w i generation isFinish holds => exact absurd (Holds.live holds) notLive
  | failed _ w i generation error retryable later isFail holds => exact absurd (Holds.live holds) notLive
  | compacted _ retention limit isGc complete =>
    exact absurd (.inl (.inl complete)) (spent_not_accounted spent)

/-! ## The calls that strand a row -/

/-- A call that finds the last attempt of a row expired, that takes the row away from its
    last attempt, or that writes a deadline that is no number. -/
def Strands (s : Store) (e : Event) : Prop :=
  (∃ row ∈ s.work.rows, (row.attempt : ℤ) = row.fields.maxAttempts ∧ row.state = .leased ∧
    (Expired row e.now ∨
      (∃ d : WorkerDescriptor, e.op = .registerWorker d ∧ d.protocolVersion = fabricProtocolVersion ∧
        row.leaseOwner = some d.workerId ∧ row.leaseOwnerInstance ≠ some d.workerInstanceId) ∨
      ∃ w, e.op = .revokeWorker w ∧ (s.workers.get? w).isSome ∧ row.leaseOwner = some w)) ∨
    LosesDeadline s e

theorem release_accepted {s : Store} {e : Event} {row : WorkRow} (found : s.work.get? row.taskId = some row)
    (release : Releases e.op row)
    (moved : (step s e).2.work.get? row.taskId ≠ some row) :
    (∃ d : WorkerDescriptor, e.op = .registerWorker d ∧ d.protocolVersion = fabricProtocolVersion ∧
        row.leaseOwner = some d.workerId ∧ row.leaseOwnerInstance ≠ some d.workerInstanceId) ∨
      ∃ w, e.op = .revokeWorker w ∧ (s.workers.get? w).isSome ∧ row.leaseOwner = some w := by
  rcases release with ⟨d, op, owner, other⟩ | ⟨w, op, owner⟩
  · left
    refine ⟨d, op, ?_, owner, other⟩
    by_contra refused
    simp [step, op, Answer.reply, registerWorker, refused, found] at moved
  · right
    refine ⟨w, op, ?_, owner⟩
    by_contra absent
    rw [Option.not_isSome_iff_eq_none] at absent
    simp [step, op, Answer.reply, revokeWorker, absent, found] at moved

theorem accounted_dated {now : ℚ} {s : Store} (accounted : Accounted now s) : Dated s := by
  intro row member leased
  rcases accounted row member with (complete | dead) | ⟨-, d, due, -⟩ | ⟨pending | retry | ⟨-, d, due, -⟩, -⟩ <;>
    simp_all

theorem accounted_step {s : Store} (shaped : Shaped s) {e : Event} (kept : ¬Strands s e) {earlier : ℚ}
    (le : earlier ≤ e.now) (accounted : Accounted earlier s) : Accounted e.now (step s e).2 := by
  have notLast : ∀ row ∈ s.work.rows, Expired row e.now → (row.attempt : ℤ) < row.fields.maxAttempts := by
    intro row member expired
    have bounded := (shaped row member).bounded
    by_contra used
    exact kept (.inl ⟨row, member, by omega, expired.1, .inl expired⟩)
  -- First the clock moves to the call, then the call moves the row.
  have before : Accounted e.now s := by
    intro row member
    rcases accounted row member with terminal | ⟨leased, d, due, above⟩ | ⟨state, below⟩
    · exact .inl terminal
    · by_cases still : PyFloat.lt (.fin e.now) d
      · exact .inr (.inl ⟨leased, d, due, still⟩)
      · have number : d ≠ .nan := by
          rintro rfl
          simp [PyFloat.lt] at above
        have past : d.le (.fin e.now) := by rw [PyFloat.le_iff_not_lt number]; simpa using still
        have expired : Expired row e.now := ⟨leased, d, due, past⟩
        exact .inr (.inr ⟨.inr (.inr expired), notLast row member expired⟩)
    · exact .inr (.inr ⟨state.imp_right (·.imp_right (·.later le)), below⟩)
  intro row member
  have move := moved shaped member
  have after := Table.get?_mem member
  generalize row.taskId = taskId at move after
  generalize found : s.work.get? taskId = old at move
  cases move with
  | same => exact before row (Table.mem_of_get? found)
  | admitted work key =>
    have positive := (postInit_none work.valid).1
    exact .inr (.inr ⟨.inl rfl, by simp; omega⟩)
  | released was leased release =>
    have shape := shaped.get found
    have wasMember := Table.mem_of_get? found
    have key := Table.get?_key found
    subst key
    have accepted := release_accepted found release (by
      rw [after]
      intro same
      have states := congrArg WorkRow.state (Option.some.inj same)
      simp [leased] at states)
    have bounded := shape.bounded
    refine .inr (.inr ⟨.inl rfl, ?_⟩)
    by_contra used
    exact kept (.inl ⟨was, wasMember, by simp at used; omega, leased, .inr accepted⟩)
  | granted was scan w i leaseSeconds isClaim positive chosen =>
    have number : leaseSeconds ≠ .nan := by
      rintro rfl
      exact kept (.inr (by simp only [LosesDeadline, isClaim]; exact ⟨trivial, was, chosen⟩))
    refine .inr (.inl ⟨rfl, _, PyFloat.column_of_ne (PyFloat.add_ne_nan number), ?_⟩)
    cases leaseSeconds with
    | fin x =>
      simp only [PyFloat.le_fin, decide_eq_false_iff_not, not_le] at positive
      simp [PyFloat.add, positive]
    | posInf => rfl
    | negInf => simp [PyFloat.le] at positive
    | nan => exact absurd rfl number
  | renewed was w i generation leaseSeconds expected deadline isRenew positive holds renewal recomputed =>
    have dated : ({ was with leaseDeadline := deadline.column, updatedAt := e.now } : WorkRow).leaseDeadline.isSome := by
      exact dated_step shaped (fun loses => kept (.inr loses)) (accounted_dated before) _ (Table.mem_of_get? after)
        holds.leased
    have number : leaseSeconds ≠ .nan := by
      rintro rfl
      rw [recomputed] at dated
      simp [PyFloat.add, PyFloat.column] at dated
    refine .inr (.inl ⟨holds.leased, deadline, PyFloat.column_of_ne (recomputed ▸ PyFloat.add_ne_nan number), ?_⟩)
    subst recomputed
    cases leaseSeconds with
    | fin x =>
      simp only [PyFloat.le_fin, decide_eq_false_iff_not, not_le] at positive
      simp [PyFloat.add, positive]
    | posInf => rfl
    | negInf => simp [PyFloat.le] at positive
    | nan => exact absurd rfl number
  | committed was batch w i isCommit sameTask accept holds =>
    cases final : batch.final with
    | true => exact .inl (.inl (by simp))
    | false =>
      obtain ⟨d, due, above⟩ := holds.unexpired
      exact .inr (.inl ⟨by simp, d, by simp [due], above⟩)
  | finished => exact .inl (.inl rfl)
  | failed was w i generation error retryable later isFail holds state notBefore chosen =>
    rcases chosen with ⟨rfl, below⟩ | rfl
    · exact .inr (.inr ⟨.inr (.inl rfl), below⟩)
    · exact .inl (.inr rfl)
  | compacted was retention limit isGc complete => exact .inl (.inl complete)

theorem strands_step {s : Store} (shaped : Shaped s) {e : Event} (strands : Strands s e) :
    ¬Accounted e.now (step s e).2 := by
  intro accounted
  have unspent : ∀ {taskId : String} {row : WorkRow}, (step s e).2.work.get? taskId = some row → ¬Spent row e.now :=
    fun found spent => spent_not_accounted spent (accounted _ (Table.mem_of_get? found))
  rcases strands with ⟨row, member, used, leased, expired | ⟨d, op, protocol, owner, other⟩ | ⟨w, op, known, owner⟩⟩ | loses
  · obtain ⟨row', found, spent⟩ := spent_step shaped (Table.get?_mem member) ⟨used, .inr expired⟩
    exact unspent found spent
  · obtain ⟨v, i, -, owning⟩ := (shaped row member).held leased
    have released : (step s e).2.work.get? row.taskId = some (row.unleased .pending e.now) := by
      have apart : i ≠ d.workerInstanceId := fun same => other (by rw [owning, same])
      simp [step, op, Answer.reply, registerWorker, protocol, Table.get?_update, Table.get?_mem member, leased, owner,
        owning, apart]
    exact unspent released ⟨used, .inl rfl⟩
  · obtain ⟨worker, found⟩ := Option.isSome_iff_exists.mp known
    have released : (step s e).2.work.get? row.taskId = some (row.unleased .pending e.now) := by
      simp [step, op, Answer.reply, revokeWorker, found, Table.get?_update, Table.get?_mem member, leased, owner]
    exact unspent released ⟨used, .inl rfl⟩
  · exact undated_step shaped loses (accounted_dated accounted)

/-! ## Runs -/

/-- A worker registers and a task is admitted. -/
def admittedRun : List Event := [
  ⟨0, .registerWorker (plainWorker "w" "i" worker_named), zero_sinceEpoch⟩, ⟨1, .admitWork "t" (plainWork 1), one_sinceEpoch⟩]

/-- A worker claims the only attempt of a task and is not heard of again. -/
def crashRun : List Event := [
  ⟨0, .admitWork "t" (plainWork 1), zero_sinceEpoch⟩, ⟨1, .registerWorker (plainWorker "w" "i" worker_named), one_sinceEpoch⟩,
  ⟨2, .claimWork (fun _ => 0) "w" "i" (.fin 60), two_sinceEpoch⟩]

/-- What may become of a row. -/
structure Advances (row row' : WorkRow) : Prop where
  /-- Its definition stays, but for the time that it waits for and, once it is COMPLETE, the payload. -/
  definition : { row'.fields with notBefore := row.fields.notBefore, payload := row.fields.payload } = row.fields
  payload : row'.fields.payload = row.fields.payload ∨ row'.state = .complete
  named : row'.taskId = row.taskId ∧ row'.workKey = row.workKey
  counters : row.leaseGeneration ≤ row'.leaseGeneration ∧ row.attempt ≤ row'.attempt ∧ row.nextSequenceNo ≤ row'.nextSequenceNo
  /-- A row that is COMPLETE or DEAD stays so, and is neither granted nor extended. -/
  terminal : Terminal row → row'.state = row.state ∧ row'.leaseGeneration = row.leaseGeneration ∧ row'.attempt = row.attempt ∧
    row'.nextSequenceNo = row.nextSequenceNo

theorem Advances.refl (row : WorkRow) : Advances row row :=
  ⟨rfl, .inl rfl, ⟨rfl, rfl⟩, ⟨le_rfl, le_rfl, le_rfl⟩, fun _ => ⟨rfl, rfl, rfl, rfl⟩⟩

theorem Advances.trans {a b c : WorkRow} (first : Advances a b) (second : Advances b c) : Advances a c where
  definition := (congrArg (fun f : WorkFields => { f with notBefore := a.fields.notBefore, payload := a.fields.payload })
    second.definition).trans first.definition
  payload := by
    rcases first.payload with same | complete
    · exact second.payload.imp_left (·.trans same)
    · exact .inr ((second.terminal (.inl complete)).1.trans complete)
  named := ⟨second.named.1.trans first.named.1, second.named.2.trans first.named.2⟩
  counters := by
    have := first.counters
    have := second.counters
    omega
  terminal ended := by
    obtain ⟨state, generation, attempt, next⟩ := first.terminal ended
    have still : Terminal b := by rwa [Terminal, state]
    obtain ⟨state', generation', attempt', next'⟩ := second.terminal still
    exact ⟨state'.trans state, generation'.trans generation, attempt'.trans attempt, next'.trans next⟩

/-- Every row of a store is still there, and went no way back. -/
def NeverBack (s s' : Store) : Prop :=
  ∀ taskId row, s.work.get? taskId = some row → ∃ row', s'.work.get? taskId = some row' ∧ Advances row row'

theorem neverBack_step {s : Store} (shaped : Shaped s) (e : Event) : NeverBack s (step s e).2 := by
  intro taskId row found
  have move := row_moves shaped e taskId
  rw [found] at move
  generalize (step s e).2.work.get? taskId = after at move
  have under (leased : row.state = .leased) (row' : WorkRow) : Terminal row → row'.state = row.state ∧
      row'.leaseGeneration = row.leaseGeneration ∧ row'.attempt = row.attempt ∧ row'.nextSequenceNo = row.nextSequenceNo := by
    simp [Terminal, leased]
  cases move with
  | same => exact ⟨row, rfl, .refl row⟩
  | released _ leased => exact ⟨_, rfl, rfl, .inl rfl, ⟨rfl, rfl⟩, ⟨le_rfl, le_rfl, le_rfl⟩, under leased _⟩
  | granted _ _ _ _ _ _ _ _ open_ =>
    refine ⟨_, rfl, rfl, .inl rfl, ⟨rfl, rfl⟩, ⟨Nat.le_succ _, Nat.le_succ _, le_rfl⟩, fun ended => ?_⟩
    rcases ended with state | state <;> simp [claimable, state] at open_
  | renewed _ _ _ _ _ _ _ _ _ holds => exact ⟨_, rfl, rfl, .inl rfl, ⟨rfl, rfl⟩, ⟨le_rfl, le_rfl, le_rfl⟩, under holds.leased _⟩
  | committed _ _ _ _ _ _ _ holds => exact ⟨_, rfl, rfl, .inl rfl, ⟨rfl, rfl⟩, ⟨le_rfl, le_rfl, Nat.le_succ _⟩, under holds.leased _⟩
  | finished _ _ _ _ _ holds => exact ⟨_, rfl, rfl, .inl rfl, ⟨rfl, rfl⟩, ⟨le_rfl, le_rfl, le_rfl⟩, under holds.leased _⟩
  | failed _ _ _ _ _ _ _ _ holds => exact ⟨_, rfl, rfl, .inl rfl, ⟨rfl, rfl⟩, ⟨le_rfl, le_rfl, le_rfl⟩, under holds.leased _⟩
  | compacted _ _ _ _ complete =>
    exact ⟨_, rfl, rfl, .inr complete, ⟨rfl, rfl⟩, ⟨le_rfl, le_rfl, le_rfl⟩, fun _ => ⟨rfl, rfl, rfl, rfl⟩⟩

end Creeper.StrandedWork
