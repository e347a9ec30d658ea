import Creeper.WorkerSpool
import Creeper.LeaseInvariant

/-!
# Replaying the spool

`DistributedWorker._replay_spool` sends every pending batch to the authority and
removes what is acknowledged or fenced. It should end with an empty spool unless
the transport or the upload budget stops it. `commit_result_batch` looks for an
earlier batch under the same identity before it looks at the lease, and the
identity names the task and the sequence number only.
-/

namespace Creeper.SpoolReplay
open Creeper.Runs Creeper.Tables Creeper.PyNumbers Creeper.PyText Creeper.Hashing Creeper.FabricModels
open Creeper.AuthorityStore Creeper.BatchPayload Creeper.WorkerSpool

/-! ## One request -/

/-- The exceptions of `CoordinatorClient`. -/
inductive ClientError
  | coordinator
  | transport
  | uploadBudgetExceeded
  | staleLease
  | unicodeEncode
  deriving DecidableEq, Repr

/-- The endpoint `commit_batch`. -/
def receiveBatch (s : Store) (now : ℚ) (body : PyStr) (w i : String) : Answer Bool :=
  match receivedBatch body with
  | some batch => commitResultBatch s now batch w i
  | none => (.error (.valueError "results/artifacts must be arrays of objects"), s)

/-- What the client makes of an answer: a fenced lease has a status of its own, and an
    exception that the endpoint does not catch is a server error, which is retried. -/
def clientAnswer (answer : Except PyError Bool) : Except ClientError Unit :=
  match answer with
  | .ok _ => .ok ()
  | .error (.staleLease _) => .error .staleLease
  | .error (.keyError _) | .error .integrityError => .error .transport
  | .error _ => .error .coordinator

/-- What becomes of a request. `refused` is an answer of the HTTP layer itself, to a
    signature or a body that it does not take. -/
inductive Fate
  | budgetExhausted
  | unreachable
  | refused
  | lostReply
  | delivered
  deriving DecidableEq, Repr

/-- A request, and the calls of everybody else before it. -/
structure Visit where
  others : List Event
  now : ℚ
  fate : Fate
  sinceEpoch : 0 ≤ now := by norm_num

/-- `CoordinatorClient.commit_batch`. -/
def commitBatch (s : Store) (visit : Visit) (batch : ResultBatch) (w i : String) : Except ClientError Unit × Store :=
  let found := authority.finalFrom s visit.others
  if encodable (batchPayload batch) then
    match visit.fate with
    | .budgetExhausted => (.error .uploadBudgetExceeded, found)
    | .unreachable => (.error .transport, found)
    | .refused => (.error .coordinator, found)
    | .lostReply => (.error .transport, (receiveBatch found visit.now (batchPayload batch) w i).2)
    | .delivered =>
      let answer := receiveBatch found visit.now (batchPayload batch) w i
      (clientAnswer answer.1, answer.2)
  else (.error .unicodeEncode, found)

/-! ## The loop -/

/-- The loop of `_replay_spool` between two batches. -/
structure Replay where
  todo : List ResultBatch
  discarded : List (String × Nat)
  spool : Spool
  store : Store
  stopped : Option ClientError

/-- One turn of the loop. -/
def replayStep (w i : String) (r : Replay) (visit : Visit) : Replay :=
  match r.stopped, r.todo with
  | none, batch :: rest =>
    if (batch.taskId, batch.generation) ∈ r.discarded then { r with todo := rest }
    else
      match commitBatch r.store visit batch w i with
      | (.ok _, store) => { r with todo := rest, spool := r.spool.ack batch.batchId, store }
      | (.error .staleLease, store) => { r with
          todo := rest, discarded := (batch.taskId, batch.generation) :: r.discarded,
          spool := r.spool.discardGeneration batch.taskId batch.generation, store }
      | (.error err, store) => { r with store, stopped := some err }
  | _, _ => r

/-- `_replay_spool`, started on a spool and the tables of the authority. -/
def replay (w i : String) (spool : Spool) (store : Store) : Machine Replay Visit Unit where
  initial := ⟨spool.pending.getD [], [], spool, store, none⟩
  step r visit := ((), replayStep w i r visit)

/-- The visits of a whole replay: one for each pending batch. -/
def visitsOf (spool : Spool) (visits : Nat → Visit) : List Visit := (List.range spool.pendingCount).map visits

/-- `_replay_spool` returns with an empty spool, or raises an error of the transport or of
    the upload budget. -/
def Drains (r : Replay) : Prop :=
  r.stopped = none ∧ r.spool.pendingCount = 0 ∨ r.stopped = some .transport ∨ r.stopped = some .uploadBudgetExceeded

/-! ## The commit of a spooled batch -/

def digestOf (batch : ResultBatch) : String := sha256Hex ((encodeUtf8 (batchPayload batch)).getD [])

/-- The generation of the batch is the live lease of the caller. -/
def LiveFor (s : Store) (now : ℚ) (batch : ResultBatch) (w i : String) : Prop :=
  ∃ row, s.work.get? batch.taskId = some row ∧ Holds row now w i batch.generation

/-- A batch stored under the same identity has the same payload. -/
def Unclaimed (s : Store) (batch : ResultBatch) : Prop :=
  ∀ stored, s.resultBatches.get? batch.batchId = some stored → stored.payloadDigest = digestOf batch

/-- A batch that is not stored yet and whose lease is live comes next. -/
def ComesNext (s : Store) (now : ℚ) (batch : ResultBatch) (w i : String) : Prop :=
  s.resultBatches.get? batch.batchId = none → ∀ row, s.work.get? batch.taskId = some row →
    Holds row now w i batch.generation → row.nextSequenceNo = batch.sequenceNo

/-- The answers that the replay goes on from, or that count as a failed transport. -/
def Passes (answer : Except PyError Bool) : Prop :=
  clientAnswer answer = .ok () ∨ clientAnswer answer = .error .staleLease ∨ clientAnswer answer = .error .transport

theorem commit_passes_iff {s : Store} (shaped : Shaped s) (now : ℚ) {batch : ResultBatch}
    (encodes : encodable (batchPayload batch)) (w i : String) :
    Passes (commitResultBatch s now batch w i).1 ↔ Unclaimed s batch ∧ ComesNext s now batch w i := by
  have answer := commit_cases s now batch w i
  generalize commitResultBatch s now batch w i = result at answer
  cases answer with
  | unencodable bad => simp [← encodeUtf8_isSome, bad] at encodes
  | conflict bytes encoded existing found differs =>
    have other : ¬Unclaimed s batch := by
      intro unclaimed
      have same := unclaimed existing found
      rw [digestOf, encoded] at same
      exact differs same
    simp [Passes, clientAnswer, other]
  | replayed bytes encoded existing found same =>
    have unclaimed : Unclaimed s batch := by
      intro stored isStored
      rw [found] at isStored
      cases isStored
      rw [digestOf, encoded]
      exact same
    have next : ComesNext s now batch w i := by simp [ComesNext, found]
    simp [Passes, clientAnswer, unclaimed, next]
  | fenced bytes encoded absent err rejected =>
    rw [assertActiveLease_error rejected]
    have unclaimed : Unclaimed s batch := by simp [Unclaimed, absent]
    have next : ComesNext s now batch w i := by
      intro _ row found holds
      rw [assertActiveLease_holds found holds] at rejected
      cases rejected
    simp [Passes, clientAnswer, unclaimed, next]
  | outOfSequence bytes encoded absent row through jump =>
    obtain ⟨found, holds⟩ := assertActiveLease_ok shaped through
    have skips : ¬ComesNext s now batch w i := fun next => jump (next absent row found holds)
    simp [Passes, clientAnswer, skips]
  | duplicate bytes encoded absent row through next | accepted bytes encoded absent row through next =>
    obtain ⟨found, holds⟩ := assertActiveLease_ok shaped through
    have unclaimed : Unclaimed s batch := by simp [Unclaimed, absent]
    have comesNext : ComesNext s now batch w i := by
      intro _ other isOther _
      rw [found] at isOther
      cases isOther
      exact next
    simp [Passes, clientAnswer, unclaimed, comesNext]

/-- A batch that is no longer live is acknowledged or fenced, unless another payload is
    stored under its identity. -/
theorem commit_dead_iff {s : Store} (shaped : Shaped s) {now : ℚ} {batch : ResultBatch}
    (encodes : encodable (batchPayload batch)) {w i : String} (dead : ¬LiveFor s now batch w i) :
    ((commitResultBatch s now batch w i).1 = .ok false ∨
        ∃ message, (commitResultBatch s now batch w i).1 = .error (.staleLease message)) ↔ Unclaimed s batch := by
  have fits : ComesNext s now batch w i := fun _ row found holds => absurd ⟨row, found, holds⟩ dead
  have passes := commit_passes_iff shaped now encodes w i
  simp only [fits, and_true] at passes
  rw [← passes]
  have answer := commit_cases s now batch w i
  generalize commitResultBatch s now batch w i = result at answer
  have fence : ∀ {row}, assertActiveLease s now batch.taskId w i batch.generation ≠ .ok row :=
    fun through => dead ⟨_, assertActiveLease_ok shaped through⟩
  cases answer with
  | unencodable | conflict => simp [Passes, clientAnswer]
  | replayed => simp [Passes, clientAnswer]
  | fenced bytes encoded absent err rejected => simp [assertActiveLease_error rejected, Passes, clientAnswer]
  | outOfSequence bytes encoded absent row through => exact absurd through fence
  | duplicate bytes encoded absent row through => exact absurd through fence
  | accepted bytes encoded absent row through => exact absurd through fence

/-! ## One turn -/

/-- Nothing but the transport or the budget keeps the next request from passing. -/
def Unobstructed (w i : String) (r : Replay) (visit : Visit) : Prop :=
  ∀ batch rest, r.stopped = none → r.todo = batch :: rest → (batch.taskId, batch.generation) ∉ r.discarded →
    visit.fate ≠ .refused ∧ (visit.fate = .delivered →
      Unclaimed (authority.finalFrom r.store visit.others) batch ∧
        ComesNext (authority.finalFrom r.store visit.others) visit.now batch w i)

/-- The replay has not met any other error. -/
def Sound (r : Replay) : Prop :=
  r.stopped = none ∨ r.stopped = some .transport ∨ r.stopped = some .uploadBudgetExceeded

/-- What holds between two turns: the tables are shaped, and while the loop runs every
    pending batch is still to come and is of no discarded generation. -/
structure Ready (r : Replay) : Prop where
  shaped : Shaped r.store
  encodes : ∀ batch ∈ r.todo, encodable (batchPayload batch)
  listed : r.stopped = none → ∀ row ∈ r.spool.pendingResultBatches.rows, row.batch ∈ r.todo
  kept : ∀ row ∈ r.spool.pendingResultBatches.rows, (row.batch.taskId, row.batch.generation) ∉ r.discarded

theorem receive_eq (s : Store) (now : ℚ) (batch : ResultBatch) (w i : String) :
    receiveBatch s now (batchPayload batch) w i = commitResultBatch s now batch w i := by
  simp [receiveBatch, receivedBatch_written]

theorem shaped_commitBatch {s : Store} (shaped : Shaped s) (visit : Visit) (batch : ResultBatch) (w i : String) :
    Shaped (commitBatch s visit batch w i).2 := by
  have found : Shaped (authority.finalFrom s visit.others) :=
    shaped_from shaped visit.others
  have committed : Shaped (commitResultBatch (authority.finalFrom s visit.others) visit.now batch w i).2 :=
    shaped_step found ⟨visit.now, .commitResultBatch batch w i, visit.sinceEpoch⟩
  unfold commitBatch
  simp only [receive_eq]
  split
  · cases visit.fate <;> assumption
  · exact found

theorem clientAnswer_ne_budget (answer : Except PyError Bool) : clientAnswer answer ≠ .error .uploadBudgetExceeded := by
  unfold clientAnswer
  split <;> simp

/-- A request ends as the replay allows exactly when nothing obstructs it. -/
theorem commitBatch_passes_iff {s : Store} (shaped : Shaped s) (visit : Visit) {batch : ResultBatch}
    (encodes : encodable (batchPayload batch)) (w i : String) :
    (∀ err, (commitBatch s visit batch w i).1 = .error err →
        err = .staleLease ∨ err = .transport ∨ err = .uploadBudgetExceeded) ↔
      visit.fate ≠ .refused ∧ (visit.fate = .delivered →
        Unclaimed (authority.finalFrom s visit.others) batch ∧
          ComesNext (authority.finalFrom s visit.others) visit.now batch w i) := by
  have found : Shaped (authority.finalFrom s visit.others) :=
    shaped_from shaped visit.others
  have passes := commit_passes_iff found visit.now encodes w i
  rw [← passes]
  simp only [commitBatch, encodes, if_true, receive_eq]
  cases visit.fate with
  | budgetExhausted | unreachable | refused | lostReply => simp
  | delivered =>
    simp only [Passes, ne_eq, reduceCtorEq, not_false_eq_true, forall_const, true_and]
    have noBudget := clientAnswer_ne_budget (commitResultBatch (authority.finalFrom s visit.others) visit.now batch w i).1
    generalize clientAnswer (commitResultBatch (authority.finalFrom s visit.others) visit.now batch w i).1 = answer at *
    cases answer with
    | ok => simp
    | error err => cases err <;> simp_all

inductive Turn (w i : String) (r : Replay) (visit : Visit) : Replay → Prop
  | ended (done : r.stopped ≠ none ∨ r.todo = []) : Turn w i r visit r
  | skipped (batch : ResultBatch) (rest : List ResultBatch) (running : r.stopped = none) (next : r.todo = batch :: rest)
      (known : (batch.taskId, batch.generation) ∈ r.discarded) : Turn w i r visit { r with todo := rest }
  | acknowledged (batch : ResultBatch) (rest : List ResultBatch) (running : r.stopped = none)
      (next : r.todo = batch :: rest) (fresh : (batch.taskId, batch.generation) ∉ r.discarded)
      (answer : (commitBatch r.store visit batch w i).1 = .ok ()) : Turn w i r visit { r with
        todo := rest, spool := r.spool.ack batch.batchId, store := (commitBatch r.store visit batch w i).2 }
  | fenced (batch : ResultBatch) (rest : List ResultBatch) (running : r.stopped = none)
      (next : r.todo = batch :: rest) (fresh : (batch.taskId, batch.generation) ∉ r.discarded)
      (answer : (commitBatch r.store visit batch w i).1 = .error .staleLease) : Turn w i r visit { r with
        todo := rest, discarded := (batch.taskId, batch.generation) :: r.discarded,
        spool := r.spool.discardGeneration batch.taskId batch.generation,
        store := (commitBatch r.store visit batch w i).2 }
  | raised (batch : ResultBatch) (rest : List ResultBatch) (running : r.stopped = none)
      (next : r.todo = batch :: rest) (fresh : (batch.taskId, batch.generation) ∉ r.discarded) (err : ClientError)
      (answer : (commitBatch r.store visit batch w i).1 = .error err) (other : err ≠ .staleLease) :
      Turn w i r visit { r with store := (commitBatch r.store visit batch w i).2, stopped := some err }

theorem replayStep_turn (w i : String) (r : Replay) (visit : Visit) : Turn w i r visit (replayStep w i r visit) := by
  unfold replayStep
  split
  · rename_i batch rest running next
    split
    · rename_i known
      exact .skipped batch rest running next known
    · rename_i fresh
      split
      · rename_i store answer
        have outcome := congrArg Prod.fst answer
        have after := congrArg Prod.snd answer
        dsimp only at outcome after
        subst after
        exact .acknowledged batch rest running next fresh outcome
      · rename_i store answer
        have outcome := congrArg Prod.fst answer
        have after := congrArg Prod.snd answer
        dsimp only at outcome after
        subst after
        exact .fenced batch rest running next fresh outcome
      · rename_i err store other answer
        have outcome := congrArg Prod.fst answer
        have after := congrArg Prod.snd answer
        dsimp only at outcome after
        subst after
        exact .raised batch rest running next fresh err outcome other
  · rename_i idle
    refine .ended ?_
    by_contra running
    rw [not_or, not_not] at running
    obtain ⟨batch, rest, next⟩ := List.exists_cons_of_ne_nil running.2
    exact idle batch rest running.1 next

theorem Ready.turn {w i : String} {r after : Replay} {visit : Visit} (ready : Ready r) (turn : Turn w i r visit after) :
    Ready after := by
  cases turn with
  | ended => exact ready
  | skipped batch rest running next known =>
    refine ⟨ready.shaped, fun b member => ready.encodes b (by simp [next, member]), ?_, ready.kept⟩
    intro _ row member
    have listed := ready.listed running row member
    rw [next, List.mem_cons] at listed
    rcases listed with same | later
    · exact absurd (same ▸ known) (ready.kept row member)
    · exact later
  | acknowledged batch rest running next =>
    refine ⟨shaped_commitBatch ready.shaped _ _ _ _, fun b member => ready.encodes b (by simp [next, member]), ?_, ?_⟩
    · intro _ row member
      obtain ⟨old, other⟩ := List.mem_filter.mp member
      have listed := ready.listed running row old
      rw [next, List.mem_cons] at listed
      rcases listed with same | later
      · simp [row.records.batchId, same] at other
      · exact later
    · exact fun row member => ready.kept row (List.mem_of_mem_filter member)
  | fenced batch rest running next =>
    have others : ∀ row ∈ (r.spool.discardGeneration batch.taskId batch.generation).pendingResultBatches.rows,
        (row.batch.taskId, row.batch.generation) ≠ (batch.taskId, batch.generation) := by
      intro row member
      have other := (List.mem_filter.mp member).2
      simpa [row.records.taskId, row.records.generation, imp_iff_not_or] using other
    refine ⟨shaped_commitBatch ready.shaped _ _ _ _, fun b member => ready.encodes b (by simp [next, member]), ?_, ?_⟩
    · intro _ row member
      have listed := ready.listed running row (List.mem_of_mem_filter member)
      rw [next, List.mem_cons] at listed
      rcases listed with same | later
      · exact absurd (same ▸ rfl) (others row member)
      · exact later
    · intro row member
      rw [List.mem_cons, not_or]
      exact ⟨others row member, ready.kept row (List.mem_of_mem_filter member)⟩
  | raised batch rest running next =>
    exact ⟨shaped_commitBatch ready.shaped _ _ _ _, ready.encodes, by simp, ready.kept⟩

theorem sound_turn {w i : String} {r after : Replay} {visit : Visit} (ready : Ready r) (turn : Turn w i r visit after) :
    Sound after ↔ Sound r ∧ Unobstructed w i r visit := by
  have attempt : ∀ {batch rest}, r.stopped = none → r.todo = batch :: rest →
      (batch.taskId, batch.generation) ∉ r.discarded →
      ((∀ err, (commitBatch r.store visit batch w i).1 = .error err →
        err = .staleLease ∨ err = .transport ∨ err = .uploadBudgetExceeded) ↔ Unobstructed w i r visit) := by
    intro batch rest running next fresh
    rw [commitBatch_passes_iff ready.shaped visit (ready.encodes batch (by simp [next])) w i]
    constructor
    · intro passes batch' rest' _ next' _
      rw [next] at next'
      cases next'
      exact passes
    · exact fun free => free batch rest running next fresh
  cases turn with
  | ended done =>
    have free : Unobstructed w i r visit := by
      intro batch rest running next
      simp [running, next] at done
    simp [free]
  | skipped batch rest running next known =>
    have free : Unobstructed w i r visit := by
      intro batch' rest' _ next' fresh
      rw [next] at next'
      cases next'
      exact absurd known fresh
    simp [Sound, running, free]
  | acknowledged batch rest running next fresh answer =>
    have free := (attempt running next fresh).mp (by simp [answer])
    simp [Sound, running, free]
  | fenced batch rest running next fresh answer =>
    have free := (attempt running next fresh).mp (by simp [answer])
    simp [Sound, running, free]
  | raised batch rest running next fresh err answer other =>
    rw [← attempt running next fresh]
    simp [Sound, running, answer, other]

theorem todo_turn {w i : String} {r after : Replay} {visit : Visit} (turn : Turn w i r visit after)
    (running : after.stopped = none) : after.todo.length = r.todo.length - 1 ∧ r.stopped = none := by
  cases turn with
  | ended done =>
    refine ⟨?_, running⟩
    simp [done.resolve_left (by simp [running])]
  | skipped batch rest wasRunning next => exact ⟨by simp [next], wasRunning⟩
  | acknowledged batch rest wasRunning next => exact ⟨by simp [next], wasRunning⟩
  | fenced batch rest wasRunning next => exact ⟨by simp [next], wasRunning⟩
  | raised => cases running

/-! ## Whole replays -/

variable (w i : String) (spool : Spool) (store : Store)

theorem ready_run (shaped : Shaped store) (visits : List Visit) : Ready ((replay w i spool store).final visits) := by
  refine (replay w i spool store).invariant ?_ (fun r visit ready => ready.turn (replayStep_turn w i r visit)) visits
  have todo : (replay w i spool store).initial.todo = spool.listed.map (·.batch) := by simp [replay, pending_eq]
  refine ⟨shaped, ?_, ?_, by simp [replay]⟩
  · rw [todo]
    intro batch member
    obtain ⟨row, -, rfl⟩ := List.mem_map.mp member
    exact row.records.encodes
  · intro _ row member
    rw [todo]
    exact List.mem_map_of_mem (mem_listed.mpr member)

theorem sound_run (shaped : Shaped store) (visits : List Visit) :
    Sound ((replay w i spool store).final visits) ↔
      ∀ r ∈ (replay w i spool store).trace visits, Unobstructed w i r.before r.event := by
  induction visits using List.reverseRecOn with
  | nil => simp [replay, Sound]
  | append_singleton visits visit ih =>
    have ready := ready_run w i spool store shaped visits
    rw [Machine.final_snoc, Machine.trace_snoc]
    refine (sound_turn ready (replayStep_turn w i _ visit)).trans ?_
    rw [ih]
    simp [or_imp, forall_and]

/-- While the loop runs, one batch less is to come after each turn. -/
theorem todo_run (visits : List Visit) (running : ((replay w i spool store).final visits).stopped = none) :
    ((replay w i spool store).final visits).todo.length = spool.pendingCount - visits.length := by
  induction visits using List.reverseRecOn with
  | nil =>
    have length : spool.listed.length = spool.pendingCount := List.length_insertionSort _ _
    simp [replay, pending_eq, length]
  | append_singleton visits visit ih =>
    rw [Machine.final_snoc] at running ⊢
    obtain ⟨shorter, wasRunning⟩ := todo_turn (replayStep_turn w i _ visit) running
    have before := ih wasRunning
    simp only [List.length_append, List.length_singleton]
    exact shorter.trans (by omega)

/-- A whole replay ends with an empty spool, or at the transport or the budget, exactly
    when it stays sound. -/
theorem drains_iff_sound (shaped : Shaped store) (visits : Nat → Visit) :
    Drains ((replay w i spool store).final (visitsOf spool visits)) ↔
      Sound ((replay w i spool store).final (visitsOf spool visits)) := by
  refine or_congr_left ⟨And.left, fun running => ⟨running, ?_⟩⟩
  have ready := ready_run w i spool store shaped (visitsOf spool visits)
  have length := todo_run w i spool store (visitsOf spool visits) running
  have nothing : ((replay w i spool store).final (visitsOf spool visits)).todo = [] :=
    List.length_eq_zero_iff.mp (by rw [length]; simp [visitsOf])
  have rows : ((replay w i spool store).final (visitsOf spool visits)).spool.pendingResultBatches.rows = [] := by
    refine List.eq_nil_iff_forall_not_mem.mpr fun row member => ?_
    have listed := ready.listed running row member
    rw [nothing] at listed
    cases listed
  rw [Spool.pendingCount, rows, List.length_nil]

/-- For every reachable authority and every spool: the replay empties the spool, or stops
    at the transport or the budget, exactly when no request that it makes is refused by the
    HTTP layer, meets another payload under its identity or, with its lease live, is not
    the next. A batch whose lease is not live is acknowledged or fenced exactly when no
    other payload is stored under its identity. -/
theorem replay_drains_iff (es : List Event) (visits : Nat → Visit) :
    (Drains ((replay w i spool (authority.final es)).final (visitsOf spool visits)) ↔
      ∀ r ∈ (replay w i spool (authority.final es)).trace (visitsOf spool visits), Unobstructed w i r.before r.event) ∧
    ∀ now batch, encodable (batchPayload batch) → ¬LiveFor (authority.final es) now batch w i →
      (((commitResultBatch (authority.final es) now batch w i).1 = .ok false ∨
          ∃ message, (commitResultBatch (authority.final es) now batch w i).1 = .error (.staleLease message)) ↔
        Unclaimed (authority.final es) batch) := by
  refine ⟨?_, fun now batch encodes dead => commit_dead_iff (shaped_final es) encodes dead⟩
  rw [drains_iff_sound w i spool _ (shaped_final es) visits]
  exact sound_run w i spool _ (shaped_final es) (visitsOf spool visits)

/-! ## A takeover -/

def firstBatch (generation : Nat) (positive : ¬generation < 1 := by decide) : ResultBatch where
  taskId := "t"
  generation := generation
  sequenceNo := 0
  results := []
  artifacts := []
  cursorAfter := none
  final := false
  valid := by
    have named : blank "t" = false := by decide
    simp [BatchFields.postInit, named, positive]

/-- A worker claims a task; its lease expires, and another worker takes the task over and
    delivers the first batch. -/
def takeoverRun : List Event := [
  ⟨0, .registerWorker (plainWorker "a" "i"), zero_sinceEpoch⟩, ⟨1, .registerWorker (plainWorker "b" "j"), one_sinceEpoch⟩,
  ⟨2, .admitWork "t" (plainWork 5 five_tries), two_sinceEpoch⟩, ⟨3, .claimWork (fun _ => 0) "a" "i" (.fin 60), three_sinceEpoch⟩,
  ⟨70, .claimWork (fun _ => 0) "b" "j" (.fin 60), by decide⟩,
  ⟨71, .commitResultBatch (firstBatch 2) "b" "j", by decide⟩]

/-- The spool of the first worker: the batch it produced before its lease expired. -/
def lostSpool : Spool := (Spool.empty.put 4 (firstBatch 1)).2

/-- The first worker replays its batch, and nothing goes wrong on the way. -/
def lateVisit : Visit := ⟨[], 80, .delivered, by norm_num⟩

/-- Before the takeover the late batch is fenced. -/
theorem replay_fenced :
    (commitResultBatch (authority.final (takeoverRun.take 4)) 80 (firstBatch 1) "a" "i").1 = .ok false ∨
      ∃ message, (commitResultBatch (authority.final (takeoverRun.take 4)) 80 (firstBatch 1) "a" "i").1 =
        .error (.staleLease message) := by
  refine ((replay_drains_iff "a" "i" lostSpool (takeoverRun.take 4) (fun _ => lateVisit)).2 80 (firstBatch 1)
    (by decide +kernel) ?_).mpr ?_
  · rintro ⟨row, found, holds⟩
    obtain ⟨d, due, above⟩ := holds.unexpired
    have expired : ((authority.final (takeoverRun.take 4)).work.get? "t").all
        (fun row => row.leaseDeadline.all (fun d => !PyFloat.lt (.fin 80) d)) := by decide +kernel
    simp only [firstBatch] at found
    simp [found, due, above] at expired
  · intro stored found
    have empty : (authority.final (takeoverRun.take 4)).resultBatches.rows.isEmpty := by decide +kernel
    have member := Table.mem_of_get? found
    rw [List.isEmpty_iff.mp empty] at member
    cases member

/-- After it, the replay ends in a conflict: a clocked run, a spool whose batches carry
    generations granted to its worker, and requests that are all delivered. -/
theorem takeover_wedges : ¬∀ (w i : String) (spool : Spool) (es : List Event) (now : ℚ) (visits : Nat → Visit),
    Clocked Event.now es now → (∀ n, (visits n).others = [] ∧ (visits n).now = now ∧ (visits n).fate = .delivered) →
    (∀ row ∈ spool.pendingResultBatches.rows, ∃ r ∈ authority.trace es, ∃ lease, freshGrant r = some lease ∧
      lease.taskId = row.taskId ∧ lease.generation = row.generation ∧ lease.workerId = w ∧ lease.workerInstanceId = i) →
    Drains ((replay w i spool (authority.final es)).final (visitsOf spool visits)) := by
  intro drains
  have granted : ∀ row ∈ lostSpool.pendingResultBatches.rows, ∃ r ∈ authority.trace takeoverRun, ∃ lease,
      freshGrant r = some lease ∧ lease.taskId = row.taskId ∧ lease.generation = row.generation ∧
        lease.workerId = "a" ∧ lease.workerInstanceId = "i" := by
    have all : lostSpool.pendingResultBatches.rows.all (fun row => (authority.trace takeoverRun).any (fun r =>
        (freshGrant r).any (fun lease => lease.taskId = row.taskId && lease.generation = row.generation &&
          lease.workerId = "a" && lease.workerInstanceId = "i"))) := by decide +kernel
    intro row member
    obtain ⟨r, step, grant⟩ := List.any_eq_true.mp (List.all_eq_true.mp all row member)
    obtain ⟨lease, isGrant, same⟩ := (Option.any_eq_true _ _).mp grant
    simp only [Bool.and_eq_true, decide_eq_true_eq] at same
    exact ⟨r, step, lease, isGrant, same.1.1.1, same.1.1.2, same.1.2, same.2⟩
  have stops := drains "a" "i" lostSpool takeoverRun 80 (fun _ => lateVisit) (by decide +kernel)
    (fun _ => ⟨rfl, rfl, rfl⟩) granted
  have conflict : ((replay "a" "i" lostSpool (authority.final takeoverRun)).final
      (visitsOf lostSpool (fun _ => lateVisit))).stopped = some .coordinator := by decide +kernel
  simp [Drains, conflict] at stops

end Creeper.SpoolReplay
