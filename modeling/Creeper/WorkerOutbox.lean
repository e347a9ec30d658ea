import Creeper.SpoolReplay
import Creeper.ResultLog

/-!
# The worker's outbox

A worker, its spool and the authority, with requests that may not arrive, replies
that may be lost and restarts at any point. A batch leaves the spool only when the
authority has accepted it or never will.
-/

namespace Creeper.WorkerOutbox
open Creeper.Runs Creeper.Tables Creeper.PyNumbers Creeper.PyText Creeper.Hashing Creeper.FabricModels
open Creeper.AuthorityStore Creeper.ResultLog Creeper.BatchPayload Creeper.WorkerSpool Creeper.SpoolReplay

/-! ## Generations that are over -/

/-- The generation of the row has been fenced, has ended or has expired. -/
def Ended (row : WorkRow) (generation : Nat) (now : ℚ) : Prop :=
  generation < row.leaseGeneration ∨
    row.leaseGeneration = generation ∧ (row.state ≠ .leased ∨ ∀ d, row.leaseDeadline = some d → d.le (.fin now))

/-- No call that follows, on a clock that never goes back, makes the authority accept a
    batch of the generation. -/
def NeverAccepted (calls : List Event) (taskId : String) (generation : Nat) : Prop :=
  ∀ more, ((calls ++ more).map Event.now).Pairwise (· ≤ ·) →
    ∀ r ∈ authority.traceFrom (authority.final calls) more, ∀ batch, accepted r = some batch →
      ¬(batch.taskId = taskId ∧ batch.generation = generation)

theorem NeverAccepted.later {calls : List Event} {taskId : String} {generation : Nat}
    (never : NeverAccepted calls taskId generation) (e : Event) : NeverAccepted (calls ++ [e]) taskId generation := by
  intro more clocked r member
  refine never (e :: more) (by simpa using clocked) r ?_
  rw [Machine.traceFrom_cons]
  rw [Machine.final_snoc] at member
  exact List.mem_cons_of_mem _ member

theorem Ended.not_holds {row : WorkRow} {generation : Nat} {now later : ℚ} (ended : Ended row generation now)
    (le : now ≤ later) {w i : String} {g : Int} (holds : Holds row later w i g) : g ≠ generation := by
  rintro rfl
  obtain ⟨d, due, above⟩ := holds.unexpired
  have current := holds.current
  rcases ended with newer | ⟨-, free | expired⟩
  · omega
  · exact free holds.leased
  · have past := expired d due
    cases d with
    | fin x =>
      simp only [PyFloat.le_fin, decide_eq_true_eq] at past
      simp only [PyFloat.lt_fin, decide_eq_true_eq] at above
      linarith
    | negInf => simp [PyFloat.lt] at above
    | posInf | nan => simp [PyFloat.le] at past

theorem over_step {s : Store} (shaped : Shaped s) {e : Event} {taskId : String} {row : WorkRow} {generation : Nat}
    {now : ℚ} (le : now ≤ e.now) (found : s.work.get? taskId = some row) (ended : Ended row generation now) :
    (∃ row', (step s e).2.work.get? taskId = some row' ∧ Ended row' generation now) ∧
      ∀ batch, accepted (taken s e) = some batch → ¬(batch.taskId = taskId ∧ batch.generation = generation) := by
  constructor
  · have move := row_moves shaped e taskId
    rw [found] at move
    generalize (step s e).2.work.get? taskId = after at move
    cases move with
    | same => exact ⟨row, rfl, ended⟩
    | released => exact ⟨_, rfl, ended.imp_right (fun same => ⟨same.1, .inl (by simp)⟩)⟩
    | granted =>
      refine ⟨_, rfl, .inl ?_⟩
      have : generation ≤ row.leaseGeneration := ended.elim le_of_lt (fun same => same.1.ge)
      exact Nat.lt_succ_of_le this
    | renewed _ w i g leaseSeconds expected deadline isRenew positive holds =>
      have apart := ended.not_holds le holds
      rcases ended with newer | ⟨same, -⟩
      · exact ⟨_, rfl, .inl newer⟩
      · exact absurd (by rw [← same]; exact holds.current.symm) apart
    | committed _ batch w i isCommit sameTask accept holds =>
      have apart := ended.not_holds le holds
      rcases ended with newer | ⟨same, -⟩
      · exact ⟨_, rfl, .inl newer⟩
      · exact absurd (by rw [← same]; exact holds.current.symm) apart
    | finished => exact ⟨_, rfl, ended.imp_right (fun same => ⟨same.1, .inl (by simp)⟩)⟩
    | failed _ w i g err retryable later isFail holds state notBefore chosen =>
      refine ⟨_, rfl, ended.imp_right (fun same => ⟨same.1, .inl ?_⟩)⟩
      rcases chosen with ⟨rfl, -⟩ | rfl <;> simp
    | compacted => exact ⟨_, rfl, ended⟩
  · rintro batch accept ⟨rfl, same⟩
    obtain ⟨w, i, held, -, foundHeld, holds⟩ := accepted_by_holder shaped accept
    rw [found] at foundHeld
    cases foundHeld
    exact ended.not_holds le holds (by rw [same])

theorem never_of_ended {calls : List Event} {taskId : String} {row : WorkRow} {generation : Nat} {now : ℚ}
    (found : (authority.final calls).work.get? taskId = some row) (ended : Ended row generation now)
    (reached : ∀ more, ((calls ++ more).map Event.now).Pairwise (· ≤ ·) → ∀ e ∈ more, now ≤ e.now) :
    NeverAccepted calls taskId generation := by
  intro more clocked
  have times := reached more clocked
  have shaped := shaped_final calls
  clear clocked reached
  generalize authority.final calls = s at found shaped
  induction more generalizing s row with
  | nil => simp
  | cons e more ih =>
    obtain ⟨⟨row', found', ended'⟩, none⟩ := over_step shaped (times e (by simp)) found ended
    intro r member
    rcases List.mem_cons.mp member with rfl | later
    · exact none
    · exact ih ended' (fun e' member => times e' (by simp [member])) _ found' (shaped_step shaped e) r later

theorem later_calls {calls : List Event} {e : Event} :
    ∀ more, ((calls ++ [e] ++ more).map Event.now).Pairwise (· ≤ ·) → ∀ e' ∈ more, e.now ≤ e'.now := by
  intro more clocked e' member
  rw [List.map_append] at clocked
  obtain ⟨-, -, cross⟩ := List.pairwise_append.mp clocked
  exact cross e.now (by simp) e'.now (List.mem_map_of_mem member)

/-! ## Generations of the worker -/

/-- The row is leased to an instance of the worker under a generation. -/
structure OwnedBy (row : WorkRow) (w i : String) (generation : Nat) : Prop where
  leased : row.state = .leased
  owner : row.leaseOwner = some w
  owningInstance : row.leaseOwnerInstance = some i
  current : row.leaseGeneration = generation

/-- The generation is over for good, or an instance of the worker has it. -/
def Claimed (calls : List Event) (w : String) (isInstance : String → Prop) (taskId : String) (generation : Nat) : Prop :=
  NeverAccepted calls taskId generation ∨
    ∃ row i, (authority.final calls).work.get? taskId = some row ∧ OwnedBy row w i generation ∧ isInstance i

theorem Claimed.mono {calls : List Event} {w : String} {isInstance other : String → Prop} {taskId : String}
    {generation : Nat} (claimed : Claimed calls w isInstance taskId generation) (weaker : ∀ i, isInstance i → other i) :
    Claimed calls w other taskId generation :=
  claimed.imp_right (fun ⟨row, i, found, owned, named⟩ => ⟨row, i, found, owned, weaker i named⟩)

/-- Every call leaves a generation of the worker with its instance, or ends it. -/
theorem Claimed.step {calls : List Event} {w : String} {isInstance : String → Prop} {taskId : String}
    {generation : Nat} (claimed : Claimed calls w isInstance taskId generation) (e : Event) :
    Claimed (calls ++ [e]) w isInstance taskId generation := by
  rcases claimed with never | ⟨row, i, found, owned, named⟩
  · exact .inl (never.later e)
  have move := row_moves (shaped_final calls) e taskId
  rw [found] at move
  generalize after : (AuthorityStore.step (authority.final calls) e).2.work.get? taskId = next at move
  have now : (authority.final (calls ++ [e])).work.get? taskId = next := by
    rw [Machine.final_snoc]
    exact after
  have ends : ∀ {row'}, next = some row' → Ended row' generation e.now → NeverAccepted (calls ++ [e]) taskId generation :=
    fun isRow ended => never_of_ended (now.trans isRow) ended later_calls
  obtain ⟨leased, owner, owning, current⟩ := owned
  cases move with
  | same => exact .inr ⟨row, i, now, ⟨leased, owner, owning, current⟩, named⟩
  | released => exact .inl (ends rfl (.inr ⟨current, .inl (by simp)⟩))
  | granted => exact .inl (ends rfl (.inl (by simp [current])))
  | renewed => exact .inr ⟨_, i, now, ⟨leased, owner, owning, current⟩, named⟩
  | committed _ batch =>
    cases final : batch.final with
    | true => exact .inl (ends rfl (.inr ⟨current, .inl (by simp [final])⟩))
    | false => exact .inr ⟨_, i, now, ⟨by simp [final], by simp [final, owner], by simp [final, owning], current⟩, named⟩
  | finished => exact .inl (ends rfl (.inr ⟨current, .inl (by simp)⟩))
  | failed _ v j g err retryable later isFail holds state notBefore chosen =>
    refine .inl (ends rfl (.inr ⟨current, .inl ?_⟩))
    rcases chosen with ⟨rfl, -⟩ | rfl <;> simp
  | compacted _ retention limit isGc complete => simp [leased] at complete

theorem Claimed.register {calls : List Event} {w : String} {isInstance : String → Prop} {taskId : String}
    {generation : Nat} (claimed : Claimed calls w isInstance taskId generation) {e : Event} {d : WorkerDescriptor}
    (op : e.op = .registerWorker d) (name : d.workerId = w)
    (accepted : (authority.step (authority.final calls) e).1 = .ok .nothing) :
    Claimed (calls ++ [e]) w (· = d.workerInstanceId) taskId generation := by
  rcases claimed with never | ⟨row, i, found, owned, -⟩
  · exact .inl (never.later e)
  have protocol : d.protocolVersion = fabricProtocolVersion := by
    by_contra differs
    simp [authority, AuthorityStore.step, op, Answer.reply, registerWorker, differs] at accepted
  have now : (authority.final (calls ++ [e])).work.get? taskId =
      some (if i = d.workerInstanceId then row else row.unleased .pending e.now) := by
    rw [Machine.final_snoc, show authority.step = AuthorityStore.step from rfl]
    by_cases mine : i = d.workerInstanceId <;>
      simp [AuthorityStore.step, op, Answer.reply, registerWorker, protocol, Table.get?_update, found, owned.leased,
        owned.owner, owned.owningInstance, name, mine]
  by_cases mine : i = d.workerInstanceId
  · rw [if_pos mine] at now
    exact .inr ⟨row, i, now, owned, mine⟩
  · rw [if_neg mine] at now
    exact .inl (never_of_ended now (.inr ⟨owned.current, .inl (by simp)⟩) later_calls)

/-- A granted lease is a generation of the worker. -/
theorem claimed_of_claim {calls : List Event} {e : Event} {scan : String → Nat} {w i : String} {leaseSeconds : PyFloat}
    {lease : TaskLease} (op : e.op = .claimWork scan w i leaseSeconds)
    (granted : (claimWork (authority.final calls) e.now scan w i leaseSeconds).1 = .ok (some lease)) :
    Claimed (calls ++ [e]) w (· = i) lease.taskId lease.generation := by
  have shaped := shaped_final calls
  have outcome : (taken (authority.final calls) e).outcome = .ok (.claimed (some lease)) := by
    simp only [taken, Machine.take_outcome, authority, AuthorityStore.step, op, Answer.reply]
    exact congrArg (Reply.claimed <$> ·) granted
  cases active : activeLease (authority.final calls) w i e.now with
  | none =>
    have grant : freshGrant (taken (authority.final calls) e) = some lease := by
      unfold freshGrant
      rw [show (taken (authority.final calls) e).event.op = e.op from rfl, op, outcome]
      simp only [show (taken (authority.final calls) e).before = authority.final calls from rfl,
        show (taken (authority.final calls) e).event.now = e.now from rfl, active]
      rfl
    have move := row_moves shaped e lease.taskId
    generalize after : (AuthorityStore.step (authority.final calls) e).2.work.get? lease.taskId = next at move
    generalize (authority.final calls).work.get? lease.taskId = before at move
    have stored : (authority.final (calls ++ [e])).work.get? lease.taskId = next := by
      rw [Machine.final_snoc]
      exact after
    cases move with
    | granted row scan' v j seconds isClaim positive chosen open_ lease' grant' sameTask generation =>
      rw [op] at isClaim
      cases isClaim
      rw [grant] at grant'
      cases grant'
      exact .inr ⟨_, i, stored, ⟨rfl, rfl, rfl, generation.symm⟩, rfl⟩
    | same row _ notGranted => exact absurd rfl (notGranted lease grant)
    | released row leased release =>
      rcases release with ⟨d, other, -⟩ | ⟨v, other, -⟩ <;> cases op.symm.trans other
    | admitted work key other => cases op.symm.trans other
    | renewed row v j g ls x d other => cases op.symm.trans other
    | committed row batch v j other => cases op.symm.trans other
    | finished row v j g other => cases op.symm.trans other
    | failed row v j g err retry later other => cases op.symm.trans other
    | compacted row retention limit other => cases op.symm.trans other
  | some row =>
    obtain ⟨member, holds⟩ := activeLease_some active
    have shape := shaped row member
    obtain ⟨started, finite⟩ := shape.started holds.leased
    have answer := claim_cases (authority.final calls) e.now scan w i leaseSeconds
    generalize frame : claimWork (authority.final calls) e.now scan w i leaseSeconds = result at answer granted
    cases answer with
    | replayed worker registered held isActive =>
      rw [active] at isActive
      cases isActive
      rw [leaseOf_ok shape finite (by have := shape.counters; omega)] at granted
      cases granted
      refine .inr ⟨row, i, ?_, ⟨holds.leased, holds.owner, holds.owningInstance, rfl⟩, rfl⟩
      rw [Machine.final_snoc, show authority.step = AuthorityStore.step from rfl]
      simp only [AuthorityStore.step, op, Answer.reply, frame]
      exact Table.get?_mem member
    | invalid => cases granted
    | rejected => cases granted
    | nothing worker registered idle => simp [active] at idle
    | granted positive worker registered idle => simp [active] at idle

theorem never_of_fenced {calls : List Event} {e : Event} {batch : ResultBatch} {w i : String}
    (op : e.op = .commitResultBatch batch w i) {message : String}
    (fenced : (commitResultBatch (authority.final calls) e.now batch w i).1 = .error (.staleLease message))
    (claimed : Claimed calls w (· = i) batch.taskId batch.generation) :
    NeverAccepted (calls ++ [e]) batch.taskId batch.generation := by
  rcases claimed with never | ⟨row, j, found, owned, rfl⟩
  · exact never.later e
  have answer := commit_cases (authority.final calls) e.now batch w j
  generalize frame : commitResultBatch (authority.final calls) e.now batch w j = result at answer fenced
  cases answer with
  | fenced bytes encoded absent err rejected =>
    have same : (authority.final (calls ++ [e])).work.get? batch.taskId = some row := by
      rw [Machine.final_snoc, show authority.step = AuthorityStore.step from rfl]
      simp only [AuthorityStore.step, op, Answer.reply, frame]
      exact found
    refine never_of_ended same (.inr ⟨owned.current, .inr ?_⟩) later_calls
    intro d due
    by_contra notPast
    have number : d ≠ .nan := by
      rintro rfl
      exact (shaped_final calls).get found |>.deadline due
    have holds : Holds row e.now w j batch.generation :=
      ⟨owned.leased, owned.owner, owned.owningInstance, congrArg Nat.cast owned.current, d, due,
        lt_of_not_le number (by simpa using notPast)⟩
    rw [assertActiveLease_holds found holds] at rejected
    cases rejected
  | _ => cases fenced

/-! ## Stored batches -/

def WasAccepted (calls : List Event) (batch : ResultBatch) : Prop :=
  ∃ r ∈ authority.trace calls, accepted r = some batch

theorem WasAccepted.later {calls : List Event} {batch : ResultBatch} (accept : WasAccepted calls batch) (e : Event) :
    WasAccepted (calls ++ [e]) batch := by
  obtain ⟨r, member, batchIs⟩ := accept
  exact ⟨r, by simp [member], batchIs⟩

/-- The row carries the identity and the digest of a batch. -/
def RowOf (row : BatchRow) (batch : ResultBatch) : Prop :=
  row.batchId = batch.batchId ∧ row.payloadDigest = digestOf batch

/-- A call keeps the identity and the digest of a stored row; a new row is that of the
    batch it accepts. -/
theorem batch_rows_step (s : Store) (e : Event) {row : BatchRow} (member : row ∈ (step s e).2.resultBatches.rows) :
    (∃ old ∈ s.resultBatches.rows, old.batchId = row.batchId ∧ old.payloadDigest = row.payloadDigest) ∨
      ∃ batch, accepted (taken s e) = some batch ∧ RowOf row batch := by
  have kept : (step s e).2.resultBatches = s.resultBatches →
      ∃ old ∈ s.resultBatches.rows, old.batchId = row.batchId ∧ old.payloadDigest = row.payloadDigest :=
    fun same => ⟨row, same ▸ member, rfl, rfl⟩
  cases op : e.op with
  | commitResultBatch batch w i =>
    have outcome : (taken s e).outcome = .flag <$> (commitResultBatch s e.now batch w i).1 := by
      simp [taken, authority, step, op, Answer.reply]
    have after : (step s e).2 = (commitResultBatch s e.now batch w i).2 := by simp [step, op, Answer.reply]
    rw [after] at member kept
    have answer := commit_cases s e.now batch w i
    generalize commitResultBatch s e.now batch w i = result at answer member kept outcome
    cases answer with
    | accepted bytes encoded absent =>
      simp only [Store.accept] at member
      rw [Table.rows_insert (by exact absent)] at member
      rcases List.mem_append.mp member with old | new
      · exact .inl ⟨row, old, rfl, rfl⟩
      · right
        refine ⟨batch, ?_, ?_⟩
        · unfold accepted
          rw [show (taken s e).event.op = e.op from rfl, op, outcome]
          rfl
        · rw [List.mem_singleton.mp new]
          exact ⟨rfl, by simp [digestOf, encoded]⟩
    | _ => exact .inl (kept rfl)
  | markBatchConsumed id =>
    simp only [step, op, Answer.reply, markBatchConsumed, Table.rows_update] at member
    obtain ⟨old, stored, same⟩ := List.mem_map.mp member
    refine .inl ⟨old, stored, ?_⟩
    rw [← same]
    split <;> exact ⟨rfl, rfl⟩
  | markBatchConsumeFailed id err m =>
    simp only [step, op, Answer.reply, markBatchConsumeFailed] at member
    repeat' split at member
    all_goals first
      | exact .inl ⟨row, member, rfl, rfl⟩
      | obtain ⟨old, stored, same⟩ := List.mem_map.mp member
        refine .inl ⟨old, stored, ?_⟩
        rw [← same]
        split <;> exact ⟨rfl, rfl⟩
  | gcTransientState ret limit =>
    simp only [step, op, Answer.reply, gcTransientState] at member
    repeat' split at member
    all_goals first
      | exact .inl ⟨row, member, rfl, rfl⟩
      | exact .inl ⟨row, List.mem_of_mem_filter member, rfl, rfl⟩
  | _ => exact .inl (kept (resultBatches_untouched s e (by simp [op]) (by simp [op]) (by simp [op]) (by simp [op])))

theorem stored_accepted (calls : List Event) :
    ∀ row ∈ (authority.final calls).resultBatches.rows, ∃ batch, WasAccepted calls batch ∧ RowOf row batch := by
  induction calls using List.reverseRecOn with
  | nil =>
    intro row member
    cases member
  | append_singleton calls e ih =>
    intro row member
    rw [Machine.final_snoc] at member
    rcases batch_rows_step _ e member with ⟨old, stored, identity, digest⟩ | ⟨batch, accept, rowOf⟩
    · obtain ⟨batch, accept, rowOf⟩ := ih old stored
      exact ⟨batch, accept.later e, identity ▸ rowOf.1, digest ▸ rowOf.2⟩
    · exact ⟨batch, ⟨taken (authority.final calls) e, by simp, accept⟩, rowOf⟩

/-! ## The system -/

/-- The calls that the authority has answered, the worker's spool, and the state of the
    running process: its instance, whether it has registered, the lease it works on, and an
    answer it has not acted on, positive or fenced. -/
structure Outbox where
  calls : List Event
  spool : Spool
  workerInstanceId : Option String
  registered : Bool
  lease : Option TaskLease
  answered : Option (ResultBatch × Bool)

def Outbox.store (s : Outbox) : Store := authority.final s.calls

/-- What can happen. A request whose reply is lost has been answered all the same. -/
inductive Happening
  | others (e : Event)
  | restart (proposed : String) (auto : Bool)
  | register (now : ℚ) (descriptor : WorkerDescriptor) (replied : Bool) (sinceEpoch : 0 ≤ now)
  | claim (now : ℚ) (scan : String → Nat) (leaseSeconds : PyFloat) (replied : Bool) (sinceEpoch : 0 ≤ now)
  | put (clock : ℚ) (batch : ResultBatch)
  | commit (now : ℚ) (batchId : String) (fate : Fate) (sinceEpoch : 0 ≤ now)
  | acknowledge
  | discard

def Outbox.pendingBatch (s : Outbox) (batchId : String) : Option ResultBatch :=
  (s.spool.pending.getD []).find? (·.batchId = batchId)

def leaseIn (answer : Except PyError (Option TaskLease)) : Option TaskLease :=
  match answer with
  | .ok lease => lease
  | .error _ => none

/-- The answers that the worker acts on: an acknowledgement, and a fence. -/
def actsOn (batch : ResultBatch) (answer : Except ClientError Unit) : Option (ResultBatch × Bool) :=
  match answer with
  | .ok _ => some (batch, true)
  | .error .staleLease => some (batch, false)
  | .error _ => none

/-- One happening, for the worker with a name. `_deliver` puts a batch of its lease and
    commits it until it is answered; `_replay_spool` commits what is pending. -/
def happen (w : String) (s : Outbox) : Happening → Outbox
  | .others e => { s with calls := s.calls ++ [e] }
  | .restart proposed auto => { s with
      spool := (s.spool.resolveWorkerInstanceId proposed auto).2
      workerInstanceId := (s.spool.resolveWorkerInstanceId proposed auto).1.toOption
      registered := false, lease := none, answered := none }
  | .register now d replied sinceEpoch =>
    if d.workerId = w ∧ s.workerInstanceId = some d.workerInstanceId ∧ !s.registered then { s with
      calls := s.calls ++ [⟨now, .registerWorker d, sinceEpoch⟩]
      registered := replied && (registerWorker s.store now d).1.isOk }
    else s
  | .claim now scan leaseSeconds replied sinceEpoch =>
    match s.workerInstanceId with
    | some i =>
      if s.registered && s.answered.isNone then { s with
        calls := s.calls ++ [⟨now, .claimWork scan w i leaseSeconds, sinceEpoch⟩]
        lease := if replied then leaseIn (claimWork s.store now scan w i leaseSeconds).1 else none }
      else s
    | none => s
  | .put clock batch =>
    if s.registered && s.answered.isNone &&
        s.lease.any (fun lease => batch.taskId = lease.taskId && batch.generation = lease.generation) then
      { s with spool := (s.spool.put clock batch).2 }
    else s
  | .commit now batchId fate sinceEpoch =>
    match s.workerInstanceId, s.pendingBatch batchId with
    | some i, some batch =>
      if s.registered && s.answered.isNone then { s with
        calls := if fate = .lostReply ∨ fate = .delivered then
          s.calls ++ [⟨now, .commitResultBatch batch w i, sinceEpoch⟩] else s.calls
        answered := actsOn batch (commitBatch s.store ⟨[], now, fate, sinceEpoch⟩ batch w i).1 }
      else s
    | _, _ => s
  | .acknowledge =>
    match s.answered with
    | some (batch, true) => { s with spool := s.spool.ack batch.batchId, answered := none }
    | _ => s
  | .discard =>
    match s.answered with
    | some (batch, false) => { s with
        spool := s.spool.discardGeneration batch.taskId batch.generation, answered := none }
    | _ => s

/-- The system, before the worker first starts. -/
def outbox (w : String) : Machine Outbox Happening Unit where
  initial := ⟨[], .empty, none, false, none, none⟩
  step s h := ((), happen w s h)

/-! ## What the answers mean -/

/-- The authority accepted a batch with this identity and this digest. -/
def Acknowledged (calls : List Event) (batch : ResultBatch) : Prop :=
  ∃ stored, WasAccepted calls stored ∧ digestOf stored = digestOf batch

/-- The instances that can have generations of the worker: the registered one, or any. -/
def Outbox.Mine (s : Outbox) (i : String) : Prop := s.registered = true → s.workerInstanceId = some i

structure Settling (w : String) (s : Outbox) : Prop where
  spooled : ∀ batch, s.spool.Holds batch → Claimed s.calls w s.Mine batch.taskId batch.generation
  leased : ∀ lease, s.lease = some lease → Claimed s.calls w s.Mine lease.taskId lease.generation
  acknowledged : ∀ batch, s.answered = some (batch, true) → Acknowledged s.calls batch ∧ s.spool.Holds batch
  fenced : ∀ batch, s.answered = some (batch, false) → NeverAccepted s.calls batch.taskId batch.generation

theorem Acknowledged.later {calls : List Event} {batch : ResultBatch} (known : Acknowledged calls batch) (e : Event) :
    Acknowledged (calls ++ [e]) batch := by
  obtain ⟨stored, accept, digest⟩ := known
  exact ⟨stored, accept.later e, digest⟩

/-- A positive answer means that the authority has accepted the batch, now or before. -/
theorem acknowledged_of_commit {calls : List Event} {e : Event} {batch : ResultBatch} {w i : String}
    (op : e.op = .commitResultBatch batch w i) {fresh : Bool}
    (answer : (commitResultBatch (authority.final calls) e.now batch w i).1 = .ok fresh) :
    Acknowledged (calls ++ [e]) batch := by
  have cases_ := commit_cases (authority.final calls) e.now batch w i
  have outcome : (taken (authority.final calls) e).outcome = .ok (.flag fresh) := by
    simp only [taken, Machine.take_outcome, authority, AuthorityStore.step, op, Answer.reply]
    exact congrArg (Reply.flag <$> ·) answer
  generalize commitResultBatch (authority.final calls) e.now batch w i = result at cases_ answer
  cases cases_ with
  | replayed bytes encoded existing found same =>
    obtain ⟨stored, accept, -, digest⟩ := stored_accepted calls existing (Table.mem_of_get? found)
    refine ⟨stored, accept.later e, ?_⟩
    rw [← digest, same, digestOf, encoded]
    rfl
  | accepted =>
    cases answer
    refine ⟨batch, ⟨taken (authority.final calls) e, by simp, ?_⟩, rfl⟩
    unfold accepted
    rw [show (taken (authority.final calls) e).event.op = e.op from rfl, op, outcome]
  | _ => cases answer

/-- The answers to a request that arrives. -/
theorem actsOn_commit {s : Store} {now : ℚ} {fate : Fate} {sinceEpoch : 0 ≤ now} {batch other : ResultBatch}
    {w i : String} {positive : Bool}
    (answer : actsOn batch (commitBatch s ⟨[], now, fate, sinceEpoch⟩ batch w i).1 = some (other, positive)) :
    other = batch ∧ fate = .delivered ∧
      if positive then ∃ fresh, (commitResultBatch s now batch w i).1 = .ok fresh
      else ∃ message, (commitResultBatch s now batch w i).1 = .error (.staleLease message) := by
  have same : other = batch := by
    revert answer
    unfold actsOn
    split <;> rintro ⟨⟩ <;> rfl
  subst same
  unfold commitBatch at answer
  simp only [Machine.finalFrom_nil, receive_eq] at answer
  split at answer
  · cases fate with
    | delivered =>
      simp only at answer
      generalize (commitResultBatch s now other w i).1 = result at answer
      refine ⟨rfl, rfl, ?_⟩
      unfold clientAnswer at answer
      split at answer <;> simp_all [actsOn]
    | _ => simp [actsOn] at answer
  · simp [actsOn] at answer

/-- Every happening keeps the meaning of what the worker holds. -/
theorem settling_step {w : String} {s : Outbox} (settling : Settling w s) (h : Happening) :
    Settling w (happen w s h) := by
  obtain ⟨spooled, leased, acknowledged, fenced⟩ := settling
  cases h with
  | others e =>
    exact ⟨fun b held => (spooled b held).step e, fun l isLease => (leased l isLease).step e,
      fun b isAnswer => ⟨(acknowledged b isAnswer).1.later e, (acknowledged b isAnswer).2⟩,
      fun b isAnswer => (fenced b isAnswer).later e⟩
  | restart proposed auto =>
    refine ⟨fun b held => ?_, by simp [happen], by simp [happen], by simp [happen]⟩
    exact (spooled b ((holds_resolve b).mp held)).mono (fun i _ => by simp [Outbox.Mine, happen])
  | register now d replied sinceEpoch =>
    simp only [happen]
    split
    · rename_i guard
      obtain ⟨name, running, -⟩ := guard
      set e : Event := ⟨now, .registerWorker d, sinceEpoch⟩ with isEvent
      have claims : ∀ {t g}, Claimed s.calls w s.Mine t g → Claimed (s.calls ++ [e]) w
          (fun i => (replied && (registerWorker s.store now d).1.isOk) = true → s.workerInstanceId = some i) t g := by
        intro t g claimed
        by_cases accept : (registerWorker s.store now d).1.isOk
        · have outcome : (authority.step (authority.final s.calls) e).1 = .ok .nothing := by
            rw [show authority.step = AuthorityStore.step from rfl, isEvent]
            simp only [AuthorityStore.step, Answer.reply]
            rw [show authority.final s.calls = s.store from rfl]
            cases result : (registerWorker s.store now d).1 with
            | ok => rfl
            | error => simp [result, Except.isOk, Except.toBool] at accept
          refine (claimed.register (e := e) rfl name outcome).mono ?_
          rintro i rfl _
          exact running
        · exact (claimed.step e).mono (fun i _ => by simp [accept])
      exact ⟨fun b held => claims (spooled b held), fun l isLease => claims (leased l isLease),
        fun b isAnswer => ⟨(acknowledged b isAnswer).1.later e, (acknowledged b isAnswer).2⟩,
        fun b isAnswer => (fenced b isAnswer).later e⟩
    · exact ⟨spooled, leased, acknowledged, fenced⟩
  | claim now scan leaseSeconds replied sinceEpoch =>
    simp only [happen]
    split
    · rename_i i running
      split
      · set e : Event := ⟨now, .claimWork scan w i leaseSeconds, sinceEpoch⟩
        refine ⟨fun b held => (spooled b held).step e, fun l isLease => ?_,
          fun b isAnswer => ⟨(acknowledged b isAnswer).1.later e, (acknowledged b isAnswer).2⟩,
          fun b isAnswer => (fenced b isAnswer).later e⟩
        have granted : (claimWork s.store now scan w i leaseSeconds).1 = .ok (some l) := by
          simp only at isLease
          split at isLease
          · unfold leaseIn at isLease
            split at isLease
            · rename_i answer
              rw [answer, isLease]
            · cases isLease
          · cases isLease
        refine (claimed_of_claim (e := e) rfl granted).mono ?_
        rintro j rfl _
        exact running
      · exact ⟨spooled, leased, acknowledged, fenced⟩
    · exact ⟨spooled, leased, acknowledged, fenced⟩
  | put clock batch =>
    simp only [happen]
    split
    · rename_i guard
      simp only [Bool.and_eq_true, Option.any_eq_true] at guard
      obtain ⟨⟨-, idle⟩, lease, isLease, ours⟩ := guard
      simp only [decide_eq_true_eq] at ours
      have none : s.answered = none := Option.isNone_iff_eq_none.mp idle
      refine ⟨fun b held => ?_, leased, by simp [none], by simp [none]⟩
      rcases (holds_put b).mp held with old | ⟨rfl, -⟩
      · exact spooled b old
      · rw [ours.1, ours.2]
        exact leased lease isLease
    · exact ⟨spooled, leased, acknowledged, fenced⟩
  | commit now batchId fate sinceEpoch =>
    simp only [happen]
    split
    · rename_i i batch running found
      split
      · rename_i guard
        simp only [Bool.and_eq_true] at guard
        obtain ⟨registered, idle⟩ := guard
        have held : s.spool.Holds batch := by
          have member := List.mem_of_find?_eq_some found
          rw [pending_eq, Option.getD_some] at member
          exact (mem_pending batch).mp member
        set e : Event := ⟨now, .commitResultBatch batch w i, sinceEpoch⟩
        have claims : ∀ {t g}, Claimed s.calls w s.Mine t g →
            Claimed (if fate = .lostReply ∨ fate = .delivered then s.calls ++ [e] else s.calls) w s.Mine t g := by
          intro t g claimed
          split
          · exact claimed.step e
          · exact claimed
        refine ⟨fun b isHeld => claims (spooled b isHeld), fun l isLease => claims (leased l isLease), ?_, ?_⟩
        · intro b isAnswer
          obtain ⟨rfl, delivered, fresh, answer⟩ := actsOn_commit isAnswer
          simp only [delivered, or_true, if_true]
          exact ⟨acknowledged_of_commit (e := e) rfl answer, held⟩
        · intro b isAnswer
          obtain ⟨rfl, delivered, message, answer⟩ := actsOn_commit isAnswer
          simp only [delivered, or_true, if_true]
          have mine : Claimed s.calls w (· = i) b.taskId b.generation := by
            refine (spooled b held).mono fun j named => ?_
            have same := named registered
            rw [running] at same
            exact (Option.some.inj same).symm
          exact never_of_fenced (e := e) rfl answer mine
      · exact ⟨spooled, leased, acknowledged, fenced⟩
    · exact ⟨spooled, leased, acknowledged, fenced⟩
  | acknowledge =>
    simp only [happen]
    split
    · exact ⟨fun b held => spooled b ((holds_ack b).mp held).1, leased, by simp, by simp⟩
    · exact ⟨spooled, leased, acknowledged, fenced⟩
  | discard =>
    simp only [happen]
    split
    · exact ⟨fun b held => spooled b ((holds_discard b).mp held).1, leased, by simp, by simp⟩
    · exact ⟨spooled, leased, acknowledged, fenced⟩

theorem settling_run (w : String) (hs : List Happening) : Settling w ((outbox w).final hs) := by
  refine (outbox w).invariant (I := Settling w) ?_ (fun s h settling => settling_step settling h) hs
  refine ⟨?_, by simp [outbox], by simp [outbox], by simp [outbox]⟩
  rintro b ⟨row, member, -⟩
  cases member

/-! ## Leaving the spool -/

/-- The authority accepted another payload with the digest of this one. -/
def Collides (calls : List Event) (batch : ResultBatch) : Prop :=
  ∃ stored, WasAccepted calls stored ∧ batchPayload stored ≠ batchPayload batch ∧ digestOf stored = digestOf batch

/-- The authority accepted a batch with exactly this payload, or it never accepts another
    batch of the generation. The digest stands for the payload, so a collision would pass
    for an acceptance. -/
def Settled (calls : List Event) (batch : ResultBatch) : Prop :=
  (∃ stored, WasAccepted calls stored ∧ batchPayload stored = batchPayload batch) ∨
    NeverAccepted calls batch.taskId batch.generation ∨ Collides calls batch

theorem Acknowledged.settled {calls : List Event} {batch : ResultBatch} (known : Acknowledged calls batch) :
    Settled calls batch := by
  obtain ⟨stored, accept, digest⟩ := known
  by_cases same : batchPayload stored = batchPayload batch
  · exact .inl ⟨stored, accept, same⟩
  · exact .inr (.inr ⟨stored, accept, same, digest⟩)

theorem leaves_settled {w : String} {s : Outbox} (settling : Settling w s) (h : Happening) {batch : ResultBatch}
    (held : s.spool.Holds batch) (left : ¬(happen w s h).spool.Holds batch) : Settled s.calls batch := by
  cases h with
  | others e => exact absurd held left
  | restart proposed auto => exact absurd ((holds_resolve batch).mpr held) left
  | register now d replied sinceEpoch =>
    simp only [happen] at left
    split at left <;> exact absurd held left
  | claim now scan leaseSeconds replied sinceEpoch =>
    simp only [happen] at left
    repeat' split at left
    all_goals exact absurd held left
  | put clock other =>
    simp only [happen] at left
    split at left
    · exact absurd ((holds_put batch).mpr (.inl held)) left
    · exact absurd held left
  | commit now batchId fate sinceEpoch =>
    simp only [happen] at left
    repeat' split at left
    all_goals exact absurd held left
  | acknowledge =>
    simp only [happen] at left
    split at left
    · rename_i other isAnswer
      obtain ⟨known, otherHeld⟩ := settling.acknowledged other isAnswer
      have same : batch.batchId = other.batchId := by
        by_contra apart
        exact left ((holds_ack batch).mpr ⟨held, apart⟩)
      rw [holds_unique held otherHeld same]
      exact known.settled
    · exact absurd held left
  | discard =>
    simp only [happen] at left
    split at left
    · rename_i other isAnswer
      have same : batch.taskId = other.taskId ∧ (batch.generation : Int) = other.generation := by
        by_contra apart
        exact left ((holds_discard batch).mpr ⟨held, apart⟩)
      have never := settling.fenced other isAnswer
      refine .inr (.inl ?_)
      rw [same.1, Int.natCast_inj.mp same.2]
      exact never
    · exact absurd held left

/-! ## The outbox -/

/-- In every run a batch leaves the spool only when the authority has accepted it, or never
    accepts another batch of its generation. `pending` decodes exactly the batches that were
    put and not removed since, each once; a generation that is put in the order of its
    sequence numbers is listed in that order. -/
theorem outbox_durable (w : String) :
    (∀ hs h batch, ((outbox w).final hs).spool.Holds batch → ¬((outbox w).final (hs ++ [h])).spool.Holds batch →
      Settled ((outbox w).final hs).calls batch) ∧
    ∀ ops, ∃ listed, (spool.final ops).pending = some listed ∧ listed.Nodup ∧ (∀ batch, batch ∈ listed ↔ Kept ops batch) ∧
      ((ops.filterMap SpoolOp.putOf).Pairwise PutInOrder → listed.Pairwise (fun a b =>
        a.taskId = b.taskId → a.generation = b.generation → a.sequenceNo < b.sequenceNo)) := by
  constructor
  · intro hs h batch held left
    rw [Machine.final_snoc] at left
    exact leaves_settled (settling_run w hs) h held left
  · intro ops
    refine ⟨_, pending_eq _, pending_once _, fun batch => ?_, pending_increasing⟩
    rw [mem_pending, holds_iff_kept]

/-- A batch of one generation of one task. -/
def plainBatch (sequenceNo : Nat) : ResultBatch where
  taskId := "t"
  generation := 1
  sequenceNo := sequenceNo
  results := []
  artifacts := []
  cursorAfter := none
  final := false
  valid := by
    have named : blank "t" = false := by decide
    simp [BatchFields.postInit, named]

/-- A worker starts, registers, claims a task and delivers a batch. -/
def deliveryRun : List Happening := [
  .restart "i" true, .register 0 (plainWorker "w" "i" worker_named) true zero_sinceEpoch,
  .others ⟨1, .admitWork "t" (plainWork 5 five_tries), one_sinceEpoch⟩, .claim 2 (fun _ => 0) (.fin 60) true two_sinceEpoch,
  .put 3 (plainBatch 0), .commit 4 (plainBatch 0).batchId .delivered (by norm_num)]

theorem outbox_delivers :
    Settled ((outbox "w").final deliveryRun).calls (plainBatch 0) ∧
      ∃ listed, (spool.final [.put 1 (plainBatch 0), .put 1 (plainBatch 1)]).pending = some listed ∧
        listed.Pairwise (fun a b => a.taskId = b.taskId → a.generation = b.generation → a.sequenceNo < b.sequenceNo) := by
  constructor
  · refine (outbox_durable "w").1 deliveryRun .acknowledge (plainBatch 0) ?_ ?_
    · have stored : ((outbox "w").final deliveryRun).spool.pendingResultBatches.rows.any
          (fun row => row.payloadJson = batchPayload (plainBatch 0)) := by decide +kernel
      obtain ⟨row, member, payload⟩ := List.any_eq_true.mp stored
      refine ⟨row, member, ?_⟩
      have same : row.batch = plainBatch 0 :=
        batchPayload_injective (row.records.payloadJson.symm.trans (by simpa using payload))
      rw [← same]
      exact row.records
    · have empty : ((outbox "w").final (deliveryRun ++ [.acknowledge])).spool.pendingResultBatches.rows.isEmpty := by
        decide +kernel
      rintro ⟨row, member, -⟩
      rw [List.isEmpty_iff.mp empty] at member
      cases member
  · obtain ⟨listed, read, -, -, increasing⟩ := (outbox_durable "w").2 [.put 1 (plainBatch 0), .put 1 (plainBatch 1)]
    refine ⟨listed, read, increasing ?_⟩
    simp [SpoolOp.putOf, PutInOrder, plainBatch]

/-- A later batch that is put first is listed first, on a clock that never goes back. -/
theorem put_order_listed : ¬∀ ops : List SpoolOp,
    ((ops.filterMap SpoolOp.putOf).map (·.1)).Pairwise (· ≤ ·) → ∀ listed, (spool.final ops).pending = some listed →
      listed.Pairwise (fun a b => a.taskId = b.taskId → a.generation = b.generation → a.sequenceNo < b.sequenceNo) := by
  intro increasing
  have sorted := increasing [.put 1 (plainBatch 1), .put 2 (plainBatch 0)] (by decide +kernel) _ (pending_eq _)
  have reversed : ¬((spool.final [.put 1 (plainBatch 1), .put 2 (plainBatch 0)]).listed.map (·.batch)).Pairwise
      (fun a b => a.taskId = b.taskId → a.generation = b.generation → a.sequenceNo < b.sequenceNo) := by decide +kernel
  exact reversed sorted

end Creeper.WorkerOutbox
