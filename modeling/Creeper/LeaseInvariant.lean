import Creeper.AuthorityMoves

/-!
# Leases of work

What holds of the lease columns in every state of every run with a clock that
never goes back: who can hold a lease, how many, and how often a row was granted.
-/

namespace Creeper.LeaseInvariant
open Creeper.Runs Creeper.Tables Creeper.PyNumbers Creeper.FabricModels Creeper.AuthorityStore

/-! ## Holders -/

/-- An instance holds at most one row. -/
def Exclusive (now : ℚ) (s : Store) : Prop :=
  ∀ r ∈ s.work.rows, ∀ u ∈ s.work.rows, ∀ w i g h, Holds r now w i g → Holds u now w i h → r = u

/-- Every holder is the registered instance of a worker that is not revoked. -/
def Registered (now : ℚ) (s : Store) : Prop :=
  ∀ r ∈ s.work.rows, ∀ w i g, Holds r now w i g → ∃ worker, workerRow s w i = .ok worker

theorem held_origin {s : Store} {e : Event} {taskId : String} {before : Option WorkRow} {row : WorkRow}
    (move : RowMove s e taskId before (some row)) {w i : String} {g : Int} (holds : Holds row e.now w i g) :
    (∃ old h, before = some old ∧ Holds old e.now w i h) ∨
      ∃ scan leaseSeconds lease chosen, e.op = .claimWork scan w i leaseSeconds ∧
        grantee s e.now scan w i = some chosen ∧ freshGrant (taken s e) = some lease ∧ lease.taskId = taskId := by
  cases move with
  | same => exact .inl ⟨row, g, rfl, holds⟩
  | admitted => exact absurd holds.leased (by simp)
  | released => exact absurd holds.leased (by simp)
  | granted old scan w' i' ls isClaim positive chosen open_ lease grant sameTask =>
    have owner : w' = w := by simpa using holds.owner
    have owning : i' = i := by simpa using holds.owningInstance
    subst owner owning
    exact .inr ⟨scan, ls, lease, old, isClaim, chosen, grant, sameTask⟩
  | renewed old w' i' generation ls expected deadline isRenew positive held =>
    have owner : w' = w := by simpa [held.owner] using holds.owner
    have owning : i' = i := by simpa [held.owningInstance] using holds.owningInstance
    subst owner owning
    exact .inl ⟨old, generation, rfl, held⟩
  | committed old batch w' i' isCommit sameTask accept held =>
    cases final : batch.final with
    | true => exact absurd holds.leased (by simp [final])
    | false =>
      have owner : w' = w := by simpa [held.owner, final] using holds.owner
      have owning : i' = i := by simpa [held.owningInstance, final] using holds.owningInstance
      subst owner owning
      exact .inl ⟨old, batch.generation, rfl, held⟩
  | finished => exact absurd holds.leased (by simp)
  | failed old w' i' generation error retryable later isFail held state notBefore chosen =>
    rcases chosen with ⟨rfl, -⟩ | rfl <;> exact absurd holds.leased (by simp)
  | compacted old retention limit isGc complete => exact absurd holds.leased (by simp [complete])

theorem moved {s : Store} (shaped : Shaped s) {e : Event} {row : WorkRow} (member : row ∈ (step s e).2.work.rows) :
    RowMove s e row.taskId (s.work.get? row.taskId) (some row) := by
  have move := row_moves shaped e row.taskId
  rwa [Table.get?_mem member] at move

theorem exclusive_step {s : Store} (shaped : Shaped s) {e : Event} (exclusive : Exclusive e.now s) :
    Exclusive e.now (step s e).2 := by
  intro r rMember u uMember w i g h rHolds uHolds
  have rest : r.taskId = u.taskId → r = u := Table.row_unique rMember uMember
  apply rest
  have rOrigin := held_origin (moved shaped rMember) rHolds
  have uOrigin := held_origin (moved shaped uMember) uHolds
  -- A grant needs an instance that holds nothing, and there is one grant in a call.
  have clash : ∀ {taskId : String} {old : WorkRow} {k : Int} {scan : String → Nat} {chosen : WorkRow},
      s.work.get? taskId = some old → Holds old e.now w i k → grantee s e.now scan w i ≠ some chosen := by
    intro taskId old k scan chosen found holds grant
    obtain ⟨-, -, idle, -⟩ := grantee_some grant
    exact activeLease_none idle (Table.mem_of_get? found) k holds
  rcases rOrigin with ⟨rOld, rGen, rFound, rHeld⟩ | ⟨scan, ls, lease, chosen, op, grant, fresh, same⟩
  · rcases uOrigin with ⟨uOld, uGen, uFound, uHeld⟩ | ⟨scan, ls, lease, chosen, op, grant, fresh, same⟩
    · have equal := exclusive rOld (Table.mem_of_get? rFound) uOld (Table.mem_of_get? uFound) w i rGen uGen rHeld uHeld
      rw [← Table.get?_key rFound, ← Table.get?_key uFound, equal]
    · exact absurd grant (clash rFound rHeld)
  · rcases uOrigin with ⟨uOld, uGen, uFound, uHeld⟩ | ⟨scan', ls', lease', chosen', op', grant', fresh', same'⟩
    · exact absurd grant (clash uFound uHeld)
    · rw [fresh] at fresh'
      cases fresh'
      exact same.symm.trans same'

/-! ## Workers -/

theorem workerRow_ok {s : Store} {w i : String} {worker : WorkerRow} :
    workerRow s w i = .ok worker ↔
      s.workers.get? w = some worker ∧ worker.revoked = false ∧ worker.descriptor.workerInstanceId = i := by
  unfold workerRow
  cases s.workers.get? w with
  | none => simp
  | some row =>
    by_cases revoked : row.revoked <;> by_cases same : row.descriptor.workerInstanceId = i <;>
      simp_all <;> (rintro rfl; simp_all)

theorem registration_kept {s : Store} {e : Event} (noRegister : ∀ d, e.op ≠ .registerWorker d)
    (noRevoke : ∀ w, e.op ≠ .revokeWorker w) {w i : String} {worker : WorkerRow} (known : workerRow s w i = .ok worker) :
    ∃ worker', workerRow (step s e).2 w i = .ok worker' := by
  have unchanged : (step s e).2.workers = s.workers → ∃ worker', workerRow (step s e).2 w i = .ok worker' := by
    intro same
    exact ⟨worker, by rw [← known]; simp only [workerRow, same]⟩
  cases op : e.op with
  | registerWorker d => exact absurd op (noRegister d)
  | revokeWorker w => exact absurd op (noRevoke w)
  | heartbeat w' i' =>
    simp only [step, op, Answer.reply, heartbeat]
    split
    · exact ⟨worker, known⟩
    · obtain ⟨found, active, same⟩ := workerRow_ok.mp known
      refine ⟨if worker.descriptor.workerId = w' then { worker with lastHeartbeat := e.now } else worker, ?_⟩
      rw [workerRow_ok]
      simp only [Table.get?_update, found, Option.map_some, decide_eq_true_eq, true_and]
      split <;> exact ⟨active, same⟩
  | admitWork t work =>
    obtain ⟨work', frame⟩ := admit_frame s e.now t work
    exact unchanged (by simp [step, op, Answer.reply, frame])
  | claimWork scan w i ls =>
    obtain ⟨work', frame⟩ := claim_frame s e.now scan w i ls
    exact unchanged (by simp [step, op, Answer.reply, frame])
  | renewTask t w i g ls x =>
    obtain ⟨work', frame⟩ := renew_frame s e.now t w i g ls x
    exact unchanged (by simp [step, op, Answer.reply, frame])
  | commitResultBatch b w i =>
    obtain ⟨work', batches, frame⟩ := commit_frame s e.now b w i
    exact unchanged (by simp [step, op, Answer.reply, frame])
  | finishTask t w i g =>
    obtain ⟨work', frame⟩ := finish_frame s e.now t w i g
    exact unchanged (by simp [step, op, Answer.reply, frame])
  | failTask t w i g err retry after =>
    obtain ⟨work', frame⟩ := fail_frame s e.now t w i g err retry after
    exact unchanged (by simp [step, op, Answer.reply, frame])
  | markBatchConsumed b => exact unchanged (by simp [step, op, Answer.reply, markBatchConsumed])
  | markBatchConsumeFailed b err m =>
    obtain ⟨batches, frame⟩ := consume_failed_frame s b err m
    exact unchanged (by simp [step, op, Answer.reply, frame])
  | gcTransientState ret limit =>
    obtain ⟨work', batches, nonces, permits, egress, frame⟩ := gc_frame s e.now ret limit
    exact unchanged (by simp [step, op, Answer.reply, frame])
  | consumeRequestNonce w n ret =>
    obtain ⟨nonces, frame⟩ := nonce_frame s e.now w n ret
    exact unchanged (by simp [step, op, Answer.reply, frame])
  | configureProviderBudget p rps m q u r =>
    obtain ⟨budgets, frame⟩ := configure_frame s e.now p rps m q u r
    exact unchanged (by simp [step, op, Answer.reply, frame])
  | recordProviderRegionObservation p w i t g seen =>
    obtain ⟨regions, frame⟩ := region_frame s e.now p w i t g seen
    exact unchanged (by simp [step, op, Answer.reply, frame])
  | issueProviderPermit id p w i t g r ttl =>
    obtain ⟨budgets, permits, frame⟩ := issue_frame s e.now id p w i t g r ttl
    exact unchanged (by simp [step, op, Answer.reply, frame])
  | reportProviderPermit id w i code cooldown bytes =>
    obtain ⟨budgets, permits, egress, frame⟩ := report_frame s e.now id w i code cooldown bytes
    exact unchanged (by simp [step, op, Answer.reply, frame])

/-- After a registration, only the new instance of the worker holds rows of it, and the
    other registrations are as before. -/
theorem register_spec {s : Store} (now : ℚ) {d : WorkerDescriptor} (accepted : d.protocolVersion = fabricProtocolVersion) :
    (∃ worker, workerRow (registerWorker s now d).2 d.workerId d.workerInstanceId = .ok worker) ∧
      (∀ w i, w ≠ d.workerId → workerRow (registerWorker s now d).2 w i = workerRow s w i) ∧
      ∀ row ∈ (registerWorker s now d).2.work.rows, row.state = .leased → row.leaseOwner = some d.workerId →
        ∀ i, row.leaseOwnerInstance = some i → i = d.workerInstanceId := by
  have protocol : ¬d.protocolVersion ≠ fabricProtocolVersion := not_not.mpr accepted
  simp only [registerWorker, protocol, if_false]
  refine ⟨?_, ?_, ?_⟩
  · refine ⟨⟨d.toWorkerFields, now, false⟩, ?_⟩
    rw [workerRow_ok]
    simp only [Table.get?_upsert, if_true, and_self, and_true, Option.some.injEq]
    cases found : s.workers.get? d.workerId with
    | none => rfl
    | some old =>
      have key := Table.get?_key found
      simp [key]
  · intro w i other
    simp [workerRow, Table.get?_upsert, other]
  · intro row member leased owner i owning
    rw [Table.rows_update, List.mem_map] at member
    obtain ⟨old, -, rfl⟩ := member
    split at leased
    · simp at leased
    · rename_i kept
      simp only [kept, if_false, Bool.false_eq_true] at owner owning
      simp only [leased, owner, owning, decide_true, Bool.true_and, Option.any_some, decide_eq_true_eq,
        not_not] at kept
      exact kept

/-- After a revocation nothing is leased to the worker, and the other registrations are as
    before. -/
theorem revoke_spec {s : Store} (now : ℚ) {w : String} (known : (s.workers.get? w).isSome) :
    (∀ w' i, w' ≠ w → workerRow (revokeWorker s now w).2 w' i = workerRow s w' i) ∧
      ∀ row ∈ (revokeWorker s now w).2.work.rows, row.state = .leased → row.leaseOwner ≠ some w := by
  obtain ⟨worker, found⟩ := Option.isSome_iff_exists.mp known
  simp only [revokeWorker, found]
  refine ⟨?_, ?_⟩
  · intro w' i other
    simp [workerRow, Table.get?_update_key, other]
  · intro row member leased owner
    rw [Table.rows_update, List.mem_map] at member
    obtain ⟨old, -, rfl⟩ := member
    split at leased
    · simp at leased
    · rename_i kept
      simp only [kept, if_false, Bool.false_eq_true] at owner
      simp [leased, owner] at kept

theorem registered_step {s : Store} (shaped : Shaped s) {e : Event} (registered : Registered e.now s) :
    Registered e.now (step s e).2 := by
  intro row member w i g holds
  have before : ∃ worker, workerRow s w i = .ok worker := by
    rcases held_origin (moved shaped member) holds with ⟨old, h, found, held⟩ | ⟨scan, ls, lease, chosen, -, grant, -⟩
    · exact registered old (Table.mem_of_get? found) w i h held
    · obtain ⟨worker, known, -⟩ := grantee_some grant
      exact ⟨worker, known⟩
  obtain ⟨worker, known⟩ := before
  by_cases register : ∃ d, e.op = .registerWorker d
  · obtain ⟨d, op⟩ := register
    by_cases accepted : d.protocolVersion = fabricProtocolVersion
    · obtain ⟨fresh, others, cleared⟩ := register_spec (s := s) e.now accepted
      simp only [step, op, Answer.reply] at member ⊢
      by_cases same : w = d.workerId
      · subst same
        rw [cleared row member holds.leased holds.owner i holds.owningInstance]
        exact fresh
      · rw [others w i same]
        exact ⟨worker, known⟩
    · simp only [step, op, Answer.reply, registerWorker, ne_eq, accepted, not_false_eq_true, if_true]
      exact ⟨worker, known⟩
  by_cases revoke : ∃ w', e.op = .revokeWorker w'
  · obtain ⟨w', op⟩ := revoke
    by_cases exists' : (s.workers.get? w').isSome
    · obtain ⟨others, cleared⟩ := revoke_spec (s := s) e.now exists'
      simp only [step, op, Answer.reply] at member ⊢
      have other : w ≠ w' := by
        rintro rfl
        exact cleared row member holds.leased holds.owner
      rw [others w i other]
      exact ⟨worker, known⟩
    · have absent : s.workers.get? w' = none := by simpa using exists'
      simp only [step, op, Answer.reply, revokeWorker, absent]
      exact ⟨worker, known⟩
  · exact registration_kept (fun d op => register ⟨d, op⟩) (fun w' op => revoke ⟨w', op⟩) known

/-- At every time of a clocked run, leases are exclusive and held by registered instances. -/
theorem holders_final {es : List Event} {now : ℚ} (clocked : Clocked Event.now es now) :
    Exclusive now (authority.final es) ∧ Registered now (authority.final es) := by
  let I : ℚ → Store → Prop := fun now s => Shaped s ∧ Exclusive now s ∧ Registered now s
  have start : ∀ now, I now authority.initial := by
    intro now
    refine ⟨shaped_empty, ?_, ?_⟩ <;> (intro r member; cases member)
  have later : ∀ t t' s, t ≤ t' → I t s → I t' s := by
    rintro t t' s le ⟨shaped, exclusive, registered⟩
    refine ⟨shaped, ?_, ?_⟩
    · intro r rMember u uMember w i g h rHolds uHolds
      exact exclusive r rMember u uMember w i g h (rHolds.earlier le) (uHolds.earlier le)
    · exact fun r member w i g holds => registered r member w i g (holds.earlier le)
  have preserved : ∀ s e, I (Event.now e) s → I (Event.now e) (authority.step s e).2 := by
    rintro s e ⟨shaped, exclusive, registered⟩
    exact ⟨shaped_step shaped e, exclusive_step shaped exclusive, registered_step shaped registered⟩
  exact (authority.clocked_invariant start later preserved es now clocked).2

/-! ## Grants -/

/-- How often a run granted the row of a task afresh. -/
def grants (taskId : String) (es : List Event) : Nat :=
  ((authority.trace es).filterMap freshGrant).countP (·.taskId = taskId)

theorem grants_snoc (taskId : String) (es : List Event) (e : Event) :
    grants taskId (es ++ [e]) =
      grants taskId es + (freshGrant (taken (authority.final es) e)).toList.countP (·.taskId = taskId) := by
  rw [grants, grants, Machine.trace_snoc, List.filterMap_append, List.countP_append]
  cases found : freshGrant (taken (authority.final es) e) <;> simp [found]

theorem generation_counts (taskId : String) (es : List Event) :
    match (authority.final es).work.get? taskId with
    | none => grants taskId es = 0
    | some row => row.leaseGeneration = grants taskId es := by
  induction es using List.reverseRecOn with
  | nil => rfl
  | append_singleton es e ih =>
    have move := row_moves (shaped_final es) e taskId
    rw [Machine.final_snoc, grants_snoc, show authority.step = step from rfl]
    have noGrant : (∀ scan w i ls, e.op ≠ .claimWork scan w i ls) →
        (freshGrant (taken (authority.final es) e)).toList.countP (·.taskId = taskId) = 0 := by
      intro other
      rw [freshGrant_eq_none other]
      rfl
    revert ih move
    generalize (step (authority.final es) e).2.work.get? taskId = after
    generalize (authority.final es).work.get? taskId = before
    intro ih move
    change RowMove _ e taskId before after at move
    cases move with
    | same row notAccepted notGranted =>
      have none' : (freshGrant (taken (authority.final es) e)).toList.countP (·.taskId = taskId) = 0 := by
        cases fresh : freshGrant (taken (authority.final es) e) with
        | none => rfl
        | some lease => simp [notGranted lease fresh]
      rw [none']
      exact ih
    | admitted work key isAdmit =>
      rw [noGrant (by simp [isAdmit])]
      exact ih.symm
    | released row leased release =>
      have other : ∀ scan w i ls, e.op ≠ .claimWork scan w i ls := by
        rcases release with ⟨d, op, -⟩ | ⟨w, op, -⟩ <;> simp [op]
      rw [noGrant other]
      exact ih
    | granted row scan w i leaseSeconds isClaim positive chosen open_ lease grant sameTask =>
      rw [grant]
      simp only [Option.toList_some, List.countP_cons, List.countP_nil, sameTask, decide_true, if_true]
      simp only at ih
      omega
    | renewed row w i generation leaseSeconds expected deadline isRenew =>
      rw [noGrant (by simp [isRenew])]
      exact ih
    | committed row batch w i isCommit =>
      rw [noGrant (by simp [isCommit])]
      exact ih
    | finished row w i generation isFinish =>
      rw [noGrant (by simp [isFinish])]
      exact ih
    | failed row w i generation error retryable later isFail =>
      rw [noGrant (by simp [isFail])]
      exact ih
    | compacted row retention limit isGc =>
      rw [noGrant (by simp [isGc])]
      exact ih

/-! ## Deadlines -/

/-- A call that writes a deadline that is no number: SQLite keeps it as NULL. -/
def LosesDeadline (s : Store) (e : Event) : Prop :=
  match e.op with
  | .claimWork scan w i leaseSeconds => leaseSeconds = .nan ∧ ∃ row, grantee s e.now scan w i = some row
  | .renewTask taskId w i generation leaseSeconds expected =>
    leaseSeconds = .nan ∧ ∃ row, assertActiveLease s e.now taskId w i generation = .ok row ∧
      ∀ known, expected = some known → (row.leaseDeadline.getD .nan).lt known = false ∧
        known.lt (row.leaseDeadline.getD .nan) = false
  | _ => False

def Dated (s : Store) : Prop := ∀ row ∈ s.work.rows, row.state = .leased → row.leaseDeadline.isSome

theorem dated_step {s : Store} (shaped : Shaped s) {e : Event} (kept : ¬LosesDeadline s e) (dated : Dated s) :
    Dated (step s e).2 := by
  intro row member leased
  have move := moved shaped member
  generalize row.taskId = taskId at move
  generalize found : s.work.get? taskId = before at move
  have old : ∀ r, before = some r → r.state = .leased → r.leaseDeadline.isSome := by
    rintro r rfl held
    exact dated r (Table.mem_of_get? found) held
  cases move with
  | same => exact old row rfl leased
  | admitted => simp at leased
  | released => simp at leased
  | granted was scan w i leaseSeconds isClaim positive chosen =>
    have number : leaseSeconds ≠ .nan := by
      rintro rfl
      exact kept (by simp only [LosesDeadline, isClaim]; exact ⟨trivial, was, chosen⟩)
    simp [PyFloat.column_of_ne (PyFloat.add_ne_nan number)]
  | renewed was w i generation leaseSeconds expected deadline isRenew positive holds renewal recomputed =>
    have number : leaseSeconds ≠ .nan := by
      rintro rfl
      apply kept
      have through := assertActiveLease_holds found holds
      simp only [LosesDeadline, isRenew]
      refine ⟨trivial, was, through, ?_⟩
      rintro known rfl
      obtain ⟨d, due, -⟩ := holds.unexpired
      have shape := shaped.get found
      rw [recomputed] at renewal
      simp only [renewedDeadline, due, Option.getD_some] at renewal ⊢
      have lost : (PyFloat.fin e.now).add .nan = .nan := rfl
      rw [lost] at renewal
      split_ifs at renewal with below above
      · exact absurd due (by rw [Except.ok.inj renewal]; exact shape.deadline)
      · exact ⟨by simpa using below, by simpa using above⟩
    rw [recomputed]
    simp [PyFloat.column_of_ne (PyFloat.add_ne_nan number)]
  | committed was batch w i isCommit sameTask accept holds =>
    cases final : batch.final with
    | true => simp [final] at leased
    | false => simpa [final] using old was rfl holds.leased
  | finished => simp at leased
  | failed was w i generation error retryable later isFail holds state notBefore chosen =>
    rcases chosen with ⟨rfl, -⟩ | rfl <;> simp at leased
  | compacted was retention limit isGc complete => simp [complete] at leased

/-- A call that loses a deadline leaves a leased row without one. -/
theorem undated_step {s : Store} (shaped : Shaped s) {e : Event} (loses : LosesDeadline s e) :
    ¬Dated (step s e).2 := by
  intro dated
  unfold LosesDeadline at loses
  split at loses
  · rename_i scan w i leaseSeconds op
    obtain ⟨rfl, chosen, grant⟩ := loses
    obtain ⟨worker, known, idle, first⟩ := grantee_some grant
    have member : chosen ∈ s.work.rows :=
      (List.mem_filter.mp (mem_selectOrdered (List.mem_of_find?_eq_some first))).1
    have positive : PyFloat.le .nan (.fin 0) = false := rfl
    have after : (step s e).2.work.get? chosen.taskId = some (chosen.granted w i .nan e.now) := by
      simp only [step, op, Answer.reply, claimWork, positive, Bool.false_eq_true, if_false, known, idle, first,
        Table.get?_update, Table.get?_mem member, Option.map_some, decide_true, Bool.and_self, if_true]
      rfl
    have lost := dated _ (Table.mem_of_get? after) rfl
    simp [PyFloat.column] at lost
  · rename_i taskId w i generation leaseSeconds expected op
    obtain ⟨rfl, row, through, recomputes⟩ := loses
    obtain ⟨found, holds⟩ := assertActiveLease_ok shaped through
    have renewal : renewedDeadline e.now (row.leaseDeadline.getD .nan) .nan expected = .ok .nan := by
      unfold renewedDeadline
      cases expected with
      | none => rfl
      | some known =>
        obtain ⟨below, above⟩ := recomputes known rfl
        simp only [below, above, Bool.false_eq_true, if_false]
        rfl
    have positive : PyFloat.le .nan (.fin 0) = false := rfl
    obtain ⟨d, due, -⟩ := holds.unexpired
    have apart : PyFloat.nan ≠ row.leaseDeadline.getD .nan := by
      rw [due]
      exact fun same => (shaped.get found).deadline (by rw [due]; exact congrArg some same.symm)
    have after : (step s e).2.work.get? taskId = some { row with leaseDeadline := none, updatedAt := e.now } := by
      simp only [step, op, Answer.reply, renewTask, positive, Bool.false_eq_true, if_false, through, renewal, apart,
        Table.get?_update_key, if_true, found, Option.map_some]
      rfl
    have lost := dated _ (Table.mem_of_get? after) holds.leased
    simp at lost
  · exact loses

/-! ## The invariant -/

/-- What the lease columns satisfy after a run, at a time not before its last call. -/
structure LeaseSound (es : List Event) (now : ℚ) : Prop where
  columns : ∀ row ∈ (authority.final es).work.rows, (row.state = .leased ↔ row.leaseOwner.isSome) ∧
    (row.state = .leased ↔ row.leaseOwnerInstance.isSome) ∧ (row.state = .leased ↔ row.leaseDeadline.isSome)
  exclusive : Exclusive now (authority.final es)
  counted : ∀ row ∈ (authority.final es).work.rows, row.leaseGeneration = grants row.taskId es ∧
    row.attempt = grants row.taskId es ∧ (row.attempt : ℤ) ≤ row.fields.maxAttempts
  registered : Registered now (authority.final es)
  replayed : ∀ row ∈ (authority.final es).work.rows, ∀ w i, Holds row now w i row.leaseGeneration →
    ∀ scan leaseSeconds, leaseSeconds.le (.fin 0) = false →
      ∃ lease, claimWork (authority.final es) now scan w i leaseSeconds = (.ok (some lease), authority.final es) ∧
        lease.taskId = row.taskId ∧ lease.generation = row.leaseGeneration ∧
        row.leaseDeadline = some lease.leaseDeadline

theorem claim_replays {s : Store} (shaped : Shaped s) {now : ℚ} (exclusive : Exclusive now s)
    (registered : Registered now s) {row : WorkRow} (member : row ∈ s.work.rows) {w i : String} {g : Int}
    (holds : Holds row now w i g) (scan : String → Nat) {leaseSeconds : PyFloat}
    (positive : leaseSeconds.le (.fin 0) = false) :
    ∃ lease, claimWork s now scan w i leaseSeconds = (.ok (some lease), s) ∧ lease.taskId = row.taskId ∧
      lease.generation = row.leaseGeneration ∧ row.leaseDeadline = some lease.leaseDeadline := by
  obtain ⟨worker, known⟩ := registered row member w i g holds
  cases active : activeLease s w i now with
  | none => exact absurd holds (activeLease_none active member g)
  | some held =>
    obtain ⟨heldMember, heldHolds⟩ := activeLease_some active
    have same : held = row := exclusive held heldMember row member w i _ g heldHolds holds
    subst same
    have shape := shaped held member
    obtain ⟨started, finite⟩ := shape.started holds.leased
    obtain ⟨d, due, -⟩ := holds.unexpired
    obtain ⟨lease, built, sameTask, generation, deadline⟩ : ∃ lease : TaskLease,
        leaseOf held w i held.leaseGeneration d held.attempt = .ok lease ∧ lease.taskId = held.taskId ∧
          lease.generation = held.leaseGeneration ∧ lease.leaseDeadline = d :=
      ⟨_, leaseOf_ok shape finite (by have := shape.counters; omega) w i d, rfl, rfl, rfl⟩
    refine ⟨lease, ?_, sameTask, generation, by rw [due, deadline]⟩
    simp only [claimWork, positive, Bool.false_eq_true, if_false, known, active, due, Option.getD_some, built]
    rfl

theorem lease_sound {es : List Event} {now : ℚ} (clocked : Clocked Event.now es now)
    (dated : Dated (authority.final es)) : LeaseSound es now := by
  have shaped := shaped_final es
  obtain ⟨exclusive, registered⟩ := holders_final clocked
  refine ⟨?_, exclusive, ?_, registered, ?_⟩
  · intro row member
    have shape := shaped row member
    by_cases leased : row.state = .leased
    · obtain ⟨w, i, owner, owning⟩ := shape.held leased
      simp [leased, owner, owning, dated row member leased]
    · obtain ⟨owner, owning, due⟩ := shape.free leased
      simp [leased, owner, owning, due]
  · intro row member
    have count := generation_counts row.taskId es
    rw [Table.get?_mem member] at count
    have shape := shaped row member
    exact ⟨count, shape.counters.trans count, shape.bounded⟩
  · intro row member w i holds scan leaseSeconds positive
    exact claim_replays shaped exclusive registered member holds scan positive

theorem dated_final {es : List Event} (kept : ∀ before e after, es = before ++ e :: after →
    ¬LosesDeadline (authority.final before) e) : Dated (authority.final es) := by
  induction es using List.reverseRecOn with
  | nil =>
    intro row member
    cases member
  | append_singleton es e ih =>
    rw [Machine.final_snoc]
    refine dated_step (shaped_final es) (kept es e [] rfl) (ih ?_)
    intro before e' after split
    exact kept before e' (after ++ [e]) (by simp [split])

/-- In a clocked run the invariant holds in every state reached exactly when no call
    grants or renews a lease for a time that is no number. -/
theorem lease_sound_iff (es : List Event) (clocked : (es.map Event.now).Pairwise (· ≤ ·)) :
    (∀ before after now, es = before ++ after → Clocked Event.now before now → LeaseSound before now) ↔
      ∀ before e after, es = before ++ e :: after → ¬LosesDeadline (authority.final before) e := by
  constructor
  · intro sound before e after split loses
    have upTo : Clocked Event.now (before ++ [e]) e.now := by
      rw [clocked_snoc]
      refine ⟨?_, le_refl _⟩
      rw [split] at clocked
      simp only [List.map_append, List.map_cons] at clocked
      obtain ⟨first, -, cross⟩ := List.pairwise_append.mp clocked
      refine List.pairwise_append.mpr ⟨first, List.pairwise_singleton _ _, ?_⟩
      intro a member b last
      rw [List.mem_singleton.mp last]
      exact cross a member e.now (by simp)
    have holds := sound (before ++ [e]) after e.now (by simp [split]) upTo
    apply undated_step (shaped_final before) loses
    intro row member leased
    rw [show step = authority.step from rfl, ← Machine.final_snoc] at member
    exact (holds.columns row member).2.2.mp leased
  · rintro kept before after now rfl upTo
    refine lease_sound upTo (dated_final ?_)
    rintro first e rest rfl
    exact kept first e (rest ++ after) (by simp)

/-- A worker registers, claims a task for a minute and renews it. -/
def renewedRun : List Event := [
  ⟨0, .admitWork "t" (plainWork 2), zero_sinceEpoch⟩, ⟨1, .registerWorker (plainWorker "w" "i" worker_named), one_sinceEpoch⟩,
  ⟨2, .claimWork (fun _ => 0) "w" "i" (.fin 60), two_sinceEpoch⟩, ⟨3, .renewTask "t" "w" "i" 1 (.fin 60) none, three_sinceEpoch⟩]

theorem lease_sound_renewed : LeaseSound renewedRun 4 := by
  refine (lease_sound_iff renewedRun (by decide +kernel)).mpr ?_ renewedRun [] 4 (by simp) (by decide +kernel)
  intro before e after split loses
  have member : e ∈ renewedRun := by simp [split]
  simp only [renewedRun, List.mem_cons, List.not_mem_nil, or_false] at member
  rcases member with rfl | rfl | rfl | rfl
  · exact loses
  · exact loses
  · cases loses.1
  · cases loses.1

/-- The calls of a worker that claims for a time that is no number. -/
def nanRun : List Event := [
  ⟨0, .admitWork "t" (plainWork 2), zero_sinceEpoch⟩, ⟨1, .registerWorker (plainWorker "w" "i" worker_named), one_sinceEpoch⟩,
  ⟨2, .claimWork (fun _ => 0) "w" "i" .nan, two_sinceEpoch⟩]

/-- The claim leaves a leased row without a deadline. -/
theorem nan_lease_undated : ¬∀ es now, Clocked Event.now es now → LeaseSound es now := by
  intro sound
  have holds := sound nanRun 2 (by decide +kernel)
  have undated : (authority.final nanRun).work.rows.any (fun r => r.state = .leased && r.leaseDeadline.isNone) := by
    decide +kernel
  obtain ⟨row, member, hit⟩ := List.any_eq_true.mp undated
  simp only [Bool.and_eq_true, decide_eq_true_eq] at hit
  have dated := (holds.columns row member).2.2.mp hit.1
  simp_all

end Creeper.LeaseInvariant
