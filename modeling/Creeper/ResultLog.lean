import Creeper.AuthorityMoves
import Creeper.FencedLog

/-!
# The result log of a task

Every call on the authority is a step of the fenced log of every task: the rows
of `fabric_work` fence the batches that `commit_result_batch` accepts.
-/

namespace Creeper.ResultLog
open Creeper.Runs Creeper.Tables Creeper.FabricModels Creeper.AuthorityStore Creeper.FencedLog

/-! ## The log that a row fences -/

/-- What a batch says about itself. -/
def reading : Reading ResultBatch String := ⟨(·.sequenceNo), (·.generation), (·.cursorAfter)⟩

/-- The fenced log of a row and the batches accepted so far. -/
def logOf (row : Option WorkRow) (batches : List ResultBatch) : Fenced (String × String) ResultBatch String :=
  match row with
  | none => ⟨0, none, 0, none, batches, false⟩
  | some row => {
      token := row.leaseGeneration, holder := row.leaseOwner.bind (fun w => row.leaseOwnerInstance.map (w, ·)),
      next := row.nextSequenceNo, position := row.cursor, entries := batches,
      closed := row.state = .complete || row.state = .dead }

def newBatches (taskId : String) (r : Step Store Event (Except PyError Reply)) : List ResultBatch :=
  (accepted r).toList.filter (·.taskId = taskId)

/-- The batches of a task that a run accepts, in order. -/
def acceptedLog (taskId : String) (es : List Event) : List ResultBatch :=
  (authority.trace es).flatMap (newBatches taskId)

theorem acceptedLog_snoc (taskId : String) (es : List Event) (e : Event) :
    acceptedLog taskId (es ++ [e]) = acceptedLog taskId es ++ newBatches taskId (taken (authority.final es) e) := by
  simp [acceptedLog, taken]

theorem newBatches_eq_nil {taskId : String} {r : Step Store Event (Except PyError Reply)}
    (other : ∀ batch, accepted r = some batch → batch.taskId ≠ taskId) : newBatches taskId r = [] := by
  unfold newBatches
  cases found : accepted r with
  | none => rfl
  | some batch => simp [other batch found]

theorem newBatches_of_other {taskId : String} {s : Store} {e : Event}
    (other : ∀ batch w i, e.op ≠ .commitResultBatch batch w i) : newBatches taskId (taken s e) = [] :=
  newBatches_eq_nil (by simp [accepted_eq_none other])

theorem move_refines {s : Store} {e : Event} {taskId : String} {before after : Option WorkRow}
    (move : RowMove s e taskId before after) (batches : List ResultBatch) :
    Move reading (logOf before batches) (logOf after (batches ++ newBatches taskId (taken s e))) := by
  cases move with
  | same row notAccepted =>
    rw [newBatches_eq_nil notAccepted, List.append_nil]
    exact .stay _
  | admitted work key isAdmit =>
    rw [newBatches_of_other (by simp [isAdmit]), List.append_nil]
    exact .stay _
  | released row leased release =>
    have other : ∀ batch w i, e.op ≠ .commitResultBatch batch w i := by
      rcases release with ⟨d, op, -⟩ | ⟨w, op, -⟩ <;> simp [op]
    rw [newBatches_of_other other, List.append_nil]
    have stays : logOf (some (row.unleased .pending e.now)) batches = { logOf (some row) batches with holder := none } := by
      simp [logOf, leased]
    rw [stays]
    exact .release _
  | granted row scan w i leaseSeconds isClaim _ _ open_ =>
    rw [newBatches_of_other (by simp [isClaim]), List.append_nil]
    have notClosed : (logOf (some row) batches).closed = false := by
      simp only [claimable, Bool.and_eq_true, Bool.or_eq_true, decide_eq_true_eq] at open_
      rcases open_.1.1 with (pending | retry) | leased
      · simp [logOf, pending]
      · simp [logOf, retry]
      · simp [logOf, leased.1]
    have raised : logOf (some (row.granted w i ((PyNumbers.PyFloat.fin e.now).add leaseSeconds) e.now)) batches =
        { logOf (some row) batches with token := (logOf (some row) batches).token + 1, holder := some (w, i) } := by
      have := notClosed
      simp only [logOf] at this ⊢
      simp [this]
    rw [raised]
    exact .grant _ _ notClosed
  | renewed row w i generation leaseSeconds expected deadline isRenew =>
    rw [newBatches_of_other (by simp [isRenew]), List.append_nil]
    exact .stay _
  | committed row batch w i isCommit sameTask accept holds next =>
    have new : newBatches taskId (taken s e) = [batch] := by simp [newBatches, accept, sameTask]
    rw [new]
    have extended : logOf (some (row.committed batch.cursorAfter batch.final e.now)) (batches ++ [batch]) =
        (logOf (some row) batches).extend reading batch batch.final := by
      cases final : batch.final <;> simp [logOf, Fenced.extend, reading, holds.leased]
    rw [extended]
    refine .append _ (w, i) batch batch.final ?_ ?_ ?_
    · simp [logOf, holds.owner, holds.owningInstance]
    · simp [logOf, reading, next]
    · simpa [logOf, reading, eq_comm] using holds.current
  | finished row w i generation isFinish =>
    rw [newBatches_of_other (by simp [isFinish]), List.append_nil]
    have closed : logOf (some (row.unleased .complete e.now)) batches =
        { logOf (some row) batches with holder := none, closed := true } := by
      simp [logOf]
    rw [closed]
    exact .close _
  | failed row w i generation error retryable later isFail holds state notBefore chosen =>
    rw [newBatches_of_other (by simp [isFail]), List.append_nil]
    rcases chosen with ⟨rfl, -⟩ | rfl
    · have released : logOf (some (row.failed .retry notBefore error e.now)) batches =
          { logOf (some row) batches with holder := none } := by
        simp [logOf, holds.leased]
      rw [released]
      exact .release _
    · have closed : logOf (some (row.failed .dead notBefore error e.now)) batches =
          { logOf (some row) batches with holder := none, closed := true } := by
        simp [logOf]
      rw [closed]
      exact .close _
  | compacted row retention limit isGc complete =>
    rw [newBatches_of_other (by simp [isGc]), List.append_nil]
    have forgotten : logOf (some row.compacted) batches = { logOf (some row) batches with position := none } := by
      simp [logOf]
    rw [forgotten]
    exact .forget _ (by simp [logOf, complete])

def taskLog (taskId : String) (es : List Event) : Fenced (String × String) ResultBatch String :=
  logOf ((authority.final es).work.get? taskId) (acceptedLog taskId es)

theorem taskLog_move (taskId : String) (es : List Event) (e : Event) :
    Move reading (taskLog taskId es) (taskLog taskId (es ++ [e])) := by
  have move := row_moves (shaped_final es) e taskId
  have refines := move_refines move (acceptedLog taskId es)
  rw [taskLog, taskLog, acceptedLog_snoc, Machine.final_snoc]
  exact refines

theorem taskLog_reachable (taskId : String) (es : List Event) : Reachable reading (taskLog taskId es) := by
  induction es using List.reverseRecOn with
  | nil => exact .refl
  | append_singleton es e ih => exact ih.tail (taskLog_move taskId es e)

/-! ## Holders, cursors and the end of a task -/

theorem accepted_by_holder {s : Store} (shaped : Shaped s) {e : Event} {batch : ResultBatch}
    (accept : accepted (taken s e) = some batch) :
    ∃ w i row, e.op = .commitResultBatch batch w i ∧ s.work.get? batch.taskId = some row ∧
      Holds row e.now w i batch.generation := by
  have move := row_moves shaped e batch.taskId
  revert move
  generalize (step s e).2.work.get? batch.taskId = after
  intro move
  generalize found : s.work.get? batch.taskId = before at move
  cases move with
  | committed row committed w i isCommit sameTask accept' holds next =>
    rw [accept] at accept'
    cases accept'
    exact ⟨w, i, row, isCommit, rfl, holds⟩
  | same row notAccepted => exact absurd rfl (notAccepted batch accept)
  | released row leased release =>
    rcases release with ⟨d, op, -⟩ | ⟨w, op, -⟩ <;> simp [accepted_eq_none (s := s) (e := e) (by simp [op])] at accept
  | admitted work key op => simp [accepted_eq_none (s := s) (e := e) (by simp [op])] at accept
  | granted row scan w i ls op => simp [accepted_eq_none (s := s) (e := e) (by simp [op])] at accept
  | renewed row w i g ls x d op => simp [accepted_eq_none (s := s) (e := e) (by simp [op])] at accept
  | finished row w i g op => simp [accepted_eq_none (s := s) (e := e) (by simp [op])] at accept
  | failed row w i g err retry after op => simp [accepted_eq_none (s := s) (e := e) (by simp [op])] at accept
  | compacted row retention limit op => simp [accepted_eq_none (s := s) (e := e) (by simp [op])] at accept

/-- A step that compacts the row of a task: its payload was there and is gone. -/
def Compacts (taskId : String) (r : Step Store Event (Except PyError Reply)) : Prop :=
  ∃ row row', r.before.work.get? taskId = some row ∧ r.after.work.get? taskId = some row' ∧
    row.fields.payload.members ≠ [] ∧ row'.fields.payload.members = []

/-- The cursor of a log is the one its last batch left. -/
def CursorFollows (row : Option WorkRow) (batches : List ResultBatch) : Prop :=
  (logOf row batches).position = batches.getLast?.bind (·.cursorAfter)

theorem cursor_moves {s : Store} (shaped : Shaped s) (e : Event) (taskId : String) (batches : List ResultBatch)
    (kept : ¬Compacts taskId (taken s e)) (follows : CursorFollows (s.work.get? taskId) batches) :
    CursorFollows ((step s e).2.work.get? taskId) (batches ++ newBatches taskId (taken s e)) := by
  have move := row_moves shaped e taskId
  have compacts : ∀ row row', s.work.get? taskId = some row → (step s e).2.work.get? taskId = some row' →
      row.fields.payload.members ≠ [] → row'.fields.payload.members ≠ [] := by
    intro row row' before after full gone
    exact kept ⟨row, row', before, after, full, gone⟩
  revert move compacts follows
  generalize (step s e).2.work.get? taskId = after
  generalize s.work.get? taskId = before
  intro follows move compacts
  cases move with
  | same row notAccepted =>
    rw [newBatches_eq_nil notAccepted, List.append_nil]
    exact follows
  | admitted work key isAdmit =>
    rw [newBatches_of_other (by simp [isAdmit]), List.append_nil]
    exact follows
  | released row leased release =>
    have other : ∀ batch w i, e.op ≠ .commitResultBatch batch w i := by
      rcases release with ⟨d, op, -⟩ | ⟨w, op, -⟩ <;> simp [op]
    rw [newBatches_of_other other, List.append_nil]
    exact follows
  | granted row scan w i leaseSeconds isClaim =>
    rw [newBatches_of_other (by simp [isClaim]), List.append_nil]
    exact follows
  | renewed row w i generation leaseSeconds expected deadline isRenew =>
    rw [newBatches_of_other (by simp [isRenew]), List.append_nil]
    exact follows
  | committed row batch w i isCommit sameTask accept =>
    have new : newBatches taskId (taken s e) = [batch] := by simp [newBatches, accept, sameTask]
    rw [new]
    simp [CursorFollows, logOf]
  | finished row w i generation isFinish =>
    rw [newBatches_of_other (by simp [isFinish]), List.append_nil]
    exact follows
  | failed row w i generation error retryable later isFail =>
    rw [newBatches_of_other (by simp [isFail]), List.append_nil]
    exact follows
  | compacted row retention limit isGc complete nonempty =>
    exact absurd rfl (compacts row row.compacted rfl rfl (by simpa using nonempty))

def Closed (taskId : String) (s : Store) : Prop := ∃ row, s.work.get? taskId = some row ∧ Terminal row

theorem closed_iff (taskId : String) (es : List Event) :
    Closed taskId (authority.final es) ↔ (taskLog taskId es).closed = true := by
  unfold Closed taskLog
  cases (authority.final es).work.get? taskId with
  | none => simp [logOf]
  | some row => simp [logOf, Terminal]

/-- A terminal task stays terminal and accepts nothing. -/
theorem closed_step {taskId : String} {es : List Event} (closed : Closed taskId (authority.final es)) (e : Event) :
    Closed taskId (authority.final (es ++ [e])) ∧ newBatches taskId (taken (authority.final es) e) = [] := by
  obtain ⟨still, same⟩ := (taskLog_move taskId es e).closed (taskLog_reachable taskId es).sound ((closed_iff _ _).mp closed)
  refine ⟨(closed_iff _ _).mpr still, ?_⟩
  have entries : acceptedLog taskId (es ++ [e]) = acceptedLog taskId es := by
    have read : ∀ es, (taskLog taskId es).entries = acceptedLog taskId es := by
      intro es
      unfold taskLog
      cases (authority.final es).work.get? taskId <;> rfl
    rw [← read, ← read, same]
  rw [acceptedLog_snoc] at entries
  simpa using entries

theorem closed_append {taskId : String} {es : List Event} (closed : Closed taskId (authority.final es))
    (more : List Event) : Closed taskId (authority.final (es ++ more)) := by
  induction more using List.reverseRecOn with
  | nil => simpa using closed
  | append_singleton more e ih =>
    rw [← List.append_assoc]
    exact (closed_step ih e).1

/-! ## The result log -/

/-- The order, the fencing and the end of the batches accepted for a task in a run. -/
structure ResultLogSafe (taskId : String) (es : List Event) : Prop where
  numbered : (acceptedLog taskId es).map (·.sequenceNo) = List.range (acceptedLog taskId es).length
  counted : ∀ row, (authority.final es).work.get? taskId = some row →
    (acceptedLog taskId es).length = row.nextSequenceNo
  unknown : (authority.final es).work.get? taskId = none → acceptedLog taskId es = []
  generations : ((acceptedLog taskId es).map (·.generation)).Pairwise (· ≤ ·)
  distinct : (acceptedLog taskId es).Pairwise (· ≠ ·)
  fenced : ∀ r ∈ authority.trace es, ∀ batch, accepted r = some batch → batch.taskId = taskId →
    ∃ w i row, r.event.op = .commitResultBatch batch w i ∧ r.before.work.get? taskId = some row ∧
      Holds row r.event.now w i batch.generation
  cursor : (∀ r ∈ authority.trace es, ¬Compacts taskId r) →
    ∀ row, (authority.final es).work.get? taskId = some row →
      row.cursor = (acceptedLog taskId es).getLast?.bind (·.cursorAfter)
  closed : ∀ before middle e after, es = before ++ middle ++ e :: after → Closed taskId (authority.final before) →
    ∀ batch, accepted (taken (authority.final (before ++ middle)) e) = some batch → batch.taskId ≠ taskId

/-- The result log of every task is safe in every run. -/
theorem result_log_safe (taskId : String) (es : List Event) : ResultLogSafe taskId es := by
  have sound := (taskLog_reachable taskId es).sound
  have read : (taskLog taskId es).entries = acceptedLog taskId es := by
    unfold taskLog
    cases (authority.final es).work.get? taskId <;> rfl
  refine ⟨?_, ?_, ?_, ?_, ?_, ?_, ?_, ?_⟩
  · rw [← read]
    exact sound.numbers
  · intro row found
    rw [← read, ← sound.next, taskLog, found]
    rfl
  · intro absent
    have empty := sound.next
    rw [read, taskLog, absent] at empty
    exact List.length_eq_zero_iff.mp empty.symm
  · rw [← read]
    exact sound.tokens
  · have distinct := sound.distinct
    rw [read] at distinct
    exact distinct.imp (fun differ same => differ (by rw [same]))
  · intro r member batch accept sameTask
    obtain ⟨before, after, -, taken⟩ := authority.mem_trace member
    rw [taken] at accept ⊢
    have holder := accepted_by_holder (shaped_final before) accept
    rw [sameTask] at holder
    exact holder
  · intro kept row found
    have follows : CursorFollows ((authority.final es).work.get? taskId) (acceptedLog taskId es) := by
      clear row found sound read
      induction es using List.reverseRecOn with
      | nil => rfl
      | append_singleton es e ih =>
        rw [Machine.trace_snoc] at kept
        rw [Machine.final_snoc, acceptedLog_snoc]
        refine cursor_moves (shaped_final es) e taskId _ (kept _ (by simp)) (ih ?_)
        exact fun r member => kept r (by simp [member])
    rw [found] at follows
    exact follows
  · intro before middle e after split closed batch accept sameTask
    have nothing := (closed_step (closed_append closed middle) e).2
    simp [newBatches, accept, sameTask] at nothing

end Creeper.ResultLog
