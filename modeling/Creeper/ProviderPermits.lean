import Creeper.AuthorityMoves

/-!
# Provider permits

`issue_provider_permit` hands out permits within the in-flight limit, the rate and
the cooldown of a provider; `report_provider_permit` ends them. What each call
does to the budgets and the permits is said once, and the safety of the budget
follows for every run.
-/

namespace Creeper.ProviderPermits
open Creeper.Runs Creeper.Tables Creeper.PyNumbers Creeper.FabricModels Creeper.AuthorityStore

abbrev Permits := Table PermitRow String (·.permitId)
abbrev Budgets := Table BudgetRow String (·.provider)

/-! ## The answers of `issue_provider_permit` -/

section
variable (s : Store) (now : ℚ) (permitId provider w i t : String) (g : Int) (requestId : String) (ttl : PyFloat)

/-- The permit that a request with this identifier can be answered with. -/
def livePrior : Option PermitRow := (priorPermit s w requestId).filter (·.live now)

/-- The request passes every check before the budget, and its provider has one. -/
structure Cleared (worker : WorkerRow) (budget : BudgetRow) : Prop where
  registered : workerRow s w i = .ok worker
  leased : ∃ row, assertActiveLease s now t w i g = .ok row
  allowed : worker.descriptor.allowedProviders.contains provider = true
  egress : egressAvailable s worker now = true
  notLive : livePrior s now w requestId = none
  configured : s.providerBudgets.get? provider = some budget

/-- The permits without the row of the request, and with the expired ones swept. -/
def sweptPermits : Permits :=
  sweepPermits (s.providerPermits.delete (fun p => (priorPermit s w requestId).any (·.permitId = p.permitId))) provider now

/-- The region or the budget keeps the permit back. -/
def denied (worker : WorkerRow) (budget : BudgetRow) : Bool :=
  regionDenies s (sweptPermits s now provider w requestId) budget worker now ||
    budgetDenies (sweptPermits s now provider w requestId) budget now

def freshPermit (budget : BudgetRow) : ProviderPermit where
  permitId := permitId
  requestId := requestId
  provider := provider
  workerId := w
  workerInstanceId := i
  taskId := t
  generation := g
  allowedRequests := 1
  maxInflight := budget.maxGlobalInflight
  expiresAt := (PyFloat.fin now).add ttl

/-- The tables after a fresh permit. -/
def mintedStore (budget : BudgetRow) : Store := { s with
  providerBudgets := s.providerBudgets.update (·.provider = provider) (fun b => { b with
    nextRequestAt := (PyFloat.fin now).add (reciprocal budget.requestsPerSecond), updatedAt := now }) (BudgetRow.paced_provider now budget)
  providerPermits := (sweptPermits s now provider w requestId).insert {
    toProviderPermit := freshPermit now permitId provider w i t g requestId ttl budget, active := true, issuedAt := now,
    statusCode := none } }

/-- The answers. Only a fresh permit changes the tables. -/
inductive IssueAnswer : Answer (Option ProviderPermit) → Prop
  | invalid (bad : (blank requestId || ttl.le (.fin 0)) = true) :
      IssueAnswer (.error (.valueError "invalid provider permit request"), s)
  | refused (valid : (blank requestId || ttl.le (.fin 0)) = false) (err : PyError) : IssueAnswer (.error err, s)
  | replayed (valid : (blank requestId || ttl.le (.fin 0)) = false) (prior : PermitRow)
      (live : livePrior s now w requestId = some prior) : IssueAnswer (.ok (some prior.toProviderPermit), s)
  | denied (valid : (blank requestId || ttl.le (.fin 0)) = false) (worker : WorkerRow) (budget : BudgetRow)
      (cleared : Cleared s now provider w i t g requestId worker budget)
      (denies : denied s now provider w requestId worker budget = true) : IssueAnswer (.ok none, s)
  | minted (valid : (blank requestId || ttl.le (.fin 0)) = false) (worker : WorkerRow) (budget : BudgetRow)
      (cleared : Cleared s now provider w i t g requestId worker budget)
      (allowed : denied s now provider w requestId worker budget = false)
      (number : ((PyFloat.fin now).add ttl).isNan = false)
      (unused : (sweptPermits s now provider w requestId).get? permitId = none) :
      IssueAnswer (.ok (some (freshPermit now permitId provider w i t g requestId ttl budget)),
        mintedStore s now permitId provider w i t g requestId ttl budget)

theorem issue_cases : IssueAnswer s now permitId provider w i t g requestId ttl
    (issueProviderPermit s now permitId provider w i t g requestId ttl) := by
  unfold issueProviderPermit
  split
  · rename_i bad
    exact .invalid bad
  rename_i valid
  rw [Bool.not_eq_true] at valid
  split
  · exact .refused valid _
  rename_i worker registered
  split
  · exact .refused valid _
  rename_i row leased
  split
  · exact .refused valid _
  rename_i allowed
  split
  · exact .refused valid _
  rename_i egress
  split
  · rename_i prior live
    split
    · exact .refused valid _
    · exact .replayed valid prior live
  rename_i notLive
  dsimp only
  split
  · exact .refused valid _
  rename_i budget configured
  have cleared : Cleared s now provider w i t g requestId worker budget :=
    ⟨registered, ⟨row, leased⟩, by simpa using allowed, by simpa using egress, notLive, configured⟩
  split
  · rename_i denies
    exact .denied valid worker budget cleared denies
  rename_i passes
  split
  · exact .refused valid _
  · rename_i storable
    simp only [Bool.or_eq_true, not_or, Bool.not_eq_true, Option.isSome_eq_false_iff, Option.isNone_iff_eq_none] at storable
    exact .minted valid worker budget cleared (Bool.eq_false_iff.mpr passes) storable.1 storable.2

end

/-! ## The answers of `report_provider_permit` -/

section
variable (s : Store) (now : ℚ) (permitId w i : String) (code : Option Int) (cooldown : PyFloat) (bytes : Int)

/-- The active permit that a report is about. -/
structure Reports (row : PermitRow) : Prop where
  stored : s.providerPermits.get? permitId = some row
  owner : row.workerId = w ∧ row.workerInstanceId = i
  active : row.active = true

def reportedStore (row : PermitRow) : Store := { s with
  providerPermits := s.providerPermits.update (·.permitId = permitId) ({ · with active := false, statusCode := code }) (PermitRow.reported_permitId code)
  providerBudgets :=
    if cooldown = .fin 0 then s.providerBudgets
    else s.providerBudgets.update (·.provider = row.provider) (fun b => { b with
      cooldownUntil := laterOf b.cooldownUntil ((PyFloat.fin now).add cooldown), updatedAt := now }) (BudgetRow.cooled_provider now cooldown)
  workerEgressDaily := addEgress s.workerEgressDaily w bytes now }

inductive ReportAnswer : Answer Unit → Prop
  | refused (err : PyError) : ReportAnswer (.error err, s)
  | ended (row : PermitRow) (stored : s.providerPermits.get? permitId = some row) (inactive : row.active = false) :
      ReportAnswer (.ok (), s)
  | recorded (row : PermitRow) (reports : Reports s permitId w i row) (positive : cooldown.lt (.fin 0) = false)
      (number : cooldown.isNan = false ∨ s.providerBudgets.get? row.provider = none) :
      ReportAnswer (.ok (), reportedStore s now permitId w code cooldown bytes row)

theorem report_cases : ReportAnswer s now permitId w i code cooldown bytes
    (reportProviderPermit s now permitId w i code cooldown bytes) := by
  unfold reportProviderPermit
  split
  · exact .refused _
  rename_i valid
  split
  · exact .refused _
  split
  · exact .refused _
  rename_i row found
  obtain ⟨stored, owner⟩ := Option.filter_eq_some_iff.mp found
  split
  · rename_i inactive
    exact .ended row stored (by simpa using inactive)
  rename_i active
  split
  · exact .refused _
  · rename_i number
    refine .recorded row ⟨stored, by simpa using owner, by simpa using active⟩ (by simp at valid; exact valid.1) ?_
    rw [Bool.and_eq_true, not_and_or, Bool.not_eq_true, Bool.not_eq_true, Option.isSome_eq_false_iff,
      Option.isNone_iff_eq_none] at number
    exact number

end

/-! ## Steps that issue -/

def issued (r : Step Store Event (Except PyError Reply)) : Option ProviderPermit :=
  match r.event.op, r.outcome with
  | .issueProviderPermit .., .ok (.permit permit) => permit
  | _, _ => none

/-- The fresh permit that a step returns, as opposed to one that it replays. -/
def minted (r : Step Store Event (Except PyError Reply)) : Option ProviderPermit :=
  match r.event.op, r.outcome with
  | .issueProviderPermit _ _ w _ _ _ requestId _, .ok (.permit (some permit)) =>
    if (livePrior r.before r.event.now w requestId).isNone then some permit else none
  | _, _ => none

/-- The identifier that `uuid4` draws for a call. -/
def drawn (e : Event) : Option String :=
  match e.op with
  | .issueProviderPermit permitId .. => some permitId
  | _ => none

/-- What one call does to the budgets and the permits. -/
inductive PermitMove (s : Store) (e : Event) : Budgets → Permits → Prop
  | same (silent : minted (taken s e) = none)
      (returned : ∀ permit, issued (taken s e) = some permit →
        ∃ row ∈ s.providerPermits.rows, row.toProviderPermit = permit) :
      PermitMove s e s.providerBudgets s.providerPermits
  | configured (fresh : BudgetRow) (merge : BudgetRow → BudgetRow) (keeps : ∀ b, (merge b).provider = b.provider)
      (rate : fresh.requestsPerSecond.le (.fin 0) = false ∧ fresh.requestsPerSecond ≠ .nan)
      (start : fresh.nextRequestAt = .fin 0 ∧ fresh.cooldownUntil = .fin 0)
      (merges : ∀ b, (merge b).requestsPerSecond = fresh.requestsPerSecond ∧ (merge b).nextRequestAt = b.nextRequestAt ∧
        (merge b).cooldownUntil = b.cooldownUntil)
      (silent : issued (taken s e) = none ∧ minted (taken s e) = none) :
      PermitMove s e (s.providerBudgets.upsert fresh merge keeps) s.providerPermits
  | minted (permitId provider w i t : String) (g : Int) (requestId : String) (ttl : PyFloat)
      (isIssue : e.op = .issueProviderPermit permitId provider w i t g requestId ttl) (worker : WorkerRow)
      (budget : BudgetRow) (cleared : Cleared s e.now provider w i t g requestId worker budget)
      (allowed : denied s e.now provider w requestId worker budget = false)
      (unused : (sweptPermits s e.now provider w requestId).get? permitId = none)
      (fresh : ProviderPermits.minted (taken s e) = some (freshPermit e.now permitId provider w i t g requestId ttl budget))
      (returned : issued (taken s e) = some (freshPermit e.now permitId provider w i t g requestId ttl budget)) :
      PermitMove s e (mintedStore s e.now permitId provider w i t g requestId ttl budget).providerBudgets
        (mintedStore s e.now permitId provider w i t g requestId ttl budget).providerPermits
  | reported (permitId w i : String) (code : Option Int) (cooldown : PyFloat) (bytes : Int)
      (isReport : e.op = .reportProviderPermit permitId w i code cooldown bytes) (row : PermitRow)
      (reports : Reports s permitId w i row) (positive : cooldown.lt (.fin 0) = false)
      (number : cooldown.isNan = false ∨ s.providerBudgets.get? row.provider = none)
      (silent : issued (taken s e) = none ∧ ProviderPermits.minted (taken s e) = none) :
      PermitMove s e (reportedStore s e.now permitId w code cooldown bytes row).providerBudgets
        (reportedStore s e.now permitId w code cooldown bytes row).providerPermits
  | collected (gone : PermitRow → Bool) (silent : issued (taken s e) = none ∧ ProviderPermits.minted (taken s e) = none) :
      PermitMove s e s.providerBudgets (s.providerPermits.delete gone)

theorem issued_eq_none {s : Store} {e : Event} (other : ∀ id p w i t g rq ttl, e.op ≠ .issueProviderPermit id p w i t g rq ttl) :
    issued (taken s e) = none := by
  unfold issued
  split
  · rename_i op _
    exact absurd op (other _ _ _ _ _ _ _ _)
  · rfl

theorem minted_eq_none {s : Store} {e : Event} (other : ∀ id p w i t g rq ttl, e.op ≠ .issueProviderPermit id p w i t g rq ttl) :
    minted (taken s e) = none := by
  unfold minted
  split
  · rename_i op _
    exact absurd op (other _ _ _ _ _ _ _ _)
  · rfl

section
variable {s : Store} {e : Event}

theorem issue_outcome {id p w i t : String} {g : Int} {rq : String} {ttl : PyFloat}
    (op : e.op = .issueProviderPermit id p w i t g rq ttl) :
    issued (taken s e) = (issueProviderPermit s e.now id p w i t g rq ttl).1.toOption.join ∧
      minted (taken s e) = if (livePrior s e.now w rq).isNone then
        (issueProviderPermit s e.now id p w i t g rq ttl).1.toOption.join else none := by
  have outcome : (taken s e).outcome = .permit <$> (issueProviderPermit s e.now id p w i t g rq ttl).1 := by
    simp [taken, authority, step, op, Answer.reply]
  have event : (taken s e).event.op = .issueProviderPermit id p w i t g rq ttl := op
  constructor
  · unfold issued
    rw [event, outcome]
    cases (issueProviderPermit s e.now id p w i t g rq ttl).1 with
    | error err => rfl
    | ok permit => cases permit <;> rfl
  · unfold minted
    rw [event, outcome]
    cases (issueProviderPermit s e.now id p w i t g rq ttl).1 with
    | error err => simp [Except.toOption]
    | ok permit => cases permit <;> simp [Except.toOption]

theorem issue_moves {id p w i t : String} {g : Int} {rq : String} {ttl : PyFloat}
    (op : e.op = .issueProviderPermit id p w i t g rq ttl) :
    PermitMove s e (issueProviderPermit s e.now id p w i t g rq ttl).2.providerBudgets
      (issueProviderPermit s e.now id p w i t g rq ttl).2.providerPermits := by
  obtain ⟨returns, mints⟩ := issue_outcome (s := s) op
  have answer := issue_cases s e.now id p w i t g rq ttl
  generalize issueProviderPermit s e.now id p w i t g rq ttl = result at answer returns mints
  cases answer with
  | invalid | refused =>
    exact .same (by simpa [Except.toOption] using mints) (by simp [returns, Except.toOption])
  | replayed valid prior live =>
    refine .same (by simp [mints, live]) ?_
    intro permit isReturned
    rw [returns] at isReturned
    cases isReturned
    exact ⟨prior, List.mem_of_find?_eq_some (Option.filter_eq_some_iff.mp live).1, rfl⟩
  | denied =>
    exact .same (by simpa [Except.toOption] using mints) (by simp [returns, Except.toOption])
  | minted valid worker budget cleared allowed number unused =>
    refine .minted id p w i t g rq ttl op worker budget cleared allowed unused ?_ ?_
    · rw [mints, cleared.notLive]
      rfl
    · rw [returns]
      rfl

theorem permit_moves (s : Store) (e : Event) :
    PermitMove s e (step s e).2.providerBudgets (step s e).2.providerPermits := by
  have kept : (∀ id p w i t g rq ttl, e.op ≠ .issueProviderPermit id p w i t g rq ttl) →
      (step s e).2.providerBudgets = s.providerBudgets → (step s e).2.providerPermits = s.providerPermits →
      PermitMove s e (step s e).2.providerBudgets (step s e).2.providerPermits := by
    intro other budgets permits
    rw [budgets, permits]
    exact .same (minted_eq_none other) (by simp [issued_eq_none other])
  cases op : e.op with
  | issueProviderPermit id p w i t g rq ttl => simpa [step, op, Answer.reply] using issue_moves op
  | reportProviderPermit id w i code cooldown bytes =>
    have silent : issued (taken s e) = none ∧ minted (taken s e) = none :=
      ⟨issued_eq_none (by simp [op]), minted_eq_none (by simp [op])⟩
    simp only [step, op, Answer.reply]
    have answer := report_cases s e.now id w i code cooldown bytes
    generalize reportProviderPermit s e.now id w i code cooldown bytes = result at answer
    cases answer with
    | refused | ended => exact .same silent.2 (by simp [silent.1])
    | recorded row reports positive number =>
      exact .reported id w i code cooldown bytes op row reports positive number silent
  | configureProviderBudget p rps m q u r =>
    simp only [step, op, Answer.reply, configureProviderBudget]
    split
    · exact .same (minted_eq_none (by simp [op])) (by simp [issued_eq_none (s := s) (e := e) (by simp [op])])
    rename_i valid
    split
    · exact .same (minted_eq_none (by simp [op])) (by simp [issued_eq_none (s := s) (e := e) (by simp [op])])
    rename_i number
    simp only [Bool.or_eq_true, not_or, Bool.not_eq_true] at valid number
    refine .configured _ _ _ ⟨valid.1.1.2, ?_⟩ ⟨rfl, rfl⟩ (fun b => ⟨rfl, rfl, rfl⟩)
      ⟨issued_eq_none (by simp [op]), minted_eq_none (by simp [op])⟩
    rintro rfl
    simp [PyFloat.isNan] at number
  | gcTransientState ret limit =>
    have silent : issued (taken s e) = none ∧ minted (taken s e) = none :=
      ⟨issued_eq_none (by simp [op]), minted_eq_none (by simp [op])⟩
    simp only [step, op, Answer.reply, gcTransientState]
    split
    · split
      · exact .same silent.2 (by simp [silent.1])
      split
      · exact .same silent.2 (by simp [silent.1])
      · exact .collected _ silent
    · exact .same silent.2 (by simp [silent.1])
  | registerWorker d =>
    refine kept (by simp [op]) ?_ ?_ <;>
    · simp only [step, op, Answer.reply, registerWorker]
      split <;> rfl
  | heartbeat w i =>
    refine kept (by simp [op]) ?_ ?_ <;>
    · simp only [step, op, Answer.reply, heartbeat]
      split <;> rfl
  | revokeWorker w =>
    refine kept (by simp [op]) ?_ ?_ <;>
    · simp only [step, op, Answer.reply, revokeWorker]
      split <;> rfl
  | admitWork t work =>
    obtain ⟨work', frame⟩ := admit_frame s e.now t work
    exact kept (by simp [op]) (by simp [step, op, Answer.reply, frame]) (by simp [step, op, Answer.reply, frame])
  | claimWork scan w i ls =>
    obtain ⟨work', frame⟩ := claim_frame s e.now scan w i ls
    exact kept (by simp [op]) (by simp [step, op, Answer.reply, frame]) (by simp [step, op, Answer.reply, frame])
  | renewTask t w i g ls x =>
    obtain ⟨work', frame⟩ := renew_frame s e.now t w i g ls x
    exact kept (by simp [op]) (by simp [step, op, Answer.reply, frame]) (by simp [step, op, Answer.reply, frame])
  | commitResultBatch b w i =>
    obtain ⟨work', batches, frame⟩ := commit_frame s e.now b w i
    exact kept (by simp [op]) (by simp [step, op, Answer.reply, frame]) (by simp [step, op, Answer.reply, frame])
  | finishTask t w i g =>
    obtain ⟨work', frame⟩ := finish_frame s e.now t w i g
    exact kept (by simp [op]) (by simp [step, op, Answer.reply, frame]) (by simp [step, op, Answer.reply, frame])
  | failTask t w i g err retry after =>
    obtain ⟨work', frame⟩ := fail_frame s e.now t w i g err retry after
    exact kept (by simp [op]) (by simp [step, op, Answer.reply, frame]) (by simp [step, op, Answer.reply, frame])
  | markBatchConsumed b =>
    exact kept (by simp [op]) (by simp [step, op, Answer.reply, markBatchConsumed])
      (by simp [step, op, Answer.reply, markBatchConsumed])
  | markBatchConsumeFailed b err m =>
    obtain ⟨batches, frame⟩ := consume_failed_frame s b err m
    exact kept (by simp [op]) (by simp [step, op, Answer.reply, frame]) (by simp [step, op, Answer.reply, frame])
  | consumeRequestNonce w n ret =>
    obtain ⟨nonces, frame⟩ := nonce_frame s e.now w n ret
    exact kept (by simp [op]) (by simp [step, op, Answer.reply, frame]) (by simp [step, op, Answer.reply, frame])
  | recordProviderRegionObservation p w i t g seen =>
    obtain ⟨regions, frame⟩ := region_frame s e.now p w i t g seen
    exact kept (by simp [op]) (by simp [step, op, Answer.reply, frame]) (by simp [step, op, Answer.reply, frame])

end

/-! ## Numbers of a budget -/

/-- Time before a bound is before a later bound. -/
theorem lt_of_lt_le {t : ℚ} {x y : PyFloat} (before : PyFloat.lt (.fin t) x) (le : x.le y) : PyFloat.lt (.fin t) y := by
  cases x <;> cases y <;> simp_all [PyFloat.lt, PyFloat.le]
  linarith

theorem le_laterOf {x a b : PyFloat} (le : x.le a) : x.le (laterOf a b) := by
  unfold laterOf
  split
  · rename_i below
    cases x <;> cases a <;> cases b <;> simp_all [PyFloat.lt, PyFloat.le]
    linarith
  · exact le

theorem laterOf_ge {a b : PyFloat} (left : a ≠ .nan) (right : b ≠ .nan) : b.le (laterOf a b) := by
  unfold laterOf
  split
  · cases b <;> simp_all [PyFloat.le]
  · rename_i notBelow
    cases a <;> cases b <;> simp_all [PyFloat.lt, PyFloat.le]

theorem laterOf_ne_nan {a b : PyFloat} (left : a ≠ .nan) (right : b ≠ .nan) : laterOf a b ≠ .nan := by
  unfold laterOf
  split <;> assumption

/-- The interval of a rate above zero is a number that is not negative. -/
theorem reciprocal_positive {rate : PyFloat} (positive : rate.le (.fin 0) = false) (number : rate ≠ .nan) :
    ∃ q, reciprocal rate = .fin q ∧ 0 ≤ q := by
  cases rate with
  | fin r =>
    simp only [PyFloat.le_fin, decide_eq_false_iff_not, not_le] at positive
    exact ⟨1 / r, rfl, by positivity⟩
  | posInf => exact ⟨0, rfl, le_refl 0⟩
  | negInf => simp [PyFloat.le] at positive
  | nan => exact absurd rfl number

/-! ## Invariants of the tables -/

/-- Budgets hold numbers, permits have budgets, and a request of a worker has one row. -/
structure Funded (budgets : Budgets) (permits : Permits) : Prop where
  rate : ∀ b ∈ budgets.rows, b.requestsPerSecond.le (.fin 0) = false ∧ b.requestsPerSecond ≠ .nan
  next : ∀ b ∈ budgets.rows, ∃ x, b.nextRequestAt = .fin x
  cooldown : ∀ b ∈ budgets.rows, b.cooldownUntil ≠ .nan
  backed : ∀ p ∈ permits.rows, (budgets.get? p.provider).isSome
  single : ∀ p ∈ permits.rows, ∀ q ∈ permits.rows, p.workerId = q.workerId → p.requestId = q.requestId → p = q

theorem mem_delete_prior {s : Store} {w requestId : String} {p : PermitRow}
    (member : p ∈ (s.providerPermits.delete (fun p => (priorPermit s w requestId).any (·.permitId = p.permitId))).rows) :
    p ∈ s.providerPermits.rows ∧ ∀ prior, priorPermit s w requestId = some prior → prior.permitId ≠ p.permitId := by
  obtain ⟨stored, kept⟩ := List.mem_filter.mp member
  refine ⟨stored, fun prior isPrior => ?_⟩
  simpa [isPrior] using kept

/-- A swept permit was stored, is not the row of the request, and may have lost `active`. -/
theorem mem_swept {s : Store} {now : ℚ} {provider w requestId : String} {p : PermitRow}
    (member : p ∈ (sweptPermits s now provider w requestId).rows) :
    ∃ old ∈ s.providerPermits.rows, p.toProviderPermit = old.toProviderPermit ∧ (p.active → old.active ∧ p = old) ∧
      ∀ prior, priorPermit s w requestId = some prior → prior.permitId ≠ old.permitId := by
  obtain ⟨old, kept, same⟩ := List.mem_map.mp member
  obtain ⟨stored, other⟩ := mem_delete_prior kept
  refine ⟨old, stored, ?_, ?_, other⟩
  · rw [← same]
    split <;> rfl
  · intro active
    rw [← same] at active ⊢
    split at active
    · cases active
    · rename_i notSwept
      rw [if_neg notSwept]
      exact ⟨active, rfl⟩

theorem swept_other {s : Store} (funded : Funded s.providerBudgets s.providerPermits) {now : ℚ}
    {provider w requestId : String} {p : PermitRow} (member : p ∈ (sweptPermits s now provider w requestId).rows) :
    ¬(p.workerId = w ∧ p.requestId = requestId) := by
  rintro ⟨worker, request⟩
  obtain ⟨old, stored, same, -, other⟩ := mem_swept member
  rw [same] at worker request
  cases found : priorPermit s w requestId with
  | none =>
    have absent := List.find?_eq_none.mp found old stored
    simp [worker, request] at absent
  | some prior =>
    have isPrior := List.find?_some found
    simp only [Bool.and_eq_true, decide_eq_true_eq] at isPrior
    have one := funded.single prior (List.mem_of_find?_eq_some found) old stored (isPrior.1.trans worker.symm)
      (isPrior.2.trans request.symm)
    exact other prior found (by rw [one])

theorem report_number {s : Store} (funded : Funded s.providerBudgets s.providerPermits) {permitId w i : String}
    {row : PermitRow} (reports : Reports s permitId w i row) {cooldown : PyFloat}
    (number : cooldown.isNan = false ∨ s.providerBudgets.get? row.provider = none) : cooldown ≠ .nan := by
  rintro rfl
  have backed := funded.backed row (Table.mem_of_get? reports.stored)
  rcases number with no | absent
  · cases no
  · simp [absent] at backed

theorem mem_reported {s : Store} {now : ℚ} {permitId w : String} {code : Option Int} {cooldown : PyFloat} {bytes : Int}
    {row : PermitRow} {b : BudgetRow}
    (member : b ∈ (reportedStore s now permitId w code cooldown bytes row).providerBudgets.rows) :
    b ∈ s.providerBudgets.rows ∨ ∃ old ∈ s.providerBudgets.rows, b = { old with
      cooldownUntil := laterOf old.cooldownUntil ((PyFloat.fin now).add cooldown), updatedAt := now } := by
  simp only [reportedStore] at member
  split at member
  · exact .inl member
  · obtain ⟨old, stored, ⟨-, same⟩ | ⟨-, same⟩⟩ := mem_update member
    · exact .inr ⟨old, stored, same⟩
    · exact .inl (same ▸ stored)

theorem funded_step {s : Store} (funded : Funded s.providerBudgets s.providerPermits) {e : Event} {budgets : Budgets}
    {permits : Permits} (move : PermitMove s e budgets permits) : Funded budgets permits := by
  cases move with
  | same => exact funded
  | configured fresh merge keeps rate start merges =>
    refine ⟨?_, ?_, ?_, ?_, funded.single⟩
    · intro b member
      rcases mem_upsert member with rfl | ⟨old, stored, rfl | rfl⟩
      · exact rate
      · rw [(merges old).1]
        exact rate
      · exact funded.rate b stored
    · intro b member
      rcases mem_upsert member with rfl | ⟨old, stored, rfl | rfl⟩
      · exact ⟨0, start.1⟩
      · rw [(merges old).2.1]
        exact funded.next old stored
      · exact funded.next b stored
    · intro b member
      rcases mem_upsert member with rfl | ⟨old, stored, rfl | rfl⟩
      · simp [start.2]
      · rw [(merges old).2.2]
        exact funded.cooldown old stored
      · exact funded.cooldown b stored
    · intro p member
      rw [Table.get?_upsert]
      split
      · rfl
      · exact funded.backed p member
  | minted id provider w i t g rq ttl isIssue worker budget cleared allowed unused =>
    have budgetMember := Table.mem_of_get? cleared.configured
    obtain ⟨q, interval, -⟩ := reciprocal_positive (funded.rate budget budgetMember).1 (funded.rate budget budgetMember).2
    have rows : (mintedStore s e.now id provider w i t g rq ttl budget).providerPermits.rows =
        (sweptPermits s e.now provider w rq).rows ++ [_] := Table.rows_insert (by exact unused)
    refine ⟨?_, ?_, ?_, ?_, ?_⟩
    · intro b member
      obtain ⟨old, stored, ⟨-, rfl⟩ | ⟨-, rfl⟩⟩ := mem_update member
      · exact funded.rate old stored
      · exact funded.rate b stored
    · intro b member
      obtain ⟨old, stored, ⟨-, rfl⟩ | ⟨-, rfl⟩⟩ := mem_update member
      · exact ⟨e.now + q, by simp [interval]⟩
      · exact funded.next b stored
    · intro b member
      obtain ⟨old, stored, ⟨-, rfl⟩ | ⟨-, rfl⟩⟩ := mem_update member
      · exact funded.cooldown old stored
      · exact funded.cooldown b stored
    · intro p member
      rw [rows, List.mem_append, List.mem_singleton] at member
      simp only [mintedStore, Table.isSome_update]
      rcases member with old | rfl
      · obtain ⟨was, stored, same, -⟩ := mem_swept old
        rw [same]
        exact funded.backed was stored
      · simp [freshPermit, cleared.configured]
    · intro p first q second worker request
      rw [rows, List.mem_append, List.mem_singleton] at first second
      rcases first with pOld | rfl
      · rcases second with qOld | rfl
        · obtain ⟨pWas, pStored, pSame, -⟩ := mem_swept pOld
          obtain ⟨qWas, qStored, qSame, -⟩ := mem_swept qOld
          have one := funded.single pWas pStored qWas qStored (by rw [← pSame, ← qSame]; exact worker)
            (by rw [← pSame, ← qSame]; exact request)
          exact Table.row_unique pOld qOld (by rw [pSame, qSame, one])
        · exact absurd ⟨worker, request⟩ (swept_other funded pOld)
      · rcases second with qOld | rfl
        · exact absurd ⟨worker.symm, request.symm⟩ (swept_other funded qOld)
        · rfl
  | reported id w i code cooldown bytes isReport row reports positive number =>
    have isNumber := report_number funded reports number
    have providers : ∀ p, ((reportedStore s e.now id w code cooldown bytes row).providerBudgets.get? p).isSome =
        (s.providerBudgets.get? p).isSome := by
      intro p
      simp only [reportedStore]
      split
      · rfl
      · exact Table.isSome_update p
    have permitRows : ∀ p ∈ (reportedStore s e.now id w code cooldown bytes row).providerPermits.rows,
        ∃ old ∈ s.providerPermits.rows, p.toProviderPermit = old.toProviderPermit := by
      intro p member
      obtain ⟨old, stored, ⟨-, same⟩ | ⟨-, same⟩⟩ := mem_update member <;> exact ⟨old, stored, by rw [same]⟩
    refine ⟨?_, ?_, ?_, ?_, ?_⟩
    · intro b member
      rcases mem_reported member with stored | ⟨old, stored, rfl⟩
      · exact funded.rate b stored
      · exact funded.rate old stored
    · intro b member
      rcases mem_reported member with stored | ⟨old, stored, rfl⟩
      · exact funded.next b stored
      · exact funded.next old stored
    · intro b member
      rcases mem_reported member with stored | ⟨old, stored, rfl⟩
      · exact funded.cooldown b stored
      · exact laterOf_ne_nan (funded.cooldown old stored) (PyFloat.add_ne_nan isNumber)
    · intro p member
      obtain ⟨old, stored, same⟩ := permitRows p member
      rw [providers, same]
      exact funded.backed old stored
    · intro p first q second worker request
      obtain ⟨pWas, pStored, pSame⟩ := permitRows p first
      obtain ⟨qWas, qStored, qSame⟩ := permitRows q second
      have one := funded.single pWas pStored qWas qStored (by rw [← pSame, ← qSame]; exact worker)
        (by rw [← pSame, ← qSame]; exact request)
      exact Table.row_unique first second (by rw [pSame, qSame, one])
  | collected gone =>
    exact ⟨funded.rate, funded.next, funded.cooldown, fun p member => funded.backed p (List.mem_of_mem_filter member),
      fun p first q second => funded.single p (List.mem_of_mem_filter first) q (List.mem_of_mem_filter second)⟩

theorem funded_final (es : List Event) :
    Funded (authority.final es).providerBudgets (authority.final es).providerPermits := by
  refine authority.invariant (I := fun s => Funded s.providerBudgets s.providerPermits) ?_
    (fun s e funded => funded_step funded (permit_moves s e)) es
  exact ⟨by simp [authority, Store.empty], by simp [authority, Store.empty], by simp [authority, Store.empty],
    by simp [authority, Store.empty], by simp [authority, Store.empty]⟩

/-! ## Rates and cooldowns -/

/-- No permit of the provider comes before `time`. -/
def Paced (provider : String) (time : ℚ) (budgets : Budgets) : Prop :=
  ∃ b next, budgets.get? provider = some b ∧ b.nextRequestAt = .fin next ∧ time ≤ next

/-- The cooldown of the provider lasts until `time` at least. -/
def Cooled (provider : String) (time : PyFloat) (budgets : Budgets) : Prop :=
  ∃ b, budgets.get? provider = some b ∧ time.le b.cooldownUntil

theorem not_denied {s : Store} {now : ℚ} {provider w requestId : String} {worker : WorkerRow} {budget : BudgetRow}
    (allowed : denied s now provider w requestId worker budget = false) :
    (activePermits (sweptPermits s now provider w requestId) budget.provider : ℤ) < budget.maxGlobalInflight ∧
      PyFloat.lt (.fin now) budget.nextRequestAt = false ∧ PyFloat.lt (.fin now) budget.cooldownUntil = false := by
  simp only [denied, budgetDenies, Bool.or_eq_false_iff, decide_eq_false_iff_not, not_le] at allowed
  exact ⟨allowed.2.1.1, allowed.2.1.2, allowed.2.2⟩

theorem mint_paced {s : Store} {now : ℚ} {provider w i t : String}
    {g : Int} {rq : String} {worker : WorkerRow} {budget : BudgetRow}
    (cleared : Cleared s now provider w i t g rq worker budget)
    (allowed : denied s now provider w rq worker budget = false) {time : ℚ} (paced : Paced provider time s.providerBudgets) :
    time ≤ now := by
  obtain ⟨b, next, found, isNext, le⟩ := paced
  rw [cleared.configured] at found
  cases found
  have early := (not_denied allowed).2.1
  rw [isNext] at early
  simp only [PyFloat.lt_fin, decide_eq_false_iff_not, not_lt] at early
  exact le.trans early

theorem minted_budget {s : Store} {provider : String} {budget : BudgetRow}
    (configured : s.providerBudgets.get? provider = some budget) (now : ℚ) (permitId w i t : String) (g : Int) (rq : String)
    (ttl : PyFloat) :
    (mintedStore s now permitId provider w i t g rq ttl budget).providerBudgets.get? provider = some { budget with
      nextRequestAt := (PyFloat.fin now).add (reciprocal budget.requestsPerSecond), updatedAt := now } := by
  simp only [mintedStore]
  rw [Table.get?_update_key, if_pos rfl, configured]
  rfl

theorem paced_step {s : Store} (funded : Funded s.providerBudgets s.providerPermits) {e : Event} {budgets : Budgets}
    {permits : Permits} (move : PermitMove s e budgets permits) {provider : String} {time : ℚ}
    (paced : Paced provider time s.providerBudgets) : Paced provider time budgets := by
  cases move with
  | same | collected => exact paced
  | configured fresh merge keeps rate start merges =>
    obtain ⟨b, next, found, isNext, le⟩ := paced
    rw [Paced, Table.get?_upsert]
    split
    · rename_i here
      subst here
      exact ⟨merge b, next, by simp [found], by rw [(merges b).2.1, isNext], le⟩
    · exact ⟨b, next, found, isNext, le⟩
  | minted id p w i t g rq ttl isIssue worker budget cleared allowed =>
    have budgetMember := Table.mem_of_get? cleared.configured
    obtain ⟨q, interval, positive⟩ :=
      reciprocal_positive (funded.rate budget budgetMember).1 (funded.rate budget budgetMember).2
    by_cases here : provider = p
    · subst here
      have past := mint_paced cleared allowed paced
      exact ⟨_, e.now + q, minted_budget cleared.configured e.now id w i t g rq ttl, by simp [interval], by linarith⟩
    · obtain ⟨b, next, found, isNext, le⟩ := paced
      refine ⟨b, next, ?_, isNext, le⟩
      simp only [mintedStore]
      rw [Table.get?_update_key, if_neg here, found]
  | reported id w i code cooldown bytes isReport row =>
    obtain ⟨b, next, found, isNext, le⟩ := paced
    simp only [reportedStore]
    split
    · exact ⟨b, next, found, isNext, le⟩
    · rw [Paced, Table.get?_update_key, found]
      split
      · exact ⟨_, next, rfl, isNext, le⟩
      · exact ⟨b, next, rfl, isNext, le⟩

theorem cooled_step {s : Store} {e : Event} {budgets : Budgets}
    {permits : Permits} (move : PermitMove s e budgets permits) {provider : String} {time : PyFloat}
    (cooled : Cooled provider time s.providerBudgets) : Cooled provider time budgets := by
  obtain ⟨b, found, le⟩ := cooled
  cases move with
  | same | collected => exact ⟨b, found, le⟩
  | configured fresh merge keeps rate start merges =>
    rw [Cooled, Table.get?_upsert]
    split
    · rename_i here
      subst here
      exact ⟨merge b, by simp [found], by rw [(merges b).2.2]; exact le⟩
    · exact ⟨b, found, le⟩
  | minted id p w i t g rq ttl isIssue worker budget =>
    simp only [mintedStore, Cooled]
    rw [Table.get?_update_key, found]
    split
    · exact ⟨_, rfl, le⟩
    · exact ⟨b, rfl, le⟩
  | reported id w i code cooldown bytes isReport row =>
    simp only [reportedStore]
    split
    · exact ⟨b, found, le⟩
    · rw [Cooled, Table.get?_update_key, found]
      split
      · exact ⟨_, rfl, le_laterOf le⟩
      · exact ⟨b, rfl, le⟩

theorem report_cools {s : Store} (funded : Funded s.providerBudgets s.providerPermits) {id w i : String}
    {cooldown : PyFloat} {row : PermitRow} (reports : Reports s id w i row)
    (number : cooldown.isNan = false ∨ s.providerBudgets.get? row.provider = none) (sets : cooldown ≠ .fin 0) (now : ℚ)
    (code : Option Int) (bytes : Int) : Cooled row.provider ((PyFloat.fin now).add cooldown) (reportedStore s now id w code cooldown bytes row).providerBudgets := by
  have isNumber := report_number funded reports number
  obtain ⟨b, found⟩ := Option.isSome_iff_exists.mp (funded.backed row (Table.mem_of_get? reports.stored))
  simp only [reportedStore, sets, if_false, Cooled]
  rw [Table.get?_update_key, if_pos rfl, found]
  exact ⟨_, rfl, laterOf_ge (funded.cooldown b (Table.mem_of_get? found)) (PyFloat.add_ne_nan isNumber)⟩

theorem minted_some {s : Store} {e : Event} {permit : ProviderPermit} (mints : minted (taken s e) = some permit) :
    ∃ id p w i t g rq ttl worker budget, e.op = .issueProviderPermit id p w i t g rq ttl ∧
      Cleared s e.now p w i t g rq worker budget ∧ denied s e.now p w rq worker budget = false ∧
      (sweptPermits s e.now p w rq).get? id = none ∧ permit = freshPermit e.now id p w i t g rq ttl budget ∧
      (step s e).2.providerBudgets = (mintedStore s e.now id p w i t g rq ttl budget).providerBudgets ∧
      (step s e).2.providerPermits = (mintedStore s e.now id p w i t g rq ttl budget).providerPermits := by
  have move := permit_moves s e
  generalize budgets : (step s e).2.providerBudgets = budgets' at move
  generalize permits : (step s e).2.providerPermits = permits' at move
  cases move with
  | same silent => simp [silent] at mints
  | configured _ _ _ _ _ _ silent => simp [silent.2] at mints
  | reported _ _ _ _ _ _ _ _ _ _ _ silent => simp [silent.2] at mints
  | collected _ silent => simp [silent.2] at mints
  | minted id p w i t g rq ttl isIssue worker budget cleared allowed unused fresh =>
    rw [mints] at fresh
    exact ⟨id, p, w, i, t, g, rq, ttl, worker, budget, isIssue, cleared, allowed, unused, Option.some.inj fresh, rfl, rfl⟩

/-! ## The in-flight limit -/

/-- The active and unexpired permits of a provider. -/
def liveCount (permits : Permits) (provider : String) (now : ℚ) : Nat :=
  permits.rows.countP (fun p => p.provider = provider && p.live now)

theorem liveCount_le (permits : Permits) (provider : String) (now : ℚ) :
    liveCount permits provider now ≤ activePermits permits provider := by
  refine List.countP_mono_left fun p _ counted => ?_
  simp only [PermitRow.live, Bool.and_eq_true] at counted ⊢
  exact ⟨counted.1, counted.2.1⟩

theorem mint_within {s : Store} {now : ℚ} {p w i t : String} {g : Int} {rq : String} {worker : WorkerRow}
    {budget : BudgetRow} (cleared : Cleared s now p w i t g rq worker budget)
    (allowed : denied s now p w rq worker budget = false) {id : String}
    (unused : (sweptPermits s now p w rq).get? id = none) (ttl : PyFloat) :
    (liveCount (mintedStore s now id p w i t g rq ttl budget).providerPermits p now : ℤ) ≤ budget.maxGlobalInflight := by
  have below := (not_denied allowed).1
  rw [Table.get?_key cleared.configured] at below
  have rows : (mintedStore s now id p w i t g rq ttl budget).providerPermits.rows =
      (sweptPermits s now p w rq).rows ++ [_] := Table.rows_insert (by exact unused)
  have counted : liveCount (mintedStore s now id p w i t g rq ttl budget).providerPermits p now ≤
      liveCount (sweptPermits s now p w rq) p now + 1 := by
    unfold liveCount
    rw [rows, List.countP_append]
    exact Nat.add_le_add_left (List.countP_le_length) _
  have active := liveCount_le (sweptPermits s now p w rq) p now
  omega

/-! ## Replayed requests -/

/-- The identifiers that the calls of a run draw are distinct. -/
def Fresh (es : List Event) : Prop := (es.filterMap drawn).Nodup

instance (es : List Event) : Decidable (Fresh es) := by
  unfold Fresh
  infer_instance

/-- The permit was returned by a call of the run. -/
def Returned (es : List Event) (permit : ProviderPermit) : Prop := ∃ r ∈ authority.trace es, issued r = some permit

theorem permit_rows {s : Store} {e : Event} {budgets : Budgets} {permits : Permits} (move : PermitMove s e budgets permits) :
    ∀ row ∈ permits.rows, (∃ old ∈ s.providerPermits.rows, row.toProviderPermit = old.toProviderPermit) ∨
      drawn e = some row.permitId ∧ issued (taken s e) = some row.toProviderPermit := by
  intro row member
  cases move with
  | same | configured => exact .inl ⟨row, member, rfl⟩
  | collected => exact .inl ⟨row, List.mem_of_mem_filter member, rfl⟩
  | reported =>
    obtain ⟨old, stored, ⟨-, same⟩ | ⟨-, same⟩⟩ := mem_update member <;> exact .inl ⟨old, stored, by rw [same]⟩
  | minted id p w i t g rq ttl isIssue worker budget cleared allowed unused fresh returned =>
    have rows : (mintedStore s e.now id p w i t g rq ttl budget).providerPermits.rows =
        (sweptPermits s e.now p w rq).rows ++ [_] := Table.rows_insert (by exact unused)
    rw [rows, List.mem_append, List.mem_singleton] at member
    rcases member with old | rfl
    · obtain ⟨was, stored, same, -⟩ := mem_swept old
      exact .inl ⟨was, stored, same⟩
    · exact .inr ⟨by simp [drawn, isIssue, freshPermit], returned⟩

/-- A returned permit has a row before the call, or draws its identifier. -/
theorem issued_source {s : Store} {e : Event} {permit : ProviderPermit} (returned : issued (taken s e) = some permit) :
    (∃ row ∈ s.providerPermits.rows, row.toProviderPermit = permit) ∨ drawn e = some permit.permitId := by
  have move := permit_moves s e
  generalize (step s e).2.providerBudgets = budgets at move
  generalize (step s e).2.providerPermits = permits at move
  cases move with
  | same silent source => exact .inl (source permit returned)
  | configured _ _ _ _ _ _ silent => simp [silent.1] at returned
  | reported _ _ _ _ _ _ _ _ _ _ _ silent => simp [silent.1] at returned
  | collected _ silent => simp [silent.1] at returned
  | minted id p w i t g rq ttl isIssue worker budget cleared allowed unused fresh isReturned =>
    rw [returned] at isReturned
    rw [Option.some.inj isReturned]
    exact .inr (by simp [drawn, isIssue, freshPermit])

/-- What a run has drawn, returned and stored. -/
structure Recorded (es : List Event) : Prop where
  stored : ∀ row ∈ (authority.final es).providerPermits.rows, row.permitId ∈ es.filterMap drawn
  returned : ∀ permit, Returned es permit → permit.permitId ∈ es.filterMap drawn
  same : ∀ permit, Returned es permit → ∀ row ∈ (authority.final es).providerPermits.rows,
    row.permitId = permit.permitId → row.toProviderPermit = permit

theorem recorded_final (es : List Event) (fresh : Fresh es) : Recorded es := by
  induction es using List.reverseRecOn with
  | nil => exact ⟨by simp [authority, Store.empty], by simp [Returned], by simp [Returned]⟩
  | append_singleton es e ih =>
    have split : (es ++ [e]).filterMap drawn = es.filterMap drawn ++ (drawn e).toList := by
      rw [List.filterMap_append]
      cases found : drawn e <;> simp [found]
    unfold Fresh at fresh
    rw [split] at fresh
    have new : ∀ id, drawn e = some id → id ∉ es.filterMap drawn := by
      intro id isDrawn old
      rw [isDrawn] at fresh
      exact (List.nodup_append.mp fresh).2.2 id old id (by simp) rfl
    obtain ⟨stored, returned, same⟩ := ih (List.nodup_append.mp fresh).1
    have rows := permit_rows (permit_moves (authority.final es) e)
    have returns : ∀ permit, Returned (es ++ [e]) permit →
        Returned es permit ∨ issued (taken (authority.final es) e) = some permit := by
      rintro permit ⟨r, member, isReturned⟩
      rw [Machine.trace_snoc, List.mem_append, List.mem_singleton] at member
      rcases member with old | rfl
      · exact .inl ⟨r, old, isReturned⟩
      · exact .inr isReturned
    rw [← show authority.step = step from rfl, ← Machine.final_snoc] at rows
    refine ⟨?_, ?_, ?_⟩
    · intro row member
      rw [split, List.mem_append]
      rcases rows row member with ⟨old, isStored, equal⟩ | ⟨isDrawn, -⟩
      · rw [equal]
        exact .inl (stored old isStored)
      · exact .inr (by simp [isDrawn])
    · intro permit isReturned
      rw [split, List.mem_append]
      rcases returns permit isReturned with old | now
      · exact .inl (returned permit old)
      · rcases issued_source now with ⟨row, isStored, rfl⟩ | isDrawn
        · exact .inl (stored row isStored)
        · exact .inr (by simp [isDrawn])
    · intro permit isReturned row member identity
      rcases rows row member with ⟨old, isStored, equal⟩ | ⟨isDrawn, isIssued⟩
      · rw [equal] at identity ⊢
        rcases returns permit isReturned with earlier | now
        · exact same permit earlier old isStored identity
        · rcases issued_source now with ⟨other, otherStored, rfl⟩ | isDrawn
          · rw [Table.row_unique isStored otherStored identity]
          · exact absurd (identity ▸ stored old isStored) (new _ isDrawn)
      · rcases returns permit isReturned with earlier | now
        · exact absurd (identity ▸ returned permit earlier) (new _ isDrawn)
        · rw [isIssued] at now
          exact Option.some.inj now

/-! ## The budget of a provider -/

/-- What holds of every fresh permit of a run, and of every replayed request. -/
structure BudgetSafe (es : List Event) : Prop where
  inflight : ∀ r ∈ authority.trace es, ∀ permit, minted r = some permit → ∃ budget,
    r.after.providerBudgets.get? permit.provider = some budget ∧
      (liveCount r.after.providerPermits permit.provider r.event.now : ℤ) ≤ budget.maxGlobalInflight
  paced : ∀ before e middle e' after, es = before ++ e :: middle ++ e' :: after → ∀ permit permit',
    minted (taken (authority.final before) e) = some permit →
    minted (taken (authority.final (before ++ e :: middle)) e') = some permit' → permit'.provider = permit.provider →
    ∃ budget, (authority.final before).providerBudgets.get? permit.provider = some budget ∧
      ((PyFloat.fin e.now).add (reciprocal budget.requestsPerSecond)).le (.fin e'.now)
  cooled : ∀ before e middle e' after, es = before ++ e :: middle ++ e' :: after →
    ∀ id w i code cooldown bytes row permit', e.op = .reportProviderPermit id w i code cooldown bytes →
    (taken (authority.final before) e).outcome = .ok .nothing →
    (authority.final before).providerPermits.get? id = some row → row.active = true →
    minted (taken (authority.final (before ++ e :: middle)) e') = some permit' → permit'.provider = row.provider →
    PyFloat.lt (.fin e'.now) ((PyFloat.fin e.now).add cooldown) = false
  leased : ∀ r ∈ authority.trace es, ∀ permit, minted r = some permit → ∃ row,
    r.before.work.get? permit.taskId = some row ∧
      Holds row r.event.now permit.workerId permit.workerInstanceId permit.generation
  replayed : ∀ before e after, es = before ++ e :: after → ∀ id p w i t g rq ttl,
    e.op = .issueProviderPermit id p w i t g rq ttl → ∀ permit, Returned before permit → permit.workerId = w →
    permit.requestId = rq →
      if (authority.final before).providerPermits.rows.any (fun row => row.permitId = permit.permitId && row.live e.now) then
        ∀ answer, (taken (authority.final before) e).outcome = .ok (.permit answer) → answer = some permit
      else ∀ permit', issued (taken (authority.final before) e) = some permit' → permit'.permitId ≠ permit.permitId

theorem paced_from {es : List Event} {provider : String} {time : ℚ}
    (paced : Paced provider time (authority.final es).providerBudgets) (more : List Event) :
    Paced provider time (authority.final (es ++ more)).providerBudgets := by
  induction more using List.reverseRecOn with
  | nil => simpa using paced
  | append_singleton more e ih =>
    rw [← List.append_assoc, Machine.final_snoc]
    exact paced_step (funded_final _) (permit_moves _ e) ih

theorem cooled_from {es : List Event} {provider : String} {time : PyFloat}
    (cooled : Cooled provider time (authority.final es).providerBudgets) (more : List Event) :
    Cooled provider time (authority.final (es ++ more)).providerBudgets := by
  induction more using List.reverseRecOn with
  | nil => simpa using cooled
  | append_singleton more e ih =>
    rw [← List.append_assoc, Machine.final_snoc]
    exact cooled_step (permit_moves _ e) ih

/-- A second fresh permit of a provider waits for the rate that the first one met. -/
theorem mints_paced {before middle : List Event} {e e' : Event} {permit permit' : ProviderPermit}
    (first : minted (taken (authority.final before) e) = some permit)
    (second : minted (taken (authority.final (before ++ e :: middle)) e') = some permit')
    (sameProvider : permit'.provider = permit.provider) :
    ∃ budget, (authority.final before).providerBudgets.get? permit.provider = some budget ∧
      ((PyFloat.fin e.now).add (reciprocal budget.requestsPerSecond)).le (.fin e'.now) := by
  obtain ⟨id, p, w, i, t, g, rq, ttl, worker, budget, -, cleared, -, -, rfl, budgets, -⟩ := minted_some first
  obtain ⟨id', p', w', i', t', g', rq', ttl', worker', budget', -, cleared', allowed', -, rfl, -, -⟩ := minted_some second
  have provider : p' = p := sameProvider
  subst provider
  have funded := (funded_final before).rate budget (Table.mem_of_get? cleared.configured)
  obtain ⟨q, interval, -⟩ := reciprocal_positive funded.1 funded.2
  have sets : Paced p' (e.now + q) (authority.final (before ++ [e])).providerBudgets := by
    rw [Machine.final_snoc, show authority.step = step from rfl, budgets]
    exact ⟨_, e.now + q, minted_budget cleared.configured e.now id w i t g rq ttl, by simp [interval], le_refl _⟩
  have later := paced_from sets middle
  rw [List.append_assoc, List.singleton_append] at later
  refine ⟨budget, cleared.configured, ?_⟩
  rw [interval]
  simpa using mint_paced cleared' allowed' later

theorem mints_cooled {before middle : List Event} {e e' : Event} {id w i : String} {code : Option Int}
    {cooldown : PyFloat} {bytes : Int} {row : PermitRow} {permit' : ProviderPermit} (le : e.now ≤ e'.now)
    (op : e.op = .reportProviderPermit id w i code cooldown bytes)
    (accepted : (taken (authority.final before) e).outcome = .ok .nothing)
    (found : (authority.final before).providerPermits.get? id = some row) (active : row.active = true)
    (second : minted (taken (authority.final (before ++ e :: middle)) e') = some permit')
    (sameProvider : permit'.provider = row.provider) :
    PyFloat.lt (.fin e'.now) ((PyFloat.fin e.now).add cooldown) = false := by
  obtain ⟨id', p', w', i', t', g', rq', ttl', worker', budget', -, cleared', allowed', -, rfl, -, -⟩ := minted_some second
  have provider : p' = row.provider := sameProvider
  have after : authority.final (before ++ [e]) = (reportProviderPermit (authority.final before) e.now id w i code cooldown bytes).2 := by
    rw [Machine.final_snoc, show authority.step = step from rfl]
    simp [step, op, Answer.reply]
  have outcome : (fun _ : Unit => Reply.nothing) <$>
      (reportProviderPermit (authority.final before) e.now id w i code cooldown bytes).1 = .ok .nothing := by
    rw [← accepted]
    simp [taken, authority, step, op, Answer.reply]
  have answer := report_cases (authority.final before) e.now id w i code cooldown bytes
  generalize reportProviderPermit (authority.final before) e.now id w i code cooldown bytes = result at answer after outcome
  cases answer with
  | refused err => cases outcome
  | ended other stored inactive =>
    rw [found] at stored
    cases stored
    rw [active] at inactive
    cases inactive
  | recorded other reports positive number =>
    have isRow := reports.stored
    rw [found] at isRow
    cases isRow
    by_cases sets : cooldown = .fin 0
    · subst sets
      simpa using le
    · have cools := report_cools (funded_final before) reports number sets e.now code bytes
      have later : Cooled row.provider ((PyFloat.fin e.now).add cooldown)
          (authority.final (before ++ [e] ++ middle)).providerBudgets := by
        refine cooled_from ?_ middle
        rw [after]
        exact cools
      rw [List.append_assoc, List.singleton_append, ← provider] at later
      obtain ⟨b, isBudget, bound⟩ := later
      rw [cleared'.configured] at isBudget
      cases isBudget
      by_contra early
      have inside := lt_of_lt_le (by simpa using early) bound
      rw [(not_denied allowed').2.2] at inside
      cases inside

theorem replay_answers {es : List Event} (recorded : Recorded es) {e : Event}
    (new : ∀ drawnId, drawn e = some drawnId → drawnId ∉ es.filterMap drawn) {id p w i t : String} {g : Int} {rq : String}
    {ttl : PyFloat} (op : e.op = .issueProviderPermit id p w i t g rq ttl) {permit : ProviderPermit}
    (returned : Returned es permit) (worker : permit.workerId = w) (request : permit.requestId = rq) :
    if (authority.final es).providerPermits.rows.any (fun row => row.permitId = permit.permitId && row.live e.now) then
      ∀ answer, (taken (authority.final es) e).outcome = .ok (.permit answer) → answer = some permit
    else ∀ permit', issued (taken (authority.final es) e) = some permit' → permit'.permitId ≠ permit.permitId := by
  have funded := funded_final es
  split
  · rename_i live
    obtain ⟨row, member, isLive⟩ := List.any_eq_true.mp live
    simp only [Bool.and_eq_true, decide_eq_true_eq] at isLive
    have same := recorded.same permit returned row member isLive.1
    -- The row is the one that the request finds.
    have prior : livePrior (authority.final es) e.now w rq = some row := by
      have found : (priorPermit (authority.final es) w rq).isSome := by
        rw [priorPermit, List.find?_isSome]
        exact ⟨row, member, by simp [same, worker, request]⟩
      obtain ⟨other, isPrior⟩ := Option.isSome_iff_exists.mp found
      have fits := List.find?_some isPrior
      simp only [Bool.and_eq_true, decide_eq_true_eq] at fits
      have one := funded.single other (List.mem_of_find?_eq_some isPrior) row member
        (by rw [fits.1, same, worker]) (by rw [fits.2, same, request])
      subst one
      exact Option.filter_eq_some_iff.mpr ⟨isPrior, isLive.2⟩
    intro answer outcome
    have result : .permit <$> (issueProviderPermit (authority.final es) e.now id p w i t g rq ttl).1 =
        (.ok (.permit answer) : Except PyError Reply) := by
      rw [← outcome]
      simp [taken, authority, step, op, Answer.reply]
    have answers := issue_cases (authority.final es) e.now id p w i t g rq ttl
    generalize issueProviderPermit (authority.final es) e.now id p w i t g rq ttl = given at answers result
    cases answers with
    | invalid | refused => cases result
    | replayed valid other isOther =>
      rw [prior] at isOther
      cases isOther
      cases result
      rw [same]
    | denied valid worker budget cleared => simp [cleared.notLive] at prior
    | minted valid worker budget cleared => simp [cleared.notLive] at prior
  · rename_i ended
    intro permit' isIssued identity
    obtain ⟨returns, -⟩ := issue_outcome (s := authority.final es) op
    rw [isIssued] at returns
    have answers := issue_cases (authority.final es) e.now id p w i t g rq ttl
    generalize issueProviderPermit (authority.final es) e.now id p w i t g rq ttl = given at answers returns
    cases answers with
    | invalid | refused | denied => simp [Except.toOption] at returns
    | replayed valid other live =>
      obtain ⟨isPrior, isLive⟩ := Option.filter_eq_some_iff.mp live
      cases returns
      refine ended (List.any_eq_true.mpr ⟨other, List.mem_of_find?_eq_some isPrior, ?_⟩)
      simp only [Bool.and_eq_true, decide_eq_true_eq]
      exact ⟨identity, isLive⟩
    | minted valid worker budget cleared =>
      cases returns
      have same : id = permit.permitId := identity
      have old := recorded.returned permit returned
      rw [← same] at old
      exact new id (by simp [drawn, op]) old

/-- The budget of every provider is safe in every run on a clock that never goes back,
    with identifiers that are drawn once. -/
theorem budget_safe (es : List Event) (clocked : (es.map Event.now).Pairwise (· ≤ ·)) (fresh : Fresh es) :
    BudgetSafe es := by
  refine ⟨?_, ?_, ?_, ?_, ?_⟩
  · intro r member permit mints
    obtain ⟨before, after, -, isStep⟩ := authority.mem_trace member
    rw [isStep] at mints ⊢
    obtain ⟨id, p, w, i, t, g, rq, ttl, worker, budget, -, cleared, allowed, unused, rfl, budgets, permits⟩ := minted_some mints
    have within := mint_within cleared allowed unused ttl
    have found := minted_budget cleared.configured r.event.now id w i t g rq ttl
    rw [← permits] at within
    rw [← budgets] at found
    exact ⟨_, found, within⟩
  · intro before e middle e' after _ permit permit' first second same
    exact mints_paced first second same
  · intro before e middle e' after split id w i code cooldown bytes row permit' op accepted found active second same
    have le : e.now ≤ e'.now := by
      rw [split, List.append_assoc, List.cons_append, List.map_append, List.map_cons] at clocked
      obtain ⟨-, rest, -⟩ := List.pairwise_append.mp clocked
      exact List.rel_of_pairwise_cons rest (by simp)
    exact mints_cooled le op accepted found active second same
  · intro r member permit mints
    obtain ⟨before, after, -, isStep⟩ := authority.mem_trace member
    rw [isStep] at mints ⊢
    obtain ⟨id, p, w, i, t, g, rq, ttl, worker, budget, -, cleared, -, -, rfl, -, -⟩ := minted_some mints
    obtain ⟨row, leased⟩ := cleared.leased
    obtain ⟨found, holds⟩ := assertActiveLease_ok (shaped_final before) leased
    exact ⟨row, found, holds⟩
  · intro before e after split id p w i t g rq ttl op permit returned worker request
    have parts : es.filterMap drawn = before.filterMap drawn ++ ((e :: after).filterMap drawn) := by
      rw [split, List.filterMap_append]
    unfold Fresh at fresh
    rw [parts] at fresh
    obtain ⟨left, -, apart⟩ := List.nodup_append.mp fresh
    refine replay_answers (recorded_final before left) ?_ op returned worker request
    intro drawnId isDrawn old
    exact apart drawnId old drawnId (by simp [isDrawn]) rfl

/-- A worker takes a permit, reports it with a cooldown, and asks again under the same
    request. -/
def permitRun : List Event := [
  ⟨0, .registerWorker (plainWorker "w" "i" worker_named), zero_sinceEpoch⟩, ⟨0, .admitWork "t" (plainWork 5 five_tries), zero_sinceEpoch⟩,
  ⟨0, .claimWork (fun _ => 0) "w" "i" (.fin 1000), zero_sinceEpoch⟩,
  ⟨0, .configureProviderBudget "wayback" (.fin 2) 1 false false (.fin 60), zero_sinceEpoch⟩,
  ⟨1, .issueProviderPermit "a" "wayback" "w" "i" "t" 1 "r" (.fin 30), one_sinceEpoch⟩,
  ⟨2, .reportProviderPermit "a" "w" "i" (some 429) (.fin 10) 100, two_sinceEpoch⟩,
  ⟨12, .issueProviderPermit "b" "wayback" "w" "i" "t" 1 "r" (.fin 30), by norm_num⟩]

theorem permitRun_safe : BudgetSafe permitRun ∧
    (authority.trace permitRun).filterMap (fun r => (minted r).map (·.permitId)) = ["a", "b"] :=
  ⟨budget_safe permitRun (by decide +kernel) (by decide +kernel), by decide +kernel⟩

end Creeper.ProviderPermits
