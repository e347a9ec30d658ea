import Creeper.ProviderPermits

/-!
# Permits on PostgreSQL

`issue_provider_permit` and `report_provider_permit` of the PostgreSQL store beside
those of the SQLite store. Leaving a `transaction()` block commits, raising from it
rolls back: a denied request keeps its sweep on PostgreSQL and loses it on SQLite.
-/

namespace Creeper.PostgresPermits
open Creeper.Runs Creeper.Tables Creeper.PyNumbers Creeper.FabricModels Creeper.ProviderPermits
open Creeper.AuthorityStore hiding issueProviderPermit reportProviderPermit step

/-! ## The PostgreSQL store -/

/-- `_lease`. -/
def lease (s : Store) (now : ℚ) (taskId workerId workerInstanceId : String) (generation : Int) : Except PyError WorkRow :=
  match s.work.get? taskId with
  | none => .error (.staleLease "worker no longer owns active lease")
  | some row =>
    if row.state ≠ .leased || strOf row.leaseOwner ≠ workerId || strOf row.leaseOwnerInstance ≠ workerInstanceId ||
        row.leaseGeneration ≠ generation || row.leaseDeadline.all (·.le (.fin now)) then
      .error (.staleLease "worker no longer owns active lease")
    else .ok row

/-- `issue_provider_permit`; `permitId` is the drawn identifier. `_worker` and the queries on
    the tables are those of the SQLite store. -/
def issueProviderPermit (s : Store) (now : ℚ) (permitId provider workerId workerInstanceId taskId : String)
    (generation : Int) (requestId : String) (ttlSeconds : PyFloat) : Answer (Option ProviderPermit) :=
  match workerRow s workerId workerInstanceId with
  | .error e => (.error e, s)
  | .ok worker =>
    match lease s now taskId workerId workerInstanceId generation with
    | .error e => (.error e, s)
    | .ok _ =>
      if !worker.descriptor.allowedProviders.contains provider then (.error (.providerAccessDenied provider), s)
      else if !egressAvailable s worker now then (.error (.workerEgressBudgetExceeded workerId), s)
      else
        match (priorPermit s workerId requestId).filter (·.live now) with
        | some prior =>
          if prior.provider ≠ provider || prior.workerInstanceId ≠ workerInstanceId || prior.taskId ≠ taskId ||
              prior.generation ≠ generation then
            (.error (.providerAccessDenied "permit request id is bound to different work"), s)
          else (.ok (some prior.toProviderPermit), s)
        | none =>
          let kept := s.providerPermits.delete (fun p => (priorPermit s workerId requestId).any (·.permitId = p.permitId))
          match s.providerBudgets.get? provider with
          | none => (.error (.providerAccessDenied ("provider budget is not configured: " ++ provider)), s)
          | some budget =>
            let swept := sweepPermits kept provider now
            -- `return None` leaves the transaction block, which commits.
            if regionDenies s swept budget worker now || budgetDenies swept budget now then
              (.ok none, { s with providerPermits := swept })
            else
              let permit : ProviderPermit := {
                permitId, requestId, provider, workerId, workerInstanceId, taskId, generation, allowedRequests := 1,
                maxInflight := budget.maxGlobalInflight, expiresAt := (PyFloat.fin now).add ttlSeconds }
              if (swept.get? permitId).isSome then (.error .integrityError, s)
              else
                (.ok (some permit), { s with
                  providerBudgets := s.providerBudgets.update (·.provider = provider) (fun b => { b with
                    nextRequestAt := (PyFloat.fin now).add (reciprocal budget.requestsPerSecond), updatedAt := now }) (BudgetRow.paced_provider now budget)
                  providerPermits := swept.insert {
                    toProviderPermit := permit, active := true, issuedAt := now, statusCode := none } })

def fitsInteger (value : Option Int) : Bool := value.all (fun n => -2147483648 ≤ n && n ≤ 2147483647)

/-- `GREATEST`; the value that is no number is above all others. -/
def greatest (a b : PyFloat) : PyFloat := if a.isNan || b.isNan then .nan else laterOf a b

/-- `report_provider_permit`. -/
def reportProviderPermit (s : Store) (now : ℚ) (permitId workerId workerInstanceId : String)
    (statusCode : Option Int) (cooldownSeconds : PyFloat) (responseBytes : Int) : Answer Unit :=
  match workerRow s workerId workerInstanceId with
  | .error e => (.error e, s)
  | .ok _ =>
    match (s.providerPermits.get? permitId).filter
        (fun p => p.workerId = workerId && p.workerInstanceId = workerInstanceId) with
    | none => (.error (.providerAccessDenied "unknown provider permit"), s)
    | some row =>
      if !row.active then (.ok (), s)
      else if !fitsInteger statusCode then (.error .dataError, s)
      else
        (.ok (), { s with
          providerPermits := s.providerPermits.update (·.permitId = permitId) ({ · with active := false, statusCode }) (PermitRow.reported_permitId statusCode)
          providerBudgets :=
            if cooldownSeconds = .fin 0 then s.providerBudgets
            else s.providerBudgets.update (·.provider = row.provider) (fun b => { b with
              cooldownUntil := greatest b.cooldownUntil ((PyFloat.fin now).add cooldownSeconds), updatedAt := now })
          workerEgressDaily := addEgress s.workerEgressDaily workerId responseBytes now })

/-! ## The two backends -/

inductive PermitOp
  | issue (permitId provider workerId workerInstanceId taskId : String) (generation : Int) (requestId : String)
      (ttlSeconds : PyFloat)
  | report (permitId workerId workerInstanceId : String) (statusCode : Option Int) (cooldownSeconds : PyFloat)
      (responseBytes : Int)

/-- A call, at one reading of the clock. -/
structure PermitCall where
  now : ℚ
  op : PermitOp

/-- The outcome of a report is that of a call that returns `None`. -/
def Answer.silent (answer : Answer Unit) : Answer (Option ProviderPermit) := ((fun _ => none) <$> answer.1, answer.2)

def sqlite (tables : Store) : Machine Store PermitCall (Except PyError (Option ProviderPermit)) where
  initial := tables
  step s c := match c.op with
    | .issue id p w i t g rq ttl => AuthorityStore.issueProviderPermit s c.now id p w i t g rq ttl
    | .report id w i code cooldown bytes =>
      Answer.silent (AuthorityStore.reportProviderPermit s c.now id w i code cooldown bytes)

def postgres (tables : Store) : Machine Store PermitCall (Except PyError (Option ProviderPermit)) where
  initial := tables
  step s c := match c.op with
    | .issue id p w i t g rq ttl => issueProviderPermit s c.now id p w i t g rq ttl
    | .report id w i code cooldown bytes => Answer.silent (reportProviderPermit s c.now id w i code cooldown bytes)

/-- The same permit, the same `None`, or an error of the same class. -/
def SameOutcome {α : Type} (a b : Except PyError α) : Prop := a.mapError PyError.className = b.mapError PyError.className

/-- The same rows of permits, budgets and egress. -/
structure SameTables (s s' : Store) : Prop where
  permits : ∀ key, s.providerPermits.get? key = s'.providerPermits.get? key
  budgets : ∀ key, s.providerBudgets.get? key = s'.providerBudgets.get? key
  egress : ∀ key, s.workerEgressDaily.get? key = s'.workerEgressDaily.get? key

theorem SameTables.refl (s : Store) : SameTables s s := ⟨fun _ => rfl, fun _ => rfl, fun _ => rfl⟩

/-- The tables and the outcome of a call are the same. -/
structure Agrees (a b : Answer (Option ProviderPermit)) : Prop where
  outcome : SameOutcome a.1 b.1
  tables : SameTables a.2 b.2

/-- Every call of a run leaves the same outcome and the same tables on both stores. -/
def AgreeOn (tables : Store) (calls : List PermitCall) : Prop :=
  ∀ before call after, calls = before ++ call :: after →
    Agrees ((sqlite tables).step ((sqlite tables).final before) call)
      ((postgres tables).step ((postgres tables).final before) call)

/-- A denied request has no earlier row, and no permit of the provider is waiting for a sweep. -/
def NothingSwept (s : Store) (now : ℚ) (provider workerId requestId : String) : Prop :=
  priorPermit s workerId requestId = none ∧
    ∀ row ∈ s.providerPermits.rows, row.provider = provider → row.active → row.expiresAt.le (.fin now) = false

/-- A call with valid arguments that sweeps nothing when it is denied, and writes only what
    both databases store. -/
def Fits (s : Store) (c : PermitCall) : Prop :=
  match c.op with
  | .issue id p w i t g rq ttl =>
    (blank rq || ttl.le (.fin 0)) = false ∧ ∀ worker budget, Cleared s c.now p w i t g rq worker budget →
      if denied s c.now p w rq worker budget then NothingSwept s c.now p w rq
      else ttl ≠ .nan ∨ ((sweptPermits s c.now p w rq).get? id).isSome
  | .report id w i code cooldown bytes =>
    (cooldown.lt (.fin 0) || bytes < 0) = false ∧ ∀ worker row, workerRow s w i = .ok worker → Reports s id w i row →
      fitsInteger code ∧ (cooldown = .nan → s.providerBudgets.get? row.provider = none)

/-! ## Issuing on both -/

theorem lease_eq (s : Store) (now : ℚ) (t w i : String) (g : Int) :
    lease s now t w i g = match assertActiveLease s now t w i g with
      | .ok row => .ok row
      | .error _ => .error (.staleLease "worker no longer owns active lease") := by
  unfold lease assertActiveLease
  cases s.work.get? t with
  | none => rfl
  | some row =>
    simp only
    split <;> rfl

section
variable (s : Store) (now : ℚ) (id p w i t : String) (g : Int) (rq : String) (ttl : PyFloat)

/-- The answers of both stores to one valid request. -/
inductive IssuePair : Answer (Option ProviderPermit) → Answer (Option ProviderPermit) → Prop
  | refused (notCleared : ∀ worker budget, ¬Cleared s now p w i t g rq worker budget) (err err' : PyError)
      (same : err.className = err'.className) : IssuePair (.error err, s) (.error err', s)
  | replayed (notCleared : ∀ worker budget, ¬Cleared s now p w i t g rq worker budget) (permit : ProviderPermit) :
      IssuePair (.ok (some permit), s) (.ok (some permit), s)
  | denied (worker : WorkerRow) (budget : BudgetRow) (cleared : Cleared s now p w i t g rq worker budget)
      (denies : denied s now p w rq worker budget = true) :
      IssuePair (.ok none, s) (.ok none, { s with providerPermits := sweptPermits s now p w rq })
  | taken (worker : WorkerRow) (budget : BudgetRow) (cleared : Cleared s now p w i t g rq worker budget)
      (allowed : denied s now p w rq worker budget = false) (used : ((sweptPermits s now p w rq).get? id).isSome) :
      IssuePair (.error .integrityError, s) (.error .integrityError, s)
  | endless (worker : WorkerRow) (budget : BudgetRow) (cleared : Cleared s now p w i t g rq worker budget)
      (allowed : denied s now p w rq worker budget = false) (unused : (sweptPermits s now p w rq).get? id = none)
      (notNumber : ttl = .nan) : IssuePair (.error .integrityError, s)
        (.ok (some (freshPermit now id p w i t g rq ttl budget)), mintedStore s now id p w i t g rq ttl budget)
  | minted (worker : WorkerRow) (budget : BudgetRow) (cleared : Cleared s now p w i t g rq worker budget)
      (allowed : denied s now p w rq worker budget = false) (unused : (sweptPermits s now p w rq).get? id = none)
      (number : ttl ≠ .nan) : IssuePair
        (.ok (some (freshPermit now id p w i t g rq ttl budget)), mintedStore s now id p w i t g rq ttl budget)
        (.ok (some (freshPermit now id p w i t g rq ttl budget)), mintedStore s now id p w i t g rq ttl budget)

/-- The ends of both calls, past the checks that they share. -/
theorem issue_pair_cleared {worker : WorkerRow} {budget : BudgetRow} (cleared : Cleared s now p w i t g rq worker budget) :
    IssuePair s now id p w i t g rq ttl
      (if denied s now p w rq worker budget then (.ok none, s)
        else if ((PyFloat.fin now).add ttl).isNan || ((sweptPermits s now p w rq).get? id).isSome then
          (.error .integrityError, s)
        else (.ok (some (freshPermit now id p w i t g rq ttl budget)), mintedStore s now id p w i t g rq ttl budget))
      (if denied s now p w rq worker budget then (.ok none, { s with providerPermits := sweptPermits s now p w rq })
        else if ((sweptPermits s now p w rq).get? id).isSome then (.error .integrityError, s)
        else (.ok (some (freshPermit now id p w i t g rq ttl budget)), mintedStore s now id p w i t g rq ttl budget)) := by
  cases denies : denied s now p w rq worker budget with
  | true => exact .denied worker budget cleared denies
  | false =>
    cases used : (sweptPermits s now p w rq).get? id with
    | some row =>
      rw [Option.isSome_some, Bool.or_true]
      exact .taken worker budget cleared denies (by simp [used])
    | none =>
      rw [Option.isSome_none, Bool.or_false]
      by_cases nan : ttl = .nan
      · subst nan
        exact .endless worker budget cleared denies used rfl
      · have number := PyFloat.add_ne_nan (a := now) nan
        have storable : ((PyFloat.fin now).add ttl).isNan = false := by
          cases sum : (PyFloat.fin now).add ttl with
          | nan => exact absurd sum number
          | negInf | fin | posInf => rfl
        rw [storable]
        exact .minted worker budget cleared denies used nan

theorem issue_pair (valid : (blank rq || ttl.le (.fin 0)) = false) :
    IssuePair s now id p w i t g rq ttl (AuthorityStore.issueProviderPermit s now id p w i t g rq ttl)
      (issueProviderPermit s now id p w i t g rq ttl) := by
  unfold AuthorityStore.issueProviderPermit issueProviderPermit
  rw [valid, lease_eq]
  simp only [Bool.false_eq_true, if_false]
  cases registered : workerRow s w i with
  | error err =>
    refine .refused (fun worker budget cleared => ?_) err err rfl
    simp [cleared.registered] at registered
  | ok worker =>
    have sameWorker : ∀ {other budget}, Cleared s now p w i t g rq other budget → other = worker := by
      intro other budget cleared
      have same := cleared.registered
      rw [registered] at same
      exact (Except.ok.inj same).symm
    cases leased : assertActiveLease s now t w i g with
    | error err =>
      refine .refused (fun other budget cleared => ?_) _ _ (by rw [assertActiveLease_error leased]; rfl)
      obtain ⟨row, isRow⟩ := cleared.leased
      rw [leased] at isRow
      cases isRow
    | ok row =>
      cases allowed : worker.descriptor.allowedProviders.contains p with
      | false =>
        simp only [allowed, Bool.not_false, if_true]
        refine .refused (fun other budget cleared => ?_) _ _ rfl
        have isAllowed := cleared.allowed
        rw [sameWorker cleared, allowed] at isAllowed
        cases isAllowed
      | true =>
        cases egress : egressAvailable s worker now with
        | false =>
          simp only [allowed, egress, Bool.not_false, Bool.not_true, Bool.false_eq_true, if_true, if_false]
          refine .refused (fun other budget cleared => ?_) _ _ rfl
          have available := cleared.egress
          rw [sameWorker cleared, egress] at available
          cases available
        | true =>
          simp only [allowed, egress, Bool.not_true, Bool.false_eq_true, if_false]
          cases prior : (priorPermit s w rq).filter (·.live now) with
          | some row =>
            have notCleared : ∀ worker budget, ¬Cleared s now p w i t g rq worker budget := by
              intro other budget cleared
              have notLive := cleared.notLive
              rw [livePrior, prior] at notLive
              cases notLive
            dsimp only
            by_cases other : (row.provider ≠ p || row.workerInstanceId ≠ i || row.taskId ≠ t || row.generation ≠ g) = true
            · rw [if_pos other]
              exact .refused notCleared _ _ rfl
            · rw [if_neg other]
              exact .replayed notCleared _
          | none =>
            cases configured : s.providerBudgets.get? p with
            | none =>
              refine .refused (fun other budget cleared => ?_) _ _ rfl
              simp [cleared.configured] at configured
            | some budget =>
              have cleared : Cleared s now p w i t g rq worker budget :=
                ⟨registered, ⟨row, leased⟩, allowed, egress, prior, configured⟩
              exact issue_pair_cleared s now id p w i t g rq ttl cleared

theorem cleared_unique {worker worker' : WorkerRow} {budget budget' : BudgetRow}
    (first : Cleared s now p w i t g rq worker budget) (second : Cleared s now p w i t g rq worker' budget') :
    worker' = worker ∧ budget' = budget := by
  have workers := second.registered
  have budgets := second.configured
  rw [first.registered] at workers
  rw [first.configured] at budgets
  exact ⟨(Except.ok.inj workers).symm, (Option.some.inj budgets).symm⟩

theorem swept_of_nothing (nothing : NothingSwept s now p w rq) : sweptPermits s now p w rq = s.providerPermits := by
  obtain ⟨noPrior, noExpired⟩ := nothing
  apply Table.ext
  simp only [sweptPermits, sweepPermits, noPrior, Option.any_none, Table.rows_update, Table.rows_delete, Bool.not_false,
    List.filter_true]
  refine (List.map_congr_left fun row member => ?_).trans (List.map_id _)
  rw [if_neg]
  · rfl
  · intro expired
    simp only [Bool.and_eq_true, decide_eq_true_eq] at expired
    rw [noExpired row member expired.1.1 expired.1.2] at expired
    cases expired.2

theorem nothing_of_swept (same : ∀ key, s.providerPermits.get? key = (sweptPermits s now p w rq).get? key) :
    NothingSwept s now p w rq := by
  have noPrior : priorPermit s w rq = none := by
    cases prior : priorPermit s w rq with
    | none => rfl
    | some row =>
      have stored := Table.get?_mem (List.mem_of_find?_eq_some prior)
      have gone := same row.permitId
      rw [stored, sweptPermits, sweepPermits, Table.get?_update, Table.get?_delete, stored, prior] at gone
      simp at gone
  refine ⟨noPrior, fun row member provider active => ?_⟩
  by_contra expired
  have stored := Table.get?_mem member
  have kept := same row.permitId
  rw [stored, sweptPermits, sweepPermits, Table.get?_update, Table.get?_delete, stored, noPrior] at kept
  simp only [Option.any_none, Bool.not_false, Option.filter_some, if_true, Option.map_some, Option.some.injEq] at kept
  rw [if_pos (by simp [provider, active, expired])] at kept
  have ended := congrArg PermitRow.active kept
  rw [active] at ended
  cases ended

theorem issue_agrees_iff (valid : (blank rq || ttl.le (.fin 0)) = false) :
    Agrees (AuthorityStore.issueProviderPermit s now id p w i t g rq ttl) (issueProviderPermit s now id p w i t g rq ttl) ↔
      ∀ worker budget, Cleared s now p w i t g rq worker budget →
        if ProviderPermits.denied s now p w rq worker budget then NothingSwept s now p w rq
        else ttl ≠ .nan ∨ ((sweptPermits s now p w rq).get? id).isSome := by
  have pair := issue_pair s now id p w i t g rq ttl valid
  generalize AuthorityStore.issueProviderPermit s now id p w i t g rq ttl = onSqlite at pair ⊢
  generalize issueProviderPermit s now id p w i t g rq ttl = onPostgres at pair ⊢
  cases pair with
  | refused notCleared err err' same =>
    exact ⟨fun _ worker budget cleared => absurd cleared (notCleared worker budget),
      fun _ => ⟨by simp [SameOutcome, Except.mapError, same], .refl _⟩⟩
  | replayed notCleared permit =>
    exact ⟨fun _ worker budget cleared => absurd cleared (notCleared worker budget), fun _ => ⟨rfl, .refl _⟩⟩
  | denied worker budget cleared denies =>
    constructor
    · intro agrees other budget' cleared'
      obtain ⟨rfl, rfl⟩ := cleared_unique s now p w i t g rq cleared cleared'
      rw [if_pos denies]
      exact nothing_of_swept s now p w rq agrees.tables.permits
    · intro fits
      have nothing := fits worker budget cleared
      rw [if_pos denies] at nothing
      refine ⟨rfl, ?_⟩
      rw [swept_of_nothing s now p w rq nothing]
      exact .refl _
  | taken worker budget cleared allowed used =>
    refine ⟨fun _ other budget' cleared' => ?_, fun _ => ⟨rfl, .refl _⟩⟩
    obtain ⟨rfl, rfl⟩ := cleared_unique s now p w i t g rq cleared cleared'
    simp [allowed, used]
  | endless worker budget cleared allowed unused notNumber =>
    constructor
    · intro agrees
      cases agrees.outcome
    · intro fits
      have stores := fits worker budget cleared
      simp [allowed, unused, notNumber] at stores
  | minted worker budget cleared allowed unused number =>
    refine ⟨fun _ other budget' cleared' => ?_, fun _ => ⟨rfl, .refl _⟩⟩
    obtain ⟨rfl, rfl⟩ := cleared_unique s now p w i t g rq cleared cleared'
    simp [allowed, number]

/-- A request on which both stores agree leaves them equal. -/
theorem issue_same (valid : (blank rq || ttl.le (.fin 0)) = false)
    (agrees : Agrees (AuthorityStore.issueProviderPermit s now id p w i t g rq ttl)
      (issueProviderPermit s now id p w i t g rq ttl)) :
    (AuthorityStore.issueProviderPermit s now id p w i t g rq ttl).2 =
      (issueProviderPermit s now id p w i t g rq ttl).2 := by
  have pair := issue_pair s now id p w i t g rq ttl valid
  generalize AuthorityStore.issueProviderPermit s now id p w i t g rq ttl = onSqlite at pair agrees ⊢
  generalize issueProviderPermit s now id p w i t g rq ttl = onPostgres at pair agrees ⊢
  cases pair with
  | refused | replayed | taken | minted => rfl
  | denied =>
    rw [swept_of_nothing s now p w rq (nothing_of_swept s now p w rq agrees.tables.permits)]
  | endless => cases agrees.outcome

/-- PostgreSQL does not check the arguments. -/
theorem issue_error {err : PyError} (failed : (issueProviderPermit s now id p w i t g rq ttl).1 = .error err) :
    err.className ≠ "ValueError" := by
  unfold issueProviderPermit at failed
  rw [lease_eq] at failed
  cases registered : workerRow s w i with
  | error rejected =>
    rw [registered] at failed
    cases failed
    rw [workerRow_error registered]
    decide
  | ok worker =>
    rw [registered] at failed
    cases leased : assertActiveLease s now t w i g with
    | error rejected =>
      rw [leased] at failed
      cases failed
      decide
    | ok row =>
      rw [leased] at failed
      dsimp only at failed
      repeat' split at failed
      all_goals cases failed
      all_goals simp [PyError.className]

end

/-! ## Reporting on both -/

theorem greatest_eq {a b : PyFloat} (number : b ≠ .nan) : greatest a b = laterOf a b := by
  unfold greatest
  cases a with
  | nan => cases b <;> rfl
  | negInf | fin | posInf => cases b <;> first | rfl | exact absurd rfl number

section
variable (s : Store) (now : ℚ) (id w i : String) (code : Option Int) (cooldown : PyFloat) (bytes : Int)

/-- The answers of both stores to one valid report. -/
inductive ReportPair : Answer Unit → Answer Unit → Prop
  | refused (nothing : ∀ worker row, workerRow s w i = .ok worker → ¬Reports s id w i row) (err : PyError) :
      ReportPair (.error err, s) (.error err, s)
  | ended (nothing : ∀ worker row, workerRow s w i = .ok worker → ¬Reports s id w i row) : ReportPair (.ok (), s) (.ok (), s)
  | oversized (worker : WorkerRow) (registered : workerRow s w i = .ok worker) (row : PermitRow)
      (reports : Reports s id w i row) (large : fitsInteger code = false) (answer : Answer Unit)
      (other : answer.1 ≠ .error .dataError) : ReportPair answer (.error .dataError, s)
  | endless (worker : WorkerRow) (registered : workerRow s w i = .ok worker) (row : PermitRow)
      (reports : Reports s id w i row) (notNumber : cooldown = .nan) (budget : s.providerBudgets.get? row.provider ≠ none)
      (after : Store) : ReportPair (.error .integrityError, s) (.ok (), after)
  | recorded (worker : WorkerRow) (registered : workerRow s w i = .ok worker) (row : PermitRow)
      (reports : Reports s id w i row) (small : fitsInteger code = true)
      (number : cooldown = .nan → s.providerBudgets.get? row.provider = none) :
      ReportPair (.ok (), reportedStore s now id w code cooldown bytes row)
        (.ok (), reportedStore s now id w code cooldown bytes row)

theorem report_pair (valid : (cooldown.lt (.fin 0) || bytes < 0) = false) :
    ReportPair s now id w i code cooldown bytes
      (AuthorityStore.reportProviderPermit s now id w i code cooldown bytes)
      (reportProviderPermit s now id w i code cooldown bytes) := by
  unfold AuthorityStore.reportProviderPermit reportProviderPermit
  rw [valid]
  simp only [Bool.false_eq_true, if_false]
  cases registered : workerRow s w i with
  | error err => exact .refused (fun worker row isOk => by rw [registered] at isOk; cases isOk) err
  | ok worker =>
    cases found : (s.providerPermits.get? id).filter (fun p => p.workerId = w && p.workerInstanceId = i) with
    | none =>
      refine .refused (fun _ row _ reports => ?_) _
      rw [reports.stored, Option.filter_some, if_pos (by simp [reports.owner])] at found
      cases found
    | some row =>
      obtain ⟨stored, owner⟩ := Option.filter_eq_some_iff.mp found
      cases active : row.active with
      | false =>
        simp only [active, Bool.not_false, if_true]
        refine .ended (fun _ other _ reports => ?_)
        have same := reports.stored
        rw [stored] at same
        cases same
        rw [reports.active] at active
        cases active
      | true =>
        have reports : Reports s id w i row := ⟨stored, by simpa using owner, active⟩
        simp only [active, Bool.not_true, Bool.false_eq_true, if_false]
        cases small : fitsInteger code with
        | false =>
          refine .oversized worker registered row reports small _ ?_
          split <;> simp
        | true =>
          simp only [Bool.not_true, Bool.false_eq_true, if_false]
          by_cases endless : (cooldown.isNan && (s.providerBudgets.get? row.provider).isSome) = true
          · rw [if_pos endless]
            obtain ⟨isNan, isSome⟩ := Bool.and_eq_true_iff.mp endless
            refine .endless worker registered row reports ?_ ?_ _
            · cases cooldown with
              | nan => rfl
              | negInf | fin | posInf => cases isNan
            · intro absent
              rw [absent] at isSome
              cases isSome
          · rw [if_neg endless]
            have number : cooldown = .nan → s.providerBudgets.get? row.provider = none := by
              rintro rfl
              simpa [PyFloat.isNan] using endless
            have cools := s.providerBudgets.update_congr (·.provider = row.provider)
              (fun b => { b with
                cooldownUntil := greatest b.cooldownUntil ((PyFloat.fin now).add cooldown), updatedAt := now })
              (fun b => { b with
                cooldownUntil := laterOf b.cooldownUntil ((PyFloat.fin now).add cooldown), updatedAt := now })
              (fun _ => rfl) (fun _ => rfl) (by
                intro b member same
                have isNumber : cooldown ≠ .nan := fun isNan =>
                  Table.get?_eq_none.mp (number isNan) b member (of_decide_eq_true same)
                rw [greatest_eq (PyFloat.add_ne_nan isNumber)])
            rw [cools]
            exact .recorded worker registered row reports small number

theorem report_agrees_iff (valid : (cooldown.lt (.fin 0) || bytes < 0) = false) :
    Agrees (Answer.silent (AuthorityStore.reportProviderPermit s now id w i code cooldown bytes))
      (Answer.silent (reportProviderPermit s now id w i code cooldown bytes)) ↔
      ∀ worker row, workerRow s w i = .ok worker → Reports s id w i row →
        fitsInteger code ∧ (cooldown = .nan → s.providerBudgets.get? row.provider = none) := by
  have pair := report_pair s now id w i code cooldown bytes valid
  generalize AuthorityStore.reportProviderPermit s now id w i code cooldown bytes = onSqlite at pair ⊢
  generalize reportProviderPermit s now id w i code cooldown bytes = onPostgres at pair ⊢
  have same : ∀ {row other}, Reports s id w i row → Reports s id w i other → other = row := by
    intro row other first second
    have stored := second.stored
    rw [first.stored] at stored
    exact (Option.some.inj stored).symm
  cases pair with
  | refused nothing | ended nothing =>
    exact ⟨fun _ worker row registered reports => absurd reports (nothing worker row registered), fun _ => ⟨rfl, .refl _⟩⟩
  | oversized worker registered row reports large _ other =>
    constructor
    · intro agrees
      obtain ⟨outcome, after⟩ := onSqlite
      have sameClass := agrees.outcome
      cases outcome with
      | ok => cases sameClass
      | error err =>
        have isData : err.className = "DataError" := Except.error.inj sameClass
        cases err <;> first | exact absurd rfl other | exact absurd isData (by simp [PyError.className])
    · intro fits
      have small := (fits worker row registered reports).1
      rw [large] at small
      cases small
  | endless worker registered row reports notNumber budget after =>
    constructor
    · intro agrees
      cases agrees.outcome
    · intro fits
      exact absurd ((fits worker row registered reports).2 notNumber) budget
  | recorded worker registered row reports small number =>
    refine ⟨fun _ _ other _ isReport => ?_, fun _ => ⟨rfl, .refl _⟩⟩
    rw [same reports isReport]
    exact ⟨small, number⟩

theorem report_same (valid : (cooldown.lt (.fin 0) || bytes < 0) = false)
    (agrees : Agrees (Answer.silent (AuthorityStore.reportProviderPermit s now id w i code cooldown bytes))
      (Answer.silent (reportProviderPermit s now id w i code cooldown bytes))) :
    (AuthorityStore.reportProviderPermit s now id w i code cooldown bytes).2 =
      (reportProviderPermit s now id w i code cooldown bytes).2 := by
  have fits := (report_agrees_iff s now id w i code cooldown bytes valid).mp agrees
  have pair := report_pair s now id w i code cooldown bytes valid
  generalize AuthorityStore.reportProviderPermit s now id w i code cooldown bytes = onSqlite at pair ⊢
  generalize reportProviderPermit s now id w i code cooldown bytes = onPostgres at pair ⊢
  cases pair with
  | refused | ended | recorded => rfl
  | oversized worker registered row reports large =>
    have small := (fits worker row registered reports).1
    rw [large] at small
    cases small
  | endless worker registered row reports notNumber budget => exact absurd ((fits worker row registered reports).2 notNumber) budget

theorem report_error {err : PyError} (failed : (reportProviderPermit s now id w i code cooldown bytes).1 = .error err) :
    err.className ≠ "ValueError" := by
  unfold reportProviderPermit at failed
  cases registered : workerRow s w i with
  | error rejected =>
    rw [registered] at failed
    cases failed
    rw [workerRow_error registered]
    decide
  | ok worker =>
    rw [registered] at failed
    dsimp only at failed
    repeat' split at failed
    all_goals cases failed
    all_goals decide

end

/-! ## Runs on both -/

theorem call_agrees_iff (tables s : Store) (c : PermitCall) :
    Agrees ((sqlite tables).step s c) ((postgres tables).step s c) ↔ Fits s c := by
  obtain ⟨now, op⟩ := c
  cases op with
  | issue id p w i t g rq ttl =>
    cases valid : (blank rq || ttl.le (.fin 0)) with
    | false =>
      refine (issue_agrees_iff s now id p w i t g rq ttl valid).trans ?_
      simp [Fits, valid]
    | true =>
      refine iff_of_false (fun agrees => ?_) (by simp [Fits, valid])
      have onSqlite : (sqlite tables).step s ⟨now, .issue id p w i t g rq ttl⟩ =
          (.error (.valueError "invalid provider permit request"), s) := by
        simp only [sqlite, AuthorityStore.issueProviderPermit, valid, if_true]
      have outcome := agrees.outcome
      rw [onSqlite] at outcome
      cases answer : (issueProviderPermit s now id p w i t g rq ttl).1 with
      | ok permit =>
        simp only [postgres, answer] at outcome
        cases outcome
      | error err =>
        simp only [postgres, answer] at outcome
        exact issue_error s now id p w i t g rq ttl answer (Except.error.inj outcome).symm
  | report id w i code cooldown bytes =>
    cases valid : (cooldown.lt (.fin 0) || decide (bytes < 0)) with
    | false =>
      refine (report_agrees_iff s now id w i code cooldown bytes valid).trans ?_
      simp [Fits, valid]
    | true =>
      refine iff_of_false (fun agrees => ?_) (by simp [Fits, valid])
      have onSqlite : (sqlite tables).step s ⟨now, .report id w i code cooldown bytes⟩ =
          (.error (.valueError "invalid provider report"), s) := by
        simp only [sqlite, AuthorityStore.reportProviderPermit, valid, if_true]
        rfl
      have outcome := agrees.outcome
      rw [onSqlite] at outcome
      cases answer : (reportProviderPermit s now id w i code cooldown bytes).1 with
      | ok nothing =>
        simp only [postgres, Answer.silent, answer] at outcome
        cases outcome
      | error err =>
        simp only [postgres, Answer.silent, answer] at outcome
        exact report_error s now id w i code cooldown bytes answer (Except.error.inj outcome).symm

theorem fits_same (tables s : Store) (c : PermitCall) (fits : Fits s c) :
    ((sqlite tables).step s c).2 = ((postgres tables).step s c).2 := by
  have agrees := (call_agrees_iff tables s c).mpr fits
  obtain ⟨now, op⟩ := c
  cases op with
  | issue id p w i t g rq ttl => exact issue_same s now id p w i t g rq ttl fits.1 agrees
  | report id w i code cooldown bytes => exact report_same s now id w i code cooldown bytes fits.1 agrees

/-- The tables of a worker that holds a lease for a provider with a slow rate. -/
def slowBudget : List Event := [
  ⟨0, .registerWorker (plainWorker "w" "i" worker_named), zero_sinceEpoch⟩, ⟨0, .admitWork "t" (plainWork 5 five_tries), zero_sinceEpoch⟩,
  ⟨0, .claimWork (fun _ => 0) "w" "i" (.fin 1000), zero_sinceEpoch⟩,
  ⟨0, .configureProviderBudget "wayback" (.fin (1 / 100)) 1 false false (.fin 60), zero_sinceEpoch⟩]

/-- A permit expires, a second request is denied, and the first permit is reported. -/
def deniedThenReported : List PermitCall := [
  ⟨0, .issue "a" "wayback" "w" "i" "t" 1 "r" (.fin 10)⟩,
  ⟨20, .issue "b" "wayback" "w" "i" "t" 1 "q" (.fin 10)⟩,
  ⟨21, .report "a" "w" "i" (some 200) (.fin 0) 100⟩]

end Creeper.PostgresPermits
