import Creeper.ProviderPermits

/-!
# Provider reports

The report of a permit adds its response bytes to the day of the worker and
starts the cooldown of the provider. The row of a permit loses `active` when it
is reported, and also when a later request of any worker finds it expired: a
first report that comes after such a sweep returns and adds nothing.
-/

namespace Creeper.ProviderReports
open Creeper.Runs Creeper.Tables Creeper.PyNumbers Creeper.FabricModels Creeper.AuthorityStore
open Creeper.ProviderPermits

/-! ## Reports of a run -/

/-- The response bytes that a worker has used on a day. -/
def egressBytes (s : Store) (workerId : String) (day : Int) : Int :=
  ((s.workerEgressDaily.get? (workerId, day)).map (·.responseBytes)).getD 0

/-- The step is a report of the permit, by the worker instance that owns it, that returns. -/
def settles (permit : ProviderPermit) (r : Step Store Event (Except PyError Reply)) : Bool :=
  match r.event.op, r.outcome with
  | .reportProviderPermit permitId workerId workerInstanceId _ _ _, .ok _ =>
    permitId = permit.permitId && workerId = permit.workerId && workerInstanceId = permit.workerInstanceId
  | _, _ => false

/-- After the calls `earlier`, the owner of a permit that they minted reports it, and the
    call returns. -/
structure Delivery (earlier : List Event) (e : Event) (permit : ProviderPermit) (cooldown : PyFloat) (bytes : Int) :
    Prop where
  minted : ∃ r ∈ authority.trace earlier, minted r = some permit
  report : ∃ code, e.op = .reportProviderPermit permit.permitId permit.workerId permit.workerInstanceId code cooldown bytes
  accepted : (taken (authority.final earlier) e).outcome = .ok .nothing

/-- No earlier report of the permit returned. -/
def First (earlier : List Event) (permit : ProviderPermit) : Prop :=
  ∀ r ∈ authority.trace earlier, settles permit r = false

/-- The cooldown of the provider of a permit lasts for the time that a report asks for. -/
def Cools (s : Store) (now : ℚ) (permit : ProviderPermit) (cooldown : PyFloat) : Prop :=
  PyFloat.lt (.fin 0) cooldown = true → Cooled permit.provider ((PyFloat.fin now).add cooldown) s.providerBudgets

/-- The step adds the bytes to the day of the worker, once, and the cooldown lasts. -/
structure Counted (r : Step Store Event (Except PyError Reply)) (permit : ProviderPermit) (cooldown : PyFloat)
    (bytes : Int) : Prop where
  egress : ∀ w day, egressBytes r.after w day =
    egressBytes r.before w day + if w = permit.workerId ∧ day = egressDayKey r.event.now then bytes else 0
  cools : Cools r.after r.event.now permit cooldown

/-- The first report of every permit counts, and a repeated one adds nothing. -/
def ReportsKept (es : List Event) : Prop :=
  ∀ earlier e later, es = earlier ++ e :: later → ∀ permit cooldown bytes, Delivery earlier e permit cooldown bytes →
    (First earlier permit → Counted (taken (authority.final earlier) e) permit cooldown bytes) ∧
      (¬First earlier permit → (taken (authority.final earlier) e).after = (taken (authority.final earlier) e).before)

/-- The row of the permit is active, or the report has nothing new to say. -/
def InTime (s : Store) (now : ℚ) (permit : ProviderPermit) (cooldown : PyFloat) (bytes : Int) : Prop :=
  (∃ row, s.providerPermits.get? permit.permitId = some row ∧ row.active = true) ∨
    bytes = 0 ∧ Cools s now permit cooldown

/-! ## Rows that have ended -/

/-- No row with the identifier is active. -/
def Ended (permits : Permits) (permitId : String) : Prop :=
  ∀ row ∈ permits.rows, row.permitId = permitId → row.active = false

theorem ended_step {s : Store} {e : Event} {budgets : Budgets} {permits : Permits}
    (move : PermitMove s e budgets permits) {permitId : String} (ended : Ended s.providerPermits permitId)
    (other : drawn e ≠ some permitId) : Ended permits permitId := by
  intro row member named
  cases move with
  | same | configured => exact ended row member named
  | collected => exact ended row (List.mem_of_mem_filter member) named
  | reported =>
    obtain ⟨old, stored, ⟨-, same⟩ | ⟨-, same⟩⟩ := mem_update member
    · rw [same]
    · rw [same] at named ⊢
      exact ended old stored named
  | minted id p w i t g rq ttl isIssue worker budget cleared allowed unused =>
    have rows : (mintedStore s e.now id p w i t g rq ttl budget).providerPermits.rows =
        (sweptPermits s e.now p w rq).rows ++ [_] := Table.rows_insert (by exact unused)
    rw [rows, List.mem_append, List.mem_singleton] at member
    rcases member with swept | rfl
    · obtain ⟨old, stored, same, isActive, -⟩ := mem_swept swept
      by_contra active
      rw [Bool.not_eq_false] at active
      obtain ⟨oldActive, -⟩ := isActive active
      rw [ended old stored (by rw [← named, same])] at oldActive
      cases oldActive
    · exact absurd (by simp [drawn, isIssue, ← named, freshPermit]) other

theorem ended_from {es : List Event} {permitId : String} (ended : Ended (authority.final es).providerPermits permitId)
    (more : List Event) (others : ∀ e ∈ more, drawn e ≠ some permitId) :
    Ended (authority.final (es ++ more)).providerPermits permitId := by
  induction more using List.reverseRecOn with
  | nil => simpa using ended
  | append_singleton more e ih =>
    rw [← List.append_assoc, Machine.final_snoc]
    exact ended_step (permit_moves _ e) (ih fun e' member => others e' (by simp [member])) (others e (by simp))

theorem stored_named {s : Store} {permitId : String} {row : PermitRow}
    (stored : s.providerPermits.get? permitId = some row) : row ∈ s.providerPermits.rows ∧ row.permitId = permitId :=
  ⟨Table.mem_of_get? stored, @Table.get?_key _ _ (fun p : PermitRow => p.permitId) _ _ _ _ stored⟩

theorem report_ends {s : Store} {now : ℚ} {permitId w i : String} {code : Option Int} {cooldown : PyFloat} {bytes : Int}
    (accepted : (reportProviderPermit s now permitId w i code cooldown bytes).1 = .ok ()) :
    (∃ row ∈ s.providerPermits.rows, row.permitId = permitId) ∧
      Ended (reportProviderPermit s now permitId w i code cooldown bytes).2.providerPermits permitId := by
  have answer := report_cases s now permitId w i code cooldown bytes
  generalize reportProviderPermit s now permitId w i code cooldown bytes = result at answer accepted
  cases answer with
  | refused err => cases accepted
  | ended row stored inactive =>
    obtain ⟨isRow, isNamed⟩ := stored_named stored
    refine ⟨⟨row, isRow, isNamed⟩, fun other member named => ?_⟩
    rw [Table.row_unique member isRow (named.trans isNamed.symm), inactive]
  | recorded row reports =>
    refine ⟨⟨row, stored_named reports.stored⟩, fun other member named => ?_⟩
    obtain ⟨old, stored, ⟨-, same⟩ | ⟨missed, same⟩⟩ := mem_update member
    · rw [same]
    · rw [same] at named
      simp [named] at missed

theorem report_outcome {s : Store} {e : Event} {permitId w i : String} {code : Option Int} {cooldown : PyFloat} {bytes : Int}
    (op : e.op = .reportProviderPermit permitId w i code cooldown bytes) :
    (taken s e).outcome = (fun _ => .nothing) <$> (reportProviderPermit s e.now permitId w i code cooldown bytes).1 ∧
      (taken s e).after = (reportProviderPermit s e.now permitId w i code cooldown bytes).2 := by
  simp [taken, authority, step, op, Answer.reply]

theorem report_returned {s : Store} {e : Event} {permitId w i : String} {code : Option Int} {cooldown : PyFloat}
    {bytes : Int} (op : e.op = .reportProviderPermit permitId w i code cooldown bytes) {reply : Reply}
    (accepted : (taken s e).outcome = .ok reply) :
    (reportProviderPermit s e.now permitId w i code cooldown bytes).1 = .ok () := by
  rw [(report_outcome op).1] at accepted
  cases answer : (reportProviderPermit s e.now permitId w i code cooldown bytes).1 with
  | ok nothing => rfl
  | error err =>
    rw [answer] at accepted
    cases accepted

theorem reported_ended {es : List Event} (fresh : Fresh es) {permit : ProviderPermit} (again : ¬First es permit) :
    Ended (authority.final es).providerPermits permit.permitId := by
  obtain ⟨r, member, settled⟩ : ∃ r ∈ authority.trace es, settles permit r = true := by
    simpa [First] using again
  obtain ⟨before, after, split, isStep⟩ := authority.mem_trace member
  unfold settles at settled
  split at settled
  · rename_i permitId w i code cooldown bytes reply op outcome
    simp only [Bool.and_eq_true, decide_eq_true_eq] at settled
    obtain ⟨⟨rfl, -⟩, -⟩ := settled
    rw [isStep] at outcome
    obtain ⟨⟨row, stored, named⟩, ended⟩ := report_ends (report_returned op outcome)
    have parts : es.filterMap drawn = before.filterMap drawn ++ ((r.event :: after).filterMap drawn) := by
      rw [split, List.filterMap_append]
    unfold Fresh at fresh
    rw [parts] at fresh
    obtain ⟨left, -, apart⟩ := List.nodup_append.mp fresh
    have old := (recorded_final before left).stored row stored
    rw [named] at old
    have here : Ended (authority.final (before ++ [r.event])).providerPermits permit.permitId := by
      rw [Machine.final_snoc, ← Machine.take_after, (report_outcome op).2]
      exact ended
    have later := ended_from here after fun e' member isDrawn =>
      apart _ old _ (List.mem_filterMap.mpr ⟨e', List.mem_cons_of_mem _ member, isDrawn⟩) rfl
    rw [split]
    simpa using later
  · cases settled

/-! ## What a report adds -/

/-- Adding to the day of a worker adds to that day only. -/
theorem egressBytes_add (s : Store) (worker : String) (bytes : Int) (now : ℚ) (w : String) (day : Int) :
    egressBytes { s with workerEgressDaily := addEgress s.workerEgressDaily worker bytes now } w day =
      egressBytes s w day + if w = worker ∧ day = egressDayKey now then bytes else 0 := by
  unfold egressBytes addEgress
  rw [Table.get?_upsert]
  by_cases here : (w, day) = (worker, egressDayKey now)
  · rw [if_pos here, if_pos (by simpa using here)]
    cases s.workerEgressDaily.get? (w, day) <;> simp
  · rw [if_neg here, if_neg (by simpa using here), add_zero]

theorem recorded_counted {s : Store} (funded : Funded s.providerBudgets s.providerPermits) {e : Event}
    {permit : ProviderPermit} {code : Option Int} {cooldown : PyFloat} {bytes : Int} {row : PermitRow}
    (reports : Reports s permit.permitId permit.workerId permit.workerInstanceId row)
    (number : cooldown.isNan = false ∨ s.providerBudgets.get? row.provider = none)
    (provider : row.provider = permit.provider)
    (after : (taken s e).after = reportedStore s e.now permit.permitId permit.workerId code cooldown bytes row) :
    Counted (taken s e) permit cooldown bytes := by
  refine ⟨fun w day => ?_, fun positive => ?_⟩
  · rw [after]
    exact egressBytes_add s permit.workerId bytes e.now w day
  · have sets : cooldown ≠ .fin 0 := by
      rintro rfl
      simp at positive
    rw [after, ← provider]
    exact report_cools funded reports number sets e.now code bytes

theorem silent_counted {s : Store} {e : Event} (same : (taken s e).after = s) (permit : ProviderPermit)
    (cooldown : PyFloat) (bytes : Int) :
    Counted (taken s e) permit cooldown bytes ↔ bytes = 0 ∧ Cools s e.now permit cooldown := by
  constructor
  · intro counted
    have egress := counted.egress permit.workerId (egressDayKey e.now)
    have cools := counted.cools
    rw [same] at egress cools
    rw [Machine.take_event, if_pos ⟨rfl, rfl⟩] at egress
    exact ⟨by simpa using egress, cools⟩
  · rintro ⟨rfl, cools⟩
    refine ⟨fun w day => ?_, ?_⟩
    · rw [same, ite_self, add_zero]
      rfl
    · rw [same]
      exact cools

theorem delivery_cases {earlier : List Event} (fresh : Fresh earlier) {e : Event} {permit : ProviderPermit}
    {cooldown : PyFloat} {bytes : Int} (delivery : Delivery earlier e permit cooldown bytes) :
    ∃ row, (authority.final earlier).providerPermits.get? permit.permitId = some row ∧
      if row.active = true then Counted (taken (authority.final earlier) e) permit cooldown bytes
      else (taken (authority.final earlier) e).after = authority.final earlier := by
  obtain ⟨r, member, mints⟩ := delivery.minted
  obtain ⟨code, op⟩ := delivery.report
  have returned : Returned earlier permit := by
    refine ⟨r, member, ?_⟩
    unfold minted at mints
    split at mints
    · split at mints
      · cases mints
        unfold issued
        simp_all
      · cases mints
    · cases mints
  have accepted := report_returned op delivery.accepted
  have after := (report_outcome (s := authority.final earlier) op).2
  have answer := report_cases (authority.final earlier) e.now permit.permitId permit.workerId permit.workerInstanceId
    code cooldown bytes
  generalize reportProviderPermit (authority.final earlier) e.now permit.permitId permit.workerId
    permit.workerInstanceId code cooldown bytes = result at answer accepted after
  cases answer with
  | refused err => cases accepted
  | ended row stored inactive => exact ⟨row, stored, by rw [inactive, if_neg Bool.false_ne_true]; exact after⟩
  | recorded row reports positive number =>
    obtain ⟨isRow, isNamed⟩ := stored_named reports.stored
    have same := (recorded_final earlier fresh).same permit returned row isRow isNamed
    refine ⟨row, reports.stored, ?_⟩
    rw [if_pos reports.active]
    exact recorded_counted (funded_final earlier) reports number (by rw [← same]) after

theorem first_counted_iff {earlier : List Event} (fresh : Fresh earlier) {e : Event} {permit : ProviderPermit}
    {cooldown : PyFloat} {bytes : Int} (delivery : Delivery earlier e permit cooldown bytes) :
    Counted (taken (authority.final earlier) e) permit cooldown bytes ↔
      InTime (authority.final earlier) e.now permit cooldown bytes := by
  obtain ⟨row, stored, outcome⟩ := delivery_cases fresh delivery
  by_cases active : row.active = true
  · rw [if_pos active] at outcome
    exact ⟨fun _ => .inl ⟨row, stored, active⟩, fun _ => outcome⟩
  · rw [if_neg active] at outcome
    rw [silent_counted outcome]
    refine ⟨.inr, ?_⟩
    rintro (⟨other, isStored, isActive⟩ | silent)
    · rw [stored] at isStored
      cases isStored
      exact absurd isActive active
    · exact silent

theorem repeated_silent {earlier : List Event} (fresh : Fresh earlier) {e : Event} {permit : ProviderPermit}
    {cooldown : PyFloat} {bytes : Int} (delivery : Delivery earlier e permit cooldown bytes)
    (again : ¬First earlier permit) : (taken (authority.final earlier) e).after = authority.final earlier := by
  obtain ⟨row, stored, outcome⟩ := delivery_cases fresh delivery
  obtain ⟨isRow, isNamed⟩ := stored_named stored
  have inactive := reported_ended fresh again row isRow isNamed
  rwa [inactive, if_neg Bool.false_ne_true] at outcome

theorem fresh_earlier {es earlier later : List Event} (fresh : Fresh es) (split : es = earlier ++ later) :
    Fresh earlier := by
  unfold Fresh at *
  rw [split, List.filterMap_append] at fresh
  exact (List.nodup_append.mp fresh).1

/-- In a run whose identifiers are drawn once, the reports are kept exactly when every
    first report is in time. -/
theorem reports_kept_iff (es : List Event) (fresh : Fresh es) :
    ReportsKept es ↔ ∀ earlier e later, es = earlier ++ e :: later → ∀ permit cooldown bytes,
      Delivery earlier e permit cooldown bytes → First earlier permit →
        InTime (authority.final earlier) e.now permit cooldown bytes := by
  constructor
  · intro kept earlier e later split permit cooldown bytes delivery first
    exact (first_counted_iff (fresh_earlier fresh split) delivery).mp
      ((kept earlier e later split permit cooldown bytes delivery).1 first)
  · intro inTime earlier e later split permit cooldown bytes delivery
    refine ⟨fun first => ?_, repeated_silent (fresh_earlier fresh split) delivery⟩
    exact (first_counted_iff (fresh_earlier fresh split) delivery).mpr
      (inTime earlier e later split permit cooldown bytes delivery first)

theorem permitRun_kept : (ReportsKept permitRun ↔ ∀ earlier e later, permitRun = earlier ++ e :: later →
    ∀ permit cooldown bytes, Delivery earlier e permit cooldown bytes → First earlier permit →
      InTime (authority.final earlier) e.now permit cooldown bytes) ∧
    egressBytes (authority.final permitRun) "w" 0 = 100 :=
  ⟨reports_kept_iff permitRun (by decide +kernel), by decide +kernel⟩

/-- A permit that expires before its owner reports it. -/
def latePermit : ProviderPermit where
  permitId := "a"
  requestId := "r"
  provider := "wayback"
  workerId := "w"
  workerInstanceId := "i"
  taskId := "t"
  generation := 1
  allowedRequests := 1
  maxInflight := 1
  expiresAt := .fin 31

def secondWork : WorkDefinition := { plainWork 5 five_tries with
  inputIdentity := "y"
  valid := by
    have texts : blank "p" = false ∧ blank "y" = false ∧ blank "1" = false ∧ distinct [] = true := by decide
    simp [plainWork, WorkFields.postInit, texts, PyFloat.isFinite] }

/-- Two workers share a provider. The second takes a permit once the permit of the first
    has expired, before its response is there. -/
def beforeLateReport : List Event := [
  ⟨0, .registerWorker (plainWorker "w" "i" worker_named), zero_sinceEpoch⟩, ⟨0, .registerWorker (plainWorker "v" "j"), zero_sinceEpoch⟩,
  ⟨0, .admitWork "t" (plainWork 5 five_tries), zero_sinceEpoch⟩, ⟨0, .claimWork (fun _ => 0) "w" "i" (.fin 1000), zero_sinceEpoch⟩,
  ⟨0, .admitWork "u" secondWork, zero_sinceEpoch⟩, ⟨0, .claimWork (fun _ => 0) "v" "j" (.fin 1000), zero_sinceEpoch⟩,
  ⟨0, .configureProviderBudget "wayback" (.fin 2) 1 false false (.fin 60), zero_sinceEpoch⟩,
  ⟨1, .issueProviderPermit "a" "wayback" "w" "i" "t" 1 "r" (.fin 30), one_sinceEpoch⟩,
  ⟨32, .issueProviderPermit "b" "wayback" "v" "j" "u" 1 "q" (.fin 30), by norm_num⟩]

/-- The owner reports a throttled response of 1000 bytes. -/
def lateReport : Event := ⟨33, .reportProviderPermit "a" "w" "i" (some 429) (.fin 60) 1000, by norm_num⟩

theorem late_report_dropped : ¬∀ es, Fresh es → ReportsKept es := by
  intro kept
  have delivery : Delivery beforeLateReport lateReport latePermit (.fin 60) 1000 := by
    refine ⟨?_, ⟨some 429, rfl⟩, ?_⟩
    · have minted : latePermit ∈ (authority.trace beforeLateReport).filterMap minted := by decide +kernel
      exact List.mem_filterMap.mp minted
    · have answer : (reportProviderPermit (authority.final beforeLateReport) 33 "a" "w" "i" (some 429) (.fin 60) 1000).1 =
          .ok () := by decide +kernel
      rw [(report_outcome (e := lateReport) rfl).1, show lateReport.now = 33 from rfl, answer]
      rfl
  have counted := (kept (beforeLateReport ++ [lateReport]) (by decide +kernel) beforeLateReport lateReport [] rfl latePermit
    (.fin 60) 1000 delivery).1 (by unfold First; decide +kernel)
  have egress := counted.egress "w" 0
  revert egress
  decide +kernel

end Creeper.ProviderReports
