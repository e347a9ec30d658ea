import Creeper.Transactions
import Creeper.EvidenceQueue
import Creeper.HostYearOrigins

/-!
# Committing provider results

The three results of a provider with the checks of their constructors, and
`EvidenceResultCommitter.commit`: the metric of the attempt, the proof with its provenance, the
cache of origins and the state of the task are written in transactions of their own. A commit
that returns finished the task, and one that raises leaves its row as it was.
-/

namespace Creeper.ResultCommit
open Creeper.Tables Creeper.PyNumbers Creeper.Transactions Creeper.EvidenceTasks Creeper.EvidenceStore
open Creeper.ReadinessLedger (RunKey)
open Creeper.HostYearOrigins (Origins TaskOrigins primaryOrigin runOf attributedKind)
open Creeper.EvidenceQueue (QueryResult finishEvidenceTask finishEvidenceTasks finishRangeTask ownedBy finishedRow)
open Creeper.FabricModels (PyError blank)

/-! ## Results -/

/-- What a result says of its cost, and its error. -/
structure Accounting where
  pagesSeen : Int
  recordsSeen : Int
  providerRequests : Int
  providerElapsedMilliseconds : Int
  error : Option String
  deriving DecidableEq

def Accounting.counts (a : Accounting) : List Int :=
  [a.pagesSeen, a.recordsSeen, a.providerRequests, a.providerElapsedMilliseconds]

/-- `_validate_result_accounting`. -/
def Accounting.problem (a : Accounting) : Option String :=
  if a.counts.any (· < 0) then some "provider result accounting must use non-negative integers" else none

def inScope (key : EvidenceQueryKey) (year : Int) : Bool := key.yearFrom ≤ year && year ≤ key.yearTo

/-- The fields of an `EvidenceQueryResult`, its hostname stripped and in lower case. -/
structure ExactFields extends Accounting where
  hostname : String
  year : Int
  state : QueryState
  capsule : Option EvidenceCapsule
  key : Option EvidenceQueryKey

def ExactFields.keyProblem (r : ExactFields) (key : EvidenceQueryKey) : Option String :=
  if key.hostname ≠ r.hostname then some "evidence result hostname must match query key"
  else if !inScope key r.year then some "evidence result year must be inside query scope"
  else none

def ExactFields.capsuleProblem (r : ExactFields) (capsule : EvidenceCapsule) : Option String :=
  if capsule.hostname ≠ r.hostname || capsule.year ≠ r.year then some "evidence capsule identity must match result"
  else if r.key.any (fun key => capsule.provider ≠ key.provider || capsule.policyVersion ≠ key.policyVersion) then
    some "evidence capsule authority must match query key"
  else none

/-- What the checks of `__post_init__` find. -/
def ExactFields.postInit (r : ExactFields) : Option String :=
  if !officialHost r.hostname then some "invalid evidence result hostname"
  else if !(1996 ≤ r.year && r.year ≤ 2001) then some "evidence result year must be an integer within 1996-2001"
  else r.problem.or ((r.key.bind r.keyProblem).or (r.capsule.bind r.capsuleProblem))

structure EvidenceQueryResult extends ExactFields where
  valid : toExactFields.postInit = none

/-- The fields of a `DomainEvidenceQueryResult`, its domain stripped and in lower case. -/
structure DomainFields extends Accounting where
  domain : String
  key : EvidenceQueryKey
  state : QueryState
  capsules : List EvidenceCapsule

/-- The first capsule of a domain result that is refused, after the host-years that were seen. -/
def domainCapsuleProblem (key : EvidenceQueryKey) : List HostYear → List EvidenceCapsule → Option String
  | _, [] => none
  | seen, capsule :: rest =>
    if capsule.provider ≠ key.provider then some "domain capsule provider must match query provider"
    else if capsule.policyVersion ≠ key.policyVersion then some "domain capsule policy must match query policy"
    else if !inScope key capsule.year then some "domain capsule year must be inside query scope"
    else if seen.contains capsule.pair then some "domain result keeps at most one capsule per host-year"
    else domainCapsuleProblem key (capsule.pair :: seen) rest

/-- What the checks of `__post_init__` find. -/
def DomainFields.postInit (r : DomainFields) : Option String :=
  if !officialHost r.domain || r.domain ≠ r.key.hostname then some "domain result must match normalized query hostname"
  else r.problem.or <|
    if r.key.yearFrom = r.key.yearTo then some "domain amplification requires a multi-year scope"
    else if r.state ≠ .decomposed && r.state ≠ .transientError && r.state ≠ .invalid then
      some "domain amplification uses decomposed/retry/error states only"
    else domainCapsuleProblem r.key [] r.capsules

structure DomainEvidenceQueryResult extends DomainFields where
  valid : toDomainFields.postInit = none

/-- The fields of a `RangeEvidenceQueryResult`, its hostname stripped and in lower case. -/
structure RangeFields extends Accounting where
  hostname : String
  key : EvidenceQueryKey
  state : QueryState
  candidateYears : List Int
  followupYears : List Int
  capsules : List EvidenceCapsule

def yearsProblem (key : EvidenceQueryKey) (label : String) (years : List Int) : Option String :=
  if years.any (fun year => !inScope key year) then
    some ("range " ++ label ++ " years must be integer years inside the query scope")
  else if years.eraseDups.length ≠ years.length then some ("range " ++ label ++ " years must be unique")
  else none

/-- The first capsule of a range result that is refused, after the years that were seen. -/
def rangeCapsuleProblem (key : EvidenceQueryKey) : List Int → List EvidenceCapsule → Option String
  | _, [] => none
  | seen, capsule :: rest =>
    if capsule.hostname ≠ key.hostname then some "range capsule hostname must match query hostname"
    else if capsule.provider ≠ key.provider then some "range capsule provider must match query provider"
    else if capsule.policyVersion ≠ key.policyVersion then some "range capsule policy must match query policy"
    else if !inScope key capsule.year then some "range capsule year must be inside the query scope"
    else if seen.contains capsule.year then some "range result keeps at most one capsule per year"
    else rangeCapsuleProblem key (capsule.year :: seen) rest

/-- What the checks of `__post_init__` find. -/
def RangeFields.postInit (r : RangeFields) : Option String :=
  if !officialHost r.hostname || r.key.hostname ≠ r.hostname then some "range result hostname must match query key"
  else r.problem.or <|
    if r.key.yearFrom = r.key.yearTo then some "range result requires a multi-year temporal scope"
    else ((yearsProblem r.key "candidate" r.candidateYears).or (yearsProblem r.key "follow-up" r.followupYears)).or <|
      if r.candidateYears.any r.followupYears.contains then some "range positive and follow-up years must be disjoint"
      else rangeCapsuleProblem r.key [] r.capsules

structure RangeEvidenceQueryResult extends RangeFields where
  valid : toRangeFields.postInit = none

inductive ProviderResult
  | exact (r : EvidenceQueryResult)
  | range (r : RangeEvidenceQueryResult)
  | domain (r : DomainEvidenceQueryResult)

namespace ProviderResult

def key : ProviderResult → Option EvidenceQueryKey
  | exact r => r.key
  | range r => some r.key
  | domain r => some r.key

def state : ProviderResult → QueryState
  | exact r => r.state
  | range r => r.state
  | domain r => r.state

def accounting : ProviderResult → Accounting
  | exact r => r.toAccounting
  | range r => r.toAccounting
  | domain r => r.toAccounting

def capsules : ProviderResult → List EvidenceCapsule
  | exact r => r.capsule.toList
  | range r => r.capsules
  | domain r => r.capsules

end ProviderResult

/-! ## Stores -/

/-- A row of `evidence_task_attempt_metrics`. -/
structure MetricRow where
  key : EvidenceQueryKey
  attempt : Nat
  state : QueryState
  taskKind : ActionKind
  providerRequests : Int
  providerElapsedMilliseconds : Int
  pagesSeen : Int
  recordsSeen : Int
  recordedAt : ℚ≥0
  deriving DecidableEq

/-- The columns of `evidence_action_cost_stats` that no claim reads. -/
structure EffortRow where
  taskKind : String
  providerElapsedMilliseconds : Int
  pagesSeen : Int
  recordsSeen : Int
  deriving DecidableEq

/-- The control database, the evidence database and the clock. -/
structure Databases where
  clock : ℚ≥0
  queue : EvidenceTasks.Store
  metrics : Table MetricRow (EvidenceQueryKey × Nat) (fun r => (r.key, r.attempt))
  efforts : Table EffortRow String (·.taskKind)
  taskOrigins : TaskOrigins
  /-- The reservoirs and leases that there are. -/
  known : RunKey → Bool
  referenced : ∀ row ∈ taskOrigins.rows, known (runOf row)
  origins : Origins
  evidence : EvidenceStore.Store

abbrev CommitCall := Call Databases PyError

/-- A call on the tasks, at a reading of the clock. -/
def onQueue {α : Type} (f : PyFloat → EvidenceTasks.Store → EvidenceTasks.Answer α) : CommitCall α :=
  .atomic fun d => ((f (.fin d.clock) d.queue).1, { d with queue := (f (.fin d.clock) d.queue).2 })

/-! ## The metric of an attempt -/

/-- A count that SQLite cannot take. -/
def oversized (a : Accounting) : Bool := a.counts.any tooLarge

def metricRow (key : EvidenceQueryKey) (attempt : Nat) (state : QueryState) (a : Accounting) (now : ℚ≥0) : MetricRow where
  key := key
  attempt := attempt
  state := state
  taskKind := classifyEvidenceAction key
  providerRequests := a.providerRequests
  providerElapsedMilliseconds := a.providerElapsedMilliseconds
  pagesSeen := a.pagesSeen
  recordsSeen := a.recordsSeen
  recordedAt := now

/-- The upsert of `evidence_action_cost_stats`, in both parts of the row. -/
def Databases.spend (d : Databases) (kind : String) (a : Accounting) : Databases := { d with
  queue := { d.queue with
    costs := d.queue.costs.upsert ⟨kind, 1, a.providerRequests.toNat⟩ fun row =>
      { row with attempts := row.attempts + 1, providerRequests := row.providerRequests + a.providerRequests.toNat } }
  efforts := d.efforts.upsert ⟨kind, a.providerElapsedMilliseconds, a.pagesSeen, a.recordsSeen⟩ fun row =>
    { row with
      providerElapsedMilliseconds := row.providerElapsedMilliseconds + a.providerElapsedMilliseconds
      pagesSeen := row.pagesSeen + a.pagesSeen
      recordsSeen := row.recordsSeen + a.recordsSeen } }

/-- `record_evidence_task_attempt_metric`. -/
def recordEvidenceTaskAttemptMetric (key : EvidenceQueryKey) (attempt : Nat) (state : QueryState) (a : Accounting) :
    CommitCall Bool :=
  .atomic fun d =>
    if attempt < 1 then (.error (.valueError "attempt must be positive"), d)
    else if a.counts.any (· < 0) then (.error (.valueError "attempt metrics must be non-negative"), d)
    else if oversized a then (.error .overflowError, d)
    else if (d.metrics.get? (key, attempt)).isSome then (.ok false, d)
    else if (d.queue.tasks.get? key).isNone then (.error .integrityError, d)
    else (.ok true, { d with metrics := d.metrics.insert (metricRow key attempt state a d.clock) }.spend
      (classifyEvidenceAction key).value a)

/-! ## Proof and origins -/

/-- `primary_evidence_task_origin`. -/
def primaryEvidenceTaskOrigin (key : EvidenceQueryKey) : CommitCall (Option RunKey) :=
  .atomic fun d => (.ok (primaryOrigin d.taskOrigins key), d)

/-- The provenance that a commit gives to its capsules. -/
def provenanceOf (key : EvidenceQueryKey) (origin : Option RunKey) (now : ℚ≥0) : EvidenceTaskProvenance where
  key := key
  sourceKey := (origin.map (fun run => (ofLex run).1)).getD ""
  reservoirId := (origin.map (fun run => (ofLex (ofLex run).2).1)).getD ""
  leaseId := (origin.map (fun run => (ofLex (ofLex run).2).2)).getD ""
  committedAt := now
  taskKind := ""
  valid := ⟨now.2, by simp⟩

/-- `put_many_with_task_provenance`; an ignored host-year may use up a number. -/
def putManyWithTaskProvenance (burns : Bool) (key : EvidenceQueryKey) (origin : Option RunKey) (capsules : List EvidenceCapsule) :
    CommitCall Nat :=
  .atomic fun d =>
    let answer := EvidenceStore.putManyWithTaskProvenance burns d.evidence
      (capsules.map (·, provenanceOf key origin d.clock)) none
    (answer.1, { d with evidence := answer.2 })

/-- The two transactions that credit host-years of a task, with the read between them. -/
def attribute_ (key : EvidenceQueryKey) (pairs : List HostYear) (kind : String) : CommitCall Unit := do
  Call.atomic fun d => (.ok (), { d with origins := d.origins.touch pairs kind })
  match ← primaryEvidenceTaskOrigin key with
  | none => pure ()
  | some run =>
    Call.atomic fun d =>
      let answer := d.origins.originate d.known pairs run false d.clock
      (answer.1.map fun _ => (), { d with origins := answer.2 })

/-- `attribute_task_host_years`. -/
def attributeTaskHostYears (key : EvidenceQueryKey) (years : List Int) : CommitCall Unit :=
  if years = [] then pure ()
  else if years.any (fun year => !inScope key year) then
    throw (.valueError "attributed year falls outside evidence task scope")
  else attribute_ key (years.map fun year => toLex (key.hostname, year)) (attributedKind key)

/-- `attribute_domain_task_host_years`. -/
def attributeDomainTaskHostYears (key : EvidenceQueryKey) (capsules : List EvidenceCapsule) : CommitCall Unit :=
  if capsules = [] then pure () else attribute_ key (capsules.map (·.pair)) "domain"

/-! ## The committer -/

structure EvidenceCommitOutcome where
  terminal : Nat
  retryable : Nat
  insertedCapsules : Nat
  deriving DecidableEq

/-- The arguments of `EvidenceResultCommitter`: its owner and the deadline of a retry, from the
    clock and the attempt. -/
structure Committer where
  owner : String
  retryAt : ℚ≥0 → Nat → Except PyError PyFloat
  burns : Bool
  named : blank owner = false

namespace Committer
variable (c : Committer)

/-- `retry_at`. -/
def deadline (attempt : Nat) : CommitCall PyFloat := .atomic fun d => (c.retryAt d.clock attempt, d)

/-- `_persist_positive_capsules`. -/
def persistPositiveCapsules (key : EvidenceQueryKey) (capsules : List EvidenceCapsule) (domain : Bool) : CommitCall Nat :=
  if capsules = [] then pure 0
  else do
    let origin ← primaryEvidenceTaskOrigin key
    let inserted ← putManyWithTaskProvenance c.burns key origin capsules
    if domain then attributeDomainTaskHostYears key capsules
    else attributeTaskHostYears key (capsules.map (·.year))
    return inserted

/-- The finish of a result that is tried again. -/
def retry (task : EvidenceTask) (key : EvidenceQueryKey) (state : QueryState) : CommitCall Nat := do
  let retryAt ← c.deadline task.attempt
  onQueue fun clock queue => finishEvidenceTask queue clock key state (some c.owner) (some retryAt)

/-- The proof of the one capsule that a `CommitWriter` holds. -/
def prove (key : EvidenceQueryKey) : Option EvidenceCapsule → CommitCall Nat
  | none => pure 0
  | some capsule => do
    let origin ← primaryEvidenceTaskOrigin key
    let inserted ← putManyWithTaskProvenance c.burns key origin [capsule]
    attributeTaskHostYears key [capsule.year]
    return inserted

/-- `CommitWriter.flush` on the one result of a task. -/
def flush (key : EvidenceQueryKey) (result : EvidenceQueryResult) : CommitCall Nat := do
  let inserted ← c.prove key result.capsule
  let _finished ← onQueue fun clock queue => finishEvidenceTasks queue clock [⟨some key, result.state⟩] c.owner
  return inserted

/-- `submit`, and `close` on every way out: what `submit` could not flush is flushed again. -/
def submitAndClose (key : EvidenceQueryKey) (result : EvidenceQueryResult) : CommitCall Nat :=
  tryCatch (c.flush key result) fun err => do
    let _again ← c.flush key result
    throw err

def commitDomain (task : EvidenceTask) (r : DomainEvidenceQueryResult) : CommitCall EvidenceCommitOutcome := do
  let inserted ← c.persistPositiveCapsules r.key r.capsules true
  if r.state = .decomposed ∨ r.state = .invalid then
    let _created ← onQueue fun clock queue => finishRangeTask queue clock r.key r.state [] c.owner
    return ⟨1, 0, inserted⟩
  else if r.state = .transientError then
    let _finished ← c.retry task r.key r.state
    return ⟨0, 1, inserted⟩
  else throw (.valueError "unsupported domain provider state")

def commitRange (task : EvidenceTask) (r : RangeEvidenceQueryResult) : CommitCall EvidenceCommitOutcome := do
  let inserted ← c.persistPositiveCapsules r.key r.capsules false
  if r.state = .pass ∨ r.state = .emptyExhaustive ∨ r.state = .invalid then
    let _created ← onQueue fun clock queue => finishRangeTask queue clock r.key r.state [] c.owner
    return ⟨1, 0, inserted⟩
  else if r.state = .decomposed ∨ r.state = .incomplete ∨ r.state = .transientError then
    let _finished ← c.retry task r.key (if r.state = .decomposed then .incomplete else r.state)
    return ⟨0, 1, inserted⟩
  else throw (.valueError "unsupported provider state")

def commitExact (task : EvidenceTask) (key : EvidenceQueryKey) (r : EvidenceQueryResult) : CommitCall EvidenceCommitOutcome := do
  if r.state = .pass ∨ r.state = .emptyExhaustive ∨ r.state = .invalid then
    let inserted ← c.submitAndClose key r
    return ⟨1, 0, inserted⟩
  else if r.state = .incomplete ∨ r.state = .transientError then
    let _finished ← c.retry task key r.state
    return ⟨0, 1, 0⟩
  else throw (.valueError "unsupported provider state")

/-- `EvidenceResultCommitter.commit`. -/
def commit (task : EvidenceTask) (result : ProviderResult) : CommitCall EvidenceCommitOutcome :=
  match result.key with
  | none => throw (.valueError "provider result must preserve EvidenceQueryKey")
  | some key =>
    if key ≠ task.key then throw (.valueError "provider result key does not match claimed task")
    else do
      let _recorded ← recordEvidenceTaskAttemptMetric key task.attempt result.state result.accounting
      match result with
      | .domain r => c.commitDomain task r
      | .range r => c.commitRange task r
      | .exact r => c.commitExact task key r

end Committer

/-! ## What a transaction keeps -/

/-- The tasks, the clock and the origins of tasks are as before. -/
structure Keeps (d d' : Databases) : Prop where
  clock : d'.clock = d.clock
  tasks : d'.queue.tasks = d.queue.tasks
  taskOrigins : d'.taskOrigins = d.taskOrigins
  known : d'.known = d.known

theorem Keeps.refl (d : Databases) : Keeps d d := ⟨rfl, rfl, rfl, rfl⟩

theorem Keeps.trans {d d' d'' : Databases} (first : Keeps d d') (second : Keeps d' d'') : Keeps d d'' :=
  ⟨second.clock.trans first.clock, second.tasks.trans first.tasks, second.taskOrigins.trans first.taskOrigins,
    second.known.trans first.known⟩

/-- The columns of a provenance row that name its task. -/
def ofTask (key : EvidenceQueryKey) (p : ProvenanceKey) : Bool :=
  p.taskHostname = key.hostname && p.taskYearFrom = key.yearFrom && p.taskYearTo = key.yearTo &&
    p.taskProvider = key.provider && p.taskPolicyVersion = key.policyVersion

/-- The capsule is in the evidence store, with a provenance row of the task. -/
def Proven (s : EvidenceStore.Store) (key : EvidenceQueryKey) (capsule : EvidenceCapsule) : Prop :=
  (∃ row ∈ s.capsules.rows, row.key = capsule.key) ∧ ∃ p ∈ s.provenance.rows, p.key.capsule = capsule.key ∧ ofTask key p.key

/-- What a capsule of a result shares with the key of its task. -/
structure Fits (key : EvidenceQueryKey) (capsule : EvidenceCapsule) : Prop where
  provider : capsule.provider = key.provider
  policy : capsule.policyVersion = key.policyVersion
  year : inScope key capsule.year

/-- The store takes the capsule for the task: only a domain task proves other hostnames. -/
def placed (key : EvidenceQueryKey) (capsule : EvidenceCapsule) : Bool :=
  taskKind key = "domain" || capsule.hostname = key.hostname

section
variable {key : EvidenceQueryKey} {capsule : EvidenceCapsule} {capsules : List EvidenceCapsule} {origin : Option RunKey}

theorem kind_provenanceOf (now : ℚ≥0) : (provenanceOf key origin now).kind = taskKind key := by
  simp [EvidenceTaskProvenance.kind, provenanceOf, orElse]

theorem taskKind_ne_platformYear (key : EvidenceQueryKey) : taskKind key ≠ "platform_year" := by
  unfold taskKind
  split_ifs <;> decide

theorem itemProblem_eq (now : ℚ≥0) (fits : Fits key capsule) :
    itemProblem (capsule, provenanceOf key origin now) =
      if placed key capsule then none else some (.valueError "non-domain capsule hostname must match evidence task") := by
  have host : officialHost capsule.hostname := by
    cases official : officialHost capsule.hostname with
    | true => rfl
    | false =>
      have valid := capsule.valid
      simp [CapsuleFields.postInit, official] at valid
  have inside := fits.year
  simp only [inScope] at inside
  have notYear := taskKind_ne_platformYear key
  have provider : (provenanceOf key origin now).key = key := rfl
  unfold itemProblem
  simp only [host, provider, fits.provider, fits.policy, inside, notYear, kind_provenanceOf, placed]
  by_cases domain : taskKind key = "domain" <;> by_cases same : capsule.hostname = key.hostname <;> simp [domain, same]

/-- All capsules are placed, or the store refuses the first that is not. -/
theorem itemProblems_eq (now : ℚ≥0) (fit : ∀ capsule ∈ capsules, Fits key capsule) :
    (capsules.map (·, provenanceOf key origin now)).findSome? itemProblem =
      if capsules.all (placed key) then none
      else some (.valueError "non-domain capsule hostname must match evidence task") := by
  induction capsules with
  | nil => rfl
  | cons capsule rest ih =>
    have later := ih fun c inside => fit c (List.mem_cons_of_mem _ inside)
    rw [List.map_cons, List.findSome?_cons, itemProblem_eq now (fit capsule List.mem_cons_self), later]
    by_cases here : placed key capsule <;> simp [here]

theorem written_proven (burns : Bool) (s : EvidenceStore.Store) (now : ℚ≥0) (member : capsule ∈ capsules) :
    Proven (s.written burns (capsules.map (·.toCapsuleFields)) ((capsules.map (·, provenanceOf key origin now)).map provenanceRow))
      key capsule := by
  refine ⟨foldl_insert_key s.capsules (List.mem_map_of_mem member), ?_⟩
  obtain ⟨row, stored, same⟩ := foldl_insert_key s.provenance (List.mem_map_of_mem (f := provenanceRow)
    (List.mem_map_of_mem (f := (·, provenanceOf key origin now)) member))
  refine ⟨row, stored, ?_⟩
  rw [same]
  exact ⟨rfl, by simp [ofTask, provenanceRow, provenanceOf]⟩

end

/-! ## The parts of a commit -/

section
variable (d : Databases)

@[simp] theorem perform_onQueue {α : Type} (f : PyFloat → EvidenceTasks.Store → EvidenceTasks.Answer α) :
    (onQueue f).perform d = ((f (.fin d.clock) d.queue).1, { d with queue := (f (.fin d.clock) d.queue).2 }) := rfl

@[simp] theorem perform_primaryOrigin (key : EvidenceQueryKey) :
    (primaryEvidenceTaskOrigin key).perform d = (.ok (primaryOrigin d.taskOrigins key), d) := rfl

/-- The metric of an attempt can be written. -/
def Records (key : EvidenceQueryKey) (attempt : Nat) (a : Accounting) : Prop :=
  1 ≤ attempt ∧ oversized a = false ∧ ((d.metrics.get? (key, attempt)).isSome ∨ (d.queue.tasks.get? key).isSome)

theorem record_cases (key : EvidenceQueryKey) (attempt : Nat) (state : QueryState) (a : Accounting) (counted : a.problem = none) :
    (Records d key attempt a ∧ ∃ n d', (recordEvidenceTaskAttemptMetric key attempt state a).perform d = (.ok n, d') ∧
        Keeps d d' ∧ d'.evidence = d.evidence ∧ d'.origins = d.origins) ∨
      (¬Records d key attempt a ∧ ∃ err, (recordEvidenceTaskAttemptMetric key attempt state a).perform d = (.error err, d)) := by
  have whole : ¬a.counts.any (· < 0) := by
    intro below
    simp [Accounting.problem, below] at counted
  unfold recordEvidenceTaskAttemptMetric Records
  rw [Call.perform_atomic]
  by_cases first : attempt < 1
  · exact .inr ⟨by omega, _, by rw [if_pos first]⟩
  by_cases large : oversized a
  · exact .inr ⟨by simp [large], _, by rw [if_neg first, if_neg whole, if_pos large]⟩
  by_cases again : (d.metrics.get? (key, attempt)).isSome
  · exact .inl ⟨⟨by omega, by simpa using large, .inl again⟩, _, d,
      by rw [if_neg first, if_neg whole, if_neg large, if_pos again], .refl d, rfl, rfl⟩
  by_cases missing : (d.queue.tasks.get? key).isNone
  · exact .inr ⟨by simp_all, _, by rw [if_neg first, if_neg whole, if_neg large, if_neg again, if_pos missing]⟩
  have stored : (d.queue.tasks.get? key).isSome := by simpa [Option.isSome_iff_ne_none] using missing
  rw [if_neg first, if_neg whole, if_neg large, if_neg again, if_neg missing]
  exact .inl ⟨⟨by omega, by simpa using large, .inr stored⟩, _, _, rfl, ⟨rfl, rfl, rfl, rfl⟩, rfl, rfl⟩

theorem primary_known {key : EvidenceQueryKey} {run : RunKey} (first : primaryOrigin d.taskOrigins key = some run) :
    d.known run := by
  obtain ⟨row, head, rfl⟩ := Option.map_eq_some_iff.mp first
  have member := List.mem_of_mem_head? head
  rw [List.mem_insertionSort] at member
  exact d.referenced row (List.mem_of_mem_filter member)

/-- Crediting host-years of a task never fails: its origins name reservoirs and leases that exist. -/
theorem attribute_returns (key : EvidenceQueryKey) (pairs : List HostYear) (kind : String) :
    ∃ d', (attribute_ key pairs kind).perform d = (.ok (), d') ∧ Keeps d d' ∧ d'.evidence = d.evidence ∧
      d'.metrics = d.metrics := by
  unfold attribute_
  rw [Call.perform_bind, Call.perform_atomic]
  dsimp only
  rw [Call.perform_bind, perform_primaryOrigin]
  cases first : primaryOrigin d.taskOrigins key with
  | none => exact ⟨_, rfl, ⟨rfl, rfl, rfl, rfl⟩, rfl, rfl⟩
  | some run =>
    have known := primary_known d first
    dsimp only
    rw [Call.perform_atomic]
    have originates : ∃ n o, (d.origins.touch pairs kind).originate d.known pairs run false d.clock = (.ok n, o) := by
      unfold Origins.originate
      simp [known]
    obtain ⟨n, o, same⟩ := originates
    simp only [same]
    exact ⟨_, rfl, ⟨rfl, rfl, rfl, rfl⟩, rfl, rfl⟩

end

/-! ## Proof -/

section
variable (d : Databases) {key : EvidenceQueryKey} {capsules : List EvidenceCapsule}

theorem put_placed (burns : Bool) (origin : Option RunKey) (fit : ∀ capsule ∈ capsules, Fits key capsule) (some_ : capsules ≠ [])
    (all : capsules.all (placed key)) :
    ∃ n d', (putManyWithTaskProvenance burns key origin capsules).perform d = (.ok n, d') ∧ Keeps d d' ∧
      d'.metrics = d.metrics ∧ ∀ capsule ∈ capsules, Proven d'.evidence key capsule := by
  unfold putManyWithTaskProvenance
  rw [Call.perform_atomic]
  unfold EvidenceStore.putManyWithTaskProvenance
  rw [itemProblems_eq d.clock fit, if_pos all]
  have items : capsules.map (·, provenanceOf key origin d.clock) ≠ [] := by simpa using some_
  dsimp only
  rw [if_neg items]
  unfold EvidenceStore.commit
  have fields : (capsules.map (·, provenanceOf key origin d.clock)).map (·.1.toCapsuleFields) = capsules.map (·.toCapsuleFields) := by
    rw [List.map_map]
    rfl
  rw [fields]
  exact ⟨_, _, rfl, ⟨rfl, rfl, rfl, rfl⟩, rfl, fun capsule member => written_proven burns d.evidence d.clock member⟩

theorem put_misplaced (burns : Bool) (origin : Option RunKey) (fit : ∀ capsule ∈ capsules, Fits key capsule)
    (one : ¬capsules.all (placed key)) :
    ∃ err, (putManyWithTaskProvenance burns key origin capsules).perform d = (.error err, d) := by
  unfold putManyWithTaskProvenance
  rw [Call.perform_atomic]
  unfold EvidenceStore.putManyWithTaskProvenance
  rw [itemProblems_eq d.clock fit, if_neg one]
  exact ⟨_, rfl⟩

theorem attributeTask_returns {years : List Int} (inside : ∀ year ∈ years, inScope key year) :
    ∃ d', (attributeTaskHostYears key years).perform d = (.ok (), d') ∧ Keeps d d' ∧ d'.evidence = d.evidence ∧
      d'.metrics = d.metrics := by
  unfold attributeTaskHostYears
  split
  · exact ⟨d, rfl, .refl d, rfl, rfl⟩
  · have none_ : ¬years.any fun year => !inScope key year := by simpa using inside
    rw [if_neg none_]
    exact attribute_returns d key _ _

theorem attributeDomain_returns (key : EvidenceQueryKey) (capsules : List EvidenceCapsule) :
    ∃ d', (attributeDomainTaskHostYears key capsules).perform d = (.ok (), d') ∧ Keeps d d' ∧ d'.evidence = d.evidence ∧
      d'.metrics = d.metrics := by
  unfold attributeDomainTaskHostYears
  split
  · exact ⟨d, rfl, .refl d, rfl, rfl⟩
  · exact attribute_returns d key _ _

theorem persist_placed (c : Committer) (domain : Bool) (fit : ∀ capsule ∈ capsules, Fits key capsule)
    (all : capsules.all (placed key)) :
    ∃ n d', (c.persistPositiveCapsules key capsules domain).perform d = (.ok n, d') ∧ Keeps d d' ∧ d'.metrics = d.metrics ∧
      ∀ capsule ∈ capsules, Proven d'.evidence key capsule := by
  unfold Committer.persistPositiveCapsules
  split
  · rename_i none_
    subst none_
    exact ⟨0, d, rfl, .refl d, rfl, nofun⟩
  · rename_i some_
    obtain ⟨n, d₁, put, keeps, metrics, proven⟩ := put_placed d c.burns (primaryOrigin d.taskOrigins key) fit some_ all
    rw [Call.perform_bind_ok (perform_primaryOrigin d key), Call.perform_bind_ok put]
    cases domain with
    | true =>
      obtain ⟨d₂, credits, keeps', evidence, metrics'⟩ := attributeDomain_returns d₁ key capsules
      rw [if_pos rfl, Call.perform_bind_ok credits]
      exact ⟨n, d₂, rfl, keeps.trans keeps', metrics'.trans metrics, fun capsule member => by rw [evidence]; exact proven capsule member⟩
    | false =>
      have inside : ∀ year ∈ capsules.map (·.year), inScope key year := by
        intro year member
        obtain ⟨capsule, isOne, rfl⟩ := List.mem_map.mp member
        exact (fit capsule isOne).year
      obtain ⟨d₂, credits, keeps', evidence, metrics'⟩ := attributeTask_returns d₁ inside
      rw [if_neg Bool.false_ne_true, Call.perform_bind_ok credits]
      exact ⟨n, d₂, rfl, keeps.trans keeps', metrics'.trans metrics, fun capsule member => by rw [evidence]; exact proven capsule member⟩

theorem persist_misplaced (c : Committer) (domain : Bool) (fit : ∀ capsule ∈ capsules, Fits key capsule)
    (one : ¬capsules.all (placed key)) :
    ∃ err, (c.persistPositiveCapsules key capsules domain).perform d = (.error err, d) := by
  have some_ : capsules ≠ [] := by
    rintro rfl
    exact one rfl
  obtain ⟨err, refused⟩ := put_misplaced d c.burns (primaryOrigin d.taskOrigins key) fit one
  unfold Committer.persistPositiveCapsules
  rw [if_neg some_, Call.perform_bind_ok (perform_primaryOrigin d key), Call.perform_bind_error refused]
  exact ⟨err, rfl⟩

end

/-! ## The state of the task -/

/-- The owner has an unexpired lease on the task. -/
def live (d : Databases) (owner : String) (key : EvidenceQueryKey) : Bool := (d.queue.tasks.get? key).any (ownedBy owner d.clock)

/-- The databases after the caller's task was finished. -/
def Databases.finished (d : Databases) (owner : String) (key : EvidenceQueryKey) (state : QueryState) (retryAt : Option ℚ) : Databases :=
  { d with queue := { d.queue with
    tasks := d.queue.tasks.update (fun r => r.key = key && ownedBy owner d.clock r) (finishedRow state retryAt) } }

theorem get?_finished {tasks : Table TaskRow EvidenceQueryKey (·.key)} {key : EvidenceQueryKey} {row : TaskRow}
    (found : tasks.get? key = some row) (owner : String) (now : ℚ) (state : QueryState) (t : Option ℚ) :
    (tasks.update (fun r => r.key = key && ownedBy owner now r) (finishedRow state t)).get? key =
      some (if ownedBy owner now row then finishedRow state t row else row) := by
  rw [Table.get?_update, found, Option.map_some, Table.get?_key found]
  simp

section
variable (d : Databases) (c : Committer) (key : EvidenceQueryKey) {state : QueryState}

theorem owner_ne : c.owner ≠ "" := by
  intro same
  have named := c.named
  rw [same] at named
  exact absurd named (by decide)

theorem reads (now : ℚ≥0) : finiteReading (.fin now) = some (now : ℚ) := by
  simp [finiteReading]

theorem finishResults_eq (stored : (terminalStates ++ retryableStates).contains state) (retryAt : Option PyFloat)
    (sound : retryAt.all fun t => (finiteReading t).isSome) :
    ∃ err, (onQueue fun clock queue => EvidenceQueue.finishEvidenceResults queue clock [⟨some key, state⟩] (some c.owner) retryAt).perform d =
      if live d c.owner key then (.ok 1, d.finished c.owner key state (retryAt.bind finiteReading)) else (.error err, d) := by
  have sound' : ¬retryAt.any fun t => (finiteReading t).isNone := by
    cases retryAt with
    | none => simp
    | some t => simpa [Option.isSome_iff_ne_none] using sound
  have named : ¬blank c.owner := by simp [c.named]
  have problem : EvidenceQueue.resultProblem [] [(key, state)] = none := by
    unfold EvidenceQueue.resultProblem
    rw [if_neg (by simp), if_neg (by simpa [or_iff_not_imp_left] using stored)]
    rfl
  have keyed : EvidenceQueue.keyed [⟨some key, state⟩] = [(key, state)] := rfl
  refine ⟨.keyError "evidence task not found or not owned by caller", ?_⟩
  rw [perform_onQueue]
  unfold EvidenceQueue.finishEvidenceResults
  rw [keyed, if_neg (by simp), if_neg sound']
  simp only [if_neg named, reads, problem]
  unfold EvidenceQueue.finishRows live
  by_cases owned : (d.queue.tasks.get? key).any (ownedBy c.owner d.clock)
  · simp only [List.all_cons, List.all_nil, owned, Bool.and_self, Bool.not_true, Bool.false_eq_true, if_false, if_true]
    rfl
  · simp only [List.all_cons, List.all_nil, owned, Bool.and_true, Bool.not_false, if_true, if_false, Bool.false_eq_true]

theorem finishRange_eq (wide : key.yearFrom ≠ key.yearTo) (terminal : terminalStates.contains state) :
    ∃ err, (onQueue fun clock queue => finishRangeTask queue clock key state [] c.owner).perform d =
      if live d c.owner key then (.ok 0, d.finished c.owner key state none) else (.error err, d) := by
  have named : ¬blank c.owner := by simp [c.named]
  refine ⟨.keyError "range task not found or not owned by caller", ?_⟩
  rw [perform_onQueue]
  unfold finishRangeTask
  rw [if_neg (owner_ne c), if_neg wide, if_neg (by simpa using terminal)]
  simp only [EvidenceQueue.followupProblem, List.findSome?_nil, if_neg named, reads]
  unfold live
  by_cases owned : (d.queue.tasks.get? key).any (ownedBy c.owner d.clock)
  · simp only [owned, Bool.not_true, Bool.false_eq_true, if_false, if_true]
    simp only [EvidenceQueue.insertedCount, EvidenceQueue.insertTasks, List.foldl_nil, Nat.sub_self]
    rfl
  · simp only [owned, Bool.not_false, if_true, if_false, Bool.false_eq_true]

/-- The deadline of a retry can be stored. -/
def dated (attempt : Nat) : Bool :=
  match c.retryAt d.clock attempt with
  | .ok t => (finiteReading t).isSome
  | .error _ => false

theorem retry_cases (task : EvidenceTask) (stored : (terminalStates ++ retryableStates).contains state) :
    (dated d c task.attempt = true ∧ live d c.owner key = true ∧ ∃ t, (c.retry task key state).perform d = (.ok 1, d.finished c.owner key state t)) ∨
      (¬(dated d c task.attempt = true ∧ live d c.owner key = true) ∧ ∃ err, (c.retry task key state).perform d = (.error err, d)) := by
  have asks : (c.deadline task.attempt).perform d = (c.retryAt d.clock task.attempt, d) := rfl
  unfold Committer.retry dated
  rw [Call.perform_bind, asks]
  cases deadline : c.retryAt d.clock task.attempt with
  | error err => exact .inr ⟨by simp, err, rfl⟩
  | ok t =>
    dsimp only
    cases finite : finiteReading t with
    | none =>
      refine .inr ⟨by simp, .valueError "evidence retry_at must be finite and non-negative", ?_⟩
      rw [perform_onQueue]
      unfold finishEvidenceTask EvidenceQueue.finishEvidenceResults
      have keyed : EvidenceQueue.keyed [⟨some key, state⟩] = [(key, state)] := rfl
      rw [keyed, if_neg (by simp), if_pos (by simp [finite])]
    | some reading =>
      obtain ⟨err, finishes⟩ := finishResults_eq d c key stored (some t) (by simp [finite])
      by_cases owned : live d c.owner key
      · rw [if_pos owned] at finishes
        exact .inl ⟨rfl, owned, _, finishes⟩
      · rw [if_neg owned] at finishes
        exact .inr ⟨by simp [owned], err, finishes⟩

end

/-! ## Valid results -/

theorem check_passes {bad : Prop} [Decidable bad] {message : String} {rest : Option String} :
    (if bad then some message else rest) = none ↔ ¬bad ∧ rest = none := by
  by_cases found : bad <;> simp [found]

theorem domainProblem_none {key : EvidenceQueryKey} {seen : List HostYear} {capsules : List EvidenceCapsule}
    (sound : domainCapsuleProblem key seen capsules = none) : ∀ capsule ∈ capsules, Fits key capsule := by
  induction capsules generalizing seen with
  | nil => exact nofun
  | cons first rest ih =>
    simp only [domainCapsuleProblem, check_passes, ne_eq, not_not] at sound
    obtain ⟨provider, policy, year, -, sound⟩ := sound
    intro capsule member
    rcases List.mem_cons.mp member with rfl | later
    · exact ⟨provider, policy, by simpa using year⟩
    · exact ih sound capsule later

theorem rangeProblem_none {key : EvidenceQueryKey} {seen : List Int} {capsules : List EvidenceCapsule}
    (sound : rangeCapsuleProblem key seen capsules = none) :
    ∀ capsule ∈ capsules, Fits key capsule ∧ capsule.hostname = key.hostname := by
  induction capsules generalizing seen with
  | nil => exact nofun
  | cons first rest ih =>
    simp only [rangeCapsuleProblem, check_passes, ne_eq, not_not] at sound
    obtain ⟨host, provider, policy, year, -, sound⟩ := sound
    intro capsule member
    rcases List.mem_cons.mp member with rfl | later
    · exact ⟨⟨provider, policy, by simpa using year⟩, host⟩
    · exact ih sound capsule later

theorem EvidenceQueryResult.checked (r : EvidenceQueryResult) :
    r.problem = none ∧ (∀ key, r.key = some key → key.hostname = r.hostname ∧ inScope key r.year) ∧
      ∀ capsule, r.capsule = some capsule → capsule.hostname = r.hostname ∧ capsule.year = r.year ∧
        ∀ key, r.key = some key → capsule.provider = key.provider ∧ capsule.policyVersion = key.policyVersion := by
  have valid := r.valid
  simp only [ExactFields.postInit, check_passes, Option.or_eq_none_iff, Option.bind_eq_none_iff] at valid
  obtain ⟨-, -, counts, asked, proof⟩ := valid
  refine ⟨counts, fun key named => ?_, fun capsule one => ?_⟩
  · have checked := asked key named
    simp only [ExactFields.keyProblem, check_passes, ne_eq, not_not] at checked
    exact ⟨checked.1, by simpa using checked.2.1⟩
  · have checked := proof capsule one
    simp only [ExactFields.capsuleProblem, check_passes, Bool.or_eq_true, decide_eq_true_eq, not_or, not_not, ne_eq] at checked
    obtain ⟨⟨host, year⟩, authority, -⟩ := checked
    refine ⟨host, year, fun key named => ?_⟩
    rw [named, Option.any_some] at authority
    simpa using authority

theorem RangeEvidenceQueryResult.checked (r : RangeEvidenceQueryResult) :
    r.problem = none ∧ r.key.yearFrom ≠ r.key.yearTo ∧
      ∀ capsule ∈ r.capsules, Fits r.key capsule ∧ capsule.hostname = r.key.hostname := by
  have valid := r.valid
  simp only [RangeFields.postInit, check_passes, Option.or_eq_none_iff] at valid
  obtain ⟨-, counts, wide, -, -, sound⟩ := valid
  exact ⟨counts, wide, rangeProblem_none sound⟩

theorem DomainEvidenceQueryResult.checked (r : DomainEvidenceQueryResult) :
    r.problem = none ∧ r.key.yearFrom ≠ r.key.yearTo ∧ (r.state = .decomposed ∨ r.state = .transientError ∨ r.state = .invalid) ∧
      ∀ capsule ∈ r.capsules, Fits r.key capsule := by
  have valid := r.valid
  simp only [DomainFields.postInit, check_passes, Option.or_eq_none_iff] at valid
  obtain ⟨-, counts, wide, states, sound⟩ := valid
  refine ⟨counts, wide, ?_, domainProblem_none sound⟩
  simp only [Bool.and_eq_true, decide_eq_true_eq, ne_eq] at states
  by_contra none_
  push Not at none_
  exact states ⟨⟨none_.1, none_.2.1⟩, none_.2.2⟩

namespace ProviderResult
variable {r : ProviderResult} {key : EvidenceQueryKey}

theorem counted (r : ProviderResult) : r.accounting.problem = none := by
  cases r with
  | exact r => exact r.checked.1
  | range r => exact r.checked.1
  | domain r => exact r.checked.1

/-- The capsules of a result fit its key. -/
theorem fits (named : r.key = some key) : ∀ capsule ∈ r.capsules, Fits key capsule := by
  cases r with
  | exact r =>
    intro capsule member
    obtain ⟨-, asked, proof⟩ := r.checked
    obtain ⟨-, year, authority⟩ := proof capsule (Option.mem_toList.mp member)
    obtain ⟨provider, policy⟩ := authority key named
    exact ⟨provider, policy, by rw [year]; exact (asked key named).2⟩
  | range r =>
    cases named
    exact fun capsule member => (r.checked.2.2 capsule member).1
  | domain r =>
    cases named
    exact r.checked.2.2.2

theorem own_host (named : r.key = some key) (notDomain : ∀ r', r ≠ .domain r') :
    ∀ capsule ∈ r.capsules, capsule.hostname = key.hostname := by
  intro capsule member
  cases r with
  | exact r =>
    obtain ⟨-, asked, proof⟩ := r.checked
    exact (proof capsule (Option.mem_toList.mp member)).1.trans (asked key named).1.symm
  | range r =>
    cases named
    exact (r.checked.2.2 capsule member).2
  | domain r => exact absurd rfl (notDomain r)

theorem own (named : r.key = some key) (notDomain : ∀ r', r ≠ .domain r') : r.capsules.all (placed key) := by
  refine List.all_eq_true.mpr fun capsule member => ?_
  simp [placed, own_host named notDomain capsule member]

end ProviderResult

/-! ## A whole commit -/

/-- The state that a result gives its task, and whether the task is tried again. -/
def ProviderResult.landing : ProviderResult → Option (QueryState × Bool)
  | domain r =>
    if r.state = .decomposed ∨ r.state = .invalid then some (r.state, false)
    else if r.state = .transientError then some (r.state, true)
    else none
  | range r =>
    if r.state = .pass ∨ r.state = .emptyExhaustive ∨ r.state = .invalid then some (r.state, false)
    else if r.state = .decomposed ∨ r.state = .incomplete ∨ r.state = .transientError then
      some (if r.state = .decomposed then .incomplete else r.state, true)
    else none
  | exact r =>
    if r.state = .pass ∨ r.state = .emptyExhaustive ∨ r.state = .invalid then some (r.state, false)
    else if r.state = .incomplete ∨ r.state = .transientError then some (r.state, true)
    else none

/-- What a commit of a result needs: counts that fit, capsules that the store takes, a state that
    the committer knows, a deadline for a retry and the lease. -/
structure Commits (c : Committer) (d : Databases) (task : EvidenceTask) (r : ProviderResult) : Prop where
  records : Records d task.key task.attempt r.accounting
  placed : r.capsules.all (placed task.key)
  lands : ∃ state again, r.landing = some (state, again) ∧ (again = true → dated d c task.attempt = true)
  live : live d c.owner task.key = true

/-- The task is finished, and nothing else happened to tasks. -/
structure Committed (c : Committer) (d d' : Databases) (key : EvidenceQueryKey) (state : QueryState) : Prop where
  clock : d'.clock = d.clock
  taskOrigins : d'.taskOrigins = d.taskOrigins
  known : d'.known = d.known
  tasks : ∃ t, d'.queue.tasks = d.queue.tasks.update (fun r => r.key = key && ownedBy c.owner d.clock r) (finishedRow state t)

section
variable {c : Committer} {d d' d'' : Databases} {key : EvidenceQueryKey} {state : QueryState}

theorem Keeps.live (keeps : Keeps d d') (owner : String) (key : EvidenceQueryKey) : live d' owner key = live d owner key := by
  unfold ResultCommit.live
  rw [keeps.tasks, keeps.clock]

theorem Keeps.dated (keeps : Keeps d d') (c : Committer) (attempt : Nat) : dated d' c attempt = dated d c attempt := by
  unfold ResultCommit.dated
  rw [keeps.clock]

theorem Keeps.committed (keeps : Keeps d d') (t : Option ℚ) : Committed c d (d'.finished c.owner key state t) key state :=
  ⟨keeps.clock, keeps.taskOrigins, keeps.known, t, by rw [← keeps.tasks, ← keeps.clock]; rfl⟩

theorem Keeps.trans_committed (keeps : Keeps d d') (committed : Committed c d' d'' key state) : Committed c d d'' key state := by
  obtain ⟨clock, taskOrigins, known, t, tasks⟩ := committed
  refine ⟨clock.trans keeps.clock, taskOrigins.trans keeps.taskOrigins, known.trans keeps.known, t, ?_⟩
  rw [tasks, keeps.tasks, keeps.clock]

end

/-- What a commit comes to: it finishes the task with all proof stored, or raises and leaves the tasks. -/
def Settles {α : Type} (c : Committer) (d : Databases) (key : EvidenceQueryKey) (state : QueryState) (capsules : List EvidenceCapsule)
    (accepted : Prop) (answer : Except PyError α × Databases) : Prop :=
  (accepted ∧ ∃ a d', answer = (.ok a, d') ∧ Committed c d d' key state ∧ ∀ capsule ∈ capsules, Proven d'.evidence key capsule) ∨
    (¬accepted ∧ ∃ err d', answer = (.error err, d') ∧ Keeps d d')

section
variable {c : Committer} {d : Databases} {key : EvidenceQueryKey} {state : QueryState} {capsules : List EvidenceCapsule}

theorem settles_after {α : Type} {d₁ : Databases} {accepted accepted' : Prop} (keeps : Keeps d d₁) (same : accepted ↔ accepted')
    {answer : Except PyError α × Databases} (settles : Settles c d₁ key state capsules accepted' answer) :
    Settles c d key state capsules accepted answer := by
  rcases settles with ⟨yes, a, d', result, committed, proven⟩ | ⟨no, err, d', result, keeps'⟩
  · exact .inl ⟨same.mpr yes, a, d', result, keeps.trans_committed committed, proven⟩
  · exact .inr ⟨fun yes => no (same.mp yes), err, d', result, keeps.trans keeps'⟩

/-- The outcome is made of the answer of the last call. -/
theorem settles_map {α β : Type} {accepted : Prop} {call : CommitCall α} (f : α → β)
    (settles : Settles c d key state capsules accepted (call.perform d)) :
    Settles c d key state capsules accepted ((call >>= fun a => pure (f a) : CommitCall β).perform d) := by
  rcases settles with ⟨yes, a, d', result, committed, proven⟩ | ⟨no, err, d', result, keeps⟩
  · exact .inl ⟨yes, f a, d', Call.perform_bind_ok result _, committed, proven⟩
  · exact .inr ⟨no, err, d', Call.perform_bind_error result _, keeps⟩

theorem settles_finish {α : Type} {call : CommitCall α} {n : α}
    (finishes : ∃ err, call.perform d = if live d c.owner key then (.ok n, d.finished c.owner key state none) else (.error err, d))
    (proven : ∀ capsule ∈ capsules, Proven d.evidence key capsule) :
    Settles c d key state capsules (live d c.owner key = true) (call.perform d) := by
  obtain ⟨err, finishes⟩ := finishes
  by_cases owned : live d c.owner key
  · rw [if_pos owned] at finishes
    exact .inl ⟨owned, n, _, finishes, (Keeps.refl d).committed none, proven⟩
  · rw [if_neg owned] at finishes
    exact .inr ⟨owned, err, d, finishes, .refl d⟩

theorem settles_retry (task : EvidenceTask) (stored : (terminalStates ++ retryableStates).contains state)
    (proven : ∀ capsule ∈ capsules, Proven d.evidence key capsule) :
    Settles c d key state capsules (dated d c task.attempt = true ∧ live d c.owner key = true) ((c.retry task key state).perform d) := by
  rcases retry_cases d c key task stored with ⟨due, owned, t, result⟩ | ⟨no, err, result⟩
  · exact .inl ⟨⟨due, owned⟩, 1, _, result, (Keeps.refl d).committed t, proven⟩
  · exact .inr ⟨no, err, d, result, .refl d⟩

end

section
variable (c : Committer) (d : Databases) (task : EvidenceTask)

theorem domain_settles (r : DomainEvidenceQueryResult) {state : QueryState} {again : Bool}
    (lands : (ProviderResult.domain r).landing = some (state, again)) :
    Settles c d r.key state r.capsules
      (r.capsules.all (placed r.key) = true ∧ (again = true → dated d c task.attempt = true) ∧ live d c.owner r.key = true)
      ((c.commitDomain task r).perform d) := by
  obtain ⟨-, wide, -, fit⟩ := r.checked
  unfold Committer.commitDomain
  by_cases all : r.capsules.all (placed r.key)
  · obtain ⟨n, d₁, put, keeps, -, proven⟩ := persist_placed d c true fit all
    rw [Call.perform_bind_ok put]
    simp only [ProviderResult.landing] at lands
    split_ifs at lands with ends retries
    · cases lands
      rw [if_pos ends]
      have terminal : terminalStates.contains r.state := by rcases ends with same | same <;> rw [same] <;> decide
      have finishes := settles_finish (finishRange_eq d₁ c r.key wide terminal) proven
      have whole := settles_map (fun _ => (⟨1, 0, n⟩ : EvidenceCommitOutcome)) finishes
      refine settles_after keeps ?_ whole
      simp [all, keeps.live]
    · cases lands
      rw [if_neg ends, if_pos retries]
      have stored : (terminalStates ++ retryableStates).contains r.state := by rw [retries]; decide
      have finishes := settles_retry (c := c) task stored proven
      have whole := settles_map (fun _ => (⟨0, 1, n⟩ : EvidenceCommitOutcome)) finishes
      refine settles_after keeps ?_ whole
      simp [all, keeps.live, keeps.dated]
  · obtain ⟨err, refused⟩ := persist_misplaced d c true fit all
    rw [Call.perform_bind_error refused]
    exact .inr ⟨fun yes => all yes.1, err, d, rfl, .refl d⟩

theorem range_settles (r : RangeEvidenceQueryResult) {state : QueryState} {again : Bool}
    (lands : (ProviderResult.range r).landing = some (state, again)) :
    Settles c d r.key state r.capsules
      ((again = true → dated d c task.attempt = true) ∧ live d c.owner r.key = true) ((c.commitRange task r).perform d) := by
  obtain ⟨-, wide, fit⟩ := r.checked
  obtain ⟨n, d₁, put, keeps, -, proven⟩ := persist_placed d c false (fun capsule member => (fit capsule member).1)
    (ProviderResult.own (r := .range r) rfl (by simp))
  unfold Committer.commitRange
  rw [Call.perform_bind_ok put]
  simp only [ProviderResult.landing] at lands
  by_cases ends : r.state = .pass ∨ r.state = .emptyExhaustive ∨ r.state = .invalid
  · rw [if_pos ends] at lands ⊢
    cases lands
    have terminal : terminalStates.contains r.state := by rcases ends with same | same | same <;> rw [same] <;> decide
    have finishes := settles_finish (finishRange_eq d₁ c r.key wide terminal) proven
    have whole := settles_map (fun _ => (⟨1, 0, n⟩ : EvidenceCommitOutcome)) finishes
    refine settles_after keeps ?_ whole
    simp [keeps.live]
  · rw [if_neg ends] at lands ⊢
    by_cases retries : r.state = .decomposed ∨ r.state = .incomplete ∨ r.state = .transientError
    · rw [if_pos retries] at lands ⊢
      have stored : (terminalStates ++ retryableStates).contains (if r.state = .decomposed then .incomplete else r.state) := by
        rcases retries with same | same | same <;> rw [same] <;> decide
      generalize (if r.state = .decomposed then .incomplete else r.state : QueryState) = landed at lands stored ⊢
      cases lands
      have finishes := settles_retry (c := c) task stored proven
      have whole := settles_map (fun _ => (⟨0, 1, n⟩ : EvidenceCommitOutcome)) finishes
      refine settles_after keeps ?_ whole
      simp [keeps.live, keeps.dated]
    · rw [if_neg retries] at lands
      cases lands

theorem prove_returns {key : EvidenceQueryKey} (one : Option EvidenceCapsule) (fit : ∀ capsule ∈ one.toList, Fits key capsule)
    (own : one.toList.all (placed key)) :
    ∃ n d', (c.prove key one).perform d = (.ok n, d') ∧ Keeps d d' ∧ ∀ capsule ∈ one.toList, Proven d'.evidence key capsule := by
  cases one with
  | none => exact ⟨0, d, rfl, .refl d, nofun⟩
  | some capsule =>
    rw [Option.toList_some] at fit own ⊢
    obtain ⟨n, d₁, put, keeps, -, proven⟩ := put_placed d c.burns (primaryOrigin d.taskOrigins key) fit (List.cons_ne_nil _ _) own
    have inside : ∀ year ∈ [capsule.year], inScope key year := by
      intro year isOne
      rw [List.mem_singleton.mp isOne]
      exact (fit capsule (List.mem_singleton_self _)).year
    obtain ⟨d₂, credits, keeps', evidence, -⟩ := attributeTask_returns d₁ inside
    unfold Committer.prove
    rw [Call.perform_bind_ok (perform_primaryOrigin d key), Call.perform_bind_ok put, Call.perform_bind_ok credits]
    rw [← evidence] at proven
    exact ⟨n, d₂, rfl, keeps.trans keeps', proven⟩

theorem flush_settles {key : EvidenceQueryKey} (r : EvidenceQueryResult) (named : r.key = some key)
    (ends : r.state = .pass ∨ r.state = .emptyExhaustive ∨ r.state = .invalid) :
    Settles c d key r.state r.capsule.toList (live d c.owner key = true) ((c.flush key r).perform d) := by
  have stored : (terminalStates ++ retryableStates).contains r.state := by
    rcases ends with same | same | same <;> rw [same] <;> decide
  have finish (d : Databases) : ∃ err, (onQueue fun clock queue => finishEvidenceTasks queue clock [⟨some key, r.state⟩] c.owner).perform d =
      if live d c.owner key then (.ok 1, d.finished c.owner key r.state none) else (.error err, d) := by
    obtain ⟨err, finishes⟩ := finishResults_eq d c key stored none rfl
    exact ⟨err, by
      rw [← Option.bind_none finiteReading, ← finishes]
      simp only [perform_onQueue, finishEvidenceTasks, if_neg (owner_ne c)]⟩
  obtain ⟨n, d₁, proves, keeps, proven⟩ := prove_returns c d r.capsule (ProviderResult.fits (r := .exact r) named)
    (ProviderResult.own (r := .exact r) named (by simp))
  unfold Committer.flush
  rw [Call.perform_bind_ok proves]
  have whole := settles_map (fun _ => n) (settles_finish (finish d₁) proven)
  refine settles_after keeps ?_ whole
  rw [keeps.live]

theorem close_settles {key : EvidenceQueryKey} (r : EvidenceQueryResult) (named : r.key = some key)
    (ends : r.state = .pass ∨ r.state = .emptyExhaustive ∨ r.state = .invalid) :
    Settles c d key r.state r.capsule.toList (live d c.owner key = true) ((c.submitAndClose key r).perform d) := by
  unfold Committer.submitAndClose
  rw [Call.perform_tryCatch]
  rcases flush_settles c d r named ends with ⟨owned, n, d', result, committed, proven⟩ | ⟨lost, err, d₁, result, keeps⟩
  · rw [result]
    exact .inl ⟨owned, n, d', rfl, committed, proven⟩
  · rw [result]
    dsimp only
    rcases flush_settles c d₁ r named ends with ⟨owned, -⟩ | ⟨-, err', d₂, again, keeps'⟩
    · exact absurd (keeps.live c.owner key ▸ owned) lost
    · rw [Call.perform_bind_error again]
      exact .inr ⟨lost, err', d₂, rfl, keeps.trans keeps'⟩

theorem exact_settles {key : EvidenceQueryKey} (r : EvidenceQueryResult) (named : r.key = some key) {state : QueryState} {again : Bool}
    (lands : (ProviderResult.exact r).landing = some (state, again)) :
    Settles c d key state (if again then [] else r.capsule.toList)
      ((again = true → dated d c task.attempt = true) ∧ live d c.owner key = true) ((c.commitExact task key r).perform d) := by
  unfold Committer.commitExact
  simp only [ProviderResult.landing] at lands
  by_cases ends : r.state = .pass ∨ r.state = .emptyExhaustive ∨ r.state = .invalid
  · rw [if_pos ends] at lands ⊢
    cases lands
    have whole := settles_map (fun n => (⟨1, 0, n⟩ : EvidenceCommitOutcome)) (close_settles c d r named ends)
    refine settles_after (.refl d) ?_ whole
    simp
  · rw [if_neg ends] at lands ⊢
    by_cases retries : r.state = .incomplete ∨ r.state = .transientError
    · rw [if_pos retries] at lands ⊢
      cases lands
      have stored : (terminalStates ++ retryableStates).contains r.state := by
        rcases retries with same | same <;> rw [same] <;> decide
      have finishes : Settles c d key r.state [] (dated d c task.attempt = true ∧ live d c.owner key = true)
          ((c.retry task key r.state).perform d) := settles_retry task stored nofun
      have whole := settles_map (fun _ => (⟨0, 1, 0⟩ : EvidenceCommitOutcome)) finishes
      refine settles_after (.refl d) ?_ whole
      simp
    · rw [if_neg retries] at lands
      cases lands

/-- A state that the committer does not know. -/
theorem unknown_raises {r : ProviderResult} (named : r.key = some task.key) (lost : r.landing = none) :
    ∃ err d', (match r with
      | .domain r => c.commitDomain task r
      | .range r => c.commitRange task r
      | .exact r => c.commitExact task task.key r).perform d = (.error err, d') ∧ Keeps d d' := by
  cases r with
  | exact r =>
    simp only [ProviderResult.landing] at lost
    split_ifs at lost with ends retries
    exact ⟨_, d, by
      dsimp only
      unfold Committer.commitExact
      rw [if_neg ends, if_neg retries]
      rfl, .refl d⟩
  | range r =>
    obtain ⟨-, wide, fit⟩ := r.checked
    obtain ⟨n, d₁, put, keeps, -, proven⟩ := persist_placed d c false (fun capsule member => (fit capsule member).1)
      (ProviderResult.own (r := .range r) rfl (by simp))
    simp only [ProviderResult.landing] at lost
    split_ifs at lost with ends retries
    exact ⟨_, d₁, by
      dsimp only
      unfold Committer.commitRange
      rw [Call.perform_bind_ok put, if_neg ends, if_neg retries]
      rfl, keeps⟩
  | domain r =>
    obtain ⟨-, -, states, -⟩ := r.checked
    simp only [ProviderResult.landing] at lost
    rcases states with same | same | same <;> simp [same] at lost

end

/-- The capsules that a commit proves: one that is tried again keeps no exact capsule. -/
def ProviderResult.proved : ProviderResult → List EvidenceCapsule
  | exact r => if r.state = .pass ∨ r.state = .emptyExhaustive ∨ r.state = .invalid then r.capsule.toList else []
  | r => r.capsules

/-- A result leaves PASS exactly when it says so, and then all its capsules are proved. -/
theorem landing_pass {r : ProviderResult} {state : QueryState} {again : Bool} (lands : r.landing = some (state, again)) :
    state = .pass ↔ r.state = .pass := by
  cases r with
  | domain r =>
    obtain ⟨-, -, states, -⟩ := r.checked
    simp only [ProviderResult.landing] at lands
    rcases states with same | same | same <;> simp [same] at lands <;> simp [← lands.1, ProviderResult.state, same]
  | range r =>
    simp only [ProviderResult.landing] at lands
    simp only [ProviderResult.state]
    cases same : r.state <;> simp [same] at lands <;> simp [← lands.1]
  | exact r =>
    simp only [ProviderResult.landing] at lands
    simp only [ProviderResult.state]
    cases same : r.state <;> simp [same] at lands <;> simp [← lands.1]

theorem pass_proved {r : ProviderResult} (passes : r.state = .pass) : r.proved = r.capsules ∧ ∀ r', r ≠ .domain r' := by
  cases r with
  | domain r =>
    obtain ⟨-, -, states, -⟩ := r.checked
    have same : r.state = .pass := passes
    rw [same] at states
    exact absurd states (by decide)
  | range r => exact ⟨rfl, by simp⟩
  | exact r => exact ⟨if_pos (.inl passes), by simp⟩

/-- A commit of a result for the key of its task returns exactly when it can, with the task
    finished and the proof stored, and otherwise raises and leaves the tasks. -/
theorem commit_settles (c : Committer) (d : Databases) (task : EvidenceTask) {r : ProviderResult} (named : r.key = some task.key) :
    (Commits c d task r ∧ ∃ outcome d' state again, (c.commit task r).perform d = (.ok outcome, d') ∧
        r.landing = some (state, again) ∧ Committed c d d' task.key state ∧
        ∀ capsule ∈ r.proved, Proven d'.evidence task.key capsule) ∨
      (¬Commits c d task r ∧ ∃ err d', (c.commit task r).perform d = (.error err, d') ∧ Keeps d d') := by
  have unfolded : c.commit task r = (do
      let _recorded ← recordEvidenceTaskAttemptMetric task.key task.attempt r.state r.accounting
      match r with
      | .domain r => c.commitDomain task r
      | .range r => c.commitRange task r
      | .exact r => c.commitExact task task.key r) := by
    unfold Committer.commit
    rw [named]
    exact if_neg (not_not.mpr rfl)
  rw [unfolded]
  rcases record_cases d task.key task.attempt r.state r.accounting r.counted with
    ⟨records, n, d₁, result, keeps, -, -⟩ | ⟨no, err, result⟩
  · rw [Call.perform_bind_ok result]
    cases landing : r.landing with
    | none =>
      obtain ⟨err, d', raised, keeps'⟩ := unknown_raises c d₁ task named landing
      refine .inr ⟨fun commits => ?_, err, d', raised, keeps.trans keeps'⟩
      obtain ⟨state, again, lands, -⟩ := commits.lands
      rw [landing] at lands
      cases lands
    | some landed =>
      obtain ⟨state, again⟩ := landed
      have settles : Settles c d task.key state r.proved (Commits c d task r) ((match r with
          | .domain r => c.commitDomain task r
          | .range r => c.commitRange task r
          | .exact r => c.commitExact task task.key r).perform d₁) := by
        have iff_ (placed_ : Prop) (same : placed_ ↔ r.capsules.all (placed task.key) = true) : Commits c d task r ↔
            placed_ ∧ (again = true → dated d₁ c task.attempt = true) ∧ live d₁ c.owner task.key = true := by
          rw [same, keeps.live, keeps.dated]
          constructor
          · intro commits
            obtain ⟨state', again', lands, due⟩ := commits.lands
            rw [landing] at lands
            cases lands
            exact ⟨commits.placed, due, commits.live⟩
          · rintro ⟨all, due, owned⟩
            exact ⟨records, all, ⟨state, again, landing, due⟩, owned⟩
        cases r with
        | domain r =>
          have settles := domain_settles c d₁ task r landing
          rw [show r.key = task.key from Option.some.inj named] at settles
          exact settles_after keeps (iff_ _ Iff.rfl) settles
        | range r =>
          have settles := range_settles c d₁ task r landing
          rw [show r.key = task.key from Option.some.inj named] at settles
          refine settles_after keeps ?_ settles
          refine (iff_ True ?_).trans (iff_of_eq (true_and _))
          exact iff_of_true trivial (ProviderResult.own (r := .range r) named (by simp))
        | exact r =>
          have same : (ProviderResult.exact r).proved = if again then [] else r.capsule.toList := by
            simp only [ProviderResult.landing] at landing
            simp only [ProviderResult.proved]
            split_ifs at landing with ends <;> cases landing <;> simp [ends]
          rw [same]
          refine settles_after keeps ?_ (exact_settles c d₁ task r named landing)
          refine (iff_ True ?_).trans (iff_of_eq (true_and _))
          exact iff_of_true trivial (ProviderResult.own (r := .exact r) named (by simp))
      rcases settles with ⟨commits, outcome, d', returned, committed, proven⟩ | ⟨no, err, d', raised, keeps'⟩
      · exact .inl ⟨commits, outcome, d', state, again, returned, rfl, committed, proven⟩
      · exact .inr ⟨no, err, d', raised, keeps'⟩
  · rw [Call.perform_bind_error result]
    exact .inr ⟨fun commits => no commits.records, err, d, rfl, .refl d⟩

end Creeper.ResultCommit
