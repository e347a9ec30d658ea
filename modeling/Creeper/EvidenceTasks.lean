import Creeper.Tables
import Creeper.FabricModels

/-!
# Evidence tasks and the order of their claims

`EvidenceQueryKey`, the action kinds and the value model of `evidence/actions.py`, the
tables that a claim joins, and the two claims: `ControlStore.claim_evidence_tasks` and
`DurableEvidenceQueue.claim`. Both order their candidates by one SQL expression, which
classifies tasks in its own way.
-/

namespace Creeper.EvidenceTasks
open Creeper.Tables Creeper.PyNumbers
open Creeper.FabricModels (PyError blank)

/-! ## Tasks -/

inductive QueryState
  | unknown
  | pending
  | pass
  | emptyExhaustive
  | decomposed
  | incomplete
  | transientError
  | invalid
  deriving DecidableEq, Repr

/-- `TERMINAL_STATES`. -/
def terminalStates : List QueryState := [.pass, .emptyExhaustive, .decomposed, .invalid]

/-- `RETRYABLE_STATES`. -/
def retryableStates : List QueryState := [.incomplete, .transientError]

/-- `CLAIMABLE_STATES`. -/
def claimableStates : List QueryState := .pending :: retryableStates

/-- The dot-separated labels of a text. -/
def labels (text : String) : List (List Char) := text.toList.splitOn '.'

/-- `HOST_RE`: at most 253 characters, labels of letters, digits and inner hyphens, and a last
    label of letters. -/
def officialHost (text : String) : Bool :=
  let alnum (c : Char) := c.isLower || c.isDigit
  let inner (label : List Char) := label.head?.any alnum && label.getLast?.any alnum && label.length ≤ 63 &&
    label.all (fun c => alnum c || c = '-')
  text.length ≤ 253 && 2 ≤ (labels text).length && (labels text).dropLast.all inner &&
    (labels text).getLast?.any (fun last => 2 ≤ last.length && last.length ≤ 63 && last.all Char.isLower)

/-- `EvidenceQueryKey` with its `TemporalScope`, after their checks. -/
structure EvidenceQueryKey where
  hostname : String
  yearFrom : Int
  yearTo : Int
  provider : String
  policyVersion : String
  valid : officialHost hostname && (1996 ≤ yearFrom && yearFrom ≤ yearTo && yearTo ≤ 2001) && !blank provider &&
    !blank policyVersion
  deriving DecidableEq

/-- A row of `evidence_tasks`. -/
structure TaskRow where
  key : EvidenceQueryKey
  state : QueryState
  attempt : Nat
  retryAt : Option ℚ
  leaseOwner : Option String
  leaseUntil : Option ℚ
  eedWeight : ℚ≥0
  deriving DecidableEq

/-- An `EvidenceTask`. -/
structure EvidenceTask where
  key : EvidenceQueryKey
  state : QueryState
  attempt : Nat
  retryAt : Option ℚ
  leaseOwner : Option String
  leaseUntil : Option ℚ
  deriving DecidableEq

/-! ## Actions and their value -/

inductive ActionKind
  | exact
  | range
  | domain
  | rdap
  deriving DecidableEq, Repr

def ActionKind.value : ActionKind → String
  | .exact => "exact"
  | .range => "range"
  | .domain => "domain"
  | .rdap => "rdap"

/-- `policy_version.startswith("cdx-domain-")`. -/
def startsWithCdxDomain (policyVersion : String) : Bool := "cdx-domain-".toList.isPrefixOf policyVersion.toList

/-- `classify_evidence_action`. -/
def classifyEvidenceAction (key : EvidenceQueryKey) : ActionKind :=
  if key.provider = "rdap" then .rdap
  else if startsWithCdxDomain key.policyVersion then .domain
  else if key.yearFrom = key.yearTo then .exact
  else .range

/-- `EvidenceStore._task_kind`. -/
def taskKind (key : EvidenceQueryKey) : String :=
  if key.provider = "rdap" then "rdap"
  else if startsWithCdxDomain key.policyVersion then "domain"
  else if key.yearFrom = key.yearTo then "exact"
  else "range"

/-- `policy_version LIKE 'cdx-domain-%'`: SQLite compares ASCII letters without case. -/
def likeCdxDomain (policyVersion : String) : Bool :=
  (policyVersion.toList.take "cdx-domain-".length).map Char.toLower = "cdx-domain-".toList

/-- The `action_kind` of the two claims. -/
def sqlActionKind (key : EvidenceQueryKey) : ActionKind :=
  if likeCdxDomain key.policyVersion then .domain
  else if key.provider = "rdap" then .rdap
  else if key.yearTo > key.yearFrom then .range
  else .exact

/-- `action_prior_yield`. -/
def actionPriorYield : ActionKind → ℚ
  | .exact => 1 / 4
  | .range => 1 / 2
  | .domain => 1
  | .rdap => 1 / 2

def actionPriorStrength : ℚ := 4
def actionRetryPenalty : ℚ := 1 / 4

/-- `posterior_host_year_yield`. -/
def posteriorHostYearYield (kind : ActionKind) (finalNovelHostYears providerRequests attempts : Nat) : ℚ :=
  (finalNovelHostYears + actionPriorStrength * actionPriorYield kind) / (max providerRequests attempts + actionPriorStrength)

/-- `task_value_score`. -/
def taskValueScore (kind : ActionKind) (eedWeight : ℚ≥0) (finalNovelHostYears providerRequests attempts taskAttempt : Nat) : ℚ :=
  eedWeight * posteriorHostYearYield kind finalNovelHostYears providerRequests attempts / (1 + actionRetryPenalty * taskAttempt)

/-! ## Tables -/

structure CostRow where
  taskKind : String
  attempts : Nat
  providerRequests : Nat
  deriving DecidableEq

structure RewardRow where
  taskKind : String
  finalNovelHostYears : Nat
  deriving DecidableEq

structure WeightRow where
  tld : String
  weight : ℚ≥0
  deriving DecidableEq

structure Store where
  tasks : Table TaskRow EvidenceQueryKey (·.key)
  costs : Table CostRow String (·.taskKind)
  rewards : Table RewardRow String (·.taskKind)
  /-- There is a row in `evidence_action_reward_authority`. -/
  authority : Bool
  weights : Table WeightRow String (·.tld)
  defaultLeaseSeconds : PyFloat

section
variable (s : Store)

/-- The outer-joined reward of a kind. -/
def Store.finalNovelHostYears (kind : ActionKind) : Nat :=
  if s.authority then ((s.rewards.get? kind.value).map (·.finalNovelHostYears)).getD 0 else 0

/-- The outer-joined costs of a kind. -/
def Store.providerRequests (kind : ActionKind) : Nat :=
  if s.authority then ((s.costs.get? kind.value).map (·.providerRequests)).getD 0 else 0
def Store.attempts (kind : ActionKind) : Nat :=
  if s.authority then ((s.costs.get? kind.value).map (·.attempts)).getD 0 else 0

/-- The first expression of the two ORDER BY clauses. -/
def sqlScore (row : TaskRow) : ℚ :=
  row.eedWeight * (s.finalNovelHostYears (sqlActionKind row.key) +
      actionPriorStrength * (match sqlActionKind row.key with
        | .domain => 1
        | .rdap => 1 / 2
        | .range => 1 / 2
        | .exact => 1 / 4)) /
    (max (s.providerRequests (sqlActionKind row.key)) (s.attempts (sqlActionKind row.key)) + actionPriorStrength) /
    (1 + actionRetryPenalty * row.attempt)

def ActionKind.rank : ActionKind → Nat
  | .domain => 3
  | .rdap => 2
  | .range => 1
  | .exact => 0

/-- What rows are ordered by: score, rank, weight and span downwards, then the key. -/
abbrev OrderKey := ℚᵒᵈ ×ₗ ℕᵒᵈ ×ₗ ℚ≥0ᵒᵈ ×ₗ ℤᵒᵈ ×ₗ ℤ ×ₗ String ×ₗ ℤ ×ₗ String ×ₗ String

def orderKey (score : ℚ) (kind : ActionKind) (row : TaskRow) : OrderKey :=
  toLex (.toDual score, toLex (.toDual kind.rank, toLex (.toDual row.eedWeight, toLex (.toDual (row.key.yearTo - row.key.yearFrom),
    toLex (row.key.yearFrom, toLex (row.key.hostname, toLex (row.key.yearTo,
      toLex (row.key.provider, row.key.policyVersion))))))))

/-- The ORDER BY clause of the two claims. -/
def sqlOrder (row : TaskRow) : OrderKey := orderKey (sqlScore s row) (sqlActionKind row.key) row

def valueOrder (row : TaskRow) : OrderKey :=
  let kind := classifyEvidenceAction row.key
  orderKey (taskValueScore kind row.eedWeight (s.finalNovelHostYears kind) (s.providerRequests kind) (s.attempts kind) row.attempt)
    kind row

end

/-! ## Claims -/

/-- A finite, non-negative number. -/
def finiteReading : PyFloat → Option ℚ
  | .fin x => if x < 0 then none else some x
  | _ => none

theorem finiteReading_nonneg {x : PyFloat} {q : ℚ} (reads : finiteReading x = some q) : x = .fin q ∧ 0 ≤ q := by
  unfold finiteReading at reads
  split at reads
  · split at reads
    · cases reads
    · rename_i nonneg
      cases reads
      exact ⟨rfl, not_lt.mp nonneg⟩
  · cases reads

/-- A positive, finite duration. -/
def positive : PyFloat → Option ℚ
  | .fin x => if 0 < x then some x else none
  | _ => none

/-- The WHERE clause of a claim, but for the keys or providers it asks for. -/
def claimable (now : ℚ) (row : TaskRow) : Bool :=
  claimableStates.contains row.state && row.leaseUntil.all (· ≤ now) && row.retryAt.all (· ≤ now)

/-- The rows that a claim may choose from. -/
def Store.candidates (s : Store) (now : ℚ) (wanted : TaskRow → Bool) : List TaskRow :=
  s.tasks.rows.filter (fun row => claimable now row && wanted row)

/-- The rows that a claim chooses. -/
def Store.chosen (s : Store) (now : ℚ) (wanted : TaskRow → Bool) (limit : Int) : List TaskRow :=
  ((s.candidates now wanted).insertionSort (fun a b => sqlOrder s a ≤ sqlOrder s b)).take limit.toNat

def leasedTask (owner : String) (leaseUntil : ℚ) (row : TaskRow) : EvidenceTask :=
  ⟨row.key, row.state, row.attempt + 1, row.retryAt, some owner, some leaseUntil⟩

abbrev leasedRow (owner : String) (leaseUntil : ℚ) (row : TaskRow) : TaskRow :=
  { row with leaseOwner := some owner, leaseUntil := some leaseUntil, attempt := row.attempt + 1 }

abbrev Answer (α : Type) := Except PyError α × Store

/-- `claim_evidence_tasks`. -/
def claimEvidenceTasks (s : Store) (clock : PyFloat) (owner : String) (limit : Int) (leaseSeconds : Option PyFloat)
    (keys : Option (List EvidenceQueryKey)) : Answer (List EvidenceTask) :=
  if blank owner then (.error (.valueError "owner is required"), s)
  else if limit < 1 then (.ok [], s)
  else
    match finiteReading (leaseSeconds.getD s.defaultLeaseSeconds) with
    | none => (.error (.valueError "lease_seconds must be finite and non-negative"), s)
    | some seconds =>
      match finiteReading clock with
      | none => (.error (.valueError "evidence claim clock must be finite and non-negative"), s)
      | some now =>
        if keys = some [] then (.ok [], s)
        else
          let rows := s.chosen now (fun row => keys.all (·.contains row.key)) limit
          (.ok (rows.map (leasedTask owner (now + seconds))), { s with
            tasks := rows.foldl (fun t row => t.update (·.key = row.key) (leasedRow owner (now + seconds))) s.tasks })

/-- `DurableEvidenceQueue.claim`. -/
def queueClaim (s : Store) (clock : PyFloat) (owner : String) (limit : Int) (providers : List String) (leaseSeconds : PyFloat) :
    Answer (List EvidenceTask) :=
  if blank owner then (.error (.valueError "owner is required"), s)
  else if limit < 1 then (.ok [], s)
  else
    match (finiteReading leaseSeconds).filter (0 < ·) with
    | none => (.error (.valueError "lease_seconds must be finite and positive"), s)
    | some seconds =>
      let wanted := (providers.filter (· ≠ "")).eraseDups
      if wanted = [] then (.ok [], s)
      else
        match finiteReading clock with
        | none => (.error (.valueError "queue clock must be finite and non-negative"), s)
        | some now =>
          let rows := s.chosen now (fun row => wanted.contains row.key.provider) limit
          (.ok (rows.map (leasedTask owner (now + seconds))), { s with
            tasks := rows.foldl (fun t row => t.update (fun r => r.key = row.key && r.leaseUntil.all (· ≤ now))
              (leasedRow owner (now + seconds))) s.tasks })

/-! ## Two classifications -/

/-- A key that the SQL and the Python classification can only read in one way. -/
def Plain (key : EvidenceQueryKey) : Prop :=
  likeCdxDomain key.policyVersion → startsWithCdxDomain key.policyVersion ∧ key.provider ≠ "rdap"

instance (key : EvidenceQueryKey) : Decidable (Plain key) := by unfold Plain; infer_instance

theorem like_of_starts {policyVersion : String} (starts : startsWithCdxDomain policyVersion) : likeCdxDomain policyVersion := by
  obtain ⟨rest, same⟩ := List.isPrefixOf_iff_prefix.mp starts
  have head : policyVersion.toList.take "cdx-domain-".length = "cdx-domain-".toList := by
    rw [← same]
    exact List.take_left' (by decide)
  simp only [likeCdxDomain, head]
  decide

theorem EvidenceQueryKey.scope (key : EvidenceQueryKey) : key.yearFrom ≤ key.yearTo := by
  have valid := key.valid
  simp only [Bool.and_eq_true, decide_eq_true_eq] at valid
  exact valid.1.1.2.1.2

/-- The two classifications agree on a key exactly when it is plain. -/
theorem sqlActionKind_eq_iff (key : EvidenceQueryKey) : sqlActionKind key = classifyEvidenceAction key ↔ Plain key := by
  have scope := key.scope
  unfold sqlActionKind classifyEvidenceAction Plain
  by_cases like : likeCdxDomain key.policyVersion
  · by_cases rdap : key.provider = "rdap"
    · simp [like, rdap]
    · by_cases starts : startsWithCdxDomain key.policyVersion
      · simp [like, rdap, starts]
      · by_cases one : key.yearFrom = key.yearTo <;> simp [like, rdap, starts, one]
  · have other : startsWithCdxDomain key.policyVersion = false := by
      by_contra starts
      exact like (like_of_starts (by simpa using starts))
    by_cases rdap : key.provider = "rdap"
    · simp [like, rdap]
    · by_cases one : key.yearFrom = key.yearTo
      · simp [like, rdap, other, one]
      · have longer : key.yearTo > key.yearFrom := by omega
        simp [like, rdap, other, one, longer]

theorem taskKind_eq (key : EvidenceQueryKey) : (classifyEvidenceAction key).value = taskKind key := by
  unfold classifyEvidenceAction taskKind
  split
  · rfl
  · split
    · rfl
    · split <;> rfl

section
variable (s : Store)

/-- With one classification the two scores are one number. -/
theorem sqlScore_eq {row : TaskRow} (agree : sqlActionKind row.key = classifyEvidenceAction row.key) :
    sqlScore s row = taskValueScore (classifyEvidenceAction row.key) row.eedWeight
      (s.finalNovelHostYears (classifyEvidenceAction row.key)) (s.providerRequests (classifyEvidenceAction row.key))
      (s.attempts (classifyEvidenceAction row.key)) row.attempt := by
  unfold sqlScore taskValueScore posteriorHostYearYield
  rw [agree, mul_div_assoc]
  cases classifyEvidenceAction row.key <;> rfl

theorem sqlOrder_eq {row : TaskRow} (agree : sqlActionKind row.key = classifyEvidenceAction row.key) :
    sqlOrder s row = valueOrder s row := by
  rw [sqlOrder, sqlScore_eq s agree, agree]
  rfl

/-- The first rows of some candidates under an order, for any way of sorting them. -/
def FirstInOrder (order : TaskRow → OrderKey) (limit : Nat) (candidates rows : List TaskRow) : Prop :=
  ∃ rest, (rows ++ rest).Perm candidates ∧ (rows ++ rest).Pairwise (fun a b => order a ≤ order b) ∧
    rows.length = min limit candidates.length

theorem chosen_first (now : ℚ) (wanted : TaskRow → Bool) (limit : Int) :
    FirstInOrder (sqlOrder s) limit.toNat (s.candidates now wanted) (s.chosen now wanted limit) := by
  let sorted := (s.candidates now wanted).insertionSort (fun a b => sqlOrder s a ≤ sqlOrder s b)
  have perm : sorted.Perm (s.candidates now wanted) := List.perm_insertionSort _ _
  have ordered : sorted.Pairwise (fun a b => sqlOrder s a ≤ sqlOrder s b) := List.pairwise_insertionSort _ _
  refine ⟨sorted.drop limit.toNat, ?_, ?_, ?_⟩
  · rw [Store.chosen, List.take_append_drop]
    exact perm
  · rw [Store.chosen, List.take_append_drop]
    exact ordered
  · rw [Store.chosen, List.length_take, List.length_insertionSort]

theorem FirstInOrder.congr {order order' : TaskRow → OrderKey} {limit : Nat} {candidates rows : List TaskRow}
    (first : FirstInOrder order limit candidates rows) (same : ∀ row ∈ candidates, order row = order' row) :
    FirstInOrder order' limit candidates rows := by
  obtain ⟨rest, perm, ordered, length⟩ := first
  refine ⟨rest, perm, ordered.imp_of_mem ?_, length⟩
  intro a b isA isB le
  rw [← same a (perm.subset isA), ← same b (perm.subset isB)]
  exact le

/-- Claimed tasks follow the value model: every candidate is classified and scored as the model
    does it, and the tasks are those of the first candidates in its order. -/
structure FollowsModel (now : ℚ) (wanted : TaskRow → Bool) (limit : Int) (tasks : List EvidenceTask) : Prop where
  classified : ∀ row ∈ s.candidates now wanted, sqlActionKind row.key = classifyEvidenceAction row.key ∧
    (sqlActionKind row.key).value = taskKind row.key
  scored : ∀ row ∈ s.candidates now wanted, sqlScore s row = taskValueScore (classifyEvidenceAction row.key) row.eedWeight
    (s.finalNovelHostYears (classifyEvidenceAction row.key)) (s.providerRequests (classifyEvidenceAction row.key))
    (s.attempts (classifyEvidenceAction row.key)) row.attempt
  first : ∃ rows, tasks.map (·.key) = rows.map (·.key) ∧
    FirstInOrder (valueOrder s) limit.toNat (s.candidates now wanted) rows

theorem chosen_follows_iff {now : ℚ} {wanted : TaskRow → Bool} {limit : Int} {tasks : List EvidenceTask}
    (same : tasks.map (·.key) = (s.chosen now wanted limit).map (·.key)) :
    FollowsModel s now wanted limit tasks ↔ ∀ row ∈ s.candidates now wanted, Plain row.key := by
  constructor
  · intro follows row member
    exact (sqlActionKind_eq_iff row.key).mp (follows.classified row member).1
  · intro plain
    have agree : ∀ row ∈ s.candidates now wanted, sqlActionKind row.key = classifyEvidenceAction row.key :=
      fun row member => (sqlActionKind_eq_iff row.key).mpr (plain row member)
    refine ⟨fun row member => ⟨agree row member, ?_⟩, fun row member => sqlScore_eq s (agree row member), _, same, ?_⟩
    · rw [agree row member, taskKind_eq]
    · exact (chosen_first s now wanted limit).congr fun row member => sqlOrder_eq s (agree row member)

theorem chosen_few {now : ℚ} {wanted : TaskRow → Bool} {limit : Int} (few : limit < 1) : s.chosen now wanted limit = [] := by
  have zero : limit.toNat = 0 := by omega
  rw [Store.chosen, zero, List.take_zero]

theorem chosen_none {now : ℚ} {wanted : TaskRow → Bool} {limit : Int} (none_ : ∀ row, wanted row = false) :
    s.chosen now wanted limit = [] := by
  have empty : s.candidates now wanted = [] := by
    simp [Store.candidates, none_]
  simp [Store.chosen, empty]

variable {s} {clock : PyFloat} {now : ℚ} (reads : finiteReading clock = some now)
include reads

/-- The keys of the tasks that `claim_evidence_tasks` returns. -/
theorem claim_keys {owner : String} {limit : Int} {leaseSeconds : Option PyFloat} {keys : Option (List EvidenceQueryKey)}
    {tasks : List EvidenceTask} {s' : Store}
    (claimed : claimEvidenceTasks s clock owner limit leaseSeconds keys = (.ok tasks, s')) :
    tasks.map (·.key) = (s.chosen now (fun row => keys.all (·.contains row.key)) limit).map (·.key) := by
  unfold claimEvidenceTasks at claimed
  split at claimed
  · cases claimed
  split at claimed
  · rename_i few
    cases claimed
    rw [chosen_few s few]
    rfl
  split at claimed
  · cases claimed
  simp only [reads] at claimed
  split at claimed
  · rename_i asked
    cases claimed
    rw [chosen_none s (by simp [asked])]
    rfl
  · cases claimed
    rw [List.map_map]
    rfl

/-- The keys of the tasks that the queue's `claim` returns. -/
theorem queueClaim_keys {owner : String} {limit : Int} {providers : List String} {leaseSeconds : PyFloat}
    {tasks : List EvidenceTask} {s' : Store} (claimed : queueClaim s clock owner limit providers leaseSeconds = (.ok tasks, s')) :
    tasks.map (·.key) = (s.chosen now (fun row => (providers.filter (· ≠ "")).eraseDups.contains row.key.provider) limit).map
      (·.key) := by
  unfold queueClaim at claimed
  split at claimed
  · cases claimed
  split at claimed
  · rename_i few
    cases claimed
    rw [chosen_few s few]
    rfl
  split at claimed
  · cases claimed
  dsimp only at claimed
  split at claimed
  · rename_i asked
    cases claimed
    rw [asked, chosen_none s (by simp)]
    rfl
  simp only [reads] at claimed
  cases claimed
  rw [List.map_map]
  rfl

/-- Both claims follow the value model exactly when they have only plain candidates. -/
theorem claims_follow_iff :
    (∀ owner limit leaseSeconds keys tasks s', claimEvidenceTasks s clock owner limit leaseSeconds keys = (.ok tasks, s') →
      (FollowsModel s now (fun row => keys.all (·.contains row.key)) limit tasks ↔
        ∀ row ∈ s.candidates now (fun row => keys.all (·.contains row.key)), Plain row.key)) ∧
    (∀ owner limit providers leaseSeconds tasks s', queueClaim s clock owner limit providers leaseSeconds = (.ok tasks, s') →
      (FollowsModel s now (fun row => (providers.filter (· ≠ "")).eraseDups.contains row.key.provider) limit tasks ↔
        ∀ row ∈ s.candidates now (fun row => (providers.filter (· ≠ "")).eraseDups.contains row.key.provider), Plain row.key)) := by
  constructor
  · intro owner limit leaseSeconds keys tasks s' claimed
    exact chosen_follows_iff s (claim_keys reads claimed)
  · intro owner limit providers leaseSeconds tasks s' claimed
    exact chosen_follows_iff s (queueClaim_keys reads claimed)

end

/-! ## Two tables -/

/-- A task of RDAP, under a policy version, beside a range task of more weight. -/
def rdapKey (policyVersion : String) (named : !blank policyVersion) : EvidenceQueryKey :=
  ⟨"a.com", 1996, 2001, "rdap", policyVersion, by rw [Bool.and_eq_true]; exact ⟨by decide +kernel, named⟩⟩

def rangeKey : EvidenceQueryKey := ⟨"b.com", 1996, 2001, "wayback", "cdx-v1", by decide +kernel⟩

def rdapRow (policyVersion : String) (named : !blank policyVersion) : TaskRow :=
  ⟨rdapKey policyVersion named, .pending, 0, none, none, none, 1⟩

def rangeRow : TaskRow := ⟨rangeKey, .pending, 0, none, none, none, 3 / 2⟩

theorem rdapKey_ne (policyVersion : String) (named : !blank policyVersion) : rdapKey policyVersion named ≠ rangeKey := by
  intro same
  have host : "a.com" = "b.com" := congrArg EvidenceQueryKey.hostname same
  revert host
  decide

def twoTasks (policyVersion : String) (named : !blank policyVersion) : Store where
  tasks := ⟨[rdapRow policyVersion named, rangeRow], by
    simpa using show (rdapRow policyVersion named).key ≠ rangeRow.key from rdapKey_ne policyVersion named⟩
  costs := .empty
  rewards := .empty
  authority := false
  weights := .empty
  defaultLeaseSeconds := .fin 300

theorem plain_claim_follows : ∃ tasks s', claimEvidenceTasks (twoTasks "rdap-v1" (by decide)) (.fin 0) "w" 1 none none = (.ok tasks, s') ∧
    FollowsModel (twoTasks "rdap-v1" (by decide)) 0 (fun _ => true) 1 tasks := by
  refine ⟨_, _, rfl, ?_⟩
  have clock : finiteReading (.fin 0) = some 0 := by decide +kernel
  exact ((@claims_follow_iff (twoTasks "rdap-v1" (by decide)) _ _ clock).1 "w" 1 none none _ _ rfl).mpr (by decide +kernel)

/-- The RDAP task is claimed as a domain task, before the range task that the model puts first. -/
theorem rdap_claimed_as_domain : ∃ tasks s',
    claimEvidenceTasks (twoTasks "cdx-domain-v1" (by decide)) (.fin 0) "w" 1 none none = (.ok tasks, s') ∧
      ¬FollowsModel (twoTasks "cdx-domain-v1" (by decide)) 0 (fun _ => true) 1 tasks := by
  refine ⟨_, _, rfl, fun follows => ?_⟩
  obtain ⟨rows, keys, rest, perm, ordered, length⟩ := follows.first
  have firstKey : rows.map (·.key) = [rdapKey "cdx-domain-v1" (by decide)] := keys.symm.trans (by decide +kernel)
  have all : (twoTasks "cdx-domain-v1" (by decide)).candidates 0 (fun _ => true) =
      [rdapRow "cdx-domain-v1" (by decide), rangeRow] := by
    decide +kernel
  have apart := rdapKey_ne "cdx-domain-v1" (by decide)
  -- The second task stands behind the first in the order of the model, where its score is higher.
  have front : rdapRow "cdx-domain-v1" (by decide) ∈ rows := by
    obtain ⟨row, member, name⟩ := List.mem_map.mp (firstKey ▸ List.mem_singleton_self _ : _ ∈ rows.map (·.key))
    have candidate := perm.subset (List.mem_append_left rest member)
    rw [all, List.mem_cons, List.mem_singleton] at candidate
    rcases candidate with rfl | rfl
    · exact member
    · exact absurd name.symm apart
  have behind : rangeRow ∈ rest := by
    have member : rangeRow ∈ rows ++ rest := perm.symm.subset (by rw [all]; simp)
    refine (List.mem_append.mp member).resolve_left fun first => ?_
    have bad : rangeRow.key ∈ rows.map (·.key) := List.mem_map_of_mem first
    rw [firstKey, List.mem_singleton] at bad
    exact apart bad.symm
  have order := (List.pairwise_append.mp ordered).2.2 _ front _ behind
  revert order
  decide +kernel

end Creeper.EvidenceTasks
