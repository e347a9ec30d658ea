import Creeper.Claims
import Creeper.EvidenceTasks

/-!
# The evidence queue

Enqueueing, claiming, renewing and finishing evidence tasks by owners with distinct
names. A task has one live owner, its attempts count its claims, and every accepted
finish answers the last claim.
-/

namespace Creeper.EvidenceQueue
open Creeper.Runs Creeper.Tables Creeper.PyNumbers Creeper.Claims Creeper.EvidenceTasks
open Creeper.FabricModels (PyError blank)

/-! ## Calls -/

/-- `creeper_tld`, of a normalized hostname. -/
def creeperTld (hostname : String) : String :=
  if 2 ≤ (labels hostname).length then String.ofList ((labels hostname).getLast?.getD []) else ""

/-- A new row, with the weight that its trigger sets. -/
def freshRow (s : Store) (key : EvidenceQueryKey) : TaskRow where
  key := key
  state := .pending
  attempt := 0
  retryAt := none
  leaseOwner := none
  leaseUntil := none
  eedWeight := ((s.weights.get? (creeperTld key.hostname)).map (·.weight)).getD 0

def insertTasks (s : Store) (keys : List EvidenceQueryKey) : Store :=
  { s with tasks := keys.foldl (fun t key => t.insert (freshRow s key)) s.tasks }

/-- The rows that an INSERT OR IGNORE adds. -/
def insertedCount (s : Store) (keys : List EvidenceQueryKey) : Nat :=
  (insertTasks s keys).tasks.rows.length - s.tasks.rows.length

/-- `enqueue_evidence_tasks`. -/
def enqueueEvidenceTasks (s : Store) (keys : List EvidenceQueryKey) : Answer Nat :=
  (.ok (insertedCount s keys.eraseDups), insertTasks s keys.eraseDups)

/-- The caller's unexpired lease is on the row. -/
def ownedBy (owner : String) (now : ℚ) (row : TaskRow) : Bool := row.leaseOwner = some owner && row.leaseUntil.any (now < ·)

abbrev finishedRow (state : QueryState) (retryAt : Option ℚ) (row : TaskRow) : TaskRow :=
  { row with state, retryAt, leaseOwner := none, leaseUntil := none }

/-- What a finish reads of an `EvidenceQueryResult`. -/
structure QueryResult where
  key : Option EvidenceQueryKey
  state : QueryState

def keyed (results : List QueryResult) : List (EvidenceQueryKey × QueryState) :=
  results.filterMap (fun r => r.key.map (·, r.state))

/-- The first result that repeats a key or cannot be stored. -/
def resultProblem : List EvidenceQueryKey → List (EvidenceQueryKey × QueryState) → Option PyError
  | _, [] => none
  | seen, (key, state) :: rest =>
    if seen.contains key then some (.valueError "duplicate evidence task key")
    else if !(terminalStates ++ retryableStates).contains state then some (.valueError "unsupported evidence task state")
    else resultProblem (key :: seen) rest

/-- The transaction of `_finish_evidence_results`: every row is checked before the first is written. -/
def finishRows (s : Store) (results : List (EvidenceQueryKey × QueryState)) (held : TaskRow → Bool) (retryAt : Option ℚ) :
    Answer Nat :=
  if !results.all (fun result => (s.tasks.get? result.1).any held) then
    (.error (.keyError "evidence task not found or not owned by caller"), s)
  else (.ok results.length, { s with
    tasks := results.foldl (fun t result => t.update (fun r => r.key = result.1 && held r) (finishedRow result.2 retryAt)) s.tasks })

/-- `_finish_evidence_results`. -/
def finishEvidenceResults (s : Store) (clock : PyFloat) (results : List QueryResult) (owner : Option String)
    (retryAt : Option PyFloat) : Answer Nat :=
  if keyed results = [] then (.ok 0, s)
  else if retryAt.any (fun t => (finiteReading t).isNone) then
    (.error (.valueError "evidence retry_at must be finite and non-negative"), s)
  else
    match owner with
    | none =>
      match resultProblem [] (keyed results) with
      | some err => (.error err, s)
      | none => finishRows s (keyed results) (fun _ => true) (retryAt.bind finiteReading)
    | some owner =>
      if blank owner then (.error (.valueError "owner must be a non-empty string"), s)
      else
        match finiteReading clock with
        | none => (.error (.valueError "evidence finish clock must be finite and non-negative"), s)
        | some now =>
          match resultProblem [] (keyed results) with
          | some err => (.error err, s)
          | none => finishRows s (keyed results) (ownedBy owner now) (retryAt.bind finiteReading)

/-- `finish_evidence_tasks`. -/
def finishEvidenceTasks (s : Store) (clock : PyFloat) (results : List QueryResult) (owner : String) : Answer Nat :=
  if owner = "" then (.error (.valueError "owner is required"), s)
  else finishEvidenceResults s clock results (some owner) none

/-- `finish_evidence_task`. -/
def finishEvidenceTask (s : Store) (clock : PyFloat) (key : EvidenceQueryKey) (state : QueryState) (owner : Option String)
    (retryAt : Option PyFloat) : Answer Nat :=
  finishEvidenceResults s clock [⟨some key, state⟩] owner retryAt

/-- What is wrong with the follow-ups of a range task. -/
def followupProblem (key : EvidenceQueryKey) (followups : List EvidenceQueryKey) : Option PyError :=
  followups.findSome? fun followup =>
    if followup.yearFrom ≠ followup.yearTo then some (.valueError "range follow-up tasks must be exact-year keys")
    else if followup.hostname ≠ key.hostname || followup.provider ≠ key.provider || followup.policyVersion ≠ key.policyVersion ||
        !(key.yearFrom ≤ followup.yearFrom && followup.yearFrom ≤ key.yearTo) then
      some (.valueError "range follow-up key does not match parent range")
    else none

/-- `finish_range_task`. -/
def finishRangeTask (s : Store) (clock : PyFloat) (key : EvidenceQueryKey) (state : QueryState)
    (followups : List EvidenceQueryKey) (owner : String) : Answer Nat :=
  if owner = "" then (.error (.valueError "owner is required"), s)
  else if key.yearFrom = key.yearTo then (.error (.valueError "range task must span multiple years"), s)
  else if !terminalStates.contains state then (.error (.valueError "range task can only finish in a terminal state"), s)
  else
    match followupProblem key followups with
    | some err => (.error err, s)
    | none =>
      if blank owner then (.error (.valueError "owner is required"), s)
      else
        match finiteReading clock with
        | none => (.error (.valueError "evidence finish clock must be finite and non-negative"), s)
        | some now =>
          if !(s.tasks.get? key).any (ownedBy owner now) then (.error (.keyError "range task not found or not owned by caller"), s)
          else
            let closed := { s with tasks := s.tasks.update (fun r => r.key = key && ownedBy owner now r) (finishedRow state none) }
            (.ok (insertedCount closed followups), insertTasks closed followups)

/-- `DurableEvidenceQueue.renew`: the owner's rows are renewed, also expired ones. -/
def renew (s : Store) (clock : PyFloat) (keys : List EvidenceQueryKey) (owner : String) (leaseSeconds : PyFloat) : Answer Nat :=
  if blank owner then (.error (.valueError "owner is required"), s)
  else
    match (finiteReading leaseSeconds).filter (0 < ·) with
    | none => (.error (.valueError "lease_seconds must be finite and positive"), s)
    | some seconds =>
      if keys.eraseDups = [] then (.ok 0, s)
      else
        match finiteReading clock with
        | none => (.error (.valueError "queue clock must be finite and non-negative"), s)
        | some now =>
          (.ok (keys.eraseDups.countP (fun key => (s.tasks.get? key).any (·.leaseOwner = some owner))), { s with
            tasks := keys.eraseDups.foldl (fun t key => t.update (fun r => r.key = key && r.leaseOwner = some owner)
              ({ · with leaseUntil := some (now + seconds) })) s.tasks })

/-! ## Interleavings -/

inductive QueueOp
  | enqueue (keys : List EvidenceQueryKey)
  /-- `ControlStore.claim_evidence_tasks`. -/
  | claim (limit : Int) (leaseSeconds : Option PyFloat) (keys : Option (List EvidenceQueryKey))
  /-- `DurableEvidenceQueue.claim`. -/
  | queueClaim (limit : Int) (providers : List String) (leaseSeconds : PyFloat)
  | renew (keys : List EvidenceQueryKey) (leaseSeconds : PyFloat)
  | finishTask (key : EvidenceQueryKey) (state : QueryState) (retryAt : Option PyFloat)
  | finishTasks (results : List QueryResult)
  | finishRange (key : EvidenceQueryKey) (state : QueryState) (followups : List EvidenceQueryKey)

/-- A call of an owner, at a reading of the clock. -/
structure QueueEvent where
  now : ℚ
  owner : String
  op : QueueOp

inductive Reply
  | tasks (claimed : List EvidenceTask)
  | count (n : Nat)
  deriving DecidableEq

abbrev Outcome := Except PyError Reply

def step (s : Store) (e : QueueEvent) : Outcome × Store :=
  match e.op with
  | .enqueue keys => (.count <$> (enqueueEvidenceTasks s keys).1, (enqueueEvidenceTasks s keys).2)
  | .claim limit seconds keys =>
    (.tasks <$> (claimEvidenceTasks s (.fin e.now) e.owner limit seconds keys).1,
      (claimEvidenceTasks s (.fin e.now) e.owner limit seconds keys).2)
  | .queueClaim limit providers seconds =>
    (.tasks <$> (queueClaim s (.fin e.now) e.owner limit providers seconds).1,
      (queueClaim s (.fin e.now) e.owner limit providers seconds).2)
  | .renew keys seconds =>
    (.count <$> (renew s (.fin e.now) keys e.owner seconds).1, (renew s (.fin e.now) keys e.owner seconds).2)
  | .finishTask key state retryAt =>
    (.count <$> (finishEvidenceTask s (.fin e.now) key state (some e.owner) retryAt).1,
      (finishEvidenceTask s (.fin e.now) key state (some e.owner) retryAt).2)
  | .finishTasks results =>
    (.count <$> (finishEvidenceTasks s (.fin e.now) results e.owner).1, (finishEvidenceTasks s (.fin e.now) results e.owner).2)
  | .finishRange key state followups =>
    (.count <$> (finishRangeTask s (.fin e.now) key state followups e.owner).1,
      (finishRangeTask s (.fin e.now) key state followups e.owner).2)

/-- The queue over some statistics and weights, from no tasks. -/
def queue (tables : Store) : Machine Store QueueEvent Outcome where
  initial := { tables with tasks := .empty }
  step := step

/-- The tasks that an accepted call finishes. -/
def QueueOp.finished : QueueOp → List EvidenceQueryKey
  | .finishTask key _ _ | .finishRange key _ _ => [key]
  | .finishTasks results => (keyed results).map (·.1)
  | _ => []

/-- What the caller of a renewal learns: callers give the batch up when the count falls short. -/
def renewedNews (e : QueueEvent) (n : Nat) : List (News String EvidenceQueryKey) :=
  match e.op with
  | .renew keys seconds =>
    if n = keys.eraseDups.length then keys.eraseDups.map (.held e.owner · ((PyFloat.fin e.now).add seconds))
    else keys.eraseDups.map (.ended e.owner ·)
  | _ => []

/-- What the caller of a step learns about its leases. -/
def news (r : Step Store QueueEvent Outcome) : List (News String EvidenceQueryKey) :=
  match r.outcome with
  | .ok (.tasks tasks) => tasks.filterMap fun task => task.leaseUntil.map fun until_ => .held r.event.owner task.key (.fin until_)
  | .ok (.count n) => renewedNews r.event n ++ r.event.op.finished.map (.ended r.event.owner ·)
  | .error _ => []

def heard (tables : Store) (es : List QueueEvent) : List (News String EvidenceQueryKey) := learned (queue tables) news es

/-- A claim that returned a task, or a finish of it. -/
inductive Touch
  | claimed (owner : String)
  | finished (owner : String)
  deriving DecidableEq

/-- The owner that a touch leaves on the row. -/
def Touch.holder : Touch → Option String
  | .claimed owner => some owner
  | .finished _ => none

/-- The call returned the task. -/
def returned (key : EvidenceQueryKey) : Outcome → Bool
  | .ok (.tasks tasks) => tasks.any (·.key = key)
  | _ => false

/-- The call finished the task. -/
def finishes (key : EvidenceQueryKey) (r : Step Store QueueEvent Outcome) : Bool :=
  match r.outcome with
  | .ok (.count _) => r.event.op.finished.contains key
  | _ => false

def touch (key : EvidenceQueryKey) (r : Step Store QueueEvent Outcome) : Option Touch :=
  if returned key r.outcome then some (.claimed r.event.owner)
  else if finishes key r then some (.finished r.event.owner)
  else none

/-- The claims and finishes of a task, in order. -/
def history (tables : Store) (es : List QueueEvent) (key : EvidenceQueryKey) : List Touch :=
  ((queue tables).trace es).filterMap (touch key)

structure QueueSafe (tables : Store) (es : List QueueEvent) : Prop where
  /-- An owner whose last news is a lease that has not run out has it on the row. -/
  owned : ∀ now, Clocked QueueEvent.now es now → ∀ owner key, Live (heard tables es) owner key now →
    ∃ row, ((queue tables).final es).tasks.get? key = some row ∧ ownedBy owner now row
  /-- No two owners hold a lease on one task. -/
  single : ∀ now, Clocked QueueEvent.now es now → ∀ owner owner' key, Live (heard tables es) owner key now →
    Live (heard tables es) owner' key now → owner = owner'
  /-- A task in a terminal state stays as it is. -/
  settled : ∀ before after, es = before ++ after → ∀ key row, ((queue tables).final before).tasks.get? key = some row →
    row.state ∈ terminalStates → ((queue tables).final es).tasks.get? key = some row
  attempts : ∀ row ∈ ((queue tables).final es).tasks.rows,
    row.attempt = ((queue tables).trace es).countP (fun r => returned row.key r.outcome)
  /-- A call that raises changes nothing. -/
  raises : ∀ r ∈ (queue tables).trace es, ∀ err, r.outcome = .error err → r.after = r.before
  accepted : ∀ r ∈ (queue tables).trace es, ∀ key, finishes key r →
    ∃ row, r.before.tasks.get? key = some row ∧ ownedBy r.event.owner r.event.now row
  /-- Every finish is the first since a claim of the same owner. -/
  once : ∀ key before owner after, history tables es key = before ++ .finished owner :: after →
    before.getLast? = some (.claimed owner)

/-! ## One call -/

section
variable (s : Store)

theorem mem_chosen {now : ℚ} {wanted : TaskRow → Bool} {limit : Int} {row : TaskRow} (member : row ∈ s.chosen now wanted limit) :
    row ∈ s.tasks.rows ∧ claimable now row := by
  have candidate := (List.mem_insertionSort _).mp (List.mem_of_mem_take member)
  obtain ⟨stored, open_⟩ := List.mem_filter.mp candidate
  rw [Bool.and_eq_true] at open_
  exact ⟨stored, open_.1⟩

theorem nodup_chosen (now : ℚ) (wanted : TaskRow → Bool) (limit : Int) : ((s.chosen now wanted limit).map (·.key)).Nodup := by
  have candidates : ((s.candidates now wanted).map (·.key)).Nodup := s.tasks.keyed.sublist (List.filter_sublist.map _)
  have sorted := ((List.perm_insertionSort (fun a b => sqlOrder s a ≤ sqlOrder s b) (s.candidates now wanted)).map (·.key)).nodup_iff.mpr
    candidates
  exact sorted.sublist ((List.take_sublist _ _).map _)

inductive ClaimAnswer (now : ℚ) (owner : String) : Answer (List EvidenceTask) → Prop
  | refused (err : PyError) : ClaimAnswer now owner (.error err, s)
  | idle : ClaimAnswer now owner (.ok [], s)
  | granted (rows : List TaskRow) (open_ : ∀ row ∈ rows, row ∈ s.tasks.rows ∧ claimable now row) (until_ : ℚ) (later : now ≤ until_)
      (tasks : Table TaskRow EvidenceQueryKey (·.key))
      (after : ∀ k, tasks.get? k =
        (s.tasks.get? k).map (fun r => if rows.any (·.key = k) then leasedRow owner until_ r else r)) :
      ClaimAnswer now owner (.ok (rows.map (leasedTask owner until_)), { s with tasks := tasks })

theorem claim_cases (now : ℚ) (owner : String) (limit : Int) (leaseSeconds : Option PyFloat) (keys : Option (List EvidenceQueryKey)) :
    ClaimAnswer s now owner (claimEvidenceTasks s (.fin now) owner limit leaseSeconds keys) := by
  unfold claimEvidenceTasks
  split
  · exact .refused _
  split
  · exact .idle
  split
  · exact .refused _
  rename_i seconds reads
  split
  · exact .refused _
  rename_i now' clock
  obtain ⟨same, -⟩ := finiteReading_nonneg clock
  cases same
  split
  · exact .idle
  dsimp only
  refine .granted _ (fun row member => mem_chosen s member) (now + seconds) ?_ _ fun k => ?_
  · exact le_add_of_nonneg_right (finiteReading_nonneg reads).2
  · have folded := Table.get?_foldl_update (s.chosen now (fun row => keys.all (·.contains row.key)) limit) (·.key)
      (nodup_chosen s _ _ _) (fun _ => true) (fun _ => leasedRow owner (now + seconds)) (fun _ _ => rfl) s.tasks k
    simp only [Bool.and_true, if_true] at folded
    rw [folded]
    congr 1
    funext r
    exact elim_find _ _ _ _

theorem queueClaim_cases (now : ℚ) (owner : String) (limit : Int) (providers : List String) (leaseSeconds : PyFloat) :
    ClaimAnswer s now owner (queueClaim s (.fin now) owner limit providers leaseSeconds) := by
  unfold queueClaim
  split
  · exact .refused _
  split
  · exact .idle
  split
  · exact .refused _
  rename_i seconds reads
  obtain ⟨-, positive⟩ := Option.filter_eq_some_iff.mp reads
  dsimp only
  split
  · exact .idle
  split
  · exact .refused _
  rename_i now' clock
  obtain ⟨same, -⟩ := finiteReading_nonneg clock
  cases same
  refine .granted _ (fun row member => mem_chosen s member) (now + seconds) ?_ _ fun k => ?_
  · exact le_add_of_nonneg_right (of_decide_eq_true positive).le
  · rw [Table.get?_foldl_update (s.chosen now _ limit) (·.key) (nodup_chosen s _ _ _) (fun r => r.leaseUntil.all (· ≤ now))
      (fun _ => leasedRow owner (now + seconds)) (fun _ _ => rfl) s.tasks k]
    cases found : s.tasks.get? k with
    | none => rfl
    | some r =>
      simp only [Option.map_some, Option.some.injEq]
      rw [← elim_find]
      cases chosen : (s.chosen now _ limit).find? (fun row => row.key = k) with
      | none => rfl
      | some row =>
        obtain ⟨stored, open_⟩ := mem_chosen s (List.mem_of_find?_eq_some chosen)
        have name : row.key = k := of_decide_eq_true (List.find?_some (p := fun row : TaskRow => decide (row.key = k)) chosen)
        have one : r = row := Table.row_unique (Table.mem_of_get? found) stored ((Table.get?_key found).trans name.symm)
        subst one
        simp only [claimable, Bool.and_eq_true] at open_
        simp only [Option.elim_some, open_.1.2, if_true]

omit s in
theorem nodup_eraseDups {α : Type} [BEq α] [LawfulBEq α] (items : List α) : items.eraseDups.Nodup := by
  match items with
  | [] => simp
  | first :: rest =>
    rw [List.eraseDups_cons]
    refine List.nodup_cons.mpr ⟨?_, nodup_eraseDups _⟩
    simp
termination_by items.length
decreasing_by exact Nat.lt_succ_of_le (List.length_filter_le _ _)

inductive RenewAnswer (now : ℚ) (keys : List EvidenceQueryKey) (owner : String) (leaseSeconds : PyFloat) : Answer Nat → Prop
  | refused (err : PyError) : RenewAnswer now keys owner leaseSeconds (.error err, s)
  | idle (none_ : keys.eraseDups = []) : RenewAnswer now keys owner leaseSeconds (.ok 0, s)
  | granted (seconds : ℚ) (reads : finiteReading leaseSeconds = some seconds) (tasks : Table TaskRow EvidenceQueryKey (·.key))
      (after : ∀ k, tasks.get? k = (s.tasks.get? k).map (fun r =>
        if k ∈ keys.eraseDups ∧ r.leaseOwner = some owner then { r with leaseUntil := some (now + seconds) } else r)) :
      RenewAnswer now keys owner leaseSeconds
        (.ok (keys.eraseDups.countP (fun key => (s.tasks.get? key).any (·.leaseOwner = some owner))), { s with tasks := tasks })

theorem renew_cases (now : ℚ) (keys : List EvidenceQueryKey) (owner : String) (leaseSeconds : PyFloat) :
    RenewAnswer s now keys owner leaseSeconds (renew s (.fin now) keys owner leaseSeconds) := by
  unfold renew
  split
  · exact .refused _
  split
  · exact .refused _
  rename_i seconds reads
  obtain ⟨reads, -⟩ := Option.filter_eq_some_iff.mp reads
  split
  · rename_i none_
    exact .idle none_
  split
  · exact .refused _
  rename_i now' clock
  obtain ⟨same, -⟩ := finiteReading_nonneg clock
  cases same
  refine .granted seconds reads _ fun k => ?_
  refine (Table.get?_foldl_update keys.eraseDups id (by simpa using nodup_eraseDups keys) (fun r => r.leaseOwner = some owner)
    (fun _ r => { r with leaseUntil := some (now + seconds) }) (fun _ _ => rfl) s.tasks k).trans ?_
  congr 1
  funext r
  rw [elim_find keys.eraseDups (fun a => decide (id a = k)) (if decide (r.leaseOwner = some owner) = true then
    { r with leaseUntil := some (now + seconds) } else r) r]
  by_cases asked : k ∈ keys <;> simp [asked]

theorem resultProblem_none {seen : List EvidenceQueryKey} {results : List (EvidenceQueryKey × QueryState)}
    (sound : resultProblem seen results = none) : (results.map (·.1)).Nodup ∧ ∀ key ∈ results.map (·.1), key ∉ seen := by
  induction results generalizing seen with
  | nil => simp
  | cons first rest ih =>
    obtain ⟨key, state⟩ := first
    unfold resultProblem at sound
    split at sound
    · cases sound
    rename_i new
    split at sound
    · cases sound
    obtain ⟨distinct, apart⟩ := ih sound
    have fresh : key ∉ seen := by simpa using new
    refine ⟨List.nodup_cons.mpr ⟨fun again => ?_, distinct⟩, ?_⟩
    · exact apart key again List.mem_cons_self
    · intro other member
      rcases List.mem_cons.mp member with rfl | later
      · exact fresh
      · exact fun old => apart other later (List.mem_cons_of_mem _ old)

inductive FinishAnswer (now : ℚ) (results : List (EvidenceQueryKey × QueryState)) (owner : String) : Answer Nat → Prop
  | refused (err : PyError) : FinishAnswer now results owner (.error err, s)
  | idle (none_ : results = []) : FinishAnswer now results owner (.ok 0, s)
  | accepted (owned : ∀ result ∈ results, ∃ row, s.tasks.get? result.1 = some row ∧ ownedBy owner now row) (retryAt : Option ℚ)
      (tasks : Table TaskRow EvidenceQueryKey (·.key))
      (after : ∀ k, tasks.get? k = (s.tasks.get? k).map (fun r =>
        (results.find? (fun result => result.1 = k)).elim r (fun result => finishedRow result.2 retryAt r))) :
      FinishAnswer now results owner (.ok results.length, { s with tasks := tasks })

theorem finishResults_cases (now : ℚ) (results : List QueryResult) (owner : String) (retryAt : Option PyFloat) :
    FinishAnswer s now (keyed results) owner (finishEvidenceResults s (.fin now) results (some owner) retryAt) := by
  unfold finishEvidenceResults
  split
  · rename_i none_
    exact .idle none_
  split
  · exact .refused _
  dsimp only
  split
  · exact .refused _
  split
  · exact .refused _
  rename_i now' clock
  obtain ⟨same, -⟩ := finiteReading_nonneg clock
  cases same
  split
  · exact .refused _
  rename_i sound
  unfold finishRows
  split
  · exact .refused _
  rename_i all
  simp only [Bool.not_eq_true', Bool.not_eq_false, List.all_eq_true, Option.any_eq_true] at all
  have owned : ∀ result ∈ keyed results, ∃ row, s.tasks.get? result.1 = some row ∧ ownedBy owner now row := by
    intro result member
    obtain ⟨row, found, held⟩ := all result member
    exact ⟨row, found, held⟩
  refine .accepted owned (retryAt.bind finiteReading) _ fun k => ?_
  rw [Table.get?_foldl_update (keyed results) (·.1) (resultProblem_none sound).1 (ownedBy owner now)
    (fun result => finishedRow result.2 (retryAt.bind finiteReading)) (fun _ _ => rfl) s.tasks k]
  cases found : s.tasks.get? k with
  | none => rfl
  | some r =>
    simp only [Option.map_some, Option.some.injEq]
    cases first : (keyed results).find? (fun result => result.1 = k) with
    | none => rfl
    | some result =>
      have name : result.1 = k := of_decide_eq_true (List.find?_some (p := fun a : _ × _ => decide (a.1 = k)) first)
      obtain ⟨row, isRow, held⟩ := owned result (List.mem_of_find?_eq_some first)
      rw [name, found] at isRow
      cases isRow
      simp only [Option.elim_some, held, if_true]

theorem finishTask_cases (now : ℚ) (key : EvidenceQueryKey) (state : QueryState) (owner : String) (retryAt : Option PyFloat) :
    FinishAnswer s now [(key, state)] owner (finishEvidenceTask s (.fin now) key state (some owner) retryAt) :=
  finishResults_cases s now [⟨some key, state⟩] owner retryAt

theorem finishTasks_cases (now : ℚ) (results : List QueryResult) (owner : String) :
    FinishAnswer s now (keyed results) owner (finishEvidenceTasks s (.fin now) results owner) := by
  unfold finishEvidenceTasks
  split
  · exact .refused _
  · exact finishResults_cases s now results owner none

theorem get?_insertTasks (keys : List EvidenceQueryKey) (k : EvidenceQueryKey) :
    (insertTasks s keys).tasks.get? k = (s.tasks.get? k).or (if k ∈ keys then some (freshRow s k) else none) := by
  rw [insertTasks, Table.get?_foldl_insert keys (freshRow s) s.tasks k]
  congr 1
  cases found : keys.find? (fun a => (freshRow s a).key = k) with
  | none =>
    have absent : k ∉ keys := by
      intro member
      have bad := List.find?_eq_none.mp found k member
      exact bad (decide_eq_true rfl)
    simp [absent]
  | some a =>
    have name : a = k := of_decide_eq_true (List.find?_some (p := fun a => decide ((freshRow s a).key = k)) found)
    subst name
    simp [List.mem_of_find?_eq_some found]

/-- The answers of `finish_range_task`. -/
inductive RangeAnswer (now : ℚ) (key : EvidenceQueryKey) (state : QueryState) (followups : List EvidenceQueryKey) (owner : String) :
    Answer Nat → Prop
  | refused (err : PyError) : RangeAnswer now key state followups owner (.error err, s)
  | accepted (row : TaskRow) (found : s.tasks.get? key = some row) (owned : ownedBy owner now row) (n : Nat)
      (tasks : Table TaskRow EvidenceQueryKey (·.key))
      (after : ∀ k, tasks.get? k = ((s.tasks.get? k).map (fun r => if k = key then finishedRow state none r else r)).or
        (if k ∈ followups then some (freshRow s k) else none)) :
      RangeAnswer now key state followups owner (.ok n, { s with tasks := tasks })

theorem range_cases (now : ℚ) (key : EvidenceQueryKey) (state : QueryState) (followups : List EvidenceQueryKey) (owner : String) :
    RangeAnswer s now key state followups owner (finishRangeTask s (.fin now) key state followups owner) := by
  unfold finishRangeTask
  split
  · exact .refused _
  split
  · exact .refused _
  split
  · exact .refused _
  split
  · exact .refused _
  split
  · exact .refused _
  split
  · exact .refused _
  rename_i now' clock
  obtain ⟨same, -⟩ := finiteReading_nonneg clock
  cases same
  split
  · exact .refused _
  rename_i held
  simp only [Bool.not_eq_true', Bool.not_eq_false] at held
  obtain ⟨row, found, owned⟩ := (Option.any_eq_true _ _).mp held
  refine .accepted row found owned _ _ fun k => ?_
  refine (get?_insertTasks { s with
    tasks := s.tasks.update (fun r => r.key = key && ownedBy owner now r) (finishedRow state none) } followups k).trans ?_
  rw [Table.get?_update]
  congr 1
  cases isRow : s.tasks.get? k with
  | none => rfl
  | some r =>
    simp only [Option.map_some, Option.some.injEq]
    have name : r.key = k := Table.get?_key isRow
    by_cases here : k = key
    · subst here
      rw [found] at isRow
      cases isRow
      simp [name, owned]
    · simp [name, here]

end

/-! ## One step -/

/-- What a step makes of the row of a key, the touch that it leaves, and what its caller learns of the lease. -/
inductive KeyMove (s : Store) (e : QueueEvent) (key : EvidenceQueryKey) :
    Option TaskRow → Option Touch → Option (Option PyFloat) → Prop
  | same (told : Option (Option PyFloat)) (nothing : ∀ expires, told ≠ some (some expires)) :
    KeyMove s e key (s.tasks.get? key) none told
  | entered (absent : s.tasks.get? key = none) : KeyMove s e key (some (freshRow s key)) none none
  | claimed (row : TaskRow) (found : s.tasks.get? key = some row) (open_ : claimable e.now row) (until_ : ℚ) :
    KeyMove s e key (some (leasedRow e.owner until_ row)) (some (.claimed e.owner)) (some (some (.fin until_)))
  | renewed (row : TaskRow) (found : s.tasks.get? key = some row) (mine : row.leaseOwner = some e.owner) (until_ : ℚ)
    (told : Option PyFloat) (word : told = some (.fin until_) ∨ told = none) :
    KeyMove s e key (some { row with leaseUntil := some until_ }) none (some told)
  | finished (row : TaskRow) (found : s.tasks.get? key = some row) (owned : ownedBy e.owner e.now row) (state : QueryState)
    (retryAt : Option ℚ) : KeyMove s e key (some (finishedRow state retryAt row)) (some (.finished e.owner)) (some none)

def Moves (key : EvidenceQueryKey) (r : Step Store QueueEvent Outcome) : Prop :=
  ∃ told, (∀ belief w, ticketFrom belief (news r) w key = if r.event.owner = w then told.getD belief else belief) ∧
    KeyMove r.before r.event key (r.after.tasks.get? key) (touch key r) told

section
variable (s : Store) (e : QueueEvent) (key : EvidenceQueryKey)

theorem moves_of {s s' : Store} {e : QueueEvent} {key : EvidenceQueryKey} {outcome : Outcome} {row? : Option TaskRow}
    {touched : Option Touch} (told : Option (Option PyFloat)) (move : KeyMove s e key row? touched told)
    (after : s'.tasks.get? key = row?) (record : touch key ⟨s, e, outcome, s'⟩ = touched)
    (learnt : ∀ belief w, ticketFrom belief (news ⟨s, e, outcome, s'⟩) w key = if e.owner = w then told.getD belief else belief) :
    Moves key ⟨s, e, outcome, s'⟩ := by
  subst after record
  exact ⟨told, learnt, move⟩

/-- A call without news leaves the key or enters it. -/
theorem quiet_moves {outcome : Outcome} {s' : Store} (silent : news ⟨s, e, outcome, s'⟩ = [])
    (untouched : touch key ⟨s, e, outcome, s'⟩ = none)
    (after : s'.tasks.get? key = s.tasks.get? key ∨ s.tasks.get? key = none ∧ s'.tasks.get? key = some (freshRow s key)) :
    Moves key ⟨s, e, outcome, s'⟩ := by
  have learnt : ∀ belief w, ticketFrom belief (news ⟨s, e, outcome, s'⟩) w key = if e.owner = w then belief else belief := by
    simp [silent]
  rcases after with same | ⟨absent, entered⟩
  · exact moves_of none (.same none (by simp)) same untouched learnt
  · exact moves_of none (.entered absent) entered untouched learnt

theorem refused_moves (err : PyError) : Moves key ⟨s, e, .error err, s⟩ :=
  quiet_moves s e key rfl rfl (.inl rfl)

theorem claim_moves {answer : Answer (List EvidenceTask)} (cases_ : ClaimAnswer s e.now e.owner answer) :
    Moves key ⟨s, e, .tasks <$> answer.1, answer.2⟩ := by
  cases cases_ with
  | refused err => exact refused_moves s e key err
  | idle => exact quiet_moves s e key rfl rfl (.inl rfl)
  | granted rows open_ until_ later tasks after =>
    show Moves key ⟨s, e, .ok (.tasks (rows.map (leasedTask e.owner until_))), { s with tasks := tasks }⟩
    have told : news ⟨s, e, .ok (.tasks (rows.map (leasedTask e.owner until_))), { s with tasks := tasks }⟩ =
        (rows.map (·.key)).map (.held e.owner · (.fin until_)) := by
      simp [news, leasedTask, List.filterMap_map, Function.comp_def]
    have names : returned key (.ok (.tasks (rows.map (leasedTask e.owner until_)))) = rows.any (·.key = key) := by
      rw [returned, List.any_map]
      rfl
    by_cases mine : rows.any (·.key = key)
    · obtain ⟨row, member, name⟩ := List.any_eq_true.mp mine
      have name := of_decide_eq_true name
      obtain ⟨stored, open_⟩ := open_ row member
      have found : s.tasks.get? key = some row := name ▸ Table.get?_mem stored
      refine moves_of (some (some (.fin until_))) (.claimed row found open_ until_) ?_ ?_ fun belief w => ?_
      · rw [after key, found, Option.map_some, if_pos mine]
      · rw [touch, names, if_pos mine]
      · have asked : key ∈ rows.map (·.key) := by
          simpa using mine
        rw [told, ticketFrom_held]
        simp [asked]
    · refine moves_of none (.same none (by simp)) ?_ ?_ fun belief w => ?_
      · rw [after key]
        simp [mine]
      · rw [touch, names, if_neg mine]
        rfl
      · have absent : key ∉ rows.map (·.key) := by
          simpa using mine
        rw [told, ticketFrom_held]
        simp [absent]

theorem finish_moves {results : List (EvidenceQueryKey × QueryState)} {answer : Answer Nat}
    (cases_ : FinishAnswer s e.now results e.owner answer) (names : e.op.finished = results.map (·.1))
    (other : ∀ n, renewedNews e n = []) : Moves key ⟨s, e, .count <$> answer.1, answer.2⟩ := by
  have told : ∀ n s', news ⟨s, e, .ok (.count n), s'⟩ = (results.map (·.1)).map (.ended e.owner ·) := by
    intro n s'
    simp [news, other, names]
  have touched : ∀ n s', touch key ⟨s, e, .ok (.count n), s'⟩ =
      if key ∈ results.map (·.1) then some (.finished e.owner) else none := by
    intro n s'
    simp only [touch, returned, finishes, Bool.false_eq_true, if_false, List.contains_iff_mem]
    rw [names]
  cases cases_ with
  | refused err => exact refused_moves s e key err
  | idle none_ =>
    subst none_
    exact quiet_moves s e key (told 0 s) (touched 0 s) (.inl rfl)
  | accepted owned retryAt tasks after =>
    show Moves key ⟨s, e, .ok (.count results.length), { s with tasks := tasks }⟩
    cases first : results.find? (fun result => result.1 = key) with
    | some result =>
      have name : result.1 = key := of_decide_eq_true (List.find?_some (p := fun a : _ × _ => decide (a.1 = key)) first)
      have asked : key ∈ results.map (·.1) := List.mem_map.mpr ⟨result, List.mem_of_find?_eq_some first, name⟩
      obtain ⟨row, found, held⟩ := owned result (List.mem_of_find?_eq_some first)
      rw [name] at found
      refine moves_of (some none) (.finished row found held result.2 retryAt) ?_ ?_ fun belief w => ?_
      · rw [after key, found, Option.map_some, first]
        rfl
      · rw [touched, if_pos asked]
      · rw [told, ticketFrom_ended]
        simp [asked]
    | none =>
      have absent : key ∉ results.map (·.1) := by
        intro member
        obtain ⟨result, member, name⟩ := List.mem_map.mp member
        exact List.find?_eq_none.mp first result member (decide_eq_true name)
      refine moves_of none (.same none (by simp)) ?_ ?_ fun belief w => ?_
      · rw [after key, first]
        simp
      · rw [touched, if_neg absent]
      · rw [told, ticketFrom_ended]
        simp [absent]

theorem renew_moves {keys : List EvidenceQueryKey} {leaseSeconds : PyFloat} {answer : Answer Nat}
    (op : e.op = .renew keys leaseSeconds) (cases_ : RenewAnswer s e.now keys e.owner leaseSeconds answer) :
    Moves key ⟨s, e, .count <$> answer.1, answer.2⟩ := by
  have untouched : ∀ n s', touch key ⟨s, e, .ok (.count n), s'⟩ = none := by
    intro n s'
    simp [touch, returned, finishes, op, QueueOp.finished]
  have told : ∀ n s', news ⟨s, e, .ok (.count n), s'⟩ =
      if n = keys.eraseDups.length then keys.eraseDups.map (.held e.owner · ((PyFloat.fin e.now).add leaseSeconds))
      else keys.eraseDups.map (.ended e.owner ·) := by
    intro n s'
    simp [news, renewedNews, op, QueueOp.finished]
  cases cases_ with
  | refused err => exact refused_moves s e key err
  | idle none_ =>
    refine quiet_moves s e key ?_ (untouched 0 s) (.inl rfl)
    refine (told 0 s).trans ?_
    simp [none_]
  | granted seconds reads tasks after =>
    obtain ⟨rfl, -⟩ := finiteReading_nonneg reads
    generalize count : keys.eraseDups.countP (fun key => (s.tasks.get? key).any (·.leaseOwner = some e.owner)) = n
    show Moves key ⟨s, e, .ok (.count n), { s with tasks := tasks }⟩
    have full : n = keys.eraseDups.length → ∀ k ∈ keys.eraseDups, ∃ row, s.tasks.get? k = some row ∧ row.leaseOwner = some e.owner := by
      rintro rfl k member
      have held := List.countP_eq_length.mp count k member
      obtain ⟨row, found, mine⟩ := (Option.any_eq_true _ _).mp held
      exact ⟨row, found, of_decide_eq_true mine⟩
    by_cases mine : key ∈ keys.eraseDups ∧ ∃ row, s.tasks.get? key = some row ∧ row.leaseOwner = some e.owner
    · obtain ⟨asked, row, found, mine⟩ := mine
      have row' : tasks.get? key = some { row with leaseUntil := some (e.now + seconds) } := by
        rw [after key, found, Option.map_some, if_pos ⟨asked, mine⟩]
      by_cases all : n = keys.eraseDups.length
      · refine moves_of (some (some (.fin (e.now + seconds)))) (.renewed row found mine _ _ (.inl rfl)) row' (untouched _ _) fun belief w => ?_
        rw [told, if_pos all, ticketFrom_held]
        simp [asked, PyFloat.add]
      · refine moves_of (some none) (.renewed row found mine _ _ (.inr rfl)) row' (untouched _ _) fun belief w => ?_
        rw [told, if_neg all, ticketFrom_ended]
        simp [asked]
    · have same : tasks.get? key = s.tasks.get? key := by
        rw [after key]
        cases found : s.tasks.get? key with
        | none => rfl
        | some row =>
          have other : ¬(key ∈ keys.eraseDups ∧ row.leaseOwner = some e.owner) := fun both => mine ⟨both.1, row, found, both.2⟩
          rw [Option.map_some, if_neg other]
      by_cases asked : key ∈ keys.eraseDups
      · have short : n ≠ keys.eraseDups.length := fun all => mine ⟨asked, full all key asked⟩
        refine moves_of (some none) (.same _ (by simp)) same (untouched _ _) fun belief w => ?_
        rw [told, if_neg short, ticketFrom_ended]
        simp [asked]
      · refine moves_of none (.same _ (by simp)) same (untouched _ _) fun belief w => ?_
        rw [told]
        split
        · rw [ticketFrom_held]
          simp [asked]
        · rw [ticketFrom_ended]
          simp [asked]

theorem range_moves {k : EvidenceQueryKey} {state : QueryState} {followups : List EvidenceQueryKey} {answer : Answer Nat}
    (op : e.op = .finishRange k state followups) (cases_ : RangeAnswer s e.now k state followups e.owner answer) :
    Moves key ⟨s, e, .count <$> answer.1, answer.2⟩ := by
  cases cases_ with
  | refused err => exact refused_moves s e key err
  | accepted row found owned n tasks after =>
    show Moves key ⟨s, e, .ok (.count n), { s with tasks := tasks }⟩
    have told : news ⟨s, e, .ok (.count n), { s with tasks := tasks }⟩ = [.ended e.owner k] := by
      simp [news, renewedNews, op, QueueOp.finished]
    have touched : touch key ⟨s, e, .ok (.count n), { s with tasks := tasks }⟩ =
        if key = k then some (.finished e.owner) else none := by
      simp [touch, returned, finishes, op, QueueOp.finished]
    by_cases here : key = k
    · subst here
      refine moves_of (some none) (.finished row found owned state none) ?_ (touched.trans (if_pos rfl)) fun belief w => ?_
      · rw [after key, found, Option.map_some, if_pos rfl]
        rfl
      · rw [told]
        simp [believe]
    · have learnt : ∀ belief w, ticketFrom belief (news ⟨s, e, .ok (.count n), { s with tasks := tasks }⟩) w key =
          if e.owner = w then belief else belief := by
        intro belief w
        rw [told]
        simp [believe, Ne.symm here]
      have rows := after key
      simp only [if_neg here, Option.map_id'] at rows
      cases stored : s.tasks.get? key with
      | some r =>
        refine moves_of none (.same none (by simp)) ?_ (touched.trans (if_neg here)) learnt
        rw [rows, stored]
        rfl
      | none =>
        rw [stored, Option.none_or] at rows
        by_cases new : key ∈ followups
        · exact moves_of none (.entered stored) (rows.trans (if_pos new)) (touched.trans (if_neg here)) learnt
        · refine moves_of none (.same none (by simp)) ?_ (touched.trans (if_neg here)) learnt
          exact (rows.trans (if_neg new)).trans stored.symm

theorem enqueue_moves {keys : List EvidenceQueryKey} (op : e.op = .enqueue keys) (n : Nat) :
    Moves key ⟨s, e, .ok (.count n), insertTasks s keys.eraseDups⟩ := by
  refine quiet_moves s e key ?_ ?_ ?_
  · simp [news, renewedNews, op, QueueOp.finished]
  · simp [touch, returned, finishes, op, QueueOp.finished]
  · rw [get?_insertTasks]
    cases stored : s.tasks.get? key with
    | some r => exact .inl rfl
    | none =>
      by_cases new : key ∈ keys.eraseDups
      · exact .inr ⟨rfl, by rw [if_pos new]; rfl⟩
      · exact .inl (by rw [if_neg new]; rfl)

theorem take_moves (tables : Store) : Moves key ((queue tables).take s e) := by
  obtain ⟨now, owner, op⟩ := e
  cases op with
  | enqueue keys => exact enqueue_moves s _ key rfl _
  | claim limit seconds keys => exact claim_moves s ⟨now, owner, _⟩ key (claim_cases s now owner limit seconds keys)
  | queueClaim limit providers seconds =>
    exact claim_moves s ⟨now, owner, _⟩ key (queueClaim_cases s now owner limit providers seconds)
  | renew keys seconds => exact renew_moves s ⟨now, owner, _⟩ key rfl (renew_cases s now keys owner seconds)
  | finishTask k state retryAt =>
    exact finish_moves s ⟨now, owner, _⟩ key (finishTask_cases s now k state owner retryAt) rfl fun _ => rfl
  | finishTasks results => exact finish_moves s ⟨now, owner, _⟩ key (finishTasks_cases s now results owner) rfl fun _ => rfl
  | finishRange k state followups => exact range_moves s ⟨now, owner, _⟩ key rfl (range_cases s now k state followups owner)

theorem step_moves (tables : Store) : ∃ told,
    (∀ belief w, ticketFrom belief (news ((queue tables).take s e)) w key = if e.owner = w then told.getD belief else belief) ∧
      KeyMove s e key ((step s e).2.tasks.get? key) (touch key ((queue tables).take s e)) told :=
  take_moves s e key tables

theorem step_raises {err : PyError} (raised : (step s e).1 = .error err) : (step s e).2 = s := by
  obtain ⟨now, owner, op⟩ := e
  cases op with
  | enqueue keys => cases raised
  | claim limit seconds keys =>
    have answer := claim_cases s now owner limit seconds keys
    simp only [step] at raised ⊢
    generalize claimEvidenceTasks s (.fin now) owner limit seconds keys = result at answer raised ⊢
    cases answer <;> first | rfl | cases raised
  | queueClaim limit providers seconds =>
    have answer := queueClaim_cases s now owner limit providers seconds
    simp only [step] at raised ⊢
    generalize queueClaim s (.fin now) owner limit providers seconds = result at answer raised ⊢
    cases answer <;> first | rfl | cases raised
  | renew keys seconds =>
    have answer := renew_cases s now keys owner seconds
    simp only [step] at raised ⊢
    generalize renew s (.fin now) keys owner seconds = result at answer raised ⊢
    cases answer <;> first | rfl | cases raised
  | finishTask k state retryAt =>
    have answer := finishTask_cases s now k state owner retryAt
    simp only [step] at raised ⊢
    generalize finishEvidenceTask s (.fin now) k state (some owner) retryAt = result at answer raised ⊢
    cases answer <;> first | rfl | cases raised
  | finishTasks results =>
    have answer := finishTasks_cases s now results owner
    simp only [step] at raised ⊢
    generalize finishEvidenceTasks s (.fin now) results owner = result at answer raised ⊢
    cases answer <;> first | rfl | cases raised
  | finishRange k state followups =>
    have answer := range_cases s now k state followups owner
    simp only [step] at raised ⊢
    generalize finishRangeTask s (.fin now) k state followups owner = result at answer raised ⊢
    cases answer <;> first | rfl | cases raised

end

/-! ## Runs -/

/-- The owner has a lease on the task until a time. -/
def Held (s : Store) (w : String) (key : EvidenceQueryKey) (expires : PyFloat) : Prop :=
  ∃ row until_, s.tasks.get? key = some row ∧ row.leaseOwner = some w ∧ row.leaseUntil = some until_ ∧ expires = .fin until_

theorem Held.ownedBy {s : Store} {w : String} {key : EvidenceQueryKey} {expires : PyFloat} {now : ℚ} (held : Held s w key expires)
    (inside : PyFloat.lt (.fin now) expires) : ∃ row, s.tasks.get? key = some row ∧ EvidenceQueue.ownedBy w now row := by
  obtain ⟨row, until_, found, owner, column, rfl⟩ := held
  exact ⟨row, found, by simpa [EvidenceQueue.ownedBy, owner, column, PyFloat.lt] using inside⟩

theorem ownedBy_owner {owner : String} {now : ℚ} {row : TaskRow} (owned : ownedBy owner now row) : row.leaseOwner = some owner := by
  rw [ownedBy, Bool.and_eq_true, decide_eq_true_eq] at owned
  exact owned.1

/-- A lease that has not run out survives every call of the others. -/
theorem held_step (tables s : Store) (e : QueueEvent) (w : String) (key : EvidenceQueryKey) (belief : Option PyFloat)
    (before : ∀ expires, belief = some expires → PyFloat.lt (.fin e.now) expires → Held s w key expires) (expires : PyFloat)
    (believed : ticketFrom belief (news ((queue tables).take s e)) w key = some expires)
    (inside : PyFloat.lt (.fin e.now) expires) : Held (step s e).2 w key expires := by
  obtain ⟨told, learnt, move⟩ := step_moves s e key tables
  rw [learnt] at believed
  unfold Held
  generalize (step s e).2.tasks.get? key = row? at move ⊢
  generalize touch key _ = touched at move
  by_cases mine : e.owner = w
  · subst mine
    rw [if_pos rfl] at believed
    cases move with
    | same told nothing =>
      cases told with
      | none => exact before expires believed inside
      | some told =>
        cases told with
        | none => cases believed
        | some told => exact absurd rfl (nothing told)
    | entered absent =>
      obtain ⟨row, until_, found, -⟩ := before expires believed inside
      rw [absent] at found
      cases found
    | claimed row found open_ until_ =>
      cases believed
      exact ⟨_, until_, rfl, rfl, rfl, rfl⟩
    | renewed row found owner until_ told word =>
      rcases word with rfl | rfl
      · cases believed
        exact ⟨_, until_, rfl, owner, rfl, rfl⟩
      · cases believed
    | finished row found owned state retryAt => cases believed
  · rw [if_neg mine] at believed
    have held := before expires believed inside
    obtain ⟨old, until_, found, owner, column, rfl⟩ := held
    cases move with
    | same told nothing => exact ⟨old, until_, found, owner, column, rfl⟩
    | entered absent =>
      rw [absent] at found
      cases found
    | claimed row stored open_ later =>
      rw [found] at stored
      cases stored
      simp only [claimable, column, Bool.and_eq_true, Option.all_some, decide_eq_true_eq] at open_
      exact absurd inside (by simpa [PyFloat.lt] using open_.1.2)
    | renewed row stored owner' =>
      rw [found] at stored
      cases stored
      rw [owner] at owner'
      exact absurd (Option.some.inj owner').symm mine
    | finished row stored owned =>
      rw [found] at stored
      cases stored
      have owner' := ownedBy_owner owned
      rw [owner] at owner'
      exact absurd (Option.some.inj owner').symm mine

theorem live_owned (tables : Store) {es : List QueueEvent} {now : ℚ} (clocked : Clocked QueueEvent.now es now) {owner : String}
    {key : EvidenceQueryKey} (live : Live (heard tables es) owner key now) :
    ∃ row, ((queue tables).final es).tasks.get? key = some row ∧ ownedBy owner now row := by
  obtain ⟨expires, believed, inside⟩ := live
  exact (live_holds (queue tables) news Held (held_step tables) es now clocked owner key expires believed inside).ownedBy
    inside

/-- What the claims and finishes of a task say of its row. -/
structure Accounts (touches : List Touch) (row : TaskRow) : Prop where
  attempt : row.attempt = touches.countP (·.holder.isSome)
  holder : row.leaseOwner = touches.getLast?.bind Touch.holder
  settled : row.state ∈ terminalStates → row.leaseOwner = none

/-- The row of a task is what its history says, and a task without a row has none. -/
def Accounted (s : Store) (key : EvidenceQueryKey) (touches : List Touch) : Prop :=
  (s.tasks.get? key = none → touches = []) ∧ ∀ row, s.tasks.get? key = some row → Accounts touches row

theorem history_snoc (tables : Store) (es : List QueueEvent) (e : QueueEvent) (key : EvidenceQueryKey) :
    history tables (es ++ [e]) key =
      history tables es key ++ (touch key ((queue tables).take ((queue tables).final es) e)).toList := by
  rw [history, Machine.trace_snoc, List.filterMap_append, history]
  rfl

theorem claimable_open {now : ℚ} {row : TaskRow} (open_ : claimable now row) : row.state ∉ terminalStates := by
  simp only [claimable, Bool.and_eq_true, List.contains_iff_mem] at open_
  obtain ⟨⟨state, -⟩, -⟩ := open_
  revert state
  generalize row.state = state
  cases state <;> decide

theorem accounted_step {tables s : Store} {e : QueueEvent} {key : EvidenceQueryKey} {touches : List Touch}
    (accounted : Accounted s key touches) :
    Accounted (step s e).2 key (touches ++ (touch key ((queue tables).take s e)).toList) := by
  obtain ⟨told, -, move⟩ := step_moves s e key tables
  unfold Accounted
  generalize (step s e).2.tasks.get? key = row? at move ⊢
  generalize touch key _ = touched at move ⊢
  cases move with
  | same told nothing =>
    rw [Option.toList_none, List.append_nil]
    exact accounted
  | entered absent =>
    refine ⟨nofun, ?_⟩
    rintro _ ⟨⟩
    rw [accounted.1 absent]
    exact ⟨rfl, rfl, fun _ => rfl⟩
  | claimed row found open_ until_ =>
    refine ⟨nofun, ?_⟩
    rintro _ ⟨⟩
    have old := accounted.2 row found
    have unsettled : row.state ∉ terminalStates := claimable_open open_
    refine ⟨?_, ?_, fun closed => absurd closed unsettled⟩
    · simp [old.attempt, Touch.holder]
    · simp [Touch.holder]
  | renewed row found mine until_ =>
    refine ⟨nofun, ?_⟩
    rintro _ ⟨⟩
    have old := accounted.2 row found
    simp only [Option.toList_none, List.append_nil]
    exact ⟨old.attempt, old.holder, old.settled⟩
  | finished row found owned state retryAt =>
    refine ⟨nofun, ?_⟩
    rintro _ ⟨⟩
    have old := accounted.2 row found
    refine ⟨?_, ?_, fun _ => rfl⟩
    · simp [old.attempt, Touch.holder]
    · simp [Touch.holder]

theorem accounted_final (tables : Store) (key : EvidenceQueryKey) :
    ∀ es, Accounted ((queue tables).final es) key (history tables es key) := by
  refine Machine.run_rule ?_ ?_
  · refine ⟨fun _ => rfl, ?_⟩
    rintro row ⟨⟩
  · intro es e ih
    rw [history_snoc, Machine.final_snoc]
    exact accounted_step ih

theorem settled_step (tables : Store) {s : Store} {e : QueueEvent} {key : EvidenceQueryKey} {touches : List Touch} {row : TaskRow}
    (accounted : Accounted s key touches) (found : s.tasks.get? key = some row) (closed : row.state ∈ terminalStates) :
    (step s e).2.tasks.get? key = some row := by
  obtain ⟨told, -, move⟩ := step_moves s e key tables
  have free := (accounted.2 row found).settled closed
  generalize (step s e).2.tasks.get? key = row? at move ⊢
  generalize touch key _ = touched at move
  cases move with
  | same => exact found
  | entered absent =>
    rw [absent] at found
    cases found
  | claimed row' stored open_ =>
    rw [found] at stored
    cases stored
    exact absurd closed (claimable_open open_)
  | renewed row' stored mine =>
    rw [found] at stored
    cases stored
    rw [free] at mine
    cases mine
  | finished row' stored owned =>
    rw [found] at stored
    cases stored
    have mine := ownedBy_owner owned
    rw [free] at mine
    cases mine

theorem settled_from (tables : Store) (before after : List QueueEvent) {key : EvidenceQueryKey} {row : TaskRow}
    (found : ((queue tables).final before).tasks.get? key = some row) (closed : row.state ∈ terminalStates) :
    ((queue tables).final (before ++ after)).tasks.get? key = some row := by
  induction after using List.reverseRecOn with
  | nil => simpa using found
  | append_singleton after e ih =>
    rw [← List.append_assoc, Machine.final_snoc]
    exact settled_step tables (accounted_final tables key _) ih closed

theorem finished_touch {tables s : Store} {e : QueueEvent} {key : EvidenceQueryKey} {owner : String}
    (recorded : touch key ((queue tables).take s e) = some (.finished owner)) :
    ∃ row, s.tasks.get? key = some row ∧ e.owner = owner ∧ ownedBy e.owner e.now row := by
  obtain ⟨told, -, move⟩ := step_moves s e key tables
  rw [recorded] at move
  generalize (step s e).2.tasks.get? key = row? at move
  cases move with
  | finished row found owned => exact ⟨row, found, rfl, owned⟩

theorem once_final (tables : Store) (key : EvidenceQueryKey) : ∀ es before owner after,
    history tables es key = before ++ .finished owner :: after → before.getLast? = some (.claimed owner) := by
  refine Machine.run_rule ?_ ?_
  · intro before owner after split
    simp [history] at split
  · intro es e ih before owner after split
    rw [history_snoc] at split
    cases recorded : touch key ((queue tables).take ((queue tables).final es) e) with
    | none =>
      rw [recorded, Option.toList_none, List.append_nil] at split
      exact ih before owner after split
    | some touched =>
      rw [recorded, Option.toList_some] at split
      induction after using List.reverseRecOn with
      | nil =>
        obtain ⟨same, last⟩ := List.append_inj' split rfl
        cases last
        obtain ⟨row, found, rfl, owned⟩ := finished_touch recorded
        have holder := ((accounted_final tables key es).2 row found).holder
        rw [ownedBy_owner owned, same] at holder
        cases last : before.getLast? with
        | none => simp [last] at holder
        | some earlier =>
          rw [last] at holder
          cases earlier with
          | claimed owner => simpa [Touch.holder] using holder.symm
          | finished owner => simp [Touch.holder] at holder
      | append_singleton after other _ =>
        rw [← List.cons_append, ← List.append_assoc] at split
        exact ih before owner after (List.append_inj' split rfl).1

theorem queue_safe (tables : Store) (es : List QueueEvent) : QueueSafe tables es where
  owned now clocked owner key live := live_owned tables clocked live
  single now clocked owner owner' key live live' := by
    obtain ⟨row, found, owned⟩ := live_owned tables clocked live
    obtain ⟨row', found', owned'⟩ := live_owned tables clocked live'
    rw [found] at found'
    cases found'
    have same := (ownedBy_owner owned).symm.trans (ownedBy_owner owned')
    exact Option.some.inj same
  settled := by
    rintro before after rfl key row found closed
    exact settled_from tables before after found closed
  attempts row stored := by
    rw [((accounted_final tables row.key es).2 row (Table.get?_mem stored)).attempt, history, List.countP_filterMap]
    congr 1
    funext r
    cases claimed : returned row.key r.outcome <;> cases done : finishes row.key r <;> simp [touch, claimed, done, Touch.holder]
  raises r member err raised := by
    obtain ⟨before, after, -, isStep⟩ := Machine.mem_trace _ member
    rw [isStep] at raised ⊢
    exact step_raises _ _ raised
  accepted r member key done := by
    obtain ⟨before, after, -, isStep⟩ := Machine.mem_trace _ member
    have unclaimed : returned key r.outcome = false := by
      unfold finishes at done
      split at done
      · rename_i n counted
        rw [counted]
        rfl
      · cases done
    have recorded : touch key r = some (.finished r.event.owner) := by
      rw [touch, unclaimed, done]
      rfl
    rw [isStep] at recorded
    obtain ⟨row, found, -, owned⟩ := finished_touch recorded
    rw [isStep]
    exact ⟨row, found, owned⟩
  once key before owner after split := once_final tables key es before owner after split

end Creeper.EvidenceQueue
