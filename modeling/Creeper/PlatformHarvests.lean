import Creeper.Hashing
import Creeper.EvidenceStore

/-!
# Platform-year harvests

`evidence/platform_harvest.py` and the platform part of `ControlStore`: tasks that consume
one provider page at a time under a lease, with a continuation key. Every accepted page
starts where the one before it ended.
-/

namespace Creeper.PlatformHarvests
open Creeper.Runs Creeper.Tables Creeper.PyNumbers Creeper.PyText Creeper.JsonText Creeper.Hashing Creeper.EvidenceStore
open Creeper.EvidenceTasks (officialHost finiteReading finiteReading_nonneg)
open Creeper.FabricModels (PyError blank)

/-! ## Identity -/

inductive PlatformHarvestState
  | ready
  | running
  | partial_
  | retryable
  | complete
  | failedInvalid
  deriving DecidableEq, Repr

/-- `CLAIMABLE_PLATFORM_HARVEST_STATES`. -/
def claimableStates : List PlatformHarvestState := [.ready, .partial_, .retryable]

/-- The arguments of `platform_year_harvest_id`, the subject stripped and in lower case. -/
structure HarvestIdentity where
  provider : String
  subject : String
  targetYear : Int
  requestTemplateHash : String
  policyVersion : String
  sourceKey : String
  reservoirId : String
  exposureId : String
  authorityDigest : String
  deriving DecidableEq

def HarvestIdentity.lineage (i : HarvestIdentity) : List String := [i.sourceKey, i.reservoirId, i.exposureId, i.authorityDigest]

/-- `\uXXXX`. -/
def unicodeEscape (n : Nat) : List Char :=
  ['\\', 'u', Nat.digitChar (n / 4096 % 16), Nat.digitChar (n / 256 % 16), Nat.digitChar (n / 16 % 16), Nat.digitChar (n % 16)]

/-- What `ensure_ascii` makes of a code point of a JSON text. -/
def asciiEscape (c : CodePoint) : List Char :=
  let n := c.toNat
  if n < 127 then [Char.ofNat n]
  else if n < 65536 then unicodeEscape n
  else unicodeEscape (55296 + (n - 65536) / 1024) ++ unicodeEscape (56320 + (n - 65536) % 1024)

/-- The payload that is hashed, its members in key order. -/
def HarvestIdentity.payload (i : HarvestIdentity) : Json :=
  if i.lineage.any (· ≠ "") then .obj [
    (py "authority_digest", .str (py i.authorityDigest)),
    (py "exposure_id", .str (py i.exposureId)),
    (py "policy_version", .str (py i.policyVersion)),
    (py "provider", .str (py i.provider)),
    (py "request_template_hash", .str (py i.requestTemplateHash)),
    (py "reservoir_id", .str (py i.reservoirId)),
    (py "source_key", .str (py i.sourceKey)),
    (py "subject", .str (py i.subject)),
    (py "target_year", .int i.targetYear)]
  else .obj [
    (py "policy_version", .str (py i.policyVersion)),
    (py "provider", .str (py i.provider)),
    (py "request_template_hash", .str (py i.requestTemplateHash)),
    (py "subject", .str (py i.subject)),
    (py "target_year", .int i.targetYear)]

/-- `platform_year_harvest_id`. -/
def platformYearHarvestId (i : HarvestIdentity) : Except PyError String :=
  if !officialHost i.subject then .error (.valueError "platform harvest subject must be a valid hostname")
  else if !(1996 ≤ i.targetYear && i.targetYear ≤ 2001) then
    .error (.valueError "platform harvest year must be an integer within 1996-2001")
  else if blank i.provider || blank i.requestTemplateHash || blank i.policyVersion then
    .error (.valueError "platform harvest identity fields must be non-empty")
  else if i.lineage.any (· ≠ "") && i.lineage.any (blank ·) then .error (.valueError "platform task lineage must be complete")
  else .ok ("platform-year:" ++ sha256Hex (utf8 (String.ofList ((dumps i.payload).flatMap asciiEscape))))

/-! ## Tasks -/

structure PlatformYearHarvestTask where
  harvestId : String
  identity : HarvestIdentity
  resumeKey : Option String
  pageNumber : Nat
  state : PlatformHarvestState
  attempt : Nat
  retryAt : Option ℚ
  claimedBy : Option String
  leaseExpiresAt : Option ℚ
  rowsSeen : Nat
  uniqueHostYearsSeen : Nat
  requests : Nat
  bytes : Nat
  elapsedSeconds : ℚ
  createdAt : ℚ
  updatedAt : ℚ
  completedAt : Option ℚ
  deriving DecidableEq

def PlatformYearHarvestTask.times (t : PlatformYearHarvestTask) : List (String × Option ℚ) := [
  ("retry_at", t.retryAt), ("lease_expires_at", t.leaseExpiresAt), ("created_at", some t.createdAt),
  ("updated_at", some t.updatedAt), ("completed_at", t.completedAt)]

/-- What `__post_init__` rejects; the identity is checked where its hash is computed. -/
def PlatformYearHarvestTask.postInit (t : PlatformYearHarvestTask) : Option PyError :=
  match platformYearHarvestId t.identity with
  | .error err => some err
  | .ok expected =>
    if t.harvestId ≠ expected then some (.valueError "platform harvest id does not match durable identity")
    else if t.elapsedSeconds < 0 then
      some (.valueError "platform harvest floating accounting must be finite and non-negative")
    else (t.times.find? (fun time => time.2.any (· < 0))).map fun time =>
      .valueError (time.1 ++ " must be finite and non-negative")

/-- A row of `platform_year_harvests`. -/
structure HarvestRow extends PlatformYearHarvestTask where
  lastError : Option String
  deriving DecidableEq

/-- `PlatformYearHarvestTask(...)`, also under `replace`. -/
def PlatformYearHarvestTask.make (t : PlatformYearHarvestTask) : Except PyError PlatformYearHarvestTask :=
  match t.postInit with
  | some err => .error err
  | none => .ok t

/-! ## Results -/

structure ResultFields where
  harvestId : String
  provider : String
  subject : String
  targetYear : Int
  requestTemplateHash : String
  policyVersion : String
  resumeKeyUsed : Option String
  state : PlatformHarvestState
  nextResumeKey : Option String
  capsules : List EvidenceCapsule
  rowsSeen : Nat
  requests : Nat
  bytes : Nat
  elapsedSeconds : ℚ
  exhaustive : Bool
  error : Option String

/-- The states that a page may end in. -/
def pageStates : List PlatformHarvestState := [.partial_, .retryable, .complete, .failedInvalid]

def committed (state : PlatformHarvestState) : Bool := state = .partial_ || state = .complete

/-- A hostname is the subject or one of its subdomains. -/
def inside (hostname subject : String) : Bool := hostname = subject || ('.' :: subject.toList).isSuffixOf hostname.toList

/-- What is wrong with the capsules of a page. -/
def capsuleProblem (r : ResultFields) : List HostYear → List EvidenceCapsule → Option String
  | _, [] => none
  | seen, capsule :: rest =>
    if capsule.provider ≠ r.provider then some "platform harvest capsule provider mismatch"
    else if capsule.policyVersion ≠ r.policyVersion then some "platform harvest capsule policy mismatch"
    else if capsule.year ≠ r.targetYear then some "platform harvest capsule must match target year"
    else if !officialHost capsule.hostname || !inside capsule.hostname r.subject then
      some "platform harvest capsule is outside subject domain"
    else if seen.contains capsule.pair then some "platform page keeps at most one capsule per host-year"
    else capsuleProblem r (capsule.pair :: seen) rest

/-- What the checks of `__post_init__` find. -/
def ResultFields.postInit (r : ResultFields) : Option String :=
  if !officialHost r.subject then some "platform harvest result subject must be valid"
  else if !(1996 ≤ r.targetYear && r.targetYear ≤ 2001) then
    some "platform harvest result year must be an integer within 1996-2001"
  else if !pageStates.contains r.state then some "provider result must be a page-completion state"
  else if r.state = .partial_ && r.nextResumeKey.all (· = "") then
    some "partial platform harvest must preserve a continuation"
  else if r.state = .partial_ && r.nextResumeKey = r.resumeKeyUsed then
    some "partial platform harvest must advance the continuation"
  else if r.state ≠ .partial_ && r.nextResumeKey.isSome then
    some "only PARTIAL platform harvest results may publish a continuation"
  else if r.state = .complete && (r.nextResumeKey.isSome || !r.exhaustive) then
    some "complete platform harvest requires explicit provider exhaustion"
  else if r.state ≠ .complete && r.exhaustive then some "only COMPLETE may claim provider exhaustion"
  else if r.elapsedSeconds < 0 then some "platform harvest result elapsed_seconds must be finite and non-negative"
  else capsuleProblem r [] r.capsules

structure PlatformYearHarvestResult extends ResultFields where
  valid : toResultFields.postInit = none

/-! ## Calls -/

/-- A row of `platform_year_harvest_host_years`. -/
structure HostYearSeen where
  harvestId : String
  pair : HostYear
  deriving DecidableEq

structure Store where
  harvests : Table HarvestRow String (·.harvestId)
  hostYears : Table HostYearSeen HostYearSeen (fun row => row)
  defaultLeaseSeconds : PyFloat

abbrev Answer (α : Type) := Except PyError α × Store

/-- `get_platform_year_harvest`, of a stored task. -/
def Store.get (s : Store) (harvestId : String) : Except PyError PlatformYearHarvestTask :=
  match s.harvests.get? harvestId with
  | some row => row.make
  | none => .error (.keyError harvestId)

def freshRow (harvestId : String) (identity : HarvestIdentity) (now : ℚ) : HarvestRow where
  harvestId := harvestId
  identity := identity
  resumeKey := none
  pageNumber := 0
  state := .ready
  attempt := 0
  retryAt := none
  claimedBy := none
  leaseExpiresAt := none
  rowsSeen := 0
  uniqueHostYearsSeen := 0
  requests := 0
  bytes := 0
  elapsedSeconds := 0
  createdAt := now
  updatedAt := now
  completedAt := none
  lastError := none

def clockError : PyError := .valueError "platform harvest clock must be finite and non-negative"
def ownerError : PyError := .valueError "platform harvest owner is required"

/-- `enqueue_platform_year_harvest`. -/
def enqueuePlatformYearHarvest (s : Store) (clock : PyFloat) (identity : HarvestIdentity) : Answer PlatformYearHarvestTask :=
  match platformYearHarvestId identity with
  | .error err => (.error err, s)
  | .ok harvestId =>
    match finiteReading clock with
    | none => (.error clockError, s)
    | some now =>
      let after := { s with harvests := s.harvests.insert (freshRow harvestId identity now) }
      (after.get harvestId, after)

def claimable (now : ℚ) (providers : List String) (row : HarvestRow) : Bool :=
  (claimableStates.contains row.state || row.state = .running && row.leaseExpiresAt.any (· ≤ now)) && row.retryAt.all (· ≤ now) &&
    (providers = [] || providers.contains row.identity.provider)

abbrev claimedRow (owner : String) (expires now : ℚ) (row : HarvestRow) : HarvestRow :=
  { row with
    state := .running, attempt := row.attempt + 1, retryAt := none, claimedBy := some owner,
    leaseExpiresAt := some expires, updatedAt := now }

/-- One turn of the claim: the row is read, and the task that it becomes is made. -/
def claimTask (owner : String) (expires now : ℚ) (row : HarvestRow) : Except PyError PlatformYearHarvestTask := do
  let _ ← row.make
  (claimedRow owner expires now row).make

/-- The rows that a claim chooses. -/
def Store.chosen (s : Store) (now : ℚ) (providers : List String) (limit : Int) : List HarvestRow :=
  ((s.harvests.rows.filter (claimable now providers)).insertionSort
    (fun a b => toLex (a.updatedAt, a.harvestId) ≤ toLex (b.updatedAt, b.harvestId))).take limit.toNat

def Store.claimed (s : Store) (owner : String) (expires now : ℚ) (rows : List HarvestRow) : Store :=
  { s with harvests := rows.foldl (fun t row => t.update (·.harvestId = row.harvestId) (claimedRow owner expires now)) s.harvests }

/-- `claim_platform_year_harvests`. -/
def claimPlatformYearHarvests (s : Store) (clock : PyFloat) (owner : String) (limit : Int) (leaseSeconds : Option PyFloat)
    (providers : Option (List String)) : Answer (List PlatformYearHarvestTask) :=
  if blank owner then (.error ownerError, s)
  else if limit < 1 then (.ok [], s)
  else
    match (finiteReading (leaseSeconds.getD s.defaultLeaseSeconds)).filter (0 < ·) with
    | none => (.error (.valueError "platform harvest lease_seconds must be finite and positive"), s)
    | some seconds =>
      if (providers.getD []).any (blank ·) then (.error (.valueError "platform harvest providers must be non-empty strings"), s)
      else
        match finiteReading clock with
        | none => (.error clockError, s)
        | some now =>
          let rows := s.chosen now (providers.getD []).eraseDups limit
          match rows.mapM (claimTask owner (now + seconds) now) with
          | .error err => (.error err, s)
          | .ok tasks => (.ok tasks, s.claimed owner (now + seconds) now rows)

/-- The owner's live lease is on the row. -/
def ownedBy (owner : String) (now : ℚ) (row : HarvestRow) : Bool :=
  row.state = .running && row.claimedBy = some owner && row.leaseExpiresAt.any (now < ·)

/-- `renew_platform_year_harvest`. -/
def renewPlatformYearHarvest (s : Store) (clock : PyFloat) (harvestId owner : String) (leaseSeconds : Option PyFloat) : Answer ℚ :=
  if blank owner then (.error ownerError, s)
  else
    match (finiteReading (leaseSeconds.getD s.defaultLeaseSeconds)).filter (0 < ·) with
    | none => (.error (.valueError "platform harvest lease_seconds must be finite and positive"), s)
    | some seconds =>
      match finiteReading clock with
      | none => (.error clockError, s)
      | some now =>
        if !(s.harvests.get? harvestId).any (ownedBy owner now) then
          (.error (.runtimeError "platform harvest lease is not live for owner"), s)
        else (.ok (now + seconds), { s with
          harvests := s.harvests.update (fun row => row.harvestId = harvestId && ownedBy owner now row)
            ({ · with leaseExpiresAt := some (now + seconds), updatedAt := now }) })

/-- The result is of the task that the row holds. -/
def answers (result : PlatformYearHarvestResult) (row : HarvestRow) : Bool :=
  result.provider = row.identity.provider && result.subject = row.identity.subject &&
    result.targetYear = row.identity.targetYear && result.requestTemplateHash = row.identity.requestTemplateHash &&
    result.policyVersion = row.identity.policyVersion && result.resumeKeyUsed = row.resumeKey

/-- The host-years that a committed page inserts. -/
def Store.paged (s : Store) (result : PlatformYearHarvestResult) : Table HostYearSeen HostYearSeen (fun row => row) :=
  if committed result.state then
    result.capsules.foldl (fun t capsule => t.insert ⟨result.harvestId, capsule.pair⟩) s.hostYears
  else s.hostYears

/-- The host-years of a task after a page. -/
def Store.uniqueHostYears (s : Store) (result : PlatformYearHarvestResult) : Nat :=
  (s.paged result).rows.countP (·.harvestId = result.harvestId)

abbrev finishedRow (now : ℚ) (retryAt : Option ℚ) (unique : Nat) (result : PlatformYearHarvestResult) (row : HarvestRow) :
    HarvestRow :=
  { row with
    resumeKey := if result.state = .partial_ then result.nextResumeKey else if result.state = .complete then none else row.resumeKey
    pageNumber := row.pageNumber + if committed result.state then 1 else 0
    state := result.state
    retryAt := if result.state = .retryable then retryAt else none
    claimedBy := none
    leaseExpiresAt := none
    rowsSeen := row.rowsSeen + result.rowsSeen
    uniqueHostYearsSeen := unique
    requests := row.requests + result.requests
    bytes := row.bytes + result.bytes
    elapsedSeconds := row.elapsedSeconds + result.elapsedSeconds
    lastError := result.error
    updatedAt := now
    completedAt := if result.state = .complete then some now else row.completedAt }

def Store.finished (s : Store) (owner : String) (now : ℚ) (retryAt : Option ℚ) (result : PlatformYearHarvestResult) : Store :=
  { s with
    hostYears := s.paged result
    harvests := s.harvests.update
      (fun row => row.harvestId = result.harvestId && (row.state = .running && row.claimedBy = some owner))
      (finishedRow now retryAt (s.uniqueHostYears result) result) }

/-- `finish_platform_year_harvest_page`; counts that SQLite cannot take fail its UPDATE. -/
def finishPlatformYearHarvestPage (s : Store) (clock : PyFloat) (result : PlatformYearHarvestResult) (owner : String)
    (retryAt : Option PyFloat) : Answer PlatformYearHarvestTask :=
  if blank owner then (.error ownerError, s)
  else if retryAt.any (fun t => (finiteReading t).isNone) then
    (.error (.valueError "platform harvest retry_at must be finite and non-negative"), s)
  else if result.state = .retryable && retryAt.isNone then
    (.error (.valueError "RETRYABLE platform harvest requires retry_at"), s)
  else if result.state ≠ .retryable && retryAt.isSome then
    (.error (.valueError "retry_at is only valid for RETRYABLE platform harvests"), s)
  else if !pageStates.contains result.state then (.error (.valueError "unsupported platform harvest page state"), s)
  else
    match finiteReading clock with
    | none => (.error clockError, s)
    | some now =>
      match (s.harvests.get? result.harvestId).filter (ownedBy owner now) with
      | none => (.error (.keyError "platform harvest not found or live ownership fence was lost"), s)
      | some row =>
        match row.make with
        | .error err => (.error err, s)
        | .ok _ =>
          if !answers result row then (.error (.valueError "platform harvest result does not match claimed work"), s)
          else if 2 ^ 63 ≤ result.rowsSeen || 2 ^ 63 ≤ result.requests || 2 ^ 63 ≤ result.bytes then (.error .overflowError, s)
          else
            let after := s.finished owner now (retryAt.bind finiteReading) result
            (after.get result.harvestId, after)

/-! ## Interleavings -/

inductive HarvestOp
  | enqueue (identity : HarvestIdentity)
  | claim (limit : Int) (leaseSeconds : Option PyFloat) (providers : Option (List String))
  | renew (harvestId : String) (leaseSeconds : Option PyFloat)
  | finish (result : PlatformYearHarvestResult) (retryAt : Option PyFloat)

/-- A call of a worker, at a reading of the clock. -/
structure HarvestEvent where
  now : ℚ
  owner : String
  op : HarvestOp

inductive Reply
  | task (stored : PlatformYearHarvestTask)
  | tasks (claimed : List PlatformYearHarvestTask)
  | expires (leaseExpiresAt : ℚ)
  deriving DecidableEq

abbrev Outcome := Except PyError Reply

def step (s : Store) (e : HarvestEvent) : Outcome × Store :=
  match e.op with
  | .enqueue identity =>
    (.task <$> (enqueuePlatformYearHarvest s (.fin e.now) identity).1, (enqueuePlatformYearHarvest s (.fin e.now) identity).2)
  | .claim limit leaseSeconds providers =>
    (.tasks <$> (claimPlatformYearHarvests s (.fin e.now) e.owner limit leaseSeconds providers).1,
      (claimPlatformYearHarvests s (.fin e.now) e.owner limit leaseSeconds providers).2)
  | .renew harvestId leaseSeconds =>
    (.expires <$> (renewPlatformYearHarvest s (.fin e.now) harvestId e.owner leaseSeconds).1,
      (renewPlatformYearHarvest s (.fin e.now) harvestId e.owner leaseSeconds).2)
  | .finish result retryAt =>
    (.task <$> (finishPlatformYearHarvestPage s (.fin e.now) result e.owner retryAt).1,
      (finishPlatformYearHarvestPage s (.fin e.now) result e.owner retryAt).2)

/-- The platform harvests of a control store, from none. -/
def harvests (defaultLeaseSeconds : PyFloat) : Machine Store HarvestEvent Outcome where
  initial := ⟨.empty, .empty, defaultLeaseSeconds⟩
  step := step

/-- The page of a task that a step commits. -/
def page (harvestId : String) (r : Step Store HarvestEvent Outcome) : Option PlatformYearHarvestResult :=
  match r.event.op with
  | .finish result _ =>
    match r.outcome with
    | .ok _ => if result.harvestId = harvestId && committed result.state then some result else none
    | .error _ => none
  | _ => none

/-- The committed pages of a task, in order. -/
def pages (defaultLeaseSeconds : PyFloat) (es : List HarvestEvent) (harvestId : String) : List PlatformYearHarvestResult :=
  ((harvests defaultLeaseSeconds).trace es).filterMap (page harvestId)

def hostYearsOf (pages : List PlatformYearHarvestResult) : List HostYear := pages.flatMap (fun page => page.capsules.map (·.pair))

/-- The states that are never left. -/
def closedStates : List PlatformHarvestState := [.complete, .failedInvalid]

structure PagesSafe (defaultLeaseSeconds : PyFloat) (es : List HarvestEvent) : Prop where
  counted : ∀ row ∈ ((harvests defaultLeaseSeconds).final es).harvests.rows,
    row.pageNumber = (pages defaultLeaseSeconds es row.harvestId).length
  /-- The first page starts from nothing, and every other one where the one before it ended. -/
  first : ∀ harvestId, ∀ page ∈ (pages defaultLeaseSeconds es harvestId).head?, page.resumeKeyUsed = none
  chained : ∀ harvestId, (pages defaultLeaseSeconds es harvestId).IsChain
    (fun earlier later => later.resumeKeyUsed = earlier.nextResumeKey)
  distinct : ∀ row ∈ ((harvests defaultLeaseSeconds).final es).harvests.rows,
    row.uniqueHostYearsSeen = (hostYearsOf (pages defaultLeaseSeconds es row.harvestId)).toFinset.card
  /-- A closed task stays as it is. -/
  closed : ∀ before after, es = before ++ after → ∀ row ∈ ((harvests defaultLeaseSeconds).final before).harvests.rows,
    row.state ∈ closedStates → row ∈ ((harvests defaultLeaseSeconds).final es).harvests.rows
  /-- A call that raises changes nothing, a rejected finish among them. -/
  rejected : ∀ r ∈ (harvests defaultLeaseSeconds).trace es, ∀ err, r.outcome = .error err → r.after = r.before

/-! ## Tasks that can be read -/

/-- What the checks of a task leave. -/
structure Sound (t : PlatformYearHarvestTask) : Prop where
  named : platformYearHarvestId t.identity = .ok t.harvestId
  elapsed : 0 ≤ t.elapsedSeconds
  dates : ∀ time ∈ t.times, ∀ at_, time.2 = some at_ → 0 ≤ at_

theorem Sound.make {t : PlatformYearHarvestTask} (sound : Sound t) : t.make = .ok t := by
  have dates : t.times.find? (fun time => time.2.any (· < 0)) = none := by
    refine List.find?_eq_none.mpr fun time member negative => ?_
    obtain ⟨at_, isAt, below⟩ := (Option.any_eq_true _ _).mp negative
    exact absurd (of_decide_eq_true below) (not_lt.mpr (sound.dates time member at_ isAt))
  have passed : t.postInit = none := by
    simp only [PlatformYearHarvestTask.postInit, sound.named, ne_eq, not_true_eq_false, if_false, if_neg (not_lt.mpr sound.elapsed), dates]
    rfl
  rw [PlatformYearHarvestTask.make, passed]

theorem Sound.of_dates {t : PlatformYearHarvestTask} (named : platformYearHarvestId t.identity = .ok t.harvestId)
    (elapsed : 0 ≤ t.elapsedSeconds) (retryAt : ∀ at_, t.retryAt = some at_ → 0 ≤ at_)
    (expires : ∀ at_, t.leaseExpiresAt = some at_ → 0 ≤ at_) (created : 0 ≤ t.createdAt) (updated : 0 ≤ t.updatedAt)
    (completed : ∀ at_, t.completedAt = some at_ → 0 ≤ at_) : Sound t where
  named := named
  elapsed := elapsed
  dates := by
    intro time member at_ isAt
    simp only [PlatformYearHarvestTask.times, List.mem_cons, List.not_mem_nil, or_false] at member
    rcases member with rfl | rfl | rfl | rfl | rfl
    · exact retryAt at_ isAt
    · exact expires at_ isAt
    · cases isAt
      exact created
    · cases isAt
      exact updated
    · exact completed at_ isAt

theorem Sound.created {t : PlatformYearHarvestTask} (sound : Sound t) : 0 ≤ t.createdAt :=
  sound.dates ("created_at", some t.createdAt) (by simp [PlatformYearHarvestTask.times]) _ rfl

theorem Sound.completed {t : PlatformYearHarvestTask} (sound : Sound t) {at_ : ℚ} (isAt : t.completedAt = some at_) : 0 ≤ at_ :=
  sound.dates ("completed_at", t.completedAt) (by simp [PlatformYearHarvestTask.times]) at_ isAt

theorem Sound.retry {t : PlatformYearHarvestTask} (sound : Sound t) {at_ : ℚ} (isAt : t.retryAt = some at_) : 0 ≤ at_ :=
  sound.dates ("retry_at", t.retryAt) (by simp [PlatformYearHarvestTask.times]) at_ isAt

theorem sound_fresh {harvestId : String} {identity : HarvestIdentity} {now : ℚ} (named : platformYearHarvestId identity = .ok harvestId)
    (nonneg : 0 ≤ now) : Sound (freshRow harvestId identity now).toPlatformYearHarvestTask :=
  .of_dates named le_rfl nofun nofun nonneg nonneg nofun

theorem sound_claimed {row : HarvestRow} (sound : Sound row.toPlatformYearHarvestTask) (owner : String) {expires now : ℚ}
    (later : 0 ≤ expires) (nonneg : 0 ≤ now) : Sound (claimedRow owner expires now row).toPlatformYearHarvestTask := by
  refine .of_dates sound.named sound.elapsed nofun ?_ sound.created nonneg fun _ isAt => sound.completed isAt
  rintro at_ ⟨⟩
  exact later

theorem sound_renewed {row : HarvestRow} (sound : Sound row.toPlatformYearHarvestTask) {expires now : ℚ} (later : 0 ≤ expires)
    (nonneg : 0 ≤ now) :
    Sound ({ row with leaseExpiresAt := some expires, updatedAt := now } : HarvestRow).toPlatformYearHarvestTask := by
  refine .of_dates sound.named sound.elapsed (fun _ isAt => sound.retry isAt) ?_ sound.created nonneg fun _ isAt => sound.completed isAt
  rintro at_ ⟨⟩
  exact later

theorem result_elapsed (result : PlatformYearHarvestResult) : 0 ≤ result.elapsedSeconds := by
  by_contra negative
  have valid := result.valid
  unfold ResultFields.postInit at valid
  repeat (split at valid; · cases valid)
  rename_i nonneg
  exact nonneg (not_le.mp negative)

/-- Only a partial page leaves a continuation. -/
theorem result_next (result : PlatformYearHarvestResult) (other : result.state ≠ .partial_) : result.nextResumeKey = none := by
  cases next : result.nextResumeKey with
  | none => rfl
  | some key =>
    have valid := result.valid
    unfold ResultFields.postInit at valid
    repeat (split at valid; · cases valid)
    rename_i continues _ _ _
    exact absurd (by simp [other, next]) continues

theorem sound_finished {row : HarvestRow} (sound : Sound row.toPlatformYearHarvestTask) {now : ℚ} (nonneg : 0 ≤ now) {retryAt : Option ℚ}
    (retry : ∀ at_, retryAt = some at_ → 0 ≤ at_) (unique : Nat) (result : PlatformYearHarvestResult) :
    Sound (finishedRow now retryAt unique result row).toPlatformYearHarvestTask := by
  refine .of_dates sound.named (add_nonneg sound.elapsed (result_elapsed result)) ?_ nofun sound.created nonneg ?_
  · intro at_ isAt
    simp only at isAt
    split at isAt
    · exact retry at_ isAt
    · cases isAt
  · intro at_ isAt
    simp only at isAt
    split at isAt
    · cases isAt
      exact nonneg
    · exact sound.completed isAt

/-! ## One call -/

section
variable (s : Store)

theorem seconds_positive {given : PyFloat} {seconds : ℚ} (reads : (finiteReading given).filter (0 < ·) = some seconds) : 0 < seconds :=
  of_decide_eq_true (Option.filter_eq_some_iff.mp reads).2

inductive EnqueueAnswer (now : ℚ) (identity : HarvestIdentity) : Answer PlatformYearHarvestTask → Prop
  | refused (err : PyError) : EnqueueAnswer now identity (.error err, s)
  | entered (harvestId : String) (named : platformYearHarvestId identity = .ok harvestId) (nonneg : 0 ≤ now) (after : Store)
      (isAfter : after = { s with harvests := s.harvests.insert (freshRow harvestId identity now) }) :
      EnqueueAnswer now identity (after.get harvestId, after)

theorem enqueue_cases (now : ℚ) (identity : HarvestIdentity) :
    EnqueueAnswer s now identity (enqueuePlatformYearHarvest s (.fin now) identity) := by
  unfold enqueuePlatformYearHarvest
  split
  · exact .refused _
  rename_i harvestId named
  split
  · exact .refused _
  rename_i now clock
  obtain ⟨same, nonneg⟩ := finiteReading_nonneg clock
  cases same
  exact .entered harvestId named nonneg _ rfl

inductive ClaimAnswer (now : ℚ) (owner : String) : Answer (List PlatformYearHarvestTask) → Prop
  | refused (err : PyError) : ClaimAnswer now owner (.error err, s)
  | idle : ClaimAnswer now owner (.ok [], s)
  | claimed (rows : List HarvestRow) (open_ : ∀ row ∈ rows, row ∈ s.harvests.rows ∧ ∃ providers, claimable now providers row)
      (expires : ℚ) (nonneg : 0 ≤ now) (later : 0 ≤ expires) (tasks : List PlatformYearHarvestTask)
      (harvests : Table HarvestRow String (·.harvestId))
      (after : ∀ k, harvests.get? k = (s.harvests.get? k).map (fun row =>
        if rows.any (·.harvestId = k) then claimedRow owner expires now row else row)) :
      ClaimAnswer now owner (.ok tasks, { s with harvests := harvests })

theorem mem_chosen {now : ℚ} {providers : List String} {limit : Int} {row : HarvestRow} (member : row ∈ s.chosen now providers limit) :
    row ∈ s.harvests.rows ∧ claimable now providers row :=
  List.mem_filter.mp ((List.mem_insertionSort _).mp (List.mem_of_mem_take member))

theorem nodup_chosen (now : ℚ) (providers : List String) (limit : Int) : ((s.chosen now providers limit).map (·.harvestId)).Nodup := by
  have filtered : ((s.harvests.rows.filter (claimable now providers)).map (·.harvestId)).Nodup :=
    s.harvests.keyed.sublist (List.filter_sublist.map _)
  have sorted := ((List.perm_insertionSort (fun a b : HarvestRow => toLex (a.updatedAt, a.harvestId) ≤ toLex (b.updatedAt, b.harvestId))
    (s.harvests.rows.filter (claimable now providers))).map (·.harvestId)).nodup_iff.mpr filtered
  exact sorted.sublist ((List.take_sublist _ _).map _)

theorem claim_cases (now : ℚ) (owner : String) (limit : Int) (leaseSeconds : Option PyFloat) (providers : Option (List String)) :
    ClaimAnswer s now owner (claimPlatformYearHarvests s (.fin now) owner limit leaseSeconds providers) := by
  unfold claimPlatformYearHarvests
  split
  · exact .refused _
  split
  · exact .idle
  split
  · exact .refused _
  rename_i seconds reads
  split
  · exact .refused _
  split
  · exact .refused _
  rename_i now clock
  obtain ⟨same, nonneg⟩ := finiteReading_nonneg clock
  cases same
  dsimp only
  split
  · exact .refused _
  rename_i tasks made
  refine .claimed (s.chosen now (providers.getD []).eraseDups limit) (fun row member => ?_) (now + seconds) nonneg ?_ tasks _ fun k => ?_
  · obtain ⟨stored, open_⟩ := mem_chosen s member
    exact ⟨stored, _, open_⟩
  · exact add_nonneg nonneg (seconds_positive reads).le
  · have folded := Table.get?_foldl_update (s.chosen now (providers.getD []).eraseDups limit) (·.harvestId) (nodup_chosen s _ _ _)
      (fun _ => true) (fun _ => claimedRow owner (now + seconds) now) (fun _ _ => rfl) s.harvests k
    simp only [Bool.and_true, if_true] at folded
    refine folded.trans ?_
    congr 1
    funext row
    exact elim_find _ _ _ _

inductive RenewAnswer (now : ℚ) (harvestId owner : String) : Answer ℚ → Prop
  | refused (err : PyError) : RenewAnswer now harvestId owner (.error err, s)
  | renewed (row : HarvestRow) (found : s.harvests.get? harvestId = some row) (owned : ownedBy owner now row) (expires : ℚ)
      (nonneg : 0 ≤ now) (later : 0 ≤ expires) (harvests : Table HarvestRow String (·.harvestId))
      (after : ∀ k, harvests.get? k =
        if k = harvestId then some { row with leaseExpiresAt := some expires, updatedAt := now } else s.harvests.get? k) :
      RenewAnswer now harvestId owner (.ok expires, { s with harvests := harvests })

theorem get?_update_one {table : Table HarvestRow String (·.harvestId)} {harvestId : String} {row : HarvestRow}
    (found : table.get? harvestId = some row) (where_ : HarvestRow → Bool) (holds : where_ row) (set : HarvestRow → HarvestRow)
    (keeps : ∀ row, (set row).harvestId = row.harvestId) (k : String) :
    (table.update (fun row => row.harvestId = harvestId && where_ row) set keeps).get? k =
      if k = harvestId then some (set row) else table.get? k := by
  rw [Table.get?_update]
  by_cases here : k = harvestId
  · subst here
    simp [found, Table.get?_key found, holds]
  · rw [if_neg here]
    cases other : table.get? k with
    | none => rfl
    | some r => simp [Table.get?_key other, here]

theorem renew_cases (now : ℚ) (harvestId owner : String) (leaseSeconds : Option PyFloat) :
    RenewAnswer s now harvestId owner (renewPlatformYearHarvest s (.fin now) harvestId owner leaseSeconds) := by
  unfold renewPlatformYearHarvest
  split
  · exact .refused _
  split
  · exact .refused _
  rename_i seconds reads
  split
  · exact .refused _
  rename_i now clock
  obtain ⟨same, nonneg⟩ := finiteReading_nonneg clock
  cases same
  split
  · exact .refused _
  rename_i live
  simp only [Bool.not_eq_true', Bool.not_eq_false] at live
  obtain ⟨row, found, owned⟩ := (Option.any_eq_true _ _).mp live
  exact .renewed row found owned _ nonneg (add_nonneg nonneg (seconds_positive reads).le) _
    (get?_update_one found (ownedBy owner now) owned ({ · with leaseExpiresAt := some (now + seconds), updatedAt := now }) fun _ => rfl)

inductive FinishAnswer (now : ℚ) (result : PlatformYearHarvestResult) (owner : String) : Answer PlatformYearHarvestTask → Prop
  | refused (err : PyError) : FinishAnswer now result owner (.error err, s)
  | finished (row : HarvestRow) (found : s.harvests.get? result.harvestId = some row) (owned : ownedBy owner now row)
      (same : answers result row) (nonneg : 0 ≤ now) (retryAt : Option ℚ) (retry : ∀ at_, retryAt = some at_ → 0 ≤ at_)
      (after : Store) (pages : after.hostYears = s.paged result)
      (rows : ∀ k, after.harvests.get? k = if k = result.harvestId then
        some (finishedRow now retryAt (s.uniqueHostYears result) result row)
        else s.harvests.get? k) :
      FinishAnswer now result owner (after.get result.harvestId, after)

theorem finish_cases (now : ℚ) (result : PlatformYearHarvestResult) (owner : String) (retryAt : Option PyFloat) :
    FinishAnswer s now result owner (finishPlatformYearHarvestPage s (.fin now) result owner retryAt) := by
  unfold finishPlatformYearHarvestPage
  iterate 5
    split
    · exact .refused _
  split
  · exact .refused _
  rename_i now clock
  obtain ⟨same, nonneg⟩ := finiteReading_nonneg clock
  cases same
  split
  · exact .refused _
  rename_i row live
  obtain ⟨found, owned⟩ := Option.filter_eq_some_iff.mp live
  split
  · exact .refused _
  split
  · exact .refused _
  rename_i same
  split
  · exact .refused _
  dsimp only
  have running : row.state = .running ∧ row.claimedBy = some owner := by
    simp only [ownedBy, Bool.and_eq_true, decide_eq_true_eq] at owned
    exact owned.1
  refine .finished row found owned (by simpa using same) nonneg (retryAt.bind finiteReading) ?_ _ rfl
    (get?_update_one found (fun row => row.state = .running && row.claimedBy = some owner) (by simp [running])
      (finishedRow now (retryAt.bind finiteReading) (s.uniqueHostYears result) result) fun _ => rfl)
  intro at_ isAt
  obtain ⟨given, -, reads⟩ := Option.bind_eq_some_iff.mp isAt
  exact (finiteReading_nonneg reads).2

end

/-! ## One step -/

/-- Every stored task can be read. -/
def Inv (s : Store) : Prop := ∀ row ∈ s.harvests.rows, Sound row.toPlatformYearHarvestTask

/-- What a step makes of a task, and the page that it commits. -/
inductive KeyMove (s : Store) (e : HarvestEvent) (key : String) (s' : Store) : Option PlatformYearHarvestResult → Prop
  | same (row : s'.harvests.get? key = s.harvests.get? key)
      (seen : ∀ pair, ⟨key, pair⟩ ∈ s'.hostYears.rows ↔ ⟨key, pair⟩ ∈ s.hostYears.rows) : KeyMove s e key s' none
  | entered (absent : s.harvests.get? key = none) (identity : HarvestIdentity) (named : platformYearHarvestId identity = .ok key)
      (nonneg : 0 ≤ e.now) (row : s'.harvests.get? key = some (freshRow key identity e.now)) (seen : s'.hostYears = s.hostYears) :
      KeyMove s e key s' none
  | leased (row : HarvestRow) (found : s.harvests.get? key = some row) (open_ : row.state ∉ closedStates) (row' : HarvestRow)
      (after : s'.harvests.get? key = some row')
      (sound : Sound row.toPlatformYearHarvestTask → Sound row'.toPlatformYearHarvestTask)
      (kept : row'.pageNumber = row.pageNumber ∧ row'.resumeKey = row.resumeKey ∧ row'.uniqueHostYearsSeen = row.uniqueHostYearsSeen)
      (seen : s'.hostYears = s.hostYears) : KeyMove s e key s' none
  | finished (result : PlatformYearHarvestResult) (name : result.harvestId = key) (row : HarvestRow)
      (found : s.harvests.get? key = some row) (owned : ownedBy e.owner e.now row) (same : answers result row) (nonneg : 0 ≤ e.now)
      (retryAt : Option ℚ) (retry : ∀ at_, retryAt = some at_ → 0 ≤ at_)
      (after : s'.harvests.get? key = some (finishedRow e.now retryAt (s.uniqueHostYears result) result row))
      (seen : s'.hostYears = s.paged result) : KeyMove s e key s' (if committed result.state then some result else none)

theorem mem_paged {s : Store} {result : PlatformYearHarvestResult} {key : String} {pair : HostYear} :
    ⟨key, pair⟩ ∈ (s.paged result).rows ↔ ⟨key, pair⟩ ∈ s.hostYears.rows ∨
      committed result.state ∧ result.harvestId = key ∧ pair ∈ result.capsules.map (·.pair) := by
  unfold Store.paged
  split
  · rename_i isPage
    have mapped : result.capsules.foldl (fun t capsule => t.insert ⟨result.harvestId, capsule.pair⟩) s.hostYears =
        (result.capsules.map (fun capsule => (⟨result.harvestId, capsule.pair⟩ : HostYearSeen))).foldl (fun t row => t.insert row)
          s.hostYears := by
      rw [List.foldl_map]
    rw [mapped]
    constructor
    · intro member
      rcases mem_foldl_insert member with old | new
      · exact .inl old
      · obtain ⟨capsule, inside, same⟩ := List.mem_map.mp new
        cases same
        exact .inr ⟨isPage, rfl, List.mem_map.mpr ⟨capsule, inside, rfl⟩⟩
    · rintro (old | ⟨-, rfl, new⟩)
      · exact foldl_insert_stored old
      · obtain ⟨capsule, inside, rfl⟩ := List.mem_map.mp new
        have listed : (⟨result.harvestId, capsule.pair⟩ : HostYearSeen) ∈
            result.capsules.map (fun capsule => (⟨result.harvestId, capsule.pair⟩ : HostYearSeen)) :=
          List.mem_map.mpr ⟨capsule, inside, rfl⟩
        obtain ⟨row, stored, same⟩ := foldl_insert_key s.hostYears listed
        subst same
        exact stored
  · rename_i other
    simp [other]

section
variable {s : Store} (e : HarvestEvent) (key : String)

theorem same_moves {s' : Store} (rows : s'.harvests.get? key = s.harvests.get? key) (seen : s'.hostYears = s.hostYears) :
    KeyMove s e key s' none :=
  .same rows fun _ => by rw [seen]

theorem enqueue_moves {identity : HarvestIdentity} {answer : Answer PlatformYearHarvestTask}
    (cases_ : EnqueueAnswer s e.now identity answer) : KeyMove s e key answer.2 none := by
  cases cases_ with
  | refused => exact same_moves e key rfl rfl
  | entered harvestId named nonneg after isAfter =>
    have rows : after.harvests.get? key =
        (s.harvests.get? key).or (if harvestId = key then some (freshRow harvestId identity e.now) else none) := by
      rw [isAfter]
      exact Table.get?_insert_or s.harvests (freshRow harvestId identity e.now) key
    have seen : after.hostYears = s.hostYears := by rw [isAfter]
    cases found : s.harvests.get? key with
    | some row =>
      rw [found, Option.some_or] at rows
      exact same_moves e key (rows.trans found.symm) seen
    | none =>
      rw [found, Option.none_or] at rows
      by_cases here : harvestId = key
      · subst here
        rw [if_pos rfl] at rows
        exact .entered found identity named nonneg rows seen
      · rw [if_neg here] at rows
        exact same_moves e key (rows.trans found.symm) seen

theorem claimable_open {now : ℚ} {providers : List String} {row : HarvestRow} (open_ : claimable now providers row) :
    row.state ∉ closedStates := by
  simp only [claimable, Bool.and_eq_true, Bool.or_eq_true, List.contains_iff_mem, decide_eq_true_eq] at open_
  obtain ⟨⟨state, -⟩, -⟩ := open_
  intro closed
  rcases state with claimable | ⟨running, -⟩
  · revert claimable closed
    generalize row.state = state
    cases state <;> decide
  · rw [running] at closed
    exact absurd closed (by decide)

theorem owned_open {owner : String} {now : ℚ} {row : HarvestRow} (owned : ownedBy owner now row) : row.state ∉ closedStates := by
  simp only [ownedBy, Bool.and_eq_true, decide_eq_true_eq] at owned
  rw [owned.1.1]
  decide

theorem claim_moves {owner : String} {answer : Answer (List PlatformYearHarvestTask)} (cases_ : ClaimAnswer s e.now owner answer) :
    KeyMove s e key answer.2 none := by
  cases cases_ with
  | refused | idle => exact same_moves e key rfl rfl
  | claimed rows open_ expires nonneg later tasks harvests after =>
    cases found : s.harvests.get? key with
    | none =>
      refine same_moves e key ?_ rfl
      show harvests.get? key = s.harvests.get? key
      rw [after key, found]
      rfl
    | some row =>
      by_cases chosen : rows.any (·.harvestId = key)
      · obtain ⟨first, member, name⟩ := List.any_eq_true.mp chosen
        obtain ⟨stored, providers, isOpen⟩ := open_ first member
        have one : row = first :=
          Table.row_unique (Table.mem_of_get? found) stored ((Table.get?_key found).trans (of_decide_eq_true name).symm)
        subst one
        refine .leased row found (claimable_open isOpen) (claimedRow owner expires e.now row) ?_
          (fun sound => sound_claimed sound owner later nonneg) ⟨rfl, rfl, rfl⟩ rfl
        show harvests.get? key = _
        rw [after key, found, Option.map_some, if_pos chosen]
      · refine same_moves e key ?_ rfl
        show harvests.get? key = s.harvests.get? key
        rw [after key, found, Option.map_some, if_neg chosen]

theorem renew_moves {harvestId owner : String} {answer : Answer ℚ} (cases_ : RenewAnswer s e.now harvestId owner answer) :
    KeyMove s e key answer.2 none := by
  cases cases_ with
  | refused => exact same_moves e key rfl rfl
  | renewed row found owned expires nonneg later harvests after =>
    by_cases here : key = harvestId
    · subst here
      exact .leased row found (owned_open owned) _ ((after key).trans (if_pos rfl))
        (fun sound => sound_renewed sound later nonneg) ⟨rfl, rfl, rfl⟩ rfl
    · exact same_moves e key ((after key).trans (if_neg here)) rfl

theorem finish_moves (inv : Inv s) {result : PlatformYearHarvestResult} {answer : Answer PlatformYearHarvestTask}
    (cases_ : FinishAnswer s e.now result e.owner answer) :
    (∃ err, answer = (.error err, s)) ∨ (∃ task, answer.1 = .ok task) ∧
      KeyMove s e key answer.2 (if result.harvestId = key && committed result.state then some result else none) := by
  cases cases_ with
  | refused err => exact .inl ⟨err, rfl⟩
  | finished row found owned same nonneg retryAt retry after pages rows =>
    have sound := sound_finished (inv row (Table.mem_of_get? found)) nonneg retry (s.uniqueHostYears result) result
    have stored := (rows result.harvestId).trans (if_pos rfl)
    have read : after.get result.harvestId =
        .ok (finishedRow e.now retryAt (s.uniqueHostYears result) result row).toPlatformYearHarvestTask := by
      rw [Store.get, stored]
      exact sound.make
    refine .inr ⟨⟨_, read⟩, ?_⟩
    · by_cases here : result.harvestId = key
      · subst here
        simp only [decide_true, Bool.true_and]
        exact .finished result rfl row found owned same nonneg retryAt retry stored pages
      · simp only [here, decide_false, Bool.false_and, Bool.false_eq_true, if_false]
        refine .same ((rows key).trans (if_neg fun same => here same.symm)) fun pair => ?_
        show _ ∈ after.hostYears.rows ↔ _
        rw [pages, mem_paged]
        simp [here]

theorem step_moves (d : PyFloat) (inv : Inv s) : KeyMove s e key (step s e).2 (page key ((harvests d).take s e)) := by
  obtain ⟨now, owner, op⟩ := e
  cases op with
  | enqueue identity => exact enqueue_moves ⟨now, owner, _⟩ key (enqueue_cases s now identity)
  | claim limit leaseSeconds providers => exact claim_moves ⟨now, owner, _⟩ key (claim_cases s now owner limit leaseSeconds providers)
  | renew harvestId leaseSeconds => exact renew_moves ⟨now, owner, _⟩ key (renew_cases s now harvestId owner leaseSeconds)
  | finish result retryAt =>
    have taken : page key ((harvests d).take s ⟨now, owner, .finish result retryAt⟩) =
        match (step s ⟨now, owner, .finish result retryAt⟩).1 with
        | .ok _ => if result.harvestId = key && committed result.state then some result else none
        | .error _ => none := rfl
    rw [taken]
    simp only [step]
    rcases finish_moves ⟨now, owner, .finish result retryAt⟩ key inv (finish_cases s now result owner retryAt) with
      ⟨err, answer⟩ | ⟨⟨task, answer⟩, move⟩
    · rw [answer]
      exact same_moves _ key rfl rfl
    · rw [answer]
      exact move

theorem enqueue_raises (inv : Inv s) {now : ℚ} {identity : HarvestIdentity} {answer : Answer PlatformYearHarvestTask}
    (cases_ : EnqueueAnswer s now identity answer) {err : PyError} (raised : answer.1 = .error err) : answer.2 = s := by
  cases cases_ with
  | refused => rfl
  | entered harvestId named nonneg after isAfter =>
    have stored : ∃ row, after.harvests.get? harvestId = some row ∧ Sound row.toPlatformYearHarvestTask := by
      rw [isAfter, Table.get?_insert_or]
      cases found : s.harvests.get? harvestId with
      | some row => exact ⟨row, rfl, inv row (Table.mem_of_get? found)⟩
      | none => exact ⟨_, by rw [Option.none_or]; exact if_pos rfl, sound_fresh named nonneg⟩
    obtain ⟨row, found, sound⟩ := stored
    have read : after.get harvestId = .ok row.toPlatformYearHarvestTask := by
      rw [Store.get, found]
      exact sound.make
    exact absurd (read.symm.trans raised) nofun

theorem step_raises (inv : Inv s) {err : PyError} (raised : (step s e).1 = .error err) : (step s e).2 = s := by
  obtain ⟨now, owner, op⟩ := e
  cases op with
  | enqueue identity =>
    cases answer : (enqueuePlatformYearHarvest s (.fin now) identity).1 with
    | error err' => exact enqueue_raises inv (enqueue_cases s now identity) answer
    | ok task =>
      simp only [step, answer] at raised
      cases raised
  | claim limit leaseSeconds providers =>
    have answer := claim_cases s now owner limit leaseSeconds providers
    simp only [step] at raised ⊢
    generalize claimPlatformYearHarvests s (.fin now) owner limit leaseSeconds providers = result at answer raised ⊢
    cases answer <;> first | rfl | cases raised
  | renew harvestId leaseSeconds =>
    have answer := renew_cases s now harvestId owner leaseSeconds
    simp only [step] at raised ⊢
    generalize renewPlatformYearHarvest s (.fin now) harvestId owner leaseSeconds = result at answer raised ⊢
    cases answer <;> first | rfl | cases raised
  | finish result retryAt =>
    rcases finish_moves ⟨now, owner, .finish result retryAt⟩ "" inv (finish_cases s now result owner retryAt) with
      ⟨err, answer⟩ | ⟨⟨task, answer⟩, -⟩
    · simp only [step, answer]
    · simp only [step, answer] at raised
      cases raised

end

/-! ## Runs -/

/-- What the pages of a task say of its row. -/
structure Accounts (pages : List PlatformYearHarvestResult) (row : HarvestRow) : Prop where
  counted : row.pageNumber = pages.length
  resumes : row.resumeKey = pages.getLast?.bind (·.nextResumeKey)
  distinct : row.uniqueHostYearsSeen = (hostYearsOf pages).toFinset.card

/-- The row and the host-years of a task are what its pages say, and a task without a row has none. -/
structure Accounted (s : Store) (key : String) (pages : List PlatformYearHarvestResult) : Prop where
  seen : ∀ pair, ⟨key, pair⟩ ∈ s.hostYears.rows ↔ pair ∈ hostYearsOf pages
  absent : s.harvests.get? key = none → pages = []
  row : ∀ row, s.harvests.get? key = some row → Accounts pages row

theorem count_pairs {t : Table HostYearSeen HostYearSeen (fun row => row)} {key : String} {pairs : List HostYear}
    (seen : ∀ pair, ⟨key, pair⟩ ∈ t.rows ↔ pair ∈ pairs) : t.rows.countP (·.harvestId = key) = pairs.toFinset.card := by
  have rows : t.rows.Nodup := by simpa using t.keyed
  have own : ((t.rows.filter (·.harvestId = key)).map (·.pair)).Nodup := by
    refine (List.nodup_map_iff_inj_on (rows.filter _)).mpr ?_
    intro a isA b isB same
    have nameA := of_decide_eq_true (List.mem_filter.mp isA).2
    have nameB := of_decide_eq_true (List.mem_filter.mp isB).2
    cases a
    cases b
    simp_all
  have same : ((t.rows.filter (·.harvestId = key)).map (·.pair)).toFinset = pairs.toFinset := by
    ext pair
    rw [List.mem_toFinset, List.mem_toFinset, ← seen, List.mem_map]
    constructor
    · rintro ⟨row, member, rfl⟩
      obtain ⟨stored, name⟩ := List.mem_filter.mp member
      have name := of_decide_eq_true name
      subst name
      exact stored
    · intro stored
      exact ⟨_, List.mem_filter.mpr ⟨stored, decide_eq_true rfl⟩, rfl⟩
  rw [← same, List.toFinset_card_of_nodup own, List.length_map, List.countP_eq_length_filter]

theorem hostYearsOf_snoc (pages : List PlatformYearHarvestResult) (page : PlatformYearHarvestResult) :
    hostYearsOf (pages ++ [page]) = hostYearsOf pages ++ page.capsules.map (·.pair) := by
  simp [hostYearsOf]

theorem accounts_finished {s : Store} {now : ℚ} {retryAt : Option ℚ} {result : PlatformYearHarvestResult} {row : HarvestRow}
    {pages pages' : List PlatformYearHarvestResult} (accounts : Accounts pages row)
    (isPages : pages' = pages ++ (if committed result.state then some result else none).toList)
    (unique : s.uniqueHostYears result = (hostYearsOf pages').toFinset.card) :
    Accounts pages' (finishedRow now retryAt (s.uniqueHostYears result) result row) := by
  subst isPages
  refine ⟨?_, ?_, unique⟩
  · show row.pageNumber + _ = _
    rw [accounts.counted]
    cases isPage : committed result.state <;> simp
  · show (if result.state = .partial_ then _ else _) = _
    by_cases part : result.state = .partial_
    · simp [committed, part]
    · rw [if_neg part]
      by_cases whole : result.state = .complete
      · simp [committed, whole, result_next result part]
      · simp [committed, part, whole, accounts.resumes]

theorem accounted_step {d : PyFloat} {s : Store} (inv : Inv s) (e : HarvestEvent) {key : String}
    {pages : List PlatformYearHarvestResult} (accounted : Accounted s key pages) :
    Accounted (step s e).2 key (pages ++ (page key ((harvests d).take s e)).toList) := by
  have move := step_moves e key d inv
  generalize (step s e).2 = s' at move ⊢
  generalize page key _ = page? at move ⊢
  cases move with
  | same row seen =>
    rw [Option.toList_none, List.append_nil]
    exact ⟨fun pair => (seen pair).trans (accounted.seen pair), fun none_ => accounted.absent (row.symm.trans none_),
      fun old found => accounted.row old (row.symm.trans found)⟩
  | entered absent identity named nonneg row seen =>
    rw [Option.toList_none, List.append_nil]
    refine ⟨fun pair => by rw [seen]; exact accounted.seen pair, fun none_ => absurd (row.symm.trans none_) nofun, ?_⟩
    intro new found
    cases row.symm.trans found
    rw [accounted.absent absent]
    exact ⟨rfl, rfl, rfl⟩
  | leased row found open_ row' after sound kept seen =>
    rw [Option.toList_none, List.append_nil]
    refine ⟨fun pair => by rw [seen]; exact accounted.seen pair, fun none_ => absurd (after.symm.trans none_) nofun, ?_⟩
    intro new isNew
    cases after.symm.trans isNew
    have old := accounted.row row found
    exact ⟨kept.1.trans old.counted, kept.2.1.trans old.resumes, kept.2.2.trans old.distinct⟩
  | finished result name row found owned same nonneg retryAt retry after seen =>
    have filled : ∀ pair, ⟨key, pair⟩ ∈ (s.paged result).rows ↔
        pair ∈ hostYearsOf (pages ++ (if committed result.state then some result else none).toList) := by
      intro pair
      rw [mem_paged, accounted.seen]
      cases isPage : committed result.state
      · simp
      · simp [hostYearsOf_snoc, name]
    refine ⟨fun pair => by rw [seen]; exact filled pair, fun none_ => absurd (after.symm.trans none_) nofun, ?_⟩
    intro new isNew
    cases after.symm.trans isNew
    refine accounts_finished (accounted.row row found) rfl ?_
    rw [Store.uniqueHostYears, name]
    exact count_pairs filled

theorem sound_step {s : Store} (inv : Inv s) (e : HarvestEvent) {key : String} {new : HarvestRow}
    (found : (step s e).2.harvests.get? key = some new) : Sound new.toPlatformYearHarvestTask := by
  have move := step_moves e key (.fin 0) inv
  generalize (step s e).2 = s' at move found
  generalize page key _ = page? at move
  cases move with
  | same row => exact inv new (Table.mem_of_get? (row.symm.trans found))
  | entered absent identity named nonneg row =>
    cases row.symm.trans found
    exact sound_fresh named nonneg
  | leased row isRow open_ row' after sound =>
    cases after.symm.trans found
    exact sound (inv row (Table.mem_of_get? isRow))
  | finished result name row isRow owned same nonneg retryAt retry after =>
    cases after.symm.trans found
    exact sound_finished (inv row (Table.mem_of_get? isRow)) nonneg retry _ result

theorem inv_step {s : Store} (inv : Inv s) (e : HarvestEvent) : Inv (step s e).2 :=
  fun _ stored => sound_step inv e (Table.get?_mem stored)

theorem inv_final (d : PyFloat) (es : List HarvestEvent) : Inv ((harvests d).final es) := by
  refine Machine.invariant (I := Inv) (harvests d) ?_ (fun _ e inv => inv_step inv e) es
  intro row stored
  exact absurd stored List.not_mem_nil

theorem pages_snoc (d : PyFloat) (es : List HarvestEvent) (e : HarvestEvent) (key : String) :
    pages d (es ++ [e]) key = pages d es key ++ (page key ((harvests d).take ((harvests d).final es) e)).toList := by
  rw [pages, Machine.trace_snoc, List.filterMap_append, pages]
  rfl

theorem accounted_final (d : PyFloat) (key : String) : ∀ es, Accounted ((harvests d).final es) key (pages d es key) := by
  refine Machine.run_rule ?_ ?_
  · refine ⟨fun pair => ?_, fun _ => rfl, fun row found => ?_⟩
    · exact ⟨fun stored => absurd stored List.not_mem_nil, fun listed => absurd listed List.not_mem_nil⟩
    · exact absurd (Table.mem_of_get? found) List.not_mem_nil
  · intro es e ih
    rw [pages_snoc, Machine.final_snoc]
    exact accounted_step (inv_final d es) e ih

theorem page_resumes {d : PyFloat} {s : Store} (inv : Inv s) {e : HarvestEvent} {key : String} {next : PlatformYearHarvestResult}
    (isPage : page key ((harvests d).take s e) = some next) :
    ∃ row, s.harvests.get? key = some row ∧ next.resumeKeyUsed = row.resumeKey := by
  have move := step_moves e key d inv
  rw [isPage] at move
  generalize isNext : some next = page? at move
  cases move with
  | same | entered | leased => cases isNext
  | finished result name row found owned same =>
    split at isNext
    · cases isNext
      simp only [answers, Bool.and_eq_true, decide_eq_true_eq] at same
      exact ⟨row, found, same.2⟩
    · cases isNext

theorem chained_final (d : PyFloat) (key : String) : ∀ es,
    (∀ page ∈ (pages d es key).head?, page.resumeKeyUsed = none) ∧
      (pages d es key).IsChain (fun earlier later => later.resumeKeyUsed = earlier.nextResumeKey) := by
  refine Machine.run_rule ?_ ?_
  · exact ⟨by simp [pages], by simp [pages]⟩
  · intro es e ih
    rw [pages_snoc]
    cases made : page key ((harvests d).take ((harvests d).final es) e) with
    | none => simpa using ih
    | some next =>
      obtain ⟨row, found, starts⟩ := page_resumes (inv_final d es) made
      have resumes := ((accounted_final d key es).row row found).resumes
      rw [Option.toList_some]
      refine ⟨?_, List.isChain_append.mpr ⟨ih.2, List.isChain_singleton _, ?_⟩⟩
      · cases earlier : pages d es key with
        | nil =>
          rintro _ ⟨⟩
          rw [starts, resumes, earlier]
          rfl
        | cons head rest =>
          rintro _ ⟨⟩
          exact ih.1 head (by rw [earlier]; rfl)
      · intro last isLast first isFirst
        cases Option.some.inj isFirst
        rw [starts, resumes, Option.mem_def.mp isLast]
        rfl

theorem closed_step {s : Store} (inv : Inv s) (e : HarvestEvent) {row : HarvestRow} (stored : row ∈ s.harvests.rows)
    (closed : row.state ∈ closedStates) : row ∈ (step s e).2.harvests.rows := by
  have found := Table.get?_mem stored
  have move := step_moves e row.harvestId (.fin 0) inv
  generalize (step s e).2 = s' at move ⊢
  generalize page row.harvestId _ = page? at move
  cases move with
  | same kept => exact Table.mem_of_get? (kept.trans found)
  | entered absent =>
    rw [found] at absent
    cases absent
  | leased row' found' open_ =>
    rw [found] at found'
    cases found'
    exact absurd closed open_
  | finished result name row' found' owned =>
    rw [found] at found'
    cases found'
    exact absurd closed (owned_open owned)

theorem closed_from (d : PyFloat) (before after : List HarvestEvent) {row : HarvestRow}
    (stored : row ∈ ((harvests d).final before).harvests.rows) (closed : row.state ∈ closedStates) :
    row ∈ ((harvests d).final (before ++ after)).harvests.rows := by
  induction after using List.reverseRecOn with
  | nil =>
    rw [List.append_nil]
    exact stored
  | append_singleton after e ih =>
    rw [← List.append_assoc, Machine.final_snoc]
    exact closed_step (inv_final d _) e ih closed

theorem pages_safe (defaultLeaseSeconds : PyFloat) (es : List HarvestEvent) : PagesSafe defaultLeaseSeconds es where
  counted row stored := ((accounted_final defaultLeaseSeconds row.harvestId es).row row (Table.get?_mem stored)).counted
  first harvestId := (chained_final defaultLeaseSeconds harvestId es).1
  chained harvestId := (chained_final defaultLeaseSeconds harvestId es).2
  distinct row stored := ((accounted_final defaultLeaseSeconds row.harvestId es).row row (Table.get?_mem stored)).distinct
  closed := by
    rintro before after rfl row stored closed
    exact closed_from defaultLeaseSeconds before after stored closed
  rejected r member err raised := by
    obtain ⟨before, after, -, isStep⟩ := Machine.mem_trace _ member
    rw [isStep] at raised ⊢
    exact step_raises _ (inv_final defaultLeaseSeconds before) raised

end Creeper.PlatformHarvests
