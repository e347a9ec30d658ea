import Creeper.CdxRows
import Creeper.PlatformHarvests

/-!
# Queries of CDX pages

The four calls of the Wayback client: `query_key` and `query_range` over the pages that its iterator
yields, `query_domain` and `harvest_platform_year` over one response. A `ValueError` anywhere, also
in the code that reads a row, makes the whole result INVALID.
-/

namespace Creeper.CdxQueries
open Creeper.PyText Creeper.JsonText Creeper.EvidenceTasks Creeper.CdxRows
open Creeper.EvidenceStore (EvidenceCapsule)
open Creeper.ResultCommit (Accounting ExactFields RangeFields DomainFields EvidenceQueryResult RangeEvidenceQueryResult
  DomainEvidenceQueryResult inScope)
open Creeper.PlatformHarvests (PlatformHarvestState HarvestIdentity PlatformYearHarvestTask PlatformYearHarvestResult ResultFields inside)

/-! ## Pages -/

/-- A page: its rows, and whether it is the last. -/
abbrev Page := List Row × Bool

/-- What a page iterator yields, and what it raises behind the last page. -/
structure Pages where
  pages : List Page
  failure : Option Failure

/-- What a client is made with, as far as its queries read it; the hash of a request template also depends on its endpoint. -/
structure Client where
  provider : String
  sourceId : String
  limit : Nat
  templateHash : (subject : String) → (targetYear : Int) → (policyVersion : String) → String

/-- `_RequestAccounting`, when a call returns. -/
structure Spent where
  requests : Nat
  elapsedMilliseconds : Nat

def accountingOf (spent : Spent) (pagesSeen recordsSeen : Nat) (error : Option String) : Accounting where
  pagesSeen := pagesSeen
  recordsSeen := recordsSeen
  providerRequests := spent.requests
  providerElapsedMilliseconds := spent.elapsedMilliseconds
  error := error

/-- The constructor of `EvidenceQueryResult`. -/
def makeExact (r : ExactFields) : Except Failure EvidenceQueryResult :=
  match checked : r.postInit with
  | some message => .error (.valueError message)
  | none => .ok ⟨r, checked⟩

/-- The constructor of `RangeEvidenceQueryResult`. -/
def makeRange (r : RangeFields) : Except Failure RangeEvidenceQueryResult :=
  match checked : r.postInit with
  | some message => .error (.valueError message)
  | none => .ok ⟨r, checked⟩

/-- The constructor of `DomainEvidenceQueryResult`. -/
def makeDomain (r : DomainFields) : Except Failure DomainEvidenceQueryResult :=
  match checked : r.postInit with
  | some message => .error (.valueError message)
  | none => .ok ⟨r, checked⟩

/-- The constructor of `PlatformYearHarvestResult`. -/
def makePlatform (r : ResultFields) : Except Failure PlatformYearHarvestResult :=
  match checked : r.postInit with
  | some message => .error (.valueError message)
  | none => .ok ⟨r, checked⟩

section
variable (p : Python) (client : Client) (spent : Spent) (key : EvidenceQueryKey)

/-! ## One year -/

/-- The rows of a page, up to the first that proves the year, with the rows that were seen. -/
def keyRows (pagesSeen recordsSeen : Nat) : List Row → Nat × Except Failure (Option EvidenceCapsule)
  | [] => (recordsSeen, .ok none)
  | row :: rest =>
    match acceptedYear p row key.hostname key.yearFrom key.yearFrom with
    | .error failure => (recordsSeen + 1, .error failure)
    | .ok none => keyRows pagesSeen (recordsSeen + 1) rest
    | .ok (some year) =>
      (recordsSeen + 1, some <$> capsuleFromRow p client.sourceId key row year pagesSeen (recordsSeen + 1) "cdx_query_year")

/-- Where a query of one year ended: the pages and rows that were seen, and a capsule or the flag of the last page. -/
structure KeyEnd where
  pagesSeen : Nat
  recordsSeen : Nat
  ended : Except Failure (Option EvidenceCapsule × Option Bool)

/-- The `async for` over the pages. -/
def keyPages (failure : Option Failure) (pagesSeen recordsSeen : Nat) (last : Option Bool) : List Page → KeyEnd
  | [] => ⟨pagesSeen, recordsSeen, match failure with | some failure => .error failure | none => .ok (none, last)⟩
  | page :: rest =>
    match keyRows p client key (pagesSeen + 1) recordsSeen page.1 with
    | (records, .error failure) => ⟨pagesSeen + 1, records, .error failure⟩
    | (records, .ok (some capsule)) => ⟨pagesSeen + 1, records, .ok (some capsule, last)⟩
    | (records, .ok none) => keyPages failure (pagesSeen + 1) records (some page.2) rest

/-- A result of `query_key`. -/
def exactFields (e : KeyEnd) (state : QueryState) (capsule : Option EvidenceCapsule) (error : Option String) : ExactFields where
  toAccounting := accountingOf spent e.pagesSeen e.recordsSeen error
  hostname := key.hostname
  year := key.yearFrom
  state := state
  capsule := capsule
  key := some key

/-- `query_key`, of the pages of its iterator. -/
def queryKey (source : Pages) : Except Failure EvidenceQueryResult :=
  if key.provider ≠ client.provider then .error (.valueError "provider mismatch")
  else if key.yearFrom ≠ key.yearTo then .error (.valueError "exact-year provider received a range task")
  else
    let e := keyPages p client key source.failure 0 0 none source.pages
    let answer := do
      match ← e.ended with
      | (some capsule, _) => makeExact (exactFields spent key e .pass (some capsule) none)
      | (none, last) => makeExact (exactFields spent key e (if last = some true then .emptyExhaustive else .incomplete) none none)
    match answer with
    | .ok result => .ok result
    | .error (.valueError message) => makeExact (exactFields spent key e .invalid none (some message))
    | .error (.transport message) => makeExact (exactFields spent key e .transientError none (some message))
    | .error (.other name) => .error (.other name)

/-! ## Several years -/

/-- `capsules_by_year`, in the order of the first rows. -/
abbrev ByYear := List (Int × EvidenceCapsule)

/-- `sorted(capsules_by_year)`. -/
def yearsOf (found : ByYear) : List Int := (found.map (·.1)).insertionSort (· ≤ ·)

/-- `capsules_by_year[year]` of the sorted years. -/
def capsulesOf (found : ByYear) : List EvidenceCapsule :=
  (yearsOf found).filterMap fun year => (found.find? (·.1 = year)).map (·.2)

/-- `tuple(range(scope.year_from, scope.year_to + 1))`. -/
def expectedYears : List Int := (List.range (key.yearTo - key.yearFrom + 1).toNat).map fun i : Nat => key.yearFrom + i

def rangeRows (pagesSeen : Nat) : Nat → ByYear → List Row → Nat × ByYear × Option Failure :=
  collectRows (fun row => acceptedYear p row key.hostname key.yearFrom key.yearTo)
    fun row year recordNo => capsuleFromRow p client.sourceId key row year pagesSeen recordNo "cdx_query_host_range"

/-- Where a query of several years ended: every year found, the last page read, or an exception. -/
inductive RangeOutcome
  | covered
  | ended (last : Option Bool)
  | failed (failure : Failure)

structure RangeEnd where
  pagesSeen : Nat
  recordsSeen : Nat
  found : ByYear
  outcome : RangeOutcome

/-- The `async for` over the pages. -/
def rangePages (failure : Option Failure) (pagesSeen recordsSeen : Nat) (found : ByYear) (last : Option Bool) : List Page → RangeEnd
  | [] => ⟨pagesSeen, recordsSeen, found, match failure with | some failure => .failed failure | none => .ended last⟩
  | page :: rest =>
    match rangeRows p client key (pagesSeen + 1) recordsSeen found page.1 with
    | (records, found, some failure) => ⟨pagesSeen + 1, records, found, .failed failure⟩
    | (records, found, none) =>
      if (expectedYears key).all fun year => (found.find? (·.1 = year)).isSome then ⟨pagesSeen + 1, records, found, .covered⟩
      else if page.2 then ⟨pagesSeen + 1, records, found, .ended (some true)⟩
      else rangePages failure (pagesSeen + 1) records found (some page.2) rest

def missingYears (found : ByYear) : List Int := (expectedYears key).filter fun year => !(yearsOf found).contains year

/-- A result of `query_range`. -/
def rangeFields (e : RangeEnd) (state : QueryState) (followupYears : List Int) (error : Option String) : RangeFields where
  toAccounting := accountingOf spent e.pagesSeen e.recordsSeen error
  hostname := key.hostname
  key := key
  state := state
  candidateYears := yearsOf e.found
  followupYears := followupYears
  capsules := capsulesOf e.found

/-- The results behind the loop. -/
def rangeAnswer (e : RangeEnd) : Except Failure RangeEvidenceQueryResult :=
  match e.outcome with
  | .covered => makeRange (rangeFields spent key e .pass [] none)
  | .ended last =>
    if last = some true then makeRange (rangeFields spent key e (if e.found = [] then .emptyExhaustive else .pass) [] none)
    else if e.pagesSeen ≠ 0 then
      makeRange (rangeFields spent key e .decomposed (missingYears key e.found)
        (some "host CDX query stopped without provider exhaustion or coverage of every target year"))
    else makeRange (rangeFields spent key e .incomplete [] (some "CDX host-range iterator produced no page"))
  | .failed failure => .error failure

/-- `query_range` of a key whose policy is not of the domain lane, of the pages of its iterator. -/
def queryRange (source : Pages) : Except Failure RangeEvidenceQueryResult :=
  if key.provider ≠ client.provider then .error (.valueError "provider mismatch")
  else if key.yearFrom = key.yearTo then .error (.valueError "range provider requires a multi-year task")
  else
    let e := rangePages p client key source.failure 0 0 [] none source.pages
    match rangeAnswer spent key e with
    | .ok result => .ok result
    | .error (.valueError message) => makeRange (rangeFields spent key e .invalid [] (some message))
    | .error (.transport message) =>
      if e.found = [] then makeRange (rangeFields spent key e .transientError [] (some message))
      else makeRange (rangeFields spent key e .decomposed (missingYears key e.found) (some message))
    | .error (.other name) => .error (.other name)

/-! ## A domain -/

/-- `(hostname, year)` and the capsule of its first accepted row. -/
abbrev ByHostYear := List ((String × Int) × EvidenceCapsule)

/-- `tuple(capsules[item] for item in sorted(capsules))`. -/
def orderedCapsules (found : ByHostYear) : List EvidenceCapsule :=
  (found.insertionSort fun a b => toLex a.1 ≤ toLex b.1).map (·.2)

/-- The host-year of a row of a domain: the number is read behind the status. -/
def domainPair (row : Row) : Except Failure (Option (String × Int)) :=
  if !usable (status p row) then .ok none
  else do
    match ← yearOf p (field p row "timestamp") with
    | none => return none
    | some year =>
      if !inScope key year then return none
      else
        match hostnameOf p (field p row "original") with
        | none => return none
        | some hostname => if inside hostname key.hostname then return some (hostname, year) else return none

def domainCapsule (row : Row) (pair : String × Int) (recordNo : Nat) : Except Failure EvidenceCapsule :=
  capsuleOf p row pair.1 pair.2 key.provider key.policyVersion "domain_scope_cdx_capture" client.sourceId
    (client.sourceId ++ ":domain:" ++ key.hostname ++ ":" ++ pair.1 ++ ":" ++ toString pair.2 ++ ":record=" ++ toString recordNo)
    "cdx_query_domain_bounded"

/-- A result of `query_domain`. -/
def domainFields (pagesSeen recordsSeen : Nat) (state : QueryState) (capsules : List EvidenceCapsule) (error : Option String) : DomainFields where
  toAccounting := accountingOf spent pagesSeen recordsSeen error
  domain := key.hostname
  key := key
  state := state
  capsules := capsules

/-- The body of `query_domain`: the pages and rows that were seen, and the capsules or what was raised. -/
def domainBody (response : Except Failure (List UInt8)) : Nat × Nat × Except Failure ByHostYear :=
  match response with
  | .error failure => (0, 0, .error failure)
  | .ok content =>
    match parsePayload p content with
    | .error failure => (1, 0, .error failure)
    | .ok (rows, _) =>
      match collectRows (domainPair p key) (domainCapsule p client key) 0 [] rows with
      | (records, _, some failure) => (1, records, .error failure)
      | (records, found, none) => (1, records, .ok found)

/-- `query_domain`, of the response to its request. -/
def queryDomain (response : Except Failure (List UInt8)) : Except Failure DomainEvidenceQueryResult :=
  if key.provider ≠ client.provider then .error (.valueError "provider mismatch for domain query")
  else if key.yearFrom = key.yearTo then .error (.valueError "domain amplification requires a multi-year scope")
  else
    let (pages, records, body) := domainBody p client key response
    match body.bind fun found => makeDomain (domainFields spent key pages records .decomposed (orderedCapsules found) none) with
    | .ok result => .ok result
    | .error (.valueError message) => makeDomain (domainFields spent key pages records .invalid [] (some message))
    | .error (.transport message) => makeDomain (domainFields spent key pages records .transientError [] (some message))
    | .error (.other name) => .error (.other name)

/-! ## A platform year -/

/-- The host-year of a row of a platform. -/
def platformPair (identity : HarvestIdentity) (row : Row) : Except Failure (Option (String × Int)) := do
  match ← yearOf p (field p row "timestamp") with
  | none => return none
  | some year =>
    if year ≠ identity.targetYear || !usable (status p row) then return none
    else
      match hostnameOf p (field p row "original") with
      | none => return none
      | some hostname => if inside hostname identity.subject then return some (hostname, identity.targetYear) else return none

def platformCapsule (task : PlatformYearHarvestTask) (row : Row) (pair : String × Int) (recordNo : Nat) : Except Failure EvidenceCapsule :=
  capsuleOf p row pair.1 pair.2 task.identity.provider task.identity.policyVersion "platform_scope_cdx_capture" client.sourceId
    (client.sourceId ++ ":platform:" ++ task.identity.subject ++ ":" ++ toString task.identity.targetYear ++ ":page=" ++
      toString task.pageNumber ++ ":record=" ++ toString recordNo)
    "cdx_harvest_platform_year"

/-- A result of `harvest_platform_year`. -/
def platformFields (task : PlatformYearHarvestTask) (rowsSeen responseBytes : Nat) (state : PlatformHarvestState)
    (nextResumeKey : Option String) (capsules : List EvidenceCapsule) (exhaustive : Bool) (error : Option String) : ResultFields where
  harvestId := task.harvestId
  provider := task.identity.provider
  subject := task.identity.subject
  targetYear := task.identity.targetYear
  requestTemplateHash := task.identity.requestTemplateHash
  policyVersion := task.identity.policyVersion
  resumeKeyUsed := task.resumeKey
  state := state
  nextResumeKey := nextResumeKey
  capsules := capsules
  rowsSeen := rowsSeen
  requests := spent.requests
  bytes := responseBytes
  elapsedSeconds := spent.elapsedMilliseconds / 1000
  exhaustive := exhaustive
  error := error

/-- A page of `harvest_platform_year`: the rows and bytes that were seen, and the result or what was raised. -/
def platformPage (task : PlatformYearHarvestTask) (response : Except Failure (List UInt8)) :
    Nat × Nat × Except Failure PlatformYearHarvestResult :=
  match response with
  | .error failure => (0, 0, .error failure)
  | .ok content =>
    match parsePayload p content with
    | .error failure => (0, content.length, .error failure)
    | .ok (rows, nextKey) =>
      match collectRows (platformPair p task.identity) (platformCapsule p client task) 0 [] rows with
      | (rowsSeen, _, some failure) => (rowsSeen, content.length, .error failure)
      | (rowsSeen, found, none) =>
        (rowsSeen, content.length,
          match nextKey.filter (· ≠ "") with
          | some key =>
            if some key = task.resumeKey then .error (.transport "CDX returned a repeated resume key")
            else makePlatform (platformFields spent task rowsSeen content.length .partial_ (some key) (orderedCapsules found) false none)
          | none =>
            if client.limit ≤ rows.length then
              makePlatform (platformFields spent task rowsSeen content.length .retryable none (orderedCapsules found) false
                (some "platform-year page reached the configured row limit without an explicit continuation"))
            else makePlatform (platformFields spent task rowsSeen content.length .complete none (orderedCapsules found) true none))

/-- The body of `harvest_platform_year`. -/
def platformBody (task : PlatformYearHarvestTask) (response : Except Failure (List UInt8)) :
    Nat × Nat × Except Failure PlatformYearHarvestResult :=
  if task.identity.provider ≠ client.provider then (0, 0, .error (.valueError "provider mismatch for platform-year harvest"))
  else if task.identity.requestTemplateHash ≠
      client.templateHash task.identity.subject task.identity.targetYear task.identity.policyVersion then
    (0, 0, .error (.valueError "platform-year request template identity mismatch"))
  else platformPage p client spent task response

/-- `harvest_platform_year`, of the response to its request. -/
def harvestPlatformYear (task : PlatformYearHarvestTask) (response : Except Failure (List UInt8)) :
    Except Failure PlatformYearHarvestResult :=
  let (rowsSeen, bytes, body) := platformBody p client spent task response
  match body with
  | .ok result => .ok result
  | .error (.valueError message) => makePlatform (platformFields spent task rowsSeen bytes .failedInvalid none [] false (some message))
  | .error (.transport message) => makePlatform (platformFields spent task rowsSeen bytes .retryable none [] false (some message))
  | .error (.other name) => .error (.other name)

end

end Creeper.CdxQueries
