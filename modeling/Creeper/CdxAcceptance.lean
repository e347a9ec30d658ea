import Creeper.CdxPaging
import Creeper.CdxResults

/-!
# Acceptance of rows, call by call

A query should give what its accepted rows alone give, whatever the other rows hold, and a result for
any bytes. It does exactly when every row that it reads is legible, and when nothing is raised that
it does not catch.
-/

namespace Creeper.CdxAcceptance
open Creeper.PyText Creeper.JsonText Creeper.EvidenceTasks Creeper.CdxRows Creeper.CdxQueries Creeper.CdxReading Creeper.CdxResults
open Creeper.CdxPaging (Response turn)
open Creeper.EvidenceStore (EvidenceCapsule)
open Creeper.ResultCommit
open Creeper.PlatformHarvests (PlatformHarvestState PlatformYearHarvestTask PlatformYearHarvestResult HarvestIdentity platformYearHarvestId)

/-! ## What accepted rows give -/

inductive State
  | query (state : QueryState)
  | harvest (state : PlatformHarvestState)
  deriving DecidableEq

/-- `(hostname, year)`. -/
abbrev Capture := String × Int

/-- What the pages of an iterator hold of accepted rows: their captures, whether each page is the last, and what was raised. -/
structure Kept where
  pages : List (List Capture × Bool)
  failure : Option Failure

def endedBy : Failure → QueryState
  | .transport _ => .transientError
  | _ => .invalid

/-- A year is proved by any accepted row, and absent when the last page was read. -/
def keyAnswer (capture : Capture) (kept : Kept) : State × List Capture :=
  if kept.pages.any fun page => page.1 ≠ [] then (.query .pass, [capture])
  else
    (.query (match kept.failure with
      | some failure => endedBy failure
      | none => if (kept.pages.getLast?.map (·.2)) = some true then .emptyExhaustive else .incomplete), [])

/-- The captures among the expected ones. -/
def foundOf (expected : List Capture) (kept : Kept) : List Capture :=
  expected.filter fun capture => kept.pages.any fun page => page.1.contains capture

/-- Years are proved by their accepted rows; the others are absent when the last page was read. -/
def rangeAnswer (expected : List Capture) (kept : Kept) : State × List Capture :=
  (.query <|
    if foundOf expected kept = expected then .pass
    else
      match kept.failure with
      | some (.transport _) => if foundOf expected kept = [] then .transientError else .decomposed
      | some _ => .invalid
      | none =>
        if (kept.pages.getLast?.map (·.2)) = some true then if foundOf expected kept = [] then .emptyExhaustive else .pass
        else if kept.pages = [] then .incomplete else .decomposed,
    foundOf expected kept)

/-- A domain is never exhausted: its accepted rows are all that it gives. -/
def domainAnswer (read : Except Failure (List Capture)) : State × List Capture :=
  match read with
  | .ok captures => (.query .decomposed, captures)
  | .error failure => (.query (endedBy failure), [])

/-- A page of a platform year: its captures, its resume key, and whether it is full. -/
def platformAnswer (resumeKey : Option String) (read : Except Failure (List Capture × Option String × Bool)) : State × List Capture :=
  match read with
  | .error (.transport _) => (.harvest .retryable, [])
  | .error _ => (.harvest .failedInvalid, [])
  | .ok (captures, some key, _) => if some key = resumeKey then (.harvest .retryable, []) else (.harvest .partial_, captures)
  | .ok (captures, none, full) => (.harvest (if full then .retryable else .complete), captures)

/-! ## Calls -/

abbrev Task := { task : PlatformYearHarvestTask // task.postInit = none }

inductive Call
  | queryKey (key : EvidenceQueryKey)
  | queryRange (key : EvidenceQueryKey)
  | queryDomain (key : EvidenceQueryKey)
  | harvestPlatformYear (task : Task)

/-- What a request gives when there is no further response. -/
def noResponse : Failure := .transport "timeout"

/-- What the page iterator yields of some responses. -/
def pagesFrom (p : Python) (limit : Nat) (resumeKey : Option String) : List Response → Pages
  | [] => ⟨[], some noResponse⟩
  | response :: rest =>
    match turn p (fun rows => rows.length < limit) resumeKey response with
    | (page, .done) => ⟨page.toList, none⟩
    | (page, .raise failure) => ⟨page.toList, some failure⟩
    | (page, .ask key) => ⟨page.toList ++ (pagesFrom p limit (some key) rest).pages, (pagesFrom p limit (some key) rest).failure⟩

def firstOf (responses : List Response) : Response := responses.head?.getD (.error noResponse)

def capturesOf (capsules : List EvidenceCapsule) : List Capture := capsules.map fun c => (c.hostname, c.year)

/-- `key.policy_version.startswith("cdx-domain-")`. -/
def isDomainPolicy (key : EvidenceQueryKey) : Bool := "cdx-domain-".toList.isPrefixOf key.policyVersion.toList

section
variable (p : Python) (client : Client) (spent : Spent) (responses : List Response)

def runDomain (key : EvidenceQueryKey) : Except Failure (State × List Capture) :=
  (queryDomain p client spent key (firstOf responses)).map fun r => (.query r.state, capturesOf r.capsules)

/-- The state and the captures of a call, of the responses to its requests. -/
def run : Call → Except Failure (State × List Capture)
  | .queryKey key => (queryKey p client spent key (pagesFrom p 1 none responses)).map fun r => (.query r.state, capturesOf r.capsule.toList)
  | .queryRange key =>
    if isDomainPolicy key then runDomain p client spent responses key
    else (queryRange p client spent key (pagesFrom p client.limit none responses)).map fun r => (.query r.state, capturesOf r.capsules)
  | .queryDomain key => runDomain p client spent responses key
  | .harvestPlatformYear task =>
    (harvestPlatformYear p client spent task.1 (firstOf responses)).map fun r => (.harvest r.state, capturesOf r.capsules)

/-- The acceptance predicate of a row of one host. -/
def keyAccepts (key : EvidenceQueryKey) : Row → Except Failure (Option Int) := fun row =>
  acceptedYear p row key.hostname key.yearFrom key.yearTo

/-- The captures of the accepted rows of one host. -/
def keptBy (key : EvidenceQueryKey) (source : Pages) : Kept where
  pages := source.pages.map fun page => (page.1.filterMap fun row => (identityOf (keyAccepts p key) row).map (key.hostname, ·), page.2)
  failure := source.failure

def domainKept (key : EvidenceQueryKey) : Except Failure (List Capture) :=
  (firstOf responses >>= parsePayload p).map fun parsed => parsed.1.filterMap (identityOf (domainPair p key))

/-- The task is one of the client's requests. -/
def isFit (task : Task) : Bool :=
  task.1.identity.provider = client.provider &&
    task.1.identity.requestTemplateHash = client.templateHash task.1.identity.subject task.1.identity.targetYear task.1.identity.policyVersion

/-- What the accepted rows of a call give. -/
def expected : Call → State × List Capture
  | .queryKey key => keyAnswer (key.hostname, key.yearFrom) (keptBy p key (pagesFrom p 1 none responses))
  | .queryRange key =>
    if isDomainPolicy key then domainAnswer (domainKept p responses key)
    else rangeAnswer ((expectedYears key).map (key.hostname, ·)) (keptBy p key (pagesFrom p client.limit none responses))
  | .queryDomain key => domainAnswer (domainKept p responses key)
  | .harvestPlatformYear task =>
    -- A task of another client is refused, whatever the rows are.
    if isFit client task then
      platformAnswer task.1.resumeKey <| (firstOf responses >>= parsePayload p).map fun parsed =>
        (parsed.1.filterMap (identityOf (platformPair p task.1.identity)), parsed.2.filter (· ≠ ""), decide (client.limit ≤ parsed.1.length))
    else (.harvest .failedInvalid, [])

def Tables : Prop := ∀ response ∈ responses, ∃ table, response >>= parsePayload p = .ok table

/-- Two answers with the same state and the same set of captures. -/
def SameAnswer (a b : State × List Capture) : Prop := a.1 = b.1 ∧ ∀ capture, capture ∈ a.2 ↔ capture ∈ b.2

/-- A call gives a result, and of CDX tables what its accepted rows give. -/
structure Meets (call : Call) : Prop where
  returns : ∃ answer, run p client spent responses call = .ok answer
  local_ : Tables p responses → ∃ answer, run p client spent responses call = .ok answer ∧ SameAnswer answer (expected p client responses call)

/-! ## One year -/

/-- The rows up to the first accepted one are read, and UTF-8 holds its text. -/
def KeyLegible {ι : Type} (accept : Row → Except Failure (Option ι)) : List Row → Prop
  | [] => True
  | row :: rest =>
    match accept row with
    | .error _ => False
    | .ok none => KeyLegible accept rest
    | .ok (some _) => encodable (dumps (.obj row)) = true

def AnyAccepted {ι : Type} (accept : Row → Except Failure (Option ι)) (rows : List Row) : Prop := ∃ row ∈ rows, (identityOf accept row).isSome

theorem anyAccepted_append {ι : Type} {accept : Row → Except Failure (Option ι)} {first second : List Row} :
    AnyAccepted accept (first ++ second) ↔ AnyAccepted accept first ∨ AnyAccepted accept second := by
  simp [AnyAccepted, or_and_right, exists_or]

theorem keyLegible_append {ι : Type} {accept : Row → Except Failure (Option ι)} {first second : List Row} :
    KeyLegible accept (first ++ second) ↔ KeyLegible accept first ∧ (¬AnyAccepted accept first → KeyLegible accept second) := by
  induction first with
  | nil => simp [KeyLegible, AnyAccepted]
  | cons row rest ih =>
    rw [List.cons_append, KeyLegible, KeyLegible]
    cases read : accept row with
    | error failure => simp
    | ok identity =>
      cases identity with
      | none =>
        have skipped : AnyAccepted accept (row :: rest) ↔ AnyAccepted accept rest := by simp [AnyAccepted, identityOf, read]
        rw [skipped]
        exact ih
      | some identity =>
        have taken : AnyAccepted accept (row :: rest) := ⟨row, List.mem_cons_self, by rw [identityOf, read]; rfl⟩
        simp [taken]

/-- How the rows of a page, or of several pages, end a query of one year. -/
inductive KeyOutcome (key : EvidenceQueryKey) (rows : List Row) : Except Failure (Option EvidenceCapsule) → Prop
  | nothing (legible : KeyLegible (keyAccepts p key) rows) (none_ : ¬AnyAccepted (keyAccepts p key) rows) : KeyOutcome key rows (.ok none)
  | proved (legible : KeyLegible (keyAccepts p key) rows) (some_ : AnyAccepted (keyAccepts p key) rows) (c : EvidenceCapsule)
      (of_ : Of key.provider key.policyVersion (key.hostname, key.yearFrom) c) : KeyOutcome key rows (.ok (some c))
  | illegible (bad : ¬KeyLegible (keyAccepts p key) rows) (message : String) : KeyOutcome key rows (.error (.valueError message))

theorem keyRows_outcome {key : EvidenceQueryKey} (single : key.yearFrom = key.yearTo) (pagesSeen recordsSeen : Nat) (rows : List Row) :
    KeyOutcome p key rows (keyRows p client key pagesSeen recordsSeen rows).2 := by
  have makes := range_makes p client key pagesSeen "cdx_query_year"
  induction rows generalizing recordsSeen with
  | nil => exact .nothing trivial (by simp [AnyAccepted])
  | cons row rest ih =>
    have same : acceptedYear p row key.hostname key.yearFrom key.yearFrom = keyAccepts p key row := by rw [keyAccepts, ← single]
    unfold keyRows
    rw [same]
    cases read : keyAccepts p key row with
    | error failure =>
      obtain ⟨message, rfl⟩ := makes.misread row failure read
      exact .illegible (by rw [KeyLegible, read]; exact id) message
    | ok identity =>
      cases identity with
      | none =>
        have skipped : AnyAccepted (keyAccepts p key) (row :: rest) ↔ AnyAccepted (keyAccepts p key) rest := by
          simp [AnyAccepted, identityOf, read]
        have step : KeyLegible (keyAccepts p key) (row :: rest) ↔ KeyLegible (keyAccepts p key) rest := by rw [KeyLegible, read]
        dsimp only
        have later := ih (recordsSeen + 1)
        generalize (keyRows p client key pagesSeen (recordsSeen + 1) rest).2 = outcome at later
        cases later with
        | nothing legible none_ => exact .nothing (step.mpr legible) (mt skipped.mp none_)
        | proved legible some_ c of_ => exact .proved (step.mpr legible) (skipped.mpr some_) c of_
        | illegible bad message => exact .illegible (mt step.mp bad) message
      | some year =>
        have taken : AnyAccepted (keyAccepts p key) (row :: rest) := ⟨row, List.mem_cons_self, by rw [identityOf, read]; rfl⟩
        have step : KeyLegible (keyAccepts p key) (row :: rest) ↔ encodable (dumps (.obj row)) = true := by rw [KeyLegible, read]
        dsimp only
        by_cases encodes : encodable (dumps (.obj row)) = true
        · obtain ⟨c, made, of_, scope⟩ := makes.made row year (recordsSeen + 1) read encodes
          have isYear : year = key.yearFrom := by
            simp only [inScope, Bool.and_eq_true, decide_eq_true_eq] at scope
            omega
          rw [made]
          exact .proved (step.mpr encodes) taken c (isYear ▸ of_)
        · cases made : capsuleFromRow p client.sourceId key row year pagesSeen (recordsSeen + 1) "cdx_query_year" with
          | ok c => exact absurd (makes.refused row year _ c made) encodes
          | error failure =>
            obtain ⟨message, rfl⟩ := makes.unmade row year _ failure made
            exact .illegible (mt step.mp encodes) message

def rowsOf (pages : List Page) : List Row := pages.flatMap (·.1)

/-- How a query of one year ends: by its rows, or by what its iterator does behind them. -/
inductive KeyEnded (key : EvidenceQueryKey) (source : Pages) (last : Option Bool) : Except Failure (Option EvidenceCapsule × Option Bool) → Prop
  | ended (legible : KeyLegible (keyAccepts p key) (rowsOf source.pages)) (none_ : ¬AnyAccepted (keyAccepts p key) (rowsOf source.pages))
      (complete : source.failure = none) : KeyEnded key source last (.ok (none, (source.pages.getLast?.map (·.2)).or last))
  | failed (legible : KeyLegible (keyAccepts p key) (rowsOf source.pages)) (none_ : ¬AnyAccepted (keyAccepts p key) (rowsOf source.pages))
      (failure : Failure) (raised : source.failure = some failure) : KeyEnded key source last (.error failure)
  | proved (legible : KeyLegible (keyAccepts p key) (rowsOf source.pages)) (some_ : AnyAccepted (keyAccepts p key) (rowsOf source.pages))
      (c : EvidenceCapsule) (of_ : Of key.provider key.policyVersion (key.hostname, key.yearFrom) c) (flag : Option Bool) :
      KeyEnded key source last (.ok (some c, flag))
  | illegible (bad : ¬KeyLegible (keyAccepts p key) (rowsOf source.pages)) (message : String) :
      KeyEnded key source last (.error (.valueError message))

theorem keyPages_ended {key : EvidenceQueryKey} (single : key.yearFrom = key.yearTo) (source : Pages) (pagesSeen recordsSeen : Nat)
    (last : Option Bool) : KeyEnded p key source last (keyPages p client key source.failure pagesSeen recordsSeen last source.pages).ended := by
  obtain ⟨pages, failure⟩ := source
  induction pages generalizing pagesSeen recordsSeen last with
  | nil =>
    cases failure with
    | none => exact .ended trivial (by simp [AnyAccepted, rowsOf]) rfl
    | some failure =>
      change KeyEnded p key ⟨[], some failure⟩ last (.error failure)
      refine .failed ?_ ?_ failure rfl
      · exact trivial
      · simp [AnyAccepted, rowsOf]
  | cons page rest ih =>
    have flat : rowsOf (page :: rest) = page.1 ++ rowsOf rest := rfl
    have here := keyRows_outcome p client single (pagesSeen + 1) recordsSeen page.1
    unfold keyPages
    dsimp only
    generalize keyRows p client key (pagesSeen + 1) recordsSeen page.1 = read at here
    obtain ⟨records, outcome⟩ := read
    dsimp only at here
    cases here with
    | illegible bad message =>
      refine .illegible (fun legible => bad ?_) message
      rw [flat, keyLegible_append] at legible
      exact legible.1
    | proved legible some_ c of_ =>
      refine .proved ?_ ?_ c of_ last
      · rw [flat, keyLegible_append]
        exact ⟨legible, fun none_ => absurd some_ none_⟩
      · rw [flat, anyAccepted_append]
        exact .inl some_
    | nothing legible none_ =>
      have step : KeyLegible (keyAccepts p key) (rowsOf (page :: rest)) ↔ KeyLegible (keyAccepts p key) (rowsOf rest) := by
        rw [flat, keyLegible_append]
        exact ⟨fun both => both.2 none_, fun later => ⟨legible, fun _ => later⟩⟩
      have any_ : AnyAccepted (keyAccepts p key) (rowsOf (page :: rest)) ↔ AnyAccepted (keyAccepts p key) (rowsOf rest) := by
        rw [flat, anyAccepted_append]
        exact ⟨fun either => either.resolve_left none_, .inr⟩
      have later := ih (pagesSeen + 1) records (some page.2)
      generalize (keyPages p client key failure (pagesSeen + 1) records (some page.2) rest).ended = ended at later
      cases later with
      | ended legible' none_' complete =>
        have flag : ((rest.getLast?.map (·.2)).or (some page.2)) = (((page :: rest).getLast?.map (·.2)).or last) := by
          rw [List.getLast?_cons]
          cases rest.getLast? <;> rfl
        dsimp only
        rw [flag]
        exact .ended (step.mpr legible') (mt any_.mp none_') complete
      | failed legible' none_' failure' raised => exact .failed (step.mpr legible') (mt any_.mp none_') failure' raised
      | proved legible' some_ c of_ flag => exact .proved (step.mpr legible') (any_.mpr some_) c of_ flag
      | illegible bad message => exact .illegible (mt step.mp bad) message

/-- What a failure makes of a call that catches it. -/
def caught (failure : Failure) : Except Failure (State × List Capture) :=
  match failure with
  | .other name => .error (.other name)
  | failure => .ok (.query (endedBy failure), [])

/-- What the end of a query of one year makes of it. -/
def keyAnswered (key : EvidenceQueryKey) : Except Failure (Option EvidenceCapsule × Option Bool) → Except Failure (State × List Capture)
  | .ok (some _, _) => .ok (.query .pass, [(key.hostname, key.yearFrom)])
  | .ok (none, last) => .ok (.query (if last = some true then .emptyExhaustive else .incomplete), [])
  | .error failure => caught failure

/-- The answer of a query of one year, by how it ended. -/
theorem run_queryKey {key : EvidenceQueryKey} (provider : key.provider = client.provider) (single : key.yearFrom = key.yearTo)
    {ended : Except Failure (Option EvidenceCapsule × Option Bool)}
    (isEnded : (keyPages p client key (pagesFrom p 1 none responses).failure 0 0 none (pagesFrom p 1 none responses).pages).ended = ended)
    (of_ : ∀ c flag, ended = .ok (some c, flag) → Of key.provider key.policyVersion (key.hostname, key.yearFrom) c) :
    run p client spent responses (.queryKey key) = keyAnswered key ended := by
  rw [run]
  unfold queryKey
  rw [if_neg (not_not_intro provider), if_neg (not_not_intro single)]
  dsimp only
  generalize keyPages p client key (pagesFrom p 1 none responses).failure 0 0 none (pagesFrom p 1 none responses).pages = e at isEnded ⊢
  have nothing : ∀ c, (none : Option EvidenceCapsule) = some c → Of key.provider key.policyVersion (key.hostname, key.yearFrom) c := nofun
  have empty (state : QueryState) (error : Option String) := exact_made spent key single e state nothing error
  rw [isEnded]
  cases ended with
  | error failure =>
    cases failure with
    | other name => rfl
    | valueError message =>
      obtain ⟨r, made, same⟩ := empty .invalid (some message)
      have state : r.state = .invalid := congrArg ExactFields.state same
      have capsule : r.capsule = none := congrArg ExactFields.capsule same
      change (makeExact (exactFields spent key e .invalid none (some message))).map _ = _
      rw [made]
      change Except.ok (State.query r.state, capturesOf r.capsule.toList) = _
      rw [state, capsule]
      rfl
    | transport message =>
      obtain ⟨r, made, same⟩ := empty .transientError (some message)
      have state : r.state = .transientError := congrArg ExactFields.state same
      have capsule : r.capsule = none := congrArg ExactFields.capsule same
      change (makeExact (exactFields spent key e .transientError none (some message))).map _ = _
      rw [made]
      change Except.ok (State.query r.state, capturesOf r.capsule.toList) = _
      rw [state, capsule]
      rfl
  | ok result =>
    obtain ⟨capsule, flag⟩ := result
    cases capsule with
    | some c =>
      have isOf := of_ c flag rfl
      obtain ⟨r, made, same⟩ := exact_made spent key single e .pass (fun d (isC : some c = some d) => Option.some.inj isC ▸ isOf) none
      have state : r.state = .pass := congrArg ExactFields.state same
      have capsule : r.capsule = some c := congrArg ExactFields.capsule same
      simp only [Except.bind, bind, made, Except.map, state, capsule, Option.toList_some, capturesOf, List.map_cons, List.map_nil, isOf.hostname,
        isOf.year, keyAnswered]
    | none =>
      obtain ⟨r, made, same⟩ := empty (if flag = some true then .emptyExhaustive else .incomplete) none
      have state : r.state = if flag = some true then .emptyExhaustive else .incomplete := congrArg ExactFields.state same
      have capsule : r.capsule = none := congrArg ExactFields.capsule same
      simp only [Except.bind, bind, made, Except.map, state, capsule, Option.toList_none, capturesOf, List.map_nil, keyAnswered]

theorem tables_failure {limit : Nat} (tables : Tables p responses) (resumeKey : Option String) {failure : Failure}
    (raised : (pagesFrom p limit resumeKey responses).failure = some failure) : ∃ message, failure = .transport message := by
  induction responses generalizing resumeKey with
  | nil => exact ⟨_, (Option.some.inj raised).symm⟩
  | cons response rest ih =>
    obtain ⟨table, read⟩ := tables response List.mem_cons_self
    unfold pagesFrom turn at raised
    rw [read] at raised
    dsimp only at raised
    cases given : table.2.filter (· ≠ "") with
    | none =>
      rw [given] at raised
      cases raised
    | some key =>
      rw [given] at raised
      dsimp only at raised
      by_cases again : some key = resumeKey
      · rw [if_pos again] at raised
        exact ⟨_, (Option.some.inj raised).symm⟩
      · rw [if_neg again] at raised
        exact ih (fun r member => tables r (List.mem_cons_of_mem _ member)) (some key) raised

/-- What a query of one year needs of its responses. -/
structure KeySettles (key : EvidenceQueryKey) : Prop where
  provider : key.provider = client.provider
  single : key.yearFrom = key.yearTo
  /-- The iterator raises nothing that the call would not catch, unless the call ends before. -/
  caught : ∀ name, (pagesFrom p 1 none responses).failure = some (.other name) →
    AnyAccepted (keyAccepts p key) (rowsOf (pagesFrom p 1 none responses).pages) ∨
      ¬KeyLegible (keyAccepts p key) (rowsOf (pagesFrom p 1 none responses).pages)
  legible : Tables p responses → KeyLegible (keyAccepts p key) (rowsOf (pagesFrom p 1 none responses).pages)

theorem kept_any {key : EvidenceQueryKey} (source : Pages) :
    ((keptBy p key source).pages.any fun page => page.1 ≠ []) = true ↔ AnyAccepted (keyAccepts p key) (rowsOf source.pages) := by
  simp only [keptBy, List.any_map, List.any_eq_true, Function.comp_apply, decide_eq_true_eq, ne_eq, AnyAccepted, rowsOf, List.mem_flatMap]
  constructor
  · rintro ⟨page, listed, some_⟩
    obtain ⟨capture, member⟩ := List.exists_mem_of_ne_nil _ some_
    obtain ⟨row, inside, accepted⟩ := List.mem_filterMap.mp member
    obtain ⟨year, isYear, -⟩ := Option.map_eq_some_iff.mp accepted
    exact ⟨row, ⟨page, listed, inside⟩, by rw [isYear]; rfl⟩
  · rintro ⟨row, ⟨page, listed, inside⟩, accepted⟩
    obtain ⟨year, isYear⟩ := Option.isSome_iff_exists.mp accepted
    have kept : (key.hostname, year) ∈ page.1.filterMap fun row => (identityOf (keyAccepts p key) row).map (key.hostname, ·) :=
      List.mem_filterMap.mpr ⟨row, inside, by rw [isYear]; rfl⟩
    exact ⟨page, listed, List.ne_nil_of_mem kept⟩

theorem kept_last {key : EvidenceQueryKey} (source : Pages) :
    (keptBy p key source).pages.getLast?.map (·.2) = source.pages.getLast?.map (·.2) := by
  rw [keptBy, List.getLast?_map, Option.map_map]
  rfl

theorem key_meets_iff (key : EvidenceQueryKey) : Meets p client spent responses (.queryKey key) ↔ KeySettles p client responses key := by
  by_cases provider : key.provider = client.provider
  case neg =>
    refine iff_of_false (fun meets => ?_) fun settles => provider settles.provider
    obtain ⟨answer, returned⟩ := meets.returns
    rw [run, queryKey, if_pos provider] at returned
    cases returned
  by_cases single : key.yearFrom = key.yearTo
  case neg =>
    refine iff_of_false (fun meets => ?_) fun settles => single settles.single
    obtain ⟨answer, returned⟩ := meets.returns
    rw [run, queryKey, if_neg (not_not_intro provider), if_pos single] at returned
    cases returned
  have ended := keyPages_ended p client single (pagesFrom p 1 none responses) 0 0 none
  generalize isEnded : (keyPages p client key (pagesFrom p 1 none responses).failure 0 0 none (pagesFrom p 1 none responses).pages).ended = end_
    at ended
  have answered := fun of_ => run_queryKey p client spent responses provider single isEnded of_
  cases ended with
  | illegible bad message =>
    have result : run p client spent responses (.queryKey key) = .ok (.query .invalid, []) := answered nofun
    constructor
    · intro meets
      refine ⟨provider, single, fun _ _ => .inr bad, fun tables => ?_⟩
      obtain ⟨answer, returned, same, -⟩ := meets.local_ tables
      rw [result] at returned
      obtain rfl := Except.ok.inj returned
      -- No state that accepted rows give is INVALID.
      unfold expected keyAnswer at same
      dsimp only at same
      split at same
      · cases same
      cases raised : (keptBy p key (pagesFrom p 1 none responses)).failure with
      | some failure =>
        obtain ⟨message, rfl⟩ := tables_failure p responses tables none raised
        rw [raised] at same
        cases same
      | none =>
        rw [raised] at same
        dsimp only at same
        split_ifs at same <;> cases same
    · intro settles
      exact ⟨⟨_, result⟩, fun tables => absurd (settles.legible tables) bad⟩
  | proved legible some_ c of_ flag =>
    have result : run p client spent responses (.queryKey key) = .ok (.query .pass, [(key.hostname, key.yearFrom)]) :=
      answered fun d flag' same => by
        obtain ⟨isC, -⟩ := Prod.mk.inj (Except.ok.inj same)
        exact Option.some.inj isC ▸ of_
    refine iff_of_true ⟨⟨_, result⟩, fun _ => ⟨_, result, ?_⟩⟩ ⟨provider, single, fun _ _ => .inl some_, fun _ => legible⟩
    unfold expected keyAnswer
    dsimp only
    rw [if_pos ((kept_any p _).mpr some_)]
    exact ⟨rfl, fun _ => Iff.rfl⟩
  | ended legible none_ complete =>
    have result := answered nofun
    rw [keyAnswered] at result
    refine iff_of_true ⟨⟨_, result⟩, fun _ => ⟨_, result, ?_⟩⟩
      ⟨provider, single, fun name other => (nomatch complete.symm.trans other), fun _ => legible⟩
    unfold expected keyAnswer
    dsimp only
    rw [if_neg (mt (kept_any p _).mp none_), kept_last, show (keptBy p key (pagesFrom p 1 none responses)).failure = none from complete,
      Option.or_none]
    exact ⟨rfl, fun _ => Iff.rfl⟩
  | failed legible none_ failure raised =>
    have result := answered nofun
    rw [keyAnswered] at result
    cases failure with
    | other name =>
      refine iff_of_false (fun meets => ?_) fun settles => ?_
      · obtain ⟨answer, returned⟩ := meets.returns
        rw [result] at returned
        cases returned
      · exact (settles.caught name raised).elim none_ fun bad => bad legible
    | valueError message =>
      refine iff_of_true ⟨⟨_, result⟩, fun tables => ?_⟩
        ⟨provider, single, fun name other => (nomatch raised.symm.trans other), fun _ => legible⟩
      obtain ⟨message, bad⟩ := tables_failure p responses tables none raised
      cases bad
    | transport message =>
      refine iff_of_true ⟨⟨_, result⟩, fun _ => ⟨_, result, ?_⟩⟩
        ⟨provider, single, fun name other => (nomatch raised.symm.trans other), fun _ => legible⟩
      unfold expected keyAnswer
      dsimp only
      rw [if_neg (mt (kept_any p _).mp none_), show (keptBy p key (pagesFrom p 1 none responses)).failure = _ from raised]
      exact ⟨rfl, fun _ => Iff.rfl⟩

/-! ## Several years -/

def provedYears (key : EvidenceQueryKey) (rows : List Row) : List Int := rows.filterMap (identityOf (keyAccepts p key))

def Covers (key : EvidenceQueryKey) (years : List Int) : Prop := ∀ year ∈ expectedYears key, year ∈ years

/-- The pages up to the one that covers every year are legible. -/
def RangeLegible (key : EvidenceQueryKey) : List Int → List Page → Prop
  | _, [] => True
  | seen, page :: rest =>
    Legible (keyAccepts p key) seen page.1 ∧
      (Covers key (seen ++ provedYears p key page.1) ∨ RangeLegible key (seen ++ provedYears p key page.1) rest)

/-- Only the last page is whole, and nothing is raised behind it. -/
def EndsWhole (source : Pages) : Prop :=
  ∀ front page rest, source.pages = front ++ page :: rest → page.2 = true → rest = [] ∧ source.failure = none

structure Gathered (key : EvidenceQueryKey) (found : ByYear) (years : List Int) : Prop where
  fine : YearsFound key found
  years : ∀ year, year ∈ found.map (·.1) ↔ year ∈ years

/-- How a query of several years ends. -/
inductive RangeEnded (key : EvidenceQueryKey) (source : Pages) (pagesSeen : Nat) (seen : List Int) (last : Option Bool) (e : RangeEnd) : Prop
  | covered (legible : RangeLegible p key seen source.pages) (all : Covers key (seen ++ provedYears p key (rowsOf source.pages)))
      (outcome : e.outcome = .covered) (found : YearsFound key e.found) (covers : Covers key (e.found.map (·.1)))
  | ended (legible : RangeLegible p key seen source.pages) (open_ : ¬Covers key (seen ++ provedYears p key (rowsOf source.pages)))
      (complete : source.failure = none) (outcome : e.outcome = .ended ((source.pages.getLast?.map (·.2)).or last))
      (gathered : Gathered key e.found (seen ++ provedYears p key (rowsOf source.pages)))
      (pages : e.pagesSeen = pagesSeen + source.pages.length)
  | failed (legible : RangeLegible p key seen source.pages) (open_ : ¬Covers key (seen ++ provedYears p key (rowsOf source.pages)))
      (failure : Failure) (raised : source.failure = some failure) (outcome : e.outcome = .failed failure)
      (gathered : Gathered key e.found (seen ++ provedYears p key (rowsOf source.pages)))
  | illegible (bad : ¬RangeLegible p key seen source.pages) (message : String) (outcome : e.outcome = .failed (.valueError message))
      (found : YearsFound key e.found)

/-- The page of some years: it is legible and its years are gathered, or it raises a `ValueError`. -/
theorem rangeRows_gathered {key : EvidenceQueryKey} {found : ByYear} {seen : List Int} (g : Gathered key found seen) (pagesSeen recordsSeen : Nat)
    (rows : List Row) :
    (Legible (keyAccepts p key) seen rows ∧ ∃ records found', rangeRows p client key pagesSeen recordsSeen found rows = (records, found', none) ∧
      Gathered key found' (seen ++ provedYears p key rows)) ∨
    (¬Legible (keyAccepts p key) seen rows ∧ ∃ records kept message,
      rangeRows p client key pagesSeen recordsSeen found rows = (records, kept, some (.valueError message)) ∧ YearsFound key kept) := by
  have makes := range_makes p client key pagesSeen "cdx_query_host_range"
  have kept := collectRows_kept makes recordsSeen found rows g.fine.apart g.fine.each
  rw [← legible_congr g.years rows]
  rcases collectRows_spec makes recordsSeen found rows with ⟨legible, end_, ended, c⟩ | ⟨bad, records, rest, message, ended⟩
  · refine .inl ⟨legible, end_.1, end_.2, ended, ⟨c.apart g.fine.apart, c.each g.fine.each⟩, fun year => ?_⟩
    rw [c.identities year, g.years, List.mem_append, provedYears, List.mem_filterMap]
    rfl
  · rw [ended] at kept
    exact .inr ⟨bad, records, rest, message, ended, kept.1, kept.2⟩

theorem covered_iff {key : EvidenceQueryKey} {found : ByYear} :
    ((expectedYears key).all fun year => (found.find? (·.1 = year)).isSome) = true ↔ Covers key (found.map (·.1)) := by
  simp only [List.all_eq_true, find?_isSome_iff, Covers]

theorem rangePages_ended {key : EvidenceQueryKey} (failure : Option Failure) (pages : List Page) (whole : EndsWhole ⟨pages, failure⟩)
    (pagesSeen recordsSeen : Nat) {found : ByYear} {seen : List Int} (g : Gathered key found seen) (open_ : ¬Covers key seen) (last : Option Bool) :
    RangeEnded p key ⟨pages, failure⟩ pagesSeen seen last (rangePages p client key failure pagesSeen recordsSeen found last pages) := by
  induction pages generalizing pagesSeen recordsSeen found seen last with
  | nil =>
    have same : seen ++ provedYears p key (rowsOf []) = seen := List.append_nil seen
    cases failure with
    | none =>
      refine .ended trivial ?_ rfl rfl ?_ rfl
      · rwa [same]
      · rwa [same]
    | some failure =>
      refine .failed trivial ?_ failure rfl rfl ?_
      · rwa [same]
      · rwa [same]
  | cons page rest ih =>
    have flat : seen ++ provedYears p key (rowsOf (page :: rest)) = (seen ++ provedYears p key page.1) ++ provedYears p key (rowsOf rest) := by
      rw [List.append_assoc, provedYears, provedYears, provedYears, ← List.filterMap_append]
      rfl
    unfold rangePages
    rcases rangeRows_gathered p client g (pagesSeen + 1) recordsSeen page.1 with ⟨legible, records, found', read, g'⟩ | ⟨bad, records, kept, message, read, fine⟩
    case inr =>
      rw [read]
      exact .illegible (fun legible => bad legible.1) message rfl fine
    rw [read]
    dsimp only
    have covers : Covers key (found'.map (·.1)) ↔ Covers key (seen ++ provedYears p key page.1) :=
      forall₂_congr fun year _ => g'.years year
    by_cases all : Covers key (seen ++ provedYears p key page.1)
    · rw [if_pos (covered_iff.mpr (covers.mpr all))]
      refine .covered ⟨legible, .inl all⟩ ?_ rfl g'.fine (covers.mpr all)
      rw [flat]
      exact fun year expected => List.mem_append_left _ (all year expected)
    rw [if_neg (mt covered_iff.mp (mt covers.mp all))]
    have step : RangeLegible p key seen (page :: rest) ↔ RangeLegible p key (seen ++ provedYears p key page.1) rest := by
      rw [RangeLegible]
      simp only [legible, all, true_and, false_or]
    have wholeRest : EndsWhole ⟨rest, failure⟩ := fun front inner behind same flag =>
      whole (page :: front) inner behind (congrArg (page :: ·) same) flag
    have later := ih wholeRest (pagesSeen + 1) records g' all (some page.2)
    have flag : ((rest.getLast?.map (·.2)).or (some page.2)) = (((page :: rest).getLast?.map (·.2)).or last) := by
      rw [List.getLast?_cons]
      cases rest.getLast? <;> rfl
    by_cases isWhole : page.2 = true
    · rw [if_pos isWhole]
      obtain ⟨rfl, rfl⟩ := whole [] page rest rfl isWhole
      have same : seen ++ provedYears p key (rowsOf [page]) = seen ++ provedYears p key page.1 := by
        rw [flat]
        exact List.append_nil _
      refine .ended ⟨legible, .inr trivial⟩ ?_ rfl ?_ ?_ rfl
      · rwa [same]
      · rw [← isWhole]
        rfl
      · rwa [same]
    rw [if_neg isWhole]
    generalize rangePages p client key failure (pagesSeen + 1) records found' (some page.2) rest = e at later
    cases later with
    | covered legible' all' outcome fine covers' =>
      refine .covered (step.mpr legible') ?_ outcome fine covers'
      rwa [flat]
    | ended legible' open' complete outcome g'' count =>
      refine .ended (step.mpr legible') ?_ complete (outcome.trans (congrArg _ flag)) ?_ ?_
      · rwa [flat]
      · rwa [flat]
      · rw [count]
        exact Nat.add_right_comm pagesSeen 1 rest.length
    | failed legible' open' failure' raised outcome g'' =>
      refine .failed (step.mpr legible') ?_ failure' raised outcome ?_
      · rwa [flat]
      · rwa [flat]
    | illegible bad message outcome fine => exact .illegible (mt step.mp bad) message outcome fine

theorem pagesFrom_whole (limit : Nat) (resumeKey : Option String) : EndsWhole (pagesFrom p limit resumeKey responses) := by
  induction responses generalizing resumeKey with
  | nil => exact fun front page rest same => by simp [pagesFrom] at same
  | cons response rest ih =>
    intro front page behind same flag
    unfold pagesFrom turn at same ⊢
    cases read : response >>= parsePayload p with
    | error failure =>
      rw [read] at same
      simp at same
    | ok parsed =>
      obtain ⟨rows, nextKey⟩ := parsed
      rw [read] at same
      dsimp only at same ⊢
      cases given : nextKey.filter (· ≠ "") with
      | none =>
        rw [given] at same
        dsimp only at same ⊢
        cases front with
        | nil =>
          rw [List.nil_append] at same
          exact ⟨(List.cons.inj same).2.symm, rfl⟩
        | cons first front => simp at same
      | some key =>
        rw [given] at same
        dsimp only at same ⊢
        by_cases again : some key = resumeKey
        · rw [if_pos again] at same
          cases front with
          | nil =>
            rw [List.nil_append] at same
            rw [← (List.cons.inj same).1] at flag
            cases flag
          | cons first front => simp at same
        · rw [if_neg again] at same ⊢
          dsimp only at same ⊢
          cases front with
          | nil =>
            rw [List.nil_append] at same
            rw [← (List.cons.inj same).1] at flag
            cases flag
          | cons first front => exact ih (some key) front page behind (List.cons.inj same).2 flag

/-- The state that the end of a query of several years makes, when it is caught. -/
def rangeAnswered (e : RangeEnd) : Except Failure QueryState :=
  match e.outcome with
  | .covered => .ok .pass
  | .ended last =>
    .ok (if last = some true then if e.found = [] then .emptyExhaustive else .pass else if e.pagesSeen ≠ 0 then .decomposed else .incomplete)
  | .failed (.other name) => .error (.other name)
  | .failed (.valueError _) => .ok .invalid
  | .failed (.transport _) => .ok (if e.found = [] then .transientError else .decomposed)

/-- The answer of a query of several years, by how it ended. -/
theorem run_queryRange {key : EvidenceQueryKey} (host : isDomainPolicy key = false) (provider : key.provider = client.provider)
    (several : key.yearFrom ≠ key.yearTo) {e : RangeEnd}
    (isEnded : rangePages p client key (pagesFrom p client.limit none responses).failure 0 0 [] none (pagesFrom p client.limit none responses).pages = e)
    (fine : YearsFound key e.found) :
    run p client spent responses (.queryRange key) =
      (rangeAnswered e).map fun state => (.query state, capturesOf (capsulesOf e.found)) := by
  have made (state : QueryState) {followup : List Int} (isFollowup : followup = [] ∨ followup = missingYears key e.found) (error : Option String) :
      ∃ r, makeRange (rangeFields spent key e state followup error) = .ok r ∧
        (State.query r.state, capturesOf r.capsules) = (.query state, capturesOf (capsulesOf e.found)) := by
    obtain ⟨r, made, same⟩ := range_made spent key several e fine state isFollowup error
    have isState : r.state = state := congrArg RangeFields.state same
    have isCapsules : r.capsules = capsulesOf e.found := congrArg RangeFields.capsules same
    exact ⟨r, made, by rw [isState, isCapsules]⟩
  rw [run, host, if_neg Bool.false_ne_true, queryRange, if_neg (not_not_intro provider), if_neg several, isEnded]
  dsimp only
  unfold CdxQueries.rangeAnswer rangeAnswered
  cases e.outcome with
  | covered =>
    obtain ⟨r, isMade, same⟩ := made .pass (.inl rfl) none
    dsimp only
    rw [isMade]
    exact congrArg Except.ok same
  | ended last =>
    dsimp only
    by_cases whole : last = some true
    · obtain ⟨r, isMade, same⟩ := made (if e.found = [] then .emptyExhaustive else .pass) (.inl rfl) none
      rw [if_pos whole, if_pos whole, isMade]
      exact congrArg Except.ok same
    rw [if_neg whole, if_neg whole]
    by_cases some_ : e.pagesSeen ≠ 0
    · obtain ⟨r, isMade, same⟩ := made .decomposed (.inr rfl)
        (some "host CDX query stopped without provider exhaustion or coverage of every target year")
      rw [if_pos some_, if_pos some_, isMade]
      exact congrArg Except.ok same
    · obtain ⟨r, isMade, same⟩ := made .incomplete (.inl rfl) (some "CDX host-range iterator produced no page")
      rw [if_neg some_, if_neg some_, isMade]
      exact congrArg Except.ok same
  | failed failure =>
    cases failure with
    | other name => rfl
    | valueError message =>
      obtain ⟨r, isMade, same⟩ := made .invalid (.inl rfl) (some message)
      dsimp only
      rw [isMade]
      exact congrArg Except.ok same
    | transport message =>
      dsimp only
      by_cases none_ : e.found = []
      · obtain ⟨r, isMade, same⟩ := made .transientError (.inl rfl) (some message)
        rw [if_pos none_, if_pos none_, isMade]
        exact congrArg Except.ok same
      · obtain ⟨r, isMade, same⟩ := made .decomposed (.inr rfl) (some message)
        rw [if_neg none_, if_neg none_, isMade]
        exact congrArg Except.ok same

theorem mem_rangeCaptures {key : EvidenceQueryKey} {found : ByYear} (fine : YearsFound key found) (capture : Capture) :
    capture ∈ capturesOf (capsulesOf found) ↔ capture.1 = key.hostname ∧ capture.2 ∈ found.map (·.1) := by
  rw [capturesOf, List.mem_map]
  constructor
  · rintro ⟨c, member, rfl⟩
    obtain ⟨entry, listed, rfl⟩ := mem_capsulesOf member
    have of_ := (fine.each entry listed).1
    exact ⟨of_.hostname, of_.year ▸ List.mem_map_of_mem listed⟩
  · rintro ⟨host, proved⟩
    have year : capture.2 ∈ (capsulesOf found).map (·.year) := by
      rw [capsulesOf_years key fine]
      exact mem_yearsOf.mpr proved
    obtain ⟨c, member, isYear⟩ := List.mem_map.mp year
    obtain ⟨entry, listed, rfl⟩ := mem_capsulesOf member
    exact ⟨entry.2, member, Prod.ext ((fine.each entry listed).1.hostname.trans host.symm) isYear⟩

theorem mem_provedYears {key : EvidenceQueryKey} {rows : List Row} {year : Int} :
    year ∈ provedYears p key rows ↔ ∃ row ∈ rows, identityOf (keyAccepts p key) row = some year := List.mem_filterMap

theorem provedYears_scope {key : EvidenceQueryKey} {rows : List Row} {year : Int} (proved : year ∈ provedYears p key rows) :
    year ∈ expectedYears key := by
  obtain ⟨row, -, accepted⟩ := (mem_provedYears p).mp proved
  have read : keyAccepts p key row = .ok (some year) := by
    unfold identityOf at accepted
    split at accepted
    · rename_i identity read
      rw [read, accepted]
    · cases accepted
  obtain ⟨low, high⟩ := acceptedYear_scope p read
  rw [mem_expectedYears]
  simp [inScope, low, high]

/-- The expected captures that accepted rows prove. -/
theorem mem_foundOf (key : EvidenceQueryKey) (source : Pages) (capture : Capture) :
    capture ∈ foundOf ((expectedYears key).map (key.hostname, ·)) (keptBy p key source) ↔
      capture.1 = key.hostname ∧ capture.2 ∈ provedYears p key (rowsOf source.pages) := by
  have kept : ((keptBy p key source).pages.any fun page => page.1.contains capture) = true ↔
      capture.1 = key.hostname ∧ capture.2 ∈ provedYears p key (rowsOf source.pages) := by
    simp only [keptBy, List.any_map, List.any_eq_true, Function.comp_apply, List.contains_iff_mem, List.mem_filterMap, Option.map_eq_some_iff,
      mem_provedYears, rowsOf, List.mem_flatMap]
    constructor
    · rintro ⟨page, listed, row, inside, year, accepted, rfl⟩
      exact ⟨rfl, row, ⟨page, listed, inside⟩, accepted⟩
    · rintro ⟨host, row, ⟨page, listed, inside⟩, accepted⟩
      exact ⟨page, listed, row, inside, capture.2, accepted, Prod.ext host.symm rfl⟩
  rw [foundOf, List.mem_filter, kept, List.mem_map, and_iff_right_iff_imp]
  rintro ⟨host, proved⟩
  exact ⟨capture.2, provedYears_scope p proved, Prod.ext host.symm rfl⟩

theorem foundOf_all {key : EvidenceQueryKey} (source : Pages) :
    foundOf ((expectedYears key).map (key.hostname, ·)) (keptBy p key source) = (expectedYears key).map (key.hostname, ·) ↔
      Covers key (provedYears p key (rowsOf source.pages)) := by
  have found := mem_foundOf p key source
  constructor
  · intro all year expected
    have member : (key.hostname, year) ∈ (expectedYears key).map (key.hostname, ·) := List.mem_map_of_mem expected
    rw [← all, found] at member
    exact member.2
  · intro covers
    refine List.filter_eq_self.mpr fun capture member => ?_
    obtain ⟨year, expected, rfl⟩ := List.mem_map.mp member
    exact (List.mem_filter.mp ((found _).mpr ⟨rfl, covers year expected⟩)).2

theorem foundOf_none {key : EvidenceQueryKey} (source : Pages) :
    foundOf ((expectedYears key).map (key.hostname, ·)) (keptBy p key source) = [] ↔ provedYears p key (rowsOf source.pages) = [] := by
  have found := mem_foundOf p key source
  constructor
  · intro none_
    refine List.eq_nil_iff_forall_not_mem.mpr fun year proved => ?_
    have member := (found (key.hostname, year)).mpr ⟨rfl, proved⟩
    rw [none_] at member
    cases member
  · intro none_
    refine List.eq_nil_iff_forall_not_mem.mpr fun capture member => ?_
    have proved := ((found capture).mp member).2
    rw [none_] at proved
    cases proved

/-- The state that accepted rows give, by what they prove and by how the pages end. -/
theorem rangeAnswer_covered {key : EvidenceQueryKey} {source : Pages} (covers : Covers key (provedYears p key (rowsOf source.pages))) :
    (rangeAnswer ((expectedYears key).map (key.hostname, ·)) (keptBy p key source)).1 = .query .pass := by
  rw [rangeAnswer, if_pos ((foundOf_all p source).mpr covers)]

theorem rangeAnswer_failed {key : EvidenceQueryKey} {source : Pages} (open_ : ¬Covers key (provedYears p key (rowsOf source.pages)))
    {message : String} (raised : source.failure = some (.transport message)) :
    (rangeAnswer ((expectedYears key).map (key.hostname, ·)) (keptBy p key source)).1 =
      .query (if provedYears p key (rowsOf source.pages) = [] then .transientError else .decomposed) := by
  have isFailure : (keptBy p key source).failure = some (.transport message) := raised
  rw [rangeAnswer, if_neg (mt (foundOf_all p source).mp open_), isFailure]
  simp only [foundOf_none]

theorem rangeAnswer_ended {key : EvidenceQueryKey} {source : Pages} (open_ : ¬Covers key (provedYears p key (rowsOf source.pages)))
    (complete : source.failure = none) :
    (rangeAnswer ((expectedYears key).map (key.hostname, ·)) (keptBy p key source)).1 =
      .query (if (source.pages.getLast?.map (·.2)) = some true then
          if provedYears p key (rowsOf source.pages) = [] then .emptyExhaustive else .pass
        else if source.pages = [] then .incomplete else .decomposed) := by
  have isFailure : (keptBy p key source).failure = none := complete
  have isPages : (keptBy p key source).pages = [] ↔ source.pages = [] := List.map_eq_nil_iff
  rw [rangeAnswer, if_neg (mt (foundOf_all p source).mp open_), isFailure]
  simp only [foundOf_none, isPages, kept_last]

theorem gathered_captures {key : EvidenceQueryKey} {source : Pages} {found : ByYear}
    (g : Gathered key found (provedYears p key (rowsOf source.pages))) (capture : Capture) :
    capture ∈ capturesOf (capsulesOf found) ↔
      capture ∈ (rangeAnswer ((expectedYears key).map (key.hostname, ·)) (keptBy p key source)).2 := by
  rw [mem_rangeCaptures g.fine, g.years]
  exact (mem_foundOf p _ source capture).symm

theorem gathered_none {key : EvidenceQueryKey} {found : ByYear} {years : List Int} (g : Gathered key found years) : found = [] ↔ years = [] := by
  rw [← List.map_eq_nil_iff, List.eq_nil_iff_forall_not_mem, List.eq_nil_iff_forall_not_mem]
  exact forall_congr' fun year => not_congr (g.years year)

/-- What a query of several years needs of its responses. -/
structure RangeSettles (key : EvidenceQueryKey) : Prop where
  provider : key.provider = client.provider
  several : key.yearFrom ≠ key.yearTo
  /-- The iterator raises nothing that the call would not catch, unless the call ends before. -/
  caught : ∀ name, (pagesFrom p client.limit none responses).failure = some (.other name) →
    Covers key (provedYears p key (rowsOf (pagesFrom p client.limit none responses).pages)) ∨
      ¬RangeLegible p key [] (pagesFrom p client.limit none responses).pages
  legible : Tables p responses → RangeLegible p key [] (pagesFrom p client.limit none responses).pages

theorem range_meets_iff (key : EvidenceQueryKey) (host : isDomainPolicy key = false) :
    Meets p client spent responses (.queryRange key) ↔ RangeSettles p client responses key := by
  by_cases provider : key.provider = client.provider
  case neg =>
    refine iff_of_false (fun meets => ?_) fun settles => provider settles.provider
    obtain ⟨answer, returned⟩ := meets.returns
    rw [run, host, if_neg Bool.false_ne_true, queryRange, if_pos provider] at returned
    cases returned
  by_cases several : key.yearFrom = key.yearTo
  case pos =>
    refine iff_of_false (fun meets => ?_) fun settles => settles.several several
    obtain ⟨answer, returned⟩ := meets.returns
    rw [run, host, if_neg Bool.false_ne_true, queryRange, if_neg (not_not_intro provider), if_pos several] at returned
    cases returned
  have open_ : ¬Covers key [] := fun covers =>
    absurd (covers key.yearFrom ((mem_expectedYears key).mpr (by simp [inScope, (key_checked key).rises]))) List.not_mem_nil
  have isExpected : expected p client responses (.queryRange key) =
      rangeAnswer ((expectedYears key).map (key.hostname, ·)) (keptBy p key (pagesFrom p client.limit none responses)) := by
    rw [expected, host, if_neg Bool.false_ne_true]
  have transport {failure : Failure} (tables : Tables p responses) (raised : (pagesFrom p client.limit none responses).failure = some failure) :
      ∃ message, failure = .transport message := tables_failure p responses tables none raised
  have start : Gathered key [] [] := ⟨⟨List.nodup_nil, by simp⟩, fun year => Iff.rfl⟩
  have ended := rangePages_ended p client (pagesFrom p client.limit none responses).failure _ (pagesFrom_whole p responses client.limit none) 0 0
    start open_ none
  have answered := run_queryRange p client spent responses host provider several rfl
  generalize rangePages p client key (pagesFrom p client.limit none responses).failure 0 0 [] none (pagesFrom p client.limit none responses).pages = e
    at ended answered
  -- A call that returns an answer with the captures of accepted rows, and the state that they give.
  have returns (state : QueryState) (fine : YearsFound key e.found) (isState : rangeAnswered e = .ok state) :
      run p client spent responses (.queryRange key) = .ok (.query state, capturesOf (capsulesOf e.found)) := by
    rw [answered fine, isState]
    rfl
  cases ended with
  | covered legible all outcome fine covers =>
    have result := returns .pass fine (by rw [rangeAnswered, outcome])
    refine iff_of_true ⟨⟨_, result⟩, fun _ => ⟨_, result, ?_, fun capture => ?_⟩⟩ ⟨provider, several, fun _ _ => .inl all, fun _ => legible⟩
    · rw [isExpected, rangeAnswer_covered p all]
    · have gathered : Gathered key e.found (provedYears p key (rowsOf (pagesFrom p client.limit none responses).pages)) := by
        refine ⟨fine, fun year => ⟨fun proved => ?_, fun proved => covers year (provedYears_scope p proved)⟩⟩
        obtain ⟨entry, listed, rfl⟩ := List.mem_map.mp proved
        exact all entry.1 ((mem_expectedYears key).mpr (fine.each entry listed).2)
      rw [isExpected]
      exact gathered_captures p gathered capture
  | ended legible open_ complete outcome gathered count =>
    have none_ := gathered_none gathered
    have result := returns _ gathered.fine (by rw [rangeAnswered, outcome])
    refine iff_of_true ⟨⟨_, result⟩, fun _ => ⟨_, result, ?_, fun capture => ?_⟩⟩
      ⟨provider, several, fun name other => (by cases complete.symm.trans other), fun _ => legible⟩
    · have pages : e.pagesSeen ≠ 0 ↔ ¬(pagesFrom p client.limit none responses).pages = [] := by
        rw [count, Nat.zero_add, ne_eq, List.length_eq_zero_iff]
      rw [isExpected, rangeAnswer_ended p open_ complete]
      simp only [Option.or_none, none_, List.nil_append, pages, ite_not]
    · rw [isExpected]
      exact gathered_captures p gathered capture
  | failed legible open_ failure raised outcome gathered =>
    have none_ := gathered_none gathered
    cases failure with
    | other name =>
      refine iff_of_false (fun meets => ?_) fun settles => ?_
      · obtain ⟨answer, returned⟩ := meets.returns
        rw [answered gathered.fine, rangeAnswered, outcome] at returned
        cases returned
      · exact (settles.caught name raised).elim open_ fun bad => bad legible
    | valueError message =>
      have result := returns _ gathered.fine (by rw [rangeAnswered, outcome])
      refine iff_of_true ⟨⟨_, result⟩, fun tables => ?_⟩
        ⟨provider, several, fun name other => (by cases raised.symm.trans other), fun _ => legible⟩
      obtain ⟨message, bad⟩ := transport tables raised
      cases bad
    | transport message =>
      have result := returns _ gathered.fine (by rw [rangeAnswered, outcome])
      refine iff_of_true ⟨⟨_, result⟩, fun _ => ⟨_, result, ?_, fun capture => ?_⟩⟩
        ⟨provider, several, fun name other => (by cases raised.symm.trans other), fun _ => legible⟩
      · rw [isExpected, rangeAnswer_failed p open_ raised]
        simp only [none_, List.nil_append]
      · rw [isExpected]
        exact gathered_captures p gathered capture
  | illegible bad message outcome fine =>
    have result := returns .invalid fine (by rw [rangeAnswered, outcome])
    refine ⟨fun meets => ⟨provider, several, fun _ _ => .inr bad, fun tables => ?_⟩, fun settles => ⟨⟨_, result⟩, fun tables => ?_⟩⟩
    · obtain ⟨answer, returned, same, -⟩ := meets.local_ tables
      rw [result] at returned
      obtain rfl := Except.ok.inj returned
      rw [isExpected] at same
      -- No state that accepted rows give is INVALID.
      by_cases all : Covers key (provedYears p key (rowsOf (pagesFrom p client.limit none responses).pages))
      · rw [rangeAnswer_covered p all] at same
        cases same
      cases raised : (pagesFrom p client.limit none responses).failure with
      | none =>
        rw [rangeAnswer_ended p all raised] at same
        split_ifs at same <;> cases same
      | some failure =>
        obtain ⟨text, rfl⟩ := transport tables raised
        rw [rangeAnswer_failed p all raised] at same
        split_ifs at same <;> cases same
    · exact absurd (settles.legible tables) bad

/-! ## A domain -/

theorem tables_first (tables : Tables p responses) :
    firstOf responses = .error noResponse ∨ ∃ table, firstOf responses >>= parsePayload p = .ok table := by
  cases responses with
  | nil => exact .inl rfl
  | cons response rest => exact .inr (tables response List.mem_cons_self)

/-- What a query of a domain needs of its response. -/
structure DomainSettles (key : EvidenceQueryKey) : Prop where
  provider : key.provider = client.provider
  several : key.yearFrom ≠ key.yearTo
  caught : ∀ name, firstOf responses >>= parsePayload p ≠ .error (.other name)
  legible : Tables p responses → ∀ rows resumeKey, firstOf responses >>= parsePayload p = .ok (rows, resumeKey) →
    Legible (domainPair p key) [] rows

/-- How the body of a query of a domain ends. -/
inductive DomainEnded (key : EvidenceQueryKey) : Except Failure ByHostYear → Prop
  | unread (failure : Failure) (read : firstOf responses >>= parsePayload p = .error failure) : DomainEnded key (.error failure)
  | illegible (rows : List Row) (resumeKey : Option String) (read : firstOf responses >>= parsePayload p = .ok (rows, resumeKey))
      (bad : ¬Legible (domainPair p key) [] rows) (message : String) : DomainEnded key (.error (.valueError message))
  | page (rows : List Row) (resumeKey : Option String) (read : firstOf responses >>= parsePayload p = .ok (rows, resumeKey))
      (legible : Legible (domainPair p key) [] rows) (found : ByHostYear) (apart : (found.map (·.1)).Nodup)
      (each : ∀ entry ∈ found, Of key.provider key.policyVersion entry.1 entry.2 ∧ inScope key entry.1.2 = true)
      (pairs : ∀ pair, pair ∈ found.map (·.1) ↔ pair ∈ rows.filterMap (identityOf (domainPair p key))) : DomainEnded key (.ok found)

theorem domainBody_ended (key : EvidenceQueryKey) : DomainEnded p responses key (domainBody p client key (firstOf responses)).2.2 := by
  unfold domainBody
  cases arrived : firstOf responses with
  | error failure => exact .unread failure (by rw [arrived]; rfl)
  | ok content =>
    have same : firstOf responses >>= parsePayload p = parsePayload p content := by rw [arrived]; rfl
    dsimp only
    cases read : parsePayload p content with
    | error failure => exact .unread failure (same.trans read)
    | ok parsed =>
      obtain ⟨rows, resumeKey⟩ := parsed
      dsimp only
      rcases collectRows_spec (domain_makes p client key) 0 [] rows with ⟨legible, end_, ended, c⟩ | ⟨bad, records, kept, message, ended⟩
      · rw [ended]
        refine .page rows resumeKey (same.trans read) legible end_.2 (c.apart List.nodup_nil) (c.each nofun) fun pair => ?_
        rw [c.identities pair, List.mem_filterMap]
        exact or_iff_right List.not_mem_nil
      · rw [ended]
        exact .illegible rows resumeKey (same.trans read) bad message

/-- What the end of a query of a domain makes of it. -/
def domainAnswered : Except Failure ByHostYear → Except Failure (State × List Capture)
  | .ok found => .ok (.query .decomposed, capturesOf (orderedCapsules found))
  | .error failure => caught failure

theorem run_domain {key : EvidenceQueryKey} (provider : key.provider = client.provider) (several : key.yearFrom ≠ key.yearTo) :
    runDomain p client spent responses key = domainAnswered (domainBody p client key (firstOf responses)).2.2 := by
  have made (pages records : Nat) {state : QueryState} (known : state = .decomposed ∨ state = .transientError ∨ state = .invalid)
      (found : ByHostYear) (apart : (found.map (·.1)).Nodup)
      (each : ∀ entry ∈ found, Of key.provider key.policyVersion entry.1 entry.2 ∧ inScope key entry.1.2 = true) (error : Option String) :
      ∃ r, makeDomain (domainFields spent key pages records state (orderedCapsules found) error) = .ok r ∧
        (State.query r.state, capturesOf r.capsules) = (.query state, capturesOf (orderedCapsules found)) := by
    obtain ⟨r, made, same⟩ := domain_made spent key several pages records known apart each error
    have isState : r.state = state := congrArg DomainFields.state same
    have isCapsules : r.capsules = orderedCapsules found := congrArg DomainFields.capsules same
    exact ⟨r, made, by rw [isState, isCapsules]⟩
  rw [runDomain, queryDomain, if_neg (not_not_intro provider), if_neg several]
  have ended := domainBody_ended p client responses key
  generalize domainBody p client key (firstOf responses) = body at ended ⊢
  obtain ⟨pages, records, body⟩ := body
  dsimp only at ended ⊢
  have failed (state : QueryState) (known : state = .transientError ∨ state = .invalid) (message : String) :
      (makeDomain (domainFields spent key pages records state (orderedCapsules []) (some message))).map
        (fun r => (State.query r.state, capturesOf r.capsules)) = .ok (.query state, capturesOf (orderedCapsules [])) := by
    obtain ⟨r, isMade, same⟩ := made pages records (.inr known) [] List.nodup_nil (by simp) (some message)
    rw [isMade]
    exact congrArg Except.ok same
  cases ended with
  | unread failure read =>
    cases failure with
    | other name => rfl
    | valueError message => exact failed .invalid (.inr rfl) message
    | transport message => exact failed .transientError (.inl rfl) message
  | illegible rows resumeKey read bad message => exact failed .invalid (.inr rfl) message
  | page rows resumeKey read legible found apart each pairs =>
    obtain ⟨r, isMade, same⟩ := made pages records (.inl rfl) found apart each none
    rw [Except.bind, isMade]
    exact congrArg Except.ok same

theorem mem_orderedCaptures {key : EvidenceQueryKey} {found : ByHostYear}
    (each : ∀ entry ∈ found, Of key.provider key.policyVersion entry.1 entry.2 ∧ inScope key entry.1.2 = true) (capture : Capture) :
    capture ∈ capturesOf (orderedCapsules found) ↔ capture ∈ found.map (·.1) :=
  (orderedCapsules_pairs fun entry listed => by rw [(each entry listed).1.hostname, (each entry listed).1.year]).mem_iff

theorem domain_meets_iff (call : Call) (key : EvidenceQueryKey) (runs : run p client spent responses call = runDomain p client spent responses key)
    (expects : expected p client responses call = domainAnswer (domainKept p responses key)) :
    Meets p client spent responses call ↔ DomainSettles p client responses key := by
  by_cases provider : key.provider = client.provider
  case neg =>
    refine iff_of_false (fun meets => ?_) fun settles => provider settles.provider
    obtain ⟨answer, returned⟩ := meets.returns
    rw [runs, runDomain, queryDomain, if_pos provider] at returned
    cases returned
  by_cases several : key.yearFrom = key.yearTo
  case pos =>
    refine iff_of_false (fun meets => ?_) fun settles => settles.several several
    obtain ⟨answer, returned⟩ := meets.returns
    rw [runs, runDomain, queryDomain, if_neg (not_not_intro provider), if_pos several] at returned
    cases returned
  have ended := domainBody_ended p client responses key
  rw [run_domain p client spent responses provider several] at runs
  generalize (domainBody p client key (firstOf responses)).2.2 = body at ended runs
  cases ended with
  | unread failure read =>
    have legible : Tables p responses → ∀ rows resumeKey, firstOf responses >>= parsePayload p = .ok (rows, resumeKey) →
        Legible (domainPair p key) [] rows := fun _ rows resumeKey parsed => nomatch read.symm.trans parsed
    have kept : domainKept p responses key = .error failure := by rw [domainKept, read]; rfl
    rw [domainAnswered] at runs
    cases failure with
    | other name =>
      refine iff_of_false (fun meets => ?_) fun settles => settles.caught name read
      obtain ⟨answer, returned⟩ := meets.returns
      rw [runs] at returned
      cases returned
    | valueError message =>
      refine iff_of_true ⟨⟨_, runs⟩, fun tables => ?_⟩ ⟨provider, several, fun name other => (nomatch read.symm.trans other), legible⟩
      rcases tables_first p responses tables with none_ | ⟨table, parsed⟩
      · rw [none_] at read
        cases read
      · cases read.symm.trans parsed
    | transport message =>
      refine iff_of_true ⟨⟨_, runs⟩, fun _ => ⟨_, runs, ?_⟩⟩ ⟨provider, several, fun name other => (nomatch read.symm.trans other), legible⟩
      rw [expects, kept]
      exact ⟨rfl, fun _ => Iff.rfl⟩
  | illegible rows resumeKey read bad message =>
    have kept : domainAnswer (domainKept p responses key) = (.query .decomposed, rows.filterMap (identityOf (domainPair p key))) := by
      rw [domainKept, read]
      rfl
    refine ⟨fun meets => ⟨provider, several, fun name other => (nomatch read.symm.trans other), fun tables => ?_⟩,
      fun settles => ⟨⟨_, runs⟩, fun tables => absurd (settles.legible tables rows resumeKey read) bad⟩⟩
    obtain ⟨answer, returned, same, -⟩ := meets.local_ tables
    rw [runs] at returned
    obtain rfl := Except.ok.inj returned
    rw [expects, kept] at same
    cases same
  | page rows resumeKey read legible found apart each pairs =>
    have kept : domainAnswer (domainKept p responses key) = (.query .decomposed, rows.filterMap (identityOf (domainPair p key))) := by
      rw [domainKept, read]
      rfl
    refine iff_of_true ⟨⟨_, runs⟩, fun _ => ⟨_, runs, ?_, fun capture => ?_⟩⟩
      ⟨provider, several, fun name other => (nomatch read.symm.trans other), fun _ rows' resumeKey' parsed => ?_⟩
    · rw [expects, kept]
    · rw [expects, kept]
      exact (mem_orderedCaptures each capture).trans (pairs capture)
    · rw [read] at parsed
      obtain ⟨rfl, rfl⟩ := Prod.mk.inj (Except.ok.inj parsed)
      exact legible

/-! ## A platform year -/

/-- What a harvest of a platform year needs of its response. -/
structure PlatformSettles (task : Task) : Prop where
  caught : ∀ name, firstOf responses >>= parsePayload p ≠ .error (.other name)
  legible : Tables p responses → ∀ rows resumeKey, firstOf responses >>= parsePayload p = .ok (rows, resumeKey) →
    Legible (platformPair p task.1.identity) [] rows

theorem isFit_iff (task : Task) : isFit client task = true ↔ CdxReading.Fits client task.1.identity := by
  simp only [isFit, CdxReading.Fits, Bool.and_eq_true, decide_eq_true_eq]

theorem task_identified (task : Task) : Identified task.1.identity := by
  have checked := task.2
  unfold PlatformYearHarvestTask.postInit at checked
  split at checked
  · cases checked
  · rename_i harvestId named
    exact identified named

theorem platform_meets_iff (task : Task) : Meets p client spent responses (.harvestPlatformYear task) ↔
    (CdxReading.Fits client task.1.identity → PlatformSettles p responses task) := by
  have harvested := harvest_harvested p client spent (firstOf responses) (task_identified task)
  have runs : run p client spent responses (.harvestPlatformYear task) =
      (harvestPlatformYear p client spent task.1 (firstOf responses)).map fun r => (.harvest r.state, capturesOf r.capsules) := rfl
  have expects (fits : CdxReading.Fits client task.1.identity) : expected p client responses (.harvestPlatformYear task) =
      platformAnswer task.1.resumeKey ((firstOf responses >>= parsePayload p).map fun parsed =>
        (parsed.1.filterMap (identityOf (platformPair p task.1.identity)), parsed.2.filter (· ≠ ""), decide (client.limit ≤ parsed.1.length))) := by
    rw [expected, if_pos ((isFit_iff client task).mpr fits)]
  have result {r : PlatformYearHarvestResult} {state : PlatformHarvestState} {capsules : List EvidenceCapsule} (isState : r.state = state)
      (isCapsules : r.capsules = capsules) (isRun : harvestPlatformYear p client spent task.1 (firstOf responses) = .ok r) :
      run p client spent responses (.harvestPlatformYear task) = .ok (.harvest state, capturesOf capsules) := by
    rw [runs, isRun, Except.map, isState, isCapsules]
  generalize harvestPlatformYear p client spent task.1 (firstOf responses) = outcome at harvested runs result
  cases harvested with
  | misfit other r rows bytes error same =>
    have returned := result (congrArg PlatformHarvests.ResultFields.state same) (congrArg PlatformHarvests.ResultFields.capsules same) rfl
    refine iff_of_true ⟨⟨_, returned⟩, fun _ => ⟨_, returned, ?_⟩⟩ fun fits => absurd fits other
    rw [expected, if_neg (mt (isFit_iff client task).mp other)]
    exact ⟨rfl, fun _ => Iff.rfl⟩
  | raised fits name read =>
    refine iff_of_false (fun meets => ?_) fun settles => (settles fits).caught name read
    obtain ⟨answer, returned⟩ := meets.returns
    rw [runs] at returned
    cases returned
  | unread fits failure read state caught r rows bytes error same =>
    have returned := result (congrArg PlatformHarvests.ResultFields.state same) (congrArg PlatformHarvests.ResultFields.capsules same) rfl
    have legible : Tables p responses → ∀ rows resumeKey, firstOf responses >>= parsePayload p = .ok (rows, resumeKey) →
        Legible (platformPair p task.1.identity) [] rows := fun _ rows resumeKey parsed => nomatch read.symm.trans parsed
    cases failure with
    | other name => cases caught
    | valueError message =>
      refine iff_of_true ⟨⟨_, returned⟩, fun tables => ?_⟩ fun _ => ⟨fun name other => (nomatch read.symm.trans other), legible⟩
      rcases tables_first p responses tables with none_ | ⟨table, parsed⟩
      · rw [none_] at read
        cases read
      · cases read.symm.trans parsed
    | transport message =>
      refine iff_of_true ⟨⟨_, returned⟩, fun _ => ⟨_, returned, ?_⟩⟩ fun _ => ⟨fun name other => (nomatch read.symm.trans other), legible⟩
      obtain rfl := Option.some.inj caught
      rw [expects fits, read]
      exact ⟨rfl, fun _ => Iff.rfl⟩
  | illegible fits rows key read bad r rowsSeen bytes error same =>
    have returned := result (congrArg PlatformHarvests.ResultFields.state same) (congrArg PlatformHarvests.ResultFields.capsules same) rfl
    refine ⟨fun meets _ => ⟨fun name other => (nomatch read.symm.trans other), fun tables => ?_⟩,
      fun settles => ⟨⟨_, returned⟩, fun tables => absurd ((settles fits).legible tables rows key read) bad⟩⟩
    obtain ⟨answer, returned', same', -⟩ := meets.local_ tables
    rw [returned] at returned'
    obtain rfl := Except.ok.inj returned'
    -- No state that accepted rows give is FAILED_INVALID.
    rw [expects fits, read] at same'
    change State.harvest .failedInvalid = (platformAnswer task.1.resumeKey (.ok (_, key.filter (· ≠ ""), decide (client.limit ≤ rows.length)))).1 at same'
    unfold platformAnswer at same'
    cases given : key.filter (· ≠ "") with
    | none =>
      rw [given] at same'
      dsimp only at same'
      split_ifs at same' <;> cases same'
    | some next =>
      rw [given] at same'
      dsimp only at same'
      split_ifs at same' <;> cases same'
  | repeated fits rows key read some_ again legible r rowsSeen bytes error same =>
    have returned := result (congrArg PlatformHarvests.ResultFields.state same) (congrArg PlatformHarvests.ResultFields.capsules same) rfl
    have given : (some key).filter (· ≠ "") = some key := by simp [Option.filter, some_]
    have kept : expected p client responses (.harvestPlatformYear task) = (.harvest .retryable, []) := by
      rw [expects fits, read]
      change platformAnswer task.1.resumeKey (.ok (_, (some key).filter (· ≠ ""), decide (client.limit ≤ rows.length))) = _
      rw [given, platformAnswer, if_pos again]
    refine iff_of_true ⟨⟨_, returned⟩, fun _ => ⟨_, returned, ?_⟩⟩ fun _ => ⟨fun name other => (nomatch read.symm.trans other), fun _ rows' key' parsed => ?_⟩
    · rw [kept]
      exact ⟨rfl, fun _ => Iff.rfl⟩
    · rw [read] at parsed
      obtain ⟨rfl, rfl⟩ := Prod.mk.inj (Except.ok.inj parsed)
      exact legible
  | page fits content arrived rows key read legible found foundFor identities next isNext advances r error same =>
    have returned := result (congrArg PlatformHarvests.ResultFields.state same) (congrArg PlatformHarvests.ResultFields.capsules same) rfl
    have parsed : firstOf responses >>= parsePayload p = .ok (rows, key) := by
      rw [arrived]
      exact read
    have captures (capture : Capture) : capture ∈ capturesOf (orderedCapsules found) ↔
        capture ∈ rows.filterMap (identityOf (platformPair p task.1.identity)) := by
      have pairs := orderedCapsules_pairs fun entry (listed : entry ∈ found) => by
        rw [(foundFor.each entry listed).1.hostname, (foundFor.each entry listed).1.year]
      rw [List.mem_filterMap, ← identities]
      exact pairs.mem_iff
    have kept : expected p client responses (.harvestPlatformYear task) =
        (.harvest (if next.isSome then .partial_ else if client.limit ≤ rows.length then .retryable else .complete),
          rows.filterMap (identityOf (platformPair p task.1.identity))) := by
      rw [expects fits, parsed]
      change platformAnswer task.1.resumeKey (.ok (_, key.filter (· ≠ ""), decide (client.limit ≤ rows.length))) = _
      rw [isNext]
      unfold platformAnswer
      cases next with
      | some next => exact if_neg (advances next rfl)
      | none => simp only [decide_eq_true_eq, Option.isSome_none, Bool.false_eq_true, if_false]
    refine iff_of_true ⟨⟨_, returned⟩, fun _ => ⟨_, returned, ?_⟩⟩ fun _ => ⟨fun name other => (nomatch parsed.symm.trans other), fun _ rows' key' again => ?_⟩
    · rw [kept]
      exact ⟨rfl, captures⟩
    · rw [parsed] at again
      obtain ⟨rfl, rfl⟩ := Prod.mk.inj (Except.ok.inj again)
      exact legible

/-! ## Every call -/

/-- What a call needs of its responses. -/
def Settles : Call → Prop
  | .queryKey key => KeySettles p client responses key
  | .queryRange key => if isDomainPolicy key then DomainSettles p client responses key else RangeSettles p client responses key
  | .queryDomain key => DomainSettles p client responses key
  | .harvestPlatformYear task => CdxReading.Fits client task.1.identity → PlatformSettles p responses task

end

/-- Captures of one host, as rows of a table. -/
def tableOf (timestamps : List String) : List UInt8 :=
  ("[[\"timestamp\",\"original\",\"statuscode\"]" ++ String.join (timestamps.map fun timestamp =>
    ",[\"" ++ timestamp ++ "\",\"http://b.com/\",\"200\"]") ++ "]").toUTF8.toList

/-- The state of a query of the years 1996 to 2001. -/
def stateOf (timestamps : List String) : Option State :=
  match run CdxPaging.plainPython ⟨"wayback", "wayback", 1000, fun _ _ _ => ""⟩ ⟨1, 0⟩ [.ok (tableOf timestamps)]
    (.queryRange ⟨"b.com", 1996, 2001, "wayback", "cdx-v1", EvidenceTasks.rangeKey.valid⟩) with
  | .ok answer => some answer.1
  | .error _ => none

end Creeper.CdxAcceptance
