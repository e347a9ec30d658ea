import Creeper.Readiness

/-!
# Candidates and their proofs

`storage/candidate_store.py`, with what writes it: batches of `SourceProducer.resolve_pending` and
the readiness runtime. Candidates and evidence are in different databases, and the steps of all
processes interleave.
-/

namespace Creeper.CandidateMarking
open Creeper.Runs Creeper.Tables Creeper.EvidenceStore Creeper.Readiness
open Creeper.EvidenceTasks (officialHost)
open Creeper.FabricModels (PyError)

/-! ## The ledger -/

inductive CandidateSourceScope
  | officialPool
  | iscReference
  | localDiscovery
  | commonCrawlCorpusExcluded
  deriving DecidableEq, Repr

inductive CandidateStatus
  | activeCandidate
  | annualEvidenceObtained
  | baselineOverlap
  | iscReference
  | excludedCommonCrawl
  deriving DecidableEq, Repr

structure CandidateRecord where
  hostname : String
  sourceId : String
  scope : CandidateSourceScope
  sourceLocator : String
  sourceYear : Option Int

/-- A row of `candidate_records`. -/
structure CandidateRow where
  hostname : String
  scope : CandidateSourceScope
  sourceId : String
  sourceLocator : String
  sourceYear : Option Int
  firstSeen : ℚ
  lastSeen : ℚ
  status : CandidateStatus
  resolutionReason : String
  observationCount : Nat

abbrev CandidateKey := String × CandidateSourceScope

abbrev CandidateRow.key (row : CandidateRow) : CandidateKey := (row.hostname, row.scope)

abbrev Candidates := Table CandidateRow CandidateKey (·.key)

/-- A character of `[a-z0-9]`. -/
def isToken (c : Char) : Bool := c.isLower || c.isDigit

/-- Runs of other characters as one underscore each. -/
def tokenize : List Char → List Char
  | [] => []
  | c :: rest =>
    if isToken c then c :: tokenize rest
    else
      match tokenize rest with
      | '_' :: more => '_' :: more
      | more => '_' :: more

/-- `classify_candidate_source`; blanks around a source id make no difference. -/
def classifyCandidateSource (lower : String → String) (sourceId : String) : CandidateSourceScope :=
  let value := (lower sourceId).toList
  let compact := value.filter isToken
  let tokenized := (((tokenize value).dropWhile (· = '_')).reverse.dropWhile (· = '_')).reverse
  if "commoncrawl".toList <:+: compact || "cc_".toList <+: tokenized then .commonCrawlCorpusExcluded
  else if "isc".toList <+: compact || "iscreference".toList <:+: compact || "networkwizards".toList <:+: compact then .iscReference
  else if tokenized = "official_pool".toList || tokenized = "candidate_pool".toList || tokenized = "v3_candidate_pool".toList then .officialPool
  else .localDiscovery

example : classifyCandidateSource String.toLower "Common-Crawl 2001" = .commonCrawlCorpusExcluded ∧
    classifyCandidateSource String.toLower " v3 candidate--pool" = .officialPool := by decide +kernel

/-- `_effective_scope`. -/
def effectiveScope (lower : String → String) (record : CandidateRecord) : CandidateSourceScope :=
  match classifyCandidateSource lower record.sourceId with
  | .iscReference => .iscReference
  | .commonCrawlCorpusExcluded => .commonCrawlCorpusExcluded
  | _ => record.scope

/-- `_initial_status`. -/
def initialStatus : CandidateSourceScope → CandidateStatus
  | .iscReference => .iscReference
  | .commonCrawlCorpusExcluded => .excludedCommonCrawl
  | _ => .activeCandidate

/-- One row of `record_observations`; what is no official hostname is kept elsewhere. -/
def recordObservation (lower : String → String) (now : ℚ) (t : Candidates) (record : CandidateRecord) : Candidates :=
  if officialHost record.hostname then
    let scope := effectiveScope lower record
    t.upsert ⟨record.hostname, scope, record.sourceId, record.sourceLocator, record.sourceYear, now, now, initialStatus scope, "", 1⟩
      fun old => { old with
        lastSeen := now
        observationCount := old.observationCount + 1
        sourceLocator := if old.sourceLocator = "" then record.sourceLocator else old.sourceLocator
        sourceYear := old.sourceYear.or record.sourceYear }
  else t

/-- `record_observations`, one transaction. -/
def recordObservations (lower : String → String) (now : ℚ) (t : Candidates) (records : List CandidateRecord) : Candidates :=
  records.foldl (recordObservation lower now) t

/-- `iter_active_candidates`. -/
def iterActiveCandidates (t : Candidates) : List CandidateRow := t.rows.filter (·.status = .activeCandidate)

/-! ## Marks -/

/-- A transition of active candidates, with its reason and time. -/
structure Mark where
  status : CandidateStatus
  reason : String
  now : ℚ
  leaves : status ≠ .activeCandidate

def baselineOverlap (now : ℚ) : Mark := ⟨.baselineOverlap, "official_baseline_overlap", now, by decide⟩
def annualEvidence (now : ℚ) : Mark := ⟨.annualEvidenceObtained, "accepted_annual_evidence", now, by decide⟩

/-- What is left of a mark: a chunk whose rows are to be selected, or selected rows to be updated. -/
inductive Job
  | select (mark : Mark) (chunk : List String)
  | update (mark : Mark) (keys : List CandidateKey)

/-- Pieces of at most some size. -/
def chunksOf {α : Type} (size : Nat) : Nat → List α → List (List α)
  | 0, _ | _ + 1, [] => []
  | n + 1, x :: rest => (x :: rest).take (size + 1) :: chunksOf size n ((x :: rest).drop (size + 1))

/-- The chunks of `_transition_many`, of at most 500 hostnames. -/
def transitionMany (mark : Mark) (hostnames : List String) : List Job :=
  let values := ((hostnames.filter fun h => officialHost h).dedup).insertionSort (· ≤ ·)
  (chunksOf 499 values.length values).map (.select mark)

/-- A job, and what it leaves to do. -/
def runJob (t : Candidates) : Job → Candidates × List Job
  | .select mark chunk => (t, [.update mark ((t.rows.filter fun r => r.hostname ∈ chunk && r.status = .activeCandidate).map (·.key))])
  | .update mark keys =>
    (t.update (fun r => r.key ∈ keys && r.status = .activeCandidate)
      (fun r => { r with status := mark.status, resolutionReason := mark.reason, lastSeen := mark.now }), [])

/-! ## Steps -/

/-- Where a batch of a producer is: what its lookups found, or the marks that are left, before or after its own evidence. -/
inductive BatchPhase
  | idle
  | looked (records : List CandidateRecord) (localMasks annualMasks : String → Nat)
  | marking (jobs : List Job) (direct : Bool)

def BatchPhase.jobs : BatchPhase → List Job
  | .marking jobs _ => jobs
  | _ => []

structure System (Producer : Type) where
  runtime : Readiness.System Unit
  /-- What is left of the marks of the runtime. -/
  jobs : List Job
  candidates : Candidates
  batch : Producer → BatchPhase

/-- `resolve_year_masks`, for one hostname. -/
def resolveYearMask (s : Store) (hostname : String) : Nat :=
  ((s.hostYears.table.rows.filter (·.hostname = hostname)).map fun row => (ReadinessLedger.yearBit row.year).getD 0).foldl (· ||| ·) 0

inductive Event (Producer : Type)
  /-- A step of the runtime, or evidence of some other worker. -/
  | runtime (action : Readiness.Action Unit) (now : ℚ)
  /-- The next part of the runtime's marks. -/
  | mark
  | lookup (p : Producer) (records : List CandidateRecord) (annualMasks : String → Nat)
  | record (p : Producer) (now : ℚ)
  | markNext (p : Producer)
  /-- The batch's own evidence. -/
  | direct (p : Producer) (capsules : List EvidenceCapsule) (fault : Option PyError) (now : ℚ)
  | finish (p : Producer)

section
variable {Producer : Type} [DecidableEq Producer]

def System.goOn (s : System Producer) (p : Producer) (phase : BatchPhase) : System Producer :=
  { s with batch := Function.update s.batch p phase }

/-- What a runtime has to mark: after it fetched rows, their hostnames; nothing once it is down. -/
def marksAfter (s : System Producer) (action : Readiness.Action Unit) (now : ℚ) (after : Readiness.System Unit) : List Job :=
  match action, s.runtime.phase (), after.phase () with
  | .stop _, _, _ => []
  | .fetch _ _, .refreshed _, .fetched _ _ rows => transitionMany (annualEvidence now) (rows.map (·.hostname))
  | _, _, _ => s.jobs

/-- Whether a runtime may take a step: rows are applied after the marks. -/
def mayRun (s : System Producer) : Readiness.Action Unit → Bool
  | .apply _ _ => s.jobs.isEmpty
  | _ => true

def step (lower : String → String) (a : ReadinessLedger.Authorities) (burns : Bool) (s : System Producer) : Event Producer → System Producer
  | .runtime action now =>
    if mayRun s action then
      let after := (Readiness.step a burns s.runtime action).2
      { s with runtime := after, jobs := marksAfter s action now after }
    else s
  | .mark =>
    match s.jobs with
    | [] => s
    | job :: rest => { s with candidates := (runJob s.candidates job).1, jobs := (runJob s.candidates job).2 ++ rest }
  | .lookup p records annualMasks =>
    match s.batch p with
    | .idle => s.goOn p (.looked records (resolveYearMask s.runtime.store) annualMasks)
    | _ => s
  | .record p now =>
    match s.batch p with
    | .looked records localMasks annualMasks =>
      let hostnames := records.map (·.hostname)
      let jobs := transitionMany (baselineOverlap now) (hostnames.filter fun h => annualMasks h ≠ 0) ++
        transitionMany (annualEvidence now) (hostnames.filter fun h => localMasks h ≠ 0)
      { s with candidates := recordObservations lower now s.candidates records }.goOn p (.marking jobs false)
    | _ => s
  | .markNext p =>
    match s.batch p with
    | .marking (job :: rest) direct =>
      { s with candidates := (runJob s.candidates job).1 }.goOn p (.marking ((runJob s.candidates job).2 ++ rest) direct)
    | _ => s
  | .direct p capsules fault now =>
    match s.batch p with
    | .marking [] false =>
      let answer := putMany burns s.runtime.store capsules fault
      let s := { s with runtime := { s.runtime with store := answer.2 } }
      match answer.1 with
      | .ok _ => s.goOn p (.marking (transitionMany (annualEvidence now) (capsules.map (·.hostname))) true)
      | .error _ => s.goOn p .idle
    | _ => s
  | .finish p =>
    match s.batch p with
    | .marking [] _ => s.goOn p .idle
    | _ => s

/-- Empty databases, before any process. -/
def marking (Producer : Type) [DecidableEq Producer] (lower : String → String) (a : ReadinessLedger.Authorities) (burns : Bool) :
    Machine (System Producer) (Event Producer) Unit where
  initial := ⟨⟨⟨.empty, .empty, .empty⟩, .empty, fun _ => .down⟩, [], .empty, fun _ => .idle⟩
  step s e := ((), step lower a burns s e)

/-! ## What is to be marked -/

def Consumed (r : Readiness.System Unit) (e : HostYearRow) : Prop :=
  ∃ state, r.ledger.state = some state ∧ e.sequence ≤ state.evidenceCursor

/-- The rows that a job marks. -/
def Job.covers : Job → CandidateKey → Prop
  | .select _ chunk, key => key.1 ∈ chunk
  | .update _ keys, key => key ∈ keys

def Pending (jobs : List Job) (key : CandidateKey) : Prop := ∃ job ∈ jobs, job.covers key

/-- The runtime is going to select the rows of a hostname. -/
def Unselected (jobs : List Job) (hostname : String) : Prop := ∃ mark chunk, Job.select mark chunk ∈ jobs ∧ hostname ∈ chunk

/-- A batch that makes a hostname a new active candidate has found the hostname in the baseline or has found its evidence,
    or the runtime has not come to its evidence yet. -/
def Timely (lower : String → String) (s : System Producer) : Event Producer → Prop
  | .record p _ =>
    match s.batch p with
    | .looked records localMasks annualMasks =>
      ∀ record ∈ records, initialStatus (effectiveScope lower record) = .activeCandidate →
        s.candidates.get? (record.hostname, effectiveScope lower record) = none →
          localMasks record.hostname ≠ 0 ∨ annualMasks record.hostname ≠ 0 ∨
            ∀ e ∈ s.runtime.store.hostYears.table.rows, e.hostname = record.hostname → ¬Consumed s.runtime e ∧
              ∀ held cursor rows, s.runtime.phase () = .fetched held cursor rows → e ∈ rows → Unselected s.jobs record.hostname
    | _ => True
  | _ => True

def CaughtUp (s : System Producer) : Prop := ∀ e ∈ s.runtime.store.hostYears.table.rows, Consumed s.runtime e

/-- No hostname with evidence is an active candidate. -/
def NoneProven (s : System Producer) : Prop :=
  ∀ row ∈ iterActiveCandidates s.candidates, ∀ e ∈ s.runtime.store.hostYears.table.rows, e.hostname ≠ row.hostname

/-! ## Jobs -/

theorem mem_chunksOf {α : Type} (size n : Nat) {xs : List α} (enough : xs.length ≤ n) {x : α} (member : x ∈ xs) :
    ∃ chunk ∈ chunksOf size n xs, x ∈ chunk := by
  induction n generalizing xs with
  | zero =>
    rw [List.eq_nil_of_length_eq_zero (Nat.le_zero.mp enough)] at member
    exact absurd member List.not_mem_nil
  | succ n ih =>
    cases xs with
    | nil => exact absurd member List.not_mem_nil
    | cons first rest =>
      rw [chunksOf]
      rw [← List.take_append_drop (size + 1) (first :: rest)] at member
      rcases List.mem_append.mp member with here | later
      · exact ⟨_, List.mem_cons_self, here⟩
      · have shorter : ((first :: rest).drop (size + 1)).length ≤ n := by
          rw [List.length_drop]
          omega
        obtain ⟨chunk, inside, here⟩ := ih shorter later
        exact ⟨chunk, List.mem_cons_of_mem _ inside, here⟩

theorem transitionMany_selects (mark : Mark) {hostnames : List String} {hostname : String} (member : hostname ∈ hostnames)
    (official : officialHost hostname) : Unselected (transitionMany mark hostnames) hostname := by
  have value : hostname ∈ ((hostnames.filter fun h => officialHost h).dedup).insertionSort (· ≤ ·) := by
    rw [List.mem_insertionSort, List.mem_dedup, List.mem_filter]
    exact ⟨member, official⟩
  obtain ⟨chunk, inside, here⟩ := mem_chunksOf 499 _ le_rfl value
  exact ⟨mark, chunk, List.mem_map_of_mem inside, here⟩

theorem Unselected.pending {jobs : List Job} {hostname : String} (unselected : Unselected jobs hostname) (scope : CandidateSourceScope) :
    Pending jobs (hostname, scope) := by
  obtain ⟨mark, chunk, member, here⟩ := unselected
  exact ⟨_, member, here⟩

theorem Pending.append_left {jobs : List Job} {key : CandidateKey} (more : List Job) (pending : Pending jobs key) : Pending (jobs ++ more) key := by
  obtain ⟨job, member, covers⟩ := pending
  exact ⟨job, List.mem_append_left _ member, covers⟩

theorem Pending.append_right {jobs : List Job} {key : CandidateKey} (more : List Job) (pending : Pending jobs key) : Pending (more ++ jobs) key := by
  obtain ⟨job, member, covers⟩ := pending
  exact ⟨job, List.mem_append_right _ member, covers⟩

theorem runJob_active (t : Candidates) (job : Job) (rest : List Job) {row : CandidateRow} (member : row ∈ (runJob t job).1.rows)
    (active : row.status = .activeCandidate) :
    row ∈ t.rows ∧ (Pending (job :: rest) row.key → Pending ((runJob t job).2 ++ rest) row.key) := by
  cases job with
  | select mark chunk =>
    refine ⟨member, ?_⟩
    rintro ⟨job, here, covers⟩
    rcases List.mem_cons.mp here with rfl | later
    · refine ⟨_, List.mem_append_left _ List.mem_cons_self, List.mem_map_of_mem (List.mem_filter.mpr ⟨member, ?_⟩)⟩
      have inside : row.hostname ∈ chunk := covers
      simp [inside, active]
    · exact ⟨job, List.mem_append_right _ later, covers⟩
  | update mark keys =>
    obtain ⟨old, stored, same⟩ := List.mem_map.mp member
    split_ifs at same with here
    · rw [← same] at active
      exact absurd active mark.leaves
    · subst same
      refine ⟨stored, ?_⟩
      rintro ⟨job, inside, covers⟩
      rcases List.mem_cons.mp inside with rfl | later
      · have listed : old.key ∈ keys := covers
        exact absurd (by simp [listed, active]) here
      · exact ⟨job, later, covers⟩

/-! ## Observations -/

theorem recordObservation_active {lower : String → String} {now : ℚ} {t : Candidates} {record : CandidateRecord} {row : CandidateRow}
    (member : row ∈ (recordObservation lower now t record).rows) (active : row.status = .activeCandidate) :
    (∃ old ∈ t.rows, old.key = row.key ∧ old.status = .activeCandidate) ∨
      officialHost record.hostname ∧ row.key = (record.hostname, effectiveScope lower record) ∧
        initialStatus (effectiveScope lower record) = .activeCandidate ∧ t.get? row.key = none := by
  unfold recordObservation at member
  split_ifs at member with official
  · have found := Table.get?_mem member
    dsimp only at found
    rw [Table.get?_upsert] at found
    split_ifs at found with same
    · cases before : t.get? row.key with
      | none =>
        rw [before] at found
        cases found
        exact .inr ⟨official, rfl, active, rfl⟩
      | some old =>
        rw [before] at found
        have merged := Option.some.inj found
        refine .inl ⟨old, Table.mem_of_get? before, Table.get?_key before, ?_⟩
        rw [← merged] at active
        exact active
    · exact .inl ⟨row, Table.mem_of_get? found, rfl, active⟩
  · exact .inl ⟨row, member, rfl, active⟩

theorem recordObservation_keeps {lower : String → String} {now : ℚ} {t : Candidates} {record : CandidateRecord} {key : CandidateKey}
    (fresh : (recordObservation lower now t record).get? key = none) : t.get? key = none := by
  unfold recordObservation at fresh
  split_ifs at fresh
  · dsimp only at fresh
    rw [Table.get?_upsert] at fresh
    split_ifs at fresh
    exact fresh
  · exact fresh

theorem recordObservation_official {lower : String → String} {now : ℚ} {t : Candidates} (official : ∀ row ∈ t.rows, officialHost row.hostname)
    (record : CandidateRecord) : ∀ row ∈ (recordObservation lower now t record).rows, officialHost row.hostname := by
  intro row member
  unfold recordObservation at member
  split_ifs at member with isHost
  · have found := Table.get?_mem member
    dsimp only at found
    rw [Table.get?_upsert] at found
    split_ifs at found with same
    · have host : row.hostname = record.hostname := congrArg Prod.fst same
      rwa [host]
    · exact official row (Table.mem_of_get? found)
  · exact official row member

theorem recordObservations_official {lower : String → String} {now : ℚ} (records : List CandidateRecord) {t : Candidates}
    (official : ∀ row ∈ t.rows, officialHost row.hostname) : ∀ row ∈ (recordObservations lower now t records).rows, officialHost row.hostname := by
  induction records generalizing t with
  | nil => exact official
  | cons record rest ih => exact ih (recordObservation_official official record)

theorem runJob_official {t : Candidates} (official : ∀ row ∈ t.rows, officialHost row.hostname) (job : Job) :
    ∀ row ∈ (runJob t job).1.rows, officialHost row.hostname := by
  cases job with
  | select => exact official
  | update mark keys =>
    intro row member
    obtain ⟨old, stored, rfl⟩ := List.mem_map.mp member
    split_ifs <;> exact official old stored

theorem recordObservations_active {lower : String → String} {now : ℚ} (records : List CandidateRecord) {t : Candidates} {row : CandidateRow}
    (member : row ∈ (recordObservations lower now t records).rows) (active : row.status = .activeCandidate) :
    (∃ old ∈ t.rows, old.key = row.key ∧ old.status = .activeCandidate) ∨
      ∃ record ∈ records, officialHost record.hostname ∧ row.key = (record.hostname, effectiveScope lower record) ∧
        initialStatus (effectiveScope lower record) = .activeCandidate ∧ t.get? row.key = none := by
  induction records generalizing t with
  | nil => exact .inl ⟨row, member, rfl, active⟩
  | cons record rest ih =>
    rcases ih (t := recordObservation lower now t record) member with ⟨old, stored, key, oldActive⟩ | ⟨later, inside, official, key, status, fresh⟩
    · rw [← key]
      rcases recordObservation_active stored oldActive with before | new
      · exact .inl before
      · exact .inr ⟨record, List.mem_cons_self, new⟩
    · exact .inr ⟨later, List.mem_cons_of_mem _ inside, official, key, status, recordObservation_keeps fresh⟩

/-! ## The invariant -/

structure Inv (s : System Producer) : Prop where
  official : ∀ row ∈ s.candidates.rows, officialHost row.hostname
  sole : Sole s.runtime
  reading : ∀ held cursor rows, s.runtime.phase () = .fetched held cursor rows → ReadAfter s.runtime.store.hostYears cursor rows
  behind : ∀ state, s.runtime.ledger.state = some state → state.evidenceCursor ≤ s.runtime.store.hostYears.sequence
  consumed : ∀ row ∈ s.candidates.rows, row.status = .activeCandidate → ∀ e ∈ s.runtime.store.hostYears.table.rows,
    e.hostname = row.hostname → Consumed s.runtime e → ∃ p, Pending (s.batch p).jobs row.key
  fetched : ∀ held cursor rows, s.runtime.phase () = .fetched held cursor rows → ∀ row ∈ s.candidates.rows, row.status = .activeCandidate →
    ∀ e ∈ rows, e.hostname = row.hostname → Pending s.jobs row.key ∨ ∃ p, Pending (s.batch p).jobs row.key

section
variable {s : System Producer}

omit [DecidableEq Producer] in
theorem Inv.candidates (inv : Inv s) {t : Candidates} {jobs : List Job} {batch : Producer → BatchPhase}
    (official : ∀ row ∈ t.rows, officialHost row.hostname)
    (active : ∀ row ∈ t.rows, row.status = .activeCandidate →
      (∃ old ∈ s.candidates.rows, old.key = row.key ∧ old.status = .activeCandidate ∧ (Pending s.jobs row.key → Pending jobs row.key) ∧
        ∀ p, Pending (s.batch p).jobs row.key → Pending (batch p).jobs row.key) ∨
      (∃ p, Pending (batch p).jobs row.key) ∨
        ∀ e ∈ s.runtime.store.hostYears.table.rows, e.hostname = row.hostname → ¬Consumed s.runtime e ∧
          ∀ held cursor rows, s.runtime.phase () = .fetched held cursor rows → e ∈ rows → Pending jobs row.key) :
    Inv { s with candidates := t, jobs, batch } where
  official := official
  sole := inv.sole
  reading := inv.reading
  behind := inv.behind
  consumed row member isActive e stored same consumed := by
    rcases active row member isActive with ⟨old, isOld, key, oldActive, -, stays⟩ | pending | later
    · have host : e.hostname = old.hostname := same.trans (congrArg Prod.fst key).symm
      obtain ⟨p, pending⟩ := inv.consumed old isOld oldActive e stored host consumed
      exact ⟨p, stays p (key ▸ pending)⟩
    · exact pending
    · exact absurd consumed (later e stored same).1
  fetched held cursor rows here row member isActive e inside same := by
    have stored : e ∈ s.runtime.store.hostYears.table.rows :=
      List.mem_of_mem_filter ((inv.reading held cursor rows here).subset inside)
    rcases active row member isActive with ⟨old, isOld, key, oldActive, own, stays⟩ | pending | later
    · have host : e.hostname = old.hostname := same.trans (congrArg Prod.fst key).symm
      rcases inv.fetched held cursor rows here old isOld oldActive e inside host with pending | ⟨p, pending⟩
      · exact .inl (own (key ▸ pending))
      · exact .inr ⟨p, stays p (key ▸ pending)⟩
    · exact .inr pending
    · exact .inl ((later e stored same).2 held cursor rows here inside)

theorem Inv.observe {lower : String → String} {p : Producer} {now : ℚ} (inv : Inv s) (timely : Timely lower s (.record p now))
    {records : List CandidateRecord} {localMasks annualMasks : String → Nat} (here : s.batch p = .looked records localMasks annualMasks) :
    Inv (({ s with candidates := recordObservations lower now s.candidates records } : System Producer).goOn p (.marking
      (transitionMany (baselineOverlap now) ((records.map (·.hostname)).filter fun h => annualMasks h ≠ 0) ++
        transitionMany (annualEvidence now) ((records.map (·.hostname)).filter fun h => localMasks h ≠ 0)) false)) := by
  refine inv.candidates (recordObservations_official records inv.official) fun row member active => ?_
  simp only [Timely, here] at timely
  rcases recordObservations_active records member active with ⟨old, stored, key, oldActive⟩ | ⟨record, inside, official, key, status, fresh⟩
  · refine .inl ⟨old, stored, key, oldActive, id, fun q pending => ?_⟩
    rw [Function.update_apply]
    split_ifs with same
    · rw [same, here] at pending
      obtain ⟨_, none_, -⟩ := pending
      exact absurd none_ List.not_mem_nil
    · exact pending
  · rw [key] at fresh ⊢
    have mine (pending : Pending (transitionMany (baselineOverlap now) ((records.map (·.hostname)).filter fun h => annualMasks h ≠ 0) ++
        transitionMany (annualEvidence now) ((records.map (·.hostname)).filter fun h => localMasks h ≠ 0))
        (record.hostname, effectiveScope lower record)) : ∃ q, Pending (Function.update s.batch p (.marking
          (transitionMany (baselineOverlap now) ((records.map (·.hostname)).filter fun h => annualMasks h ≠ 0) ++
            transitionMany (annualEvidence now) ((records.map (·.hostname)).filter fun h => localMasks h ≠ 0)) false) q).jobs
          (record.hostname, effectiveScope lower record) := ⟨p, by rwa [Function.update_self]⟩
    have name : record.hostname ∈ records.map (·.hostname) := List.mem_map_of_mem inside
    rcases timely record inside status fresh with known | overlap | later
    · exact .inr (.inl (mine (((transitionMany_selects _ (List.mem_filter.mpr ⟨name, by simpa using known⟩) official).pending _).append_right _)))
    · exact .inr (.inl (mine (((transitionMany_selects _ (List.mem_filter.mpr ⟨name, by simpa using overlap⟩) official).pending _).append_left _)))
    · refine .inr (.inr fun e isEvidence same => ?_)
      have host : e.hostname = record.hostname := same.trans (congrArg Prod.fst key)
      exact ⟨(later e isEvidence host).1, fun held cursor rows phase read =>
        ((later e isEvidence host).2 held cursor rows phase read).pending _⟩

theorem Inv.marked (inv : Inv s) {job : Job} {rest : List Job} (jobs : s.jobs = job :: rest) :
    Inv { s with candidates := (runJob s.candidates job).1, jobs := (runJob s.candidates job).2 ++ rest } := by
  refine inv.candidates (runJob_official inv.official job) fun row member active => ?_
  obtain ⟨stored, covers⟩ := runJob_active s.candidates job rest member active
  exact .inl ⟨row, stored, rfl, active, by rwa [jobs], fun p => id⟩

theorem Inv.markedBatch (inv : Inv s) {p : Producer} {job : Job} {rest : List Job} {direct : Bool} (here : s.batch p = .marking (job :: rest) direct) :
    Inv (({ s with candidates := (runJob s.candidates job).1 } : System Producer).goOn p (.marking ((runJob s.candidates job).2 ++ rest) direct)) := by
  refine inv.candidates (runJob_official inv.official job) fun row member active => ?_
  obtain ⟨stored, covers⟩ := runJob_active s.candidates job rest member active
  refine .inl ⟨row, stored, rfl, active, id, fun q pending => ?_⟩
  rw [Function.update_apply]
  split_ifs with same
  · rw [same, here] at pending
    exact covers pending
  · exact pending

theorem Inv.goOn (inv : Inv s) {p : Producer} (none_ : (s.batch p).jobs = []) (phase : BatchPhase) : Inv (s.goOn p phase) := by
  refine inv.candidates inv.official fun row member active => .inl ⟨row, member, rfl, active, id, fun q pending => ?_⟩
  rw [Function.update_apply]
  split_ifs with same
  · rw [same, none_] at pending
    obtain ⟨_, inside, -⟩ := pending
    exact absurd inside List.not_mem_nil
  · exact pending

omit [DecidableEq Producer] in
theorem Inv.written (inv : Inv s) {store : Store} (grows : Grows s.runtime.store.hostYears store.hostYears) :
    Inv { s with runtime := { s.runtime with store } } where
  official := inv.official
  sole := ⟨inv.sole.current, inv.sole.fetched⟩
  reading held cursor rows here := (inv.reading held cursor rows here).grows grows
  behind state stored := (inv.behind state stored).trans grows.2
  consumed row member active e stored same consumed := by
    obtain ⟨⟨new, rows, above⟩, -⟩ := grows
    rw [rows] at stored
    rcases List.mem_append.mp stored with old | fresh
    · exact inv.consumed row member active e old same consumed
    · obtain ⟨state, isState, le⟩ := consumed
      exact absurd (le.trans (inv.behind state isState)) (not_le.mpr (above e fresh))
  fetched := inv.fetched

omit [DecidableEq Producer] in
theorem Inv.runtime (inv : Inv s) {after : Readiness.System Unit} (sole : Sole after) (store : after.store = s.runtime.store)
    (ledger : after.ledger = s.runtime.ledger ∨ ∃ state, after.ledger.state = some state ∧ state.evidenceCursor = 0)
    (phase : after.phase () = s.runtime.phase () ∨ ∀ held cursor rows, after.phase () ≠ .fetched held cursor rows) {jobs : List Job}
    (keeps : jobs = s.jobs ∨ ∀ held cursor rows, after.phase () ≠ .fetched held cursor rows) : Inv { s with runtime := after, jobs } where
  official := inv.official
  sole := sole
  reading held cursor rows here := by
    rw [store]
    rcases phase with same | other
    · exact inv.reading held cursor rows (same ▸ here)
    · exact absurd here (other _ _ _)
  behind state stored := by
    rw [store]
    rcases ledger with same | ⟨state', stored', zero⟩
    · exact inv.behind state (same ▸ stored)
    · cases stored.symm.trans stored'
      exact zero ▸ Nat.zero_le _
  consumed row member active e stored same consumed := by
    rw [store] at stored
    obtain ⟨state, isState, le⟩ := consumed
    rcases ledger with unchanged | ⟨state', stored', zero⟩
    · exact inv.consumed row member active e stored same ⟨state, unchanged ▸ isState, le⟩
    · cases isState.symm.trans stored'
      have numbered := (s.runtime.store.hostYears.numbered e stored).1
      omega
  fetched held cursor rows here row member active e inside same := by
    rcases phase with unchanged | other
    · rcases keeps with rfl | other
      · exact inv.fetched held cursor rows (unchanged ▸ here) row member active e inside same
      · exact absurd here (other _ _ _)
    · exact absurd here (other _ _ _)

theorem read_through {h : HostYears} {cursor : Nat} {rows : List HostYearRow} (read : ReadAfter h cursor rows) {last e : HostYearRow}
    (isLast : rows.getLast? = some last) (stored : e ∈ h.table.rows) (beyond : cursor < e.sequence) (le : e.sequence ≤ last.sequence) : e ∈ rows := by
  obtain ⟨rest, all⟩ := read
  have member : e ∈ rows ++ rest := by
    rw [all]
    exact List.mem_filter.mpr ⟨stored, decide_eq_true beyond⟩
  have increasing : (rows ++ rest).Pairwise (fun a b => a.sequence < b.sequence) := by
    rw [all]
    exact h.increasing.sublist List.filter_sublist
  rcases List.mem_append.mp member with here | later
  · exact here
  · have less := (List.pairwise_append.mp increasing).2.2 last (List.mem_of_getLast? isLast) e later
    exact absurd le (not_le.mpr less)

omit [DecidableEq Producer] in
theorem Inv.read (inv : Inv s) {held : ReadinessLedger.Signatures} {cursor : Nat} {rows : List HostYearRow}
    (sole : Sole (s.runtime.move () (.fetched held cursor rows))) (read : ReadAfter s.runtime.store.hostYears cursor rows) (now : ℚ) :
    Inv { s with
      runtime := s.runtime.move () (.fetched held cursor rows)
      jobs := transitionMany (annualEvidence now) (rows.map (·.hostname)) } where
  official := inv.official
  sole := sole
  reading held' cursor' rows' here := by
    rw [moved] at here
    cases here
    exact read
  behind := inv.behind
  consumed := inv.consumed
  fetched held' cursor' rows' here row member active e inside same := by
    rw [moved] at here
    cases here
    have name : row.hostname ∈ rows.map (·.hostname) := same ▸ List.mem_map_of_mem inside
    exact .inl ((transitionMany_selects _ name (inv.official row member)).pending _)

/-! ### Steps of the runtime -/

theorem start_cases (r : Readiness.System Unit) (found : ReadinessLedger.Signatures) :
    (Readiness.start r () found).2 = r ∨
      (Readiness.start r () found).2 = ({ r with ledger := (ReadinessLedger.ensureAuthority r.ledger found).2 } : Readiness.System Unit).move () (.idle found) := by
  unfold Readiness.start
  split
  · exact .inr rfl
  · exact .inl rfl

theorem refresh_cases (r : Readiness.System Unit) (found : ReadinessLedger.Signatures) :
    (Readiness.refresh r () found).2 = r ∨ (∃ held, (Readiness.refresh r () found).2 = r.move () (.refreshed held)) ∨
      (Readiness.refresh r () found).2 =
        ({ r with ledger := (ReadinessLedger.ensureAuthority r.ledger found).2 } : Readiness.System Unit).move () (.refreshed found) := by
  unfold Readiness.refresh
  split
  · split_ifs
    · exact .inr (.inl ⟨_, rfl⟩)
    · exact .inr (.inr rfl)
  · exact .inl rfl

theorem fetch_cases (r : Readiness.System Unit) (batchSize : Int) :
    (Readiness.fetch r () batchSize).2 = r ∧ (∀ held, r.phase () ≠ .refreshed held) ∨
      ∃ held, r.phase () = .refreshed held ∧ ((Readiness.fetch r () batchSize).2 = r.move () (.idle held) ∨
        ∃ cursor rows, (Readiness.fetch r () batchSize).2 = r.move () (.fetched held cursor rows) ∧ ReadAfter r.store.hostYears cursor rows) := by
  unfold Readiness.fetch
  cases here : r.phase () with
  | refreshed held =>
    refine .inr ⟨held, rfl, ?_⟩
    dsimp only
    cases r.ledger.cursor with
    | error err => exact .inl rfl
    | ok cursor =>
      dsimp only
      cases answer : hostYearsAfter r.store cursor batchSize with
      | error err => exact .inl rfl
      | ok rows => exact .inr ⟨cursor, rows, rfl, readAfter_answer answer⟩
  | _ => exact .inl ⟨rfl, nofun⟩

theorem apply_cases (a : ReadinessLedger.Authorities) (r : Readiness.System Unit) (attribution : HostYear → ReadinessLedger.Attribution) :
    (Readiness.apply a r () attribution).2 = r ∨ (∃ held, (Readiness.apply a r () attribution).2 = r.move () (.idle held)) ∨
      ∃ held cursor rows state last processed tally, r.phase () = .fetched held cursor rows ∧ r.ledger.state = some state ∧
        rows.getLast? = some last ∧ (Readiness.apply a r () attribution).2 =
          ({ r with ledger := r.ledger.advance state last.sequence processed tally } : Readiness.System Unit).move () (.idle held) := by
  unfold Readiness.apply
  cases here : r.phase () with
  | fetched held cursor rows =>
    have answer := ReadinessLedger.applyBatch_cases a r.ledger held rows attribution
    dsimp only
    generalize ReadinessLedger.applyBatch a r.ledger held rows attribution = result at answer
    cases answer with
    | refused err => exact .inr (.inl ⟨held, rfl⟩)
    | empty none_ => exact .inr (.inl ⟨held, rfl⟩)
    | advanced state first last stored isFirst isLast beyond =>
      exact .inr (.inr ⟨held, cursor, rows, state, last, _, _, rfl, stored, isLast, rfl⟩)
  | _ => exact .inl rfl

theorem ensured_ledger (l : ReadinessLedger.Ledger) (found : ReadinessLedger.Signatures) :
    (ReadinessLedger.ensureAuthority l found).2 = l ∨
      ∃ state, (ReadinessLedger.ensureAuthority l found).2.state = some state ∧ state.evidenceCursor = 0 := by
  unfold ReadinessLedger.ensureAuthority
  split_ifs
  · exact .inl rfl
  · exact .inr ⟨_, rfl, rfl⟩

theorem not_fetched (r : Readiness.System Unit) {phase : Phase} (other : ∀ held cursor rows, phase ≠ .fetched held cursor rows) :
    ∀ held cursor rows, (r.move () phase).phase () ≠ .fetched held cursor rows := by
  rw [moved]
  exact other

theorem Inv.applied (inv : Inv s) (a : ReadinessLedger.Authorities) (attribution : HostYear → ReadinessLedger.Attribution) (none_ : s.jobs = []) :
    Inv { s with runtime := (Readiness.apply a s.runtime () attribution).2 } := by
  have sole := inv.sole.apply (a := a) attribution
  rcases apply_cases a s.runtime attribution with same | ⟨held, same⟩ | ⟨held, cursor, rows, state, last, processed, tally, here, stored, isLast, same⟩
  · rw [same]
    exact inv
  · rw [same] at sole ⊢
    exact inv.runtime sole rfl (.inl rfl) (.inr (not_fetched _ nofun)) (.inl rfl)
  · rw [same] at sole ⊢
    obtain ⟨state', stored', at_⟩ := inv.sole.fetched held cursor rows here
    cases stored.symm.trans stored'
    have read := inv.reading held cursor rows here
    refine ⟨inv.official, sole, ?_, ?_, ?_, ?_⟩
    · exact fun held' cursor' rows' fetched => nomatch (moved _ _).symm.trans fetched
    · rintro _ ⟨⟩
      exact (s.runtime.store.hostYears.numbered last (List.mem_of_mem_filter (read.subset (List.mem_of_getLast? isLast)))).2
    · rintro row member active e isEvidence same ⟨_, ⟨⟩, le⟩
      by_cases old : e.sequence ≤ cursor
      · exact inv.consumed row member active e isEvidence same ⟨state, stored, at_ ▸ old⟩
      · have inside := read_through read isLast isEvidence (not_le.mp old) le
        rcases inv.fetched held cursor rows here row member active e inside same with pending | pending
        · rw [none_] at pending
          obtain ⟨_, job, -⟩ := pending
          exact absurd job List.not_mem_nil
        · exact pending
    · exact fun held' cursor' rows' fetched => nomatch (moved _ _).symm.trans fetched

/-- A step of the runtime, or evidence of some other worker. -/
theorem Inv.acted (inv : Inv s) (a : ReadinessLedger.Authorities) (burns : Bool) (action : Readiness.Action Unit) (now : ℚ)
    (may : mayRun s action) : Inv { s with
      runtime := (Readiness.step a burns s.runtime action).2
      jobs := marksAfter s action now (Readiness.step a burns s.runtime action).2 } := by
  have sole : Readiness.Sole (Readiness.step a burns s.runtime action).2 := inv.sole.step action
  cases action with
  | insert insertion => exact inv.written (insertion_grows burns s.runtime.store insertion)
  | start u found =>
    simp only [Readiness.step, marksAfter] at sole ⊢
    rcases start_cases s.runtime found with same | same
    · rw [same]
      exact inv
    · rw [same] at sole ⊢
      exact inv.runtime sole rfl (ensured_ledger s.runtime.ledger found) (.inr (not_fetched _ nofun)) (.inl rfl)
  | refresh u found =>
    simp only [Readiness.step, marksAfter] at sole ⊢
    rcases refresh_cases s.runtime found with same | ⟨held, same⟩ | same
    · rw [same]
      exact inv
    · rw [same] at sole ⊢
      exact inv.runtime sole rfl (.inl rfl) (.inr (not_fetched _ nofun)) (.inl rfl)
    · rw [same] at sole ⊢
      exact inv.runtime sole rfl (ensured_ledger s.runtime.ledger found) (.inr (not_fetched _ nofun)) (.inl rfl)
  | fetch u batchSize =>
    simp only [Readiness.step] at sole ⊢
    rcases fetch_cases s.runtime batchSize with ⟨same, other⟩ | ⟨held, here, same | ⟨cursor, rows, same, read⟩⟩
    · have kept : marksAfter s (.fetch u batchSize) now (Readiness.fetch s.runtime () batchSize).2 = s.jobs := by
        unfold marksAfter
        split
        · cases ‹Readiness.Action.fetch _ _ = _›
        · exact absurd ‹_› (other _)
        · rfl
      rw [kept, same]
      exact inv
    · rw [same] at sole ⊢
      exact inv.runtime sole rfl (.inl rfl) (.inr (not_fetched _ nofun)) (.inr (not_fetched _ nofun))
    · rw [same] at sole ⊢
      have marks : marksAfter s (.fetch u batchSize) now (s.runtime.move () (.fetched held cursor rows)) =
          transitionMany (annualEvidence now) (rows.map (·.hostname)) := by
        simp only [marksAfter, here, moved]
      rw [marks]
      exact inv.read sole read now
  | apply u attribution => exact inv.applied a attribution (List.isEmpty_iff.mp may)
  | stop u => exact inv.runtime sole rfl (.inl rfl) (.inr (not_fetched _ nofun)) (.inr (not_fetched _ nofun))

theorem inv_step {lower : String → String} {a : ReadinessLedger.Authorities} {burns : Bool} (inv : Inv s) {e : Event Producer}
    (timely : Timely lower s e) : Inv (step lower a burns s e) := by
  cases e with
  | runtime action now =>
    simp only [step]
    split_ifs with may
    · exact inv.acted a burns action now may
    · exact inv
  | mark =>
    simp only [step]
    split
    · exact inv
    · rename_i job rest jobs
      exact inv.marked jobs
  | lookup p records annualMasks =>
    simp only [step]
    split
    · rename_i here
      exact inv.goOn (by rw [here]; rfl) _
    · exact inv
  | record p now =>
    simp only [step]
    split
    · rename_i here
      exact inv.observe timely here
    · exact inv
  | markNext p =>
    simp only [step]
    split
    · rename_i here
      exact inv.markedBatch here
    · exact inv
  | direct p capsules fault now =>
    simp only [step]
    split
    · rename_i here
      have written := inv.written (insertion_grows burns s.runtime.store (.putMany capsules fault))
      have none_ : (s.batch p).jobs = [] := by rw [here]; rfl
      split
      · exact written.goOn none_ _
      · exact written.goOn none_ _
    · exact inv
  | finish p =>
    simp only [step]
    split
    · rename_i here
      exact inv.goOn (by rw [here]; rfl) _
    · exact inv

theorem inv_initial (lower : String → String) (a : ReadinessLedger.Authorities) (burns : Bool) : Inv (marking Producer lower a burns).initial where
  official := nofun
  sole := ⟨nofun, nofun⟩
  reading := nofun
  behind := nofun
  consumed := nofun
  fetched := nofun

end

/-- When every batch records in time, no hostname with evidence is an active candidate once the runtime has consumed all evidence and no
    batch is in flight. -/
theorem proven_hosts_leave (lower : String → String) (a : ReadinessLedger.Authorities) (burns : Bool) (es : List (Event Producer))
    (timely : ∀ r ∈ (marking Producer lower a burns).trace es, Timely lower r.before r.event)
    (caughtUp : CaughtUp ((marking Producer lower a burns).final es)) (idle : ∀ p, ((marking Producer lower a burns).final es).batch p = .idle) :
    NoneProven ((marking Producer lower a burns).final es) := by
  have inv : Inv ((marking Producer lower a burns).final es) := by
    clear caughtUp idle
    induction es using List.reverseRecOn with
    | nil => exact inv_initial lower a burns
    | append_singleton es e ih =>
      rw [Machine.trace_snoc] at timely
      rw [Machine.final_snoc]
      exact inv_step (ih fun r member => timely r (List.mem_append_left _ member)) (timely _ (List.mem_append_right _ List.mem_cons_self))
  intro row active e stored same
  obtain ⟨member, isActive⟩ := List.mem_filter.mp active
  obtain ⟨p, job, inside, -⟩ := inv.consumed row member (of_decide_eq_true isActive) e stored same (caughtUp e stored)
  rw [idle p] at inside
  exact List.not_mem_nil inside

end

/-! ## Evidence between a lookup and its observations -/

/-- An observation of the host that `capsuleA` proves. -/
def observedA : CandidateRecord := ⟨"a.com", "crawl", .localDiscovery, "l", none⟩

def unproven : ReadinessLedger.Attribution := ⟨none, none, none⟩

/-- Another worker proves the host, and the runtime consumes the proof. -/
def provenElsewhere : List (Event Unit) := [
  .runtime (.insert (.putMany [capsuleA] none)) 1, .runtime (.refresh () ⟨"x", "m"⟩) 1, .runtime (.fetch () 10) 1, .mark, .mark,
  .runtime (.apply () fun _ => unproven) 1]

/-- A batch, with the proof before its lookup or behind it. -/
def batchAround (stale : Bool) : List (Event Unit) :=
  .runtime (.start () ⟨"x", "m"⟩) 0 ::
    ((if stale then [] else provenElsewhere) ++ .lookup () [observedA] (fun _ => 0) :: (if stale then provenElsewhere else []) ++
      [.record () 2, .markNext (), .markNext (), .finish ()])

def marked (stale : Bool) : System Unit := (marking Unit String.toLower twoBaselines false).final (batchAround stale)

instance (s : System Unit) : Decidable (CaughtUp s) :=
  decidable_of_iff (s.runtime.store.hostYears.table.rows.all fun e => s.runtime.ledger.state.any fun state => e.sequence ≤ state.evidenceCursor)
    (by simp [CaughtUp, Consumed, Option.any_eq_true])

instance (s : System Unit) : Decidable (NoneProven s) :=
  decidable_of_iff ((iterActiveCandidates s.candidates).all fun row => s.runtime.store.hostYears.table.rows.all fun e => e.hostname ≠ row.hostname)
    (by simp [NoneProven])

/-- The batch has not seen the proof, and the runtime has passed it: the host stays an active candidate. -/
theorem proven_host_stays : (marked true).batch () = .idle ∧ CaughtUp (marked true) ∧ ¬NoneProven (marked true) := by
  refine ⟨rfl, ?_⟩
  decide +kernel

/-- A batch that has found evidence of all hosts that it records. -/
def informed (s : System Unit) : Event Unit → Bool
  | .record p _ =>
    match s.batch p with
    | .looked records localMasks _ => records.all fun record => localMasks record.hostname ≠ 0
    | _ => true
  | _ => true

theorem timely_of_informed {lower : String → String} {s : System Unit} {e : Event Unit} (known : informed s e) : Timely lower s e := by
  cases e with
  | record p now =>
    simp only [Timely]
    split
    · rename_i here
      simp only [informed, here] at known
      intro record inside _ _
      have some_ := List.all_eq_true.mp known record inside
      exact .inl (by simpa using some_)
    · trivial
  | _ => trivial

/-- With the proof before the lookup, the host leaves. -/
theorem proven_host_leaves : NoneProven (marked false) := by
  have known : ((marking Unit String.toLower twoBaselines false).trace (batchAround false)).all fun r => informed r.before r.event := by decide +kernel
  have caughtUp : CaughtUp (marked false) := by decide +kernel
  exact proven_hosts_leave String.toLower twoBaselines false (batchAround false)
    (fun r member => timely_of_informed (List.all_eq_true.mp known r member)) caughtUp fun _ => rfl

end Creeper.CandidateMarking
