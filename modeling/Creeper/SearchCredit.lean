import Creeper.Runs
import Creeper.EvidenceQueue
import Creeper.SourceRuns

/-!
# Credit of search episodes

`source_discovery/registry.py`: every source credits the search episode that first proposed
it, with a proxy yield until it has a final reward. The total of an episode is adjusted by
differences, from five writers; it stays the sum of what is credited.
-/

namespace Creeper.SearchCredit
open Creeper.Runs Creeper.Tables Creeper.PyNumbers Creeper.SourceRuns
open Creeper.FabricModels (PyError blank)
open Creeper.EvidenceTasks (finiteReading finiteReading_nonneg)
open Creeper.ProductionExposures (ExposureState)

/-! ## Tables -/

/-- A row of `source_search_episodes`. -/
structure EpisodeRow where
  episodeId : String
  strategy : String
  backend : String
  query : String
  actor : String
  startedAt : ℚ
  finishedAt : Option ℚ
  searchCostSeconds : ℚ
  acceptedNovelEed : ℚ
  acceptedProposals : Int
  newSources : Int
  deriving DecidableEq

/-- A row of `source_proposals`. -/
structure ProposalRow where
  proposalId : String
  episodeId : Option String
  sourceKey : String
  createdAt : ℚ
  deriving DecidableEq

inductive RewardKind
  | legacy
  | scoutProxy
  | final
  | invalidatedFinal
  deriving DecidableEq, Repr

/-- A row of `source_search_reward_attribution`. -/
structure AttributionRow where
  sourceKey : String
  episodeId : String
  creditedEed : ℚ
  rewardKind : RewardKind
  baselineSignature : Option String
  modelSignature : Option String
  deriving DecidableEq

/-- A row of `source_final_rewards`. -/
structure FinalRow where
  sourceKey : String
  finalAcceptedEed : ℚ
  costSeconds : ℚ
  baselineSignature : Option String
  modelSignature : Option String
  closedRuns : Nat
  zeroRuns : Nat
  deriving DecidableEq

/-- A final reward carries an authority. -/
def FinalRow.signedBy (f : FinalRow) (authority : Authority) : Bool :=
  f.baselineSignature = some authority.1 && f.modelSignature = some authority.2

inductive MeasurementMode
  | hostOnly
  | hostYear
  deriving DecidableEq, Repr

/-- The yields of a `ScoutMeasurement`. -/
structure ScoutMeasurement where
  measurementMode : MeasurementMode
  novelEed : ℚ≥0
  novelPairEed : ℚ≥0
  deriving DecidableEq

/-- `novel_eed_for_ranking`. -/
def ScoutMeasurement.novelEedForRanking (m : ScoutMeasurement) : ℚ≥0 :=
  if m.measurementMode = .hostYear then m.novelPairEed else m.novelEed

/-- A row of `source_scout_metrics`. -/
structure MetricsRow where
  sourceKey : String
  measurement : ScoutMeasurement
  baselineSignature : Option String
  modelSignature : Option String
  deriving DecidableEq

abbrev Episodes := Table EpisodeRow String (·.episodeId)
abbrev Attributions := Table AttributionRow String (·.sourceKey)

structure Registry where
  /-- The keys of `source_candidates`. -/
  sources : List String
  episodes : Episodes
  proposals : Table ProposalRow String (·.proposalId)
  attributions : Attributions
  finals : Table FinalRow String (·.sourceKey)
  metrics : Table MetricsRow String (·.sourceKey)
  /-- The row of `source_scout_authority`. -/
  authority : Option Authority
  runs : Runs

def Registry.empty : Registry := ⟨[], .empty, .empty, .empty, .empty, .empty, none, .empty⟩

abbrev Reply (α : Type) := Except PyError α × Registry

/-! ## Episodes and proposals -/

/-- `begin_search_episode`. -/
def beginSearchEpisode (s : Registry) (now : ℚ) (strategy backend query actor episodeId : String) : Reply Unit :=
  if [strategy, backend, query, actor].any blank then
    (.error (.valueError "search episode fields must be non-empty strings"), s)
  else if (s.episodes.get? episodeId).isSome then (.error .integrityError, s)
  else (.ok (), { s with
    episodes := s.episodes.insert ⟨episodeId, strategy, backend, query, actor, now, none, 0, 0, 0, 0⟩ })

/-- `finish_search_episode`. -/
def finishSearchEpisode (s : Registry) (now : ℚ) (episodeId : String) (searchCostSeconds : PyFloat)
    (acceptedProposals newSources : Int) : Reply Unit :=
  match finiteReading searchCostSeconds with
  | none => (.error (.valueError "search_cost_seconds must be finite and non-negative"), s)
  | some cost =>
    if acceptedProposals < 0 || newSources < 0 || acceptedProposals < newSources then
      (.error (.valueError
        "search supply counts must be non-negative integers and new_sources cannot exceed accepted_proposals"), s)
    else
      match s.episodes.get? episodeId with
      | none => (.error (.keyError ("unknown search episode: " ++ episodeId)), s)
      | some episode =>
        if episode.finishedAt.isSome then (.error (.valueError "search episode is already finished"), s)
        else (.ok (), { s with
          episodes := s.episodes.update (fun e => e.episodeId = episodeId)
            (fun e => { e with finishedAt := some now, searchCostSeconds := cost, acceptedProposals, newSources }) })

/-- `credit_search_episode`. -/
def creditSearchEpisode (s : Registry) (episodeId : String) (acceptedNovelEed : PyFloat) : Reply Unit :=
  match finiteReading acceptedNovelEed with
  | none => (.error (.valueError "accepted_novel_eed must be finite and non-negative"), s)
  | some amount =>
    if (s.episodes.get? episodeId).isNone then (.error (.keyError ("unknown search episode: " ++ episodeId)), s)
    else (.ok (), { s with
      episodes := s.episodes.update (fun e => e.episodeId = episodeId)
        (fun e => { e with acceptedNovelEed := e.acceptedNovelEed + amount }) })

/-- `register_proposal`, after its checks of the candidate. -/
def registerProposal (s : Registry) (now : ℚ) (sourceKey : String) (episodeId : Option String) (proposalId : String) :
    Reply Unit :=
  if episodeId.any (fun id => (s.episodes.get? id).isNone) then
    (.error (.keyError ("unknown search episode: " ++ episodeId.getD "")), s)
  else if (s.proposals.get? proposalId).isSome then (.error .integrityError, s)
  else (.ok (), { s with
    sources := if sourceKey ∈ s.sources then s.sources else s.sources ++ [sourceKey]
    proposals := s.proposals.insert ⟨proposalId, episodeId, sourceKey, now⟩ })

/-! ## Attribution -/

section
variable (clamp : ℚ → ℚ)

/-- `accepted_novel_eed = MAX(0, accepted_novel_eed + ?)`, with the clamp as a parameter. -/
def adjust (t : Episodes) (episodeId : String) (delta : ℚ) : Episodes :=
  t.update (fun e => e.episodeId = episodeId) (fun e => { e with acceptedNovelEed := clamp (e.acceptedNovelEed + delta) })

/-- What an attribution row is set to. -/
structure Offer where
  amount : ℚ
  rewardKind : RewardKind
  baselineSignature : Option String
  modelSignature : Option String

/-- The final reward of a source, under the current authority if there is one. -/
def Registry.currentFinal (s : Registry) (sourceKey : String) : Option FinalRow :=
  (s.finals.get? sourceKey).filter fun f => s.authority.all f.signedBy

def FinalRow.offer (f : FinalRow) : Offer := ⟨f.finalAcceptedEed, .final, f.baselineSignature, f.modelSignature⟩

/-- A final reward supersedes what is offered. -/
def Registry.superseded (s : Registry) (sourceKey : String) (offer : Offer) : Offer :=
  match s.currentFinal sourceKey with
  | some f => f.offer
  | none => offer

def Registry.firstEpisode (s : Registry) (sourceKey : String) : Option String :=
  ((s.proposals.rows.filter (fun p => p.sourceKey = sourceKey && p.episodeId.isSome)).insertionSort
    (fun p q => toLex (p.createdAt, p.proposalId) ≤ toLex (q.createdAt, q.proposalId))).head?.bind (·.episodeId)

def AttributionRow.set (r : AttributionRow) (offer : Offer) : AttributionRow := { r with
  creditedEed := offer.amount
  rewardKind := offer.rewardKind
  baselineSignature := offer.baselineSignature
  modelSignature := offer.modelSignature }

/-- A difference that is not zero goes to the episode. -/
def settle (t : Episodes) (episodeId : String) (delta : ℚ) : Episodes := if delta = 0 then t else adjust clamp t episodeId delta

/-- The attribution row of a source set to an offer, with the difference. -/
def attributeOffer (s : Registry) (sourceKey : String) (offer : Offer) : Registry :=
  match s.attributions.get? sourceKey with
  | none =>
    match s.firstEpisode sourceKey with
    | none => s
    | some episodeId => { s with
        attributions := s.attributions.insert (AttributionRow.set ⟨sourceKey, episodeId, 0, .legacy, none, none⟩ offer)
        episodes := settle clamp s.episodes episodeId offer.amount }
  | some row => { s with
      attributions := s.attributions.update (fun r => r.sourceKey = sourceKey) (·.set offer)
      episodes := settle clamp s.episodes row.episodeId (offer.amount - row.creditedEed) }

/-- `_attribute_search_reward_locked`. -/
def attributeSearchReward (s : Registry) (sourceKey : String) (offer : Offer) : Registry :=
  attributeOffer clamp s sourceKey (s.superseded sourceKey offer)

/-! ## Authorities -/

/-- The attribution rows that `set_scout_authority` takes back. -/
def Registry.stale (s : Registry) (authority : Authority) (r : AttributionRow) : Bool :=
  ([RewardKind.scoutProxy, .final].contains r.rewardKind &&
    (r.baselineSignature.getD "" ≠ authority.1 || r.modelSignature.getD "" ≠ authority.2)) ||
  (r.rewardKind = .legacy && (s.finals.get? r.sourceKey).isNone)

def creditFor (episodeId : String) (r : AttributionRow) : ℚ := if r.episodeId = episodeId then r.creditedEed else 0

/-- `SELECT episode_id, SUM(credited_eed) ... GROUP BY episode_id`. -/
def grouped (rows : List AttributionRow) : List (String × ℚ) :=
  (rows.map (·.episodeId)).eraseDups.map fun episodeId => (episodeId, (rows.map (creditFor episodeId)).sum)

def takeBack (t : Episodes) (credits : List (String × ℚ)) : Episodes :=
  credits.foldl (fun t credit => adjust clamp t credit.1 (-credit.2)) t

/-- The transaction of `set_scout_authority`. -/
def installAuthority (s : Registry) (authority : Authority) : Registry := { s with
  episodes := takeBack clamp s.episodes ((grouped (s.attributions.rows.filter (s.stale authority))).filter (0 < ·.2))
  attributions := s.attributions.update (s.stale authority) (fun r => { r with creditedEed := 0 })
  authority := some authority }

/-- `set_scout_authority`. -/
def setScoutAuthority (s : Registry) (authority : Authority) : Reply Bool :=
  if blank authority.1 || blank authority.2 then (.error (.valueError "scout authority signatures must be non-empty"), s)
  else if s.authority = some authority then (.ok false, s)
  else (.ok true, installAuthority clamp s authority)

/-- `reset_final_rewards`. -/
def resetFinalRewards (s : Registry) : Reply Unit :=
  (.ok (), { s with
    episodes := takeBack clamp s.episodes
      (((s.attributions.rows.filter (·.rewardKind = .final)).filter (·.creditedEed ≠ 0)).map fun r => (r.episodeId, r.creditedEed))
    attributions := s.attributions.update (·.rewardKind = .final) (fun r => { r with
      creditedEed := 0
      rewardKind := .invalidatedFinal
      baselineSignature := none
      modelSignature := none })
    finals := .empty })

/-! ## Measurements and final rewards -/

/-- Two signatures that come together or not at all. -/
def together (baselineSignature modelSignature : Option String) : Except PyError (Option Authority) :=
  match baselineSignature, modelSignature with
  | none, none => .ok none
  | some baseline, some model => .ok (some (baseline, model))
  | _, _ => .error (.valueError "baseline_signature and model_signature must be provided together")

def storeMetrics (s : Registry) (sourceKey : String) (measurement : ScoutMeasurement) (authority : Option Authority) :
    Registry := { s with
  metrics := s.metrics.upsert ⟨sourceKey, measurement, authority.map (·.1), authority.map (·.2)⟩ (fun old => { old with
    measurement
    baselineSignature := authority.map (·.1)
    modelSignature := authority.map (·.2) }) }

/-- The metrics of a source carry an authority. -/
def Registry.measuredUnder (s : Registry) (sourceKey : String) (authority : Authority) : Bool :=
  (s.metrics.get? sourceKey).any fun m => m.baselineSignature = some authority.1 && m.modelSignature = some authority.2

/-- The transaction of `record_scout_measurement`. -/
def measure (s : Registry) (sourceKey : String) (measurement : ScoutMeasurement) (given : Option Authority) : Reply Bool :=
  let authority := given.or s.authority
  if authority.any (fun pair => pair.1 = "" || pair.2 = "") then
    (.error (.valueError "scout authority signatures must be non-empty"), s)
  else if s.authority.isNone || authority = s.authority then
    (.ok true, attributeSearchReward clamp (storeMetrics s sourceKey measurement authority) sourceKey
      ⟨measurement.novelEedForRanking, .scoutProxy, authority.map (·.1), authority.map (·.2)⟩)
  else if s.authority.any (s.measuredUnder sourceKey) then (.ok false, s)
  else (.ok false, storeMetrics s sourceKey measurement authority)

/-- `record_scout_measurement`. -/
def recordScoutMeasurement (s : Registry) (sourceKey : String) (measurement : ScoutMeasurement)
    (baselineSignature modelSignature : Option String) : Reply Bool :=
  if sourceKey ∉ s.sources then (.error (.keyError ("unknown source: " ++ sourceKey)), s)
  else
    match together baselineSignature modelSignature with
    | .error err => (.error err, s)
    | .ok given => measure clamp s sourceKey measurement given

/-- A final reward stored or replaced. -/
def storeFinal (s : Registry) (row : FinalRow) : Registry := { s with
  finals := s.finals.upsert row (fun old => { row with sourceKey := old.sourceKey }) }

/-- `record_final_reward`. -/
def recordFinalReward (s : Registry) (sourceKey : String) (finalAcceptedEed costSeconds : PyFloat)
    (baselineSignature modelSignature : Option String) : Reply Unit :=
  match finiteReading finalAcceptedEed, finiteReading costSeconds with
  | some eed, some cost =>
    if sourceKey ∉ s.sources then (.error (.keyError ("unknown source: " ++ sourceKey)), s)
    else
      match together baselineSignature modelSignature with
      | .error err => (.error err, s)
      | .ok given =>
        let authority := given.or s.authority
        (.ok (), attributeSearchReward clamp
          (storeFinal s ⟨sourceKey, eed, cost, authority.map (·.1), authority.map (·.2), 1, if eed = 0 then 1 else 0⟩)
          sourceKey ⟨eed, .final, authority.map (·.1), authority.map (·.2)⟩)
  | _, _ => (.error (.valueError "final reward and cost must be finite and non-negative"), s)

/-! ## Closing of runs -/

/-- The clamped duration of a read. -/
def readSeconds (r : RunRow) : ℚ :=
  match r.readStarted, r.readFinished with
  | some started, some finished => max 0 (finished - started)
  | _, _ => 0

def closedRuns (t : Runs) (sourceKey : String) (authority : Authority) : List RunRow :=
  t.rows.filter fun r => r.key.sourceKey = sourceKey && r.key.authority = authority && r.closed

def aggregate (runs : List RunRow) (sourceKey : String) (authority : Authority) : FinalRow where
  sourceKey := sourceKey
  finalAcceptedEed := (runs.map (·.validation.finalAcceptedEed)).sum
  costSeconds := (runs.map fun r => r.validation.providerElapsedSeconds + readSeconds r).sum
  baselineSignature := some authority.1
  modelSignature := some authority.2
  closedRuns := runs.length
  zeroRuns := (runs.filter (·.validation.finalAcceptedEed = 0)).length

/-- `_publish_source_aggregate_locked`. -/
def publishSourceAggregate (s : Registry) (sourceKey : String) (authority : Authority) : Registry :=
  let row := aggregate (closedRuns s.runs sourceKey authority) sourceKey authority
  if row.closedRuns < 1 then s
  else attributeSearchReward clamp (storeFinal s row) sourceKey
    ⟨row.finalAcceptedEed, .final, some authority.1, some authority.2⟩

/-- Another authority is current. -/
def Registry.otherAuthority (s : Registry) (key : RunKey) : Bool := s.authority.any (· ≠ key.authority)

/-- The read of the run in `close_source_run`, with what the calls on its exposure answer. -/
def runAdmitted (s : Registry) (key : RunKey) (exposure : Except PyError Bool) : Except PyError Bool :=
  match s.runs.get? key with
  | none => .error (.keyError "unknown source run")
  | some run =>
    if run.terminalState.any (· ≠ .finalClosed) then .ok false
    else if run.exposureId.isNone then .ok true
    else if !run.readComplete || !run.validation.complete then .ok false
    else if run.validation.evidenceTasksTerminal ≠ run.validation.evidenceTasksCreated then .ok false
    else exposure

/-- The transaction of `close_source_run`. -/
def closeRun (s : Registry) (key : RunKey) : Reply Bool :=
  match s.runs.get? key with
  | none => (.error (.keyError "unknown source run"), s)
  | some run =>
    if !run.closable then (.ok false, s)
    else (.ok true, publishSourceAggregate clamp { s with runs := markClosed s.runs key } key.sourceKey key.authority)

/-- `close_source_run`. -/
def closeSourceRun (s : Registry) (key : RunKey) (exposure : Except PyError Bool) : Reply Bool :=
  if s.otherAuthority key then (.ok false, s)
  else
    match runAdmitted s key exposure with
    | .error err => (.error err, s)
    | .ok false => (.ok false, s)
    | .ok true => closeRun clamp s key

/-! ## Histories -/

/-- The transactions that write runs without closing them. -/
inductive RunOp
  | begin (key : RunKey) (exposureId : String) (readStarted : Option ℚ)
  | read (now : ℚ) (key : RunKey) (counters : ReadCounters) (readFinished : Option ℚ) (readComplete : Bool)
  | validation (key : RunKey) (v : Validation)
  | terminal (key : RunKey) (state : ExposureState) (reason : String)

def writeRun (s : Registry) : RunOp → Reply Unit
  | .begin key exposureId readStarted =>
    if key.sourceKey ∉ s.sources then (.error (.keyError ("unknown source: " ++ key.sourceKey)), s)
    else (.ok (), { s with runs := beginRun s.runs key exposureId readStarted })
  | .read now key counters readFinished readComplete =>
    ((recordRead s.runs now key counters readFinished readComplete).1,
      { s with runs := (recordRead s.runs now key counters readFinished readComplete).2 })
  | .validation key v => ((recordValidation s.runs key v).1, { s with runs := (recordValidation s.runs key v).2 })
  | .terminal key state reason => (.ok (), { s with runs := (markTerminal s.runs key state reason).2 })

/-- The calls that do not touch what sources are credited with. -/
inductive Entry
  | beginSearchEpisode (now : ℚ) (strategy backend query actor episodeId : String)
  | finishSearchEpisode (now : ℚ) (episodeId : String) (searchCostSeconds : PyFloat) (acceptedProposals newSources : Int)
  | creditSearchEpisode (episodeId : String) (acceptedNovelEed : PyFloat)
  | registerProposal (now : ℚ) (sourceKey : String) (episodeId : Option String) (proposalId : String)
  | writeRun (op : RunOp)

def enter (s : Registry) : Entry → Reply Unit
  | .beginSearchEpisode now strategy backend query actor episodeId =>
    beginSearchEpisode s now strategy backend query actor episodeId
  | .finishSearchEpisode now episodeId searchCostSeconds acceptedProposals newSources =>
    finishSearchEpisode s now episodeId searchCostSeconds acceptedProposals newSources
  | .creditSearchEpisode episodeId acceptedNovelEed => creditSearchEpisode s episodeId acceptedNovelEed
  | .registerProposal now sourceKey episodeId proposalId => registerProposal s now sourceKey episodeId proposalId
  | .writeRun op => writeRun s op

inductive Event
  | enter (entry : Entry)
  | recordScoutMeasurement (sourceKey : String) (measurement : ScoutMeasurement) (baselineSignature modelSignature : Option String)
  | recordFinalReward (sourceKey : String) (finalAcceptedEed costSeconds : PyFloat)
      (baselineSignature modelSignature : Option String)
  | closeSourceRun (key : RunKey) (exposure : Except PyError Bool)
  | setScoutAuthority (authority : Authority)
  | resetFinalRewards

abbrev Outcome := Except PyError Unit

/-- A reply whose value does not matter. -/
def forget {α : Type} (reply : Reply α) : Outcome × Registry := (reply.1.map fun _ => (), reply.2)

def step (s : Registry) : Event → Outcome × Registry
  | .enter entry => enter s entry
  | .recordScoutMeasurement sourceKey measurement baselineSignature modelSignature =>
    forget (recordScoutMeasurement clamp s sourceKey measurement baselineSignature modelSignature)
  | .recordFinalReward sourceKey finalAcceptedEed costSeconds baselineSignature modelSignature =>
    recordFinalReward clamp s sourceKey finalAcceptedEed costSeconds baselineSignature modelSignature
  | .closeSourceRun key exposure => forget (closeSourceRun clamp s key exposure)
  | .setScoutAuthority authority => forget (setScoutAuthority clamp s authority)
  | .resetFinalRewards => resetFinalRewards clamp s

def machine : Machine Registry Event Outcome where
  initial := .empty
  step := step clamp

end

/-- `MAX(0, x)`. -/
def maxZero (x : ℚ) : ℚ := max 0 x

def registry : Machine Registry Event Outcome := machine maxZero

/-- The registry without any clamp. -/
def exactRegistry : Machine Registry Event Outcome := machine id

/-! ## Taking credits back -/

/-- The amount that a list of credits gives to an episode. -/
def creditTotal (credits : List (String × ℚ)) (episodeId : String) : ℚ :=
  (credits.map fun credit => if credit.1 = episodeId then credit.2 else 0).sum

/-- Every episode moved by an amount of its own. -/
def shift (t : Episodes) (amount : String → ℚ) : Episodes :=
  t.update (fun _ => true) (fun e => { e with acceptedNovelEed := e.acceptedNovelEed + amount e.episodeId })

def only (episodeId : String) (amount : ℚ) (e : String) : ℚ := if e = episodeId then amount else 0

/-- The clamp does not move what is not negative. -/
def Harmless (clamp : ℚ → ℚ) : Prop := ∀ x, 0 ≤ x → clamp x = x

theorem harmless_maxZero : Harmless maxZero := fun _ nonneg => max_eq_right nonneg

theorem harmless_id : Harmless id := fun _ _ => rfl

theorem creditTotal_cons (credit : String × ℚ) (rest : List (String × ℚ)) (episodeId : String) :
    creditTotal (credit :: rest) episodeId = (if credit.1 = episodeId then credit.2 else 0) + creditTotal rest episodeId := by
  simp [creditTotal]

theorem creditTotal_nonneg {credits : List (String × ℚ)} (nonneg : ∀ credit ∈ credits, 0 ≤ credit.2) (episodeId : String) :
    0 ≤ creditTotal credits episodeId := by
  refine List.sum_nonneg fun amount member => ?_
  obtain ⟨credit, inside, rfl⟩ := List.mem_map.mp member
  split
  · exact nonneg credit inside
  · exact le_refl 0

theorem adjust_eq {clamp : ℚ → ℚ} (harmless : Harmless clamp) {t : Episodes} {episodeId : String} {delta : ℚ}
    (nonneg : ∀ e ∈ t.rows, 0 ≤ e.acceptedNovelEed + only episodeId delta e.episodeId) :
    adjust clamp t episodeId delta = shift t (only episodeId delta) := by
  apply Table.ext
  refine List.map_congr_left fun e member => ?_
  have enough := nonneg e member
  unfold only at enough ⊢
  by_cases here : e.episodeId = episodeId
  · rw [if_pos here] at enough
    simp [here, harmless _ enough]
  · simp [here]

theorem settle_eq {clamp : ℚ → ℚ} (harmless : Harmless clamp) {t : Episodes} {episodeId : String} {delta : ℚ}
    (nonneg : ∀ e ∈ t.rows, 0 ≤ e.acceptedNovelEed + only episodeId delta e.episodeId) :
    settle clamp t episodeId delta = shift t (only episodeId delta) := by
  unfold settle
  split
  · rename_i zero
    apply Table.ext
    refine ((List.map_congr_left fun e _ => ?_).trans (List.map_id _)).symm
    simp [only, zero]
  · exact adjust_eq harmless nonneg

theorem shift_shift (t : Episodes) (first second : String → ℚ) :
    shift (shift t first) second = shift t fun e => first e + second e := by
  apply Table.ext
  simp [shift, Function.comp_def, add_assoc]

theorem takeBack_eq {clamp : ℚ → ℚ} (harmless : Harmless clamp) {credits : List (String × ℚ)} {t : Episodes}
    (nonneg : ∀ credit ∈ credits, 0 ≤ credit.2)
    (covered : ∀ e ∈ t.rows, creditTotal credits e.episodeId ≤ e.acceptedNovelEed) :
    takeBack clamp t credits = shift t fun e => -creditTotal credits e := by
  induction credits generalizing t with
  | nil =>
    apply Table.ext
    refine ((List.map_congr_left fun e _ => ?_).trans (List.map_id _)).symm
    simp [creditTotal]
  | cons credit rest ih =>
    have later : ∀ c ∈ rest, 0 ≤ c.2 := fun c member => nonneg c (List.mem_cons_of_mem _ member)
    have leaves : ∀ e ∈ t.rows, creditTotal rest e.episodeId ≤ e.acceptedNovelEed + only credit.1 (-credit.2) e.episodeId := by
      intro e member
      have enough := covered e member
      rw [creditTotal_cons] at enough
      unfold only
      by_cases here : e.episodeId = credit.1
      · rw [if_pos here.symm] at enough
        rw [if_pos here]
        linarith
      · rw [if_neg (Ne.symm here)] at enough
        rw [if_neg here]
        linarith
    have first := adjust_eq harmless fun e member => (creditTotal_nonneg later e.episodeId).trans (leaves e member)
    show takeBack clamp (adjust clamp t credit.1 (-credit.2)) rest = _
    rw [first, ih later ?_, shift_shift]
    · congr 1
      funext e
      rw [creditTotal_cons, only]
      by_cases here : e = credit.1
      · simp only [here, if_true]
        ring
      · simp [here, Ne.symm here]
    · intro e member
      obtain ⟨old, stored, rfl⟩ := List.mem_map.mp member
      exact leaves old stored

theorem creditTotal_filter {credits : List (String × ℚ)} {keep : String × ℚ → Bool}
    (empty : ∀ credit ∈ credits, keep credit = false → credit.2 = 0) (episodeId : String) :
    creditTotal (credits.filter keep) episodeId = creditTotal credits episodeId := by
  induction credits with
  | nil => rfl
  | cons credit rest ih =>
    have others := ih fun c member => empty c (List.mem_cons_of_mem _ member)
    rw [List.filter_cons, creditTotal_cons]
    split
    · rw [creditTotal_cons, others]
    · rename_i skipped
      rw [others, empty credit List.mem_cons_self (by simpa using skipped)]
      simp

theorem sum_single {names : List String} (distinct : names.Nodup) (name : String) (amount : String → ℚ) :
    (names.map fun n => if n = name then amount n else 0).sum = if name ∈ names then amount name else 0 := by
  induction names with
  | nil => rfl
  | cons n rest ih =>
    obtain ⟨absent, distinct⟩ := List.nodup_cons.mp distinct
    rw [List.map_cons, List.sum_cons, ih distinct]
    by_cases here : n = name
    · subst here
      simp [absent]
    · simp [here, Ne.symm here]

/-- The groups of some rows give every episode what the rows give it. -/
theorem creditTotal_grouped (rows : List AttributionRow) (episodeId : String) :
    creditTotal (grouped rows) episodeId = (rows.map (creditFor episodeId)).sum := by
  have named : creditTotal (grouped rows) episodeId =
      ((rows.map (·.episodeId)).eraseDups.map fun n => if n = episodeId then (rows.map (creditFor n)).sum else 0).sum := by
    simp [creditTotal, grouped, Function.comp_def]
  rw [named, sum_single (EvidenceQueue.nodup_eraseDups _)]
  split
  · rfl
  · rename_i absent
    refine (List.sum_eq_zero fun amount member => ?_).symm
    obtain ⟨row, inside, rfl⟩ := List.mem_map.mp member
    refine if_neg fun here => absent ?_
    rw [List.mem_eraseDups]
    exact List.mem_map.mpr ⟨row, inside, here⟩

/-- The rows one by one do as well. -/
theorem creditTotal_rows (rows : List AttributionRow) (episodeId : String) :
    creditTotal (rows.map fun r => (r.episodeId, r.creditedEed)) episodeId = (rows.map (creditFor episodeId)).sum := by
  simp only [creditTotal, List.map_map]
  rfl

/-! ## The balance -/

def credited (t : Attributions) (episodeId : String) : ℚ := (t.rows.map (creditFor episodeId)).sum

/-- Every episode holds its explicit credit and what the attribution rows credit to it. -/
structure Balanced (explicit : String → ℚ) (s : Registry) : Prop where
  runs : SourceRuns.Sound s.runs
  finals : ∀ f ∈ s.finals.rows, 0 ≤ f.finalAcceptedEed
  credits : ∀ r ∈ s.attributions.rows, 0 ≤ r.creditedEed
  given : ∀ episodeId, 0 ≤ explicit episodeId
  totals : ∀ e ∈ s.episodes.rows, e.acceptedNovelEed = explicit e.episodeId + credited s.attributions e.episodeId
  /-- Without its row an episode has no credit. -/
  known : ∀ episodeId, s.episodes.get? episodeId = none → explicit episodeId = 0 ∧
    (∀ r ∈ s.attributions.rows, r.episodeId ≠ episodeId) ∧ ∀ p ∈ s.proposals.rows, p.episodeId ≠ some episodeId

theorem creditFor_nonneg {r : AttributionRow} (nonneg : 0 ≤ r.creditedEed) (episodeId : String) : 0 ≤ creditFor episodeId r := by
  unfold creditFor
  split
  · exact nonneg
  · exact le_refl 0

theorem credited_nonneg {t : Attributions} (nonneg : ∀ r ∈ t.rows, 0 ≤ r.creditedEed) (episodeId : String) :
    0 ≤ credited t episodeId := by
  refine List.sum_nonneg fun amount member => ?_
  obtain ⟨r, inside, rfl⟩ := List.mem_map.mp member
  exact creditFor_nonneg (nonneg r inside) _

theorem credited_insert {t : Attributions} {r : AttributionRow} (fresh : t.get? r.sourceKey = none) (episodeId : String) :
    credited (t.insert r) episodeId = credited t episodeId + only r.episodeId r.creditedEed episodeId := by
  unfold credited
  rw [Table.rows_insert fresh, List.map_append, List.sum_append]
  simp [creditFor, only, eq_comm]

theorem credited_set {t : Attributions} {sourceKey : String} {row : AttributionRow} (found : t.get? sourceKey = some row)
    (offer : Offer) (keeps : ∀ r : AttributionRow, (r.set offer).sourceKey = r.sourceKey) (episodeId : String) :
    credited (t.update (fun r => r.sourceKey = sourceKey) (·.set offer) keeps) episodeId =
      credited t episodeId + only row.episodeId (offer.amount - row.creditedEed) episodeId := by
  obtain ⟨first, last, split, before, after⟩ := Table.focus found
  unfold credited
  rw [Table.rows_update, split, Table.rows_update_focus (·.set offer) (Table.get?_key found) before after]
  simp only [List.map_append, List.map_cons, List.sum_append, List.sum_cons, creditFor, AttributionRow.set, only]
  by_cases here : row.episodeId = episodeId
  · simp only [here, if_true]
    ring
  · simp [here, Ne.symm here]

theorem credited_cleared {t : Attributions} {where_ : AttributionRow → Bool} {set : AttributionRow → AttributionRow}
    {keeps : ∀ r, (set r).sourceKey = r.sourceKey} (cleared : ∀ r, (set r).creditedEed = 0) (episodeId : String) :
    credited (t.update where_ set keeps) episodeId =
      credited t episodeId + -((t.rows.filter where_).map (creditFor episodeId)).sum := by
  unfold credited
  rw [Table.rows_update]
  induction t.rows with
  | nil => simp
  | cons r rest ih =>
    simp only [List.map_cons, List.sum_cons, List.filter_cons, ih]
    by_cases hit : where_ r
    · have none_ : creditFor episodeId (set r) = 0 := by simp [creditFor, cleared]
      simp only [hit, if_true, none_, List.map_cons, List.sum_cons]
      ring
    · simp only [hit, if_false, Bool.false_eq_true]
      ring

section
variable {explicit : String → ℚ} {s : Registry}

namespace Balanced

theorem holds (balanced : Balanced explicit s) (where_ : AttributionRow → Bool) {e : EpisodeRow}
    (stored : e ∈ s.episodes.rows) :
    ((s.attributions.rows.filter where_).map (creditFor e.episodeId)).sum ≤ e.acceptedNovelEed := by
  rw [balanced.totals e stored]
  have some_ : ((s.attributions.rows.filter where_).map (creditFor e.episodeId)).sum ≤ credited s.attributions e.episodeId := by
    refine (List.filter_sublist.map _).sum_le_sum fun amount member => ?_
    obtain ⟨r, inside, rfl⟩ := List.mem_map.mp member
    exact creditFor_nonneg (balanced.credits r inside) _
  have := balanced.given e.episodeId
  linarith

theorem stays (balanced : Balanced explicit s) {t : Attributions} (nonneg : ∀ r ∈ t.rows, 0 ≤ r.creditedEed)
    {amount : String → ℚ} (moved : ∀ id, credited t id = credited s.attributions id + amount id) :
    ∀ e ∈ s.episodes.rows, 0 ≤ e.acceptedNovelEed + amount e.episodeId := by
  intro e stored
  have now := credited_nonneg nonneg e.episodeId
  have := balanced.given e.episodeId
  rw [moved] at now
  rw [balanced.totals e stored]
  linarith

theorem move (balanced : Balanced explicit s) {t : Attributions} (nonneg : ∀ r ∈ t.rows, 0 ≤ r.creditedEed)
    {amount : String → ℚ} (moved : ∀ id, credited t id = credited s.attributions id + amount id)
    (named : ∀ r ∈ t.rows, (∃ old ∈ s.attributions.rows, r.episodeId = old.episodeId) ∨
      ∃ p ∈ s.proposals.rows, p.episodeId = some r.episodeId) :
    Balanced explicit { s with episodes := shift s.episodes amount, attributions := t } where
  runs := balanced.runs
  finals := balanced.finals
  credits := nonneg
  given := balanced.given
  totals := by
    intro e member
    obtain ⟨old, stored, rfl⟩ := List.mem_map.mp member
    have before := balanced.totals old stored
    show old.acceptedNovelEed + amount old.episodeId = explicit old.episodeId + credited t old.episodeId
    rw [moved, before, add_assoc]
  known := by
    intro episodeId absent
    have before : s.episodes.get? episodeId = none := by
      rwa [shift, Table.get?_update, Option.map_eq_none_iff] at absent
    obtain ⟨zero, rows, proposals⟩ := balanced.known episodeId before
    refine ⟨zero, fun r member here => ?_, proposals⟩
    obtain ⟨old, stored, same⟩ | ⟨p, stored, same⟩ := named r member
    · exact rows old stored (same.symm.trans here)
    · exact proposals p stored (same.trans (congrArg some here))

end Balanced

/-- The result of an operation is balanced, and the clamp does not show in it. -/
def Exact (explicit : String → ℚ) (op : (ℚ → ℚ) → Registry) : Prop :=
  ∃ after, Balanced explicit after ∧ ∀ clamp, Harmless clamp → op clamp = after

theorem Balanced.exact (balanced : Balanced explicit s) : Exact explicit fun _ => s := ⟨s, balanced, fun _ _ => rfl⟩

variable (balanced : Balanced explicit s)
include balanced

theorem attributeOffer_exact (sourceKey : String) {offer : Offer} (nonneg : 0 ≤ offer.amount) :
    Exact explicit fun clamp => attributeOffer clamp s sourceKey offer := by
  unfold attributeOffer
  cases found : s.attributions.get? sourceKey with
  | none =>
    cases first : s.firstEpisode sourceKey with
    | none => exact balanced.exact
    | some episodeId =>
      obtain ⟨p, proposed, named⟩ : ∃ p ∈ s.proposals.rows, p.episodeId = some episodeId := by
        obtain ⟨p, head, named⟩ := Option.bind_eq_some_iff.mp first
        have inside := (List.mem_insertionSort _).mp (List.mem_of_head? head)
        exact ⟨p, List.mem_of_mem_filter inside, named⟩
      have credits : ∀ r ∈ (s.attributions.insert (AttributionRow.set ⟨sourceKey, episodeId, 0, .legacy, none, none⟩ offer)).rows,
          0 ≤ r.creditedEed := by
        intro r member
        rcases mem_insert member with rfl | stored
        · exact nonneg
        · exact balanced.credits r stored
      have moved := credited_insert (r := AttributionRow.set ⟨sourceKey, episodeId, 0, .legacy, none, none⟩ offer) found
      refine ⟨_, balanced.move credits moved fun r member => ?_, fun clamp harmless => ?_⟩
      · rcases mem_insert member with rfl | stored
        · exact .inr ⟨p, proposed, named⟩
        · exact .inl ⟨r, stored, rfl⟩
      · have closed : settle clamp s.episodes episodeId offer.amount = _ := settle_eq harmless (balanced.stays credits moved)
        dsimp only
        rw [closed]
        rfl
  | some row =>
    have credits : ∀ r ∈ (s.attributions.update (fun r => r.sourceKey = sourceKey) (·.set offer)).rows, 0 ≤ r.creditedEed := by
      intro r member
      obtain ⟨old, stored, ⟨-, rfl⟩ | ⟨-, rfl⟩⟩ := mem_update member
      · exact nonneg
      · exact balanced.credits r stored
    have moved := credited_set found offer (by intro _; rfl)
    refine ⟨_, balanced.move credits moved fun r member => ?_, fun clamp harmless => ?_⟩
    · obtain ⟨old, stored, ⟨-, rfl⟩ | ⟨-, rfl⟩⟩ := mem_update member
      · exact .inl ⟨old, stored, rfl⟩
      · exact .inl ⟨r, stored, rfl⟩
    · have closed := settle_eq harmless (balanced.stays credits moved)
      dsimp only
      rw [closed]

theorem takeBack_exact (where_ : AttributionRow → Bool) (set : AttributionRow → AttributionRow)
    (keeps : ∀ r, (set r).sourceKey = r.sourceKey) (cleared : ∀ r, (set r).creditedEed = 0)
    (stays : ∀ r, (set r).episodeId = r.episodeId) {credits : List (String × ℚ)} (nonneg : ∀ credit ∈ credits, 0 ≤ credit.2)
    (totals : ∀ id, creditTotal credits id = ((s.attributions.rows.filter where_).map (creditFor id)).sum) :
    Exact explicit fun clamp => { s with
      episodes := takeBack clamp s.episodes credits, attributions := s.attributions.update where_ set keeps } := by
  have rows : ∀ r ∈ (s.attributions.update where_ set keeps).rows, 0 ≤ r.creditedEed := by
    intro r member
    obtain ⟨old, stored, ⟨-, rfl⟩ | ⟨-, rfl⟩⟩ := mem_update member
    · exact (cleared old).ge
    · exact balanced.credits r stored
  have moved : ∀ id, credited (s.attributions.update where_ set keeps) id = credited s.attributions id + -creditTotal credits id := by
    intro id
    rw [credited_cleared cleared, totals]
  refine ⟨_, balanced.move rows moved fun r member => ?_, fun clamp harmless => ?_⟩
  · obtain ⟨old, stored, ⟨-, rfl⟩ | ⟨-, rfl⟩⟩ := mem_update member
    · exact .inl ⟨old, stored, stays old⟩
    · exact .inl ⟨r, stored, rfl⟩
  · have covered : ∀ e ∈ s.episodes.rows, creditTotal credits e.episodeId ≤ e.acceptedNovelEed := by
      intro e stored
      rw [totals]
      exact balanced.holds where_ stored
    have closed := takeBack_eq harmless nonneg covered
    dsimp only
    rw [closed]

end

theorem writeRun_sound {s : Registry} (sound : SourceRuns.Sound s.runs) (op : RunOp) : SourceRuns.Sound (writeRun s op).2.runs := by
  cases op with
  | begin key exposureId readStarted =>
    simp only [writeRun]
    split
    · exact sound
    · exact sound_begin sound key exposureId readStarted
  | read now key counters readFinished readComplete => exact sound_read sound now key counters readFinished readComplete
  | validation key v => exact sound_validation sound key v
  | terminal key state reason => exact sound_terminal sound key state reason

/-- The groups that `set_scout_authority` takes back add up to the stale rows. -/
theorem creditTotal_positive (rows : List AttributionRow) (nonneg : ∀ r ∈ rows, 0 ≤ r.creditedEed) (episodeId : String) :
    creditTotal ((grouped rows).filter (0 < ·.2)) episodeId = (rows.map (creditFor episodeId)).sum := by
  rw [creditTotal_filter, creditTotal_grouped]
  intro credit member dropped
  obtain ⟨id, -, rfl⟩ := List.mem_map.mp member
  have sum : 0 ≤ (rows.map (creditFor id)).sum := by
    refine List.sum_nonneg fun amount inside => ?_
    obtain ⟨r, stored, rfl⟩ := List.mem_map.mp inside
    exact creditFor_nonneg (nonneg r stored) _
  exact le_antisymm (not_lt.mp (of_decide_eq_false dropped)) sum

/-- The rows that `reset_final_rewards` takes back add up to its final rows. -/
theorem creditTotal_nonzero (rows : List AttributionRow) (episodeId : String) :
    creditTotal ((rows.filter (·.creditedEed ≠ 0)).map fun r => (r.episodeId, r.creditedEed)) episodeId =
      (rows.map (creditFor episodeId)).sum := by
  have same : ((rows.filter (·.creditedEed ≠ 0)).map fun r => (r.episodeId, r.creditedEed)) =
      (rows.map fun r => (r.episodeId, r.creditedEed)).filter (·.2 ≠ 0) := by
    rw [List.filter_map]
    rfl
  rw [same, creditTotal_filter, creditTotal_rows]
  intro credit _ dropped
  simpa using dropped

section
variable {explicit : String → ℚ} {s : Registry}

theorem Exact.then {op : (ℚ → ℚ) → Registry} (exact_ : Exact explicit op) {f : Registry → Registry}
    (keeps : ∀ s, Balanced explicit s → Balanced explicit (f s)) : Exact explicit fun clamp => f (op clamp) := by
  obtain ⟨after, balanced, same⟩ := exact_
  exact ⟨f after, keeps after balanced, fun clamp harmless => congrArg f (same clamp harmless)⟩

/-- Tables that no credit depends on may change. -/
theorem Balanced.apart (balanced : Balanced explicit s) (sources : List String) (metrics : Table MetricsRow String (·.sourceKey))
    (authority : Option Authority) : Balanced explicit { s with sources, metrics, authority } :=
  ⟨balanced.runs, balanced.finals, balanced.credits, balanced.given, balanced.totals, balanced.known⟩

theorem Balanced.withRuns (balanced : Balanced explicit s) {runs : Runs} (sound : SourceRuns.Sound runs) :
    Balanced explicit { s with runs } :=
  ⟨sound, balanced.finals, balanced.credits, balanced.given, balanced.totals, balanced.known⟩

theorem Balanced.storeFinal (balanced : Balanced explicit s) {row : FinalRow} (nonneg : 0 ≤ row.finalAcceptedEed) :
    Balanced explicit (storeFinal s row) := by
  refine ⟨balanced.runs, fun f member => ?_, balanced.credits, balanced.given, balanced.totals, balanced.known⟩
  rcases mem_upsert member with rfl | ⟨old, stored, rfl | rfl⟩
  · exact nonneg
  · exact nonneg
  · exact balanced.finals f stored

variable (balanced : Balanced explicit s)
include balanced

theorem attributeSearchReward_exact (sourceKey : String) {offer : Offer} (nonneg : 0 ≤ offer.amount) :
    Exact explicit fun clamp => attributeSearchReward clamp s sourceKey offer := by
  refine attributeOffer_exact balanced sourceKey ?_
  unfold Registry.superseded
  cases found : s.currentFinal sourceKey with
  | none => exact nonneg
  | some f =>
    obtain ⟨stored, -⟩ := Option.filter_eq_some_iff.mp found
    exact balanced.finals f (Table.mem_of_get? stored)

theorem installAuthority_exact (authority : Authority) : Exact explicit fun clamp => installAuthority clamp s authority := by
  have taken := takeBack_exact balanced (s.stale authority) (fun r => { r with creditedEed := 0 }) (by intro _; rfl) (fun _ => rfl) (fun _ => rfl)
    (fun credit member => le_of_lt (of_decide_eq_true (List.mem_filter.mp member).2))
    (creditTotal_positive _ fun r member => balanced.credits r (List.mem_of_mem_filter member))
  exact taken.then (f := fun s => { s with authority := some authority }) fun s kept => kept.apart s.sources s.metrics _

theorem resetFinalRewards_exact : Exact explicit fun clamp => (resetFinalRewards clamp s).2 := by
  have taken := takeBack_exact balanced (fun r => r.rewardKind = .final)
    (fun r => { r with
      creditedEed := 0
      rewardKind := .invalidatedFinal
      baselineSignature := none
      modelSignature := none }) (by intro _; rfl) (fun _ => rfl) (fun _ => rfl)
    (fun credit member => ?_) (creditTotal_nonzero _)
  · exact taken.then (f := fun s => { s with finals := .empty }) fun s kept =>
      ⟨kept.runs, fun f member => (nomatch member), kept.credits, kept.given, kept.totals, kept.known⟩
  · obtain ⟨r, inside, rfl⟩ := List.mem_map.mp member
    exact balanced.credits r (List.mem_of_mem_filter (List.mem_of_mem_filter inside))

theorem recordScoutMeasurement_exact (sourceKey : String) (measurement : ScoutMeasurement)
    (baselineSignature modelSignature : Option String) :
    Exact explicit fun clamp => (recordScoutMeasurement clamp s sourceKey measurement baselineSignature modelSignature).2 := by
  unfold recordScoutMeasurement
  split
  · exact balanced.exact
  · split
    · exact balanced.exact
    · unfold measure
      dsimp only
      split
      · exact balanced.exact
      · split
        · exact attributeSearchReward_exact (balanced.apart s.sources _ s.authority) sourceKey (NNRat.cast_nonneg _)
        · split
          · exact balanced.exact
          · exact (balanced.apart s.sources _ s.authority).exact

theorem recordFinalReward_exact (sourceKey : String) (finalAcceptedEed costSeconds : PyFloat)
    (baselineSignature modelSignature : Option String) :
    Exact explicit fun clamp =>
      (recordFinalReward clamp s sourceKey finalAcceptedEed costSeconds baselineSignature modelSignature).2 := by
  unfold recordFinalReward
  split
  · rename_i eed cost amount _
    split
    · exact balanced.exact
    · split
      · exact balanced.exact
      · have nonneg := (finiteReading_nonneg amount).2
        exact attributeSearchReward_exact (balanced.storeFinal nonneg) sourceKey nonneg
  · exact balanced.exact

theorem closeSourceRun_exact (key : RunKey) (exposure : Except PyError Bool) :
    Exact explicit fun clamp => (closeSourceRun clamp s key exposure).2 := by
  unfold closeSourceRun
  split
  · exact balanced.exact
  · split
    · exact balanced.exact
    · exact balanced.exact
    · unfold closeRun
      split
      · exact balanced.exact
      · split
        · exact balanced.exact
        · have sound := sound_closed balanced.runs key
          have closed := balanced.withRuns sound
          unfold publishSourceAggregate
          dsimp only
          split
          · exact closed.exact
          · have nonneg : 0 ≤ (aggregate (closedRuns (markClosed s.runs key) key.sourceKey key.authority) key.sourceKey
                key.authority).finalAcceptedEed := by
              refine List.sum_nonneg fun amount member => ?_
              obtain ⟨r, inside, rfl⟩ := List.mem_map.mp member
              exact (sound r (List.mem_of_mem_filter inside)).1
            exact attributeSearchReward_exact (closed.storeFinal nonneg) key.sourceKey nonneg

theorem writeRun_balanced (op : RunOp) : Balanced explicit (writeRun s op).2 := by
  have sound := writeRun_sound balanced.runs op
  cases op with
  | begin key exposureId readStarted =>
    simp only [writeRun] at sound ⊢
    split
    · exact balanced
    · rename_i known
      rw [if_neg known] at sound
      exact balanced.withRuns sound
  | read now key counters readFinished readComplete => exact balanced.withRuns sound
  | validation key v => exact balanced.withRuns sound
  | terminal key state reason => exact balanced.withRuns sound

end

/-! ## Conservation -/

/-- What an answered event gives to an episode by `credit_search_episode`. -/
def Event.gives (episodeId : String) : Event → Outcome → ℚ
  | .enter (.creditSearchEpisode id amount), .ok _ => only id ((finiteReading amount).getD 0) episodeId
  | _, _ => 0

/-- What the `credit_search_episode` calls of a run gave to an episode. -/
def explicitTotal (trace : List (Step Registry Event Outcome)) (episodeId : String) : ℚ :=
  (trace.map fun r => r.event.gives episodeId r.outcome).sum

section
variable {explicit : String → ℚ} {s : Registry} (balanced : Balanced explicit s)
include balanced

theorem Balanced.episodes {t : Episodes}
    (totals : ∀ e ∈ t.rows, e.acceptedNovelEed = explicit e.episodeId + credited s.attributions e.episodeId)
    (known : ∀ episodeId, t.get? episodeId = none → s.episodes.get? episodeId = none) : Balanced explicit { s with episodes := t } :=
  ⟨balanced.runs, balanced.finals, balanced.credits, balanced.given, totals, fun id absent => balanced.known id (known id absent)⟩

theorem beginSearchEpisode_balanced (now : ℚ) (strategy backend query actor episodeId : String) :
    Balanced explicit (beginSearchEpisode s now strategy backend query actor episodeId).2 := by
  unfold beginSearchEpisode
  split
  · exact balanced
  · split
    · exact balanced
    · rename_i free
      have fresh : s.episodes.get? episodeId = none := by simpa using free
      refine balanced.episodes (fun e member => ?_) fun id absent => ?_
      · rcases mem_insert member with rfl | stored
        · obtain ⟨zero, rows, -⟩ := balanced.known episodeId fresh
          have none_ : credited s.attributions episodeId = 0 := by
            refine List.sum_eq_zero fun amount inside => ?_
            obtain ⟨r, stored, rfl⟩ := List.mem_map.mp inside
            exact if_neg (rows r stored)
          show (0 : ℚ) = explicit episodeId + credited s.attributions episodeId
          rw [zero, none_, add_zero]
        · exact balanced.totals e stored
      · rw [Table.get?_insert_or, Option.or_eq_none_iff] at absent
        exact absent.1

theorem finishSearchEpisode_balanced (now : ℚ) (episodeId : String) (searchCostSeconds : PyFloat)
    (acceptedProposals newSources : Int) :
    Balanced explicit (finishSearchEpisode s now episodeId searchCostSeconds acceptedProposals newSources).2 := by
  unfold finishSearchEpisode
  split
  · exact balanced
  · split
    · exact balanced
    · split
      · exact balanced
      · split
        · exact balanced
        · refine balanced.episodes (fun e member => ?_) fun id absent => ?_
          · obtain ⟨old, stored, ⟨-, rfl⟩ | ⟨-, rfl⟩⟩ := mem_update member
            · exact balanced.totals old stored
            · exact balanced.totals e stored
          · rwa [Table.get?_update, Option.map_eq_none_iff] at absent

theorem registerProposal_balanced (now : ℚ) (sourceKey : String) (episodeId : Option String) (proposalId : String) :
    Balanced explicit (registerProposal s now sourceKey episodeId proposalId).2 := by
  unfold registerProposal
  split
  · exact balanced
  · rename_i known
    split
    · exact balanced
    · refine ⟨balanced.runs, balanced.finals, balanced.credits, balanced.given, balanced.totals, fun id absent => ?_⟩
      obtain ⟨zero, rows, proposals⟩ := balanced.known id absent
      refine ⟨zero, rows, fun p member => ?_⟩
      rcases mem_insert member with rfl | stored
      · rintro rfl
        exact known (by simp [absent])
      · exact proposals p stored

theorem creditSearchEpisode_balanced (episodeId : String) (acceptedNovelEed : PyFloat) :
    Balanced (fun id => explicit id +
        Event.gives id (.enter (.creditSearchEpisode episodeId acceptedNovelEed)) (creditSearchEpisode s episodeId acceptedNovelEed).1)
      (creditSearchEpisode s episodeId acceptedNovelEed).2 := by
  have refused (err : PyError) : Balanced (fun id => explicit id +
      Event.gives id (.enter (.creditSearchEpisode episodeId acceptedNovelEed)) (.error err)) s := by
    simpa only [Event.gives, add_zero] using balanced
  unfold creditSearchEpisode
  split
  · exact refused _
  · rename_i amount reading
    split
    · exact refused _
    · rename_i stored
      have given : ∀ id, Event.gives id (.enter (.creditSearchEpisode episodeId acceptedNovelEed)) (.ok ()) = only episodeId amount id := by
        intro id
        simp only [Event.gives, reading, Option.getD_some]
      have nonneg := (finiteReading_nonneg reading).2
      simp only [given]
      refine ⟨balanced.runs, balanced.finals, balanced.credits, fun id => ?_, fun e member => ?_, fun id absent => ?_⟩
      · have before := balanced.given id
        unfold only
        split
        · linarith
        · linarith
      · obtain ⟨old, stored, ⟨here, rfl⟩ | ⟨apart, rfl⟩⟩ := mem_update member
        · have before := balanced.totals old stored
          rw [decide_eq_true_eq] at here
          simp only [before, only, if_pos here]
          ring
        · have before := balanced.totals e stored
          rw [decide_eq_false_iff_not] at apart
          simp only [before, only, if_neg apart, add_zero]
      · rw [Table.get?_update, Option.map_eq_none_iff] at absent
        have apart : id ≠ episodeId := by
          rintro rfl
          exact stored (by simp [absent])
        obtain ⟨zero, rest⟩ := balanced.known id absent
        exact ⟨by rw [zero, only, if_neg apart, add_zero], rest⟩

theorem step_exact (e : Event) {clamp : ℚ → ℚ} (harmless : Harmless clamp) :
    Exact (fun id => explicit id + e.gives id (step clamp s e).1) fun clamp => (step clamp s e).2 := by
  have silent {op : (ℚ → ℚ) → Registry} (exact_ : Exact explicit op) (zero : ∀ id, e.gives id (step clamp s e).1 = 0) :
      Exact (fun id => explicit id + e.gives id (step clamp s e).1) op := by
    simpa only [zero, add_zero] using exact_
  cases e with
  | enter entry =>
    cases entry with
    | beginSearchEpisode now strategy backend query actor episodeId =>
      exact silent (beginSearchEpisode_balanced balanced _ _ _ _ _ _).exact fun _ => rfl
    | finishSearchEpisode now episodeId searchCostSeconds acceptedProposals newSources =>
      exact silent (finishSearchEpisode_balanced balanced _ _ _ _ _).exact fun _ => rfl
    | creditSearchEpisode episodeId acceptedNovelEed => exact (creditSearchEpisode_balanced balanced _ _).exact
    | registerProposal now sourceKey episodeId proposalId =>
      exact silent (registerProposal_balanced balanced _ _ _ _).exact fun _ => rfl
    | writeRun op => exact silent (writeRun_balanced balanced op).exact fun _ => rfl
  | recordScoutMeasurement sourceKey measurement baselineSignature modelSignature =>
    exact silent (recordScoutMeasurement_exact balanced _ _ _ _) fun _ => rfl
  | recordFinalReward sourceKey finalAcceptedEed costSeconds baselineSignature modelSignature =>
    exact silent (recordFinalReward_exact balanced _ _ _ _ _) fun _ => rfl
  | closeSourceRun key exposure => exact silent (closeSourceRun_exact balanced _ _) fun _ => rfl
  | setScoutAuthority authority =>
    refine silent ?_ fun _ => rfl
    simp only [step, forget, setScoutAuthority]
    split
    · exact balanced.exact
    · split
      · exact balanced.exact
      · exact installAuthority_exact balanced authority
  | resetFinalRewards => exact silent (resetFinalRewards_exact balanced) fun _ => rfl

end

theorem step_balanced {explicit : String → ℚ} {s : Registry} (balanced : Balanced explicit s) (e : Event) :
    Balanced (fun id => explicit id + e.gives id (registry.step s e).1) (registry.step s e).2 ∧
      (registry.step s e).2 = (exactRegistry.step s e).2 := by
  obtain ⟨after, kept, same⟩ := step_exact balanced e harmless_maxZero
  have clamped : (registry.step s e).2 = after := same maxZero harmless_maxZero
  have free : (exactRegistry.step s e).2 = after := same id harmless_id
  rw [clamped, free]
  exact ⟨kept, rfl⟩

theorem run_balanced (es : List Event) : Balanced (explicitTotal (registry.trace es)) (registry.final es) := by
  induction es using List.reverseRecOn with
  | nil =>
    exact ⟨fun _ member => (nomatch member), fun _ member => (nomatch member), fun _ member => (nomatch member),
      fun _ => le_refl _, fun _ member => (nomatch member),
      fun _ _ => ⟨rfl, fun _ member => (nomatch member), fun _ member => (nomatch member)⟩⟩
  | append_singleton es e ih =>
    have grown : explicitTotal (registry.trace (es ++ [e])) =
        fun id => explicitTotal (registry.trace es) id + e.gives id (registry.step (registry.final es) e).1 := by
      funext id
      simp [explicitTotal]
    rw [grown, Machine.final_snoc]
    exact (step_balanced ih e).1

/-- An entry leaves the credits of sources, the final rewards and the authority. -/
theorem enter_apart (s : Registry) (entry : Entry) : (enter s entry).2.attributions = s.attributions ∧
    (enter s entry).2.finals = s.finals ∧ (enter s entry).2.authority = s.authority := by
  cases entry with
  | beginSearchEpisode now strategy backend query actor episodeId =>
    simp only [enter, beginSearchEpisode]
    split
    · exact ⟨rfl, rfl, rfl⟩
    · split <;> exact ⟨rfl, rfl, rfl⟩
  | finishSearchEpisode now episodeId searchCostSeconds acceptedProposals newSources =>
    simp only [enter, finishSearchEpisode]
    split
    · exact ⟨rfl, rfl, rfl⟩
    · split
      · exact ⟨rfl, rfl, rfl⟩
      · split
        · exact ⟨rfl, rfl, rfl⟩
        · split <;> exact ⟨rfl, rfl, rfl⟩
  | creditSearchEpisode episodeId acceptedNovelEed =>
    simp only [enter, creditSearchEpisode]
    split
    · exact ⟨rfl, rfl, rfl⟩
    · split <;> exact ⟨rfl, rfl, rfl⟩
  | registerProposal now sourceKey episodeId proposalId =>
    simp only [enter, registerProposal]
    split
    · exact ⟨rfl, rfl, rfl⟩
    · split <;> exact ⟨rfl, rfl, rfl⟩
  | writeRun op =>
    cases op with
    | begin key exposureId readStarted =>
      simp only [enter, writeRun]
      split <;> exact ⟨rfl, rfl, rfl⟩
    | read now key counters readFinished readComplete => exact ⟨rfl, rfl, rfl⟩
    | validation key v => exact ⟨rfl, rfl, rfl⟩
    | terminal key state reason => exact ⟨rfl, rfl, rfl⟩

theorem enter_runs (s : Registry) (entry : Entry) : (∃ op, entry = .writeRun op) ∨ (enter s entry).2.runs = s.runs := by
  cases entry with
  | beginSearchEpisode now strategy backend query actor episodeId =>
    refine .inr ?_
    simp only [enter, beginSearchEpisode]
    split
    · rfl
    · split <;> rfl
  | finishSearchEpisode now episodeId searchCostSeconds acceptedProposals newSources =>
    refine .inr ?_
    simp only [enter, finishSearchEpisode]
    split
    · rfl
    · split
      · rfl
      · split
        · rfl
        · split <;> rfl
  | creditSearchEpisode episodeId acceptedNovelEed =>
    refine .inr ?_
    simp only [enter, creditSearchEpisode]
    split
    · rfl
    · split <;> rfl
  | registerProposal now sourceKey episodeId proposalId =>
    refine .inr ?_
    simp only [enter, registerProposal]
    split
    · rfl
    · split <;> rfl
  | writeRun op => exact .inl ⟨op, rfl⟩

theorem enter_sound {s : Registry} (sound : SourceRuns.Sound s.runs) (entry : Entry) : SourceRuns.Sound (enter s entry).2.runs := by
  obtain ⟨op, rfl⟩ | same := enter_runs s entry
  · exact writeRun_sound sound op
  · rwa [same]

/-! ## Attribution rows -/

/-- An attribution row stays, with its episode. -/
def Keeps (t u : Attributions) : Prop :=
  ∀ sourceKey r, t.get? sourceKey = some r → ∃ r', u.get? sourceKey = some r' ∧ r'.episodeId = r.episodeId

theorem Keeps.refl (t : Attributions) : Keeps t t := fun _ r found => ⟨r, found, rfl⟩

theorem Keeps.trans {t u v : Attributions} (first : Keeps t u) (second : Keeps u v) : Keeps t v := by
  intro sourceKey r found
  obtain ⟨mid, there, same⟩ := first sourceKey r found
  obtain ⟨last, after, same'⟩ := second sourceKey mid there
  exact ⟨last, after, same'.trans same⟩

theorem keeps_insert (t : Attributions) (r : AttributionRow) : Keeps t (t.insert r) := by
  intro sourceKey old found
  refine ⟨old, ?_, rfl⟩
  rw [Table.get?_insert_or, found, Option.some_or]

theorem keeps_update (t : Attributions) {where_ : AttributionRow → Bool} {set : AttributionRow → AttributionRow}
    (keeps : ∀ r, (set r).sourceKey = r.sourceKey) (stays : ∀ r, (set r).episodeId = r.episodeId) :
    Keeps t (t.update where_ set keeps) := by
  intro sourceKey old found
  rw [Table.get?_update, found]
  refine ⟨_, rfl, ?_⟩
  dsimp only
  split
  · exact stays old
  · rfl

section
variable (clamp : ℚ → ℚ) (s : Registry)

theorem attributeSearchReward_keeps {t : Attributions} (same : s.attributions = t) (sourceKey : String) (offer : Offer) :
    Keeps t (attributeSearchReward clamp s sourceKey offer).attributions := by
  subst same
  unfold attributeSearchReward attributeOffer
  split
  · split
    · exact .refl _
    · exact keeps_insert _ _
  · exact keeps_update _ (by intro _; rfl) fun _ => rfl

theorem recordScoutMeasurement_keeps (sourceKey : String) (measurement : ScoutMeasurement)
    (baselineSignature modelSignature : Option String) : Keeps s.attributions
      (recordScoutMeasurement clamp s sourceKey measurement baselineSignature modelSignature).2.attributions := by
  unfold recordScoutMeasurement
  split
  · exact .refl _
  · split
    · exact .refl _
    · unfold measure
      dsimp only
      split
      · exact .refl _
      · split
        · exact attributeSearchReward_keeps clamp _ (by rfl) _ _
        · split
          · exact .refl _
          · exact .refl _

theorem closeSourceRun_keeps (key : RunKey) (exposure : Except PyError Bool) :
    Keeps s.attributions (closeSourceRun clamp s key exposure).2.attributions := by
  unfold closeSourceRun
  split
  · exact .refl _
  · split
    · exact .refl _
    · exact .refl _
    · unfold closeRun
      split
      · exact .refl _
      · split
        · exact .refl _
        · unfold publishSourceAggregate
          dsimp only
          split
          · exact .refl _
          · exact attributeSearchReward_keeps clamp _ (by rfl) _ _

theorem step_keeps (e : Event) : Keeps s.attributions (step clamp s e).2.attributions := by
  cases e with
  | enter entry =>
    have apart := (enter_apart s entry).1
    exact apart.symm ▸ Keeps.refl _
  | recordScoutMeasurement sourceKey measurement baselineSignature modelSignature =>
    exact recordScoutMeasurement_keeps clamp s _ _ _ _
  | recordFinalReward sourceKey finalAcceptedEed costSeconds baselineSignature modelSignature =>
    simp only [step, recordFinalReward]
    repeat' split
    all_goals first | exact .refl _ | exact attributeSearchReward_keeps clamp _ (by rfl) _ _
  | closeSourceRun key exposure => exact closeSourceRun_keeps clamp s _ _
  | setScoutAuthority authority =>
    simp only [step, forget, setScoutAuthority]
    repeat' split
    all_goals first | exact .refl _ | exact keeps_update _ (by intro _; rfl) fun _ => rfl
  | resetFinalRewards => exact keeps_update _ (by intro _; rfl) fun _ => rfl

theorem run_keeps (es : List Event) : Keeps s.attributions ((machine clamp).finalFrom s es).attributions :=
  (machine clamp).invariant_from (I := fun u => Keeps s.attributions u.attributions)
    (fun u e before => before.trans (step_keeps clamp u e)) (.refl _) es

end

/-- What holds of the search credit after a run. -/
structure CreditConserved (es : List Event) : Prop where
  /-- Every episode has its explicit credits and what is attributed to it. -/
  totals : ∀ e ∈ (registry.final es).episodes.rows, e.acceptedNovelEed =
    explicitTotal (registry.trace es) e.episodeId + credited (registry.final es).attributions e.episodeId
  /-- A source has one attribution row at most. -/
  single : ∀ r ∈ (registry.final es).attributions.rows, ∀ r' ∈ (registry.final es).attributions.rows,
    r.sourceKey = r'.sourceKey → r = r'
  /-- Its episode stays for the rest of the run. -/
  stays : ∀ before after, es = before ++ after → ∀ r ∈ (registry.final before).attributions.rows,
    ∃ r' ∈ (registry.final es).attributions.rows, r'.sourceKey = r.sourceKey ∧ r'.episodeId = r.episodeId
  /-- No clamp ever changes a value. -/
  unclamped : registry.final es = exactRegistry.final es

/-- The credit of every search episode is conserved in every run. -/
theorem credit_conserved (es : List Event) : CreditConserved es where
  totals := (run_balanced es).totals
  single := fun _ member _ member' same => Table.row_unique member member' same
  stays := by
    rintro before after rfl r member
    have kept := run_keeps maxZero (registry.final before) after
    obtain ⟨r', found, same⟩ := kept r.sourceKey r (Table.get?_mem member)
    rw [Machine.final_append]
    obtain ⟨member', name⟩ := Table.get?_eq_some.mp found
    exact ⟨r', member', name, same⟩
  unclamped := Machine.lockstep exactRegistry registry rfl es fun before e _ _ together => by
    rw [← together]
    exact (step_balanced (run_balanced before) e).2

end Creeper.SearchCredit
