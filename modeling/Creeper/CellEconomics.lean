import Creeper.SearchCredit
import Creeper.TableSums

/-!
# Economics of search cells

`source_discovery/residual_search.py`, `residual_atomic.py` and `residual_recovery.py`: every search
episode of a residual cell is bound to the cell, and what the episode earns is carried over to the cell
by differences, when the rewards are reconciled. A change of the search profile and the recovery after
a restart reopen cells and forget their episodes.
-/

namespace Creeper.CellEconomics
open Creeper.Runs Creeper.Tables Creeper.TableSums Creeper.PyNumbers Creeper.PyText
open Creeper.FabricModels (PyError blank)
open Creeper.EvidenceTasks (finiteReading finiteReading_nonneg)
open Creeper.SearchCredit (EpisodeRow Episodes Registry maxZero)

/-! ## Tables -/

inductive SearchCellState
  | opened
  | active
  | saturated
  | exhausted
  deriving DecidableEq, Repr

/-- A row of `residual_search_cells`. -/
structure CellRow where
  cellKey : String
  state : SearchCellState
  attempts : Nat
  resultCount : Nat
  duplicateResults : Nat
  uniqueRoots : Nat
  newFamilies : Nat
  qualifiedRoots : Nat
  acceptedNovelEed : ℚ
  searchCostSeconds : ℚ
  variantCursor : Nat
  lastSearchedAt : Option ℚ
  updatedAt : ℚ
  deriving DecidableEq

/-- A row of `residual_search_episode_cells`. -/
structure BindingRow where
  episodeId : String
  cellKey : String
  creditedEed : ℚ
  updatedAt : ℚ
  deriving DecidableEq

abbrev Cells := Table CellRow String (·.cellKey)
abbrev Bindings := Table BindingRow String (·.episodeId)

/-- The registry of sources with the tables of the residual search beside it. -/
structure Ledger where
  registry : Registry
  cells : Cells
  bindings : Bindings
  /-- The values of `residual_search_meta`. -/
  searchProfile : Option String
  protocolRevision : Option String
  /-- The keys of `fabric_domain_commits`. -/
  domainCommits : List String

def Ledger.empty : Ledger := ⟨.empty, .empty, .empty, none, none, []⟩

inductive Answer
  | done
  | committed
  | replayed
  | reconciled (updates : Nat) (delta : ℚ)
  | reset (changed : Bool)
  deriving DecidableEq

abbrev Reply := Except PyError Answer × Ledger

/-! ## Cells -/

/-- `ensure_cell`. -/
def ensureCell (t : Cells) (cellKey : String) (now : ℚ) : Cells := t.insert ⟨cellKey, .opened, 0, 0, 0, 0, 0, 0, 0, 0, 0, none, now⟩

/-- A cell as a reset leaves it. -/
def CellRow.reopened (c : CellRow) (now : ℚ) : CellRow := ⟨c.cellKey, .opened, 0, 0, 0, 0, 0, 0, 0, 0, 0, none, now⟩

theorem CellRow.reopened_cellKey (c : CellRow) (now : ℚ) : (c.reopened now).cellKey = c.cellKey := rfl

/-- What the identity ledger says about a result, and whether it is qualified. -/
structure Registration where
  newFamily : Bool
  newDataset : Bool
  qualified : Bool
  deriving DecidableEq

structure Counts where
  resultCount : Nat
  duplicateResults : Nat
  uniqueRoots : Nat
  newFamilies : Nat
  qualifiedRoots : Nat

/-- The counters after the loop over the results of a batch. -/
def countsOf (results : List Registration) : Counts where
  resultCount := results.length
  duplicateResults := results.countP (!·.newFamily)
  uniqueRoots := results.countP (·.newDataset)
  newFamilies := results.countP (·.newFamily)
  qualifiedRoots := results.countP fun r => r.qualified && r.newDataset

def CellRow.searched (c : CellRow) (counts : Counts) (acceptedNovelEed searchCostSeconds now : ℚ) : CellRow := { c with
  state := .active
  attempts := c.attempts + 1
  resultCount := c.resultCount + counts.resultCount
  duplicateResults := c.duplicateResults + counts.duplicateResults
  uniqueRoots := c.uniqueRoots + counts.uniqueRoots
  newFamilies := c.newFamilies + counts.newFamilies
  qualifiedRoots := c.qualifiedRoots + counts.qualifiedRoots
  acceptedNovelEed := c.acceptedNovelEed + acceptedNovelEed
  searchCostSeconds := c.searchCostSeconds + searchCostSeconds
  variantCursor := c.variantCursor + 1
  lastSearchedAt := some now
  updatedAt := now }

theorem CellRow.searched_cellKey (c : CellRow) (counts : Counts) (acceptedNovelEed searchCostSeconds now : ℚ) :
    (c.searched counts acceptedNovelEed searchCostSeconds now).cellKey = c.cellKey := rfl

/-- `ResidualSearchPolicy`, with the length of the query program of each cell. -/
structure Policy where
  saturationMinAttempts : Nat
  saturationMinResults : Nat
  saturationDuplicateFraction : ℚ
  saturationMaxNewFamilyFraction : ℚ
  saturationMaxQualifiedFraction : ℚ
  queryProgramLength : String → Nat

/-- `min(1.0, part / whole)`. -/
def fraction (part whole : Nat) : ℚ := min 1 (part / whole)

/-- `_should_saturate` and `_should_saturate_locked`. -/
def Policy.shouldSaturate (p : Policy) (c : CellRow) : Bool :=
  if c.resultCount = 0 then p.queryProgramLength c.cellKey ≤ c.attempts
  else if c.attempts < p.saturationMinAttempts || c.resultCount < p.saturationMinResults then false
  else
    p.saturationDuplicateFraction ≤ fraction c.duplicateResults c.resultCount &&
        fraction c.newFamilies c.resultCount ≤ p.saturationMaxNewFamilyFraction ||
      fraction c.qualifiedRoots c.resultCount ≤ p.saturationMaxQualifiedFraction

/-- The cell of a batch after the batch. -/
def recordCell (p : Policy) (t : Cells) (cellKey : String) (counts : Counts) (acceptedNovelEed searchCostSeconds now : ℚ) : Cells :=
  (t.update (fun c => c.cellKey = cellKey) (·.searched counts acceptedNovelEed searchCostSeconds now) (·.searched_cellKey _ _ _ _)).update
    (fun c => c.cellKey = cellKey && p.shouldSaturate c) (fun c => { c with state := .saturated, updatedAt := now })

/-- `mark_exhausted`. -/
def markExhausted (s : Ledger) (cellKey : String) (now : ℚ) : Reply :=
  (.ok .done, { s with
    cells := (ensureCell s.cells cellKey now).update (fun c => c.cellKey = cellKey) (fun c => { c with
      state := .exhausted
      updatedAt := now }) })

/-! ## Batches -/

/-- The arguments of `commit_deterministic_residual_batch`, with what the loop over the results finds. -/
structure Batch where
  episodeId : String
  cellKey : String
  mechanism : String
  backend : String
  query : String
  actor : String
  results : List Registration
  /-- The source and the key of each proposal that is registered. -/
  proposals : List (String × String)
  newSources : Nat
  searchCostSeconds : PyFloat
  candidateCap : Int
  idempotencyKey : Option String
  startedAt : ℚ
  cellNow : ℚ
  finishedAt : ℚ

def residualStrategy (mechanism : String) : String := "RESIDUAL_CELL:" ++ mechanism

/-- The proposals of a batch, of which each goes into a transaction that one failure undoes. -/
def registerProposals (episodeId : String) (now : ℚ) : Registry → List (String × String) → Except PyError Registry
  | s, [] => .ok s
  | s, (sourceKey, proposalId) :: rest =>
    match SearchCredit.registerProposal s now sourceKey (some episodeId) proposalId with
    | (.error e, _) => .error e
    | (.ok _, after) => registerProposals episodeId now after rest

def closeEpisode (t : Episodes) (b : Batch) (cost : ℚ) : Episodes := t.update (fun e => e.episodeId = b.episodeId) (fun e => { e with
  finishedAt := some b.finishedAt
  searchCostSeconds := cost
  acceptedProposals := b.proposals.length
  newSources := b.newSources })

def commitBatch (p : Policy) (s : Ledger) (b : Batch) (cost : ℚ) : Reply :=
  if (s.registry.episodes.get? b.episodeId).isSome || (s.bindings.get? b.episodeId).isSome then (.error .integrityError, s)
  else
    let begun := { s.registry with
      episodes := s.registry.episodes.insert
        ⟨b.episodeId, residualStrategy b.mechanism, b.backend, b.query, b.actor, b.startedAt, none, 0, 0, 0, 0⟩ }
    match registerProposals b.episodeId b.startedAt begun b.proposals with
    | .error e => (.error e, s)
    | .ok proposed => (.ok .committed, { s with
        registry := { proposed with episodes := closeEpisode proposed.episodes b cost }
        cells := recordCell p (ensureCell s.cells b.cellKey b.cellNow) b.cellKey (countsOf b.results) 0 cost b.cellNow
        bindings := s.bindings.insert ⟨b.episodeId, b.cellKey, 0, b.cellNow⟩
        domainCommits := s.domainCommits ++ b.idempotencyKey.toList })

/-- `commit_deterministic_residual_batch`. -/
def commitDeterministicResidualBatch (p : Policy) (s : Ledger) (b : Batch) : Reply :=
  match finiteReading b.searchCostSeconds with
  | none => (.error (.valueError "search_cost_seconds must be finite and non-negative"), s)
  | some cost =>
    if b.candidateCap < 1 then (.error (.valueError "candidate_cap must be a positive integer"), s)
    else if b.idempotencyKey.any blank then (.error (.valueError "idempotency_key must be a non-empty string when provided"), s)
    else if b.idempotencyKey.any (· ∈ s.domainCommits) then (.ok .replayed, s)
    else commitBatch p s b cost

/-! ## Batches in steps -/

/-- `bind_search_episode`. -/
def bindSearchEpisode (s : Ledger) (cellKey episodeId : String) (now : ℚ) : Reply :=
  if blank episodeId then (.error (.valueError "episode_id must be non-empty"), s)
  else
    let ensured := { s with cells := ensureCell s.cells cellKey now }
    match s.registry.episodes.get? episodeId with
    | none => (.error (.keyError ("unknown search episode: " ++ episodeId)), ensured)
    | some episode => (.ok .done, { ensured with
        bindings := s.bindings.upsert ⟨episodeId, cellKey, episode.acceptedNovelEed, now⟩ (fun old => { old with
          cellKey := cellKey
          creditedEed := episode.acceptedNovelEed
          updatedAt := now }) })

/-- The start of a batch that is not one transaction: an episode, and its binding. -/
def openEpisode (s : Ledger) (now : ℚ) (mechanism backend query actor episodeId cellKey : String) : Reply :=
  match SearchCredit.beginSearchEpisode s.registry now (residualStrategy mechanism) backend query actor episodeId with
  | (.error e, _) => (.error e, s)
  | (.ok _, begun) => bindSearchEpisode { s with registry := begun } cellKey episodeId now

/-- `record_episode`, with the counts of a batch. -/
def recordEpisode (p : Policy) (s : Ledger) (cellKey : String) (results : List Registration) (searchCostSeconds : PyFloat)
    (now : ℚ) : Reply :=
  match finiteReading searchCostSeconds with
  | none => (.error (.valueError "search_cost_seconds must be finite and non-negative"), s)
  | some cost => (.ok .committed, { s with
      cells := recordCell p (ensureCell s.cells cellKey now) cellKey (countsOf results) 0 cost now })

/-! ## Rewards -/

/-- `1e-12`. -/
def threshold : ℚ := 1 / 10 ^ 12

/-- A binding with the reward that its episode was read with. -/
def rewardOf (s : Ledger) (b : BindingRow) : Option (BindingRow × ℚ) :=
  ((s.registry.episodes.get? b.episodeId).filter fun e => threshold < |e.acceptedNovelEed - b.creditedEed|).map fun e =>
    (b, e.acceptedNovelEed)

/-- The rows that `reconcile_search_rewards` reads. -/
def pending (s : Ledger) : List (BindingRow × ℚ) := s.bindings.rows.filterMap (rewardOf s)

section
variable (clamp : ℚ → ℚ)

def carryOver (now : ℚ) (s : Ledger) (row : BindingRow × ℚ) : Ledger := { s with
  cells := s.cells.update (fun c => c.cellKey = row.1.cellKey) (fun c => { c with
    acceptedNovelEed := clamp (c.acceptedNovelEed + (row.2 - row.1.creditedEed))
    updatedAt := now })
  bindings := s.bindings.update (fun b => b.episodeId = row.1.episodeId) (fun b => { b with creditedEed := row.2, updatedAt := now }) }

def registryAfter (s : Registry) (calls : List SearchCredit.Event) : Registry :=
  calls.foldl (fun s e => (SearchCredit.step maxZero s e).2) s

/-- `reconcile_search_rewards`, when other processes call the registry between its reading and its transaction. -/
def reconcileSearchRewards (s : Ledger) (now : ℚ) (between : List SearchCredit.Event) : Reply :=
  let rows := pending s
  let met := { s with registry := registryAfter s.registry between }
  (.ok (.reconciled rows.length (rows.map fun row => row.2 - row.1.creditedEed).sum), rows.foldl (carryOver clamp now) met)

/-! ## Resets -/

/-- Every cell reopened, without episodes. -/
def resetAll (s : Ledger) (now : ℚ) : Ledger := { s with
  cells := s.cells.update (fun _ => true) (·.reopened now) (·.reopened_cellKey now)
  bindings := .empty }

/-- `ensure_search_profile`. -/
def ensureSearchProfile (s : Ledger) (signature : String) (now : ℚ) : Reply :=
  if blank signature then (.error (.valueError "search profile signature must be non-empty"), s)
  else
    let installed := "residual-query-program-v3|" ++ strip signature
    if s.searchProfile = some installed then (.ok (.reset false), s)
    else if s.searchProfile = none then (.ok (.reset false), { s with searchProfile := some installed })
    else (.ok (.reset true), { resetAll s now with searchProfile := some installed })

def residualProtocolRevision : String := "residual-provider-completion-v2"

/-- `strategy LIKE 'RESIDUAL_CELL:%'`: letters of either case, and any character for the underscore. -/
def isResidual (strategy : String) : Bool :=
  14 ≤ strategy.length && ("RESIDUAL_CELL:".toList.zip strategy.toList).all fun (wanted, c) => wanted = '_' || wanted.toLower = c.toLower

/-- The residual episodes that were begun and not finished. -/
def dirtyEpisodes (s : Ledger) : List String :=
  (s.registry.episodes.rows.filter fun e => isResidual e.strategy && e.finishedAt.isNone).map (·.episodeId)

def dirtyCells (s : Ledger) : List String := (s.bindings.rows.filter fun b => b.episodeId ∈ dirtyEpisodes s).map (·.cellKey)

def resetCells (s : Ledger) (keys : List String) (now : ℚ) : Ledger := { s with
  cells := s.cells.update (fun c => c.cellKey ∈ keys) (·.reopened now) (·.reopened_cellKey now)
  bindings := s.bindings.delete (fun b => b.cellKey ∈ keys) }

/-- Episodes deleted with what refers to them. -/
def dropEpisodes (s : Ledger) (ids : List String) : Ledger := { s with
  registry := { s.registry with
    proposals := s.registry.proposals.delete (fun p => p.episodeId.any (· ∈ ids))
    attributions := s.registry.attributions.delete (fun a => a.episodeId ∈ ids)
    episodes := s.registry.episodes.delete (fun e => e.episodeId ∈ ids) }
  bindings := s.bindings.delete (fun b => b.episodeId ∈ ids) }

def protocolReset (s : Ledger) : Bool := s.protocolRevision ≠ some residualProtocolRevision

/-- `recover_residual_protocol_state`. -/
def recoverResidualProtocolState (s : Ledger) (now : ℚ) : Reply :=
  if !protocolReset s && dirtyEpisodes s = [] then (.ok (.reset false), s)
  else
    let reset := if protocolReset s then resetAll s now else resetCells s (dirtyCells s) now
    (.ok (.reset true), { dropEpisodes reset (dirtyEpisodes s) with protocolRevision := some residualProtocolRevision })

/-! ## Histories -/

inductive Event
  | registry (call : SearchCredit.Event)
  | ensureCell (cellKey : String) (now : ℚ)
  | markExhausted (cellKey : String) (now : ℚ)
  | commit (batch : Batch)
  | openEpisode (now : ℚ) (mechanism backend query actor episodeId cellKey : String)
  | recordEpisode (cellKey : String) (results : List Registration) (searchCostSeconds : PyFloat) (now : ℚ)
  | reconcile (now : ℚ) (between : List SearchCredit.Event)
  | ensureSearchProfile (signature : String) (now : ℚ)
  | recover (now : ℚ)

variable (p : Policy)

def step (s : Ledger) : Event → Reply
  | .registry call => ((SearchCredit.step maxZero s.registry call).1.map fun _ => .done,
      { s with registry := (SearchCredit.step maxZero s.registry call).2 })
  | .ensureCell cellKey now => (.ok .done, { s with cells := CellEconomics.ensureCell s.cells cellKey now })
  | .markExhausted cellKey now => CellEconomics.markExhausted s cellKey now
  | .commit batch => commitDeterministicResidualBatch p s batch
  | .openEpisode now mechanism backend query actor episodeId cellKey =>
    CellEconomics.openEpisode s now mechanism backend query actor episodeId cellKey
  | .recordEpisode cellKey results searchCostSeconds now => CellEconomics.recordEpisode p s cellKey results searchCostSeconds now
  | .reconcile now between => reconcileSearchRewards clamp s now between
  | .ensureSearchProfile signature now => CellEconomics.ensureSearchProfile s signature now
  | .recover now => recoverResidualProtocolState s now

/-- The ledger with a clamp in the totals of its cells. -/
def machine : Machine Ledger Event (Except PyError Answer) where
  initial := .empty
  step := step clamp p

def resets (cellKey : String) (r : Step Ledger Event (Except PyError Answer)) : Bool :=
  match r.event, r.outcome with
  | .ensureSearchProfile _ _, .ok (.reset true) => true
  | .recover _, .ok (.reset true) => protocolReset r.before || cellKey ∈ dirtyCells r.before
  | _, _ => false

/-- A call answered that it committed a batch of a cell. -/
def commits (cellKey : String) (r : Step Ledger Event (Except PyError Answer)) : Bool :=
  match r.event, r.outcome with
  | .commit batch, .ok .committed => batch.cellKey = cellKey
  | .recordEpisode key _ _ _, .ok .committed => key = cellKey
  | _, _ => false

/-- The count of batches after one more call. -/
def tally (cellKey : String) (n : Nat) (r : Step Ledger Event (Except PyError Answer)) : Nat :=
  if resets cellKey r then 0 else if commits cellKey r then n + 1 else n

/-- The batches committed for a cell since its last reset. -/
def batchesSince (cellKey : String) (trace : List (Step Ledger Event (Except PyError Answer))) : Nat := trace.foldl (tally cellKey) 0

end

def creditedTo (t : Bindings) (cellKey : String) : ℚ := total (fun b => if b.cellKey = cellKey then b.creditedEed else 0) t

/-! ## Rewards of episodes -/

/-- Every episode stays, and none gets a negative reward. -/
structure Spreads (t u : Episodes) : Prop where
  stored : ∀ id, (t.get? id).isSome → (u.get? id).isSome
  nonneg : (∀ e ∈ t.rows, 0 ≤ e.acceptedNovelEed) → ∀ e ∈ u.rows, 0 ≤ e.acceptedNovelEed

namespace Spreads

theorem refl (t : Episodes) : Spreads t t := ⟨fun _ there => there, fun nonneg => nonneg⟩

theorem trans {t u v : Episodes} (first : Spreads t u) (second : Spreads u v) : Spreads t v :=
  ⟨fun id there => second.stored id (first.stored id there), fun nonneg => second.nonneg (first.nonneg nonneg)⟩

theorem update (t : Episodes) {where_ : EpisodeRow → Bool} {set : EpisodeRow → EpisodeRow}
    (keeps : ∀ e, (set e).episodeId = e.episodeId)
    (nonneg : ∀ e, 0 ≤ e.acceptedNovelEed → 0 ≤ (set e).acceptedNovelEed) : Spreads t (t.update where_ set keeps) where
  stored id there := by rwa [Table.isSome_update]
  nonneg before e member := by
    obtain ⟨old, stored, ⟨-, rfl⟩ | ⟨-, rfl⟩⟩ := mem_update member
    · exact nonneg old (before old stored)
    · exact before e stored

theorem insert (t : Episodes) {row : EpisodeRow} (nonneg : 0 ≤ row.acceptedNovelEed) : Spreads t (t.insert row) where
  stored id there := by
    rw [Table.get?_insert_or, Option.isSome_or, there]
    rfl
  nonneg before e member := by
    rcases mem_insert member with rfl | stored
    · exact nonneg
    · exact before e stored

theorem adjust (t : Episodes) (episodeId : String) (delta : ℚ) : Spreads t (SearchCredit.adjust maxZero t episodeId delta) :=
  .update t (by exact fun _ => rfl) fun _ _ => le_max_left _ _

theorem settle (t : Episodes) (episodeId : String) (delta : ℚ) : Spreads t (SearchCredit.settle maxZero t episodeId delta) := by
  unfold SearchCredit.settle
  split
  · exact .refl t
  · exact .adjust t episodeId delta

theorem takeBack (t : Episodes) (credits : List (String × ℚ)) : Spreads t (SearchCredit.takeBack maxZero t credits) := by
  induction credits generalizing t with
  | nil => exact .refl t
  | cons credit rest ih => exact (adjust t credit.1 (-credit.2)).trans (ih _)

end Spreads

theorem attributeSearchReward_spreads (s : Registry) {t : Episodes} (same : s.episodes = t) (sourceKey : String)
    (offer : SearchCredit.Offer) : Spreads t (SearchCredit.attributeSearchReward maxZero s sourceKey offer).episodes := by
  subst same
  unfold SearchCredit.attributeSearchReward SearchCredit.attributeOffer
  split
  · split
    · exact .refl _
    · exact .settle _ _ _
  · exact .settle _ _ _

theorem enter_spreads (s : Registry) (entry : SearchCredit.Entry) : Spreads s.episodes (SearchCredit.enter s entry).2.episodes := by
  cases entry with
  | beginSearchEpisode now strategy backend query actor episodeId =>
    simp only [SearchCredit.enter, SearchCredit.beginSearchEpisode]
    split
    · exact .refl _
    · split
      · exact .refl _
      · exact .insert _ le_rfl
  | finishSearchEpisode now episodeId searchCostSeconds acceptedProposals newSources =>
    simp only [SearchCredit.enter, SearchCredit.finishSearchEpisode]
    split
    · exact .refl _
    · split
      · exact .refl _
      · split
        · exact .refl _
        · split
          · exact .refl _
          · exact .update _ (by exact fun _ => rfl) fun _ nonneg => nonneg
  | creditSearchEpisode episodeId acceptedNovelEed =>
    simp only [SearchCredit.enter, SearchCredit.creditSearchEpisode]
    split
    · exact .refl _
    · rename_i amount reading
      split
      · exact .refl _
      · exact .update _ (by exact fun _ => rfl) fun _ nonneg => add_nonneg nonneg (finiteReading_nonneg reading).2
  | registerProposal now sourceKey episodeId proposalId =>
    simp only [SearchCredit.enter, SearchCredit.registerProposal]
    split
    · exact .refl _
    · split <;> exact .refl _
  | writeRun op =>
    cases op with
    | begin key exposureId readStarted =>
      simp only [SearchCredit.enter, SearchCredit.writeRun]
      split <;> exact .refl _
    | read now key counters readFinished readComplete => exact .refl _
    | validation key v => exact .refl _
    | terminal key state reason => exact .refl _

theorem closeSourceRun_spreads (s : Registry) (key : SourceRuns.RunKey) (exposure : Except PyError Bool) :
    Spreads s.episodes (SearchCredit.closeSourceRun maxZero s key exposure).2.episodes := by
  unfold SearchCredit.closeSourceRun
  split
  · exact .refl _
  · split
    · exact .refl _
    · exact .refl _
    · unfold SearchCredit.closeRun
      split
      · exact .refl _
      · split
        · exact .refl _
        · unfold SearchCredit.publishSourceAggregate
          dsimp only
          split
          · exact .refl _
          · exact attributeSearchReward_spreads _ (by rfl) _ _

theorem registry_spreads (s : Registry) (call : SearchCredit.Event) : Spreads s.episodes (SearchCredit.step maxZero s call).2.episodes := by
  cases call with
  | enter entry => exact enter_spreads s entry
  | recordScoutMeasurement sourceKey measurement baselineSignature modelSignature =>
    simp only [SearchCredit.step, SearchCredit.forget, SearchCredit.recordScoutMeasurement]
    split
    · exact .refl _
    · split
      · exact .refl _
      · unfold SearchCredit.measure
        dsimp only
        split
        · exact .refl _
        · split
          · exact attributeSearchReward_spreads _ (by rfl) _ _
          · split <;> exact .refl _
  | recordFinalReward sourceKey finalAcceptedEed costSeconds baselineSignature modelSignature =>
    simp only [SearchCredit.step, SearchCredit.recordFinalReward]
    split
    · split
      · exact .refl _
      · split
        · exact .refl _
        · exact attributeSearchReward_spreads _ (by rfl) _ _
    · exact .refl _
  | closeSourceRun key exposure => exact closeSourceRun_spreads s key exposure
  | setScoutAuthority authority =>
    simp only [SearchCredit.step, SearchCredit.forget, SearchCredit.setScoutAuthority]
    split
    · exact .refl _
    · split
      · exact .refl _
      · exact .takeBack _ _
  | resetFinalRewards => exact .takeBack _ _

theorem registryAfter_spreads (s : Registry) (calls : List SearchCredit.Event) : Spreads s.episodes (registryAfter s calls).episodes := by
  induction calls generalizing s with
  | nil => exact .refl _
  | cons call rest ih => exact (registry_spreads s call).trans (ih _)

theorem registerProposals_episodes {episodeId : String} {now : ℚ} {proposals : List (String × String)} {s after : Registry}
    (registered : registerProposals episodeId now s proposals = .ok after) : after.episodes = s.episodes := by
  induction proposals generalizing s with
  | nil =>
    cases registered
    rfl
  | cons proposal rest ih =>
    obtain ⟨sourceKey, proposalId⟩ := proposal
    unfold registerProposals at registered
    split at registered
    · cases registered
    · rename_i met once
      rw [ih registered]
      unfold SearchCredit.registerProposal at once
      split at once
      · cases once
      · split at once
        · cases once
        · cases once
          rfl

/-! ## Totals of cells -/

/-- Every cell is there as before, with the same reward, or it is new and has none. -/
structure Recounts (t u : Cells) : Prop where
  stored : ∀ k, (t.get? k).isSome → (u.get? k).isSome
  rewards : ∀ c ∈ u.rows, (∃ old ∈ t.rows, c.cellKey = old.cellKey ∧ c.acceptedNovelEed = old.acceptedNovelEed) ∨
    t.get? c.cellKey = none ∧ c.acceptedNovelEed = 0

namespace Recounts

theorem trans {t u v : Cells} (first : Recounts t u) (second : Recounts u v) : Recounts t v where
  stored k there := second.stored k (first.stored k there)
  rewards c member := by
    obtain ⟨mid, between, name, same⟩ | ⟨absent, zero⟩ := second.rewards c member
    · rw [name, same]
      exact first.rewards mid between
    · refine .inr ⟨?_, zero⟩
      cases before : t.get? c.cellKey with
      | none => rfl
      | some old =>
        have after := first.stored c.cellKey (by rw [before]; rfl)
        rw [absent] at after
        cases after

theorem update (t : Cells) {where_ : CellRow → Bool} {set : CellRow → CellRow} (keeps : ∀ c, (set c).cellKey = c.cellKey)
    (same : ∀ c, (set c).acceptedNovelEed = c.acceptedNovelEed) : Recounts t (t.update where_ set keeps) where
  stored k there := by rwa [Table.isSome_update]
  rewards c member := by
    obtain ⟨old, stored, ⟨-, rfl⟩ | ⟨-, rfl⟩⟩ := mem_update member
    · exact .inl ⟨old, stored, keeps old, same old⟩
    · exact .inl ⟨c, stored, rfl, rfl⟩

theorem ensureCell (t : Cells) (cellKey : String) (now : ℚ) : Recounts t (CellEconomics.ensureCell t cellKey now) where
  stored k there := by
    unfold CellEconomics.ensureCell
    rw [Table.get?_insert_or, Option.isSome_or, there]
    rfl
  rewards c member := by
    unfold CellEconomics.ensureCell at member
    cases before : t.get? cellKey with
    | none =>
      rcases mem_insert member with rfl | stored
      · exact .inr ⟨before, rfl⟩
      · exact .inl ⟨c, stored, rfl, rfl⟩
    | some old =>
      rcases mem_insert member with rfl | stored
      · have taken : cellKey ∈ t.rows.map (·.cellKey) := List.mem_map.mpr ⟨old, Table.get?_eq_some.mp before⟩
        rw [Table.insert, dif_pos taken] at member
        exact .inl ⟨_, member, rfl, rfl⟩
      · exact .inl ⟨c, stored, rfl, rfl⟩

theorem recordCell (p : Policy) (t : Cells) (cellKey : String) (counts : Counts) (cost now : ℚ) :
    Recounts t (CellEconomics.recordCell p t cellKey counts 0 cost now) :=
  (update t (by exact fun _ => rfl) fun c => add_zero c.acceptedNovelEed).trans (update _ (by exact fun _ => rfl) fun _ => rfl)

end Recounts

/-- Every cell has what its bindings are credited with. -/
structure Sums (s : Ledger) : Prop where
  known : ∀ b ∈ s.bindings.rows, (s.registry.episodes.get? b.episodeId).isSome
  celled : ∀ b ∈ s.bindings.rows, (s.cells.get? b.cellKey).isSome
  rewards : ∀ e ∈ s.registry.episodes.rows, 0 ≤ e.acceptedNovelEed
  credits : ∀ b ∈ s.bindings.rows, 0 ≤ b.creditedEed
  totals : ∀ c ∈ s.cells.rows, c.acceptedNovelEed = creditedTo s.bindings c.cellKey

section
variable {s : Ledger}

theorem creditedTo_absent (sums : Sums s) {cellKey : String} (absent : s.cells.get? cellKey = none) :
    creditedTo s.bindings cellKey = 0 := by
  refine total_zero _ fun b member => if_neg ?_
  rintro rfl
  have there := sums.celled b member
  rw [absent] at there
  cases there

namespace Sums

theorem recount (sums : Sums s) {cells : Cells} (recounts : Recounts s.cells cells) : Sums { s with cells } where
  known := sums.known
  celled b member := recounts.stored _ (sums.celled b member)
  rewards := sums.rewards
  credits := sums.credits
  totals c member := by
    obtain ⟨old, stored, name, same⟩ | ⟨absent, zero⟩ := recounts.rewards c member
    · rw [name, same]
      exact sums.totals old stored
    · rw [zero]
      exact (creditedTo_absent sums absent).symm

theorem withRegistry (sums : Sums s) (registry : Registry) (spreads : Spreads s.registry.episodes registry.episodes) :
    Sums { s with registry } where
  known b member := spreads.stored _ (sums.known b member)
  celled := sums.celled
  rewards := spreads.nonneg sums.rewards
  credits := sums.credits
  totals := sums.totals

theorem bind (sums : Sums s) {b : BindingRow} (fresh : s.bindings.get? b.episodeId = none)
    (known : (s.registry.episodes.get? b.episodeId).isSome) (celled : (s.cells.get? b.cellKey).isSome) (zero : b.creditedEed = 0) :
    Sums { s with bindings := s.bindings.insert b } where
  known o member := by
    rcases mem_insert member with rfl | stored
    · exact known
    · exact sums.known o stored
  celled o member := by
    rcases mem_insert member with rfl | stored
    · exact celled
    · exact sums.celled o stored
  rewards := sums.rewards
  credits o member := by
    rcases mem_insert member with rfl | stored
    · exact zero.ge
    · exact sums.credits o stored
  totals c member := by
    dsimp only [creditedTo]
    rw [total_insert _ fresh, zero, ite_self, add_zero]
    exact sums.totals c member

end Sums

/-! ## Rewards carried over -/

variable {clamp : ℚ → ℚ}

theorem credit_le (sums : Sums s) {b : BindingRow} (stored : b ∈ s.bindings.rows) {c : CellRow} (inside : c ∈ s.cells.rows)
    (here : c.cellKey = b.cellKey) : b.creditedEed ≤ c.acceptedNovelEed := by
  rw [sums.totals c inside, here]
  have one := weight_le_total (fun o : BindingRow => if o.cellKey = b.cellKey then o.creditedEed else 0) (t := s.bindings)
    (fun o member => by
      split
      · exact sums.credits o member
      · exact le_rfl) stored
  rwa [if_pos rfl] at one

theorem carryOver_exact (harmless : SearchCredit.Harmless clamp) (sums : Sums s) {row : BindingRow × ℚ}
    (stored : row.1 ∈ s.bindings.rows) (nonneg : 0 ≤ row.2) (now : ℚ) : carryOver clamp now s row = carryOver id now s row := by
  unfold carryOver
  have cells : s.cells.update (fun c => c.cellKey = row.1.cellKey) (fun c => { c with
        acceptedNovelEed := clamp (c.acceptedNovelEed + (row.2 - row.1.creditedEed)), updatedAt := now }) (by exact fun _ => rfl) =
      s.cells.update (fun c => c.cellKey = row.1.cellKey) (fun c => { c with
        acceptedNovelEed := id (c.acceptedNovelEed + (row.2 - row.1.creditedEed)), updatedAt := now }) (by exact fun _ => rfl) := by
    refine Table.update_congr _ _ _ _ _ _ fun c inside here => ?_
    have enough := credit_le sums stored inside (of_decide_eq_true here)
    rw [harmless _ (by linarith), id]
  rw [cells]

theorem carryOver_sums (sums : Sums s) {row : BindingRow × ℚ} (stored : row.1 ∈ s.bindings.rows) (nonneg : 0 ≤ row.2) (now : ℚ) :
    Sums (carryOver id now s row) where
  known b member := by
    obtain ⟨old, inside, ⟨-, rfl⟩ | ⟨-, rfl⟩⟩ := mem_update member
    · exact sums.known old inside
    · exact sums.known b inside
  celled b member := by
    dsimp only [carryOver]
    rw [Table.isSome_update]
    obtain ⟨old, inside, ⟨-, rfl⟩ | ⟨-, rfl⟩⟩ := mem_update member
    · exact sums.celled old inside
    · exact sums.celled b inside
  rewards := sums.rewards
  credits b member := by
    obtain ⟨old, inside, ⟨-, rfl⟩ | ⟨-, rfl⟩⟩ := mem_update member
    · exact nonneg
    · exact sums.credits b inside
  totals c member := by
    have moved : creditedTo (carryOver id now s row).bindings c.cellKey = creditedTo s.bindings c.cellKey +
        ((if row.1.cellKey = c.cellKey then row.2 else 0) - if row.1.cellKey = c.cellKey then row.1.creditedEed else 0) :=
      total_update _ (Table.get?_mem stored) (fun b => { b with creditedEed := row.2, updatedAt := now }) (by exact fun _ => rfl)
    rw [moved]
    obtain ⟨old, inside, ⟨here, rfl⟩ | ⟨apart, rfl⟩⟩ := mem_update member
    · rw [decide_eq_true_eq] at here
      have before := sums.totals old inside
      dsimp only [id]
      rw [if_pos here.symm, if_pos here.symm, before]
    · rw [decide_eq_false_iff_not] at apart
      rw [if_neg (Ne.symm apart), if_neg (Ne.symm apart), sub_zero, add_zero]
      exact sums.totals c inside

theorem carry_all (harmless : SearchCredit.Harmless clamp) (now : ℚ) {rows : List (BindingRow × ℚ)} (sums : Sums s)
    (stored : ∀ row ∈ rows, row.1 ∈ s.bindings.rows) (nonneg : ∀ row ∈ rows, 0 ≤ row.2)
    (distinct : (rows.map (·.1.episodeId)).Nodup) :
    rows.foldl (carryOver clamp now) s = rows.foldl (carryOver id now) s ∧ Sums (rows.foldl (carryOver id now) s) := by
  induction rows generalizing s with
  | nil => exact ⟨rfl, sums⟩
  | cons row rest ih =>
    obtain ⟨absent, distinct⟩ := List.nodup_cons.mp distinct
    have here := stored row List.mem_cons_self
    have enough := nonneg row List.mem_cons_self
    rw [List.foldl_cons, List.foldl_cons, carryOver_exact harmless sums here enough]
    refine ih (carryOver_sums sums here enough now) (fun o member => ?_) (fun o member => nonneg o (List.mem_cons_of_mem _ member)) distinct
    have before := stored o (List.mem_cons_of_mem _ member)
    have apart : o.1.episodeId ≠ row.1.episodeId := fun same => absent (List.mem_map.mpr ⟨o, member, same⟩)
    exact List.mem_map.mpr ⟨o.1, before, if_neg (by simpa using apart)⟩

theorem carry_registry (now : ℚ) (rows : List (BindingRow × ℚ)) (s : Ledger) :
    (rows.foldl (carryOver clamp now) s).registry = s.registry := by
  induction rows generalizing s with
  | nil => rfl
  | cons row rest ih => exact ih _

theorem pending_mem {row : BindingRow × ℚ} (member : row ∈ pending s) : row.1 ∈ s.bindings.rows ∧
    ∃ e, s.registry.episodes.get? row.1.episodeId = some e ∧ row.2 = e.acceptedNovelEed := by
  obtain ⟨b, stored, made⟩ := List.mem_filterMap.mp member
  obtain ⟨e, kept, rfl⟩ := Option.map_eq_some_iff.mp made
  exact ⟨stored, e, (Option.filter_eq_some_iff.mp kept).1, rfl⟩

theorem pending_distinct (s : Ledger) : ((pending s).map (·.1.episodeId)).Nodup := by
  have sub : ((pending s).map (·.1)).Sublist s.bindings.rows := by
    unfold pending
    induction s.bindings.rows with
    | nil => exact .slnil
    | cons b rest ih =>
      rw [List.filterMap_cons]
      cases made : rewardOf s b with
      | none => exact ih.cons b
      | some row =>
        obtain ⟨e, -, rfl⟩ := Option.map_eq_some_iff.mp made
        exact ih.cons_cons b
  have keys := (sub.map (·.episodeId)).nodup s.bindings.keyed
  rwa [List.map_map] at keys

theorem reconcile_sums (harmless : SearchCredit.Harmless clamp) (sums : Sums s) (now : ℚ) (between : List SearchCredit.Event) :
    reconcileSearchRewards clamp s now between = reconcileSearchRewards id s now between ∧
      Sums (reconcileSearchRewards id s now between).2 := by
  have met := sums.withRegistry _ (registryAfter_spreads s.registry between)
  have nonneg : ∀ row ∈ pending s, 0 ≤ row.2 := by
    intro row member
    obtain ⟨-, e, found, reward⟩ := pending_mem member
    rw [reward]
    exact sums.rewards e (Table.mem_of_get? found)
  have stored : ∀ row ∈ pending s, row.1 ∈ s.bindings.rows := fun row member => (pending_mem member).1
  obtain ⟨same, after⟩ := carry_all harmless now met stored nonneg (pending_distinct s)
  refine ⟨?_, after⟩
  unfold reconcileSearchRewards
  dsimp only
  rw [same]

/-! ## Sums after a reset -/

theorem resetAll_sums (sums : Sums s) (now : ℚ) : Sums (resetAll s now) where
  known := nofun
  celled := nofun
  rewards := sums.rewards
  credits := nofun
  totals c member := by
    obtain ⟨old, -, ⟨-, rfl⟩ | ⟨no, -⟩⟩ := mem_update member
    · rfl
    · cases no

theorem resetCells_sums (sums : Sums s) (keys : List String) (now : ℚ) : Sums (resetCells s keys now) where
  known b member := sums.known b (List.mem_of_mem_filter member)
  celled b member := by
    dsimp only [resetCells]
    rw [Table.isSome_update]
    exact sums.celled b (List.mem_of_mem_filter member)
  rewards := sums.rewards
  credits b member := sums.credits b (List.mem_of_mem_filter member)
  totals c member := by
    obtain ⟨old, stored, ⟨named, rfl⟩ | ⟨apart, rfl⟩⟩ := mem_update member
    · refine (total_zero _ fun b kept => if_neg ?_).symm
      rintro same
      have gone := (List.mem_filter.mp kept).2
      have there : b.cellKey ∈ keys := by
        rw [show b.cellKey = old.cellKey from same]
        exact of_decide_eq_true named
      simp [there] at gone
    · rw [sums.totals c stored]
      refine (total_delete _ fun b _ hit => if_neg ?_).symm
      rintro same
      rw [same, apart] at hit
      cases hit

theorem dropEpisodes_sums (sums : Sums s) {ids : List String} (unbound : ∀ b ∈ s.bindings.rows, b.episodeId ∉ ids) :
    Sums (dropEpisodes s ids) where
  known b member := by
    obtain ⟨e, found⟩ := Option.isSome_iff_exists.mp (sums.known b (List.mem_of_mem_filter member))
    have apart := unbound b (List.mem_of_mem_filter member)
    have name := Table.get?_key found
    dsimp only [dropEpisodes]
    rw [Table.get?_delete, found]
    simp [Option.filter, name, apart]
  celled b member := sums.celled b (List.mem_of_mem_filter member)
  rewards e member := sums.rewards e (List.mem_of_mem_filter member)
  credits b member := sums.credits b (List.mem_of_mem_filter member)
  totals c member := by
    rw [sums.totals c member]
    refine (total_delete _ fun b inside hit => ?_).symm
    exact absurd (of_decide_eq_true hit) (unbound b inside)

theorem resetCells_unbound (now : ℚ) : ∀ b ∈ (resetCells s (dirtyCells s) now).bindings.rows, b.episodeId ∉ dirtyEpisodes s := by
  intro b member dirty
  obtain ⟨stored, kept⟩ := List.mem_filter.mp member
  have named : b.cellKey ∈ dirtyCells s := List.mem_map.mpr ⟨b, List.mem_filter.mpr ⟨stored, decide_eq_true dirty⟩, rfl⟩
  simp [named] at kept

theorem recover_sums (sums : Sums s) (now : ℚ) : Sums (recoverResidualProtocolState s now).2 := by
  have kept {t : Ledger} (after : Sums t) : Sums { t with protocolRevision := some residualProtocolRevision } :=
    ⟨after.known, after.celled, after.rewards, after.credits, after.totals⟩
  unfold recoverResidualProtocolState
  split
  · exact sums
  · refine kept ?_
    split
    · exact dropEpisodes_sums (resetAll_sums sums now) nofun
    · exact dropEpisodes_sums (resetCells_sums sums _ now) (resetCells_unbound now)

theorem ensureSearchProfile_sums (sums : Sums s) (signature : String) (now : ℚ) : Sums (ensureSearchProfile s signature now).2 := by
  have kept {t : Ledger} (after : Sums t) (profile : Option String) : Sums { t with searchProfile := profile } :=
    ⟨after.known, after.celled, after.rewards, after.credits, after.totals⟩
  unfold ensureSearchProfile
  split
  · exact sums
  · dsimp only
    split
    · exact sums
    · split
      · exact kept sums _
      · exact kept (resetAll_sums sums now) _

/-! ## Sums after a batch -/

theorem isSome_ensureCell (t : Cells) (cellKey : String) (now : ℚ) : ((ensureCell t cellKey now).get? cellKey).isSome := by
  unfold ensureCell
  rw [Table.get?_insert_or, if_pos rfl, Option.isSome_or, Option.isSome_some, Bool.or_true]

theorem unbound (sums : Sums s) {episodeId : String} (fresh : s.registry.episodes.get? episodeId = none) :
    s.bindings.get? episodeId = none := by
  refine Table.get?_eq_none.mpr fun b member same => ?_
  have there := sums.known b member
  rw [same, fresh] at there
  cases there

theorem commitBatch_sums (sums : Sums s) (p : Policy) (b : Batch) (cost : ℚ) : Sums (commitBatch p s b cost).2 := by
  unfold commitBatch
  split
  · exact sums
  · rename_i fresh
    rw [Bool.or_eq_true, not_or, Option.isSome_iff_ne_none, Option.isSome_iff_ne_none, not_not, not_not] at fresh
    dsimp only
    split
    · exact sums
    · rename_i proposed registered
      have episodes := registerProposals_episodes registered
      dsimp only at episodes
      have ensured := sums.recount (.ensureCell s.cells b.cellKey b.cellNow)
      have counted := ensured.recount (.recordCell p _ b.cellKey (countsOf b.results) cost b.cellNow)
      have begun : Spreads s.registry.episodes (closeEpisode proposed.episodes b cost) := by
        rw [episodes]
        exact (Spreads.insert _ le_rfl).trans (.update _ (by exact fun _ => rfl) fun _ nonneg => nonneg)
      have known : ((closeEpisode proposed.episodes b cost).get? b.episodeId).isSome := by
        rw [closeEpisode, Table.isSome_update, episodes, Table.get?_insert_or, if_pos rfl, Option.isSome_or, Option.isSome_some,
          Bool.or_true]
      have there := (Recounts.recordCell p _ b.cellKey (countsOf b.results) cost b.cellNow).stored b.cellKey
        (isSome_ensureCell s.cells b.cellKey b.cellNow)
      have closed := counted.withRegistry { proposed with episodes := closeEpisode proposed.episodes b cost } begun
      have bound := closed.bind (b := ⟨b.episodeId, b.cellKey, 0, b.cellNow⟩) fresh.2 known there rfl
      exact ⟨bound.known, bound.celled, bound.rewards, bound.credits, bound.totals⟩

theorem openEpisode_sums (sums : Sums s) (now : ℚ) (mechanism backend query actor episodeId cellKey : String) :
    Sums (openEpisode s now mechanism backend query actor episodeId cellKey).2 := by
  unfold openEpisode
  split
  · exact sums
  · rename_i begun started
    unfold SearchCredit.beginSearchEpisode at started
    split at started
    · cases started
    · split at started
      · cases started
      · rename_i fresh
        rw [Option.isSome_iff_ne_none, not_not] at fresh
        cases started
        have bound := unbound sums fresh
        have grown := sums.withRegistry { s.registry with episodes := (s.registry.episodes.insert
          ⟨episodeId, residualStrategy mechanism, backend, query, actor, now, none, 0, 0, 0, 0⟩) } (Spreads.insert _ le_rfl)
        unfold bindSearchEpisode
        split
        · exact grown
        · have ensured := grown.recount (.ensureCell s.cells cellKey now)
          dsimp only
          rw [Table.get?_insert fresh, if_pos rfl]
          dsimp only
          rw [Table.upsert_fresh bound]
          refine ensured.bind (b := ⟨episodeId, cellKey, 0, now⟩) bound ?_ (isSome_ensureCell s.cells cellKey now) rfl
          dsimp only
          rw [Table.get?_insert fresh, if_pos rfl]
          rfl

/-! ## Steps -/

theorem step_exact (harmless : SearchCredit.Harmless clamp) (sums : Sums s) (p : Policy) (e : Event) :
    step clamp p s e = step id p s e := by
  cases e with
  | reconcile now between => exact (reconcile_sums harmless sums now between).1
  | _ => rfl

theorem step_sums (sums : Sums s) (p : Policy) (e : Event) : Sums (step id p s e).2 := by
  cases e with
  | registry call => exact sums.withRegistry _ (registry_spreads s.registry call)
  | ensureCell cellKey now => exact sums.recount (.ensureCell s.cells cellKey now)
  | markExhausted cellKey now =>
    exact sums.recount ((Recounts.ensureCell s.cells cellKey now).trans (.update _ (by exact fun _ => rfl) fun _ => rfl))
  | commit batch =>
    simp only [step, commitDeterministicResidualBatch]
    split
    · exact sums
    · split
      · exact sums
      · split
        · exact sums
        · split
          · exact sums
          · exact commitBatch_sums sums p batch _
  | openEpisode now mechanism backend query actor episodeId cellKey => exact openEpisode_sums sums _ _ _ _ _ _ _
  | recordEpisode cellKey results searchCostSeconds now =>
    simp only [step, recordEpisode]
    split
    · exact sums
    · rename_i cost _
      exact sums.recount ((Recounts.ensureCell s.cells cellKey now).trans (.recordCell p _ cellKey (countsOf results) cost now))
  | reconcile now between => exact (reconcile_sums SearchCredit.harmless_id sums now between).2
  | ensureSearchProfile signature now => exact ensureSearchProfile_sums sums _ _
  | recover now => exact recover_sums sums now

end

section
variable {clamp : ℚ → ℚ} (harmless : SearchCredit.Harmless clamp) (p : Policy)
include harmless

theorem run_sums (es : List Event) : Sums ((machine clamp p).final es) := by
  refine (machine clamp p).invariant (I := Sums) ?_ (fun s e sums => ?_) es
  · exact ⟨nofun, nofun, nofun, nofun, nofun⟩
  · have same : (machine clamp p).step s e = step id p s e := step_exact harmless sums p e
    rw [same]
    exact step_sums sums p e

/-- The ledger is the one without a clamp. -/
theorem run_exact (es : List Event) : (machine clamp p).final es = (machine id p).final es := by
  refine Machine.lockstep (machine id p) (machine clamp p) rfl es fun before e after _ together => ?_
  have sums := run_sums SearchCredit.harmless_id p before
  exact congrArg Prod.snd (step_exact harmless sums p e)

end

/-! ## Counters -/

def attemptsOf (t : Cells) (cellKey : String) : Nat := (t.get? cellKey).elim 0 (·.attempts)

/-- A row whose counters agree. -/
def Tallied (c : CellRow) : Prop := c.attempts = c.variantCursor ∧ c.duplicateResults + c.newFamilies = c.resultCount

section
variable (t : Cells) (k : String)

theorem attemptsOf_update {where_ : CellRow → Bool} {set : CellRow → CellRow} (keeps : ∀ c, (set c).cellKey = c.cellKey)
    (same : ∀ c, (set c).attempts = c.attempts) : attemptsOf (t.update where_ set keeps) k = attemptsOf t k := by
  unfold attemptsOf
  rw [Table.get?_update]
  cases t.get? k with
  | none => rfl
  | some c =>
    simp only [Option.map_some, Option.elim_some]
    split
    · exact same c
    · rfl

theorem attemptsOf_ensureCell (cellKey : String) (now : ℚ) : attemptsOf (ensureCell t cellKey now) k = attemptsOf t k := by
  unfold attemptsOf ensureCell
  rw [Table.get?_insert_or]
  cases t.get? k with
  | none => split <;> rfl
  | some c => rfl

theorem attemptsOf_recordCell (p : Policy) {cellKey : String} (stored : (t.get? cellKey).isSome) (counts : Counts) (eed cost now : ℚ) :
    attemptsOf (recordCell p t cellKey counts eed cost now) k = if cellKey = k then attemptsOf t k + 1 else attemptsOf t k := by
  unfold recordCell
  refine (attemptsOf_update _ k (by exact fun _ => rfl) (by exact fun _ => rfl)).trans ?_
  unfold attemptsOf
  rw [Table.get?_update_key]
  by_cases here : cellKey = k
  · subst here
    obtain ⟨c, found⟩ := Option.isSome_iff_exists.mp stored
    rw [if_pos rfl, if_pos rfl, found]
    rfl
  · rw [if_neg (Ne.symm here), if_neg here]

theorem attemptsOf_reopened (where_ : CellRow → Bool) (now : ℚ) :
    attemptsOf (t.update where_ (·.reopened now) (·.reopened_cellKey now)) k = if (t.get? k).any where_ then 0 else attemptsOf t k := by
  unfold attemptsOf
  rw [Table.get?_update]
  cases t.get? k with
  | none => rfl
  | some c =>
    simp only [Option.map_some, Option.elim_some, Option.any_some]
    split <;> rfl

end

section
variable {t : Cells} (tallied : ∀ c ∈ t.rows, Tallied c)
include tallied

theorem tallied_update {where_ : CellRow → Bool} {set : CellRow → CellRow} (keeps : ∀ c, (set c).cellKey = c.cellKey)
    (kept : ∀ c, Tallied c → Tallied (set c)) : ∀ c ∈ (t.update where_ set keeps).rows, Tallied c := by
  intro c member
  obtain ⟨old, stored, ⟨-, rfl⟩ | ⟨-, rfl⟩⟩ := mem_update member
  · exact kept old (tallied old stored)
  · exact tallied c stored

theorem tallied_ensureCell (cellKey : String) (now : ℚ) : ∀ c ∈ (ensureCell t cellKey now).rows, Tallied c := by
  intro c member
  rcases mem_insert member with rfl | stored
  · exact ⟨rfl, rfl⟩
  · exact tallied c stored

theorem tallied_recordCell (p : Policy) (cellKey : String) (results : List Registration) (eed cost now : ℚ) :
    ∀ c ∈ (recordCell p t cellKey (countsOf results) eed cost now).rows, Tallied c := by
  refine tallied_update (tallied_update tallied (by exact fun _ => rfl) fun c before => ?_) (by exact fun _ => rfl) fun c before => before
  have parts : results.length = results.countP (·.newFamily) + results.countP (!·.newFamily) := by
    rw [List.length_eq_countP_add_countP (·.newFamily) (l := results)]
    simp
  obtain ⟨cursor, families⟩ := before
  refine ⟨congrArg (· + 1) cursor, ?_⟩
  simp only [CellRow.searched, countsOf]
  omega

end

theorem carry_counters (clamp : ℚ → ℚ) (now : ℚ) (rows : List (BindingRow × ℚ)) (s : Ledger) (k : String) :
    attemptsOf (rows.foldl (carryOver clamp now) s).cells k = attemptsOf s.cells k ∧
      ((∀ c ∈ s.cells.rows, Tallied c) → ∀ c ∈ (rows.foldl (carryOver clamp now) s).cells.rows, Tallied c) := by
  induction rows generalizing s with
  | nil => exact ⟨rfl, id⟩
  | cons row rest ih =>
    obtain ⟨same, kept⟩ := ih (carryOver clamp now s row)
    refine ⟨same.trans (attemptsOf_update _ _ (by exact fun _ => rfl) (by exact fun _ => rfl)), fun tallied => kept ?_⟩
    exact tallied_update tallied (by exact fun _ => rfl) fun c before => before

theorem commitBatch_counters (p : Policy) (s : Ledger) (b : Batch) (cost : ℚ) (k : String) :
    attemptsOf (commitBatch p s b cost).2.cells k =
        tally k (attemptsOf s.cells k) ⟨s, .commit b, (commitBatch p s b cost).1, (commitBatch p s b cost).2⟩ ∧
      ((∀ c ∈ s.cells.rows, Tallied c) → ∀ c ∈ (commitBatch p s b cost).2.cells.rows, Tallied c) := by
  unfold commitBatch
  split
  · exact ⟨rfl, id⟩
  · dsimp only
    split
    · exact ⟨rfl, id⟩
    · refine ⟨?_, fun tallied => tallied_recordCell (tallied_ensureCell tallied _ _) p _ _ _ _ _⟩
      rw [attemptsOf_recordCell _ _ _ (isSome_ensureCell _ _ _), attemptsOf_ensureCell]
      simp [tally, resets, commits]

theorem openEpisode_cells (s : Ledger) (now : ℚ) (mechanism backend query actor episodeId cellKey : String) :
    (openEpisode s now mechanism backend query actor episodeId cellKey).2.cells = s.cells ∨
      (openEpisode s now mechanism backend query actor episodeId cellKey).2.cells = ensureCell s.cells cellKey now := by
  unfold openEpisode
  split
  · exact .inl rfl
  · unfold bindSearchEpisode
    split
    · exact .inl rfl
    · dsimp only
      split <;> exact .inr rfl

section
variable (s : Ledger) (now : ℚ) (k : String)

theorem attemptsOf_resetAll : attemptsOf (resetAll s now).cells k = 0 := by
  refine (attemptsOf_reopened s.cells k _ now).trans ?_
  unfold attemptsOf
  cases s.cells.get? k <;> rfl

theorem attemptsOf_resetCells (keys : List String) :
    attemptsOf (resetCells s keys now).cells k = if k ∈ keys then 0 else attemptsOf s.cells k := by
  refine (attemptsOf_reopened s.cells k _ now).trans ?_
  unfold attemptsOf
  cases found : s.cells.get? k with
  | none =>
    rw [Option.any_none, if_neg Bool.false_ne_true]
    split <;> rfl
  | some c =>
    have name : c.cellKey = k := Table.get?_key found
    rw [Option.any_some, name]
    simp only [decide_eq_true_eq]

theorem recover_counters :
    attemptsOf (recoverResidualProtocolState s now).2.cells k = tally k (attemptsOf s.cells k)
        ⟨s, .recover now, (recoverResidualProtocolState s now).1, (recoverResidualProtocolState s now).2⟩ ∧
      ((∀ c ∈ s.cells.rows, Tallied c) → ∀ c ∈ (recoverResidualProtocolState s now).2.cells.rows, Tallied c) := by
  have reopened (c : CellRow) : Tallied c → Tallied (c.reopened now) := fun _ => ⟨rfl, rfl⟩
  unfold recoverResidualProtocolState
  split
  · exact ⟨rfl, id⟩
  · simp only [dropEpisodes]
    cases reset : protocolReset s with
    | true =>
      refine ⟨(attemptsOf_resetAll s now k).trans ?_, fun tallied => tallied_update tallied (·.reopened_cellKey now) reopened⟩
      simp [tally, resets, reset]
    | false =>
      refine ⟨(attemptsOf_resetCells s now k _).trans ?_, fun tallied => tallied_update tallied (·.reopened_cellKey now) reopened⟩
      simp [tally, resets, commits, reset]

theorem ensureSearchProfile_counters (signature : String) :
    attemptsOf (ensureSearchProfile s signature now).2.cells k = tally k (attemptsOf s.cells k)
        ⟨s, .ensureSearchProfile signature now, (ensureSearchProfile s signature now).1, (ensureSearchProfile s signature now).2⟩ ∧
      ((∀ c ∈ s.cells.rows, Tallied c) → ∀ c ∈ (ensureSearchProfile s signature now).2.cells.rows, Tallied c) := by
  unfold ensureSearchProfile
  split
  · exact ⟨rfl, id⟩
  · dsimp only
    split
    · exact ⟨rfl, id⟩
    · split
      · exact ⟨rfl, id⟩
      · exact ⟨attemptsOf_resetAll s now k, fun tallied => tallied_update tallied (·.reopened_cellKey now) fun _ _ => ⟨rfl, rfl⟩⟩

end

theorem step_counters (clamp : ℚ → ℚ) (p : Policy) (s : Ledger) (e : Event) (k : String) :
    attemptsOf (step clamp p s e).2.cells k = tally k (attemptsOf s.cells k) ((machine clamp p).take s e) ∧
      ((∀ c ∈ s.cells.rows, Tallied c) → ∀ c ∈ (step clamp p s e).2.cells.rows, Tallied c) := by
  cases e with
  | registry call => exact ⟨rfl, id⟩
  | ensureCell cellKey now => exact ⟨attemptsOf_ensureCell s.cells k cellKey now, fun tallied => tallied_ensureCell tallied cellKey now⟩
  | markExhausted cellKey now =>
    refine ⟨?_, fun tallied => ?_⟩
    · exact (attemptsOf_update _ k (by exact fun _ => rfl) (by exact fun _ => rfl)).trans (attemptsOf_ensureCell s.cells k cellKey now)
    · exact tallied_update (tallied_ensureCell tallied cellKey now) (by exact fun _ => rfl) fun c before => before
  | commit batch =>
    simp only [Machine.take, machine, step, commitDeterministicResidualBatch]
    split
    · exact ⟨rfl, id⟩
    · split
      · exact ⟨rfl, id⟩
      · split
        · exact ⟨rfl, id⟩
        · split
          · exact ⟨rfl, id⟩
          · exact commitBatch_counters p s batch _ k
  | openEpisode now mechanism backend query actor episodeId cellKey =>
    rcases openEpisode_cells s now mechanism backend query actor episodeId cellKey with same | same
    · simp only [step, same]
      exact ⟨rfl, id⟩
    · simp only [step, same]
      exact ⟨attemptsOf_ensureCell s.cells k cellKey now, fun tallied => tallied_ensureCell tallied cellKey now⟩
  | recordEpisode cellKey results searchCostSeconds now =>
    simp only [Machine.take, machine, step, recordEpisode]
    split
    · exact ⟨rfl, id⟩
    · refine ⟨?_, fun tallied => tallied_recordCell (tallied_ensureCell tallied _ _) p _ _ _ _ _⟩
      dsimp only
      rw [attemptsOf_recordCell _ _ _ (isSome_ensureCell _ _ _), attemptsOf_ensureCell]
      simp [tally, resets, commits]
  | reconcile now between => exact carry_counters clamp now (pending s) { s with registry := registryAfter s.registry between } k
  | ensureSearchProfile signature now => exact ensureSearchProfile_counters s now k signature
  | recover now => exact recover_counters s now k

theorem run_attempts (clamp : ℚ → ℚ) (p : Policy) (k : String) (es : List Event) :
    attemptsOf ((machine clamp p).final es).cells k = batchesSince k ((machine clamp p).trace es) := by
  induction es using List.reverseRecOn with
  | nil => rfl
  | append_singleton es e ih =>
    rw [Machine.final_snoc, Machine.trace_snoc, batchesSince, List.foldl_append, ← batchesSince, ← ih]
    exact (step_counters clamp p _ e k).1

theorem run_tallied (clamp : ℚ → ℚ) (p : Policy) (es : List Event) : ∀ c ∈ ((machine clamp p).final es).cells.rows, Tallied c :=
  (machine clamp p).invariant (I := fun s => ∀ c ∈ s.cells.rows, Tallied c) nofun (fun s e => (step_counters clamp p s e "").2) es

/-! ## Credits up to date -/

/-- Every binding is credited with the reward of its episode, up to the threshold. -/
def Carried (rewards : Episodes) (t : Bindings) : Prop :=
  ∀ b ∈ t.rows, ∃ e, rewards.get? b.episodeId = some e ∧ |e.acceptedNovelEed - b.creditedEed| ≤ threshold

/-- No episode that stays has another reward. -/
def Unmoved (t u : Episodes) : Prop := ∀ id e e', t.get? id = some e → u.get? id = some e' → e'.acceptedNovelEed = e.acceptedNovelEed

section
variable {s : Ledger}

theorem carried_binding {clamp : ℚ → ℚ} {now : ℚ} {rows : List (BindingRow × ℚ)} {b : BindingRow}
    (member : b ∈ (rows.foldl (carryOver clamp now) s).bindings.rows) :
    (∃ row ∈ rows, b.episodeId = row.1.episodeId ∧ b.creditedEed = row.2) ∨
      b ∈ s.bindings.rows ∧ ∀ row ∈ rows, b.episodeId ≠ row.1.episodeId := by
  induction rows generalizing s with
  | nil => exact .inr ⟨member, nofun⟩
  | cons row rest ih =>
    rcases ih member with ⟨o, inside, same⟩ | ⟨stored, others⟩
    · exact .inl ⟨o, List.mem_cons_of_mem _ inside, same⟩
    · obtain ⟨old, before, ⟨here, rfl⟩ | ⟨apart, rfl⟩⟩ := mem_update stored
      · exact .inl ⟨row, List.mem_cons_self, of_decide_eq_true here, rfl⟩
      · refine .inr ⟨before, fun o inside => ?_⟩
        rcases List.mem_cons.mp inside with rfl | inside
        · exact of_decide_eq_false apart
        · exact others o inside

theorem reconcile_carried (sums : Sums s) (clamp : ℚ → ℚ) (now : ℚ) (between : List SearchCredit.Event) :
    Carried s.registry.episodes (reconcileSearchRewards clamp s now between).2.bindings := by
  intro b member
  rcases carried_binding member with ⟨row, inside, name, credit⟩ | ⟨stored, others⟩
  · obtain ⟨-, e, found, reward⟩ := pending_mem inside
    refine ⟨e, name ▸ found, ?_⟩
    rw [credit, reward, sub_self, abs_zero]
    norm_num [threshold]
  · obtain ⟨e, found⟩ := Option.isSome_iff_exists.mp (sums.known b stored)
    refine ⟨e, found, not_lt.mp fun beyond => ?_⟩
    have read : rewardOf s b = some (b, e.acceptedNovelEed) := by
      unfold rewardOf
      rw [found, Option.filter_some, if_pos (decide_eq_true beyond)]
      rfl
    exact others _ (List.mem_filterMap.mpr ⟨b, stored, read⟩) rfl

theorem pending_nil (carried : Carried s.registry.episodes s.bindings) : pending s = [] := by
  refine List.filterMap_eq_nil_iff.mpr fun b stored => ?_
  obtain ⟨e, found, near⟩ := carried b stored
  unfold rewardOf
  rw [found, Option.filter_some, if_neg (by simpa using near)]
  rfl

theorem reconcile_idle (carried : Carried s.registry.episodes s.bindings) (clamp : ℚ → ℚ) (now : ℚ)
    (between : List SearchCredit.Event) : reconcileSearchRewards clamp s now between =
      (.ok (.reconciled 0 0), { s with registry := registryAfter s.registry between }) := by
  unfold reconcileSearchRewards
  rw [pending_nil carried]
  rfl

/-- A binding of a call that was there before, or whose episode begins with its credit. -/
def Begins (s after : Ledger) : Prop := ∀ b ∈ after.bindings.rows, b ∈ s.bindings.rows ∨
  ∃ episode, after.registry.episodes.get? b.episodeId = some episode ∧ episode.acceptedNovelEed = b.creditedEed

theorem commitBatch_begins (p : Policy) (s : Ledger) (b : Batch) (cost : ℚ) : Begins s (commitBatch p s b cost).2 := by
  unfold commitBatch
  split
  · exact fun o member => .inl member
  · rename_i fresh
    rw [Bool.or_eq_true, not_or, Option.isSome_iff_ne_none, Option.isSome_iff_ne_none, not_not, not_not] at fresh
    dsimp only
    split
    · exact fun o member => .inl member
    · rename_i proposed registered
      have episodes := registerProposals_episodes registered
      intro o member
      rcases mem_insert member with rfl | stored
      · refine .inr ?_
        dsimp only at episodes ⊢
        unfold closeEpisode
        rw [Table.get?_update_key, if_pos rfl, episodes, Table.get?_insert fresh.1, if_pos rfl]
        exact ⟨_, rfl, rfl⟩
      · exact .inl stored

theorem openEpisode_begins (sums : Sums s) (now : ℚ) (mechanism backend query actor episodeId cellKey : String) :
    Begins s (openEpisode s now mechanism backend query actor episodeId cellKey).2 := by
  unfold openEpisode SearchCredit.beginSearchEpisode
  split
  · exact fun o member => .inl member
  · rename_i begun started
    split at started
    · cases started
    · split at started
      · cases started
      · rename_i fresh
        rw [Option.isSome_iff_ne_none, not_not] at fresh
        cases started
        unfold bindSearchEpisode
        split
        · exact fun o member => .inl member
        · dsimp only
          rw [Table.get?_insert fresh, if_pos rfl]
          dsimp only
          rw [Table.upsert_fresh (unbound sums fresh)]
          intro o member
          rcases mem_insert member with rfl | stored
          · refine .inr ⟨_, (Table.get?_insert fresh episodeId).trans (if_pos rfl), rfl⟩
          · exact .inl stored

theorem recover_begins (s : Ledger) (now : ℚ) : Begins s (recoverResidualProtocolState s now).2 := by
  intro b member
  unfold recoverResidualProtocolState at member
  split at member
  · exact .inl member
  · have kept := List.mem_of_mem_filter member
    split at kept
    · cases kept
    · exact .inl (List.mem_of_mem_filter kept)

theorem ensureSearchProfile_begins (s : Ledger) (signature : String) (now : ℚ) : Begins s (ensureSearchProfile s signature now).2 := by
  intro b member
  unfold ensureSearchProfile at member
  split at member
  · exact .inl member
  · dsimp only at member
    split at member
    · exact .inl member
    · split at member
      · exact .inl member
      · cases member

theorem step_begins (sums : Sums s) (carried : Carried s.registry.episodes s.bindings) (p : Policy) (e : Event) :
    Begins s (step id p s e).2 := by
  cases e with
  | registry call => exact fun b member => .inl member
  | ensureCell cellKey now => exact fun b member => .inl member
  | markExhausted cellKey now => exact fun b member => .inl member
  | commit batch =>
    simp only [step, commitDeterministicResidualBatch]
    split
    · exact fun b member => .inl member
    · split
      · exact fun b member => .inl member
      · split
        · exact fun b member => .inl member
        · split
          · exact fun b member => .inl member
          · exact commitBatch_begins p s batch _
  | openEpisode now mechanism backend query actor episodeId cellKey => exact openEpisode_begins sums _ _ _ _ _ _ _
  | recordEpisode cellKey results searchCostSeconds now =>
    simp only [step, recordEpisode]
    split <;> exact fun b member => .inl member
  | reconcile now between =>
    simp only [step, reconcile_idle carried]
    exact fun b member => .inl member
  | ensureSearchProfile signature now => exact ensureSearchProfile_begins s signature now
  | recover now => exact recover_begins s now

/-- Credits stay up to date when no reward has changed. -/
theorem Carried.unmoved {t u : Episodes} {bindings : Bindings} (carried : Carried t bindings) (unmoved : Unmoved t u)
    (known : ∀ b ∈ bindings.rows, (u.get? b.episodeId).isSome) : Carried u bindings := by
  intro b stored
  obtain ⟨old, before, near⟩ := carried b stored
  obtain ⟨new, after⟩ := Option.isSome_iff_exists.mp (known b stored)
  refine ⟨new, after, ?_⟩
  rwa [unmoved _ _ _ before after]

/-- Credits that are up to date stay so as long as no reward changes. -/
theorem step_carried (sums : Sums s) (carried : Carried s.registry.episodes s.bindings) {p : Policy} {e : Event}
    (unmoved : Unmoved s.registry.episodes (step id p s e).2.registry.episodes) :
    Carried (step id p s e).2.registry.episodes (step id p s e).2.bindings := by
  intro b member
  rcases step_begins sums carried p e b member with stored | ⟨episode, found, same⟩
  · obtain ⟨old, before, near⟩ := carried b stored
    obtain ⟨new, after⟩ := Option.isSome_iff_exists.mp ((step_sums sums p e).known b member)
    refine ⟨new, after, ?_⟩
    rwa [unmoved _ _ _ before after]
  · refine ⟨episode, found, ?_⟩
    rw [same, sub_self, abs_zero]
    norm_num [threshold]

end

/-! ## The economics of a run -/

def ledger (p : Policy) : Machine Ledger Event (Except PyError Answer) := machine maxZero p

/-- No step of a run changes the reward of an episode that stays. -/
def Quiet (trace : List (Step Ledger Event (Except PyError Answer))) : Prop :=
  ∀ r ∈ trace, Unmoved r.before.registry.episodes r.after.registry.episodes

/-- What holds of the search cells after a run. -/
structure Economics (p : Policy) (es : List Event) : Prop where
  /-- A cell has what the episodes bound to it are credited with. -/
  totals : ∀ c ∈ ((ledger p).final es).cells.rows, c.acceptedNovelEed = creditedTo ((ledger p).final es).bindings c.cellKey
  /-- The clamp at zero never changes a value. -/
  unclamped : (ledger p).final es = (machine id p).final es
  /-- A reconciliation credits every binding with the reward that it read. -/
  carried : ∀ r ∈ (ledger p).trace es, ∀ now between, r.event = .reconcile now between →
    Carried r.before.registry.episodes r.after.bindings ∧ r.after.registry = registryAfter r.before.registry between
  attempts : ∀ c ∈ ((ledger p).final es).cells.rows,
    c.attempts = c.variantCursor ∧ c.attempts = batchesSince c.cellKey ((ledger p).trace es)
  counts : ∀ c ∈ ((ledger p).final es).cells.rows, c.duplicateResults + c.newFamilies = c.resultCount
  /-- A second reconciliation finds nothing when no reward has changed since the first. -/
  settled : ∀ before now between middle, es = before ++ .reconcile now between :: middle →
    Quiet ((ledger p).traceFrom ((ledger p).final before) (.reconcile now between :: middle)) → ∀ later meanwhile,
      (ledger p).step ((ledger p).final es) (.reconcile later meanwhile) = (.ok (.reconciled 0 0),
        { (ledger p).final es with registry := registryAfter ((ledger p).final es).registry meanwhile })

section
variable (p : Policy)

theorem ledger_sums (es : List Event) : Sums ((ledger p).final es) := run_sums SearchCredit.harmless_maxZero p es

theorem ledger_step {s : Ledger} (sums : Sums s) (e : Event) : (ledger p).step s e = step id p s e :=
  step_exact SearchCredit.harmless_maxZero sums p e

theorem run_carried {s : Ledger} (sums : Sums s) (carried : Carried s.registry.episodes s.bindings) (es : List Event)
    (quiet : Quiet ((ledger p).traceFrom s es)) :
    Carried ((ledger p).finalFrom s es).registry.episodes ((ledger p).finalFrom s es).bindings := by
  induction es generalizing s with
  | nil => exact carried
  | cons e rest ih =>
    have first := quiet _ List.mem_cons_self
    have later := fun r member => quiet r (List.mem_cons_of_mem _ member)
    rw [Machine.take_before, Machine.take_after] at first
    rw [ledger_step p sums e] at first later
    rw [Machine.finalFrom_cons, ledger_step p sums e]
    exact ih (step_sums sums p e) (step_carried sums carried first) later

/-- The economics of search cells stay the sum of their episodes. -/
theorem economics_kept (es : List Event) : Economics p es where
  totals := (ledger_sums p es).totals
  unclamped := run_exact SearchCredit.harmless_maxZero p es
  carried := by
    intro r member now between event
    obtain ⟨before, after, -, same⟩ := Machine.mem_trace _ member
    rw [event] at same
    subst same
    exact ⟨reconcile_carried (ledger_sums p before) maxZero now between, carry_registry now _ _⟩
  attempts := by
    intro c member
    refine ⟨(run_tallied maxZero p es c member).1, ?_⟩
    have counted := run_attempts maxZero p c.cellKey es
    unfold attemptsOf at counted
    rwa [Table.get?_mem (t := ((machine maxZero p).final es).cells) member, Option.elim_some] at counted
  counts := fun c member => (run_tallied maxZero p es c member).2
  settled := by
    rintro before now between middle rfl quiet later meanwhile
    have sums := ledger_sums p before
    rw [Machine.final_append]
    refine reconcile_idle (run_carried p ?_ ?_ middle fun r member => quiet r (List.mem_cons_of_mem _ member)) maxZero later meanwhile
    · rw [ledger_step p sums]
      exact step_sums sums p _
    · have known : Sums ((ledger p).step ((ledger p).final before) (.reconcile now between)).2 := by
        rw [ledger_step p sums]
        exact step_sums sums p _
      exact (reconcile_carried sums maxZero now between).unmoved (quiet _ List.mem_cons_self) known.known

end

end Creeper.CellEconomics
