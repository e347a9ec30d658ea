import Creeper.Claims
import Creeper.Tables
import Creeper.FabricModels

/-!
# Harvesting regions

The harvest columns of `source_regions_v1`, the calls that rewrite them, and
`RegionHarvestExecutor.harvest` as a process that makes these calls one by one and may
fail between any two of them.
-/

namespace Creeper.RegionHarvest
open Creeper.Runs Creeper.Tables Creeper.PyNumbers Creeper.Claims
open Creeper.FabricModels (blank)

/-! ## Regions -/

inductive RegionState
  | discovered
  | probed
  | harvestReady
  | harvesting
  | harvested
  | dropped
  deriving DecidableEq, Repr

/-- Byte bounds of a region, both inclusive. -/
structure ByteRange where
  byteStart : Int
  byteEnd : Int
  nonneg : 0 ≤ byteStart
  ordered : byteStart ≤ byteEnd

/-- The columns of a region that a harvest reads or writes. -/
structure RegionRow where
  regionKey : String
  indexKey : String
  bytes : Option ByteRange
  state : RegionState
  harvestOwner : Option String
  harvestExpiresAt : Option PyFloat
  harvestCursor : Option Int
  updatedAt : ℚ

abbrev Regions := Table RegionRow String (·.regionKey)

/-- The durable resume position: the cursor, or the start of the region. -/
def RegionRow.position (row : RegionRow) : Option Int := row.harvestCursor.or (row.bytes.map (·.byteStart))

/-- The position lies in the region, or right behind it. -/
def RegionRow.Inside (row : RegionRow) : Prop :=
  ∀ range, row.bytes = some range → ∀ at_, row.position = some at_ → range.byteStart ≤ at_ ∧ at_ ≤ range.byteEnd + 1

/-- A harvest of the region is claimed by an owner and has not expired. -/
def RegionRow.ownedBy (row : RegionRow) (owner : String) (now : ℚ) : Bool :=
  row.state = .harvesting && row.harvestOwner = some owner && row.harvestExpiresAt.any (PyFloat.lt (.fin now))

/-- Giving up the claim. -/
abbrev RegionRow.freed (row : RegionRow) (state : RegionState) (cursor : Option Int) (now : ℚ) : RegionRow :=
  { row with state, harvestOwner := none, harvestExpiresAt := none, harvestCursor := cursor, updatedAt := now }

/-- `recover_expired_harvest_claims`. -/
def recoverExpired (regions : Regions) (now : ℚ) : Regions :=
  regions.update (fun r => r.state = .harvesting && r.harvestExpiresAt.any (·.le (.fin now)))
    (fun r => r.freed .harvestReady r.harvestCursor now)

/-- `claim_region_for_harvest`: whether the region was claimed. -/
def claimRegion (regions : Regions) (now : ℚ) (regionKey owner : String) (ttlSeconds : PyFloat) :
    Except String Bool × Regions :=
  if blank owner then (.error "harvest owner is required", regions)
  else if ttlSeconds.le (.fin 0) then (.error "harvest ttl_seconds must be positive", regions)
  else
    let recovered := recoverExpired regions now
    (.ok ((recovered.get? regionKey).any (·.state = .harvestReady)),
      recovered.update (fun r => r.regionKey = regionKey && r.state = .harvestReady) (fun r => { r with
        state := .harvesting, harvestOwner := some owner,
        harvestExpiresAt := ((PyFloat.fin now).add ttlSeconds).column, updatedAt := now }))

/-- `renew_region_harvest`. -/
def renewRegion (regions : Regions) (now : ℚ) (regionKey owner : String) (ttlSeconds : PyFloat) :
    Except String PyFloat × Regions :=
  if blank owner then (.error "harvest owner is required", regions)
  else if ttlSeconds.le (.fin 0) then (.error "harvest ttl_seconds must be positive", regions)
  else if (regions.get? regionKey).any (·.ownedBy owner now) then
    let expires := (PyFloat.fin now).add ttlSeconds
    (.ok expires, regions.update (·.regionKey = regionKey)
      ({ · with harvestExpiresAt := expires.column, updatedAt := now }))
  else (.error "region harvest claim is expired or not owned by caller", regions)

/-- `complete_region_harvest`. -/
def completeRegion (regions : Regions) (now : ℚ) (regionKey owner : String) : Except String Unit × Regions :=
  if blank owner then (.error "harvest owner is required", regions)
  else if (regions.get? regionKey).any (·.ownedBy owner now) then
    (.ok (), regions.update (·.regionKey = regionKey) (·.freed .harvested none now))
  else (.error "region harvest is expired or not owned by caller", regions)

/-- Why a region refuses a cursor. -/
def cursorProblem (row : RegionRow) (resumeCursor : Option Int) : Option String :=
  match resumeCursor, row.bytes with
  | some cursor, some range =>
    if cursor < range.byteStart then some "resume_cursor precedes region start"
    else if range.byteEnd + 1 < cursor then some "resume_cursor exceeds region end"
    else none
  | _, _ => none

/-- `release_region_harvest`. -/
def releaseRegion (regions : Regions) (now : ℚ) (regionKey owner : String) (resumeCursor : Option Int) :
    Except String Unit × Regions :=
  if blank owner then (.error "harvest owner is required", regions)
  else if resumeCursor.any (· < 0) then (.error "resume_cursor must be non-negative", regions)
  else
    match (regions.get? regionKey).filter (·.ownedBy owner now) with
    | none => (.error "region harvest is expired or not owned by caller", regions)
    | some row =>
      match cursorProblem row resumeCursor with
      | some problem => (.error problem, regions)
      | none => (.ok (), regions.update (·.regionKey = regionKey) (·.freed .harvestReady resumeCursor now))

/-! ## The executor -/

/-- What `harvest` reads of an index. -/
structure Index where
  indexKey : String
  format : String
  directEvidenceAuthority : Bool
  /-- The path of the locator ends in `.gz`. -/
  compressed : Bool

/-- `_validate_region`. -/
def validateRegion (region : RegionRow) (index : Index) : Option String :=
  if region.state ≠ .harvesting then some "region must be claimed before harvest"
  else if region.bytes.isNone then some "exact region harvest requires finite byte bounds"
  else if region.indexKey ≠ index.indexKey then some "region does not belong to supplied index"
  else if index.format ≠ "CDX" && index.format ≠ "CDXJ" then some "exact direct harvest currently requires CDX/CDXJ"
  else if !index.directEvidenceAuthority then some "index lacks direct-evidence authority"
  else if index.compressed then some "compressed CDX/CDXJ regions are not byte-addressable for exact harvest"
  else none

/-- The range to harvest, once the region is validated, the source owned and the exposure created. -/
def checks (region : RegionRow) (index : Option Index) (ownership exposure : Bool) : Option ByteRange :=
  match index with
  | none => none
  | some index => if (validateRegion region index).isNone && ownership && exposure then region.bytes else none

/-- Where a call of `harvest` stands. -/
inductive Phase
  | idle
  /-- The claim is committed, the region not read back yet. -/
  | granted (regionKey : String)
  /-- The region as `get_region` returned it. -/
  | claimed (regionKey : String) (region : RegionRow)
  /-- Validated, owned and exposed. -/
  | checked (regionKey : String) (range : ByteRange)
  /-- Nothing is left to read. -/
  | exhausted (regionKey : String)
  /-- Reading from `prior_cursor`. -/
  | reading (regionKey : String) (prior : Int)
  /-- Completed or released, with the exposure still to be recorded. -/
  | recording (regionKey : String) (prior : Int)
  /-- In `except BaseException`, before the region is read. -/
  | failing (regionKey : String) (prior : Int)
  /-- In `except BaseException`, before the release. -/
  | restoring (regionKey : String) (prior : Int)

/-- The regions, and the call of `harvest` of every owner. -/
structure System where
  regions : Regions
  phases : String → Phase

/-- What a process does next; failures and answers of other parts are inputs. -/
inductive HarvestOp
  | claim (regionKey : String) (ttlSeconds : PyFloat)
  | renew (regionKey : String) (ttlSeconds : PyFloat)
  | recover
  | release (regionKey : String) (resumeCursor : Option Int)
  | complete (regionKey : String)
  /-- `harvest` starts with its claim. -/
  | harvest (regionKey : String) (ttlSeconds : PyFloat)
  | fetch
  /-- The index that the registry returns; whether the source is owned and the exposure is created. -/
  | check (index : Option Index) (ownership exposure : Bool)
  | locate
  /-- Whether the source is still owned when an exhausted region is completed. -/
  | exhaust (ownership : Bool)
  /-- The next cursor of the transport, after every flush and check; `none` when one of them failed. -/
  | execute (next : Option (Option Int))
  | record (recorded : Bool)
  | inspect
  | restore
  /-- The process dies, or an exception leaves `harvest` where nothing catches it. -/
  | stop

/-- A step of the process of an owner, at a reading of the clock. -/
structure HarvestEvent where
  now : ℚ
  owner : String
  op : HarvestOp

def System.at_ (s : System) (owner : String) (phase : Phase) : System :=
  { s with phases := Function.update s.phases owner phase }

/-- The news that an owner has of its claims. -/
abbrev HarvestNews := List (News String String)

/-- The claim of a region, by a call or by `harvest`. -/
def claimStep (s : System) (e : HarvestEvent) (regionKey : String) (ttlSeconds : PyFloat) (phase : Phase) :
    HarvestNews × System :=
  match claimRegion s.regions e.now regionKey e.owner ttlSeconds with
  | (.ok true, regions) =>
    ([.held e.owner regionKey ((PyFloat.fin e.now).add ttlSeconds)], { s with regions }.at_ e.owner phase)
  | (_, regions) => ([], { s with regions })

/-- A renewal, by a call or by the heartbeat of `harvest`. -/
def renewStep (s : System) (e : HarvestEvent) (regionKey : String) (ttlSeconds : PyFloat) : HarvestNews × System :=
  match renewRegion s.regions e.now regionKey e.owner ttlSeconds with
  | (.ok expires, regions) => ([.held e.owner regionKey expires], { s with regions })
  | (.error _, regions) => ([], { s with regions })

/-- A completion or release; `ok` and `failed` are the phases after it. -/
def endStep (s : System) (owner regionKey : String) (answer : Except String Unit × Regions) (ok failed : Phase) :
    HarvestNews × System :=
  match answer with
  | (.ok _, regions) => ([.ended owner regionKey], { s with regions }.at_ owner ok)
  | (.error _, regions) => ([], { s with regions }.at_ owner failed)

/-- One step. Outside `harvest` an owner makes single calls; inside it only its heartbeat does. -/
def step (s : System) (e : HarvestEvent) : HarvestNews × System :=
  let w := e.owner
  match e.op, s.phases w with
  | .recover, _ => ([], { s with regions := recoverExpired s.regions e.now })
  | .renew key ttl, _ => renewStep s e key ttl
  | .claim key ttl, .idle => claimStep s e key ttl .idle
  | .release key cursor, .idle => endStep s w key (releaseRegion s.regions e.now key w cursor) .idle .idle
  | .complete key, .idle => endStep s w key (completeRegion s.regions e.now key w) .idle .idle
  | .harvest key ttl, .idle => claimStep s e key ttl (.granted key)
  | .fetch, .granted key =>
    match s.regions.get? key with
    | none => ([], s.at_ w .idle)
    | some region => ([], s.at_ w (.claimed key region))
  | .check index ownership exposure, .claimed key region =>
    match checks region index ownership exposure with
    | some range => ([], s.at_ w (.checked key range))
    | none => endStep s w key (releaseRegion s.regions e.now key w none) .idle .idle
  | .locate, .checked key range =>
    match s.regions.get? key with
    | none => ([], s.at_ w .idle)
    | some row =>
      let start := row.harvestCursor.getD range.byteStart
      ([], s.at_ w (if range.byteEnd + 1 ≤ start then .exhausted key else .reading key start))
  | .exhaust ownership, .exhausted key =>
    if ownership then endStep s w key (completeRegion s.regions e.now key w) .idle .idle else ([], s.at_ w .idle)
  | .execute next, .reading key prior =>
    match next with
    | none => ([], s.at_ w (.failing key prior))
    | some none => endStep s w key (completeRegion s.regions e.now key w) (.recording key prior) (.failing key prior)
    | some (some cursor) =>
      if cursor ≤ prior then ([], s.at_ w (.failing key prior))
      else endStep s w key (releaseRegion s.regions e.now key w (some cursor)) (.recording key prior) (.failing key prior)
  | .record recorded, .recording key prior => ([], s.at_ w (if recorded then .idle else .failing key prior))
  | .inspect, .failing key prior =>
    ([], s.at_ w (if (s.regions.get? key).any (·.state = .harvesting) then .restoring key prior else .idle))
  | .restore, .restoring key prior => endStep s w key (releaseRegion s.regions e.now key w (some prior)) .idle .idle
  | .stop, _ => ([], s.at_ w .idle)
  | _, _ => ([], s)

/-- The processes over a table of regions. -/
def harvesters (regions : Regions) : Machine System HarvestEvent HarvestNews where
  initial := ⟨regions, fun _ => .idle⟩
  step := step

/-! ## Safety -/

def Planned (regions : Regions) : Prop := ∀ row ∈ regions.rows, row.harvestOwner = none ∧ row.Inside

/-- The position after a release with a cursor is not behind the position before it. -/
def Forward (row : RegionRow) (resumeCursor : Option Int) : Prop :=
  ∀ at_, row.position = some at_ → ∃ reached, { row with harvestCursor := resumeCursor }.position = some reached ∧ at_ ≤ reached

/-- A release that is accepted carries the position on: one that is called with a cursor, and the
    one without a cursor that `harvest` makes when its checks fail. -/
def Carries (s : System) (e : HarvestEvent) : Prop :=
  match e.op, s.phases e.owner with
  | .release key cursor, .idle => ∀ row, s.regions.get? key = some row → row.ownedBy e.owner e.now →
      cursor.any (· < 0) = false → cursorProblem row cursor = none → Forward row cursor
  | .check index ownership exposure, .claimed key region => checks region index ownership exposure = none →
      ∀ row, s.regions.get? key = some row → row.ownedBy e.owner e.now → Forward row none
  | _, _ => True

/-- What the news of the first events tells each owner. -/
def heard (regions : Regions) (es : List HarvestEvent) : HarvestNews := learned (harvesters regions) (·.outcome) es

structure HarvestSafe (regions : Regions) (es : List HarvestEvent) : Prop where
  /-- An owner whose claim has not run out is the owner of the row. -/
  owned : ∀ before after, es = before ++ after → ∀ now, Clocked HarvestEvent.now before now → ∀ key owner,
    Live (heard regions before) owner key now →
      ∃ row, ((harvesters regions).final before).regions.get? key = some row ∧ row.ownedBy owner now
  /-- Two live owners of a region are one. -/
  single : ∀ before after, es = before ++ after → ∀ now, Clocked HarvestEvent.now before now → ∀ key owner owner',
    Live (heard regions before) owner key now → Live (heard regions before) owner' key now → owner = owner'
  /-- Only the live owner completes a region or moves its cursor. -/
  fenced : ∀ r ∈ (harvesters regions).trace es, ∀ key row row', r.before.regions.get? key = some row →
    r.after.regions.get? key = some row' →
    row'.state = .harvested ∧ row.state ≠ .harvested ∨ row'.harvestCursor ≠ row.harvestCursor →
      row.ownedBy r.event.owner r.event.now
  /-- A harvested region stays harvested. -/
  kept : ∀ r ∈ (harvesters regions).trace es, ∀ key row, r.before.regions.get? key = some row → row.state = .harvested →
    ∃ row', r.after.regions.get? key = some row' ∧ row'.state = .harvested
  /-- The resume position of a region that is not harvested never decreases. -/
  forward : ∀ r ∈ (harvesters regions).trace es, ∀ key row row', r.before.regions.get? key = some row →
    r.after.regions.get? key = some row' → row'.state ≠ .harvested → ∀ at_, row.position = some at_ →
      ∃ reached, row'.position = some reached ∧ at_ ≤ reached
  /-- The resume position stays in the region, or right behind it. -/
  inside : ∀ r ∈ (harvesters regions).trace es, ∀ row' ∈ r.after.regions.rows, row'.Inside

/-! ## What one step does -/

def claimedRegions (regions : Regions) (now : ℚ) (regionKey owner : String) (ttlSeconds : PyFloat) : Regions :=
  (recoverExpired regions now).update (fun r => r.regionKey = regionKey && r.state = .harvestReady) (fun r => { r with
    state := .harvesting, harvestOwner := some owner,
    harvestExpiresAt := ((PyFloat.fin now).add ttlSeconds).column, updatedAt := now })

/-- Who releases a region, and with which cursor. -/
def ReleasedBy (s : System) (e : HarvestEvent) (key : String) (row : RegionRow) (cursor : Option Int) : Prop :=
  (Carries s e → Forward row cursor) ∨
    ∃ prior reached, (s.phases e.owner = .reading key prior ∨ s.phases e.owner = .restoring key prior) ∧ cursor = some reached ∧ prior ≤ reached

inductive StepMove (s : System) (e : HarvestEvent) : HarvestNews → Regions → Prop
  | same : StepMove s e [] s.regions
  | recovered : StepMove s e [] (recoverExpired s.regions e.now)
  | claimed (key : String) (ttl : PyFloat) (open_ : ((recoverExpired s.regions e.now).get? key).any (·.state = .harvestReady)) :
      StepMove s e [.held e.owner key ((PyFloat.fin e.now).add ttl)] (claimedRegions s.regions e.now key e.owner ttl)
  | renewed (key : String) (ttl : PyFloat) (row : RegionRow) (found : s.regions.get? key = some row)
      (owned : row.ownedBy e.owner e.now) :
      StepMove s e [.held e.owner key ((PyFloat.fin e.now).add ttl)] (s.regions.update (·.regionKey = key)
        ({ · with harvestExpiresAt := ((PyFloat.fin e.now).add ttl).column, updatedAt := e.now }))
  | completed (key : String) (row : RegionRow) (found : s.regions.get? key = some row) (owned : row.ownedBy e.owner e.now) :
      StepMove s e [.ended e.owner key] (s.regions.update (·.regionKey = key) (·.freed .harvested none e.now))
  | released (key : String) (row : RegionRow) (found : s.regions.get? key = some row) (owned : row.ownedBy e.owner e.now)
      (cursor : Option Int) (inside : cursorProblem row cursor = none) (by_ : ReleasedBy s e key row cursor) :
      StepMove s e [.ended e.owner key] (s.regions.update (·.regionKey = key) (·.freed .harvestReady cursor e.now))

theorem claim_moves (s : System) (e : HarvestEvent) (key : String) (ttl : PyFloat) (phase : Phase) :
    StepMove s e (claimStep s e key ttl phase).1 (claimStep s e key ttl phase).2.regions := by
  unfold claimStep claimRegion
  by_cases noOwner : blank e.owner = true
  · rw [if_pos noOwner]
    exact .same
  rw [if_neg noOwner]
  by_cases noTime : ttl.le (.fin 0) = true
  · rw [if_pos noTime]
    exact .same
  rw [if_neg noTime]
  dsimp only
  cases open_ : ((recoverExpired s.regions e.now).get? key).any (·.state = .harvestReady) with
  | true => exact .claimed key ttl open_
  | false =>
    have idle : ∀ r ∈ (recoverExpired s.regions e.now).rows,
        (decide (r.regionKey = key) && decide (r.state = .harvestReady)) = false := by
      intro r member
      by_contra ready
      simp only [Bool.not_eq_false, Bool.and_eq_true, decide_eq_true_eq] at ready
      rw [← ready.1, Table.get?_mem member] at open_
      simp [ready.2] at open_
    rw [Table.update_eq_self _ _ idle]
    exact .recovered

theorem complete_moves (s : System) (e : HarvestEvent) (key : String) (ok failed : Phase) :
    StepMove s e (endStep s e.owner key (completeRegion s.regions e.now key e.owner) ok failed).1
      (endStep s e.owner key (completeRegion s.regions e.now key e.owner) ok failed).2.regions := by
  unfold completeRegion
  split
  · exact .same
  split
  · rename_i owned
    obtain ⟨row, found, isOwned⟩ := (Option.any_eq_true _ _).mp owned
    exact .completed key row found isOwned
  · exact .same

theorem release_moves (s : System) (e : HarvestEvent) (key : String) (cursor : Option Int) (ok failed : Phase)
    (by_ : ∀ row, s.regions.get? key = some row → row.ownedBy e.owner e.now → cursor.any (· < 0) = false →
      cursorProblem row cursor = none → ReleasedBy s e key row cursor) :
    StepMove s e (endStep s e.owner key (releaseRegion s.regions e.now key e.owner cursor) ok failed).1
      (endStep s e.owner key (releaseRegion s.regions e.now key e.owner cursor) ok failed).2.regions := by
  unfold releaseRegion
  split
  · exact .same
  split
  · exact .same
  rename_i nonneg
  split
  · exact .same
  rename_i row isRow
  obtain ⟨found, owned⟩ := Option.filter_eq_some_iff.mp isRow
  split
  · exact .same
  · rename_i inside
    exact .released key row found owned cursor inside (by_ row found owned (Bool.eq_false_iff.mpr nonneg) inside)

theorem renew_moves (s : System) (e : HarvestEvent) (key : String) (ttl : PyFloat) :
    StepMove s e (renewStep s e key ttl).1 (renewStep s e key ttl).2.regions := by
  unfold renewStep renewRegion
  by_cases noOwner : blank e.owner = true
  · rw [if_pos noOwner]
    exact .same
  rw [if_neg noOwner]
  by_cases noTime : ttl.le (.fin 0) = true
  · rw [if_pos noTime]
    exact .same
  rw [if_neg noTime]
  by_cases owned : (s.regions.get? key).any (·.ownedBy e.owner e.now) = true
  · rw [if_pos owned]
    obtain ⟨row, found, isOwned⟩ := (Option.any_eq_true _ _).mp owned
    exact .renewed key ttl row found isOwned
  · rw [if_neg owned]
    exact .same

theorem step_moves (s : System) (e : HarvestEvent) : StepMove s e (step s e).1 (step s e).2.regions := by
  unfold step
  dsimp only
  split
  · exact .recovered
  · exact renew_moves s e _ _
  · exact claim_moves s e _ _ _
  · rename_i key cursor op idle
    refine release_moves s e key cursor _ _ fun row found owned nonneg inside => .inl fun carries => ?_
    simp only [Carries, op, idle] at carries
    exact carries row found owned nonneg inside
  · exact complete_moves s e _ _ _
  · exact claim_moves s e _ _ _
  · split <;> exact .same
  · rename_i index ownership exposure key region op claimed
    split
    · exact .same
    · rename_i failed
      refine release_moves s e key none _ _ fun row found owned _ _ => .inl fun carries => ?_
      simp only [Carries, op, claimed] at carries
      exact carries failed row found owned
  · split <;> exact .same
  · split
    · exact complete_moves s e _ _ _
    · exact .same
  · rename_i next key prior _ reading
    split
    · exact .same
    · exact complete_moves s e _ _ _
    · rename_i cursor _
      split
      · exact .same
      · rename_i progress
        exact release_moves s e key _ _ _ fun row _ _ _ _ => .inr ⟨prior, cursor, .inl reading, rfl, by omega⟩
  · exact .same
  · exact .same
  · rename_i key prior _ restoring
    exact release_moves s e key _ _ _ fun row _ _ _ _ => .inr ⟨prior, prior, .inr restoring, rfl, le_refl _⟩
  · exact .same
  · exact .same

/-! ## What one step does to one region -/

/-- The claim of a region has run out. -/
def RegionRow.expired (row : RegionRow) (now : ℚ) : Bool :=
  row.state = .harvesting && row.harvestExpiresAt.any (·.le (.fin now))

inductive RowMove (s : System) (e : HarvestEvent) (key : String) (row : RegionRow) : RegionRow → Prop
  | same : RowMove s e key row row
  | recovered (expired : row.expired e.now) : RowMove s e key row (row.freed .harvestReady row.harvestCursor e.now)
  | claimed (open_ : row.state = .harvestReady ∨ row.expired e.now) (expires : Option PyFloat) :
      RowMove s e key row { row with
        state := .harvesting, harvestOwner := some e.owner, harvestExpiresAt := expires, updatedAt := e.now }
  | renewed (owned : row.ownedBy e.owner e.now) (expires : Option PyFloat) :
      RowMove s e key row { row with harvestExpiresAt := expires, updatedAt := e.now }
  | completed (owned : row.ownedBy e.owner e.now) : RowMove s e key row (row.freed .harvested none e.now)
  | released (owned : row.ownedBy e.owner e.now) (cursor : Option Int) (inside : cursorProblem row cursor = none)
      (by_ : ReleasedBy s e key row cursor) : RowMove s e key row (row.freed .harvestReady cursor e.now)

theorem get?_recoverExpired (regions : Regions) (now : ℚ) (key : String) :
    (recoverExpired regions now).get? key = (regions.get? key).map (fun r =>
      if r.expired now then r.freed .harvestReady r.harvestCursor now else r) :=
  Table.get?_update ..

theorem recover_row (s : System) (e : HarvestEvent) (key : String) (row : RegionRow) :
    RowMove s e key row (if row.expired e.now then row.freed .harvestReady row.harvestCursor e.now else row) := by
  split
  · rename_i expired
    exact .recovered expired
  · exact .same

theorem row_moves {s : System} {e : HarvestEvent} {news : HarvestNews} {regions : Regions}
    (move : StepMove s e news regions) {key : String} {row' : RegionRow} (after : regions.get? key = some row') :
    ∃ row, s.regions.get? key = some row ∧ RowMove s e key row row' := by
  cases move with
  | same => exact ⟨row', after, .same⟩
  | recovered =>
    rw [get?_recoverExpired] at after
    obtain ⟨row, found, rfl⟩ := Option.map_eq_some_iff.mp after
    exact ⟨row, found, recover_row ..⟩
  | claimed k ttl open_ =>
    rw [claimedRegions, Table.get?_update, get?_recoverExpired, Option.map_map] at after
    obtain ⟨row, found, rfl⟩ := Option.map_eq_some_iff.mp after
    refine ⟨row, found, ?_⟩
    simp only [Function.comp_apply]
    by_cases expired : row.expired e.now = true
    · rw [if_pos expired]
      split
      · exact .claimed (.inr expired) _
      · exact .recovered expired
    · rw [if_neg expired]
      split
      · rename_i ready
        simp only [Bool.and_eq_true, decide_eq_true_eq] at ready
        exact .claimed (.inl ready.2) _
      · exact .same
  | renewed k ttl owner found owned | completed k owner found owned =>
    rw [Table.get?_update] at after
    obtain ⟨row, isRow, rfl⟩ := Option.map_eq_some_iff.mp after
    refine ⟨row, isRow, ?_⟩
    split
    · rename_i here
      have same := Table.get?_key isRow
      rw [of_decide_eq_true here] at same
      subst same
      rw [found] at isRow
      cases isRow
      constructor
      exact owned
    · exact .same
  | released k owner found owned cursor inside by_ =>
    rw [Table.get?_update] at after
    obtain ⟨row, isRow, rfl⟩ := Option.map_eq_some_iff.mp after
    refine ⟨row, isRow, ?_⟩
    split
    · rename_i here
      have same := Table.get?_key isRow
      rw [of_decide_eq_true here] at same
      subst same
      rw [found] at isRow
      cases isRow
      exact .released owned cursor inside by_
    · exact .same

theorem row_stays {s : System} {e : HarvestEvent} {news : HarvestNews} {regions : Regions} (move : StepMove s e news regions)
    {key : String} {row : RegionRow} (found : s.regions.get? key = some row) : ∃ row', regions.get? key = some row' := by
  rw [← Option.isSome_iff_exists]
  cases move with
  | same => simp [found]
  | recovered => simp [get?_recoverExpired, found]
  | claimed => simp [claimedRegions, Table.get?_update, get?_recoverExpired, found]
  | renewed | completed | released => simp [Table.get?_update, found]

/-! ## Claims and rows -/

/-- The row shows the claim of an owner. -/
def Held (s : System) (w : String) (key : String) (expires : PyFloat) : Prop :=
  ∃ row, s.regions.get? key = some row ∧ row.state = .harvesting ∧ row.harvestOwner = some w ∧
    row.harvestExpiresAt = some expires

theorem Held.ownedBy {s : System} {w key : String} {expires : PyFloat} {now : ℚ} (held : Held s w key expires)
    (inside : PyFloat.lt (.fin now) expires) : ∃ row, s.regions.get? key = some row ∧ row.ownedBy w now := by
  obtain ⟨row, found, harvesting, owner, until_⟩ := held
  exact ⟨row, found, by simp [RegionRow.ownedBy, harvesting, owner, until_, inside]⟩

theorem not_expired {row : RegionRow} {expires : PyFloat} {now : ℚ} (until_ : row.harvestExpiresAt = some expires)
    (inside : PyFloat.lt (.fin now) expires) : row.expired now = false := by
  have number : expires ≠ .nan := by
    rintro rfl
    cases inside
  simp [RegionRow.expired, until_, PyFloat.le_iff_not_lt number, inside]

theorem owner_eq {row : RegionRow} {w w' : String} {now : ℚ} (owner : row.harvestOwner = some w) (owned : row.ownedBy w' now) :
    w' = w := by
  simp only [RegionRow.ownedBy, Bool.and_eq_true, decide_eq_true_eq] at owned
  rw [owner] at owned
  exact (Option.some.inj owned.1.2).symm

/-- A claim that has not run out survives every step but a new claim, a renewal and the end of
    its own, and these bring news. -/
theorem held_step (s : System) (e : HarvestEvent) (w key : String) (belief : Option PyFloat)
    (before : ∀ expires, belief = some expires → PyFloat.lt (.fin e.now) expires → Held s w key expires) (expires : PyFloat)
    (believed : ticketFrom belief (step s e).1 w key = some expires) (inside : PyFloat.lt (.fin e.now) expires) :
    Held (step s e).2 w key expires := by
  have move := step_moves s e
  generalize (step s e).1 = news at believed move
  have number : expires ≠ .nan := by
    rintro rfl
    cases inside
  unfold Held
  generalize (step s e).2.regions = regions at move ⊢
  cases move with
  | same => exact before expires believed inside
  | recovered =>
    obtain ⟨row, found, harvesting, owner, until_⟩ := before expires believed inside
    refine ⟨row, ?_, harvesting, owner, until_⟩
    rw [get?_recoverExpired, found, Option.map_some, not_expired until_ inside]
    rfl
  | claimed k ttl open_ =>
    simp only [ticketFrom_cons, ticketFrom_nil, believe] at believed
    obtain ⟨ready, isReady, isState⟩ := (Option.any_eq_true _ _).mp open_
    by_cases mine : e.owner = w ∧ k = key
    · obtain ⟨rfl, rfl⟩ := mine
      rw [if_pos ⟨rfl, rfl⟩] at believed
      cases believed
      refine ⟨{ ready with
        state := .harvesting, harvestOwner := some e.owner,
        harvestExpiresAt := ((PyFloat.fin e.now).add ttl).column, updatedAt := e.now }, ?_, rfl, rfl,
        PyFloat.column_of_ne number⟩
      rw [claimedRegions, Table.get?_update, isReady, Option.map_some]
      have same := Table.get?_key isReady
      simp only [same, decide_true, Bool.true_and, isState, if_true]
    · rw [if_neg mine] at believed
      obtain ⟨row, found, harvesting, owner, until_⟩ := before expires believed inside
      refine ⟨row, ?_, harvesting, owner, until_⟩
      rw [claimedRegions, Table.get?_update, get?_recoverExpired, found, Option.map_some, not_expired until_ inside]
      simp [harvesting]
  | renewed k ttl row found owned =>
    simp only [ticketFrom_cons, ticketFrom_nil, believe] at believed
    by_cases mine : e.owner = w ∧ k = key
    · obtain ⟨rfl, rfl⟩ := mine
      rw [if_pos ⟨rfl, rfl⟩] at believed
      cases believed
      simp only [RegionRow.ownedBy, Bool.and_eq_true, decide_eq_true_eq] at owned
      refine ⟨{ row with harvestExpiresAt := ((PyFloat.fin e.now).add ttl).column, updatedAt := e.now }, ?_, owned.1.1,
        owned.1.2, PyFloat.column_of_ne number⟩
      rw [Table.get?_update_key, if_pos rfl, found]
      rfl
    · rw [if_neg mine] at believed
      obtain ⟨other, isOther, harvesting, owner, until_⟩ := before expires believed inside
      have apart : key ≠ k := by
        rintro rfl
        rw [found] at isOther
        cases isOther
        exact mine ⟨owner_eq owner owned, rfl⟩
      exact ⟨other, by rw [Table.get?_update_key, if_neg apart, isOther], harvesting, owner, until_⟩
  | completed k row found owned | released k row found owned =>
    simp only [ticketFrom_cons, ticketFrom_nil, believe] at believed
    by_cases mine : e.owner = w ∧ k = key
    · rw [if_pos mine] at believed
      cases believed
    · rw [if_neg mine] at believed
      obtain ⟨other, isOther, harvesting, owner, until_⟩ := before expires believed inside
      have apart : key ≠ k := by
        rintro rfl
        rw [found] at isOther
        cases isOther
        exact mine ⟨owner_eq owner owned, rfl⟩
      exact ⟨other, by rw [Table.get?_update_key, if_neg apart, isOther], harvesting, owner, until_⟩

theorem live_owned (regions : Regions) {es : List HarvestEvent} {now : ℚ} (clocked : Clocked HarvestEvent.now es now)
    {owner key : String} (live : Live (heard regions es) owner key now) :
    ∃ row, ((harvesters regions).final es).regions.get? key = some row ∧ row.ownedBy owner now := by
  obtain ⟨expires, believed, inside⟩ := live
  exact (live_holds (harvesters regions) (·.outcome) Held held_step es now clocked owner key expires believed
    inside).ownedBy inside

/-! ## Processes and rows -/

def Knows (regions : Regions) (owner : String) : Phase → Prop
  | .claimed key region => ∃ row, regions.get? key = some row ∧ row.bytes = region.bytes
  | .checked key range => ∃ row, regions.get? key = some row ∧ row.bytes = some range
  | .reading key prior | .recording key prior | .failing key prior | .restoring key prior =>
    ∀ row, regions.get? key = some row → row.harvestOwner = some owner → row.position = some prior
  | _ => True

/-- The invariant: every process knows the position of the region that it owns, and every
    position lies in its region. -/
structure Inv (s : System) : Prop where
  knows : ∀ owner, Knows s.regions owner (s.phases owner)
  inside : ∀ row ∈ s.regions.rows, row.Inside

section
variable {s : System} {e : HarvestEvent} {key : String} {row row' : RegionRow}

theorem move_bytes (move : RowMove s e key row row') : row'.bytes = row.bytes := by
  cases move <;> rfl

/-- A step of one owner leaves the regions of another as that one knows them. -/
theorem move_other (move : RowMove s e key row row') {owner : String} (other : owner ≠ e.owner)
    (owns : row'.harvestOwner = some owner) : row.harvestOwner = some owner ∧ row'.position = row.position := by
  cases move with
  | same => exact ⟨owns, rfl⟩
  | renewed => exact ⟨owns, rfl⟩
  | claimed => exact absurd (Option.some.inj owns).symm other
  | recovered | completed | released => cases owns

theorem knows_kept {regions regions' : Regions} {owner : String} {phase : Phase}
    (stays : ∀ key row, regions.get? key = some row → ∃ row', regions'.get? key = some row')
    (keeps : ∀ key row', regions'.get? key = some row' → ∃ row, regions.get? key = some row ∧ row'.bytes = row.bytes ∧
      (row'.harvestOwner = some owner → row.harvestOwner = some owner ∧ row'.position = row.position))
    (knows : Knows regions owner phase) : Knows regions' owner phase := by
  have bytes : ∀ key (range : Option ByteRange), (∃ row, regions.get? key = some row ∧ row.bytes = range) →
      ∃ row', regions'.get? key = some row' ∧ row'.bytes = range := by
    rintro key range ⟨row, found, isRange⟩
    obtain ⟨row', after⟩ := stays key row found
    obtain ⟨old, isOld, same, -⟩ := keeps key row' after
    rw [found] at isOld
    cases isOld
    exact ⟨row', after, same.trans isRange⟩
  cases phase with
  | idle | granted | exhausted => trivial
  | claimed key region => exact bytes key _ knows
  | checked key range => exact bytes key _ knows
  | reading key prior | recording key prior | failing key prior | restoring key prior =>
    intro row' after owns
    obtain ⟨row, found, -, position⟩ := keeps key row' after
    obtain ⟨owned, same⟩ := position owns
    rw [same]
    exact knows row found owned

theorem knows_other {news : HarvestNews} {regions : Regions} (move : StepMove s e news regions) {owner : String}
    (other : owner ≠ e.owner) {phase : Phase} (knows : Knows s.regions owner phase) : Knows regions owner phase := by
  refine knows_kept (fun key row found => row_stays move found) (fun key row' after => ?_) knows
  obtain ⟨row, found, moved⟩ := row_moves move after
  exact ⟨row, found, move_bytes moved, move_other moved other⟩

theorem forward_of_le {cursor prior : Int} (position : row.position = some prior) (le : prior ≤ cursor) :
    Forward row (some cursor) := by
  intro at_ isAt
  rw [position] at isAt
  cases isAt
  exact ⟨cursor, rfl, le⟩

theorem released_forward (inv : Inv s) (carries : Carries s e) (found : s.regions.get? key = some row)
    (owned : row.ownedBy e.owner e.now) {cursor : Option Int} (by_ : ReleasedBy s e key row cursor) : Forward row cursor := by
  rcases by_ with direct | ⟨prior, reached, phase, rfl, le⟩
  · exact direct carries
  · have owner : row.harvestOwner = some e.owner := by
      simp only [RegionRow.ownedBy, Bool.and_eq_true, decide_eq_true_eq] at owned
      exact owned.1.2
    have knows := inv.knows e.owner
    rcases phase with phase | phase <;>
    · rw [phase] at knows
      exact forward_of_le (knows row found owner) le

theorem move_inside (inside : row.Inside) (move : RowMove s e key row row') : row'.Inside := by
  cases move with
  | same => exact inside
  | recovered | claimed | renewed => exact inside
  | completed =>
    intro range bytes at_ position
    simp only [RegionRow.position, Option.none_or, Option.map_eq_some_iff] at position
    obtain ⟨other, isRange, rfl⟩ := position
    rw [bytes] at isRange
    cases isRange
    have := range.ordered
    exact ⟨le_refl _, by omega⟩
  | released owned cursor problem =>
    intro range bytes at_ position
    have := range.ordered
    cases cursor with
    | none =>
      simp only [RegionRow.position, Option.none_or, Option.map_eq_some_iff] at position
      obtain ⟨other, isRange, rfl⟩ := position
      rw [bytes] at isRange
      cases isRange
      exact ⟨le_refl _, by omega⟩
    | some cursor =>
      simp only [RegionRow.position, Option.some_or, Option.some.injEq] at position
      subst position
      have bound : row.bytes = some range := bytes
      simp only [cursorProblem, bound] at problem
      split at problem
      · cases problem
      split at problem
      · cases problem
      omega

end

theorem knows_vacuous {regions : Regions} {owner key : String} {prior : Int}
    (free : ∀ row, regions.get? key = some row → row.harvestOwner = none) :
    ∀ row, regions.get? key = some row → row.harvestOwner = some owner → row.position = some prior := by
  intro row found owns
  rw [free row found] at owns
  cases owns

theorem knows_recover {s : System} {now : ℚ} {owner : String} {phase : Phase} (knows : Knows s.regions owner phase) :
    Knows (recoverExpired s.regions now) owner phase := by
  refine knows_kept (fun key row found => ?_) (fun key row' after => ?_) knows
  · rw [get?_recoverExpired, found]
    exact ⟨_, rfl⟩
  · rw [get?_recoverExpired] at after
    obtain ⟨row, found, rfl⟩ := Option.map_eq_some_iff.mp after
    refine ⟨row, found, ?_⟩
    split
    · exact ⟨rfl, fun owns => by cases owns⟩
    · exact ⟨rfl, fun owns => ⟨owns, rfl⟩⟩

theorem knows_renew {s : System} {e : HarvestEvent} {key : String} {ttl : PyFloat} {owner : String} {phase : Phase}
    (knows : Knows s.regions owner phase) : Knows (renewStep s e key ttl).2.regions owner phase := by
  have move := renew_moves s e key ttl
  unfold renewStep renewRegion at move ⊢
  split
  · rename_i expires regions renews
    split at renews
    · cases renews
    split at renews
    · cases renews
    split at renews
    · cases renews
      refine knows_kept (fun k row found => ?_) (fun k row' after => ?_) knows
      · rw [Table.get?_update, found]
        exact ⟨_, rfl⟩
      · rw [Table.get?_update] at after
        obtain ⟨row, found, rfl⟩ := Option.map_eq_some_iff.mp after
        refine ⟨row, found, ?_⟩
        split <;> exact ⟨rfl, fun owns => ⟨owns, rfl⟩⟩
    · cases renews
  · rename_i err regions renews
    split at renews
    · cases renews
      exact knows
    split at renews
    · cases renews
      exact knows
    split at renews
    · cases renews
    · cases renews
      exact knows

theorem complete_cases (regions : Regions) (now : ℚ) (key owner : String) :
    (∃ err, completeRegion regions now key owner = (.error err, regions)) ∨
      completeRegion regions now key owner =
        (.ok (), regions.update (·.regionKey = key) (·.freed .harvested none now)) := by
  unfold completeRegion
  split
  · exact .inl ⟨_, rfl⟩
  split
  · exact .inr rfl
  · exact .inl ⟨_, rfl⟩

theorem release_cases (regions : Regions) (now : ℚ) (key owner : String) (cursor : Option Int) :
    (∃ err, releaseRegion regions now key owner cursor = (.error err, regions)) ∨
      releaseRegion regions now key owner cursor =
        (.ok (), regions.update (·.regionKey = key) (·.freed .harvestReady cursor now)) := by
  unfold releaseRegion
  split
  · exact .inl ⟨_, rfl⟩
  split
  · exact .inl ⟨_, rfl⟩
  split
  · exact .inl ⟨_, rfl⟩
  split
  · exact .inl ⟨_, rfl⟩
  · exact .inr rfl

theorem freed_free {regions : Regions} {key : String} {state : RegionState} {cursor : Option Int} {now : ℚ} (row : RegionRow)
    (found : (regions.update (·.regionKey = key) (·.freed state cursor now)).get? key = some row) :
    row.harvestOwner = none := by
  rw [Table.get?_update_key, if_pos rfl] at found
  obtain ⟨old, -, rfl⟩ := Option.map_eq_some_iff.mp found
  rfl

theorem end_knows {s : System} {owner key : String} {answer : Except String Unit × Regions} {ok failed : Phase}
    (cases_ : (∃ err, answer = (.error err, s.regions)) ∨ ∃ state cursor now,
      answer = (.ok (), s.regions.update (·.regionKey = key) (RegionRow.freed · state cursor now)))
    (afterOk : ∀ regions : Regions, (∀ row, regions.get? key = some row → row.harvestOwner = none) → Knows regions owner ok)
    (afterFailed : Knows s.regions owner failed) :
    Knows (endStep s owner key answer ok failed).2.regions owner ((endStep s owner key answer ok failed).2.phases owner) := by
  rcases cases_ with ⟨err, rfl⟩ | ⟨state, cursor, now, rfl⟩
  · simpa [endStep, System.at_] using afterFailed
  · simpa [endStep, System.at_] using afterOk _ freed_free

theorem renew_phases (s : System) (e : HarvestEvent) (key : String) (ttl : PyFloat) :
    (renewStep s e key ttl).2.phases = s.phases := by
  unfold renewStep
  split <;> rfl

theorem claim_phase (s : System) (e : HarvestEvent) (key : String) (ttl : PyFloat) (phase : Phase) :
    (claimStep s e key ttl phase).2.phases e.owner = phase ∨ (claimStep s e key ttl phase).2.phases = s.phases := by
  unfold claimStep
  split
  · exact .inl (by simp [System.at_])
  · exact .inr rfl

theorem knows_actor {s : System} (inv : Inv s) (e : HarvestEvent) :
    Knows (step s e).2.regions e.owner ((step s e).2.phases e.owner) := by
  have knows := inv.knows e.owner
  have completes : ∀ key, (∃ err, completeRegion s.regions e.now key e.owner = (.error err, s.regions)) ∨
      ∃ state cursor now, completeRegion s.regions e.now key e.owner =
        (.ok (), s.regions.update (·.regionKey = key) (RegionRow.freed · state cursor now)) :=
    fun key => (complete_cases ..).imp id fun is => ⟨_, _, _, is⟩
  have releases : ∀ key cursor, (∃ err, releaseRegion s.regions e.now key e.owner cursor = (.error err, s.regions)) ∨
      ∃ state cursor' now, releaseRegion s.regions e.now key e.owner cursor =
        (.ok (), s.regions.update (·.regionKey = key) (RegionRow.freed · state cursor' now)) :=
    fun key cursor => (release_cases ..).imp id fun is => ⟨_, _, _, is⟩
  unfold step
  dsimp only
  split
  · exact knows_recover knows
  · rw [renew_phases]
    exact knows_renew knows
  · rename_i key ttl op idle
    rcases claim_phase s e key ttl .idle with phase | phase
    · rw [phase]
      trivial
    · rw [phase, idle]
      trivial
  · exact end_knows (releases _ _) (fun _ _ => trivial) trivial
  · exact end_knows (completes _) (fun _ _ => trivial) trivial
  · rename_i key ttl op idle
    rcases claim_phase s e key ttl (.granted key) with phase | phase
    · rw [phase]
      trivial
    · rw [phase, idle]
      trivial
  · rename_i key _ _
    split
    · simp [System.at_, Knows]
    · rename_i region found
      simpa [System.at_, Knows] using ⟨region, found, rfl⟩
  · rename_i index ownership exposure key region op claimed
    rw [claimed] at knows
    split
    · rename_i range passed
      obtain ⟨row, found, bytes⟩ := knows
      have isRange : region.bytes = some range := by
        unfold checks at passed
        split at passed
        · cases passed
        · split at passed
          · exact passed
          · cases passed
      simpa [System.at_, Knows] using ⟨row, found, bytes.trans isRange⟩
    · exact end_knows (releases _ _) (fun _ _ => trivial) trivial
  · rename_i key range op checked
    rw [checked] at knows
    split
    · simp [System.at_, Knows]
    · rename_i row found
      obtain ⟨other, isOther, bytes⟩ := knows
      rw [found] at isOther
      cases isOther
      have position : row.position = some (row.harvestCursor.getD range.byteStart) := by
        unfold RegionRow.position
        cases row.harvestCursor <;> simp [bytes]
      simp only [System.at_, Function.update_self]
      split
      · trivial
      · intro other isOther _
        rw [found] at isOther
        cases isOther
        exact position
  · split
    · exact end_knows (completes _) (fun _ _ => trivial) trivial
    · simp [System.at_, Knows]
  · rename_i next key prior op reading
    rw [reading] at knows
    split
    · simpa [System.at_, Knows] using knows
    · exact end_knows (completes _) (fun _ free => knows_vacuous free) knows
    · split
      · simpa [System.at_, Knows] using knows
      · exact end_knows (releases _ _) (fun _ free => knows_vacuous free) knows
  · rename_i recorded key prior op recording
    rw [recording] at knows
    simp only [System.at_, Function.update_self]
    split
    · trivial
    · exact knows
  · rename_i key prior op failing
    rw [failing] at knows
    simp only [System.at_, Function.update_self]
    split
    · exact knows
    · trivial
  · exact end_knows (releases _ _) (fun _ _ => trivial) trivial
  · simp [System.at_, Knows]
  · exact knows

theorem step_phases (s : System) (e : HarvestEvent) {owner : String} (other : owner ≠ e.owner) :
    (step s e).2.phases owner = s.phases owner := by
  have at_ : ∀ (s : System) phase, (s.at_ e.owner phase).phases owner = s.phases owner := by
    intro s phase
    simp [System.at_, Function.update_of_ne other]
  have ends : ∀ key answer ok failed, (endStep s e.owner key answer ok failed).2.phases owner = s.phases owner := by
    intro key answer ok failed
    unfold endStep
    split <;> simp only [at_]
  have claims : ∀ key ttl phase, (claimStep s e key ttl phase).2.phases owner = s.phases owner := by
    intro key ttl phase
    unfold claimStep
    split <;> simp only [at_]
  unfold step
  dsimp only
  split
  · rfl
  · rw [renew_phases]
  · exact claims ..
  · exact ends ..
  · exact ends ..
  · exact claims ..
  · split <;> simp only [at_]
  · split
    · simp only [at_]
    · exact ends ..
  · split <;> simp only [at_]
  · split
    · exact ends ..
    · simp only [at_]
  · split
    · simp only [at_]
    · exact ends ..
    · split
      · simp only [at_]
      · exact ends ..
  · simp only [at_]
  · simp only [at_]
  · exact ends ..
  · simp only [at_]
  · rfl

theorem inv_step {s : System} (inv : Inv s) (e : HarvestEvent) : Inv (step s e).2 := by
  have move := step_moves s e
  refine ⟨fun owner => ?_, fun row' member => ?_⟩
  · by_cases actor : owner = e.owner
    · rw [actor]
      exact knows_actor inv e
    · rw [step_phases s e actor]
      exact knows_other move actor (inv.knows owner)
  · obtain ⟨row, found, moved⟩ := row_moves move (Table.get?_mem member)
    exact move_inside (inv.inside row (Table.mem_of_get? found)) moved

/-- The run lemma. -/
theorem inv_final {regions : Regions} (planned : Planned regions) (es : List HarvestEvent) :
    Inv ((harvesters regions).final es) := by
  refine Machine.invariant _ ⟨fun _ => trivial, fun row member => (planned row member).2⟩ ?_ es
  intro s e inv
  exact inv_step inv e

/-- Harvests are safe in every run in which every release carries the position on. -/
theorem harvest_safe (regions : Regions) (planned : Planned regions) (es : List HarvestEvent)
    (carries : ∀ r ∈ (harvesters regions).trace es, Carries r.before r.event) : HarvestSafe regions es := by
  have moves : ∀ {r : Step System HarvestEvent HarvestNews}, r ∈ (harvesters regions).trace es → ∀ {key row'},
      r.after.regions.get? key = some row' → ∃ row, r.before.regions.get? key = some row ∧
        Inv r.before ∧ Carries r.before r.event ∧ RowMove r.before r.event key row row' := by
    intro r member key row' after
    have carry := carries r member
    obtain ⟨before, rest, -, isStep⟩ := (harvesters regions).mem_trace member
    rw [isStep] at after carry ⊢
    obtain ⟨row, found, moved⟩ := row_moves (step_moves _ r.event) after
    exact ⟨row, found, inv_final planned before, carry, moved⟩
  refine ⟨?_, ?_, ?_, ?_, ?_, ?_⟩
  · intro before after _ now clock key owner live
    exact live_owned regions clock live
  · intro before after _ now clock key owner owner' live live'
    obtain ⟨row, found, owned⟩ := live_owned regions clock live
    obtain ⟨row', found', owned'⟩ := live_owned regions clock live'
    rw [found] at found'
    cases found'
    have name : row.harvestOwner = some owner := by
      simp only [RegionRow.ownedBy, Bool.and_eq_true, decide_eq_true_eq] at owned
      exact owned.1.2
    exact (owner_eq name owned').symm
  · intro r member key row row' found after change
    obtain ⟨old, isOld, -, -, moved⟩ := moves member after
    rw [found] at isOld
    cases isOld
    cases moved with
    | same => simp at change
    | recovered | claimed | renewed => simp at change
    | completed owned | released owned => exact owned
  · intro r member key row found harvested
    obtain ⟨before, rest, -, isStep⟩ := (harvesters regions).mem_trace member
    rw [isStep] at found ⊢
    obtain ⟨row', after⟩ := row_stays (step_moves _ r.event) found
    refine ⟨row', after, ?_⟩
    obtain ⟨old, isOld, moved⟩ := row_moves (step_moves _ r.event) after
    rw [found] at isOld
    cases isOld
    cases moved with
    | same => exact harvested
    | recovered expired => simp [RegionRow.expired, harvested] at expired
    | claimed open_ => simp [RegionRow.expired, harvested] at open_
    | renewed owned | completed owned | released owned => simp [RegionRow.ownedBy, harvested] at owned
  · intro r member key row row' found after open_ at_ position
    obtain ⟨old, isOld, inv, carry, moved⟩ := moves member after
    rw [found] at isOld
    cases isOld
    cases moved with
    | same | recovered | claimed | renewed => exact ⟨at_, position, le_refl _⟩
    | completed => simp at open_
    | released owned cursor inside by_ => exact released_forward inv carry found owned by_ at_ position
  · intro r member row' after
    obtain ⟨row, found, inv, -, moved⟩ := moves member (Table.get?_mem after)
    exact move_inside (inv.inside row (Table.mem_of_get? found)) moved

/-- A region of a hundred bytes, ready to harvest. -/
def hundredBytes : Regions := Table.empty.insert {
  regionKey := "r", indexKey := "x", bytes := some ⟨0, 99, by decide, by decide⟩, state := .harvestReady,
  harvestOwner := none, harvestExpiresAt := none, harvestCursor := none, updatedAt := 0 }

def firstHalf : List HarvestEvent := [
  ⟨0, "a", .harvest "r" (.fin 100)⟩, ⟨1, "a", .fetch⟩, ⟨2, "a", .check (some ⟨"x", "CDX", true, false⟩) true true⟩,
  ⟨3, "a", .locate⟩, ⟨4, "a", .execute (some (some 50))⟩, ⟨5, "a", .record true⟩]

theorem hundredBytes_planned : Planned hundredBytes := by
  intro row member
  rw [hundredBytes, Table.rows_insert (Table.get?_empty _), Table.rows_empty, List.nil_append, List.mem_singleton] at member
  subst member
  refine ⟨rfl, fun range bytes at_ position => ?_⟩
  cases bytes
  cases position
  decide

theorem firstHalf_safe : HarvestSafe hundredBytes firstHalf ∧
    (((harvesters hundredBytes).final firstHalf).regions.get? "r").map (·.harvestCursor) = some (some 50) := by
  refine ⟨harvest_safe hundredBytes hundredBytes_planned firstHalf ?_, by decide +kernel⟩
  intro r member
  simp only [firstHalf, Machine.trace, Machine.traceFrom_cons, Machine.traceFrom_nil, List.mem_cons, List.not_mem_nil,
    or_false] at member
  rcases member with rfl | rfl | rfl | rfl | rfl | rfl
  · trivial
  · trivial
  · intro failed
    cases failed
  · trivial
  · trivial
  · trivial

/-- A source that is no longer owned when the second half starts. -/
def secondHalf : List HarvestEvent := [⟨10, "a", .harvest "r" (.fin 100)⟩, ⟨11, "a", .fetch⟩]

theorem failed_check_rewinds : ¬∀ regions es, Planned regions → HarvestSafe regions es := by
  intro safe
  have rewinds := (safe hundredBytes (firstHalf ++ secondHalf ++ [⟨12, "a", .check (some ⟨"x", "CDX", true, false⟩) false true⟩])
    hundredBytes_planned).forward _ (by rw [Machine.trace_snoc]; exact List.mem_append_right _ (List.mem_singleton.mpr rfl)) "r"
  have before : (((harvesters hundredBytes).final (firstHalf ++ secondHalf)).regions.get? "r").map RegionRow.position =
      some (some 50) := by decide +kernel
  have after : (((harvesters hundredBytes).final (firstHalf ++ secondHalf ++
      [⟨12, "a", .check (some ⟨"x", "CDX", true, false⟩) false true⟩])).regions.get? "r").map
      (fun row => (row.state, row.position)) = some (.harvestReady, some 0) := by decide +kernel
  rw [Machine.final_snoc] at after
  obtain ⟨row, found, position⟩ := Option.map_eq_some_iff.mp before
  obtain ⟨row', found', columns⟩ := Option.map_eq_some_iff.mp after
  obtain ⟨state, position'⟩ := Prod.mk.inj columns
  obtain ⟨reached, isReached, le⟩ := rewinds row row' found found' (by simp [state]) 50 position
  rw [position'] at isReached
  cases isReached
  exact absurd le (by decide)

end Creeper.RegionHarvest
