import Creeper.Hashing
import Creeper.RegionHarvest

/-!
# The registry of index spaces

`source_discovery/index_registry.py`: how an index is cut into regions, and what was measured in
them. The upsert of a region protects its state but not its bounds, so a later call for the same
region may move a region that is already in progress.
-/

namespace Creeper.IndexRegions
open Creeper.Runs Creeper.Tables Creeper.PyNumbers Creeper.Hashing Creeper.RegionHarvest
open Creeper.FabricModels (PyError blank)

deriving instance DecidableEq for ByteRange

/-! ## Index spaces -/

inductive SourceAccessMode
  | opaque_
  | rangeStream
  | sortedIndex
  | queryApi
  deriving DecidableEq, Repr

inductive RegionKind
  | full
  | byteRange
  | keyPrefix
  | year
  | shard
  deriving DecidableEq, Repr

def RegionKind.value : RegionKind → String
  | .full => "FULL"
  | .byteRange => "BYTE_RANGE"
  | .keyPrefix => "KEY_PREFIX"
  | .year => "YEAR"
  | .shard => "SHARD"

inductive MeasurementMode
  | hostOnly
  | hostYear
  deriving DecidableEq, Repr

/-- `SourceCapabilities`. -/
structure SourceCapabilities where
  accessMode : SourceAccessMode
  format : String
  hierarchical : Bool
  rangeSupported : Bool
  timestampBearing : Bool
  directEvidenceAuthority : Bool
  sortedKeyspace : Option String
  supportsQuery : Bool
  supportsPrefix : Bool
  supportsDomain : Bool
  supportsDateFilter : Bool
  deriving DecidableEq

/-- The columns of `source_factories_v1`. -/
structure SourceFactorySpec where
  factoryKey : String
  canonicalRoot : String
  sourceFamily : String
  deriving DecidableEq

/-- `SourceIndexSpec`. -/
structure SourceIndexSpec where
  indexKey : String
  factoryKey : String
  sourceKey : String
  locator : String
  capabilities : SourceCapabilities
  expectedYears : Option (Int × Int)
  expectedVolume : Option Nat
  contentLength : Option Nat
  deriving DecidableEq

/-- `HarvestRegion`: its bounds are both set or both omitted. -/
structure HarvestRegion where
  regionKey : String
  indexKey : String
  kind : RegionKind
  locator : String
  state : RegionState
  parentRegionKey : Option String
  depth : Nat
  bytes : Option ByteRange
  keyPrefix : Option String
  years : Option (Int × Int)
  deriving DecidableEq

/-- `CompiledIndexSpace`. -/
structure CompiledIndexSpace where
  factory : SourceFactorySpec
  index : SourceIndexSpec
  rootRegion : HarvestRegion

/-- `RegionSynopsis`, less its histograms and hashes. -/
structure RegionSynopsis where
  regionKey : String
  uniqueHosts : Nat
  novelHosts : Nat
  observedHostYearPairs : Nat
  novelHostYearPairs : Nat
  novelEed : ℚ≥0
  bytesRead : Nat
  requests : Nat
  measurementMode : MeasurementMode
  confidence : ℚ≥0
  complete : Bool
  novelHosts_le : novelHosts ≤ uniqueHosts
  novelPairs_le : novelHostYearPairs ≤ observedHostYearPairs
  confidence_le : confidence ≤ 1

/-- `_stable_key`. -/
def stableKey (kind : String) (parts : List String) : String := kind ++ ":" ++ sha256Hex (utf8 ("\x00".intercalate parts))

/-- The whole object, when its length is known and not zero. -/
def wholeObject : Option Nat → Option ByteRange
  | some (n + 1) => some ⟨0, n, le_rfl, Int.natCast_nonneg n⟩
  | _ => none

/-- The root region of `compile_candidate_index_space`. -/
def rootRegion (index : SourceIndexSpec) : HarvestRegion where
  regionKey := stableKey "region" [index.indexKey, RegionKind.full.value]
  indexKey := index.indexKey
  kind := .full
  locator := index.locator
  state := .discovered
  parentRegionKey := none
  depth := 0
  bytes := wholeObject index.contentLength
  keyPrefix := none
  years := none

/-! ## The registry -/

/-- A row of `source_regions_v1`. -/
structure StoredRegion extends RegionRow where
  kind : RegionKind
  locator : String
  parentRegionKey : Option String
  depth : Nat
  keyPrefix : Option String
  years : Option (Int × Int)

abbrev StoredRegions := Table StoredRegion String (·.regionKey)

structure Registry where
  factories : Table SourceFactorySpec String (·.factoryKey)
  indexes : Table SourceIndexSpec String (·.indexKey)
  regions : StoredRegions
  synopses : Table RegionSynopsis String (·.regionKey)

/-- A registry without rows. -/
def Registry.empty : Registry := ⟨.empty, .empty, .empty, .empty⟩

def HarvestRegion.row (region : HarvestRegion) (now : ℚ) : StoredRegion where
  regionKey := region.regionKey
  indexKey := region.indexKey
  bytes := region.bytes
  state := region.state
  harvestOwner := none
  harvestExpiresAt := none
  harvestCursor := none
  updatedAt := now
  kind := region.kind
  locator := region.locator
  parentRegionKey := region.parentRegionKey
  depth := region.depth
  keyPrefix := region.keyPrefix
  years := region.years

/-- `ON CONFLICT(region_key) DO UPDATE`: the state stays once it is not DISCOVERED. -/
abbrev HarvestRegion.over (region : HarvestRegion) (now : ℚ) (old : StoredRegion) : StoredRegion :=
  { old with
    indexKey := region.indexKey
    kind := region.kind
    locator := region.locator
    state := if old.state = .discovered then region.state else old.state
    parentRegionKey := region.parentRegionKey
    depth := region.depth
    bytes := region.bytes
    keyPrefix := region.keyPrefix
    years := region.years
    updatedAt := now }

/-- `get_region`, of its row. -/
def StoredRegion.region (row : StoredRegion) : HarvestRegion where
  regionKey := row.regionKey
  indexKey := row.indexKey
  kind := row.kind
  locator := row.locator
  state := row.state
  parentRegionKey := row.parentRegionKey
  depth := row.depth
  bytes := row.bytes
  keyPrefix := row.keyPrefix
  years := row.years

/-- `_put_region`, whose foreign keys hold. -/
def Registry.putRow (s : Registry) (now : ℚ) (region : HarvestRegion) : Registry :=
  { s with regions := s.regions.upsert (region.row now) (region.over now) }

/-- The foreign keys of a region: a parent is another region, or the region itself. -/
def Registry.placed (s : Registry) (region : HarvestRegion) : Bool :=
  (s.indexes.get? region.indexKey).isSome &&
    region.parentRegionKey.all fun parent => parent = region.regionKey || (s.regions.get? parent).isSome

/-- The rows of the factory and the index. -/
def Registry.withIndex (s : Registry) (compiled : CompiledIndexSpace) : Registry :=
  { s with
    factories := s.factories.upsert compiled.factory fun old => { compiled.factory with factoryKey := old.factoryKey }
    indexes := s.indexes.upsert compiled.index fun old => { compiled.index with indexKey := old.indexKey } }

inductive StoreCall
  | register (compiled : CompiledIndexSpace)
  | put (region : HarvestRegion)

def StoreCall.region : StoreCall → HarvestRegion
  | .register compiled => compiled.rootRegion
  | .put region => region

/-- Why a call is refused: an unknown index, a source that another index has, or a foreign key. -/
def Registry.problem (s : Registry) : StoreCall → Option PyError
  | .register compiled =>
    if s.indexes.rows.any fun row => row.sourceKey = compiled.index.sourceKey && row.indexKey ≠ compiled.index.indexKey then
      some .integrityError
    else if ((s.withIndex compiled).factories.get? compiled.index.factoryKey).isNone then some .integrityError
    else if !(s.withIndex compiled).placed compiled.rootRegion then some .integrityError
    else none
  | .put region =>
    if (s.indexes.get? region.indexKey).isNone then some (.keyError ("unknown source index: " ++ region.indexKey))
    else if !s.placed region then some .integrityError
    else none

/-- `register_index_space` and `put_region`, each one transaction. -/
def Registry.store (s : Registry) (now : ℚ) (call : StoreCall) : Except PyError Unit × Registry :=
  match s.problem call with
  | some err => (.error err, s)
  | none =>
    match call with
    | .register compiled => (.ok (), (s.withIndex compiled).putRow now compiled.rootRegion)
    | .put region => (.ok (), s.putRow now region)

/-- `get_region`. -/
def Registry.getRegion (s : Registry) (regionKey : String) : Option HarvestRegion := (s.regions.get? regionKey).map (·.region)

/-- `mark_region_state`. -/
def Registry.markRegionState (s : Registry) (now : ℚ) (regionKey : String) (state : RegionState) : Except PyError Unit × Registry :=
  if state = .harvesting then (.error (.valueError "use claim_region_for_harvest() for HARVESTING state"), s)
  else if (s.regions.get? regionKey).isNone then (.error (.keyError ("unknown source region: " ++ regionKey)), s)
  else
    (.ok (), { s with regions := s.regions.update (·.regionKey = regionKey) fun row =>
      { row with state, harvestOwner := none, harvestExpiresAt := none, updatedAt := now } })

/-- `record_synopsis`. -/
def Registry.recordSynopsis (s : Registry) (now : ℚ) (synopsis : RegionSynopsis) : Except PyError Unit × Registry :=
  if (s.regions.get? synopsis.regionKey).isNone then (.error (.keyError ("unknown source region: " ++ synopsis.regionKey)), s)
  else
    (.ok (), { s with
      regions := s.regions.update (·.regionKey = synopsis.regionKey) fun row =>
        { row with state := if row.state = .discovered then .probed else row.state, updatedAt := now }
      synopses := s.synopses.upsert synopsis fun old => { synopsis with regionKey := old.regionKey } })

def harvestColumns (regions : StoredRegions) : Regions :=
  ⟨regions.rows.map (·.toRegionRow), by rw [List.map_map]; exact regions.keyed⟩

/-- The harvest columns of a region, as another table has them. -/
def StoredRegion.withColumns (row : StoredRegion) (columns : Regions) : StoredRegion :=
  { row with toRegionRow := (columns.get? row.regionKey).getD row.toRegionRow }

theorem withColumns_key (columns : Regions) (row : StoredRegion) : (row.withColumns columns).regionKey = row.regionKey := by
  simp only [StoredRegion.withColumns]
  cases found : columns.get? row.regionKey with
  | none => rfl
  | some row' => exact Table.get?_key found

/-- A call on the harvest columns. -/
def Registry.onHarvest {α : Type} (s : Registry) (f : Regions → α × Regions) : α × Registry :=
  let answer := f (harvestColumns s.regions)
  (answer.1, { s with regions := s.regions.update (fun _ => true) (·.withColumns answer.2) (withColumns_key answer.2) })

/-! ## Rows by key -/

theorem harvestColumns_get? (regions : StoredRegions) (regionKey : String) :
    (harvestColumns regions).get? regionKey = (regions.get? regionKey).map (·.toRegionRow) := by
  simp only [Table.get?, harvestColumns, List.find?_map]
  rfl

theorem onHarvest_get? {α : Type} (s : Registry) (f : Regions → α × Regions) (regionKey : String) :
    (s.onHarvest f).2.regions.get? regionKey =
      (s.regions.get? regionKey).map (·.withColumns (f (harvestColumns s.regions)).2) := by
  simp only [Registry.onHarvest, Table.get?_update, ↓reduceIte]

theorem putRow_get? (s : Registry) (now : ℚ) (region : HarvestRegion) (regionKey : String) :
    (s.putRow now region).regions.get? regionKey =
      if regionKey = region.regionKey then some (((s.regions.get? regionKey).map (region.over now)).getD (region.row now))
      else s.regions.get? regionKey := by
  simp only [Registry.putRow, Table.get?_upsert]
  rfl

theorem store_get? {s : Registry} {call : StoreCall} (accepted : s.problem call = none) (now : ℚ) (regionKey : String) :
    (s.store now call).2.regions.get? regionKey =
      if regionKey = call.region.regionKey then
        some (((s.regions.get? regionKey).map (call.region.over now)).getD (call.region.row now))
      else s.regions.get? regionKey := by
  simp only [Registry.store, accepted]
  cases call with
  | register compiled => exact putRow_get? (s.withIndex compiled) now compiled.rootRegion regionKey
  | put region => exact putRow_get? s now region regionKey

theorem store_refused {s : Registry} {call : StoreCall} {err : PyError} (refused : s.problem call = some err) (now : ℚ) :
    (s.store now call).2 = s := by
  simp only [Registry.store, refused]

/-! ## Regions in progress -/

/-- A region that has left DISCOVERED, or has children. -/
def Settled (s : Registry) (row : StoredRegion) : Prop :=
  row.state ≠ .discovered ∨ ∃ child ∈ s.regions.rows, child.parentRegionKey = some row.regionKey

structure SamePlace (region region' : HarvestRegion) : Prop where
  bytes : region'.bytes = region.bytes
  depth : region'.depth = region.depth
  parent : region'.parentRegionKey = region.parentRegionKey

/-- No region in progress is moved, made unbounded for its harvest, or parted from its cursor. -/
structure Untouched (s s' : Registry) : Prop where
  place : ∀ key row, s.regions.get? key = some row → Settled s row →
    ∃ row', s'.regions.get? key = some row' ∧ SamePlace row.region row'.region
  bounded : ∀ key row, s.regions.get? key = some row → row.state = .harvestReady ∨ row.state = .harvesting → row.bytes.isSome →
    ∃ row', s'.regions.get? key = some row' ∧ row'.state = row.state ∧ row'.bytes.isSome
  resumable : ∀ key row cursor, s.regions.get? key = some row → Settled s row → row.harvestCursor = some cursor → row.Inside →
    ∃ row', s'.regions.get? key = some row' ∧ row'.harvestCursor = some cursor ∧ row'.Inside

/-- The call gives a region in progress the place that it has. -/
def Restates (s : Registry) (call : StoreCall) : Prop :=
  ∀ row, s.regions.get? call.region.regionKey = some row → Settled s row → SamePlace row.region call.region

theorem inside_congr {row row' : RegionRow} (bytes : row'.bytes = row.bytes) (cursor : row'.harvestCursor = row.harvestCursor)
    (inside : row.Inside) : row'.Inside := by
  intro range bounded at_ position
  refine inside range (by rw [← bytes, bounded]) at_ ?_
  rw [RegionRow.position, ← bytes, ← cursor]
  exact position

theorem inside_start {row : RegionRow} (none_ : row.harvestCursor = none) : row.Inside := by
  intro range bounded at_ position
  rw [RegionRow.position, none_, bounded] at position
  cases position
  exact ⟨le_rfl, range.ordered.trans (Int.le_add_one le_rfl)⟩

theorem untouched_of_restates {s : Registry} {call : StoreCall} (restates : s.problem call = none → Restates s call) (now : ℚ) :
    Untouched s (s.store now call).2 := by
  cases refused : s.problem call with
  | some err =>
    rw [store_refused refused]
    exact ⟨fun key row found _ => ⟨row, found, rfl, rfl, rfl⟩, fun key row found _ bounds => ⟨row, found, rfl, bounds⟩,
      fun key row cursor found _ same inside => ⟨row, found, same, inside⟩⟩
  | none =>
    have stored := store_get? refused now
    have other {key : String} {row : StoredRegion} (found : s.regions.get? key = some row) (apart : key ≠ call.region.regionKey) :
        (s.store now call).2.regions.get? key = some row := by rw [stored, if_neg apart, found]
    have own {row : StoredRegion} (found : s.regions.get? call.region.regionKey = some row) :
        (s.store now call).2.regions.get? call.region.regionKey = some (call.region.over now row) := by
      rw [stored, if_pos rfl, found]
      rfl
    refine ⟨fun key row found settled => ?_, fun key row found harvest bounds => ?_, fun key row cursor found settled same inside => ?_⟩
    · by_cases here : key = call.region.regionKey
      · subst here
        have place := restates refused row found settled
        exact ⟨_, own found, place.bytes, place.depth, place.parent⟩
      · exact ⟨row, other found here, rfl, rfl, rfl⟩
    · by_cases here : key = call.region.regionKey
      · subst here
        have begun : row.state ≠ .discovered := by rcases harvest with ready | harvesting <;> simp [*]
        have place := restates refused row found (.inl begun)
        exact ⟨_, own found, if_neg begun, (congrArg Option.isSome place.bytes).trans bounds⟩
      · exact ⟨row, other found here, rfl, bounds⟩
    · by_cases here : key = call.region.regionKey
      · subst here
        have place := restates refused row found settled
        exact ⟨_, own found, same, inside_congr place.bytes rfl inside⟩
      · exact ⟨row, other found here, same, inside⟩

/-! ## Runs -/

inductive RegistryOp
  | store (call : StoreCall)
  | mark (regionKey : String) (state : RegionState)
  | synopsis (synopsis : RegionSynopsis)
  | recover
  | claim (regionKey owner : String) (ttlSeconds : PyFloat)
  | renew (regionKey owner : String) (ttlSeconds : PyFloat)
  | complete (regionKey owner : String)
  | release (regionKey owner : String) (resumeCursor : Option Int)

/-- A transaction, at a reading of the clock. -/
structure RegistryEvent where
  now : ℚ
  op : RegistryOp

def Registry.after (s : Registry) (e : RegistryEvent) : Registry :=
  match e.op with
  | .store call => (s.store e.now call).2
  | .mark key state => (s.markRegionState e.now key state).2
  | .synopsis synopsis => (s.recordSynopsis e.now synopsis).2
  | .recover => (s.onHarvest fun regions => ((), recoverExpired regions e.now)).2
  | .claim key owner ttl => (s.onHarvest fun regions => claimRegion regions e.now key owner ttl).2
  | .renew key owner ttl => (s.onHarvest fun regions => renewRegion regions e.now key owner ttl).2
  | .complete key owner => (s.onHarvest fun regions => completeRegion regions e.now key owner).2
  | .release key owner cursor => (s.onHarvest fun regions => releaseRegion regions e.now key owner cursor).2

/-- The callers of a registry, from its creation. -/
def registry : Machine Registry RegistryEvent Unit where
  initial := .empty
  step s e := ((), s.after e)

/-- A call that restates the place of a region in progress; no region with a cursor is marked DISCOVERED. -/
def Careful (s : Registry) (e : RegistryEvent) : Prop :=
  match e.op with
  | .store call => s.problem call = none → Restates s call
  | .mark key .discovered => ∀ row, s.regions.get? key = some row → row.harvestCursor = none
  | _ => True

/-- A region resumes inside its bounds, and has a cursor only once it left DISCOVERED. -/
structure Resumable (row : RegionRow) : Prop where
  inside : row.Inside
  begun : row.harvestCursor.isSome → row.state ≠ .discovered

/-- What a call on the harvest columns does to a region. -/
structure Steady (row row' : RegionRow) : Prop where
  key : row'.regionKey = row.regionKey
  index : row'.indexKey = row.indexKey
  bytes : row'.bytes = row.bytes
  resumable : Resumable row → Resumable row'

theorem Steady.refl (row : RegionRow) : Steady row row := ⟨rfl, rfl, rfl, id⟩

theorem Steady.trans {row row' row'' : RegionRow} (first : Steady row row') (second : Steady row' row'') : Steady row row'' :=
  ⟨second.key.trans first.key, second.index.trans first.index, second.bytes.trans first.bytes,
    fun before => second.resumable (first.resumable before)⟩

/-- A rewrite of regions that leaves none behind DISCOVERED with a cursor. -/
theorem steady_freed {row : RegionRow} {state : RegionState} (begun : state ≠ .discovered) (now : ℚ) :
    Steady row (row.freed state row.harvestCursor now) :=
  ⟨rfl, rfl, rfl, fun before => ⟨inside_congr rfl rfl before.inside, fun _ => begun⟩⟩

def AllSteady (columns columns' : Regions) : Prop :=
  ∀ key row, columns.get? key = some row → ∃ row', columns'.get? key = some row' ∧ Steady row row'

theorem AllSteady.refl (columns : Regions) : AllSteady columns columns := fun _ row found => ⟨row, found, .refl row⟩

theorem AllSteady.trans {a b c : Regions} (first : AllSteady a b) (second : AllSteady b c) : AllSteady a c := by
  intro key row found
  obtain ⟨row', found', steady⟩ := first key row found
  obtain ⟨row'', found'', steady'⟩ := second key row' found'
  exact ⟨row'', found'', steady.trans steady'⟩

theorem steady_update {columns columns' : Regions} {set : RegionRow → RegionRow}
    (rewritten : ∀ key, columns'.get? key = (columns.get? key).map set)
    (steady : ∀ key row, columns.get? key = some row → Steady row (set row)) : AllSteady columns columns' := by
  intro key row found
  rw [rewritten, found]
  exact ⟨set row, rfl, steady key row found⟩

theorem recover_steady (columns : Regions) (now : ℚ) : AllSteady columns (recoverExpired columns now) := by
  refine steady_update (Table.get?_update _ _ _ ?keeps) fun key row _ => ?_
  case keeps => exact fun _ => rfl
  split
  · exact steady_freed (by decide) now
  · exact .refl row

theorem claim_steady (columns : Regions) (now : ℚ) (regionKey owner : String) (ttl : PyFloat) :
    AllSteady columns (claimRegion columns now regionKey owner ttl).2 := by
  unfold claimRegion
  split
  · exact .refl columns
  split
  · exact .refl columns
  refine (recover_steady columns now).trans (steady_update (Table.get?_update _ _ _ ?keeps) fun key row _ => ?_)
  case keeps => exact fun _ => rfl
  split
  · exact ⟨rfl, rfl, rfl, fun before => ⟨inside_congr rfl rfl before.inside, fun _ => by simp⟩⟩
  · exact .refl row

theorem renew_steady (columns : Regions) (now : ℚ) (regionKey owner : String) (ttl : PyFloat) :
    AllSteady columns (renewRegion columns now regionKey owner ttl).2 := by
  unfold renewRegion
  split
  · exact .refl columns
  split
  · exact .refl columns
  split
  · refine steady_update (Table.get?_update _ _ _ ?keeps) fun key row _ => ?_
    case keeps => exact fun _ => rfl
    split
    · exact ⟨rfl, rfl, rfl, fun before => ⟨inside_congr rfl rfl before.inside, before.begun⟩⟩
    · exact .refl row
  · exact .refl columns

theorem complete_steady (columns : Regions) (now : ℚ) (regionKey owner : String) :
    AllSteady columns (completeRegion columns now regionKey owner).2 := by
  unfold completeRegion
  split
  · exact .refl columns
  split
  · refine steady_update (Table.get?_update _ _ _ ?keeps) fun key row _ => ?_
    case keeps => exact fun _ => rfl
    split
    · exact ⟨rfl, rfl, rfl, fun _ => ⟨inside_start rfl, by simp⟩⟩
    · exact .refl row
  · exact .refl columns

theorem accepted_inside {row row' : RegionRow} (bytes : row'.bytes = row.bytes) (accepted : cursorProblem row row'.harvestCursor = none) :
    row'.Inside := by
  cases cursor : row'.harvestCursor with
  | none => exact inside_start cursor
  | some at_ =>
    intro range bounded at' position
    rw [RegionRow.position, cursor] at position
    cases position
    have known : row.bytes = some range := bytes.symm.trans bounded
    simp only [cursor, cursorProblem, known] at accepted
    split_ifs at accepted with before behind
    exact ⟨not_lt.mp before, not_lt.mp behind⟩

theorem release_steady (columns : Regions) (now : ℚ) (regionKey owner : String) (cursor : Option Int) :
    AllSteady columns (releaseRegion columns now regionKey owner cursor).2 := by
  unfold releaseRegion
  split
  · exact .refl columns
  split
  · exact .refl columns
  split
  · exact .refl columns
  rename_i row isRow
  obtain ⟨found, -⟩ := Option.filter_eq_some_iff.mp isRow
  split
  · exact .refl columns
  · rename_i accepted
    refine steady_update (Table.get?_update _ _ _ ?keeps) fun key row' found' => ?_
    case keeps => exact fun _ => rfl
    split
    · rename_i same
      have again : row' = row := by
        rw [← Table.get?_key found', decide_eq_true_iff.mp same, found] at found'
        exact (Option.some.inj found').symm
      subst again
      exact ⟨rfl, rfl, rfl, fun _ => ⟨accepted_inside rfl accepted, fun _ => by simp⟩⟩
    · exact .refl row'

/-! ## Callers that restate -/

def AllResumable (s : Registry) : Prop := ∀ key row, s.regions.get? key = some row → Resumable row.toRegionRow

/-- The columns of a region that only a store rewrites. -/
structure Framed (row row' : StoredRegion) : Prop where
  index : row'.indexKey = row.indexKey
  bytes : row'.bytes = row.bytes
  depth : row'.depth = row.depth
  parent : row'.parentRegionKey = row.parentRegionKey

theorem onHarvest_framed {α : Type} {s : Registry} {f : Regions → α × Regions}
    (steady : AllSteady (harvestColumns s.regions) (f (harvestColumns s.regions)).2) {key : String} {row : StoredRegion}
    (found : s.regions.get? key = some row) :
    ∃ row', (s.onHarvest f).2.regions.get? key = some row' ∧ Framed row row' ∧ (Resumable row.toRegionRow → Resumable row'.toRegionRow) := by
  obtain ⟨columns, stored, kept⟩ := steady key row.toRegionRow (by rw [harvestColumns_get?, found]; rfl)
  have name := Table.get?_key found
  refine ⟨row.withColumns (f (harvestColumns s.regions)).2, by rw [onHarvest_get?, found]; rfl, ⟨?_, ?_, rfl, rfl⟩, ?_⟩
  all_goals simp only [StoredRegion.withColumns, name, stored, Option.getD_some]
  · exact kept.index
  · exact kept.bytes
  · exact kept.resumable

/-- What a harvest call, a mark or a synopsis leaves of a region. -/
theorem after_framed {s : Registry} {e : RegistryEvent} (other : ∀ call, e.op ≠ .store call) {key : String}
    {row : StoredRegion} (found : s.regions.get? key = some row) :
    ∃ row', (s.after e).regions.get? key = some row' ∧ Framed row row' ∧
      (Careful s e → Resumable row.toRegionRow → Resumable row'.toRegionRow) := by
  have unconditional {s' : Registry} (kept : ∃ row', s'.regions.get? key = some row' ∧ Framed row row' ∧
      (Resumable row.toRegionRow → Resumable row'.toRegionRow)) : ∃ row', s'.regions.get? key = some row' ∧ Framed row row' ∧
        (Careful s e → Resumable row.toRegionRow → Resumable row'.toRegionRow) := by
    obtain ⟨row', found', framed, resumable⟩ := kept
    exact ⟨row', found', framed, fun _ => resumable⟩
  obtain ⟨now, op⟩ := e
  cases op with
  | store call => exact absurd rfl (other call)
  | mark regionKey state =>
    simp only [Registry.after, Registry.markRegionState]
    split
    · exact ⟨row, found, ⟨rfl, rfl, rfl, rfl⟩, fun _ => id⟩
    split
    · exact ⟨row, found, ⟨rfl, rfl, rfl, rfl⟩, fun _ => id⟩
    dsimp only
    rw [Table.get?_update, found, Option.map_some]
    refine ⟨_, rfl, ?_⟩
    split
    · rename_i here
      refine ⟨⟨rfl, rfl, rfl, rfl⟩, fun careful before => ⟨inside_congr rfl rfl before.inside, fun resumes reset => ?_⟩⟩
      dsimp only at resumes reset
      subst reset
      have name := Table.get?_key found
      rw [decide_eq_true_iff.mp here] at name
      rw [careful row (name ▸ found)] at resumes
      cases resumes
    · exact ⟨⟨rfl, rfl, rfl, rfl⟩, fun _ => id⟩
  | synopsis synopsis =>
    simp only [Registry.after, Registry.recordSynopsis]
    split
    · exact ⟨row, found, ⟨rfl, rfl, rfl, rfl⟩, fun _ => id⟩
    dsimp only
    rw [Table.get?_update, found, Option.map_some]
    refine ⟨_, rfl, ?_⟩
    split
    · refine ⟨⟨rfl, rfl, rfl, rfl⟩, fun _ before => ⟨inside_congr rfl rfl before.inside, fun resumes => ?_⟩⟩
      dsimp only
      rw [if_neg (before.begun resumes)]
      exact before.begun resumes
    · exact ⟨⟨rfl, rfl, rfl, rfl⟩, fun _ => id⟩
  | recover => exact unconditional (onHarvest_framed (recover_steady _ now) found)
  | claim regionKey owner ttl => exact unconditional (onHarvest_framed (claim_steady _ now regionKey owner ttl) found)
  | renew regionKey owner ttl => exact unconditional (onHarvest_framed (renew_steady _ now regionKey owner ttl) found)
  | complete regionKey owner => exact unconditional (onHarvest_framed (complete_steady _ now regionKey owner) found)
  | release regionKey owner cursor => exact unconditional (onHarvest_framed (release_steady _ now regionKey owner cursor) found)

theorem other_absent {s : Registry} {e : RegistryEvent} (other : ∀ call, e.op ≠ .store call) {key : String}
    (absent : s.regions.get? key = none) : (s.after e).regions.get? key = none := by
  obtain ⟨now, op⟩ := e
  cases op with
  | store call => exact absurd rfl (other call)
  | mark regionKey state =>
    simp only [Registry.after, Registry.markRegionState]
    split_ifs
    · exact absent
    · exact absent
    · rw [Table.get?_update, absent, Option.map_none]
  | synopsis synopsis =>
    simp only [Registry.after, Registry.recordSynopsis]
    split_ifs
    · exact absent
    · rw [Table.get?_update, absent, Option.map_none]
  | recover | claim | renew | complete | release => simp only [Registry.after, onHarvest_get?, absent, Option.map_none]

theorem other_indexes {s : Registry} {e : RegistryEvent} (other : ∀ call, e.op ≠ .store call) : (s.after e).indexes = s.indexes := by
  obtain ⟨now, op⟩ := e
  cases op with
  | store call => exact absurd rfl (other call)
  | mark regionKey state =>
    simp only [Registry.after, Registry.markRegionState]
    split_ifs <;> rfl
  | synopsis synopsis =>
    simp only [Registry.after, Registry.recordSynopsis]
    split_ifs <;> rfl
  | recover | claim | renew | complete | release => rfl

/-- A stored region can be resumed after a call that restates its place, or before it is in progress. -/
theorem stored_resumable {s : Registry} {call : StoreCall} (resumable : AllResumable s)
    (restates : s.problem call = none → Restates s call) (now : ℚ) : AllResumable (s.store now call).2 := by
  cases refused : s.problem call with
  | some err =>
    rw [store_refused refused]
    exact resumable
  | none =>
    intro key row' found
    rw [store_get? refused] at found
    by_cases here : key = call.region.regionKey
    · subst here
      rw [if_pos rfl] at found
      cases stored : s.regions.get? call.region.regionKey with
      | none =>
        rw [stored] at found
        cases found
        exact ⟨inside_start rfl, nofun⟩
      | some row =>
        rw [stored] at found
        cases found
        have before := resumable _ row stored
        by_cases begun : row.state = .discovered
        · have none_ : row.harvestCursor = none := by
            by_contra resumes
            exact before.begun (Option.isSome_iff_ne_none.mpr resumes) begun
          exact ⟨inside_start none_, fun resumes => absurd resumes (by simp [none_])⟩
        · have place := restates refused row stored (.inl begun)
          refine ⟨inside_congr place.bytes rfl before.inside, fun _ => ?_⟩
          exact fun reset => begun ((if_neg begun).symm.trans reset)
    · rw [if_neg here] at found
      exact resumable key row' found

theorem resumable_after {s : Registry} {e : RegistryEvent} (resumable : AllResumable s) (careful : Careful s e) :
    AllResumable (s.after e) := by
  by_cases store : ∃ call, e.op = .store call
  · obtain ⟨call, same⟩ := store
    simp only [Careful, same] at careful
    simp only [Registry.after, same]
    exact stored_resumable resumable careful e.now
  · have other := not_exists.mp store
    intro key row' found
    cases stored : s.regions.get? key with
    | none =>
      rw [other_absent other stored] at found
      cases found
    | some row =>
      obtain ⟨row'', found', -, kept⟩ := after_framed other stored
      cases found.symm.trans found'
      exact kept careful (resumable key row stored)

/-- What callers keep that restate the place of regions in progress. -/
structure RegionsKept (es : List RegistryEvent) : Prop where
  untouched : ∀ r ∈ registry.trace es, ∀ call, r.event.op = .store call → Untouched r.before r.after
  /-- A region that is harvested keeps its bounds. -/
  bounded : ∀ r ∈ registry.trace es, ∀ key row, r.before.regions.get? key = some row →
    row.state = .harvestReady ∨ row.state = .harvesting → ∃ row', r.after.regions.get? key = some row' ∧ row'.bytes = row.bytes
  /-- Every cursor is inside the bounds of its region. -/
  inside : ∀ key row, (registry.final es).regions.get? key = some row → row.Inside

theorem final_resumable (es : List RegistryEvent) (careful : ∀ r ∈ registry.trace es, Careful r.before r.event) :
    AllResumable (registry.final es) := by
  induction es using List.reverseRecOn with
  | nil => exact fun _ _ => nofun
  | append_singleton es e ih =>
    rw [Machine.trace_snoc] at careful
    rw [Machine.final_snoc]
    refine resumable_after (ih fun r member => careful r (List.mem_append_left _ member)) ?_
    exact careful _ (List.mem_append_right _ (List.mem_singleton_self _))

/-- A call leaves the regions in progress alone exactly when it restates the place of its own, or
    is refused; callers that only make such calls keep every cursor inside its region. -/
theorem regions_kept_iff (es : List RegistryEvent) :
    (∀ s now call, Untouched s (s.store now call).2 ↔ (s.problem call = none → Restates s call)) ∧
    ((∀ r ∈ registry.trace es, Careful r.before r.event) → RegionsKept es) := by
  refine ⟨fun s now call => ⟨fun untouched accepted row found settled => ?_, fun restates => untouched_of_restates restates now⟩,
    fun careful => ⟨fun r member call same => ?_, fun r member key row found harvest => ?_, fun key row found => ?_⟩⟩
  · obtain ⟨row', found', place⟩ := untouched.place _ row found settled
    rw [store_get? accepted, if_pos rfl, found] at found'
    cases found'
    exact ⟨place.bytes, place.depth, place.parent⟩
  · have restates := careful r member
    obtain ⟨before, after, -, taken⟩ := Machine.mem_trace _ member
    rw [taken] at restates ⊢
    simp only [Machine.take_before, Machine.take_event, Careful, same] at restates
    simp only [Machine.take_before, Machine.take_after, registry, Registry.after, same]
    exact untouched_of_restates restates r.event.now
  · have restates := careful r member
    obtain ⟨before, after, -, taken⟩ := Machine.mem_trace _ member
    rw [taken] at restates found ⊢
    simp only [Machine.take_before, Machine.take_event] at restates found
    simp only [Machine.take_after, registry]
    by_cases store : ∃ call, r.event.op = .store call
    · obtain ⟨call, same⟩ := store
      simp only [Careful, same] at restates
      simp only [Registry.after, same]
      have begun : row.state ≠ .discovered := by rcases harvest with ready | harvesting <;> simp [*]
      obtain ⟨row', found', place⟩ := (untouched_of_restates restates r.event.now).place key row found (.inl begun)
      exact ⟨row', found', place.bytes⟩
    · obtain ⟨row', found', framed, -⟩ := after_framed (not_exists.mp store) found
      exact ⟨row', found', framed.bytes⟩
  · exact (final_resumable es careful key row found).inside

/-! ## An index that is registered again -/

/-- An index whose length is known, or is not. -/
def sampleIndex (contentLength : Option Nat) : SourceIndexSpec where
  indexKey := "index:a"
  factoryKey := "factory:a"
  sourceKey := "a"
  locator := "https://a.example/index.cdxj"
  capabilities := ⟨.sortedIndex, "CDXJ", false, true, true, true, some "SURT_URLKEY", false, false, false, false⟩
  expectedYears := none
  expectedVolume := none
  contentLength

def sampleSpace (contentLength : Option Nat) : CompiledIndexSpace :=
  ⟨⟨"factory:a", "https://a.example/", "BULK_ARTIFACT"⟩, sampleIndex contentLength, rootRegion (sampleIndex contentLength)⟩

def sampleRoot : String := (rootRegion (sampleIndex none)).regionKey

/-- The root is ready for its harvest when the index is registered again. -/
def registeredAgain (contentLength : Option Nat) : List RegistryEvent := [
  ⟨0, .store (.register (sampleSpace (some 100)))⟩, ⟨1, .mark sampleRoot .harvestReady⟩,
  ⟨2, .store (.register (sampleSpace contentLength))⟩]

def rootBounds (s : Registry) : Option (RegionState × Option (Int × Int)) :=
  (s.regions.get? sampleRoot).map fun row => (row.state, row.bytes.map fun range => (range.byteStart, range.byteEnd))

/-- A region that is in the place that the call gives it. -/
theorem restates_of_row {s : Registry} {call : StoreCall} (same : (s.regions.get? call.region.regionKey).all fun row =>
    call.region.bytes = row.bytes && call.region.depth = row.depth && call.region.parentRegionKey = row.parentRegionKey) :
    Restates s call := by
  intro row found _
  rw [found] at same
  simp only [Option.all_some, Bool.and_eq_true, decide_eq_true_eq] at same
  obtain ⟨⟨bytes, depth⟩, parent⟩ := same
  exact ⟨bytes, depth, parent⟩

theorem sameLength_kept : RegionsKept (registeredAgain (some 100)) := by
  refine (regions_kept_iff _).2 fun r member => ?_
  simp only [registeredAgain, Machine.trace, Machine.traceFrom_cons, Machine.traceFrom_nil, List.mem_cons, List.not_mem_nil,
    or_false] at member
  rcases member with rfl | rfl | rfl
  · exact fun _ => restates_of_row (by decide +kernel)
  · trivial
  · exact fun _ => restates_of_row (by decide +kernel)

/-- With its length unknown, it has lost its bounds. -/
theorem register_unbinds : rootBounds (registry.final ((registeredAgain none).take 2)) = some (.harvestReady, some (0, 99)) ∧
    rootBounds (registry.final (registeredAgain none)) = some (.harvestReady, none) := by
  decide +kernel

end Creeper.IndexRegions
