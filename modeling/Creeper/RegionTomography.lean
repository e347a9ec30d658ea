import Creeper.IndexRegions

/-!
# Region tomography

`source_discovery/tomography.py`: waves of a planner split probed regions in two until they are
worth a harvest or worth nothing. Both children of a split are stored one after the other; as
long as no process dies between the two, the regions without children tile the root.
-/

namespace Creeper.RegionTomography
open Creeper.Runs Creeper.Tables Creeper.PyNumbers Creeper.RegionHarvest Creeper.IndexRegions
open Creeper.FabricModels (PyError)

/-! ## Tilings -/

section
variable {Name Point : Type*} {tiles tiles' : Set Name} {piece piece' : Name → Set Point} {whole : Set Point}

/-- Pieces without overlap whose union is the whole. -/
structure Tiles (tiles : Set Name) (piece : Name → Set Point) (whole : Set Point) : Prop where
  apart : tiles.PairwiseDisjoint piece
  union : ⋃ t ∈ tiles, piece t = whole

theorem Tiles.congr (tiling : Tiles tiles piece whole) (same : ∀ t ∈ tiles, piece' t = piece t) : Tiles tiles piece' whole where
  apart t here u there other := by
    simp only [Function.onFun, same t here, same u there]
    exact tiling.apart here there other
  union := by
    rw [← tiling.union]
    exact Set.iUnion₂_congr same

theorem Tiles.split (tiling : Tiles tiles piece whole) {t a b : Name} (here : t ∈ tiles) (newA : a ∉ tiles) (newB : b ∉ tiles)
    (same : ∀ u ∈ tiles, u ≠ t → piece' u = piece u) (halves : piece' a ∪ piece' b = piece t)
    (cut : Disjoint (piece' a) (piece' b)) (members : ∀ u, u ∈ tiles' ↔ u ∈ tiles ∧ u ≠ t ∨ u = a ∨ u = b) :
    Tiles tiles' piece' whole := by
  have partOf {u : Name} (half : u = a ∨ u = b) : piece' u ⊆ piece t := by
    rw [← halves]
    rcases half with rfl | rfl
    · exact Set.subset_union_left
    · exact Set.subset_union_right
  have aside {u v : Name} (old : u ∈ tiles ∧ u ≠ t) (half : v = a ∨ v = b) : Disjoint (piece' u) (piece' v) := by
    rw [same u old.1 old.2]
    exact (tiling.apart old.1 here old.2).mono_right (partOf half)
  refine ⟨fun u isU v isV other => ?_, ?_⟩
  · rcases (members u).mp isU with oldU | halfU
    · rcases (members v).mp isV with oldV | halfV
      · simp only [Function.onFun, same u oldU.1 oldU.2, same v oldV.1 oldV.2]
        exact tiling.apart oldU.1 oldV.1 other
      · exact aside oldU halfV
    · rcases (members v).mp isV with oldV | halfV
      · exact (aside oldV halfU).symm
      · rcases halfU with rfl | rfl <;> rcases halfV with rfl | rfl
        · exact absurd rfl other
        · exact cut
        · exact cut.symm
        · exact absurd rfl other
  · rw [← tiling.union]
    ext point
    simp only [Set.mem_iUnion, exists_prop]
    constructor
    · rintro ⟨u, isU, inside⟩
      rcases (members u).mp isU with old | half
      · exact ⟨u, old.1, same u old.1 old.2 ▸ inside⟩
      · exact ⟨t, here, partOf half inside⟩
    · rintro ⟨u, isU, inside⟩
      by_cases whole_ : u = t
      · subst whole_
        rw [← halves] at inside
        rcases inside with first | second
        · exact ⟨a, (members a).mpr (.inr (.inl rfl)), first⟩
        · exact ⟨b, (members b).mpr (.inr (.inr rfl)), second⟩
      · exact ⟨u, (members u).mpr (.inl ⟨isU, whole_⟩), (same u isU whole_).symm ▸ inside⟩

end

/-! ## Policy -/

/-- `RegionTomographyPolicy`. -/
structure RegionTomographyPolicy where
  maxDepth : Nat
  minChildBytes : Nat
  minObservationsToStop : Nat
  zeroYieldStopConfidence : ℚ≥0
  minNovelFraction : ℚ≥0
  minNovelEedPerMib : ℚ≥0
  explorationWeight : ℚ≥0
  childBytes_pos : 1 ≤ minChildBytes
  observations_pos : 1 ≤ minObservationsToStop
  confidence_le : zeroYieldStopConfidence ≤ 1
  fraction_le : minNovelFraction ≤ 1

inductive TomographyActionKind
  | probe
  | harvest
  deriving DecidableEq, Repr

def TomographyActionKind.value : TomographyActionKind → String
  | .probe => "PROBE"
  | .harvest => "HARVEST"

/-- `TomographyAction`; a priority may be infinite. -/
structure TomographyAction where
  kind : TomographyActionKind
  region : HarvestRegion
  priority : WithTop ℚ≥0
  expectedTotalNovelEed : ℚ≥0
  reason : String

def mib : Nat := 1024 * 1024

/-! ## What a synopsis is worth -/

def observedCountForValue (synopsis : RegionSynopsis) : Nat :=
  if synopsis.measurementMode = .hostYear then synopsis.observedHostYearPairs else synopsis.uniqueHosts

def novelCountForValue (synopsis : RegionSynopsis) : Nat :=
  if synopsis.measurementMode = .hostYear then synopsis.novelHostYearPairs else synopsis.novelHosts

def novelFraction (synopsis : RegionSynopsis) : ℚ≥0 :=
  if observedCountForValue synopsis = 0 then 0 else novelCountForValue synopsis / observedCountForValue synopsis

def novelEedPerByte (synopsis : RegionSynopsis) : ℚ≥0 := if synopsis.bytesRead = 0 then 0 else synopsis.novelEed / synopsis.bytesRead

/-! ## Splitting -/

/-- `byte_end - byte_start + 1`. -/
def rangeSize (range : ByteRange) : Nat := (range.byteEnd - range.byteStart + 1).toNat

/-- `region_size_bytes`. -/
def regionSizeBytes (region : HarvestRegion) : Option Nat := region.bytes.map rangeSize

/-- `child_region` of byte bounds. -/
def childRegion (parent : HarvestRegion) (range : ByteRange) : HarvestRegion where
  regionKey := stableKey "region" [parent.indexKey, parent.regionKey, RegionKind.byteRange.value, parent.locator,
    toString range.byteStart, toString range.byteEnd, "None", "None", "None"]
  indexKey := parent.indexKey
  kind := .byteRange
  locator := parent.locator
  state := .discovered
  parentRegionKey := some parent.regionKey
  depth := parent.depth + 1
  bytes := some range
  keyPrefix := none
  years := none

theorem rangeSize_eq (range : ByteRange) : (rangeSize range : Int) = range.byteEnd - range.byteStart + 1 := by
  have ordered := range.ordered
  rw [rangeSize, Int.toNat_of_nonneg (by omega)]

/-- The bytes before and after the middle of a range of at least two. -/
def halves (range : ByteRange) (large : 2 ≤ rangeSize range) : ByteRange × ByteRange :=
  let midpoint := range.byteStart + (rangeSize range / 2 : Nat) - 1
  (⟨range.byteStart, midpoint, range.nonneg, by omega⟩,
    ⟨midpoint + 1, range.byteEnd, by have := range.nonneg; omega, by have := rangeSize_eq range; omega⟩)

/-- `split_byte_region`: nothing of a region that is too small. -/
def splitByteRegion (region : HarvestRegion) : Option (HarvestRegion × HarvestRegion) :=
  match region.bytes with
  | none => none
  | some range =>
    if large : 2 ≤ rangeSize range then
      some (childRegion region (halves range large).1, childRegion region (halves range large).2)
    else none

/-! ## The planner -/

namespace RegionTomographyPolicy
variable (policy : RegionTomographyPolicy)

/-- `_splittable`. -/
def splittable (region : HarvestRegion) : Bool :=
  (regionSizeBytes region).any fun size => region.depth < policy.maxDepth && 2 * policy.minChildBytes ≤ size

/-- `_should_refine`. -/
def shouldRefine (region : HarvestRegion) (synopsis : RegionSynopsis) : Bool :=
  if synopsis.complete || !policy.splittable region then false
  else if 0 < novelCountForValue synopsis then
    policy.minNovelFraction ≤ novelFraction synopsis || policy.minNovelEedPerMib ≤ novelEedPerByte synopsis * mib
  else observedCountForValue synopsis < policy.minObservationsToStop || synopsis.confidence < policy.zeroYieldStopConfidence

/-- `_worth_harvest`. -/
def worthHarvest (synopsis : RegionSynopsis) : Bool :=
  if novelCountForValue synopsis = 0 then false
  else if novelFraction synopsis < policy.minNovelFraction then false
  else policy.minNovelEedPerMib ≤ novelEedPerByte synopsis * mib

/-- `_priority`: the priority and the expected EED. -/
def priority (region : HarvestRegion) : Option RegionSynopsis → WithTop ℚ≥0 × ℚ≥0
  | none => (⊤, 0)
  | some synopsis =>
    let size := (regionSizeBytes region).getD (max 1 synopsis.bytesRead)
    let density := novelEedPerByte synopsis
    let densityPerMib := density * mib
    (↑(densityPerMib + policy.explorationWeight * (1 - synopsis.confidence) * max 1 densityPerMib), density * size)

end RegionTomographyPolicy

/-- The regions of an index, in the order of `list_regions`. -/
def listRegions (s : Registry) (indexKey : String) : List StoredRegion :=
  (s.regions.rows.filter (·.indexKey = indexKey)).insertionSort fun a b =>
    toLex (a.depth, a.regionKey) ≤ toLex (b.depth, b.regionKey)

/-- Whether a region is the parent of another one. -/
def hasChild (rows : List StoredRegion) (regionKey : String) : Bool := rows.any (·.parentRegionKey = some regionKey)

/-- `_leaf_regions`, less its filter on states. -/
def leaves (s : Registry) (indexKey : String) : List StoredRegion :=
  (listRegions s indexKey).filter fun row => !hasChild (listRegions s indexKey) row.regionKey

/-- `_leaf_regions`. -/
def leafRegions (s : Registry) (indexKey : String) : List HarvestRegion :=
  ((leaves s indexKey).filter fun row => row.state ≠ .harvested && row.state ≠ .dropped).map (·.region)

section
variable (policy : RegionTomographyPolicy) (s : Registry)

/-- A region that the first loop splits. -/
def refinable (region : HarvestRegion) : Bool :=
  region.state = .probed && (s.synopses.get? region.regionKey).any (policy.shouldRefine region)

/-- The children of a region, as they are stored. -/
def children (region : HarvestRegion) : List HarvestRegion :=
  match splitByteRegion region with
  | none => []
  | some (left, right) => [left, right]

/-- The regions that the first loop stores, in order; storing one changes nothing that it reads of the next. -/
def puts (indexKey : String) : List HarvestRegion := ((leafRegions s indexKey).filter (refinable policy s)).flatMap children

/-- What the second loop makes of a region. -/
inductive Verdict
  | probe
  | harvest
  | wait
  | ready
  | drop
  deriving DecidableEq, Repr

def verdict (region : HarvestRegion) : Verdict :=
  match s.synopses.get? region.regionKey with
  | none => .probe
  | some synopsis =>
    if region.bytes.isNone || region.state = .discovered then .probe
    else if region.state = .harvestReady then .harvest
    else if region.state ≠ .probed then .wait
    else if policy.shouldRefine region synopsis then .wait
    else if policy.worthHarvest synopsis then .ready
    else .drop

/-- The marks of the second loop, in order; a mark changes nothing that it reads of the next region. -/
def marks (indexKey : String) : List (String × RegionState) :=
  (leafRegions s indexKey).filterMap fun region =>
    match verdict policy s region with
    | .ready => some (region.regionKey, .harvestReady)
    | .drop => some (region.regionKey, .dropped)
    | _ => none

/-- The action for a region, which is read again after it is marked. -/
def actionFor (region : HarvestRegion) : Option TomographyAction :=
  let action (kind : TomographyActionKind) (region : HarvestRegion) (reason : String) : TomographyAction :=
    ⟨kind, region, (policy.priority region (s.synopses.get? region.regionKey)).1,
      (policy.priority region (s.synopses.get? region.regionKey)).2, reason⟩
  match verdict policy s region with
  | .probe => some (action .probe region "region has no bounded synopsis")
  | .harvest => some (action .harvest region "terminal region is ready for deterministic harvest")
  | .ready => some (action .harvest { region with state := .harvestReady } "positive region reached tomography terminal granularity")
  | .wait | .drop => none

end

/-- The order of actions: by priority, kind and key. -/
def actionOrder (action : TomographyAction) : (WithTop ℚ≥0)ᵒᵈ ×ₗ String ×ₗ String :=
  toLex (.toDual action.priority, toLex (action.kind.value, action.region.regionKey))

/-- `put_region`, of the regions of a list. -/
def putAll (now : ℚ) (regions : List HarvestRegion) (s : Registry) : Registry :=
  regions.foldl (fun s region => (s.store now (.put region)).2) s

/-- `mark_region_state`, of the regions of a list. -/
def markAll (now : ℚ) (marked : List (String × RegionState)) (s : Registry) : Registry :=
  marked.foldl (fun s mark => (s.markRegionState now mark.1 mark.2).2) s

/-- The registry after some commits of a wave: the regions that the first loop stores come before the marks. -/
def wave (policy : RegionTomographyPolicy) (now : ℚ) (indexKey : String) (commits : Nat) (s : Registry) : Registry :=
  let stored := putAll now ((puts policy s indexKey).take commits) s
  markAll now ((marks policy stored indexKey).take (commits - (puts policy s indexKey).length)) stored

def waveLength (policy : RegionTomographyPolicy) (now : ℚ) (indexKey : String) (s : Registry) : Nat :=
  (puts policy s indexKey).length + (marks policy (putAll now (puts policy s indexKey) s) indexKey).length

/-- The actions of a wave, the best first. -/
def plannedActions (policy : RegionTomographyPolicy) (now : ℚ) (indexKey : String) (s : Registry) : List TomographyAction :=
  let stored := putAll now (puts policy s indexKey) s
  ((leafRegions stored indexKey).filterMap (actionFor policy stored)).insertionSort fun a b => actionOrder a ≤ actionOrder b

/-- `advance`. -/
def advance (policy : RegionTomographyPolicy) (now : ℚ) (indexKey : String) (maxActions : Int) (s : Registry) :
    Except PyError (List TomographyAction) × Registry :=
  if maxActions < 1 then (.error (.valueError "max_actions must be positive"), s)
  else if (s.indexes.get? indexKey).isNone then (.error (.keyError ("unknown source index: " ++ indexKey)), s)
  else (.ok ((plannedActions policy now indexKey s).take maxActions.toNat),
    wave policy now indexKey (waveLength policy now indexKey s) s)

/-! ## Probes -/

/-- The region that a probe returns, of an object of some size; nothing of a region behind its end. -/
def normalizedRegion (region : HarvestRegion) (objectSize : Nat) : Option HarvestRegion :=
  let objectEnd : Int := objectSize - 1
  let start := (region.bytes.map (·.byteStart)).getD 0
  let last := min ((region.bytes.map (·.byteEnd)).getD objectEnd) objectEnd
  if ordered : 0 ≤ start ∧ start ≤ last then some { region with bytes := some ⟨start, last, ordered.1, ordered.2⟩ } else none

/-- What is committed of a probe: the region, then its synopsis. -/
def probe (now : ℚ) (region : HarvestRegion) (objectSize : Nat) (synopsis : RegionSynopsis) (commits : Nat) (s : Registry) : Registry :=
  match normalizedRegion region objectSize with
  | none => s
  | some region =>
    if commits = 0 then s
    else
      match s.store now (.put region) with
      | (.error _, s) => s
      | (.ok _, s) => if commits = 1 then s else (s.recordSynopsis now synopsis).2

/-! ## Runs -/

/-- The registry, and the regions that waves offered. -/
structure System where
  registry : Registry
  offered : List HarvestRegion

inductive TomographyOp
  /-- A wave, all of it or until the process dies. -/
  | advance (policy : RegionTomographyPolicy) (indexKey : String) (maxActions : Int) (dies : Option Nat)
  /-- A probe of a region that was offered, until the process dies. -/
  | probe (region : HarvestRegion) (objectSize : Nat) (synopsis : RegionSynopsis) (commits : Nat)
  /-- An index is registered, perhaps again. -/
  | register (factory : SourceFactorySpec) (index : SourceIndexSpec)
  /-- A mark, a synopsis or a call of a harvest. -/
  | other (op : RegistryOp) (stores : ∀ call, op ≠ .store call)

/-- A step, at a reading of the clock. -/
structure TomographyEvent where
  now : ℚ
  op : TomographyOp

def System.after (t : System) (e : TomographyEvent) : System :=
  match e.op with
  | .advance policy indexKey maxActions none =>
    match advance policy e.now indexKey maxActions t.registry with
    | (.ok actions, s) => ⟨s, t.offered ++ (actions.filter (·.kind = .probe)).map (·.region)⟩
    | (.error _, s) => { t with registry := s }
  | .advance policy indexKey maxActions (some commits) =>
    if maxActions < 1 || (t.registry.indexes.get? indexKey).isNone then t
    else { t with registry := wave policy e.now indexKey commits t.registry }
  | .probe region objectSize synopsis commits =>
    if region ∈ t.offered then { t with registry := probe e.now region objectSize synopsis commits t.registry } else t
  | .register factory index => { t with registry := (t.registry.store e.now (.register ⟨factory, index, rootRegion index⟩)).2 }
  | .other op _ => { t with registry := t.registry.after ⟨e.now, op⟩ }

/-- Planners, probes and harvests over a registry. -/
def tomography (s : Registry) : Machine System TomographyEvent Unit where
  initial := ⟨s, []⟩
  step t e := ((), t.after e)

def rootKey (indexKey : String) : String := stableKey "region" [indexKey, RegionKind.full.value]

/-- An index whose root is its only region, and has bounds. -/
structure Planted (s : Registry) (indexKey : String) (root : ByteRange) : Prop where
  known : (s.indexes.get? indexKey).isSome
  rooted : ∃ row, s.regions.get? (rootKey indexKey) = some row ∧ row.indexKey = indexKey ∧ row.bytes = some root ∧ row.parentRegionKey = none
  only : ∀ key row, s.regions.get? key = some row → row.indexKey = indexKey → key = rootKey indexKey
  childless : ∀ key row, s.regions.get? key = some row → row.parentRegionKey ≠ some (rootKey indexKey)
  /-- The foreign key of the regions. -/
  parents : ∀ key row parent, s.regions.get? key = some row → row.parentRegionKey = some parent → (s.regions.get? parent).isSome

/-- No process dies between the children of a split, no two regions get one key, the object is as
    long as its regions, and the index keeps its length. -/
def Whole (indexKey : String) (t : System) (e : TomographyEvent) : Prop :=
  match e.op with
  | .advance policy planned _ dies =>
    ((puts policy t.registry planned).map (·.regionKey)).Nodup ∧
      (∀ child ∈ puts policy t.registry planned, t.registry.regions.get? child.regionKey = none) ∧
      (planned = indexKey → ∀ commits, dies = some commits → commits < (puts policy t.registry planned).length → Even commits)
  | .probe region objectSize _ _ => region.indexKey = indexKey → ∀ range, region.bytes = some range → range.byteEnd < objectSize
  | .register _ index => ∀ row, t.registry.regions.get? (rootKey index.indexKey) = some row →
      row.indexKey = index.indexKey ∧ row.parentRegionKey = none ∧ (index.indexKey = indexKey → row.bytes = wholeObject index.contentLength)
  | .other _ _ => True

def Has (row : StoredRegion) (byte : Int) : Prop := ∃ range, row.bytes = some range ∧ range.byteStart ≤ byte ∧ byte ≤ range.byteEnd

/-- The regions without children tile the root, and every region lies in its parent. -/
structure Tiled (s : Registry) (indexKey : String) (root : ByteRange) : Prop where
  bounded : ∀ row ∈ leaves s indexKey, row.bytes.isSome
  apart : (leaves s indexKey).Pairwise fun a b => ∀ byte, ¬(Has a byte ∧ Has b byte)
  union : ∀ byte, root.byteStart ≤ byte ∧ byte ≤ root.byteEnd ↔ ∃ row ∈ leaves s indexKey, Has row byte
  nested : ∀ child ∈ s.regions.rows, child.indexKey = indexKey → ∀ parent ∈ s.regions.rows,
    child.parentRegionKey = some parent.regionKey → ∀ byte, Has child byte → Has parent byte

/-- A wave of the planner stores and marks nothing. -/
def Quiescent (policy : RegionTomographyPolicy) (s : Registry) (indexKey : String) : Prop :=
  puts policy s indexKey = [] ∧ marks policy s indexKey = []

/-- The region is on its way to a harvest, harvested, given up, or offered by a later wave. -/
def Accounted (policy : RegionTomographyPolicy) (s : Registry) (indexKey : String) (row : StoredRegion) : Prop :=
  row.state ∈ [.harvestReady, .harvesting, .harvested, .dropped] ∨
    ∀ now, ∃ maxActions actions, (advance policy now indexKey maxActions s).1 = .ok actions ∧ ∃ action ∈ actions, action.region = row.region

/-! ## What is kept -/

def piece (s : Registry) (key : String) : Set Int := {byte | ∃ row, s.regions.get? key = some row ∧ Has row byte}

def IsLeaf (s : Registry) (indexKey key : String) : Prop :=
  ∃ row, s.regions.get? key = some row ∧ row.indexKey = indexKey ∧ ∀ k child, s.regions.get? k = some child → child.parentRegionKey ≠ some key

structure Inv (indexKey : String) (root : ByteRange) (s : Registry) : Prop where
  known : (s.indexes.get? indexKey).isSome
  rooted : ∃ row, s.regions.get? (rootKey indexKey) = some row ∧ row.indexKey = indexKey ∧ row.parentRegionKey = none ∧ row.bytes = some root
  bounded : ∀ key row, s.regions.get? key = some row → row.indexKey = indexKey → row.bytes.isSome
  parents : ∀ key row parent, s.regions.get? key = some row → row.parentRegionKey = some parent →
    ∃ up, s.regions.get? parent = some up ∧ (up.indexKey = indexKey ↔ row.indexKey = indexKey) ∧
      (row.indexKey = indexKey → ∀ byte, Has row byte → Has up byte)
  tiles : Tiles {key | IsLeaf s indexKey key} (piece s) (Set.Icc root.byteStart root.byteEnd)

/-- No region is lost, and none of the index is moved. -/
structure Later (indexKey : String) (s s' : Registry) : Prop where
  indexes : ∀ key, (s.indexes.get? key).isSome → (s'.indexes.get? key).isSome
  rows : ∀ key row, s.regions.get? key = some row → ∃ row', s'.regions.get? key = some row' ∧ row'.indexKey = row.indexKey ∧
    row'.parentRegionKey = row.parentRegionKey ∧ (row.indexKey = indexKey → row'.bytes = row.bytes)

section
variable {indexKey : String} {root : ByteRange} {s s' s'' : Registry}

theorem Later.refl (s : Registry) : Later indexKey s s := ⟨fun _ => id, fun _ row found => ⟨row, found, rfl, rfl, fun _ => rfl⟩⟩

theorem Later.trans (first : Later indexKey s s') (second : Later indexKey s' s'') : Later indexKey s s'' where
  indexes key known := second.indexes key (first.indexes key known)
  rows key row found := by
    obtain ⟨row', found', index, parent, bytes⟩ := first.rows key row found
    obtain ⟨row'', found'', index', parent', bytes'⟩ := second.rows key row' found'
    exact ⟨row'', found'', index'.trans index, parent'.trans parent, fun ours => (bytes' (index.trans ours)).trans (bytes ours)⟩

theorem has_congr {row row' : StoredRegion} (same : row'.bytes = row.bytes) (byte : Int) : Has row' byte ↔ Has row byte := by
  simp only [Has, same]

/-- The same regions, none of the index moved. -/
theorem Inv.alike (inv : Inv indexKey root s) (later : Later indexKey s s')
    (none_ : ∀ key, s.regions.get? key = none → s'.regions.get? key = none) : Inv indexKey root s' := by
  have before {key : String} {row' : StoredRegion} (found : s'.regions.get? key = some row') :
      ∃ row, s.regions.get? key = some row ∧ row'.indexKey = row.indexKey ∧ row'.parentRegionKey = row.parentRegionKey ∧
        (row.indexKey = indexKey → row'.bytes = row.bytes) := by
    cases old : s.regions.get? key with
    | none =>
      rw [none_ key old] at found
      cases found
    | some row =>
      obtain ⟨row'', found', index, parent, bytes⟩ := later.rows key row old
      cases found.symm.trans found'
      exact ⟨row, rfl, index, parent, bytes⟩
  have leaf (key : String) : IsLeaf s' indexKey key ↔ IsLeaf s indexKey key := by
    constructor
    · rintro ⟨row', found', ours, childless⟩
      obtain ⟨row, found, index, -, -⟩ := before found'
      refine ⟨row, found, index.symm.trans ours, fun k child stored => ?_⟩
      obtain ⟨child', stored', -, parent, -⟩ := later.rows k child stored
      rw [← parent]
      exact childless k child' stored'
    · rintro ⟨row, found, ours, childless⟩
      obtain ⟨row', found', index, -, -⟩ := later.rows key row found
      refine ⟨row', found', index.trans ours, fun k child' stored' => ?_⟩
      obtain ⟨child, stored, -, parent, -⟩ := before stored'
      rw [parent]
      exact childless k child stored
  refine ⟨later.indexes _ inv.known, ?_, fun key row' found' ours => ?_, fun key row' p found' isParent => ?_, ?_⟩
  · obtain ⟨row, found, ours, top, bytes⟩ := inv.rooted
    obtain ⟨row', found', index, parent, same⟩ := later.rows _ row found
    exact ⟨row', found', index.trans ours, parent.trans top, (same ours).trans bytes⟩
  · obtain ⟨row, found, index, -, bytes⟩ := before found'
    rw [bytes (index.symm.trans ours)]
    exact inv.bounded key row found (index.symm.trans ours)
  · obtain ⟨row, found, index, parent, bytes⟩ := before found'
    obtain ⟨up, above, same, inside⟩ := inv.parents key row p found (parent.symm.trans isParent)
    obtain ⟨up', above', upIndex, -, upBytes⟩ := later.rows p up above
    refine ⟨up', above', by rw [upIndex, index, same], fun ours byte has => ?_⟩
    have here : row.indexKey = indexKey := index.symm.trans ours
    exact (has_congr (upBytes (same.mpr here)) byte).mpr (inside here byte ((has_congr (bytes here) byte).mp has))
  · have leaves_ : {key | IsLeaf s' indexKey key} = {key | IsLeaf s indexKey key} := Set.ext leaf
    rw [leaves_]
    refine inv.tiles.congr fun key isLeaf => ?_
    obtain ⟨row, found, ours, -⟩ := isLeaf
    obtain ⟨row', found', -, -, bytes⟩ := later.rows key row found
    ext byte
    simp only [piece, Set.mem_ofPred_eq, found, found', Option.some.injEq, exists_eq_left', has_congr (bytes ours)]

theorem Inv.insert (inv : Inv indexKey root s) (fresh : StoredRegion) (indexes : ∀ key, (s.indexes.get? key).isSome → (s'.indexes.get? key).isSome)
    (stored : ∀ key, s'.regions.get? key = if key = fresh.regionKey then some fresh else s.regions.get? key)
    (new : s.regions.get? fresh.regionKey = none) (other : fresh.indexKey ≠ indexKey)
    (placed : ∀ parent, fresh.parentRegionKey = some parent → ∃ up, s.regions.get? parent = some up ∧ up.indexKey ≠ indexKey) :
    Inv indexKey root s' := by
  have old {key : String} {row : StoredRegion} (found : s.regions.get? key = some row) : s'.regions.get? key = some row := by
    rw [stored, if_neg, found]
    rintro rfl
    rw [new] at found
    cases found
  have before {key : String} {row : StoredRegion} (found : s'.regions.get? key = some row) :
      row = fresh ∧ key = fresh.regionKey ∨ s.regions.get? key = some row := by
    rw [stored] at found
    split at found
    · rename_i here
      exact .inl ⟨(Option.some.inj found).symm, here⟩
    · exact .inr found
  have leaf (key : String) : IsLeaf s' indexKey key ↔ IsLeaf s indexKey key := by
    constructor
    · rintro ⟨row, found, ours, childless⟩
      rcases before found with ⟨rfl, -⟩ | found
      · exact absurd ours other
      · exact ⟨row, found, ours, fun k child inside => childless k child (old inside)⟩
    · rintro ⟨row, found, ours, childless⟩
      refine ⟨row, old found, ours, fun k child inside => ?_⟩
      rcases before inside with ⟨rfl, -⟩ | inside
      · intro isParent
        obtain ⟨up, above, apart⟩ := placed key isParent
        cases found.symm.trans above
        exact apart ours
      · exact childless k child inside
  refine ⟨indexes _ inv.known, ?_, fun key row found ours => ?_, fun key row parent found isParent => ?_, ?_⟩
  · obtain ⟨row, found, rest⟩ := inv.rooted
    exact ⟨row, old found, rest⟩
  · rcases before found with ⟨rfl, -⟩ | found
    · exact absurd ours other
    · exact inv.bounded key row found ours
  · rcases before found with ⟨rfl, -⟩ | found
    · obtain ⟨up, above, apart⟩ := placed parent isParent
      exact ⟨up, old above, iff_of_false apart other, fun ours => absurd ours other⟩
    · obtain ⟨up, above, same, inside⟩ := inv.parents key row parent found isParent
      exact ⟨up, old above, same, inside⟩
  · have leaves_ : {key | IsLeaf s' indexKey key} = {key | IsLeaf s indexKey key} := Set.ext leaf
    rw [leaves_]
    refine inv.tiles.congr fun key isLeaf => ?_
    obtain ⟨row, found, -, -⟩ := isLeaf
    simp only [piece, old found, found]

/-- A leaf gets both its children. -/
theorem Inv.split (inv : Inv indexKey root s) (up a b : StoredRegion)
    (indexes : ∀ key, (s.indexes.get? key).isSome → (s'.indexes.get? key).isSome)
    (stored : ∀ key, s'.regions.get? key =
      if key = b.regionKey then some b else if key = a.regionKey then some a else s.regions.get? key)
    (newA : s.regions.get? a.regionKey = none) (newB : s.regions.get? b.regionKey = none) (apart : a.regionKey ≠ b.regionKey)
    (found : s.regions.get? up.regionKey = some up) (ours : up.indexKey = indexKey)
    (childless : ∀ k child, s.regions.get? k = some child → child.parentRegionKey ≠ some up.regionKey)
    (children : ∀ row, row = a ∨ row = b → row.indexKey = indexKey ∧ row.parentRegionKey = some up.regionKey ∧ row.bytes.isSome)
    (halved : ∀ byte, Has up byte ↔ Has a byte ∨ Has b byte) (cut : ∀ byte, ¬(Has a byte ∧ Has b byte)) :
    Inv indexKey root s' := by
  have old {key : String} {row : StoredRegion} (here : s.regions.get? key = some row) : s'.regions.get? key = some row := by
    rw [stored, if_neg, if_neg, here]
    · rintro rfl
      rw [newA] at here
      cases here
    · rintro rfl
      rw [newB] at here
      cases here
  have storedA : s'.regions.get? a.regionKey = some a := by rw [stored, if_neg apart, if_pos rfl]
  have storedB : s'.regions.get? b.regionKey = some b := by rw [stored, if_pos rfl]
  have before {key : String} {row : StoredRegion} (here : s'.regions.get? key = some row) :
      (row = a ∧ key = a.regionKey ∨ row = b ∧ key = b.regionKey) ∨ s.regions.get? key = some row := by
    rw [stored] at here
    split at here
    · rename_i isB
      exact .inl (.inr ⟨(Option.some.inj here).symm, isB⟩)
    · split at here
      · rename_i isA
        exact .inl (.inl ⟨(Option.some.inj here).symm, isA⟩)
      · exact .inr here
  have half {row : StoredRegion} {key : String} (is : row = a ∧ key = a.regionKey ∨ row = b ∧ key = b.regionKey) : row = a ∨ row = b :=
    is.imp And.left And.left
  have noParent {key : String} (fresh : s.regions.get? key = none) {k : String} {child : StoredRegion}
      (inside : s.regions.get? k = some child) : child.parentRegionKey ≠ some key := by
    intro isParent
    obtain ⟨up', above, -⟩ := inv.parents k child key inside isParent
    rw [fresh] at above
    cases above
  have upOld {key : String} (fresh : s.regions.get? key = none) : up.regionKey ≠ key := by
    rintro rfl
    rw [fresh] at found
    cases found
  have newLeaf {row : StoredRegion} (is : row = a ∨ row = b) : IsLeaf s' indexKey row.regionKey := by
    have fresh : s.regions.get? row.regionKey = none := by rcases is with rfl | rfl <;> assumption
    refine ⟨row, by rcases is with rfl | rfl <;> assumption, (children row is).1, fun k child inside => ?_⟩
    rcases before inside with new | inside
    · rw [(children child (half new)).2.1]
      exact fun same => upOld fresh (Option.some.inj same)
    · exact noParent fresh inside
  have leaf (key : String) : IsLeaf s' indexKey key ↔ IsLeaf s indexKey key ∧ key ≠ up.regionKey ∨ key = a.regionKey ∨ key = b.regionKey := by
    constructor
    · rintro ⟨row, here, mine, free⟩
      rcases before here with (⟨-, isA⟩ | ⟨-, isB⟩) | here
      · exact .inr (.inl isA)
      · exact .inr (.inr isB)
      · refine .inl ⟨⟨row, here, mine, fun k child inside => free k child (old inside)⟩, ?_⟩
        rintro rfl
        exact free _ a storedA (children a (.inl rfl)).2.1
    · rintro (⟨⟨row, here, mine, free⟩, other⟩ | rfl | rfl)
      · refine ⟨row, old here, mine, fun k child inside => ?_⟩
        rcases before inside with new | inside
        · rw [(children child (half new)).2.1]
          exact fun same => other (Option.some.inj same).symm
        · exact free k child inside
      · exact newLeaf (.inl rfl)
      · exact newLeaf (.inr rfl)
  refine ⟨indexes _ inv.known, ?_, fun key row here mine => ?_, fun key row parent here isParent => ?_, ?_⟩
  · obtain ⟨row, here, rest⟩ := inv.rooted
    exact ⟨row, old here, rest⟩
  · rcases before here with new | here
    · exact (children row (half new)).2.2
    · exact inv.bounded key row here mine
  · rcases before here with new | here
    · obtain ⟨mine, above, -⟩ := children row (half new)
      cases above.symm.trans isParent
      refine ⟨up, old found, iff_of_true ours mine, fun _ byte has => (halved byte).mpr ?_⟩
      rcases half new with rfl | rfl
      · exact .inl has
      · exact .inr has
    · obtain ⟨up', above, same, inside⟩ := inv.parents key row parent here isParent
      exact ⟨up', old above, same, inside⟩
  · have unleaf {key : String} (fresh : s.regions.get? key = none) : key ∉ {key | IsLeaf s indexKey key} := by
      rintro ⟨row, here, -⟩
      rw [fresh] at here
      cases here
    refine inv.tiles.split ⟨up, found, ours, childless⟩ (unleaf newA) (unleaf newB) (fun key isLeaf _ => ?_) ?_ ?_ leaf
    · obtain ⟨row, here, -⟩ := isLeaf
      simp only [piece, old here, here]
    · ext byte
      simp only [piece, storedA, storedB, found, Option.some.injEq, exists_eq_left', Set.mem_union, Set.mem_ofPred_eq, halved]
    · refine Set.disjoint_left.mpr fun byte inA inB => ?_
      simp only [piece, storedA, storedB, Option.some.injEq, exists_eq_left', Set.mem_ofPred_eq] at inA inB
      exact cut byte ⟨inA, inB⟩

end

/-! ## Commits -/

section
variable {indexKey : String} {root : ByteRange} {s : Registry}

/-- A region under a new key, in a known index, with a stored parent. -/
structure Insertable (s : Registry) (region : HarvestRegion) : Prop where
  known : (s.indexes.get? region.indexKey).isSome
  placed : ∀ parent, region.parentRegionKey = some parent → ∃ up, s.regions.get? parent = some up ∧ up.indexKey = region.indexKey
  fresh : s.regions.get? region.regionKey = none

theorem Insertable.accepted {region : HarvestRegion} (insertable : Insertable s region) : s.problem (.put region) = none := by
  have placed : s.placed region = true := by
    simp only [Registry.placed, Bool.and_eq_true, insertable.known, true_and]
    cases above : region.parentRegionKey with
    | none => rfl
    | some parent =>
      obtain ⟨up, found, -⟩ := insertable.placed parent above
      simp [found]
  have known : (s.indexes.get? region.indexKey).isNone = false := by
    rw [← Option.not_isSome, insertable.known]
    rfl
  simp [Registry.problem, known, placed]

theorem put_indexes (s : Registry) (now : ℚ) (region : HarvestRegion) : (s.store now (.put region)).2.indexes = s.indexes := by
  simp only [Registry.store]
  split <;> rfl

theorem put_synopses (s : Registry) (now : ℚ) (region : HarvestRegion) : (s.store now (.put region)).2.synopses = s.synopses := by
  simp only [Registry.store]
  split <;> rfl

/-- A new region is stored beside the others. -/
theorem put_fresh {region : HarvestRegion} (insertable : Insertable s region) (now : ℚ) (key : String) :
    (s.store now (.put region)).2.regions.get? key = if key = region.regionKey then some (region.row now) else s.regions.get? key := by
  have stored := store_get? insertable.accepted now key
  by_cases here : key = region.regionKey
  · rw [if_pos here]
    refine (stored.trans (if_pos here)).trans ?_
    rw [here, insertable.fresh]
    rfl
  · rw [if_neg here]
    exact stored.trans (if_neg here)

theorem put_old {region : HarvestRegion} (insertable : Insertable s region) (now : ℚ) {key : String} {row : StoredRegion}
    (found : s.regions.get? key = some row) : (s.store now (.put region)).2.regions.get? key = some row := by
  rw [put_fresh insertable, if_neg, found]
  rintro rfl
  rw [insertable.fresh] at found
  cases found

theorem putAll_cons (now : ℚ) (region : HarvestRegion) (rest : List HarvestRegion) (s : Registry) :
    putAll now (region :: rest) s = putAll now rest (s.store now (.put region)).2 := rfl

theorem putAll_indexes (now : ℚ) (regions : List HarvestRegion) (s : Registry) : (putAll now regions s).indexes = s.indexes := by
  induction regions generalizing s with
  | nil => rfl
  | cons region rest ih => rw [putAll_cons, ih, put_indexes]

theorem putAll_synopses (now : ℚ) (regions : List HarvestRegion) (s : Registry) : (putAll now regions s).synopses = s.synopses := by
  induction regions generalizing s with
  | nil => rfl
  | cons region rest ih => rw [putAll_cons, ih, put_synopses]

theorem Insertable.after {region other : HarvestRegion} (first : Insertable s region) (second : Insertable s other)
    (apart : other.regionKey ≠ region.regionKey) (now : ℚ) : Insertable (s.store now (.put region)).2 other where
  known := by rw [put_indexes]; exact second.known
  placed parent above := by
    obtain ⟨up, found, same⟩ := second.placed parent above
    exact ⟨up, put_old first now found, same⟩
  fresh := by rw [put_fresh first, if_neg apart, second.fresh]

/-- New regions are stored beside the others. -/
theorem putAll_get? {regions : List HarvestRegion} (distinct : (regions.map (·.regionKey)).Nodup)
    (insertable : ∀ region ∈ regions, Insertable s region) (now : ℚ) (key : String) :
    (putAll now regions s).regions.get? key =
      (((regions.find? (·.regionKey = key)).map (·.row now)).or (s.regions.get? key)) := by
  induction regions generalizing s with
  | nil => rfl
  | cons region rest ih =>
    obtain ⟨new, distinct⟩ := List.nodup_cons.mp distinct
    obtain ⟨first, others⟩ := List.forall_mem_cons.mp insertable
    have apart : ∀ other ∈ rest, other.regionKey ≠ region.regionKey := fun other member same =>
      new (List.mem_map.mpr ⟨other, member, same⟩)
    rw [putAll_cons, ih distinct fun other member => first.after (others other member) (apart other member) now, put_fresh first]
    by_cases here : key = region.regionKey
    · subst here
      have none_ : rest.find? (·.regionKey = region.regionKey) = none := by
        simp only [List.find?_eq_none, decide_eq_true_eq]
        exact apart
      simp [none_]
    · simp [here, Ne.symm here]

theorem putAll_old {regions : List HarvestRegion} (distinct : (regions.map (·.regionKey)).Nodup)
    (insertable : ∀ region ∈ regions, Insertable s region) (now : ℚ) {key : String} {row : StoredRegion}
    (found : s.regions.get? key = some row) : (putAll now regions s).regions.get? key = some row := by
  have none_ : regions.find? (·.regionKey = key) = none := by
    simp only [List.find?_eq_none, decide_eq_true_eq]
    rintro region member rfl
    rw [(insertable region member).fresh] at found
    cases found
  rw [putAll_get? distinct insertable, none_, found]
  rfl

theorem putAll_later {regions : List HarvestRegion} (distinct : (regions.map (·.regionKey)).Nodup)
    (insertable : ∀ region ∈ regions, Insertable s region) (now : ℚ) : Later indexKey s (putAll now regions s) where
  indexes key known := by rw [putAll_indexes]; exact known
  rows key row found := ⟨row, putAll_old distinct insertable now found, rfl, rfl, fun _ => rfl⟩

/-- Regions of another index are stored. -/
theorem Inv.putOthers (inv : Inv indexKey root s) {regions : List HarvestRegion} (distinct : (regions.map (·.regionKey)).Nodup)
    (insertable : ∀ region ∈ regions, Insertable s region) (others : ∀ region ∈ regions, region.indexKey ≠ indexKey) (now : ℚ) :
    Inv indexKey root (putAll now regions s) := by
  induction regions generalizing s with
  | nil => exact inv
  | cons region rest ih =>
    obtain ⟨new, distinct⟩ := List.nodup_cons.mp distinct
    obtain ⟨first, later⟩ := List.forall_mem_cons.mp insertable
    obtain ⟨other, others⟩ := List.forall_mem_cons.mp others
    have apart : ∀ region' ∈ rest, region'.regionKey ≠ region.regionKey := fun region' member same =>
      new (List.mem_map.mpr ⟨region', member, same⟩)
    rw [putAll_cons]
    refine ih ?_ distinct (fun region' member => first.after (later region' member) (apart region' member) now) others
    have indexes (key : String) (known : (s.indexes.get? key).isSome) :
        ((s.store now (.put region)).2.indexes.get? key).isSome := by rw [put_indexes]; exact known
    refine inv.insert (region.row now) indexes (put_fresh first now) first.fresh other fun parent above => ?_
    obtain ⟨up, found, same⟩ := first.placed parent above
    exact ⟨up, found, by rw [same]; exact other⟩

/-! ## Splits -/

theorem has_halves (range : ByteRange) (large : 2 ≤ rangeSize range) (byte : Int) :
    range.byteStart ≤ byte ∧ byte ≤ range.byteEnd ↔
      ((halves range large).1.byteStart ≤ byte ∧ byte ≤ (halves range large).1.byteEnd) ∨
        (halves range large).2.byteStart ≤ byte ∧ byte ≤ (halves range large).2.byteEnd := by
  have size := rangeSize_eq range
  simp only [halves]
  omega

theorem cut_halves (range : ByteRange) (large : 2 ≤ rangeSize range) (byte : Int) :
    ¬(((halves range large).1.byteStart ≤ byte ∧ byte ≤ (halves range large).1.byteEnd) ∧
      (halves range large).2.byteStart ≤ byte ∧ byte ≤ (halves range large).2.byteEnd) := by
  simp only [halves]
  omega

theorem has_bytes {row : StoredRegion} {range : ByteRange} (bytes : row.bytes = some range) (byte : Int) :
    Has row byte ↔ range.byteStart ≤ byte ∧ byte ≤ range.byteEnd := by
  simp [Has, bytes]

/-- A leaf of the index, as a wave reads it. -/
structure Leaf (s : Registry) (indexKey : String) (region : HarvestRegion) (row : StoredRegion) : Prop where
  found : s.regions.get? region.regionKey = some row
  read : row.region = region
  ours : region.indexKey = indexKey
  childless : ∀ k child, s.regions.get? k = some child → child.parentRegionKey ≠ some region.regionKey

theorem childRegion_insertable {region : HarvestRegion} {row : StoredRegion} {range : ByteRange} (known : (s.indexes.get? region.indexKey).isSome)
    (found : s.regions.get? region.regionKey = some row) (read : row.region = region)
    (fresh : s.regions.get? (childRegion region range).regionKey = none) : Insertable s (childRegion region range) where
  known := known
  placed parent above := by
    cases above
    exact ⟨row, found, congrArg HarvestRegion.indexKey read⟩
  fresh := fresh

theorem Inv.putChildren (inv : Inv indexKey root s) {region left right : HarvestRegion} {row : StoredRegion} (leaf : Leaf s indexKey region row)
    (splits : splitByteRegion region = some (left, right)) (apart : left.regionKey ≠ right.regionKey)
    (freshLeft : s.regions.get? left.regionKey = none) (freshRight : s.regions.get? right.regionKey = none) (now : ℚ) :
    Insertable s left ∧ Insertable s right ∧ Inv indexKey root (putAll now [left, right] s) := by
  unfold splitByteRegion at splits
  cases bytes : region.bytes with
  | none =>
    rw [bytes] at splits
    cases splits
  | some range =>
    rw [bytes] at splits
    dsimp only at splits
    split at splits
    · rename_i large
      cases splits
      have known : (s.indexes.get? region.indexKey).isSome := by rw [leaf.ours]; exact inv.known
      have first := childRegion_insertable known leaf.found leaf.read freshLeft
      have second := childRegion_insertable known leaf.found leaf.read freshRight
      refine ⟨first, second, ?_⟩
      have rowBytes : row.bytes = some range := (congrArg HarvestRegion.bytes leaf.read).trans bytes
      have name : row.regionKey = region.regionKey := congrArg HarvestRegion.regionKey leaf.read
      refine inv.split row ((childRegion region (halves range large).1).row now) ((childRegion region (halves range large).2).row now)
        (by rw [putAll_indexes]; exact fun _ => id) (fun key => ?_) freshLeft freshRight apart (by rw [name]; exact leaf.found)
        ((congrArg HarvestRegion.indexKey leaf.read).trans leaf.ours) (by rw [name]; exact leaf.childless) ?_ ?_ ?_
      · rw [putAll_cons, putAll_cons, putAll, List.foldl_nil, put_fresh (first.after second (Ne.symm apart) now), put_fresh first]
        rfl
      · rintro child (rfl | rfl) <;> exact ⟨leaf.ours, congrArg some name.symm, rfl⟩
      · intro byte
        rw [has_bytes rowBytes, has_halves range large]
        simp only [Has, HarvestRegion.row, childRegion, Option.some.injEq, exists_eq_left']
      · intro byte
        simp only [Has, HarvestRegion.row, childRegion, Option.some.injEq, exists_eq_left']
        exact cut_halves range large byte
    · cases splits

end

/-! ## Waves -/

section
variable {indexKey : String} {root : ByteRange} {s : Registry} {policy : RegionTomographyPolicy}

theorem mem_listRegions {row : StoredRegion} : row ∈ listRegions s indexKey ↔ row ∈ s.regions.rows ∧ row.indexKey = indexKey := by
  rw [listRegions, List.mem_insertionSort, List.mem_filter, decide_eq_true_eq]

theorem mem_leaves {row : StoredRegion} : row ∈ leaves s indexKey ↔ (row ∈ s.regions.rows ∧ row.indexKey = indexKey) ∧
    ∀ child ∈ s.regions.rows, child.indexKey = indexKey → child.parentRegionKey ≠ some row.regionKey := by
  simp only [leaves, List.mem_filter, mem_listRegions, hasChild, Bool.not_eq_true', List.any_eq_false, decide_eq_true_eq, and_imp]

theorem leaves_distinct (s : Registry) (indexKey : String) : ((leaves s indexKey).map (·.regionKey)).Nodup := by
  refine List.Nodup.sublist (List.filter_sublist.map _) ?_
  have sorted := List.perm_insertionSort (fun a b : StoredRegion => toLex (a.depth, a.regionKey) ≤ toLex (b.depth, b.regionKey))
    (s.regions.rows.filter (·.indexKey = indexKey))
  refine ((sorted.map _).nodup_iff).mpr ?_
  exact s.regions.keyed.sublist (List.filter_sublist.map _)

theorem leafRegions_distinct (s : Registry) (indexKey : String) : ((leafRegions s indexKey).map (·.regionKey)).Nodup := by
  rw [leafRegions, List.map_map]
  exact (leaves_distinct s indexKey).sublist (List.filter_sublist.map _)

theorem mem_leafRegions {region : HarvestRegion} (member : region ∈ leafRegions s indexKey) :
    ∃ row ∈ leaves s indexKey, row.region = region ∧ s.regions.get? region.regionKey = some row ∧ row.state ≠ .harvested ∧ row.state ≠ .dropped := by
  obtain ⟨row, inside, rfl⟩ := List.mem_map.mp member
  obtain ⟨isLeaf, open_⟩ := List.mem_filter.mp inside
  simp only [Bool.and_eq_true, decide_eq_true_eq] at open_
  exact ⟨row, isLeaf, rfl, Table.get?_mem (mem_leaves.mp isLeaf).1.1, open_⟩

theorem Inv.childless (inv : Inv indexKey root s) {row : StoredRegion} (isLeaf : row ∈ leaves s indexKey) :
    ∀ k child, s.regions.get? k = some child → child.parentRegionKey ≠ some row.regionKey := by
  intro k child found isParent
  obtain ⟨⟨member, ours⟩, childless⟩ := mem_leaves.mp isLeaf
  obtain ⟨up, above, same, -⟩ := inv.parents k child _ found isParent
  cases (Table.get?_mem member).symm.trans above
  exact childless child (Table.mem_of_get? found) (same.mp ours) isParent

theorem Inv.leaf (inv : Inv indexKey root s) {region : HarvestRegion} (member : region ∈ leafRegions s indexKey) :
    ∃ row, Leaf s indexKey region row := by
  obtain ⟨row, isLeaf, rfl, found, -⟩ := mem_leafRegions member
  exact ⟨row, found, rfl, (mem_leaves.mp isLeaf).1.2, inv.childless isLeaf⟩

theorem mem_children {region child : HarvestRegion} (member : child ∈ children region) : ∃ range, child = childRegion region range := by
  unfold children splitByteRegion at member
  cases bytes : region.bytes with
  | none =>
    rw [bytes] at member
    exact absurd member List.not_mem_nil
  | some range =>
    rw [bytes] at member
    dsimp only at member
    by_cases large : 2 ≤ rangeSize range
    · rw [dif_pos large] at member
      rcases List.mem_pair.mp member with rfl | rfl
      · exact ⟨_, rfl⟩
      · exact ⟨_, rfl⟩
    · rw [dif_neg large] at member
      exact absurd member List.not_mem_nil

theorem refinable_children {region : HarvestRegion} (refines : refinable policy s region) : (children region).length = 2 := by
  simp only [refinable, Bool.and_eq_true, decide_eq_true_eq] at refines
  obtain ⟨synopsis, -, should⟩ := (Option.any_eq_true _ _).mp refines.2
  have splittable : policy.splittable region = true := by
    by_contra small
    simp [RegionTomographyPolicy.shouldRefine, small] at should
  obtain ⟨size, isSize, large⟩ := (Option.any_eq_true _ _).mp splittable
  obtain ⟨range, bytes, rfl⟩ := Option.map_eq_some_iff.mp isSize
  simp only [Bool.and_eq_true, decide_eq_true_eq] at large
  have two : 2 ≤ rangeSize range := le_trans (by have := policy.childBytes_pos; omega) large.2
  simp [children, splitByteRegion, bytes, two]

theorem Inv.putFamilies (inv : Inv indexKey root s) {regions : List HarvestRegion} (isLeaf : ∀ region ∈ regions, ∃ row, Leaf s indexKey region row)
    (apart : (regions.map (·.regionKey)).Nodup) (distinct : ((regions.flatMap children).map (·.regionKey)).Nodup)
    (fresh : ∀ child ∈ regions.flatMap children, s.regions.get? child.regionKey = none) (now : ℚ) :
    Inv indexKey root (putAll now (regions.flatMap children) s) := by
  induction regions generalizing s with
  | nil => exact inv
  | cons region rest ih =>
    obtain ⟨new, apart⟩ := List.nodup_cons.mp apart
    obtain ⟨⟨row, leaf⟩, others⟩ := List.forall_mem_cons.mp isLeaf
    rw [List.flatMap_cons] at distinct fresh ⊢
    cases splits : splitByteRegion region with
    | none =>
      have none_ : children region = [] := by rw [children, splits]
      rw [none_, List.nil_append] at distinct fresh ⊢
      exact ih inv others apart distinct fresh
    | some pair =>
      obtain ⟨left, right⟩ := pair
      have both : children region = [left, right] := by rw [children, splits]
      rw [both] at distinct fresh ⊢
      rw [List.map_append, List.nodup_append] at distinct
      obtain ⟨own, distinct, across⟩ := distinct
      have leftRight : left.regionKey ≠ right.regionKey := by
        intro same
        exact (List.nodup_cons.mp own).1 (by simp [same])
      obtain ⟨first, second, kept⟩ := inv.putChildren leaf splits leftRight (fresh left (by simp)) (fresh right (by simp)) now
      have insertable : ∀ child ∈ [left, right], Insertable s child := by
        intro child member
        rcases List.mem_pair.mp member with rfl | rfl
        · exact first
        · exact second
      have family (child : HarvestRegion) (member : child ∈ [left, right]) : child.parentRegionKey = some region.regionKey := by
        obtain ⟨range, rfl⟩ := mem_children (by rw [both]; exact member)
        rfl
      have stored := putAll_get? own insertable now
      have split : putAll now ([left, right] ++ rest.flatMap children) s = putAll now (rest.flatMap children) (putAll now [left, right] s) :=
        List.foldl_append ..
      rw [split]
      refine ih kept (fun other member => ?_) apart distinct fun child member => ?_
      · obtain ⟨row', leaf'⟩ := others other member
        refine ⟨row', putAll_old own insertable now leaf'.found, leaf'.read, leaf'.ours, fun k child inside => ?_⟩
        rw [stored] at inside
        cases isNew : [left, right].find? (·.regionKey = k) with
        | none =>
          rw [isNew] at inside
          exact leaf'.childless k child inside
        | some child' =>
          rw [isNew] at inside
          cases inside
          intro isParent
          have parent := (family child' (List.mem_of_find?_eq_some isNew)).symm.trans isParent
          exact new (List.mem_map.mpr ⟨other, member, (Option.some.inj parent).symm⟩)
      · have none_ : [left, right].find? (·.regionKey = child.regionKey) = none := by
          rw [List.find?_eq_none]
          intro child' member' same
          exact across _ (List.mem_map_of_mem member') _ (List.mem_map_of_mem member) (decide_eq_true_iff.mp same)
        rw [stored, none_]
        exact fresh child (List.mem_append_right _ member)

theorem take_pairs {α β : Type} {f : α → List β} {items : List α} (two : ∀ a ∈ items, (f a).length = 2) (n : Nat) :
    (items.flatMap f).take (n + n) = (items.take n).flatMap f := by
  induction items generalizing n with
  | nil => simp
  | cons a rest ih =>
    obtain ⟨here, others⟩ := List.forall_mem_cons.mp two
    cases n with
    | zero => rfl
    | succ n =>
      have more : n + 1 + (n + 1) = (f a).length + (n + n) := by omega
      rw [List.take_succ_cons, List.flatMap_cons, List.flatMap_cons, more, List.take_length_add_append, ih others]

theorem other_later {e : RegistryEvent} (other : ∀ call, e.op ≠ .store call) : Later indexKey s (s.after e) where
  indexes key known := by rw [other_indexes other]; exact known
  rows key row found := by
    obtain ⟨row', found', framed, -⟩ := after_framed other found
    exact ⟨row', found', framed.index, framed.parent, fun _ => framed.bytes⟩

theorem Inv.other {e : RegistryEvent} (inv : Inv indexKey root s) (other : ∀ call, e.op ≠ .store call) : Inv indexKey root (s.after e) :=
  inv.alike (other_later other) fun _ absent => other_absent other absent

theorem markAll_keeps (indexKey : String) (root : ByteRange) (now : ℚ) (marked : List (String × RegionState)) (s : Registry) :
    Later indexKey s (markAll now marked s) ∧ (Inv indexKey root s → Inv indexKey root (markAll now marked s)) := by
  induction marked generalizing s with
  | nil => exact ⟨.refl s, id⟩
  | cons mark rest ih =>
    have other (call : StoreCall) : (⟨now, .mark mark.1 mark.2⟩ : RegistryEvent).op ≠ .store call := nofun
    obtain ⟨later, kept⟩ := ih (s.after ⟨now, .mark mark.1 mark.2⟩)
    exact ⟨(other_later other).trans later, fun inv => kept (inv.other other)⟩

/-- The regions that a wave stores can be stored. -/
theorem puts_insertable {planned : String} (known : (s.indexes.get? planned).isSome)
    (fresh : ∀ child ∈ puts policy s planned, s.regions.get? child.regionKey = none) :
    ∀ child ∈ puts policy s planned, Insertable s child ∧ child.indexKey = planned := by
  intro child member
  obtain ⟨region, inside, isChild⟩ := List.mem_flatMap.mp member
  obtain ⟨row, isLeaf, read, found, -⟩ := mem_leafRegions (List.mem_filter.mp inside).1
  obtain ⟨range, rfl⟩ := mem_children isChild
  have ours : region.indexKey = planned := by rw [← read]; exact (mem_leaves.mp isLeaf).1.2
  exact ⟨childRegion_insertable (by rw [ours]; exact known) found read (fresh _ member), ours⟩

theorem wave_whole (policy : RegionTomographyPolicy) (now : ℚ) (planned : String) (s : Registry) :
    wave policy now planned (waveLength policy now planned s) s =
      markAll now (marks policy (putAll now (puts policy s planned) s) planned) (putAll now (puts policy s planned) s) := by
  simp only [wave, waveLength, List.take_of_length_le (Nat.le_add_right _ _), Nat.add_sub_cancel_left, List.take_length]

theorem wave_keeps (inv : Inv indexKey root s) {planned : String} (known : (s.indexes.get? planned).isSome)
    (distinct : ((puts policy s planned).map (·.regionKey)).Nodup)
    (fresh : ∀ child ∈ puts policy s planned, s.regions.get? child.regionKey = none) (now : ℚ) (commits : Nat)
    (even : planned = indexKey → commits < (puts policy s planned).length → Even commits) :
    Later indexKey s (wave policy now planned commits s) ∧ Inv indexKey root (wave policy now planned commits s) := by
  have insertable := puts_insertable known fresh
  have part : ((puts policy s planned).take commits).Sublist (puts policy s planned) := List.take_sublist _ _
  have distinct' := distinct.sublist (part.map (·.regionKey))
  have insertable' : ∀ child ∈ (puts policy s planned).take commits, Insertable s child := fun child member =>
    (insertable child (part.subset member)).1
  have later : Later indexKey s (putAll now ((puts policy s planned).take commits) s) := putAll_later distinct' insertable' now
  have stored : Inv indexKey root (putAll now ((puts policy s planned).take commits) s) := by
    by_cases ours : planned = indexKey
    · subst ours
      have families : ∃ regions : List HarvestRegion, regions.Sublist ((leafRegions s planned).filter (refinable policy s)) ∧
          (puts policy s planned).take commits = regions.flatMap children := by
        by_cases all : (puts policy s planned).length ≤ commits
        · exact ⟨_, .refl _, List.take_of_length_le all⟩
        · obtain ⟨n, rfl⟩ := even rfl (not_le.mp all)
          exact ⟨_, List.take_sublist n _, take_pairs (fun region member => refinable_children (List.mem_filter.mp member).2) n⟩
      obtain ⟨regions, some_, same⟩ := families
      rw [same] at distinct' insertable' ⊢
      refine inv.putFamilies (fun region member => inv.leaf (List.mem_filter.mp (some_.subset member)).1) ?_ distinct'
        (fun child member => (insertable' child member).fresh) now
      exact (leafRegions_distinct s planned).sublist ((some_.trans List.filter_sublist).map _)
    · exact inv.putOthers distinct' insertable' (fun child member => by rw [(insertable child (part.subset member)).2]; exact ours) now
  obtain ⟨marked, kept⟩ := markAll_keeps indexKey root now
    ((marks policy (putAll now ((puts policy s planned).take commits) s) planned).take (commits - (puts policy s planned).length))
    (putAll now ((puts policy s planned).take commits) s)
  exact ⟨later.trans marked, kept stored⟩

end

/-! ## Steps -/

/-- What was offered is still where it was read. -/
def Offers (indexKey : String) (t : System) : Prop :=
  ∀ region ∈ t.offered, ∃ row, t.registry.regions.get? region.regionKey = some row ∧ row.indexKey = region.indexKey ∧
    row.parentRegionKey = region.parentRegionKey ∧ (region.indexKey = indexKey → row.bytes = region.bytes)

section
variable {indexKey : String} {root : ByteRange} {t : System} {s : Registry}

theorem Offers.later (offers : Offers indexKey t) (later : Later indexKey t.registry s) : Offers indexKey ⟨s, t.offered⟩ := by
  intro region member
  obtain ⟨row, found, index, parent, bytes⟩ := offers region member
  obtain ⟨row', found', index', parent', bytes'⟩ := later.rows _ row found
  exact ⟨row', found', index'.trans index, parent'.trans parent, fun ours => (bytes' (index.trans ours)).trans (bytes ours)⟩

theorem store_indexes (s : Registry) (now : ℚ) (call : StoreCall) (key : String) (known : (s.indexes.get? key).isSome) :
    ((s.store now call).2.indexes.get? key).isSome := by
  simp only [Registry.store]
  split
  · exact known
  · cases call with
    | put region => exact known
    | register compiled =>
      simp only [Registry.putRow, Registry.withIndex, Table.get?_upsert]
      split
      · rfl
      · exact known

/-- A store that gives a region the place it has. -/
theorem restated_keeps (inv : Inv indexKey root s) (call : StoreCall) {row : StoredRegion}
    (found : s.regions.get? call.region.regionKey = some row) (index : row.indexKey = call.region.indexKey)
    (parent : row.parentRegionKey = call.region.parentRegionKey) (bytes : row.indexKey = indexKey → row.bytes = call.region.bytes) (now : ℚ) :
    Later indexKey s (s.store now call).2 ∧ Inv indexKey root (s.store now call).2 := by
  cases refused : s.problem call with
  | some err =>
    rw [store_refused refused]
    exact ⟨.refl s, inv⟩
  | none =>
    have stored := store_get? refused now
    have later : Later indexKey s (s.store now call).2 := by
      refine ⟨store_indexes s now call, fun key row' found' => ?_⟩
      rw [stored]
      by_cases here : key = call.region.regionKey
      · subst here
        cases found.symm.trans found'
        rw [if_pos rfl, found]
        exact ⟨_, rfl, index.symm, parent.symm, fun ours => (bytes ours).symm⟩
      · rw [if_neg here]
        exact ⟨row', found', rfl, rfl, fun _ => rfl⟩
    refine ⟨later, inv.alike later fun key absent => ?_⟩
    rw [stored, if_neg, absent]
    rintro rfl
    rw [found] at absent
    cases absent

theorem probe_keeps (inv : Inv indexKey root s) {region : HarvestRegion} {row : StoredRegion}
    (found : s.regions.get? region.regionKey = some row) (index : row.indexKey = region.indexKey)
    (parent : row.parentRegionKey = region.parentRegionKey) (bytes : region.indexKey = indexKey → row.bytes = region.bytes) {objectSize : Nat}
    (holds : region.indexKey = indexKey → ∀ range, region.bytes = some range → range.byteEnd < objectSize) (now : ℚ)
    (synopsis : RegionSynopsis) (commits : Nat) :
    Later indexKey s (probe now region objectSize synopsis commits s) ∧ Inv indexKey root (probe now region objectSize synopsis commits s) := by
  unfold probe
  cases normal : normalizedRegion region objectSize with
  | none => exact ⟨.refl s, inv⟩
  | some measured =>
    obtain ⟨range, isMeasured, same⟩ : ∃ range, measured = { region with bytes := some range } ∧
        (region.indexKey = indexKey → row.bytes = some range) := by
      unfold normalizedRegion at normal
      dsimp only at normal
      split at normal
      · cases normal
        refine ⟨_, rfl, fun ours => ?_⟩
        obtain ⟨known, isKnown⟩ := Option.isSome_iff_exists.mp (inv.bounded _ row found (index.trans ours))
        have planned : region.bytes = some known := (bytes ours).symm.trans isKnown
        have inside := holds ours known planned
        rw [isKnown]
        simp only [planned, Option.map_some, Option.getD_some]
        have last : min known.byteEnd ((objectSize : Int) - 1) = known.byteEnd := by omega
        simp only [last]
      · cases normal
    subst isMeasured
    have put := restated_keeps inv (.put { region with bytes := some range }) found index parent
      (fun ours => same (index.symm.trans ours)) now
    dsimp only
    by_cases never : commits = 0
    · rw [if_pos never]
      exact ⟨.refl s, inv⟩
    rw [if_neg never]
    have other (call : StoreCall) : (⟨now, .synopsis synopsis⟩ : RegistryEvent).op ≠ .store call := nofun
    generalize s.store now (.put { region with bytes := some range }) = result at put
    obtain ⟨outcome, s'⟩ := result
    cases outcome with
    | error err => exact put
    | ok done =>
      by_cases once : commits = 1
      · simp only [once, ↓reduceIte]
        exact put
      · simp only [once, ↓reduceIte]
        exact ⟨put.1.trans (other_later other), put.2.other other⟩

theorem register_keeps (inv : Inv indexKey root s) {index : SourceIndexSpec}
    (whole : ∀ row, s.regions.get? (rootKey index.indexKey) = some row →
      row.indexKey = index.indexKey ∧ row.parentRegionKey = none ∧ (index.indexKey = indexKey → row.bytes = wholeObject index.contentLength))
    (factory : SourceFactorySpec) (now : ℚ) :
    Later indexKey s (s.store now (.register ⟨factory, index, rootRegion index⟩)).2 ∧
      Inv indexKey root (s.store now (.register ⟨factory, index, rootRegion index⟩)).2 := by
  cases found : s.regions.get? (rootKey index.indexKey) with
  | some row =>
    obtain ⟨same, top, bytes⟩ := whole row found
    exact restated_keeps inv (.register ⟨factory, index, rootRegion index⟩) found same top
      (fun ours => bytes (same.symm.trans ours)) now
  | none =>
    have other : index.indexKey ≠ indexKey := by
      rintro rfl
      obtain ⟨row, rooted, -⟩ := inv.rooted
      rw [found] at rooted
      cases rooted
    cases refused : s.problem (.register ⟨factory, index, rootRegion index⟩) with
    | some err =>
      rw [store_refused refused]
      exact ⟨.refl s, inv⟩
    | none =>
      have stored (key : String) : (s.store now (.register ⟨factory, index, rootRegion index⟩)).2.regions.get? key =
          if key = rootKey index.indexKey then some ((rootRegion index).row now) else s.regions.get? key := by
        have written := store_get? refused now key
        by_cases here : key = rootKey index.indexKey
        · rw [if_pos here]
          refine (written.trans (if_pos here)).trans ?_
          rw [here, found]
          rfl
        · rw [if_neg here]
          exact written.trans (if_neg here)
      refine ⟨⟨store_indexes s now _, fun key row old => ⟨row, ?_, rfl, rfl, fun _ => rfl⟩⟩,
        inv.insert ((rootRegion index).row now) (store_indexes s now _) stored found other fun _ => nofun⟩
      rw [stored, if_neg, old]
      rintro rfl
      rw [found] at old
      cases old

theorem planned_offered {policy : RegionTomographyPolicy} {planned : String} {now : ℚ} {action : TomographyAction}
    (member : action ∈ plannedActions policy now planned s) (probes : action.kind = .probe) :
    action.region ∈ leafRegions (putAll now (puts policy s planned) s) planned := by
  rw [plannedActions, List.mem_insertionSort] at member
  obtain ⟨region, isLeaf, isAction⟩ := List.mem_filterMap.mp member
  unfold actionFor at isAction
  split at isAction <;> cases isAction
  · exact isLeaf
  · cases probes
  · cases probes

theorem after_keeps (inv : Inv indexKey root t.registry) (offers : Offers indexKey t) {e : TomographyEvent} (whole : Whole indexKey t e) :
    Inv indexKey root (t.after e).registry ∧ Offers indexKey (t.after e) := by
  obtain ⟨now, op⟩ := e
  have both {s : Registry} (kept : Later indexKey t.registry s ∧ Inv indexKey root s) :
      Inv indexKey root (⟨s, t.offered⟩ : System).registry ∧ Offers indexKey ⟨s, t.offered⟩ := ⟨kept.2, offers.later kept.1⟩
  cases op with
  | advance policy planned maxActions dies =>
    obtain ⟨distinct, fresh, even⟩ := whole
    cases dies with
    | some commits =>
      simp only [System.after]
      split
      · exact ⟨inv, offers⟩
      · rename_i starts
        simp only [Bool.or_eq_true, decide_eq_true_eq, not_or, Option.isNone_iff_eq_none] at starts
        exact both (wave_keeps inv (Option.isSome_iff_ne_none.mpr starts.2) distinct fresh now commits fun ours => even ours commits rfl)
    | none =>
      simp only [System.after, advance]
      by_cases few : maxActions < 1
      · rw [if_pos few]
        exact ⟨inv, offers⟩
      by_cases unknown : (t.registry.indexes.get? planned).isNone
      · rw [if_neg few, if_pos unknown]
        exact ⟨inv, offers⟩
      rw [if_neg few, if_neg unknown]
      have known : (t.registry.indexes.get? planned).isSome :=
        Option.isSome_iff_ne_none.mpr fun none_ => unknown (by rw [none_]; rfl)
      have kept := wave_keeps inv known distinct fresh now (waveLength policy now planned t.registry)
        fun _ short => absurd short (not_lt.mpr (Nat.le_add_right _ _))
      refine ⟨kept.2, fun region member => ?_⟩
      rcases List.mem_append.mp member with old | offered
      · exact offers.later kept.1 region old
      obtain ⟨action, isPlanned, rfl⟩ := List.mem_map.mp offered
      obtain ⟨isPlanned, probes⟩ := List.mem_filter.mp isPlanned
      obtain ⟨row, -, read, found, -⟩ := mem_leafRegions (planned_offered (List.mem_of_mem_take isPlanned) (decide_eq_true_iff.mp probes))
      have marked := (markAll_keeps indexKey root now (marks policy (putAll now (puts policy t.registry planned) t.registry) planned)
        (putAll now (puts policy t.registry planned) t.registry)).1
      obtain ⟨row', found', index, parent, bytes⟩ := marked.rows _ row found
      rw [← wave_whole] at found'
      rw [← read]
      exact ⟨row', by rw [read]; exact found', index, parent, bytes⟩
  | probe region objectSize synopsis commits =>
    simp only [System.after]
    split
    · rename_i offered
      obtain ⟨row, found, index, parent, bytes⟩ := offers region offered
      exact both (probe_keeps inv found index parent bytes whole now synopsis commits)
    · exact ⟨inv, offers⟩
  | register factory index => exact both (register_keeps inv whole factory now)
  | other op stores => exact both ⟨other_later (e := ⟨now, op⟩) stores, inv.other (e := ⟨now, op⟩) stores⟩

end

/-! ## The tiling -/

section
variable {indexKey : String} {root : ByteRange} {s : Registry}

/-- The root alone tiles itself. -/
theorem Planted.inv (planted : Planted s indexKey root) : Inv indexKey root s := by
  obtain ⟨row, found, ours, bytes, top⟩ := planted.rooted
  have unrelated {key : String} {child : StoredRegion} {parent : String} (stored : s.regions.get? key = some child)
      (isParent : child.parentRegionKey = some parent) : child.indexKey ≠ indexKey := by
    intro same
    rw [planted.only key child stored same, found] at stored
    cases stored
    rw [top] at isParent
    cases isParent
  refine ⟨planted.known, ⟨row, found, ours, top, bytes⟩, fun key child stored same => ?_, fun key child parent stored isParent => ?_, ?_⟩
  · rw [planted.only key child stored same, found] at stored
    cases stored
    rw [bytes]
    rfl
  · obtain ⟨up, above⟩ := Option.isSome_iff_exists.mp (planted.parents key child parent stored isParent)
    refine ⟨up, above, iff_of_false (fun same => ?_) (unrelated stored isParent), fun same => absurd same (unrelated stored isParent)⟩
    rw [planted.only parent up above same] at isParent
    exact planted.childless key child stored isParent
  · have one : {key | IsLeaf s indexKey key} = {rootKey indexKey} := by
      ext key
      simp only [Set.mem_ofPred_eq, Set.mem_singleton_iff]
      constructor
      · rintro ⟨child, stored, same, -⟩
        exact planted.only key child stored same
      · rintro rfl
        exact ⟨row, found, ours, planted.childless⟩
    rw [one]
    refine ⟨Set.pairwiseDisjoint_singleton _ _, ?_⟩
    rw [Set.biUnion_singleton]
    ext byte
    simp only [piece, found, Option.some.injEq, exists_eq_left', Set.mem_ofPred_eq, has_bytes bytes, Set.mem_Icc]

theorem Inv.isLeaf (inv : Inv indexKey root s) {row : StoredRegion} (member : row ∈ leaves s indexKey) :
    IsLeaf s indexKey row.regionKey ∧ ∀ byte, byte ∈ piece s row.regionKey ↔ Has row byte := by
  have found := Table.get?_mem (mem_leaves.mp member).1.1
  refine ⟨⟨row, found, (mem_leaves.mp member).1.2, inv.childless member⟩, fun byte => ?_⟩
  simp only [piece, found, Option.some.injEq, exists_eq_left', Set.mem_ofPred_eq]

theorem Inv.tiled (inv : Inv indexKey root s) : Tiled s indexKey root where
  bounded row member := inv.bounded _ row (Table.get?_mem (mem_leaves.mp member).1.1) (mem_leaves.mp member).1.2
  apart := by
    refine (List.pairwise_map.mp (leaves_distinct s indexKey)).imp_of_mem fun {a b} first second other byte both => ?_
    obtain ⟨leafA, inA⟩ := inv.isLeaf first
    obtain ⟨leafB, inB⟩ := inv.isLeaf second
    exact Set.disjoint_left.mp (inv.tiles.apart leafA leafB other) ((inA byte).mpr both.1) ((inB byte).mpr both.2)
  union byte := by
    rw [← Set.mem_Icc, ← inv.tiles.union]
    simp only [Set.mem_iUnion, exists_prop]
    constructor
    · rintro ⟨key, ⟨row, found, ours, childless⟩, row', found', has⟩
      cases found.symm.trans found'
      have name := Table.get?_key found
      refine ⟨row, mem_leaves.mpr ⟨⟨Table.mem_of_get? found, ours⟩, fun child stored _ => ?_⟩, has⟩
      rw [name]
      exact childless _ child (Table.get?_mem stored)
    · rintro ⟨row, member, has⟩
      obtain ⟨leaf, inside⟩ := inv.isLeaf member
      exact ⟨row.regionKey, leaf, (inside byte).mpr has⟩
  nested child stored ours parent above isParent byte has := by
    obtain ⟨up, found, -, inside⟩ := inv.parents _ child _ (Table.get?_mem stored) isParent
    cases (Table.get?_mem above).symm.trans found
    exact inside ours byte has

end

/-! ## Quiescence -/

section
variable {indexKey : String} {s : Registry} {policy : RegionTomographyPolicy}

theorem mem_puts {region : HarvestRegion} (member : region ∈ leafRegions s indexKey) (refines : refinable policy s region) :
    ∃ child ∈ puts policy s indexKey, child.parentRegionKey = some region.regionKey := by
  have two := refinable_children refines
  cases family : children region with
  | nil =>
    rw [family] at two
    cases two
  | cons child rest =>
    have isChild : child ∈ children region := by rw [family]; exact List.mem_cons_self
    obtain ⟨range, same⟩ := mem_children isChild
    exact ⟨child, List.mem_flatMap.mpr ⟨region, List.mem_filter.mpr ⟨member, refines⟩, isChild⟩, by rw [same]; rfl⟩

/-- A region that a quiet planner neither splits nor marks is underway, or its probe is offered. -/
theorem quiescent_accounted (known : (s.indexes.get? indexKey).isSome) (quiet : Quiescent policy s indexKey) {row : StoredRegion}
    (isLeaf : row ∈ leaves s indexKey) : Accounted policy s indexKey row := by
  by_cases done : row.state ∈ [.harvestReady, .harvesting, .harvested, .dropped]
  · exact .inl done
  refine .inr fun now => ?_
  simp only [List.mem_cons, List.not_mem_nil, or_false, not_or] at done
  obtain ⟨notReady, notHarvesting, notHarvested, notDropped⟩ := done
  have member : row.region ∈ leafRegions s indexKey :=
    List.mem_map_of_mem (List.mem_filter.mpr ⟨isLeaf, by simp [notHarvested, notDropped]⟩)
  have probes : verdict policy s row.region = .probe := by
    have unmarked (v : Verdict) (is : verdict policy s row.region = v) : v ≠ .ready ∧ v ≠ .drop := by
      have none_ := List.filterMap_eq_nil_iff.mp quiet.2 row.region member
      rw [is] at none_
      constructor <;> (rintro rfl; cases none_)
    have whole : ¬refinable policy s row.region := by
      intro refines
      obtain ⟨child, inside, -⟩ := mem_puts member refines
      rw [quiet.1] at inside
      exact absurd inside List.not_mem_nil
    cases synopsis : s.synopses.get? row.region.regionKey with
    | none => simp [verdict, synopsis]
    | some measured =>
      by_cases open_ : (row.region.bytes.isNone || row.region.state = .discovered) = true
      · simp only [verdict, synopsis, open_, ↓reduceIte]
      · have probed : row.region.state = .probed := by
          simp only [Bool.or_eq_true, decide_eq_true_eq, not_or] at open_
          have discovered := open_.2
          change row.state = .probed
          change row.state ≠ .discovered at discovered
          cases state : row.state <;> simp_all
        have bounded : row.region.bytes.isNone = false := by
          simp only [Bool.or_eq_true, not_or, Bool.not_eq_true] at open_
          exact open_.1
        have unrefined : ¬policy.shouldRefine row.region measured := by
          intro should
          exact whole (by simp [refinable, probed, synopsis, should])
        have ends : verdict policy s row.region = .ready ∨ verdict policy s row.region = .drop := by
          by_cases worth : policy.worthHarvest measured
          · exact .inl (by simp [verdict, synopsis, bounded, probed, unrefined, worth])
          · exact .inr (by simp [verdict, synopsis, bounded, probed, unrefined, worth])
        rcases ends with ready | drop
        · exact absurd rfl (unmarked _ ready).1
        · exact absurd rfl (unmarked _ drop).2
  obtain ⟨action, isAction, region⟩ : ∃ action, actionFor policy s row.region = some action ∧ action.region = row.region := by
    unfold actionFor
    rw [probes]
    exact ⟨_, rfl, rfl⟩
  have planned : action ∈ plannedActions policy now indexKey s := by
    rw [plannedActions, List.mem_insertionSort, quiet.1]
    exact List.mem_filterMap.mpr ⟨row.region, member, isAction⟩
  have few : ¬((plannedActions policy now indexKey s).length + 1 : Int) < 1 := by omega
  have found : ¬(s.indexes.get? indexKey).isNone = true := by rw [← Option.not_isSome, known]; decide
  refine ⟨(plannedActions policy now indexKey s).length + 1, _, by rw [advance, if_neg few, if_neg found], action, ?_, region⟩
  rw [List.take_of_length_le (by omega)]
  exact planned

theorem markAll_unmarked (now : ℚ) (marked : List (String × RegionState)) {key : String} (unmarked : key ∉ marked.map Prod.fst) :
    (markAll now marked s).regions.get? key = s.regions.get? key := by
  induction marked generalizing s with
  | nil => rfl
  | cons mark rest ih =>
    obtain ⟨other, unmarked⟩ := not_or.mp (mt List.mem_cons.mpr unmarked)
    refine (ih unmarked).trans ?_
    simp only [Registry.markRegionState]
    split_ifs
    · rfl
    · rfl
    · rw [Table.get?_update_key, if_neg other]

theorem markAll_marked (now : ℚ) {marked : List (String × RegionState)} (ends : ∀ mark ∈ marked, mark.2 = .harvestReady ∨ mark.2 = .dropped)
    {key : String} {row : StoredRegion} (found : s.regions.get? key = some row)
    (some_ : key ∈ marked.map Prod.fst ∨ row.state = .harvestReady ∨ row.state = .dropped) :
    ∃ row', (markAll now marked s).regions.get? key = some row' ∧ (row'.state = .harvestReady ∨ row'.state = .dropped) := by
  induction marked generalizing s row with
  | nil => exact ⟨row, found, some_.resolve_left List.not_mem_nil⟩
  | cons mark rest ih =>
    obtain ⟨here, ends⟩ := List.forall_mem_cons.mp ends
    have accepted : mark.2 ≠ .harvesting := by rcases here with ready | dropped <;> simp [*]
    by_cases same : key = mark.1
    · have marks : (s.markRegionState now mark.1 mark.2).2.regions.get? key =
          some { row with state := mark.2, harvestOwner := none, harvestExpiresAt := none, updatedAt := now } := by
        have stored : (s.regions.get? mark.1).isNone = false := by rw [← same, found]; rfl
        simp only [Registry.markRegionState, accepted, stored, ↓reduceIte, Bool.false_eq_true]
        rw [Table.get?_update_key, if_pos same, found]
        rfl
      exact ih ends marks (.inr here)
    · have untouched : (s.markRegionState now mark.1 mark.2).2.regions.get? key = some row := by
        rw [← found]
        exact markAll_unmarked now [mark] (by simpa using same)
      refine ih ends untouched (some_.imp_left fun member => ?_)
      exact (List.mem_cons.mp member).resolve_left same

theorem markAll_synopses (now : ℚ) (marked : List (String × RegionState)) (s : Registry) : (markAll now marked s).synopses = s.synopses := by
  induction marked generalizing s with
  | nil => rfl
  | cons mark rest ih =>
    refine (ih _).trans ?_
    simp only [Registry.markRegionState]
    split_ifs <;> rfl

theorem leaf_before {s' : Registry} (later : Later indexKey s s') {row : StoredRegion} (found : s.regions.get? row.regionKey = some row)
    (isLeaf : row ∈ leaves s' indexKey) : row ∈ leaves s indexKey := by
  obtain ⟨⟨-, ours⟩, childless⟩ := mem_leaves.mp isLeaf
  refine mem_leaves.mpr ⟨⟨Table.mem_of_get? found, ours⟩, fun child stored ofIndex isParent => ?_⟩
  obtain ⟨child', found', index, parent, -⟩ := later.rows _ child (Table.get?_mem stored)
  exact childless child' (Table.mem_of_get? found') (index.trans ofIndex) (parent.trans isParent)

theorem marks_ends (mark : String × RegionState) (member : mark ∈ marks policy s indexKey) :
    (∃ row ∈ leaves s indexKey, row.regionKey = mark.1) ∧ (mark.2 = .harvestReady ∨ mark.2 = .dropped) := by
  obtain ⟨region, inside, isMark⟩ := List.mem_filterMap.mp member
  obtain ⟨row, isLeaf, rfl, -⟩ := mem_leafRegions inside
  cases isVerdict : verdict policy s row.region <;> rw [isVerdict] at isMark <;> cases isMark
  · exact ⟨⟨row, isLeaf, rfl⟩, .inl rfl⟩
  · exact ⟨⟨row, isLeaf, rfl⟩, .inr rfl⟩

theorem probed_unmarked {region : HarvestRegion} (member : region ∈ leafRegions s indexKey) (bounded : region.bytes.isNone = false)
    (probed : region.state = .probed) {synopsis : RegionSynopsis} (measured : s.synopses.get? region.regionKey = some synopsis)
    (unmarked : region.regionKey ∉ (marks policy s indexKey).map Prod.fst) : policy.shouldRefine region synopsis = true := by
  by_contra unrefined
  have mark (state : RegionState) (isMark : (match verdict policy s region with
      | .ready => some (region.regionKey, RegionState.harvestReady)
      | .drop => some (region.regionKey, .dropped)
      | _ => none) = some (region.regionKey, state)) : False :=
    unmarked (List.mem_map.mpr ⟨_, List.mem_filterMap.mpr ⟨region, member, isMark⟩, rfl⟩)
  by_cases worth : policy.worthHarvest synopsis
  · exact mark .harvestReady (by simp [verdict, measured, bounded, probed, unrefined, worth])
  · exact mark .dropped (by simp [verdict, measured, bounded, probed, unrefined, worth])

theorem wave_settled (known : (s.indexes.get? indexKey).isSome) (distinct : ((puts policy s indexKey).map (·.regionKey)).Nodup)
    (fresh : ∀ child ∈ puts policy s indexKey, s.regions.get? child.regionKey = none) (now : ℚ) {region : HarvestRegion}
    (member : region ∈ leafRegions (wave policy now indexKey (waveLength policy now indexKey s) s) indexKey)
    (bounded : region.bytes.isNone = false) (probed : region.state = .probed) : s.synopses.get? region.regionKey = none := by
  rw [wave_whole] at member
  have insertable := puts_insertable known fresh
  obtain ⟨stored, isStored⟩ : ∃ stored, stored = putAll now (puts policy s indexKey) s := ⟨_, rfl⟩
  rw [← isStored] at member
  have grown : Later indexKey s stored := by
    rw [isStored]
    exact putAll_later distinct (fun child inside => (insertable child inside).1) now
  have same : stored.synopses = s.synopses := by rw [isStored, putAll_synopses]
  obtain ⟨row, isLeaf, rfl, found, -⟩ := mem_leafRegions member
  have unmarked : row.regionKey ∉ (marks policy stored indexKey).map Prod.fst := by
    intro marked
    obtain ⟨mark, isMark, name⟩ := List.mem_map.mp marked
    obtain ⟨old, ofOld, named⟩ := (marks_ends mark isMark).1
    have before : stored.regions.get? row.regionKey = some old := by
      rw [← name, ← named]
      exact Table.get?_mem (mem_leaves.mp ofOld).1.1
    obtain ⟨row', found', ends⟩ := markAll_marked now (fun mark isMark => (marks_ends mark isMark).2) before (.inl marked)
    cases found.symm.trans found'
    change row.state = .probed at probed
    rw [probed] at ends
    rcases ends with ready | dropped
    · cases ready
    · cases dropped
  have unmoved : stored.regions.get? row.regionKey = some row := (markAll_unmarked now _ unmarked).symm.trans found
  have leafStored : row ∈ leaves stored indexKey := leaf_before (markAll_keeps indexKey ⟨0, 0, le_rfl, le_rfl⟩ now _ stored).1 unmoved isLeaf
  have open_ {s : Registry} (isLeaf : row ∈ leaves s indexKey) : row.region ∈ leafRegions s indexKey := by
    change row.state = .probed at probed
    exact List.mem_map_of_mem (List.mem_filter.mpr ⟨isLeaf, by simp [probed]⟩)
  cases measured : s.synopses.get? row.region.regionKey with
  | none => rfl
  | some synopsis =>
    have refines : refinable policy s row.region = true := by
      have should := probed_unmarked (open_ leafStored) bounded probed (by rw [same, measured]) unmarked
      simp [refinable, probed, measured, should]
    have get := putAll_get? distinct (fun child inside => (insertable child inside).1) now row.regionKey
    rw [← isStored, unmoved] at get
    cases isNew : (puts policy s indexKey).find? (·.regionKey = row.regionKey) with
    | some child =>
      rw [isNew] at get
      obtain ⟨parent, -, isChild⟩ := List.mem_flatMap.mp (List.mem_of_find?_eq_some isNew)
      obtain ⟨range, rfl⟩ := mem_children isChild
      cases Option.some.inj get
      cases probed
    | none =>
      rw [isNew] at get
      have before : s.regions.get? row.regionKey = some row := get.symm
      obtain ⟨child, inside, isParent⟩ := mem_puts (open_ (leaf_before grown before leafStored)) refines
      have there : stored.regions.get? child.regionKey = some (child.row now) := by
        have here := putAll_get? distinct (fun child inside => (insertable child inside).1) now child.regionKey
        rw [← isStored] at here
        have some_ : ((puts policy s indexKey).find? (·.regionKey = child.regionKey)).isSome :=
          List.find?_isSome.mpr ⟨child, inside, decide_eq_true rfl⟩
        obtain ⟨other, isOther⟩ := Option.isSome_iff_exists.mp some_
        have named : other.regionKey = child.regionKey := decide_eq_true_iff.mp (List.find?_some (p := fun region : HarvestRegion => decide (region.regionKey = child.regionKey)) isOther)
        rw [isOther, List.inj_on_of_nodup_map distinct (List.mem_of_find?_eq_some isOther) inside named] at here
        exact here
      exact absurd isParent ((mem_leaves.mp leafStored).2 _ (Table.mem_of_get? there) (insertable child inside).2)

theorem wave_quiescent (known : (s.indexes.get? indexKey).isSome) (distinct : ((puts policy s indexKey).map (·.regionKey)).Nodup)
    (fresh : ∀ child ∈ puts policy s indexKey, s.regions.get? child.regionKey = none) (now : ℚ) :
    Quiescent policy (wave policy now indexKey (waveLength policy now indexKey s) s) indexKey := by
  obtain ⟨after, isAfter⟩ : ∃ after, after = wave policy now indexKey (waveLength policy now indexKey s) s := ⟨_, rfl⟩
  have same : after.synopses = s.synopses := by rw [isAfter, wave_whole, markAll_synopses, putAll_synopses]
  rw [← isAfter]
  have settled (region : HarvestRegion) (member : region ∈ leafRegions after indexKey) (bounded : region.bytes.isNone = false)
      (probed : region.state = .probed) : after.synopses.get? region.regionKey = none := by
    rw [same]
    exact wave_settled known distinct fresh now (isAfter ▸ member) bounded probed
  constructor
  · rw [puts, List.flatMap_eq_nil_iff]
    intro region inside
    obtain ⟨member, refines⟩ := List.mem_filter.mp inside
    exfalso
    have bounded : region.bytes.isNone = false := by
      have two := refinable_children refines
      cases bytes : region.bytes with
      | none => rw [children, splitByteRegion, bytes] at two; cases two
      | some range => rfl
    simp only [refinable, Bool.and_eq_true, decide_eq_true_eq] at refines
    rw [settled region member bounded refines.1] at refines
    cases refines.2
  · rw [marks, List.filterMap_eq_nil_iff]
    intro region member
    cases isVerdict : verdict policy after region with
    | probe | harvest | wait => rfl
    | ready | drop =>
      exfalso
      unfold verdict at isVerdict
      cases measured : after.synopses.get? region.regionKey with
      | none => rw [measured] at isVerdict; cases isVerdict
      | some synopsis =>
        rw [measured] at isVerdict
        dsimp only at isVerdict
        split_ifs at isVerdict with unbounded ready_ probed
        simp only [Bool.or_eq_true, not_or, Bool.not_eq_true] at unbounded
        cases (settled region member unbounded.1 (not_not.mp probed)).symm.trans measured

end

/-! ## No byte is lost -/

/-- The leaves tile the root. A quiet planner accounts for every byte of it, and a wave makes the planner quiet. -/
structure NothingLost (s : Registry) (indexKey : String) (root : ByteRange) : Prop where
  tiled : Tiled s indexKey root
  accounted : ∀ policy, Quiescent policy s indexKey → ∀ byte, root.byteStart ≤ byte → byte ≤ root.byteEnd →
    ∃ row ∈ leaves s indexKey, Has row byte ∧ Accounted policy s indexKey row
  settles : ∀ policy now, ((puts policy s indexKey).map (·.regionKey)).Nodup →
    (∀ child ∈ puts policy s indexKey, s.regions.get? child.regionKey = none) →
    Quiescent policy (wave policy now indexKey (waveLength policy now indexKey s) s) indexKey

section
variable {indexKey : String} {root : ByteRange} {s : Registry}

theorem Inv.nothingLost (inv : Inv indexKey root s) : NothingLost s indexKey root where
  tiled := inv.tiled
  accounted policy quiet byte first last := by
    obtain ⟨row, isLeaf, has⟩ := (inv.tiled.union byte).mp ⟨first, last⟩
    exact ⟨row, isLeaf, has, quiescent_accounted inv.known quiet isLeaf⟩
  settles _ now distinct fresh := wave_quiescent inv.known distinct fresh now

/-- In a run whose waves do not stop between the children of a split, no byte of the root is lost. -/
theorem nothing_lost (planted : Planted s indexKey root) (es : List TomographyEvent)
    (whole : ∀ r ∈ (tomography s).trace es, Whole indexKey r.before r.event) :
    NothingLost ((tomography s).final es).registry indexKey root := by
  suffices kept : Inv indexKey root ((tomography s).final es).registry ∧ Offers indexKey ((tomography s).final es) from
    kept.1.nothingLost
  induction es using List.reverseRecOn with
  | nil => exact ⟨planted.inv, fun _ none_ => absurd none_ List.not_mem_nil⟩
  | append_singleton es e ih =>
    rw [Machine.trace_snoc] at whole
    rw [Machine.final_snoc]
    obtain ⟨inv, offers⟩ := ih fun r member => whole r (List.mem_append_left _ member)
    exact after_keeps inv offers (whole _ (List.mem_append_right _ (List.mem_singleton_self _)))

end

/-! ## A split that is half stored -/

def samplePolicy : RegionTomographyPolicy where
  maxDepth := 8
  minChildBytes := 1
  minObservationsToStop := 1
  zeroYieldStopConfidence := 1
  minNovelFraction := 0
  minNovelEedPerMib := 0
  explorationWeight := 0
  childBytes_pos := le_rfl
  observations_pos := le_rfl
  confidence_le := le_rfl
  fraction_le := zero_le_one

/-- One novel pair in the first bytes of a region. -/
def sampleSynopsis (regionKey : String) : RegionSynopsis where
  regionKey := regionKey
  uniqueHosts := 1
  novelHosts := 1
  observedHostYearPairs := 1
  novelHostYearPairs := 1
  novelEed := 1
  bytesRead := 2
  requests := 1
  measurementMode := .hostYear
  confidence := 1
  complete := false
  novelHosts_le := le_rfl
  novelPairs_le := le_rfl
  confidence_le := le_rfl

/-- An index of four bytes. -/
def sampleRegistry : Registry := (Registry.empty.store 0 (.register (sampleSpace (some 4)))).2

/-- The root is probed, then a wave makes some commits before its process dies, or all of them. -/
def splitRun (dies : Option Nat) : List TomographyEvent := [
  ⟨1, .advance samplePolicy "index:a" 8 none⟩,
  ⟨2, .probe (rootRegion (sampleIndex (some 4))) 4 (sampleSynopsis sampleRoot) 2⟩,
  ⟨3, .advance samplePolicy "index:a" 8 dies⟩]

/-- The bounds of the leaves, and of the regions that the next wave offers. -/
def leafBounds (t : System) : List (Option (Int × Int)) × List (Option (Int × Int)) :=
  let bounds (range : ByteRange) := (range.byteStart, range.byteEnd)
  ((leaves t.registry "index:a").map (·.bytes.map bounds),
    match (advance samplePolicy 4 "index:a" 8 t.registry).1 with
    | .ok actions => actions.map (·.region.bytes.map bounds)
    | .error _ => [])

theorem root4_start : (0 : Int) ≤ 0 := le_rfl

def sampleRoot4 : ByteRange := ⟨0, 3, root4_start, by decide⟩

theorem sampleRegistry_get? (key : String) : sampleRegistry.regions.get? key =
    if key = rootKey "index:a" then some ((rootRegion (sampleIndex (some 4))).row 0) else none := by
  have accepted : Registry.empty.problem (.register (sampleSpace (some 4))) = none := by decide +kernel
  exact store_get? accepted 0 key

theorem sampleRegistry_planted : Planted sampleRegistry "index:a" sampleRoot4 where
  known := by decide +kernel
  rooted := ⟨_, (sampleRegistry_get? _).trans (if_pos rfl), rfl, rfl, rfl⟩
  only key row found _ := by
    rw [sampleRegistry_get?] at found
    by_contra other
    rw [if_neg other] at found
    cases found
  childless key row found := by
    rw [sampleRegistry_get?] at found
    split_ifs at found
    cases found
    exact nofun
  parents key row parent found isParent := by
    rw [sampleRegistry_get?] at found
    split_ifs at found
    cases found
    cases isParent

theorem whole_split_loses_nothing :
    NothingLost ((tomography sampleRegistry).final (splitRun none)).registry "index:a" sampleRoot4 := by
  refine nothing_lost sampleRegistry_planted _ fun r member => ?_
  simp only [splitRun, Machine.trace, Machine.traceFrom_cons, Machine.traceFrom_nil, List.mem_cons, List.not_mem_nil,
    or_false] at member
  have fresh : ∀ n ∈ [0, 2], ((puts samplePolicy ((tomography sampleRegistry).final ((splitRun none).take n)).registry "index:a").map
      (·.regionKey)).Nodup ∧
      ∀ child ∈ puts samplePolicy ((tomography sampleRegistry).final ((splitRun none).take n)).registry "index:a",
        ((tomography sampleRegistry).final ((splitRun none).take n)).registry.regions.get? child.regionKey = none := by
    decide +kernel
  rcases member with rfl | rfl | rfl
  · exact ⟨(fresh 0 (by decide)).1, (fresh 0 (by decide)).2, by simp⟩
  · intro _ range bytes
    cases bytes
    decide
  · exact ⟨(fresh 2 (by decide)).1, (fresh 2 (by decide)).2, by simp⟩

/-- The process dies after the first child: its parent is no leaf any more, the last two bytes are in
    no leaf, and no later wave offers them. -/
theorem half_split_loses :
    Planted sampleRegistry "index:a" sampleRoot4 ∧
    leafBounds ((tomography sampleRegistry).final (splitRun (some 1))) = ([some (0, 1)], [some (0, 1)]) ∧
    ¬Tiled ((tomography sampleRegistry).final (splitRun (some 1))).registry "index:a" sampleRoot4 := by
  have bounds : leafBounds ((tomography sampleRegistry).final (splitRun (some 1))) = ([some (0, 1)], [some (0, 1)]) := by
    decide +kernel
  refine ⟨sampleRegistry_planted, bounds, fun tiled => ?_⟩
  obtain ⟨row, isLeaf, range, bytes, -, last⟩ := (tiled.union 3).mp (by decide)
  have inside : some (range.byteStart, range.byteEnd) ∈ (leafBounds ((tomography sampleRegistry).final (splitRun (some 1)))).1 :=
    List.mem_map.mpr ⟨row, isLeaf, by rw [bytes]; rfl⟩
  rw [bounds, List.mem_singleton, Option.some.injEq, Prod.mk.injEq] at inside
  omega

end Creeper.RegionTomography
