import Creeper.ReadinessLedger
import Creeper.BacklogAdmission

/-!
# Origins of host-years

Who gets the credit for a host-year: the three tables of `ControlStore` that attribute it
first-touch, the provenance that stands beside its proof, and what `_resolved_attribution` of
`runtime/readiness.py` makes of them. A run is only credited with host-years that name it.
-/

namespace Creeper.HostYearOrigins
open Creeper.Tables Creeper.EvidenceStore Creeper.ReadinessLedger
open Creeper.EvidenceTasks (EvidenceQueryKey)
open Creeper.FabricModels (PyError blank)

/-! ## Tables -/

/-- A row of `evidence_host_year_task_kinds`. -/
structure TaskKindRow where
  pair : HostYear
  taskKind : String
  deriving DecidableEq

/-- A row of `evidence_host_year_origins`. -/
structure HostYearOrigin where
  pair : HostYear
  run : RunKey
  /-- `task_year_from IS NULL`. -/
  direct : Bool
  attributedAt : ℚ
  deriving DecidableEq

/-- A row of `evidence_host_year_origin_units`. -/
structure OriginUnit where
  pair : HostYear
  sourceKey : String
  originKind : String
  originUnitId : String
  attributedAt : ℚ
  deriving DecidableEq

/-- What is attributed to host-years. -/
structure Origins where
  taskKinds : Table TaskKindRow HostYear (·.pair)
  origins : Table HostYearOrigin HostYear (·.pair)
  units : Table OriginUnit HostYear (·.pair)

def Origins.empty : Origins := ⟨.empty, .empty, .empty⟩

abbrev TaskOrigins := Table BacklogAdmission.OriginRow (EvidenceQueryKey × String × String × String) (·.key)

/-- The source run that a task origin names. -/
def runOf (row : BacklogAdmission.OriginRow) : RunKey := toLex (row.sourceKey, toLex (row.reservoirId, row.leaseId))

/-! ## Attribution -/

/-- The row that the ORDER BY of a task's origins has first. -/
def primaryOrigin (origins : TaskOrigins) (key : EvidenceQueryKey) : Option RunKey :=
  (((origins.rows.filter (·.task = key)).insertionSort fun a b =>
    toLex (a.firstObservedAt, runOf a) ≤ toLex (b.firstObservedAt, runOf b)).head?).map runOf

/-- The first transaction: INSERT OR IGNORE of task kinds. -/
def Origins.touch (t : Origins) (pairs : List HostYear) (kind : String) : Origins :=
  { t with taskKinds := pairs.foldl (fun kinds pair => kinds.insert ⟨pair, kind⟩) t.taskKinds }

/-- The second: INSERT OR IGNORE of origins, which fails on a new row for an unknown reservoir or lease. -/
def Origins.originate (t : Origins) (known : RunKey → Bool) (pairs : List HostYear) (run : RunKey) (direct : Bool) (when_ : ℚ) :
    Except PyError Nat × Origins :=
  if pairs.any (fun pair => (t.origins.get? pair).isNone) && !known run then (.error .integrityError, t)
  else
    let origins := pairs.foldl (fun origins pair => origins.insert ⟨pair, run, direct, when_⟩) t.origins
    (.ok (origins.rows.length - t.origins.rows.length), { t with origins })

/-- The task kind that `attribute_task_host_years` writes. -/
def attributedKind (key : EvidenceQueryKey) : String :=
  if key.provider = "rdap" then "rdap" else if key.yearFrom = key.yearTo then "exact" else "range"

/-- What both calls for a task do; the process may stop between their transactions. -/
def attributeTask (t : Origins) (taskOrigins : TaskOrigins) (known : RunKey → Bool) (key : EvidenceQueryKey)
    (pairs : List HostYear) (kind : String) (when_ : ℚ) (stops : Bool) : Except PyError Nat × Origins :=
  if stops then (.ok 0, t.touch pairs kind)
  else
    match primaryOrigin taskOrigins key with
    | none => (.ok 0, t.touch pairs kind)
    | some run => (t.touch pairs kind).originate known pairs run false when_

/-- `attribute_task_host_years`. -/
def attributeTaskHostYears (t : Origins) (taskOrigins : TaskOrigins) (known : RunKey → Bool) (key : EvidenceQueryKey)
    (years : List Int) (when_ : ℚ) (stops : Bool) : Except PyError Nat × Origins :=
  if years = [] then (.ok 0, t)
  else if years.any (fun year => year < key.yearFrom || key.yearTo < year) then
    (.error (.valueError "attributed year falls outside evidence task scope"), t)
  else attributeTask t taskOrigins known key (years.map fun year => toLex (key.hostname, year)) (attributedKind key) when_ stops

/-- `attribute_domain_task_host_years`. -/
def attributeDomainTaskHostYears (t : Origins) (taskOrigins : TaskOrigins) (known : RunKey → Bool) (key : EvidenceQueryKey)
    (capsules : List EvidenceCapsule) (when_ : ℚ) (stops : Bool) : Except PyError Nat × Origins :=
  if capsules = [] then (.ok 0, t)
  else attributeTask t taskOrigins known key (capsules.map (·.pair)) "domain" when_ stops

/-- `attribute_direct_host_years`. -/
def attributeDirectHostYears (t : Origins) (known : RunKey → Bool) (pairs : List HostYear)
    (sourceKey reservoirId leaseId : String) (when_ : ℚ) (stops : Bool) : Except PyError Nat × Origins :=
  if blank sourceKey || blank reservoirId || blank leaseId then
    (.error (.valueError "source_key, reservoir_id, and lease_id are required"), t)
  else if pairs = [] then (.ok 0, t)
  else if stops then (.ok 0, t.touch pairs "direct")
  else (t.touch pairs "direct").originate known pairs (toLex (sourceKey, toLex (reservoirId, leaseId))) true when_

/-- `attribute_direct_origin_unit_host_years`, in one transaction. -/
def attributeDirectOriginUnitHostYears (t : Origins) (knownReservoir : String → Bool) (pairs : List HostYear)
    (sourceKey reservoirId originKind originUnitId : String) (when_ : ℚ) : Except PyError Nat × Origins :=
  if blank sourceKey || blank reservoirId || blank originKind || blank originUnitId then
    (.error (.valueError "source_key, reservoir_id, origin_kind, and origin_unit_id are required"), t)
  else if pairs = [] then (.ok 0, t)
  else if pairs.any (fun pair => (t.units.get? pair).isNone) && !knownReservoir reservoirId then (.error .integrityError, t)
  else
    let units := pairs.foldl (fun units pair => units.insert ⟨pair, sourceKey, originKind, originUnitId, when_⟩) t.units
    (.ok (units.rows.length - t.units.rows.length), { t.touch pairs "direct" with units })

/-! ## Resolution -/

/-- `provider LIKE 'direct:%'`: SQLite compares ASCII letters without case. -/
def likeDirect (provider : String) : Bool :=
  (provider.toList.take "direct:".length).map Char.toLower = "direct:".toList

/-- `resolve_direct_source_origins` of a host-year. -/
def directSources (s : Store) (pair : HostYear) : List String :=
  (((s.capsules.rows.filter fun c => c.pair = pair && likeDirect c.provider && c.sourceId ≠ "").map (·.sourceId)).eraseDups).insertionSort
    (· ≤ ·)

def provenPair (row : ProvenanceRow) : HostYear := toLex (row.key.hostname, row.key.year)

def provenRun (row : ProvenanceRow) : RunKey := toLex (row.key.sourceKey, toLex (row.key.reservoirId, row.key.leaseId))

/-- `resolve_provider_task_provenance` of a host-year: its first row. -/
def providerProvenance (s : Store) (pair : HostYear) : Option ProvenanceRow := s.provenance.rows.find? (provenPair · = pair)

/-- The rows of a host-year in both tables of origins. -/
def Origins.candidates (t : Origins) (pair : HostYear) : List (ℚ ×ₗ String ×ₗ String ×ₗ String) :=
  ((t.origins.get? pair).map fun row =>
      toLex (row.attributedAt, toLex ((ofLex row.run).1, toLex ("work_lease", (ofLex (ofLex row.run).2).2)))).toList ++
    ((t.units.get? pair).map fun row =>
      toLex (row.attributedAt, toLex (row.sourceKey, toLex (row.originKind, row.originUnitId)))).toList

/-- `resolve_primary_source_origins` of a host-year. -/
def Origins.primarySource (t : Origins) (pair : HostYear) : Option String :=
  ((t.candidates pair).insertionSort (· ≤ ·)).head?.map fun candidate => (ofLex (ofLex candidate).2).1

/-- The run of a provenance row, if it names all of one. -/
def wholeRun (row : ProvenanceRow) : Option RunKey :=
  if row.key.reservoirId ≠ "" && row.key.leaseId ≠ "" then some (provenRun row) else none

/-- The cached run, if its source is the selected one. -/
def Origins.cachedRun (t : Origins) (pair : HostYear) (source : String) : Option RunKey :=
  ((t.origins.get? pair).map (·.run)).filter fun run => (ofLex run).1 = source

/-- `selected_kind` of `_resolved_attribution`. -/
def selectedKind (cachedKind : Option String) (direct : List String) (provider : Option ProvenanceRow) (postCutover : Bool) :
    Option String :=
  let kept := cachedKind.filter fun kind =>
    if kind = "direct" then direct ≠ []
    else !postCutover || provider.any (·.key.taskKind = kind)
  kept.or (if direct ≠ [] then some "direct" else provider.map (·.key.taskKind))

def directCredit (t : Origins) (pair : HostYear) (direct : List String) (provider : Option ProvenanceRow) : Option String × Option RunKey :=
  match direct with
  | [] => (none, none)
  | first :: _ =>
    let source := ((t.primarySource pair).filter (direct.contains ·)).getD first
    (some source, (t.cachedRun pair source).or ((provider.filter (·.key.sourceKey = source)).bind wholeRun))

def provenCredit (provider : Option ProvenanceRow) : Option String × Option RunKey :=
  match provider.filter (·.key.sourceKey ≠ "") with
  | none => (none, none)
  | some row => (some row.key.sourceKey, wholeRun row)

/-- The source and the run of a host-year from before the provenance table. -/
def legacyCredit (t : Origins) (pair : HostYear) (provider : Option ProvenanceRow) : Option String × Option RunKey :=
  match t.primarySource pair with
  | some source => (some source, t.cachedRun pair source)
  | none => provenCredit provider

/-- `_resolved_attribution` of one row. -/
def resolvedAttribution (t : Origins) (s : Store) (cutover : Nat) (row : HostYearRow) : Attribution :=
  let pair := row.pair
  let direct := directSources s pair
  let provider := providerProvenance s pair
  match selectedKind ((t.taskKinds.get? pair).map (·.taskKind)) direct provider (cutover < row.sequence) with
  | none => ⟨none, none, none⟩
  | some kind =>
    let (source, run) :=
      if kind = "direct" then directCredit t pair direct provider
      else if row.sequence ≤ cutover then legacyCredit t pair provider
      else provenCredit (provider.filter (·.key.taskKind = kind))
    ⟨source, some kind, run⟩

/-- A host-year has an origin or a provenance row of a run. -/
def names (t : Origins) (s : Store) (run : RunKey) (pair : HostYear) : Bool :=
  (t.origins.get? pair).any (·.run = run) || s.provenance.rows.any fun row => provenPair row = pair && provenRun row = run

def namedRows (t : Origins) (s : Store) (run : RunKey) : List HostYearRow := s.hostYears.table.rows.filter fun row => names t s run row.pair

/-- `_max_source_run_evidence_sequence`. -/
def maxSourceRunEvidenceSequence (t : Origins) (s : Store) (run : RunKey) : Nat :=
  (namedRows t s run).foldr (fun row last => max row.sequence last) 0

/-! ## Credit goes to runs that are named -/

section
variable {t u : Origins} {s s' : Store} {run : RunKey} {pair : HostYear} {row : ProvenanceRow}

theorem wholeRun_eq (whole : wholeRun row = some run) : provenRun row = run := by
  unfold wholeRun at whole
  split at whole
  · exact Option.some.inj whole
  · cases whole

theorem names_cached {source : String} (cached : t.cachedRun pair source = some run) : names t s run pair = true := by
  obtain ⟨found, -⟩ := Option.filter_eq_some_iff.mp cached
  obtain ⟨origin, stored, same⟩ := Option.map_eq_some_iff.mp found
  simp [names, stored, same]

theorem names_proven {q : ProvenanceRow → Bool} (first : (providerProvenance s pair).filter q = some row)
    (whole : wholeRun row = some run) : names t s run pair = true := by
  obtain ⟨found, -⟩ := Option.filter_eq_some_iff.mp first
  have here := List.find?_some found
  refine Bool.or_eq_true_iff.mpr (.inr (List.any_eq_true.mpr ⟨row, List.mem_of_find?_eq_some found, ?_⟩))
  simpa [wholeRun_eq whole] using here

theorem names_directCredit (credited : (directCredit t pair (directSources s pair) (providerProvenance s pair)).2 = some run) :
    names t s run pair = true := by
  unfold directCredit at credited
  split at credited
  · cases credited
  · rcases Option.or_eq_some_iff.mp credited with cached | ⟨-, proven⟩
    · exact names_cached cached
    · obtain ⟨row, first, whole⟩ := Option.bind_eq_some_iff.mp proven
      exact names_proven first whole

theorem names_provenCredit {q : ProvenanceRow → Bool} (credited : (provenCredit ((providerProvenance s pair).filter q)).2 = some run) :
    names t s run pair = true := by
  unfold provenCredit at credited
  rw [Option.filter_filter] at credited
  split at credited
  · cases credited
  · rename_i row first
    exact names_proven first credited

theorem names_legacyCredit (credited : (legacyCredit t pair (providerProvenance s pair)).2 = some run) : names t s run pair = true := by
  unfold legacyCredit at credited
  split at credited
  · exact names_cached credited
  · have all : (providerProvenance s pair).filter (fun _ => true) = providerProvenance s pair := by
      cases providerProvenance s pair <;> rfl
    rw [← all] at credited
    exact names_provenCredit credited

theorem names_resolved {cutover : Nat} {row : HostYearRow} (credited : (resolvedAttribution t s cutover row).run = some run) :
    names t s run row.pair = true := by
  unfold resolvedAttribution at credited
  dsimp only at credited
  split at credited
  · cases credited
  · rename_i kind selected
    dsimp only at credited
    split at credited
    · exact names_directCredit credited
    · split at credited
      · exact names_legacyCredit credited
      · exact names_provenCredit credited

theorem names_grows (origins : ∀ pair row, t.origins.get? pair = some row → u.origins.get? pair = some row)
    (provenance : ∀ row ∈ s.provenance.rows, row ∈ s'.provenance.rows) (named : names t s run pair = true) :
    names u s' run pair = true := by
  unfold names at named ⊢
  simp only [Bool.or_eq_true, Option.any_eq_true, List.any_eq_true] at named ⊢
  rcases named with ⟨row, stored, same⟩ | ⟨row, stored, same⟩
  · exact .inl ⟨row, origins pair row stored, same⟩
  · exact .inr ⟨row, provenance row stored, same⟩

end
end Creeper.HostYearOrigins
