import Creeper.AuthorityStore
import Creeper.NullLogic

/-!
# Which rows the two authorities grant

The SQLite authority tests a row with `_eligible` and `_region_eligible`; the
PostgreSQL authority does so in the `WHERE` clause of `claim_work`, with two left
joins. Both tests are the same for every row, worker, budget and region, but for
the way they compute when a blocked region is due for another probe: one takes the
difference of two doubles, the other their sum.
-/

namespace Creeper.ClaimBackends
open Creeper.Tables Creeper.PyNumbers Creeper.FabricModels Creeper.AuthorityStore Creeper.NullLogic

/-! ## Deadlines in doubles -/

def double (q : ℚ) : PyFloat := if q < 0 then (nearestDouble (-q)).neg else nearestDouble q

/-- The sum of two doubles of which the first is finite. -/
def sum (a : ℚ) : PyFloat → PyFloat
  | .fin b => double (a + b)
  | other => other

/-- `now - updated_at >= region_reprobe_after_seconds`. -/
def dueBySqlite (now : ℚ) (budget : BudgetRow) (region : RegionRow) : Bool :=
  budget.regionReprobeAfterSeconds.le (double (now - region.updatedAt))

/-- `updated_at + region_reprobe_after_seconds <= now`. -/
def dueByPostgres (now : ℚ) (budget : BudgetRow) (region : RegionRow) : Bool :=
  (sum region.updatedAt budget.regionReprobeAfterSeconds).le (.fin now)

/-! ## SQLite -/

section
variable (due : BudgetRow → RegionRow → Bool)

/-- The state of a region, with a blocked or unqualified one probed again when it is due. -/
def stateWhen (budget : BudgetRow) (observed : Option RegionRow) : RegionState :=
  match observed with
  | none => .unknown
  | some region =>
    if (region.state = .blocked || region.state = .unqualified) && budget.allowUnknownRegionProbe && due budget region then
      .unknown
    else region.state

/-- Whether a provider lets the region of the worker through. -/
def providerOpen (budget : Option BudgetRow) (observed : Option RegionRow) : Bool :=
  match budget with
  | none => false
  | some budget =>
    !budget.requireQualifiedRegion ||
      (match stateWhen due budget observed with
        | .blocked | .unqualified => false
        | .qualified => true
        | .unknown => budget.allowUnknownRegionProbe)

/-- `_region_eligible`, with the deadlines of the regions as given. -/
def regionEligibleWhen (s : Store) (row : WorkRow) (worker : WorkerRow) : Bool :=
  row.fields.requiredProviders.all (fun provider =>
    providerOpen due (s.providerBudgets.get? provider) (s.providerRegions.get? (provider, worker.descriptor.region)))

end

/-- The rows of the query of SQLite that `_eligible` and `_region_eligible` accept. -/
def sqliteSelects (s : Store) (now : ℚ) (worker : WorkerRow) (row : WorkRow) : Bool :=
  claimable row now && eligible row worker && regionEligibleWhen (dueBySqlite now) s row worker

/-! ## PostgreSQL -/

/-- The columns of the joined tables that the inner `WHERE` reads, NULL where there is no row. -/
def providerBlocked (now : ℚ) (pb : Option BudgetRow) (pr : Option RegionRow) : Truth :=
  let refused : Truth := pr.map (fun r => r.state = .blocked || r.state = .unqualified)
  let allowed : Truth := pb.map (·.allowUnknownRegionProbe)
  let due : Truth := pr.bind (fun r => pb.map (fun b => dueByPostgres now b r))
  .or (some pb.isNone)
    (.and (pb.map (·.requireQualifiedRegion))
      (.or (.and refused (.not (.and allowed due)))
        (.and (.or (.or (some pr.isNone) (.and refused due)) (pr.map (·.state = .unknown))) (.not allowed))))

/-- The providers of a row, with their budgets and with their regions. -/
def joined (s : Store) (region : String) (requiredProviders : List String) :
    List ((String × Option BudgetRow) × Option RegionRow) :=
  leftJoin (leftJoin requiredProviders s.providerBudgets.rows (fun rp pb => pb.provider = rp)) s.providerRegions.rows
    (fun left pr => pr.provider = left.1 && pr.region = region)

/-- The `WHERE` clause of `claim_work`. -/
def claimWhere (s : Store) (now : ℚ) (worker : WorkerRow) (row : WorkRow) : Truth :=
  .and (.or (some (row.state = .pending || row.state = .retry))
      (.and (some (row.state = .leased)) (row.leaseDeadline.map (·.le (.fin now)))))
    (.and (some (row.fields.notBefore.le (.fin now)))
      (.and (some ((row.attempt : ℤ) < row.fields.maxAttempts))
        (.and (some (row.fields.requiredCapabilities.all worker.descriptor.capabilities.contains))
          (.and (some (row.fields.requiredProviders.all worker.descriptor.allowedProviders.contains))
            (.and (.or (some worker.descriptor.producers.isEmpty) (some (worker.descriptor.producers.contains row.fields.producer)))
              (.not (some ((joined s worker.descriptor.region row.fields.requiredProviders).any
                (fun x => (providerBlocked now x.1.2 x.2).selects)))))))))

/-! ## Agreement -/

theorem filter_key {Row Key : Type} {key : Row → Key} [DecidableEq Key] (t : Table Row Key key) (k : Key) :
    t.rows.filter (fun r => key r = k) = (t.get? k).toList := by
  cases found : t.get? k with
  | none =>
    rw [Option.toList_none, List.filter_eq_nil_iff]
    intro r member
    simpa using Table.get?_eq_none.mp found r member
  | some r =>
    obtain ⟨first, last, split, before, after⟩ := Table.focus found
    have none_ : ∀ rows : List Row, (∀ o ∈ rows, key o ≠ k) → rows.filter (fun r => key r = k) = [] := by
      intro rows apart
      rw [List.filter_eq_nil_iff]
      intro o member
      simpa using apart o member
    rw [split, List.filter_append, none_ first before, List.filter_cons, none_ last after]
    simp [Table.get?_key found]

theorem joined_eq (s : Store) (region : String) (requiredProviders : List String) :
    joined s region requiredProviders = requiredProviders.map (fun provider =>
      ((provider, s.providerBudgets.get? provider), s.providerRegions.get? (provider, region))) := by
  unfold joined
  rw [leftJoin_unique (fun rp => s.providerBudgets.get? rp) (fun rp => filter_key s.providerBudgets rp),
    leftJoin_unique (fun left => s.providerRegions.get? (left.1, region)), List.map_map]
  · rfl
  · intro left
    rw [← filter_key]
    simp only [Prod.mk.injEq, Bool.decide_and]

/-- The deadline of a region matters: it is refused, and it may be probed. -/
def Probes (budget : BudgetRow) (region : RegionRow) : Prop :=
  budget.requireQualifiedRegion = true ∧ budget.allowUnknownRegionProbe = true ∧
    (region.state = .blocked ∨ region.state = .unqualified)

/-- A provider is open on SQLite exactly when PostgreSQL does not select it as blocked, unless
    the two deadlines of a region that it probes differ. -/
theorem provider_agrees_iff (now : ℚ) (budget : Option BudgetRow) (observed : Option RegionRow) :
    (providerBlocked now budget observed).selects = !providerOpen (dueBySqlite now) budget observed ↔
      ∀ b r, budget = some b → observed = some r → Probes b r → dueBySqlite now b r = dueByPostgres now b r := by
  cases budget with
  | none => simp [providerBlocked, providerOpen]
  | some b =>
    cases observed with
    | none =>
      simp only [providerBlocked, providerOpen, stateWhen, reduceCtorEq, false_implies, implies_true, iff_true,
        Option.map_some, Option.map_none, Option.bind_none]
      cases b.requireQualifiedRegion <;> cases b.allowUnknownRegionProbe <;> rfl
    | some r =>
      have two : (∀ b' r', some b = some b' → some r = some r' → Probes b' r' →
          dueBySqlite now b' r' = dueByPostgres now b' r') ↔
          (Probes b r → dueBySqlite now b r = dueByPostgres now b r) := by
        constructor
        · exact fun all => all b r rfl rfl
        · rintro one b' r' ⟨⟩ ⟨⟩
          exact one
      rw [two]
      simp only [Probes, providerBlocked, providerOpen, stateWhen, Option.map_some, Option.bind_some, Option.isNone_some]
      -- What is left depends on the state, the two settings and the two deadlines alone.
      generalize r.state = state
      generalize b.requireQualifiedRegion = required
      generalize b.allowUnknownRegionProbe = allowed
      generalize dueBySqlite now b r = due
      generalize dueByPostgres now b r = due'
      cases state <;> revert required allowed due due' <;> decide

/-- The deadlines that matter for a row and a worker fall on the same side in both computations. -/
def DeadlinesAlike (s : Store) (now : ℚ) (worker : WorkerRow) (row : WorkRow) : Prop :=
  ∀ provider ∈ row.fields.requiredProviders, ∀ budget region, s.providerBudgets.get? provider = some budget →
    s.providerRegions.get? (provider, worker.descriptor.region) = some region → Probes budget region →
      dueBySqlite now budget region = dueByPostgres now budget region

/-- The two authorities select the same rows, when the deadlines that matter are alike. -/
theorem claimWhere_selects (s : Store) (now : ℚ) (worker : WorkerRow) (row : WorkRow)
    (alike : DeadlinesAlike s now worker row) : (claimWhere s now worker row).selects = sqliteSelects s now worker row := by
  have regions : (joined s worker.descriptor.region row.fields.requiredProviders).any
      (fun x => (providerBlocked now x.1.2 x.2).selects) = !regionEligibleWhen (dueBySqlite now) s row worker := by
    rw [joined_eq, regionEligibleWhen, List.any_map, List.not_all_eq_any_not, Bool.eq_iff_iff, List.any_eq_true,
      List.any_eq_true]
    refine exists_congr fun provider => and_congr_right fun member => Bool.eq_iff_iff.mp ?_
    exact (provider_agrees_iff now _ _).mpr fun b r budget region => alike provider member b r budget region
  have lease : Truth.selects (row.leaseDeadline.map (·.le (.fin now))) = row.leaseDeadline.any (·.le (.fin now)) := by
    cases row.leaseDeadline <;> simp
  unfold claimWhere sqliteSelects claimable eligible
  simp only [Truth.selects_and, Truth.selects_or, Truth.selects_some, Truth.selects_not, Truth.refutes_some, regions, lease,
    Bool.not_not, Bool.and_assoc]

/-! ## A deadline that is rounded away -/

/-- A budget whose regions are probed again after a day and one unit in the last place. -/
def dailyProbe : BudgetRow where
  provider := "wayback"
  requestsPerSecond := .fin 1
  maxGlobalInflight := 1
  requireQualifiedRegion := true
  allowUnknownRegionProbe := true
  regionReprobeAfterSeconds := .fin (86400 + 1 / 2 ^ 36)
  nextRequestAt := .fin 0
  cooldownUntil := .fin 0
  updatedAt := 0

/-- A region that was blocked in November 2023. -/
def blockedRegion : RegionRow where
  provider := "wayback"
  region := "eu"
  state := .blocked
  samples := 1
  successes := 0
  timeouts := 0
  throttles := 0
  policyBlocks := 1
  totalLatencyMs := .fin 0
  responseBytes := 0
  updatedAt := 1700000000

/-- The two tables. -/
def probedStore : Store := { Store.empty with
  providerBudgets := Table.empty.insert dailyProbe
  providerRegions := Table.empty.insert blockedRegion }

/-- Pending work that needs the provider. -/
def waybackRow : WorkRow where
  taskId := "t"
  workKey := "k"
  fields := { (plainWork 5).toWorkFields with requiredProviders := ["wayback"] }
  state := .pending
  leaseOwner := none
  leaseOwnerInstance := none
  leaseGeneration := 0
  leaseDeadline := none
  attempt := 0
  cursor := none
  nextSequenceNo := 0
  lastError := none
  createdAt := 0
  updatedAt := 0

def probingWorker : WorkerRow := ⟨(plainWorker "w" "i").toWorkerFields, 0, false⟩

/-- Two days later the deadlines are alike, and both authorities grant the row. -/
theorem probed_selects : (claimWhere probedStore 1700172800 probingWorker waybackRow).selects =
    sqliteSelects probedStore 1700172800 probingWorker waybackRow := by
  refine claimWhere_selects probedStore 1700172800 probingWorker waybackRow ?_
  intro provider member budget region isBudget isRegion _
  obtain rfl : provider = "wayback" := by simpa [waybackRow] using member
  have known : probedStore.providerBudgets.get? "wayback" = some dailyProbe ∧
      probedStore.providerRegions.get? ("wayback", "eu") = some blockedRegion := ⟨rfl, rfl⟩
  rw [known.1] at isBudget
  rw [show probingWorker.descriptor.region = "eu" from rfl, known.2] at isRegion
  cases isBudget
  cases isRegion
  decide +kernel

/-- One day later only PostgreSQL grants the row. -/
theorem rounded_deadline_parts : ¬∀ (s : Store) (now : ℚ) (worker : WorkerRow) (row : WorkRow),
    (claimWhere s now worker row).selects = sqliteSelects s now worker row := by
  intro same
  have parted := same probedStore 1700086400 probingWorker waybackRow
  revert parted
  decide +kernel

end Creeper.ClaimBackends
