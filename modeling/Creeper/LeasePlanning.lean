import Creeper.CandidateMarking
import Creeper.EvidenceBridge

/-!
# Planning of a lease

`SourceProducer.resolve_pending` plans the observations of a lease in batches, and in a batch only
the first of those that look alike. The masks of a batch are read once and then kept in memory.
What is proved is the same as when each observation is planned alone. What is asked is not: a repeat
of an observation whose direct years are proved would ask for the other years.
-/

namespace Creeper.LeasePlanning
open Creeper.EvidenceStore
open Creeper.EvidenceTasks (EvidenceQueryKey officialHost)
open Creeper.CandidateMarking (CandidateSourceScope resolveYearMask)
open Creeper.ReadinessLedger (judgedYears yearBit)
open Creeper.FabricModels (PyError blank)

/-! ## Masks -/

/-- `YEAR_BITS.get(year, 0)`. -/
def bitOf (year : Int) : Nat := (yearBit year).getD 0

/-- `ALL_YEAR_MASK`. -/
def allYearMask : Nat := (judgedYears.map bitOf).sum

/-- `mask & YEAR_BITS[year]` is not zero. -/
def holds (mask : Nat) (year : Int) : Bool := mask &&& bitOf year ≠ 0

/-- `mask & ~other`. -/
def without (mask other : Nat) : Nat := mask ^^^ (mask &&& other)

theorem holds_iff {mask : Nat} {year : Int} (judged : year ∈ judgedYears) : holds mask year = mask.testBit (year - 1996).toNat := by
  rw [holds, bitOf, yearBit, if_pos judged, Option.getD_some, Nat.one_shiftLeft, Nat.and_two_pow]
  cases mask.testBit (year - 1996).toNat <;> simp

theorem holds_unjudged {mask : Nat} {year : Int} (other : year ∉ judgedYears) : holds mask year = false := by
  rw [holds, bitOf, yearBit, if_neg other]
  simp

theorem holds_or (mask other : Nat) (year : Int) : holds (mask ||| other) year = (holds mask year || holds other year) := by
  by_cases judged : year ∈ judgedYears
  · rw [holds_iff judged, holds_iff judged, holds_iff judged, Nat.testBit_or]
  · rw [holds_unjudged judged, holds_unjudged judged, holds_unjudged judged]
    rfl

theorem holds_without (mask other : Nat) (year : Int) : holds (without mask other) year = (holds mask year && !holds other year) := by
  by_cases judged : year ∈ judgedYears
  · rw [holds_iff judged, holds_iff judged, holds_iff judged, without, Nat.testBit_xor, Nat.testBit_and]
    cases mask.testBit (year - 1996).toNat <;> cases other.testBit (year - 1996).toNat <;> rfl
  · rw [holds_unjudged judged, holds_unjudged judged]
    rfl

theorem holds_bitOf {year : Int} (judged : year ∈ judgedYears) (other : Int) : holds (bitOf year) other = decide (year = other) := by
  by_cases known : other ∈ judgedYears
  · have all : ∀ a ∈ judgedYears, ∀ b ∈ judgedYears, holds (bitOf a) b = decide (a = b) := by decide +kernel
    exact all year judged other known
  · rw [holds_unjudged known, eq_comm, decide_eq_false_iff_not]
    rintro rfl
    exact known judged

theorem holds_all {year : Int} (judged : year ∈ judgedYears) : holds allYearMask year = true := by
  have all : ∀ a ∈ judgedYears, holds allYearMask a = true := by decide +kernel
  exact all year judged

/-! ## Plans -/

/-- A `HostObservation` of a lease: its extractor has normalized the hostname. -/
structure HostObservation where
  hostname : String
  sourceId : String
  locator : String
  scope : CandidateSourceScope
  sourceYear : Option Int
  sourceTime : Option String
  recordType : String
  artifactRef : String
  directYearMask : Nat
  yearHintMask : Nat
  originalUrl : String
  evidenceType : String
  temporalSemantics : String
  evidenceContractId : String
  evidenceContractVersion : String
  official : officialHost hostname = true

/-- What a lease plans with: its provider and policy, whether its reservoir is of direct years, the annual masks of the
    baseline, and the SHA-256 of the parts of an identity. -/
structure Lease where
  provider : String
  policyVersion : String
  allowDirect : Bool
  annualMask : String → Nat
  digest : List String → String
  provided : blank provider = false
  policed : blank policyVersion = false
  digested : ∀ parts, blank (digest parts) = false

structure EvidencePlan where
  directCapsules : List EvidenceCapsule
  externalKeys : List EvidenceQueryKey

section
variable (lease : Lease)

/-- `_direct_capsule`. -/
def directCapsule (o : HostObservation) (year : Int) : Except PyError EvidenceCapsule :=
  let method := orElse o.recordType "source_record"
  EvidenceCapsule.make {
    hostname := o.hostname
    year := year
    provider := "direct:" ++ o.sourceId
    temporalSemantics := orElse o.temporalSemantics "source_direct_year"
    evidenceTimestamp := orElse (o.sourceTime.getD "") (toString year ++ "0101000000")
    sourceLocator := o.locator
    payloadHash := lease.digest [o.hostname, toString year, o.sourceId, o.locator, o.artifactRef, o.recordType]
    policyVersion := lease.policyVersion
    evidenceType := orElse o.evidenceType "dated_archive_index"
    sourceId := o.sourceId
    originalUrl := orElse o.originalUrl o.locator
    recordLocator := o.locator
    extractionMethod :=
      if o.evidenceContractId = "" then method
      else method ++ ";contract=" ++ o.evidenceContractId ++ "@" ++ orElse o.evidenceContractVersion "unknown" }

/-- The reservoir may prove the direct years of an observation. -/
def authorized (o : HostObservation) : Bool := lease.allowDirect && o.scope ≠ .commonCrawlCorpusExcluded

/-- `direct_mask`. -/
def directMask (o : HostObservation) (officialMask localMask : Nat) : Nat :=
  if authorized lease o then without o.directYearMask (officialMask ||| localMask) else 0

/-- `hint_mask`, as the observation gives it. -/
def ownHint (o : HostObservation) : Nat := o.yearHintMask ||| (o.sourceYear.map bitOf).getD 0

/-- `hint_mask`, of the years to ask for. -/
def hintMask (o : HostObservation) (officialMask localMask coveredMask : Nat) : Nat :=
  let hint :=
    if !authorized lease o then allYearMask
    else if ownHint o = 0 ∧ directMask lease o officialMask localMask = 0 then allYearMask
    else ownHint o
  without (without (without hint (officialMask ||| localMask)) (directMask lease o officialMask localMask)) coveredMask

/-- The runs of consecutive years. -/
def ranges (years : List Int) : List (Int × Int) := years.foldl (fun ranges year =>
  match ranges.getLast? with
  | some last => if year = last.2 + 1 then ranges.dropLast ++ [(last.1, year)] else ranges ++ [(year, year)]
  | none => [(year, year)]) []

/-- The key of a run of years. -/
def externalKey (o : HostObservation) (range : Int × Int) : Except PyError EvidenceQueryKey :=
  match EvidenceBridge.makeKey o.hostname range.1 range.2 lease.provider lease.policyVersion with
  | some key => .ok key
  | none => .error (.valueError "invalid evidence query key")

/-- `EvidencePlanner.plan`. -/
def plan (o : HostObservation) (officialMask localMask coveredMask : Nat) : Except PyError EvidencePlan := do
  let directCapsules ← (judgedYears.filter (holds (directMask lease o officialMask localMask))).mapM (directCapsule lease o)
  let externalKeys ← (ranges (judgedYears.filter (holds (hintMask lease o officialMask localMask coveredMask)))).mapM (externalKey lease o)
  return ⟨directCapsules, externalKeys⟩

end

/-! ## What a plan gives -/

/-- When each item can be read, all of them can. -/
theorem mapM_made {α β ε : Type} {f : α → Except ε β} {relates : α → β → Prop} (items : List α)
    (each : ∀ a ∈ items, ∃ b, f a = .ok b ∧ relates a b) : ∃ results, items.mapM f = .ok results ∧ List.Forall₂ relates items results := by
  induction items with
  | nil => exact ⟨[], rfl, .nil⟩
  | cons a rest ih =>
    obtain ⟨b, made, related⟩ := each a List.mem_cons_self
    obtain ⟨results, all, later⟩ := ih fun a member => each a (List.mem_cons_of_mem _ member)
    refine ⟨b :: results, ?_, .cons related later⟩
    rw [List.mapM_cons, made, all]
    rfl

theorem related_exists {α β : Type} {relates : α → β → Prop} {items : List α} {results : List β} (all : List.Forall₂ relates items results)
    {first : α → Prop} {second : β → Prop} (same : ∀ a b, relates a b → (first a ↔ second b)) :
    (∃ b ∈ results, second b) ↔ ∃ a ∈ items, first a := by
  induction all with
  | nil => simp
  | cons related _ ih => rw [List.exists_mem_cons_iff, List.exists_mem_cons_iff, same _ _ related, ih]

theorem judged_bounds {year : Int} (judged : year ∈ judgedYears) : 1996 ≤ year ∧ year ≤ 2001 := by
  have all : ∀ a ∈ judgedYears, 1996 ≤ a ∧ a ≤ 2001 := by decide
  exact all year judged

/-- The runs have the years that they are made of, and no others. -/
theorem ranges_spec (years : List Int) :
    (∀ r ∈ ranges years, r.1 ≤ r.2 ∧ ∀ year, r.1 ≤ year → year ≤ r.2 → year ∈ years) ∧
      ∀ year ∈ years, ∃ r ∈ ranges years, r.1 ≤ year ∧ year ≤ r.2 := by
  induction years using List.reverseRecOn with
  | nil => exact ⟨nofun, nofun⟩
  | append_singleton years year ih =>
    obtain ⟨inside, covered⟩ := ih
    have snoc : ranges (years ++ [year]) =
        match (ranges years).getLast? with
        | some last => if year = last.2 + 1 then (ranges years).dropLast ++ [(last.1, year)] else ranges years ++ [(year, year)]
        | none => [(year, year)] := by
      unfold ranges
      rw [List.foldl_append, List.foldl_cons, List.foldl_nil]
    have fresh : ∀ y, year ≤ y → y ≤ year → y ∈ years ++ [year] := fun y low high => by
      rw [le_antisymm high low]
      exact List.mem_append_right _ List.mem_cons_self
    have old (r : Int × Int) (member : r ∈ ranges years) : r.1 ≤ r.2 ∧ ∀ y, r.1 ≤ y → y ≤ r.2 → y ∈ years ++ [year] :=
      ⟨(inside r member).1, fun y low high => List.mem_append_left _ ((inside r member).2 y low high)⟩
    cases isLast : (ranges years).getLast? with
    | none =>
      rw [isLast] at snoc
      have nothing := List.getLast?_eq_none_iff.mp isLast
      rw [snoc]
      refine ⟨fun r member => ?_, fun y member => ?_⟩
      · rw [List.mem_singleton.mp member]
        exact ⟨le_rfl, fresh⟩
      · rcases List.mem_append.mp member with before | last
        · obtain ⟨r, listed, -⟩ := covered y before
          rw [nothing] at listed
          cases listed
        · rw [List.mem_singleton.mp last]
          exact ⟨(year, year), List.mem_cons_self, le_rfl, le_rfl⟩
    | some last =>
      rw [isLast] at snoc
      have isLastOf := List.getLast?_eq_some_iff.mp isLast
      obtain ⟨front, split⟩ := isLastOf
      have listed : last ∈ ranges years := by
        rw [split]
        exact List.mem_append_right _ List.mem_cons_self
      dsimp only at snoc
      by_cases follows : year = last.2 + 1
      · rw [if_pos follows, split, List.dropLast_concat] at snoc
        rw [snoc]
        refine ⟨fun r member => ?_, fun y member => ?_⟩
        · rcases List.mem_append.mp member with before | new
          · exact old r (split ▸ List.mem_append_left _ before)
          · rw [List.mem_singleton.mp new]
            have grown := inside last listed
            refine ⟨by dsimp only; omega, fun y low high => ?_⟩
            by_cases isNew : y = year
            · exact fresh y isNew.ge isNew.le
            · exact (old last listed).2 y low (by dsimp only at high; omega)
        · rcases List.mem_append.mp member with before | new
          · obtain ⟨r, known, low, high⟩ := covered y before
            rw [split] at known
            rcases List.mem_append.mp known with front_ | isLast'
            · exact ⟨r, List.mem_append_left _ front_, low, high⟩
            · rw [List.mem_singleton.mp isLast'] at low high
              exact ⟨(last.1, year), List.mem_append_right _ List.mem_cons_self, low, by dsimp only; omega⟩
          · rw [List.mem_singleton.mp new]
            have grown := (inside last listed).1
            exact ⟨(last.1, year), List.mem_append_right _ List.mem_cons_self, by dsimp only; omega, le_rfl⟩
      · rw [if_neg follows] at snoc
        rw [snoc]
        refine ⟨fun r member => ?_, fun y member => ?_⟩
        · rcases List.mem_append.mp member with before | new
          · exact old r before
          · rw [List.mem_singleton.mp new]
            exact ⟨le_rfl, fresh⟩
        · rcases List.mem_append.mp member with before | new
          · obtain ⟨r, known, low, high⟩ := covered y before
            exact ⟨r, List.mem_append_left _ known, low, high⟩
          · rw [List.mem_singleton.mp new]
            exact ⟨(year, year), List.mem_append_right _ List.mem_cons_self, le_rfl, le_rfl⟩

def Asks (key : EvidenceQueryKey) (hostname : String) (year : Int) : Prop :=
  key.hostname = hostname ∧ key.yearFrom ≤ year ∧ year ≤ key.yearTo

section
variable (lease : Lease)

theorem directCapsule_made (o : HostObservation) {year : Int} (judged : year ∈ judgedYears) :
    ∃ c, directCapsule lease o year = .ok c ∧ c.pair = toLex (o.hostname, year) := by
  have bounds := judged_bounds judged
  unfold directCapsule
  dsimp only
  generalize isFields : CapsuleFields.mk o.hostname year _ _ _ _ _ _ _ _ _ _ _ = fields
  have checked : fields.postInit = none := by
    have named : blank ("direct:" ++ o.sourceId) = false := by
      have letter : PyText.isSpace 'd' = false := by decide
      simp [blank, String.toList_append, letter]
    rw [← isFields]
    simp [CapsuleFields.postInit, o.official, bounds.1, bounds.2, named, lease.policed, lease.digested]
  have same : fields.pair = toLex (o.hostname, year) := by
    rw [← isFields]
    rfl
  have built : EvidenceCapsule.make fields = .ok ⟨fields.filled, by rw [← checked]; rfl, fields.filled_filled⟩ := by
    unfold EvidenceCapsule.make
    split
    · rename_i message found
      rw [checked] at found
      cases found
    · rfl
  exact ⟨_, built, same⟩

/-- The plan of an observation: capsules of its direct years, and keys of the years to ask for. -/
structure Planned (o : HostObservation) (direct hinted : List Int) (plan : EvidencePlan) : Prop where
  capsules : plan.directCapsules.map (·.pair) = direct.map fun year => toLex (o.hostname, year)
  keys : ∀ hostname year, (∃ key ∈ plan.externalKeys, Asks key hostname year) ↔ hostname = o.hostname ∧ year ∈ hinted

theorem externalKey_made (o : HostObservation) {range : Int × Int} (rises : range.1 ≤ range.2) (low : 1996 ≤ range.1) (high : range.2 ≤ 2001) :
    ∃ key, externalKey lease o range = .ok key ∧ key.hostname = o.hostname ∧ key.yearFrom = range.1 ∧ key.yearTo = range.2 := by
  have valid : (officialHost o.hostname && (1996 ≤ range.1 && range.1 ≤ range.2 && range.2 ≤ 2001) && !blank lease.provider &&
      !blank lease.policyVersion) = true := by
    simp [o.official, rises, low, high, lease.provided, lease.policed]
  exact ⟨⟨o.hostname, range.1, range.2, lease.provider, lease.policyVersion, valid⟩, by rw [externalKey, EvidenceBridge.makeKey, dif_pos valid],
    rfl, rfl, rfl⟩

theorem plan_made (o : HostObservation) (officialMask localMask coveredMask : Nat) :
    ∃ made, plan lease o officialMask localMask coveredMask = .ok made ∧
      Planned o (judgedYears.filter (holds (directMask lease o officialMask localMask)))
        (judgedYears.filter (holds (hintMask lease o officialMask localMask coveredMask))) made := by
  unfold plan
  generalize isDirect : judgedYears.filter (holds (directMask lease o officialMask localMask)) = direct
  generalize isHinted : judgedYears.filter (holds (hintMask lease o officialMask localMask coveredMask)) = hinted
  have judgedDirect : ∀ year ∈ direct, year ∈ judgedYears := by
    rw [← isDirect]
    exact fun year member => (List.mem_filter.mp member).1
  have judgedHinted : ∀ year ∈ hinted, year ∈ judgedYears := by
    rw [← isHinted]
    exact fun year member => (List.mem_filter.mp member).1
  obtain ⟨capsules, made, paired⟩ := mapM_made direct fun year member => directCapsule_made lease o (judgedDirect year member)
  obtain ⟨inside, covered⟩ := ranges_spec hinted
  have keyed : ∀ range ∈ ranges hinted, ∃ key, externalKey lease o range = .ok key ∧
      key.hostname = o.hostname ∧ key.yearFrom = range.1 ∧ key.yearTo = range.2 := by
    intro range member
    obtain ⟨rises, all⟩ := inside range member
    exact externalKey_made lease o rises (judged_bounds (judgedHinted _ (all range.1 le_rfl rises))).1
      (judged_bounds (judgedHinted _ (all range.2 rises le_rfl))).2
  obtain ⟨keys, asked, kept⟩ := mapM_made (ranges hinted) keyed
  refine ⟨⟨capsules, keys⟩, by rw [made, asked]; rfl, ?_, fun hostname year => ?_⟩
  · refine List.forall₂_eq_eq_eq ▸ ?_
    rw [List.forall₂_map_left_iff, List.forall₂_map_right_iff]
    exact paired.flip
  · have within (range : Int × Int) (key : EvidenceQueryKey)
        (same : key.hostname = o.hostname ∧ key.yearFrom = range.1 ∧ key.yearTo = range.2) :
        (o.hostname = hostname ∧ range.1 ≤ year ∧ year ≤ range.2) ↔ Asks key hostname year := by
      rw [Asks, same.1, same.2.1, same.2.2]
    rw [related_exists kept within]
    constructor
    · rintro ⟨range, member, rfl, low, high⟩
      exact ⟨rfl, (inside range member).2 year low high⟩
    · rintro ⟨rfl, member⟩
      obtain ⟨range, listed, low, high⟩ := covered year member
      exact ⟨range, listed, rfl, low, high⟩

/-- Runs of rising years rise, with a year missing between two of them. -/
theorem ranges_apart {years : List Int} (rising : years.Pairwise (· < ·)) : (ranges years).Pairwise fun a b => a.2 + 1 < b.1 := by
  induction years using List.reverseRecOn with
  | nil => exact .nil
  | append_singleton years year ih =>
    obtain ⟨before, -, below⟩ := List.pairwise_append.mp rising
    obtain ⟨inside, -⟩ := ranges_spec years
    have earlier (r : Int × Int) (member : r ∈ ranges years) : r.1 ≤ r.2 ∧ r.2 < year :=
      ⟨(inside r member).1, below _ ((inside r member).2 r.2 (inside r member).1 le_rfl) year List.mem_cons_self⟩
    rw [ranges, List.foldl_append, List.foldl_cons, List.foldl_nil, ← ranges]
    rcases List.eq_nil_or_concat (ranges years) with none_ | ⟨front, last, split⟩
    · simp [none_]
    · obtain ⟨apart, -, gap⟩ := List.pairwise_append.mp (List.concat_eq_append ▸ split ▸ ih before)
      have isLast := earlier last (by simp [split])
      simp only [split, List.concat_eq_append, List.getLast?_append_cons, List.getLast?_singleton, List.dropLast_concat] at gap ⊢
      by_cases follows : year = last.2 + 1
      · simp only [follows, if_true]
        exact List.pairwise_append.mpr ⟨apart, List.pairwise_singleton _ _, by simpa using gap⟩
      · simp only [follows, if_false]
        refine List.pairwise_append.mpr ⟨by simpa [split] using ih before, List.pairwise_singleton _ _, fun r member next isNext => ?_⟩
        rw [List.mem_singleton.mp isNext]
        rcases List.mem_append.mp member with isFront | isEnd
        · have := gap r isFront last List.mem_cons_self
          dsimp only
          omega
        · rw [List.mem_singleton.mp isEnd]
          dsimp only
          omega

/-- `MAX_EXTERNAL_TASKS_PER_OBSERVATION`. -/
def maxExternalTasksPerObservation : Nat := 3

/-- Keys of the six years with a year missing between any two are at most three. -/
theorem few_keys {keys : List EvidenceQueryKey} (apart : keys.Pairwise fun a b => a.yearTo + 1 < b.yearFrom) :
    keys.length ≤ maxExternalTasksPerObservation := by
  have bounds (key : EvidenceQueryKey) : 1996 ≤ key.yearFrom ∧ key.yearFrom ≤ key.yearTo ∧ key.yearTo ≤ 2001 := by
    have valid := key.valid
    simp only [Bool.and_eq_true, decide_eq_true_eq] at valid
    omega
  rcases keys with - | ⟨a, - | ⟨b, - | ⟨d, - | ⟨e, rest⟩⟩⟩⟩
  case cons.cons.cons.cons =>
    simp only [List.pairwise_cons, List.mem_cons, forall_eq_or_imp] at apart
    have := bounds a
    have := bounds b
    have := bounds d
    have := bounds e
    omega
  all_goals simp [maxExternalTasksPerObservation]

end

/-! ## Batches -/

/-- The fields of an observation that planning reads. -/
def planningKey (o : HostObservation) : String × String × CandidateSourceScope × Option Int × Nat × Nat :=
  (o.hostname, o.sourceId, o.scope, o.sourceYear, o.directYearMask, o.yearHintMask)

/-- `_coalesce_planning_observations`. -/
def coalescePlanningObservations (observations : List HostObservation) : List HostObservation :=
  observations.foldl (fun selected o => if selected.any fun s => planningKey s = planningKey o then selected else selected ++ [o]) []

/-- What a lease works on: the evidence, the capsules that it committed, and the keys that it scheduled. -/
structure Planning where
  store : Store
  committed : List EvidenceCapsule
  scheduled : List EvidenceQueryKey

/-- The years that the provider covers, by the keys that the lease scheduled: at least those of the beginning, and otherwise
    only years of the keys. -/
structure Coverage (initial : String → Nat) where
  covered : List EvidenceQueryKey → String → Nat
  kept : ∀ keys hostname year, holds (initial hostname) year = true → holds (covered keys hostname) year = true
  own : ∀ keys hostname year, holds (covered keys hostname) year = true →
    holds (initial hostname) year = true ∨ ∃ key ∈ keys, Asks key hostname year

structure Masks where
  local_ : String → Nat
  covered : String → Nat

def scheduleMask (mask : Nat) (key : EvidenceQueryKey) : Nat :=
  ((List.range (key.yearTo - key.yearFrom + 1).toNat).map fun i : Nat => key.yearFrom + i).foldl (fun mask year => mask ||| bitOf year) mask

/-- The capsules of the years that are not yet proved. -/
def takeCapsules (mask : Nat) : List EvidenceCapsule → Nat × List EvidenceCapsule
  | [] => (mask, [])
  | c :: rest =>
    if holds mask c.year then takeCapsules mask rest
    else ((takeCapsules (mask ||| bitOf c.year) rest).1, c :: (takeCapsules (mask ||| bitOf c.year) rest).2)

/-- `scheduled_keys[key] = None`. -/
def schedule (keys : List EvidenceQueryKey) (key : EvidenceQueryKey) : List EvidenceQueryKey := if key ∈ keys then keys else keys ++ [key]

section
variable (lease : Lease) {initial : String → Nat} (coverage : Coverage initial) (burns : Bool)

def planItem (m : Masks) (o : HostObservation) : Except PyError (Masks × List EvidenceCapsule × List EvidenceQueryKey) := do
  let plan ← plan lease o (lease.annualMask o.hostname) (m.local_ o.hostname) (m.covered o.hostname)
  let taken := takeCapsules (m.local_ o.hostname) plan.directCapsules
  let covered := plan.externalKeys.foldl scheduleMask (m.covered o.hostname)
  return (⟨Function.update m.local_ o.hostname taken.1, Function.update m.covered o.hostname covered⟩, taken.2, plan.externalKeys)

/-- The observations of a batch: the capsules to commit and the keys to schedule. -/
def planItems (m : Masks) : List HostObservation → Except PyError (List EvidenceCapsule × List EvidenceQueryKey)
  | [] => .ok ([], [])
  | o :: rest => do
    let (m, capsules, keys) ← planItem lease m o
    let (moreCapsules, moreKeys) ← planItems m rest
    return (capsules ++ moreCapsules, keys ++ moreKeys)

/-- `put_many`, of a batch that has direct capsules. -/
def commitDirect (store : Store) (capsules : List EvidenceCapsule) : Except PyError Store :=
  if capsules.isEmpty then .ok store
  else
    match putMany burns store capsules none with
    | (.ok _, store) => .ok store
    | (.error err, _) => .error err

/-- `resolve_pending`. -/
def resolvePending (s : Planning) (pending : List HostObservation) : Except PyError Planning :=
  if pending.isEmpty then .ok s
  else do
    let (capsules, keys) ← planItems lease ⟨resolveYearMask s.store, coverage.covered s.scheduled⟩ (coalescePlanningObservations pending)
    let store ← commitDirect burns s.store capsules
    return ⟨store, s.committed ++ capsules, keys.foldl schedule s.scheduled⟩

/-- The batches of a lease, one after the other. -/
def resolveAll : Planning → List (List HostObservation) → Except PyError Planning
  | s, [] => .ok s
  | s, pending :: rest => do resolveAll (← resolvePending lease coverage burns s pending) rest

end

/-- The batches of the pipeline: the observations of whole records, resolved when they are enough, and those that are left. -/
def batches (pipelineBatchSize : Nat) (pending : List HostObservation) : List (List HostObservation) → List (List HostObservation)
  | [] => [pending]
  | extracted :: rest =>
    if pipelineBatchSize ≤ (pending ++ extracted).length then (pending ++ extracted) :: batches pipelineBatchSize [] rest
    else batches pipelineBatchSize (pending ++ extracted) rest

theorem batches_flatten (pipelineBatchSize : Nat) (pending : List HostObservation) (records : List (List HostObservation)) :
    (batches pipelineBatchSize pending records).flatten = pending ++ records.flatten := by
  induction records generalizing pending with
  | nil => simp [batches]
  | cons extracted rest ih =>
    unfold batches
    split
    · rw [List.flatten_cons, ih, List.nil_append, List.flatten_cons, List.append_assoc]
    · rw [ih, List.flatten_cons, List.append_assoc]

/-! ## What is proved and asked -/

def maskOf (pairs : List HostYear) (hostname : String) : Nat :=
  ((pairs.filter fun pair => (ofLex pair).1 = hostname).map fun pair => bitOf (ofLex pair).2).foldl (· ||| ·) 0

theorem foldl_or (masks : List Nat) (start : Nat) : masks.foldl (· ||| ·) start = start ||| masks.foldl (· ||| ·) 0 := by
  induction masks generalizing start with
  | nil => simp
  | cons mask rest ih => rw [List.foldl_cons, List.foldl_cons, ih, ih (0 ||| mask), Nat.zero_or, Nat.or_assoc]

theorem maskOf_append (pairs more : List HostYear) (hostname : String) :
    maskOf (pairs ++ more) hostname = maskOf pairs hostname ||| maskOf more hostname := by
  unfold maskOf
  rw [List.filter_append, List.map_append, List.foldl_append]
  exact foldl_or _ _

theorem testBit_foldl_or (masks : List Nat) (i : Nat) : (masks.foldl (· ||| ·) 0).testBit i = true ↔ ∃ mask ∈ masks, mask.testBit i = true := by
  induction masks with
  | nil => simp
  | cons mask rest ih => rw [List.foldl_cons, Nat.zero_or, foldl_or, Nat.testBit_or, Bool.or_eq_true, ih, List.exists_mem_cons_iff]

theorem maskOf_congr {pairs pairs' : List HostYear} (same : ∀ pair, pair ∈ pairs ↔ pair ∈ pairs') : maskOf pairs = maskOf pairs' := by
  funext hostname
  refine Nat.eq_of_testBit_eq fun i => Bool.eq_iff_iff.mpr ?_
  unfold maskOf
  rw [testBit_foldl_or, testBit_foldl_or]
  simp only [List.mem_map, List.mem_filter, same]

theorem resolveYearMask_eq (store : Store) : resolveYearMask store = maskOf store.hostYears.pairs := by
  funext hostname
  have pairs : store.hostYears.pairs = store.hostYears.table.rows.map (·.pair) := rfl
  rw [resolveYearMask, maskOf, pairs, List.filter_map, List.map_map]
  rfl

theorem holds_maskOf (pairs : List HostYear) (hostname : String) {year : Int} (judged : year ∈ judgedYears) :
    holds (maskOf pairs hostname) year = true ↔ toLex (hostname, year) ∈ pairs := by
  induction pairs with
  | nil => simp [maskOf, holds]
  | cons pair rest ih =>
    have split : maskOf (pair :: rest) hostname = maskOf [pair] hostname ||| maskOf rest hostname := maskOf_append [pair] rest hostname
    have first : holds (maskOf [pair] hostname) year = true ↔ toLex (hostname, year) = pair := by
      by_cases host : (ofLex pair).1 = hostname
      · have single : maskOf [pair] hostname = bitOf (ofLex pair).2 := by simp [maskOf, host]
        rw [single]
        by_cases known : (ofLex pair).2 ∈ judgedYears
        · rw [holds_bitOf known, decide_eq_true_eq]
          constructor
          · rintro rfl
            rw [← host]
            rfl
          · rintro rfl
            rfl
        · rw [holds, bitOf, yearBit, if_neg known]
          refine iff_of_false (by simp) ?_
          rintro rfl
          exact known judged
      · have none_ : maskOf [pair] hostname = 0 := by simp [maskOf, host]
        rw [none_]
        refine iff_of_false (by simp [holds]) ?_
        rintro rfl
        exact host rfl
    rw [split, holds_or, Bool.or_eq_true, first, ih, List.mem_cons]

section
variable (lease : Lease)

/-- The direct years of an observation, when some host-years are proved. -/
def claimed (pairs : List HostYear) (o : HostObservation) : List HostYear :=
  (judgedYears.filter (holds (directMask lease o (lease.annualMask o.hostname) (maskOf pairs o.hostname)))).map fun year => toLex (o.hostname, year)

/-- The years that an observation asks for, when some host-years are proved. -/
def asked (initial : String → Nat) (pairs : List HostYear) (o : HostObservation) : List Int :=
  judgedYears.filter (holds (hintMask lease o (lease.annualMask o.hostname) (maskOf pairs o.hostname) (initial o.hostname)))

/-- The host-years that observations prove, one after the other. -/
def newPairs (pairs : List HostYear) : List HostObservation → List HostYear
  | [] => []
  | o :: rest => claimed lease pairs o ++ newPairs (pairs ++ claimed lease pairs o) rest

/-- A host-year that observations ask for, one after the other. -/
def Asking (initial : String → Nat) (pairs : List HostYear) : List HostObservation → String → Int → Prop
  | [], _, _ => False
  | o :: rest, hostname, year =>
    (hostname = o.hostname ∧ year ∈ asked lease initial pairs o) ∨ Asking initial (pairs ++ claimed lease pairs o) rest hostname year

variable {lease} {pairs more : List HostYear} {o : HostObservation}

theorem mem_claimed {pair : HostYear} : pair ∈ claimed lease pairs o ↔
    (ofLex pair).1 = o.hostname ∧ (ofLex pair).2 ∈ judgedYears ∧ authorized lease o = true ∧ holds o.directYearMask (ofLex pair).2 = true ∧
      holds (lease.annualMask o.hostname) (ofLex pair).2 = false ∧ pair ∉ pairs := by
  have direct (year : Int) (judged : year ∈ judgedYears) :
      holds (directMask lease o (lease.annualMask o.hostname) (maskOf pairs o.hostname)) year = true ↔
        authorized lease o = true ∧ holds o.directYearMask year = true ∧ holds (lease.annualMask o.hostname) year = false ∧
          toLex (o.hostname, year) ∉ pairs := by
    rw [← holds_maskOf pairs o.hostname judged, directMask]
    by_cases may : authorized lease o = true
    · rw [if_pos may, holds_without, holds_or]
      simp [may]
    · rw [if_neg may]
      exact iff_of_false (by simp [holds]) fun all => may all.1
  rw [claimed, List.mem_map]
  constructor
  · rintro ⟨year, member, rfl⟩
    obtain ⟨judged, held⟩ := List.mem_filter.mp member
    exact ⟨rfl, judged, (direct year judged).mp held⟩
  · rintro ⟨host, judged, all⟩
    have same : toLex (o.hostname, (ofLex pair).2) = pair := by
      rw [← host]
      rfl
    refine ⟨(ofLex pair).2, List.mem_filter.mpr ⟨judged, (direct _ judged).mpr ?_⟩, same⟩
    rwa [same]

/-- `hint_mask`, in front of what is left out of it. -/
def openHint (lease : Lease) (pairs : List HostYear) (o : HostObservation) : Nat :=
  if !authorized lease o then allYearMask
  else if ownHint o = 0 ∧ directMask lease o (lease.annualMask o.hostname) (maskOf pairs o.hostname) = 0 then allYearMask
  else ownHint o

theorem mem_asked {initial : String → Nat} {year : Int} : year ∈ asked lease initial pairs o ↔
    year ∈ judgedYears ∧ holds (openHint lease pairs o) year = true ∧ holds (lease.annualMask o.hostname) year = false ∧
      toLex (o.hostname, year) ∉ pairs ∧ toLex (o.hostname, year) ∉ claimed lease pairs o ∧ holds (initial o.hostname) year = false := by
  rw [asked, List.mem_filter]
  refine and_congr_right fun judged => ?_
  have unclaimed : toLex (o.hostname, year) ∈ claimed lease pairs o ↔
      holds (directMask lease o (lease.annualMask o.hostname) (maskOf pairs o.hostname)) year = true := by
    rw [claimed, List.mem_map]
    constructor
    · rintro ⟨y, member, same⟩
      rw [← (Prod.mk.inj (toLex_inj.mp same)).2]
      exact (List.mem_filter.mp member).2
    · exact fun held => ⟨year, List.mem_filter.mpr ⟨judged, held⟩, rfl⟩
  rw [← holds_maskOf pairs o.hostname judged, unclaimed, hintMask]
  change holds (without (without (without (openHint lease pairs o) _) _) _) year = true ↔ _
  rw [holds_without, holds_without, holds_without, holds_or]
  simp [and_assoc]

/-! ## Repeats -/

theorem claimed_key {o' : HostObservation} (same : planningKey o = planningKey o') : claimed lease pairs o = claimed lease pairs o' := by
  simp only [planningKey, Prod.mk.injEq] at same
  obtain ⟨host, -, scope, -, direct, -⟩ := same
  rw [claimed, claimed, directMask, directMask, authorized, authorized, host, scope, direct]

theorem claimed_self : claimed lease (pairs ++ claimed lease pairs o) o = [] := by
  refine List.eq_nil_iff_forall_not_mem.mpr fun pair member => ?_
  obtain ⟨host, judged, may, held, open_, fresh⟩ := mem_claimed.mp member
  rw [List.mem_append, not_or] at fresh
  exact fresh.2 (mem_claimed.mpr ⟨host, judged, may, held, open_, fresh.1⟩)

theorem claimed_more (none_ : claimed lease pairs o = []) : claimed lease (pairs ++ more) o = [] := by
  refine List.eq_nil_iff_forall_not_mem.mpr fun pair member => ?_
  obtain ⟨host, judged, may, held, open_, fresh⟩ := mem_claimed.mp member
  rw [List.mem_append, not_or] at fresh
  have before := mem_claimed.mpr ⟨host, judged, may, held, open_, fresh.1⟩
  rw [none_] at before
  cases before

/-- The plan of an observation alone asks for every year that is left, when its reservoir may prove its direct years and nothing
    hints at others. -/
def Forced (lease : Lease) (o : HostObservation) : Prop := authorized lease o = true ∧ ownHint o = 0

theorem asked_repeat {initial : String → Nat} {o' : HostObservation} (same : planningKey o' = planningKey o)
    (free : Forced lease o → o.directYearMask = 0) {year : Int} (asks : year ∈ asked lease initial (pairs ++ claimed lease pairs o' ++ more) o) : year ∈ asked lease initial pairs o' := by
  obtain ⟨judged, hinted, open_, unproved, -, uncovered⟩ := mem_asked.mp asks
  have keys := same
  simp only [planningKey, Prod.mk.injEq] at keys
  obtain ⟨host, -, scope, source, direct, hint⟩ := keys
  rw [List.mem_append, List.mem_append, not_or, not_or, ← host] at unproved
  refine mem_asked.mpr ⟨judged, ?_, host ▸ open_, unproved.1.1, unproved.1.2, host ▸ uncovered⟩
  have mays : authorized lease o' = authorized lease o := by rw [authorized, authorized, scope]
  have hints : ownHint o' = ownHint o := by rw [ownHint, ownHint, source, hint]
  unfold openHint at hinted ⊢
  rw [mays, hints]
  by_cases may : authorized lease o = true
  · by_cases none_ : ownHint o = 0
    · have nothing : directMask lease o' (lease.annualMask o'.hostname) (maskOf pairs o'.hostname) = 0 := by
        rw [directMask, direct, free ⟨may, none_⟩, without, Nat.zero_and, Nat.xor_self, ite_self]
      simpa [may, none_, nothing] using holds_all judged
    · simpa [may, none_] using hinted
  · simpa [may] using holds_all judged

end

/-! ## What a batch does -/

theorem holds_foldl_bits {years : List Int} (judged : ∀ year ∈ years, year ∈ judgedYears) (mask : Nat) (year : Int) :
    holds (years.foldl (fun mask year => mask ||| bitOf year) mask) year = true ↔ holds mask year = true ∨ year ∈ years := by
  induction years generalizing mask with
  | nil => simp
  | cons first rest ih =>
    rw [List.foldl_cons, ih (fun y member => judged y (List.mem_cons_of_mem _ member)), holds_or, holds_bitOf (judged first List.mem_cons_self),
      Bool.or_eq_true, decide_eq_true_eq, List.mem_cons, or_assoc, eq_comm (a := first)]

theorem key_judged (key : EvidenceQueryKey) {year : Int} (low : key.yearFrom ≤ year) (high : year ≤ key.yearTo) : year ∈ judgedYears := by
  have valid := key.valid
  simp only [Bool.and_eq_true, decide_eq_true_eq] at valid
  obtain ⟨⟨⟨-, ⟨from_, -⟩, to_⟩, -⟩, -⟩ := valid
  simp only [judgedYears, List.mem_cons, List.not_mem_nil, or_false]
  omega

theorem holds_scheduleMask (key : EvidenceQueryKey) (mask : Nat) (year : Int) :
    holds (scheduleMask mask key) year = true ↔ holds mask year = true ∨ key.yearFrom ≤ year ∧ year ≤ key.yearTo := by
  have years (y : Int) : y ∈ (List.range (key.yearTo - key.yearFrom + 1).toNat).map (fun i : Nat => key.yearFrom + i) ↔
      key.yearFrom ≤ y ∧ y ≤ key.yearTo := by
    simp only [List.mem_map, List.mem_range]
    constructor
    · rintro ⟨i, small, rfl⟩
      omega
    · rintro ⟨low, high⟩
      exact ⟨(y - key.yearFrom).toNat, by omega, by omega⟩
  rw [scheduleMask, holds_foldl_bits (fun y member => key_judged key ((years y).mp member).1 ((years y).mp member).2), years]

theorem holds_scheduleMasks (keys : List EvidenceQueryKey) (mask : Nat) (year : Int) :
    holds (keys.foldl scheduleMask mask) year = true ↔ holds mask year = true ∨ ∃ key ∈ keys, key.yearFrom ≤ year ∧ year ≤ key.yearTo := by
  induction keys generalizing mask with
  | nil => simp
  | cons key rest ih => rw [List.foldl_cons, ih, holds_scheduleMask, List.exists_mem_cons_iff, or_assoc]

theorem takeCapsules_all (mask : Nat) (capsules : List EvidenceCapsule) (judged : ∀ c ∈ capsules, c.year ∈ judgedYears)
    (apart : (capsules.map (·.year)).Nodup) (fresh : ∀ c ∈ capsules, holds mask c.year = false) :
    takeCapsules mask capsules = ((capsules.map (·.year)).foldl (fun mask year => mask ||| bitOf year) mask, capsules) := by
  induction capsules generalizing mask with
  | nil => rfl
  | cons c rest ih =>
    obtain ⟨new, later⟩ := List.nodup_cons.mp apart
    have next := ih (mask ||| bitOf c.year) (fun d member => judged d (List.mem_cons_of_mem _ member)) later fun d member => by
      rw [holds_or, fresh d (List.mem_cons_of_mem _ member), holds_bitOf (judged c List.mem_cons_self), Bool.false_or, decide_eq_false_iff_not]
      exact fun same => new (List.mem_map.mpr ⟨d, member, same.symm⟩)
    rw [takeCapsules, fresh c List.mem_cons_self, if_neg Bool.false_ne_true, next]
    rfl

/-- A mask has the years of the beginning, and otherwise only years that were asked for. -/
structure Bounded (initial : String → Nat) (asks : String → Int → Prop) (covered : String → Nat) : Prop where
  kept : ∀ hostname year, holds (initial hostname) year = true → holds (covered hostname) year = true
  own : ∀ hostname year, holds (covered hostname) year = true → holds (initial hostname) year = true ∨ asks hostname year

section
variable {lease : Lease} {initial : String → Nat} {pairs : List HostYear} {o : HostObservation}

theorem maskOf_years (hostname : String) (years : List Int) (mask : Nat) :
    years.foldl (fun mask year => mask ||| bitOf year) mask = mask ||| maskOf (years.map fun year => toLex (hostname, year)) hostname := by
  have all : ((years.map fun year => toLex (hostname, year)).filter fun pair : HostYear => (ofLex pair).1 = hostname) =
      years.map fun year => toLex (hostname, year) := by
    refine List.filter_eq_self.mpr fun pair member => ?_
    obtain ⟨year, -, rfl⟩ := List.mem_map.mp member
    exact decide_eq_true rfl
  rw [maskOf, all, List.map_map, ← foldl_or, List.foldl_map]
  rfl

theorem maskOf_other {hostname other : String} (apart : other ≠ hostname) (years : List Int) :
    maskOf (years.map fun year => toLex (hostname, year)) other = 0 := by
  have none_ : ((years.map fun year => toLex (hostname, year)).filter fun pair : HostYear => (ofLex pair).1 = other) = [] := by
    refine List.filter_eq_nil_iff.mpr fun pair member => ?_
    obtain ⟨year, -, rfl⟩ := List.mem_map.mp member
    exact fun same => apart (of_decide_eq_true same).symm
  rw [maskOf, none_]
  rfl

theorem holds_hintMask (o : HostObservation) (officialMask localMask coveredMask : Nat) (year : Int) :
    holds (hintMask lease o officialMask localMask coveredMask) year =
      (holds (hintMask lease o officialMask localMask 0) year && !holds coveredMask year) := by
  have nothing : holds 0 year = false := by simp [holds]
  unfold hintMask
  dsimp only
  rw [holds_without, holds_without _ 0, nothing, Bool.not_false, Bool.and_true]

/-- One observation commits what it claims, and what is asked for grows by what it asks. -/
theorem planItem_spec {m : Masks} {asks : String → Int → Prop} (isLocal : m.local_ = maskOf pairs) (bounded : Bounded initial asks m.covered)
    (o : HostObservation) : ∃ m' capsules keys, planItem lease m o = .ok (m', capsules, keys) ∧
      m'.local_ = maskOf (pairs ++ claimed lease pairs o) ∧ capsules.map (·.pair) = claimed lease pairs o ∧
      Bounded initial (fun hostname year => asks hostname year ∨ ∃ key ∈ keys, Asks key hostname year) m'.covered ∧
      ∀ hostname year, (asks hostname year ∨ ∃ key ∈ keys, Asks key hostname year) ↔
        (asks hostname year ∨ hostname = o.hostname ∧ year ∈ asked lease initial pairs o) := by
  obtain ⟨made, isMade, planned⟩ := plan_made lease o (lease.annualMask o.hostname) (m.local_ o.hostname) (m.covered o.hostname)
  have capsules : made.directCapsules.map (·.pair) = claimed lease pairs o := by
    rw [planned.capsules, isLocal]
    rfl
  have years : made.directCapsules.map (·.year) =
      judgedYears.filter (holds (directMask lease o (lease.annualMask o.hostname) (maskOf pairs o.hostname))) := by
    have same := congrArg (List.map fun pair : HostYear => (ofLex pair).2) capsules
    rw [claimed, List.map_map, List.map_map] at same
    refine same.trans ((List.map_congr_left fun _ _ => rfl).trans (List.map_id _))
  have each (c : EvidenceCapsule) (member : c ∈ made.directCapsules) : c.pair ∈ claimed lease pairs o := by
    rw [← capsules]
    exact List.mem_map_of_mem member
  have taken := takeCapsules_all (m.local_ o.hostname) made.directCapsules
    (fun c member => (mem_claimed.mp (each c member)).2.1)
    (by rw [years]; exact (by decide : judgedYears.Nodup).filter _)
    (fun c member => by
      obtain ⟨host, judged, -, -, -, fresh⟩ := mem_claimed.mp (each c member)
      have isPair : toLex (o.hostname, c.year) = c.pair := by
        rw [← host]
        rfl
      have proved : holds (maskOf pairs o.hostname) c.year = true ↔ toLex (o.hostname, c.year) ∈ pairs := holds_maskOf pairs o.hostname judged
      rw [isLocal, Bool.eq_false_iff, ne_eq, proved, isPair]
      exact fresh)
  refine ⟨_, made.directCapsules, made.externalKeys, by rw [planItem, isMade]; exact congrArg Except.ok (Prod.ext rfl (by rw [taken])), ?_, capsules, ?_, ?_⟩
  · funext hostname
    dsimp only
    rw [maskOf_append]
    by_cases same : hostname = o.hostname
    · subst same
      rw [Function.update_self, taken, isLocal, years, claimed]
      exact maskOf_years _ _ _
    · rw [Function.update_of_ne same, isLocal, claimed, maskOf_other same, Nat.or_zero]
  · dsimp only
    constructor
    · intro hostname year held
      by_cases same : hostname = o.hostname
      · subst same
        rw [Function.update_self, holds_scheduleMasks]
        exact .inl (bounded.kept _ _ held)
      · rw [Function.update_of_ne same]
        exact bounded.kept _ _ held
    · intro hostname year held
      by_cases same : hostname = o.hostname
      · subst same
        rw [Function.update_self, holds_scheduleMasks] at held
        rcases held with before | ⟨key, listed, range⟩
        · exact (bounded.own _ _ before).imp_right .inl
        · have host := ((planned.keys key.hostname key.yearFrom).mp ⟨key, listed, rfl, le_rfl, range.1.trans range.2⟩).1
          exact .inr (.inr ⟨key, listed, host, range⟩)
      · rw [Function.update_of_ne same] at held
        exact (bounded.own _ _ held).imp_right .inl
  · intro hostname year
    rw [planned.keys hostname year, isLocal]
    constructor
    · rintro (before | ⟨rfl, member⟩)
      · exact .inl before
      · obtain ⟨judged, held⟩ := List.mem_filter.mp member
        rw [holds_hintMask, Bool.and_eq_true, Bool.not_eq_true'] at held
        refine .inr ⟨rfl, List.mem_filter.mpr ⟨judged, ?_⟩⟩
        rw [holds_hintMask, held.1, Bool.true_and, Bool.not_eq_true', Bool.eq_false_iff]
        intro covered
        rw [bounded.kept _ _ covered] at held
        exact absurd held.2 (by decide)
    · rintro (before | ⟨rfl, member⟩)
      · exact .inl before
      · obtain ⟨judged, held⟩ := List.mem_filter.mp member
        rw [holds_hintMask, Bool.and_eq_true, Bool.not_eq_true'] at held
        by_cases covered : holds (m.covered o.hostname) year = true
        · rcases bounded.own _ _ covered with before | already
          · rw [before] at held
            exact absurd held.2 (by decide)
          · exact .inl already
        · refine .inr ⟨rfl, List.mem_filter.mpr ⟨judged, ?_⟩⟩
          rw [holds_hintMask, held.1, Bool.true_and, Bool.not_eq_true', Bool.eq_false_iff]
          exact covered

/-- Items of a batch commit what they claim, and what is asked for grows by what they ask. -/
theorem planItems_spec {m : Masks} {asks : String → Int → Prop} (isLocal : m.local_ = maskOf pairs) (bounded : Bounded initial asks m.covered)
    (items : List HostObservation) : ∃ capsules keys, planItems lease m items = .ok (capsules, keys) ∧
      capsules.map (·.pair) = newPairs lease pairs items ∧
      ∀ hostname year, (asks hostname year ∨ ∃ key ∈ keys, Asks key hostname year) ↔
        (asks hostname year ∨ Asking lease initial pairs items hostname year) := by
  induction items generalizing pairs m asks with
  | nil => exact ⟨[], [], rfl, rfl, fun hostname year => by simp [Asking]⟩
  | cons o rest ih =>
    obtain ⟨m', capsules, keys, made, isLocal', pairs_, bounded', asked_⟩ := planItem_spec isLocal bounded o
    obtain ⟨moreCapsules, moreKeys, made', pairs', asked'⟩ := ih isLocal' bounded'
    refine ⟨capsules ++ moreCapsules, keys ++ moreKeys, ?_, ?_, fun hostname year => ?_⟩
    · rw [planItems, made]
      change (planItems lease m' rest >>= fun r => pure (capsules ++ r.1, keys ++ r.2)) = _
      rw [made']
      rfl
    · rw [List.map_append, pairs_, pairs', newPairs]
    · have here := asked_ hostname year
      have later := asked' hostname year
      rw [Asking]
      simp only [List.mem_append, or_and_right, exists_or]
      rw [← or_assoc, later, here, or_assoc]

end

/-! ## Places -/

/-- An observation where it stands: the host-years that are proved, and whether it repeats one of its batch. -/
structure Place where
  proved : List HostYear
  observation : HostObservation
  repeated : Bool

section
variable (lease : Lease)

def batchPlaces (pairs : List HostYear) (seen : List HostObservation) : List HostObservation → List Place
  | [] => []
  | o :: rest =>
    ⟨pairs, o, seen.any fun s => planningKey s = planningKey o⟩ :: batchPlaces (pairs ++ claimed lease pairs o) (seen ++ [o]) rest

def places (pairs : List HostYear) : List (List HostObservation) → List Place
  | [] => []
  | batch :: rest => batchPlaces lease pairs [] batch ++ places (pairs ++ newPairs lease pairs batch) rest

/-- What is left of a batch, of which some was seen. -/
def unseen (seen : List HostObservation) : List HostObservation → List HostObservation
  | [] => []
  | o :: rest =>
    if seen.any fun s => planningKey s = planningKey o then unseen (seen ++ [o]) rest else o :: unseen (seen ++ [o]) rest

def Place.Asking (initial : String → Nat) (place : Place) (hostname : String) (year : Int) : Prop :=
  hostname = place.observation.hostname ∧ year ∈ asked lease initial place.proved place.observation

end

/-- The first observations of their kind are those that nothing before them is like. -/
theorem coalesce_unseen (observations : List HostObservation) : coalescePlanningObservations observations = unseen [] observations := by
  have general (seen selected rest : List HostObservation)
      (same : ∀ key, (∃ s ∈ seen, planningKey s = key) ↔ ∃ s ∈ selected, planningKey s = key) :
      rest.foldl (fun selected o => if selected.any fun s => planningKey s = planningKey o then selected else selected ++ [o]) selected =
        selected ++ unseen seen rest := by
    induction rest generalizing seen selected with
    | nil => exact (List.append_nil _).symm
    | cons o rest ih =>
      have both : (seen.any fun s => planningKey s = planningKey o) = selected.any fun s => planningKey s = planningKey o := by
        rw [Bool.eq_iff_iff, List.any_eq_true, List.any_eq_true]
        simpa using same (planningKey o)
      rw [List.foldl_cons, unseen, both]
      by_cases known : (selected.any fun s => planningKey s = planningKey o) = true
      · rw [if_pos known, if_pos known]
        refine ih _ _ fun key => ?_
        simp only [List.mem_append, List.mem_singleton, or_and_right, exists_or, exists_eq_left, same key]
        refine or_iff_left_of_imp fun isKey => ?_
        obtain ⟨s, listed, like⟩ := List.any_eq_true.mp known
        exact ⟨s, listed, (of_decide_eq_true like).trans isKey⟩
      · rw [if_neg known, if_neg known, ih (seen ++ [o]) (selected ++ [o]) fun key => ?_, List.append_assoc]
        · rfl
        · simp only [List.mem_append, or_and_right, exists_or, same key]
  exact general [] [] observations fun key => by simp

section
variable {lease : Lease} {initial : String → Nat} {pairs : List HostYear}

/-- What is left of a batch proves what the batch does. -/
theorem newPairs_unseen (seen rest : List HostObservation) (spent : ∀ s ∈ seen, claimed lease pairs s = []) :
    newPairs lease pairs (unseen seen rest) = newPairs lease pairs rest := by
  induction rest generalizing pairs seen with
  | nil => rfl
  | cons o rest ih =>
    have next : ∀ s ∈ seen ++ [o], claimed lease (pairs ++ claimed lease pairs o) s = [] := by
      intro s member
      rcases List.mem_append.mp member with old | new
      · exact claimed_more (spent s old)
      · rw [List.mem_singleton.mp new]
        exact claimed_self
    rw [unseen]
    by_cases known : (seen.any fun s => planningKey s = planningKey o) = true
    · obtain ⟨s, listed, like⟩ := List.any_eq_true.mp known
      have nothing : claimed lease pairs o = [] := claimed_key (of_decide_eq_true like) ▸ spent s listed
      rw [nothing, List.append_nil] at next
      rw [if_pos known, ih _ next, newPairs, nothing, List.nil_append, List.append_nil]
    · rw [if_neg known, newPairs, newPairs, ih _ next]

/-- What is left of a batch asks for what the places that do not repeat ask for. -/
theorem asking_unseen (seen rest : List HostObservation) (spent : ∀ s ∈ seen, claimed lease pairs s = []) (hostname : String) (year : Int) :
    Asking lease initial pairs (unseen seen rest) hostname year ↔
      ∃ place ∈ batchPlaces lease pairs seen rest, place.repeated = false ∧ place.Asking lease initial hostname year := by
  induction rest generalizing pairs seen with
  | nil => simp [unseen, Asking, batchPlaces]
  | cons o rest ih =>
    have next : ∀ s ∈ seen ++ [o], claimed lease (pairs ++ claimed lease pairs o) s = [] := by
      intro s member
      rcases List.mem_append.mp member with old | new
      · exact claimed_more (spent s old)
      · rw [List.mem_singleton.mp new]
        exact claimed_self
    rw [unseen, batchPlaces, List.exists_mem_cons_iff]
    by_cases known : (seen.any fun s => planningKey s = planningKey o) = true
    · obtain ⟨s, listed, like⟩ := List.any_eq_true.mp known
      have nothing : claimed lease pairs o = [] := claimed_key (of_decide_eq_true like) ▸ spent s listed
      have step := ih _ next
      rw [nothing, List.append_nil] at step ⊢
      rw [if_pos known, step]
      simp [known]
    · have isNew : (seen.any fun s => planningKey s = planningKey o) = false := by simpa using known
      rw [if_neg known, Asking, ih _ next, isNew]
      simp [Place.Asking]

theorem batchPlaces_proved (seen rest : List HostObservation) {place : Place} (listed : place ∈ batchPlaces lease pairs seen rest) :
    ∃ more, place.proved = pairs ++ more := by
  induction rest generalizing pairs seen with
  | nil => cases listed
  | cons o rest ih =>
    rcases List.mem_cons.mp listed with rfl | later
    · exact ⟨[], (List.append_nil _).symm⟩
    · obtain ⟨more, proved⟩ := ih _ later
      exact ⟨claimed lease pairs o ++ more, by rw [proved, List.append_assoc]⟩

theorem first_copy (seen rest : List HostObservation) {place : Place} (listed : place ∈ batchPlaces lease pairs seen rest)
    (repeats : place.repeated = true) :
    (∃ s ∈ seen, planningKey s = planningKey place.observation) ∨
      ∃ first ∈ batchPlaces lease pairs seen rest, first.repeated = false ∧ planningKey first.observation = planningKey place.observation ∧
        ∃ more, place.proved = first.proved ++ claimed lease first.proved first.observation ++ more := by
  induction rest generalizing pairs seen with
  | nil => cases listed
  | cons o rest ih =>
    rcases List.mem_cons.mp listed with rfl | later
    · obtain ⟨s, inside, like⟩ := List.any_eq_true.mp repeats
      exact .inl ⟨s, inside, of_decide_eq_true like⟩
    rcases ih _ later with ⟨s, inside, like⟩ | ⟨first, inside, kept⟩
    · rcases List.mem_append.mp inside with old | new
      · exact .inl ⟨s, old, like⟩
      rw [List.mem_singleton.mp new] at like
      cases known : seen.any fun s => planningKey s = planningKey o with
      | true =>
        obtain ⟨s', old, like'⟩ := List.any_eq_true.mp known
        exact .inl ⟨s', old, (of_decide_eq_true like').trans like⟩
      | false =>
        obtain ⟨more, proved⟩ := batchPlaces_proved _ _ later
        exact .inr ⟨⟨pairs, o, _⟩, List.mem_cons_self, known, like, more, proved⟩
    · exact .inr ⟨first, List.mem_cons_of_mem _ inside, kept⟩

theorem places_first (all : List (List HostObservation)) {place : Place} (listed : place ∈ places lease pairs all) (repeats : place.repeated = true) :
    ∃ first ∈ places lease pairs all, first.repeated = false ∧ planningKey first.observation = planningKey place.observation ∧
      ∃ more, place.proved = first.proved ++ claimed lease first.proved first.observation ++ more := by
  induction all generalizing pairs with
  | nil => cases listed
  | cons batch rest ih =>
    rcases List.mem_append.mp listed with here | later
    · rcases first_copy [] batch here repeats with ⟨s, inside, -⟩ | ⟨first, inside, kept⟩
      · cases inside
      · exact ⟨first, List.mem_append_left _ inside, kept⟩
    · obtain ⟨first, inside, kept⟩ := ih later
      exact ⟨first, List.mem_append_right _ inside, kept⟩

theorem newPairs_append (first second : List HostObservation) :
    newPairs lease pairs (first ++ second) = newPairs lease pairs first ++ newPairs lease (pairs ++ newPairs lease pairs first) second := by
  induction first generalizing pairs with
  | nil => rw [newPairs, List.append_nil]; rfl
  | cons o rest ih => rw [List.cons_append, newPairs, newPairs, ih, List.append_assoc, List.append_assoc]

theorem places_alone (seen rest : List HostObservation) :
    places lease pairs (rest.map ([·])) = (batchPlaces lease pairs seen rest).map fun place => { place with repeated := false } := by
  induction rest generalizing pairs seen with
  | nil => rfl
  | cons o rest ih =>
    have single : newPairs lease pairs [o] = claimed lease pairs o := List.append_nil _
    rw [List.map_cons, places, single, ih (seen ++ [o])]
    rfl

theorem places_append (first second : List (List HostObservation)) :
    places lease pairs (first ++ second) = places lease pairs first ++ places lease (pairs ++ newPairs lease pairs first.flatten) second := by
  induction first generalizing pairs with
  | nil => rw [List.flatten_nil, newPairs, List.append_nil]; rfl
  | cons batch rest ih => rw [List.cons_append, places, places, ih, List.flatten_cons, newPairs_append, List.append_assoc, List.append_assoc]

/-- Planned alone, each observation stands where it stands in its batch, and repeats none. -/
theorem places_flatten (all : List (List HostObservation)) :
    places lease pairs (all.flatten.map ([·])) = (places lease pairs all).map fun place => { place with repeated := false } := by
  induction all generalizing pairs with
  | nil => rfl
  | cons batch rest ih =>
    rw [List.flatten_cons, List.map_append, places_append, places_alone [] batch, places, List.map_append, ← ih, ← List.flatMap_def,
      List.flatMap_singleton']

end

/-! ## Leases -/

/-- What the store and the keys of a lease stand for. -/
structure Follows (s : Planning) (pairs : List HostYear) : Prop where
  proved : ∀ pair, pair ∈ s.store.hostYears.pairs ↔ pair ∈ pairs

def Planning.Asks (s : Planning) (hostname : String) (year : Int) : Prop := ∃ key ∈ s.scheduled, LeasePlanning.Asks key hostname year

section
variable (lease : Lease) {initial : String → Nat} (coverage : Coverage initial) (burns : Bool)

theorem mem_foldl_schedule (keys scheduled : List EvidenceQueryKey) (key : EvidenceQueryKey) :
    key ∈ keys.foldl schedule scheduled ↔ key ∈ scheduled ∨ key ∈ keys := by
  induction keys generalizing scheduled with
  | nil => simp
  | cons first rest ih =>
    rw [List.foldl_cons, ih, List.mem_cons]
    unfold schedule
    split
    · rename_i known
      constructor
      · exact Or.imp_right .inr
      · rintro (old | rfl | later)
        · exact .inl old
        · exact .inl known
        · exact .inr later
    · rw [List.mem_append, List.mem_singleton, or_assoc]

theorem commitDirect_made (store : EvidenceStore.Store) (capsules : List EvidenceCapsule) : ∃ after, commitDirect burns store capsules = .ok after ∧
    ∀ pair, pair ∈ after.hostYears.pairs ↔ pair ∈ store.hostYears.pairs ∨ pair ∈ capsules.map (·.pair) := by
  unfold commitDirect
  cases none_ : capsules.isEmpty with
  | true =>
    rw [List.isEmpty_iff.mp none_]
    exact ⟨store, rfl, fun pair => by simp⟩
  | false =>
    have official : capsules.any (fun c => !officialHost c.hostname) = false := by
      refine List.any_eq_false.mpr fun c _ => ?_
      have valid := c.valid
      unfold CapsuleFields.postInit at valid
      split_ifs at valid with bad
      simpa using bad
    have some_ : capsules ≠ [] := by
      rintro rfl
      cases none_
    refine ⟨store.written burns (capsules.map (·.toCapsuleFields)) [], ?_, fun pair => ?_⟩
    · rw [if_neg Bool.false_ne_true, putMany, official, if_neg Bool.false_ne_true, if_neg some_]
      rfl
    · change pair ∈ (((capsules.map (·.toCapsuleFields)).map (·.pair)).eraseDups.foldl (HostYears.insert burns) store.hostYears).pairs ↔ _
      rw [mem_pairs_foldl, List.mem_eraseDups, List.map_map]
      rfl

/-- A batch commits what its observations prove, and asks for what the places ask for that do not repeat. -/
theorem resolvePending_spec {s : Planning} {pairs : List HostYear} (follows : Follows s pairs) (pending : List HostObservation) :
    ∃ s', resolvePending lease coverage burns s pending = .ok s' ∧ Follows s' (pairs ++ newPairs lease pairs pending) ∧
      s'.committed.map (·.pair) = s.committed.map (·.pair) ++ newPairs lease pairs pending ∧
      ∀ hostname year, s'.Asks hostname year ↔
        s.Asks hostname year ∨ ∃ place ∈ batchPlaces lease pairs [] pending, place.repeated = false ∧ place.Asking lease initial hostname year := by
  unfold resolvePending
  by_cases none_ : pending.isEmpty = true
  · rw [if_pos none_, List.isEmpty_iff.mp none_]
    refine ⟨s, rfl, ?_, (List.append_nil _).symm, fun hostname year => by simp [batchPlaces]⟩
    rwa [newPairs, List.append_nil]
  rw [if_neg none_, coalesce_unseen]
  have isLocal : resolveYearMask s.store = maskOf pairs := (resolveYearMask_eq s.store).trans (maskOf_congr follows.proved)
  have bounded : Bounded initial s.Asks (coverage.covered s.scheduled) := ⟨fun hostname => coverage.kept _ hostname, coverage.own _⟩
  obtain ⟨capsules, keys, planned, isPairs, asks⟩ : ∃ capsules keys, planItems lease ⟨resolveYearMask s.store, coverage.covered s.scheduled⟩
      (unseen [] pending) = .ok (capsules, keys) ∧ _ := planItems_spec
    (m := ⟨resolveYearMask s.store, coverage.covered s.scheduled⟩) isLocal bounded (unseen [] pending)
  rw [newPairs_unseen [] pending nofun] at isPairs
  obtain ⟨store, committed, stored⟩ := commitDirect_made burns s.store capsules
  refine ⟨⟨store, s.committed ++ capsules, keys.foldl schedule s.scheduled⟩, ?_, ⟨fun pair => ?_⟩, ?_, fun hostname year => ?_⟩
  · rw [planned]
    change (commitDirect burns s.store capsules >>= fun store => pure (Planning.mk store (s.committed ++ capsules) (keys.foldl schedule s.scheduled))) = _
    rw [committed]
    rfl
  · rw [stored, isPairs, List.mem_append, follows.proved]
  · rw [List.map_append, isPairs]
  · rw [← asking_unseen [] pending nofun]
    have split : Planning.Asks ⟨store, s.committed ++ capsules, keys.foldl schedule s.scheduled⟩ hostname year ↔
        s.Asks hostname year ∨ ∃ key ∈ keys, LeasePlanning.Asks key hostname year := by
      simp only [Planning.Asks, mem_foldl_schedule, or_and_right, exists_or]
    rw [split]
    exact asks hostname year

/-- A lease commits what its observations prove, and asks for what the places ask for that do not repeat. -/
theorem resolveAll_spec {s : Planning} {pairs : List HostYear} (follows : Follows s pairs) (all : List (List HostObservation)) :
    ∃ s', resolveAll lease coverage burns s all = .ok s' ∧
      s'.committed.map (·.pair) = s.committed.map (·.pair) ++ newPairs lease pairs all.flatten ∧
      ∀ hostname year, s'.Asks hostname year ↔
        s.Asks hostname year ∨ ∃ place ∈ places lease pairs all, place.repeated = false ∧ place.Asking lease initial hostname year := by
  induction all generalizing s pairs with
  | nil => exact ⟨s, rfl, (List.append_nil _).symm, fun hostname year => by simp [places]⟩
  | cons batch rest ih =>
    obtain ⟨s', resolved, follows', pairs', asks'⟩ := resolvePending_spec lease coverage burns follows batch
    obtain ⟨s'', later, pairs'', asks''⟩ := ih follows'
    refine ⟨s'', ?_, ?_, fun hostname year => ?_⟩
    · rw [resolveAll, resolved]
      exact later
    · rw [pairs'', pairs', List.flatten_cons, newPairs_append, List.append_assoc]
    · rw [asks'', asks', places, or_assoc]
      simp only [List.mem_append, or_and_right, exists_or]

end

/-! ## Batches and single observations -/

/-- Two runs proved the same host-years and asked for the same. -/
structure SameWork (s t : Planning) : Prop where
  proved : ∀ pair, pair ∈ s.committed.map (·.pair) ↔ pair ∈ t.committed.map (·.pair)
  asked : ∀ hostname year, s.Asks hostname year ↔ t.Asks hostname year

section
variable (lease : Lease) {initial : String → Nat} (store : EvidenceStore.Store)

/-- Batches do what single observations do, in order. -/
def Agrees (first second : Coverage initial) (burns : Bool) (pipelineBatchSize : Nat) (records : List (List HostObservation)) : Prop :=
  ∃ s t, resolveAll lease first burns ⟨store, [], []⟩ (batches pipelineBatchSize [] records) = .ok s ∧
    resolveAll lease second burns ⟨store, [], []⟩ (records.flatten.map ([·])) = .ok t ∧ SameWork s t

/-- Each year that a repeat alone would ask for, because nothing hints at others and its direct years are proved, is asked for by
    an observation that is no repeat. -/
def Unmissed (initial : String → Nat) (pipelineBatchSize : Nat) (records : List (List HostObservation)) : Prop :=
  ∀ place ∈ places lease store.hostYears.pairs (batches pipelineBatchSize [] records), place.repeated = true → Forced lease place.observation →
    ∀ year ∈ asked lease initial place.proved place.observation,
      ∃ other ∈ places lease store.hostYears.pairs (batches pipelineBatchSize [] records), other.repeated = false ∧
        other.observation.hostname = place.observation.hostname ∧ year ∈ asked lease initial other.proved other.observation

/-- The batches of a lease prove what its observations prove alone, and ask for the same years exactly when no repeat is missed. -/
theorem agrees_iff (first second : Coverage initial) (burns : Bool) (pipelineBatchSize : Nat) (records : List (List HostObservation)) :
    Agrees lease store first second burns pipelineBatchSize records ↔ Unmissed lease store initial pipelineBatchSize records := by
  have start : Follows ⟨store, [], []⟩ store.hostYears.pairs := ⟨fun pair => Iff.rfl⟩
  obtain ⟨s, resolved, pairs, asks⟩ := resolveAll_spec lease first burns start (batches pipelineBatchSize [] records)
  obtain ⟨t, alone, pairs', asks'⟩ := resolveAll_spec lease second burns start (records.flatten.map ([·]))
  have flat : (batches pipelineBatchSize [] records).flatten = records.flatten := batches_flatten pipelineBatchSize [] records
  have isAlone : places lease store.hostYears.pairs ((batches pipelineBatchSize [] records).flatten.map ([·])) = _ :=
    places_flatten (batches pipelineBatchSize [] records)
  rw [flat] at pairs isAlone
  generalize placed : places lease store.hostYears.pairs (batches pipelineBatchSize [] records) = all at asks isAlone
  have batched (hostname : String) (year : Int) :
      s.Asks hostname year ↔ ∃ place ∈ all, place.repeated = false ∧ place.Asking lease initial hostname year := by
    rw [asks]
    exact or_iff_right fun ⟨key, listed, _⟩ => nomatch listed
  have single (hostname : String) (year : Int) : t.Asks hostname year ↔ ∃ place ∈ all, place.Asking lease initial hostname year := by
    rw [asks', isAlone]
    simp only [List.mem_map, exists_exists_and_eq_and, true_and]
    exact or_iff_right fun ⟨key, listed, _⟩ => nomatch listed
  have work : Agrees lease store first second burns pipelineBatchSize records ↔ SameWork s t := by
    constructor
    · rintro ⟨s', t', resolved', alone', same⟩
      obtain rfl := Except.ok.inj (resolved.symm.trans resolved')
      obtain rfl := Except.ok.inj (alone.symm.trans alone')
      exact same
    · exact fun same => ⟨s, t, resolved, alone, same⟩
  have flatAlone : (records.flatten.map ([·])).flatten = records.flatten := by
    rw [← List.flatMap_def, List.flatMap_singleton']
  rw [work, Unmissed, placed]
  constructor
  · intro same place listed _ _ year asked_
    obtain ⟨other, inside, kept, host, asks_⟩ := (batched place.observation.hostname year).mp
      ((same.asked _ year).mpr ((single _ year).mpr ⟨place, listed, rfl, asked_⟩))
    exact ⟨other, inside, kept, host.symm, asks_⟩
  · intro unmissed
    refine ⟨fun pair => ?_, fun hostname year => ?_⟩
    · rw [pairs, pairs', flatAlone]
    · rw [batched, single]
      constructor
      · rintro ⟨place, listed, -, asks_⟩
        exact ⟨place, listed, asks_⟩
      · rintro ⟨place, listed, rfl, asked_⟩
        cases repeats : place.repeated with
        | false => exact ⟨place, listed, repeats, rfl, asked_⟩
        | true =>
          by_cases forced : Forced lease place.observation
          · obtain ⟨other, inside, kept, host, asks_⟩ := unmissed place listed repeats forced year asked_
            exact ⟨other, inside, kept, host.symm, asks_⟩
          · obtain ⟨first, inside, kept, like, more, proved⟩ := places_first _ (placed ▸ listed) repeats
            rw [proved] at asked_
            refine ⟨first, placed ▸ inside, kept, ?_, asked_repeat like (fun isForced => absurd isForced forced) asked_⟩
            exact (congrArg Prod.fst like).symm

end

/-- Two records of a hostname with a direct year and no other. -/
def directOnly (locator : String) : HostObservation where
  hostname := "b.com"
  sourceId := "direct"
  locator := locator
  scope := .localDiscovery
  sourceYear := none
  sourceTime := none
  recordType := ""
  artifactRef := ""
  directYearMask := 4
  yearHintMask := 0
  originalUrl := ""
  evidenceType := ""
  temporalSemantics := ""
  evidenceContractId := ""
  evidenceContractVersion := ""
  official := by decide +kernel

/-- A lease of a reservoir of direct years. -/
def directLease : Lease where
  provider := "wayback"
  policyVersion := "cdx-v1"
  allowDirect := true
  annualMask _ := 0
  digest _ := "0"
  provided := by decide +kernel
  policed := by decide +kernel
  digested _ := by decide +kernel

/-- A provider that never covers a year. -/
def uncovered : Coverage fun _ => 0 := ⟨fun _ _ => 0, fun _ _ _ held => held, fun _ _ _ held => .inl held⟩

/-- The keys of a run from nothing. -/
def scheduledBy (all : List (List HostObservation)) : Option (List (Int × Int)) :=
  match resolveAll directLease uncovered false ⟨⟨.empty, .empty, .empty⟩, [], []⟩ all with
  | .ok s => some (s.scheduled.map fun key => (key.yearFrom, key.yearTo))
  | .error _ => none

/-- Of two observations with a direct year and no other, the second asks for all other years when it is planned alone, and for
    none in a batch. -/
theorem repeat_missed :
    ¬Agrees directLease ⟨.empty, .empty, .empty⟩ uncovered uncovered false 2 [[directOnly "1"], [directOnly "2"]] ∧
    scheduledBy (batches 2 [] [[directOnly "1"], [directOnly "2"]]) = some [] ∧
    scheduledBy [[directOnly "1"], [directOnly "2"]] = some [(1996, 1997), (1999, 2001)] := by
  have batched : scheduledBy (batches 2 [] [[directOnly "1"], [directOnly "2"]]) = some [] := by decide +kernel
  have alone : scheduledBy [[directOnly "1"], [directOnly "2"]] = some [(1996, 1997), (1999, 2001)] := by decide +kernel
  refine ⟨fun ⟨s, t, resolved, resolved', same⟩ => ?_, batched, alone⟩
  change resolveAll directLease uncovered false ⟨⟨.empty, .empty, .empty⟩, [], []⟩ [[directOnly "1"], [directOnly "2"]] = .ok t at resolved'
  rw [scheduledBy, resolved] at batched
  rw [scheduledBy, resolved'] at alone
  have nothing : s.scheduled = [] := List.map_eq_nil_iff.mp (Option.some.inj batched)
  have first : (1996, 1997) ∈ t.scheduled.map fun key => (key.yearFrom, key.yearTo) := by
    rw [Option.some.inj alone]
    exact List.mem_cons_self
  obtain ⟨key, listed, range⟩ := List.mem_map.mp first
  obtain ⟨from_, to_⟩ := Prod.mk.inj range
  obtain ⟨other, inside, -⟩ := (same.asked key.hostname 1996).mpr ⟨key, listed, rfl, by omega, by omega⟩
  rw [nothing] at inside
  cases inside

end Creeper.LeasePlanning
