import Creeper.ArchiveLines
import Creeper.Decimals
import Creeper.EvidenceSemantics

/-!
# Verifying a submission

`submission/verify.py`: `_recompute_from_bundle` reads the six annual files beside the evidence
in one pass. It reports no error exactly when the archive keeps its contract, unless a row makes
it raise or the rounded sums of the lanes do not add up.
-/

namespace Creeper.SubmissionVerify
open Creeper.Tables Creeper.PyText Creeper.JsonText Creeper.EvidenceTasks Creeper.ArchiveLines Creeper.Decimals
open Creeper.EvidenceSemantics
open Creeper.BatchPayload (member)
open Creeper.EvidenceBridge (isMapping)
open Creeper.FabricModels (PyError)

/-! ## What the verifier is given -/

/-- The entries of an archive by name. -/
abbrev Bundle := String → Option (List UInt8)

/-- The years of `YEAR_BITS`. -/
def years : List Int := [1996, 1997, 1998, 1999, 2000, 2001]

def yearBit (year : Int) : Nat := 2 ^ (year - 1996).toNat

/-- A row of `annual_hostnames`. -/
structure BaselineRow where
  hostname : String
  yearMask : Nat

structure BaselineIndex where
  rows : Table BaselineRow String (·.hostname)

/-- The authority, its baseline index and EED model, and the registry of reviewed contracts; an
    input that cannot be read gives the text of an exception. -/
structure Supply where
  baseline : Except String BaselineIndex
  weights : Except String (PyStr → Option Decimal)
  modelSignature : Except String String
  modelHash : String
  baselineEed : Decimal
  reviewed : Option ReviewedContractRegistry

/-- Nothing is wrong with what is given. -/
structure Supply.Sound (given : Supply) : Prop where
  baseline : ∃ index, given.baseline = .ok index
  weights : ∃ weights, given.weights = .ok weights
  model : given.modelSignature = .ok given.modelHash
  positive : 0 < given.baselineEed.value

/-- `weights.get(tld, Decimal("0"))`. -/
def Supply.weight (given : Supply) (tld : PyStr) : Decimal := (given.weights.toOption.bind (· tld)).getD (.ofNat 0)

def Supply.errors (given : Supply) : List String :=
  (match given.baseline with
    | .ok _ => []
    | .error text => ["cannot verify supplied baseline index authority: " ++ text]) ++
  (match given.weights with
    | .ok _ => []
    | .error text => ["cannot independently recompute EED: " ++ text]) ++
  (match given.modelSignature with
    | .ok signature => errorUnless (signature = given.modelHash) "supplied EED model hash does not match authority manifest"
    | .error text => ["cannot load supplied EED model: " ++ text])

/-- Numbers of hosts by TLD, in the order of their first hosts. -/
abbrev Counts := List (PyStr × Nat)

/-- `counts[tld] = counts.get(tld, 0) + 1`. -/
def increment (tld : PyStr) : Counts → Counts
  | [] => [(tld, 1)]
  | (t, n) :: rest => if t = tld then (t, n + 1) :: rest else (t, n) :: increment tld rest

/-- The precision of Python's default decimal context. -/
def precision : Nat := 28

/-- `GROWTH_DECIMAL_PRECISION`. -/
def growthPrecision : Nat := 50

/-- `_weighted_eed`. -/
def weightedEed (given : Supply) (counts : Int → Counts) : Decimal :=
  .sum precision (years.flatMap fun year => (counts year).map fun c => .mul precision (.ofNat c.2) (given.weight c.1))

/-! ## Progress -/

/-- The rest of an annual file, its hostname in front, and the last one that was in order. -/
structure Cursor where
  lines : List String
  current : Option String
  previous : Option String

/-- The variables of `_recompute_from_bundle`. -/
structure Progress where
  errors : List String
  cursor : Int → Cursor
  annualCounts : Int → Counts
  annualRecords : Nat
  baselineOverlap : Nat
  missingAnnual : Nat
  laneCounts : Bucket → Int → Counts
  laneRecords : Bucket → Int → Nat
  evidenceRecords : Nat
  previousKey : Option (String ×ₗ Int)

def Progress.fail (s : Progress) (error : String) : Progress := { s with errors := s.errors ++ [error] }

/-- A year whose file has ended. -/
def Progress.exhausted (s : Progress) (year : Int) : Progress :=
  { s with cursor := Function.update s.cursor year ⟨[], none, (s.cursor year).previous⟩ }

def fileName (year : Int) : String := toString year ++ ".txt"

section
variable (p : Python)

/-- `_tld`. -/
def tld (hostname : String) : PyStr := p.lower (((labels hostname).getLastD []).map .char)

/-- `BaselineIndex.year_mask`. -/
def yearMask (index : BaselineIndex) (hostname : String) : Nat :=
  (((p.normalizeOfficial (py hostname)).bind index.rows.get?).map (·.yearMask)).getD 0

/-- A hostname is in a baseline that has rows, for the year. -/
def overlaps (given : Supply) (hostname : String) (year : Int) : Bool :=
  match given.baseline with
  | .ok index => index.rows.rows ≠ [] && yearMask p index hostname &&& yearBit year ≠ 0
  | .error _ => false

variable (given : Supply)

def Progress.accepted (s : Progress) (year : Int) (rest : List String) (hostname : String) : Progress :=
  { s with
    cursor := Function.update s.cursor year ⟨rest, some hostname, some hostname⟩
    annualRecords := s.annualRecords + 1
    annualCounts := Function.update s.annualCounts year (increment (tld p hostname) (s.annualCounts year))
    baselineOverlap := s.baselineOverlap + (if overlaps p given hostname year then 1 else 0) }

/-- `next_annual`, from the lines that are left. -/
def nextAnnual (year : Int) : List String → Progress → Progress
  | [], s => s.exhausted year
  | raw :: rest, s =>
    match p.normalizeOfficial (py raw) with
    | none => nextAnnual year rest (s.fail ("invalid hostname in " ++ fileName year ++ ": " ++ raw))
    | some hostname =>
      match (s.cursor year).previous with
      | none => s.accepted p given year rest hostname
      | some previous =>
        if hostname = previous then nextAnnual year rest (s.fail ("duplicate hostname in " ++ fileName year ++ ": " ++ hostname))
        else if hostname < previous then
          nextAnnual year rest
            (s.fail ("annual entries are not ordered in " ++ fileName year ++ ": " ++ hostname ++ " after " ++ previous))
        else s.accepted p given year rest hostname

def Progress.counted (s : Progress) (year : Int) (bucket : Bucket) (hostname : String) : Progress :=
  { s with
    laneRecords := Function.update s.laneRecords bucket
      (Function.update (s.laneRecords bucket) year (s.laneRecords bucket year + 1))
    laneCounts := Function.update s.laneCounts bucket
      (Function.update (s.laneCounts bucket) year (increment (tld p hostname) (s.laneCounts bucket year))) }

/-- `assign_annual`. -/
def assignAnnual (year : Int) (bucket : Bucket) (s : Progress) : Progress :=
  match (s.cursor year).current with
  | none => s
  | some hostname => nextAnnual p given year (s.cursor year).lines (s.counted p year bucket hostname)

/-- The loops that pass over annual hostnames without evidence; each turn uses up a line or the last hostname. -/
def passOver (year : Int) (without : String → Bool) : Nat → Progress → Progress
  | 0, s => s
  | n + 1, s =>
    match (s.cursor year).current with
    | none => s
    | some hostname =>
      if without hostname then
        passOver year without n (assignAnnual p given year .otherRestricted { s with missingAnnual := s.missingAnnual + 1 })
      else s

/-- As many turns as a file can take. -/
def passAll (year : Int) (without : String → Bool) (s : Progress) : Progress :=
  passOver p given year without ((s.cursor year).lines.length + 1) s

/-! ## Rows of evidence -/

/-- `_REQUIRED_EVIDENCE_FIELDS`. -/
def requiredEvidenceFields : List String := ["hostname", "year", "provider", "temporal_semantics", "evidence_timestamp",
  "source_locator", "payload_hash", "policy_version", "evidence_type", "source_id", "original_url", "record_locator",
  "extraction_method"]

/-- What a line of `evidence.jsonl` comes to. -/
inductive EvidenceRow
  | capsule (c : Capsule)
  | refused (complaint : String)
  | raises (err : PyError)

def capsuleOf (raw : String) (record : Json) : EvidenceRow :=
  let text (field : String) := p.str ((member record field).getD .null)
  match intOf ((member record "year").getD .null) with
  | .error (some err) => .raises err
  | .error none => .refused (p.complaint (py raw))
  | .ok year =>
    match p.normalizeOfficial (text "hostname") with
    | none => .refused "evidence capsule contains an invalid hostname"
    | some hostname =>
      match Capsule.make {
        hostname, year
        provider := text "provider"
        temporalSemantics := text "temporal_semantics"
        evidenceTimestamp := text "evidence_timestamp"
        sourceLocator := text "source_locator"
        payloadHash := text "payload_hash"
        policyVersion := text "policy_version"
        evidenceType := text "evidence_type"
        sourceId := text "source_id"
        originalUrl := text "original_url"
        recordLocator := text "record_locator"
        extractionMethod := text "extraction_method" } with
      | .error complaint => .refused complaint
      | .ok capsule => .capsule capsule

/-- The body of the `try`. -/
def readRow (raw : String) : EvidenceRow :=
  match loadsText (py raw) with
  | none => .refused (p.complaint (py raw))
  | some record =>
    if !isMapping record then .refused "evidence row must be an object"
    else
      match requiredEvidenceFields.find? fun field => (member record field).all fun value => stripText (p.str value) = [] with
      | some field => .refused ("missing evidence provenance: " ++ field)
      | none => capsuleOf p raw record

/-- The key that evidence is ordered by. -/
def key (c : Capsule) : String ×ₗ Int := toLex (c.hostname, c.year)

def hostYear (hostname : String) (year : Int) : String := hostname ++ "/" ++ toString year

/-- `contribution_bucket` of the lane of a capsule. -/
def bucketOf (c : Capsule) : Bucket := contributionBucket (classifyAcquisitionLane p c given.reviewed)

def matchCapsule (lineNumber : Nat) (c : Capsule) (validation : EvidenceSemanticValidation) (s : Progress) : Progress :=
  let s := { s with previousKey := some (key c), evidenceRecords := s.evidenceRecords + 1 }
  let s :=
    if validation.acceptedForAnnual then s
    else { s with errors := s.errors ++ validation.errors.map (("invalid evidence line " ++ toString lineNumber ++ ": ") ++ ·) }
  if c.year ∈ years then
    let s := passAll p given c.year (· < c.hostname) s
    if (s.cursor c.year).current = some c.hostname then assignAnnual p given c.year (bucketOf p given c) s
    else s.fail ("evidence host-year is not present in annual output: " ++ hostYear c.hostname c.year)
  else s

/-- One turn of the loop over `evidence.jsonl`. -/
def evidenceLine (lineNumber : Nat) (raw : String) (s : Progress) : Except PyError Progress :=
  match readRow p raw with
  | .raises err => .error err
  | .refused complaint => .ok (s.fail ("invalid evidence line " ++ toString lineNumber ++ ": " ++ complaint))
  | .capsule c =>
    if s.previousKey = some (key c) then .ok (s.fail ("duplicate evidence host-year: " ++ hostYear c.hostname c.year))
    else
      match s.previousKey.filter (key c < ·) with
      | some previous => .ok (s.fail ("evidence entries are not ordered by (hostname, year): " ++ hostYear c.hostname c.year ++
          " after " ++ hostYear (ofLex previous).1 (ofLex previous).2))
      | none => (validateEvidenceSemantics p c given.reviewed).map fun validation => matchCapsule p given lineNumber c validation s

def evidenceLines : Nat → List String → Progress → Except PyError Progress
  | _, [], s => .ok s
  | n, raw :: rest, s => (evidenceLine p given n raw s).bind (evidenceLines (n + 1) rest)

/-! ## The report -/

structure LaneContribution where
  novelHostYears : Nat
  novelEed : String

structure RecomputedSubmission where
  ready : Bool
  errors : List String
  annualRecords : Nat
  evidenceRecords : Nat
  novelEed : String
  growthRate : String
  laneContribution : Bucket → LaneContribution

/-- The lanes in the order of the report. -/
def buckets : List Bucket := [.directAnnual, .verifiedCandidate, .otherRestricted]

/-- The EED of the lanes, added up. -/
def laneSum (counts : Bucket → Int → Counts) : Decimal := .sum precision (buckets.map fun bucket => weightedEed given (counts bucket))

/-- What follows the loops. -/
def report (s : Progress) : RecomputedSubmission :=
  let totalEed := weightedEed given s.annualCounts
  let errors := s.errors ++
    errorUnless (s.missingAnnual = 0) ("annual records without evidence: " ++ toString s.missingAnnual) ++
    errorUnless (s.baselineOverlap = 0) ("annual output overlaps target-year baseline: " ++ toString s.baselineOverlap) ++
    errorUnless ((laneSum given s.laneCounts).value = totalEed.value) "acquisition-lane EED totals do not sum to total novel EED" ++
    errorUnless (0 < given.baselineEed.value) "authority baseline_eed must be positive"
  { ready := errors.isEmpty
    errors
    annualRecords := s.annualRecords
    evidenceRecords := s.evidenceRecords
    novelEed := totalEed.format
    growthRate := if 0 < given.baselineEed.value then (Decimal.div growthPrecision totalEed given.baselineEed).format else "0"
    laneContribution bucket :=
      ⟨(years.map (s.laneRecords bucket)).sum, (weightedEed given (s.laneCounts bucket)).format⟩ }

def annualLines (bundle : Bundle) (year : Int) : List String := ((bundle (fileName year)).map iterArchiveLines).getD []

/-- Before any line is read. -/
def unread (bundle : Bundle) : Progress where
  errors := given.errors ++
    (years.filter fun year => (bundle (fileName year)).isNone).map fun year => "missing required entry: " ++ fileName year
  cursor year := ⟨annualLines bundle year, none, none⟩
  annualCounts _ := []
  annualRecords := 0
  baselineOverlap := 0
  missingAnnual := 0
  laneCounts _ _ := []
  laneRecords _ _ := 0
  evidenceRecords := 0
  previousKey := none

/-- The first hostname of every year. -/
def opened (bundle : Bundle) : Progress :=
  years.foldl (fun s year => nextAnnual p given year (s.cursor year).lines s) (unread given bundle)

def drained (s : Progress) : Progress := years.foldl (fun s year => passAll p given year (fun _ => true) s) s

/-- After the loop over `evidence.jsonl`. -/
def matched (bundle : Bundle) : Except PyError Progress :=
  match bundle "evidence.jsonl" with
  | none => .ok ((opened p given bundle).fail "missing required entry: evidence.jsonl")
  | some content => evidenceLines p given 1 (iterArchiveLines content) (opened p given bundle)

/-- `_recompute_from_bundle`. -/
def recomputeFromBundle (bundle : Bundle) : Except PyError RecomputedSubmission :=
  (matched p given bundle).map fun s => report given (drained p given s)

/-! ## The contract -/

/-- What the archive holds: hostnames by year, and capsules. -/
structure Contents where
  hosts : Int → List String
  capsules : List Capsule

structure Contract (bundle : Bundle) (c : Contents) : Prop where
  /-- Every annual file is there, and all its lines are valid hostnames. -/
  annual : ∀ year ∈ years, ∃ content, bundle (fileName year) = some content ∧
    (linesOf content).map (fun line => p.normalizeOfficial (py (decodeLine line))) = (c.hosts year).map some
  rising : ∀ year ∈ years, (c.hosts year).Pairwise (· < ·)
  /-- The evidence is there, and all its lines are well-formed capsules. -/
  evidence : ∃ content, bundle "evidence.jsonl" = some content ∧
    (linesOf content).map (fun line => readRow p (decodeLine line)) = c.capsules.map .capsule
  ordered : c.capsules.Pairwise (key · < key ·)
  accepted : ∀ capsule ∈ c.capsules, ∃ validation, validateEvidenceSemantics p capsule given.reviewed = .ok validation ∧
    validation.acceptedForAnnual
  /-- The two hold the same host-years. -/
  same : ∀ year ∈ years, ∀ hostname, hostname ∈ c.hosts year ↔ ∃ capsule ∈ c.capsules, capsule.hostname = hostname ∧ capsule.year = year
  novel : ∀ year ∈ years, ∀ hostname ∈ c.hosts year, !overlaps p given hostname year

/-- The numbers of some hosts by TLD, counted directly. -/
def countsOf (hosts : List String) : Counts :=
  (hosts.map (tld p)).eraseDups.map fun t => (t, (hosts.map (tld p)).count t)

def eedOf (hosts : Int → List String) : Decimal := weightedEed given fun year => countsOf p (hosts year)

def laneHosts (capsules : List Capsule) (bucket : Bucket) (year : Int) : List String :=
  (capsules.filter fun c => c.year = year && bucketOf p given c = bucket).map (·.hostname)

/-- The totals of a report are the sums over the host-years. -/
structure Totals (c : Contents) (result : RecomputedSubmission) : Prop where
  annual : result.annualRecords = (years.map fun year => (c.hosts year).length).sum
  evidence : result.evidenceRecords = c.capsules.length
  eed : result.novelEed = (eedOf p given c.hosts).format
  lanes : ∀ bucket, result.laneContribution bucket =
    ⟨(years.map fun year => (laneHosts p given c.capsules bucket year).length).sum, (eedOf p given (laneHosts p given c.capsules bucket)).format⟩

/-- The call returns, without errors exactly when nothing is wrong, and then with the right totals. -/
def Verifies (bundle : Bundle) : Prop :=
  ∃ result, recomputeFromBundle p given bundle = .ok result ∧
    (result.errors = [] ↔ given.Sound ∧ ∃ c, Contract p given bundle c) ∧
      (given.Sound → ∀ c, Contract p given bundle c → Totals p given c result)

/-- No row that the loop comes to raises: a year is not infinite, and a timestamp of a row in order
    does not begin with digits that are no decimals. -/
def Readable : Option (String ×ₗ Int) → List String → Prop
  | _, [] => True
  | previous, raw :: rest =>
    match readRow p raw with
    | .raises _ => False
    | .refused _ => Readable previous rest
    | .capsule c =>
      if previous.any (key c ≤ ·) then Readable previous rest
      else (∃ year, timestampYear c.evidenceTimestamp = .ok year) ∧ Readable (some (key c)) rest

/-- The rounded sums of the lanes add up to the rounded sum of all host-years. -/
def AddsUp (c : Contents) : Prop :=
  (laneSum given fun bucket year => countsOf p (laneHosts p given c.capsules bucket year)).value = (eedOf p given c.hosts).value

/-! ## Clean steps -/

/-- Nothing wrong has been found. -/
structure Clean (s : Progress) : Prop where
  errors : s.errors = []
  missing : s.missingAnnual = 0
  overlap : s.baselineOverlap = 0

theorem not_clean_fail (s : Progress) (error : String) : ¬Clean (s.fail error) := fun clean => by
  have none_ := clean.errors
  simp [Progress.fail] at none_

variable {p given} {s : Progress} {year : Int}

theorem clean_exhausted : Clean (s.exhausted year) ↔ Clean s := ⟨fun ⟨e, m, o⟩ => ⟨e, m, o⟩, fun ⟨e, m, o⟩ => ⟨e, m, o⟩⟩

theorem clean_counted {bucket : Bucket} {hostname : String} : Clean (s.counted p year bucket hostname) ↔ Clean s :=
  ⟨fun ⟨e, m, o⟩ => ⟨e, m, o⟩, fun ⟨e, m, o⟩ => ⟨e, m, o⟩⟩

theorem clean_accepted {rest : List String} {hostname : String} :
    Clean (s.accepted p given year rest hostname) ↔ Clean s ∧ overlaps p given hostname year = false := by
  constructor
  · rintro ⟨errors, missing, overlap⟩
    obtain ⟨before, now⟩ := Nat.add_eq_zero_iff.mp overlap
    refine ⟨⟨errors, missing, before⟩, ?_⟩
    by_contra other
    rw [if_pos (by simpa using other)] at now
    exact absurd now one_ne_zero
  · rintro ⟨⟨errors, missing, overlap⟩, new⟩
    exact ⟨errors, missing, by simp [Progress.accepted, overlap, new]⟩

def InPlace (s : Progress) (year : Int) (raw hostname : String) : Prop :=
  p.normalizeOfficial (py raw) = some hostname ∧ ∀ previous, (s.cursor year).previous = some previous → previous < hostname

theorem nextAnnual_inPlace {raw hostname : String} (rest : List String) (place : InPlace (p := p) s year raw hostname) :
    nextAnnual p given year (raw :: rest) s = s.accepted p given year rest hostname := by
  rw [nextAnnual, place.1]
  cases last : (s.cursor year).previous with
  | none => rfl
  | some previous =>
    have above := place.2 previous last
    dsimp only
    rw [if_neg above.ne', if_neg above.not_gt]

theorem nextAnnual_clean {lines : List String} (clean : Clean (nextAnnual p given year lines s)) :
    Clean s ∧ (lines = [] ∨ ∃ raw rest hostname, lines = raw :: rest ∧ InPlace (p := p) s year raw hostname ∧
      overlaps p given hostname year = false) := by
  induction lines generalizing s with
  | nil => exact ⟨clean_exhausted.mp clean, .inl rfl⟩
  | cons raw rest ih =>
    have refused (error : String) : ¬Clean (nextAnnual p given year rest (s.fail error)) :=
      fun after => not_clean_fail s error (ih after).1
    have taken {hostname : String} (place : InPlace (p := p) s year raw hostname) : Clean s ∧ (raw :: rest = [] ∨
        ∃ raw' rest' hostname, raw :: rest = raw' :: rest' ∧ InPlace (p := p) s year raw' hostname ∧
          overlaps p given hostname year = false) := by
      rw [nextAnnual_inPlace rest place] at clean
      obtain ⟨before, new⟩ := clean_accepted.mp clean
      exact ⟨before, .inr ⟨raw, rest, hostname, rfl, place, new⟩⟩
    rw [nextAnnual] at clean
    cases named : p.normalizeOfficial (py raw) with
    | none =>
      rw [named] at clean
      exact absurd clean (refused _)
    | some hostname =>
      rw [named] at clean
      dsimp only at clean
      cases last : (s.cursor year).previous with
      | none => exact taken ⟨named, fun previous found => by rw [last] at found; cases found⟩
      | some previous =>
        rw [last] at clean
        dsimp only at clean
        by_cases again : hostname = previous
        · rw [if_pos again] at clean
          exact absurd clean (refused _)
        by_cases below : hostname < previous
        · rw [if_neg again, if_pos below] at clean
          exact absurd clean (refused _)
        refine taken ⟨named, fun previous' found => ?_⟩
        rw [last] at found
        cases found
        exact lt_of_le_of_ne (not_lt.mp below) (Ne.symm again)

theorem assignAnnual_clean {bucket : Bucket} (clean : Clean (assignAnnual p given year bucket s)) : Clean s := by
  rw [assignAnnual] at clean
  cases front : (s.cursor year).current with
  | none =>
    rw [front] at clean
    exact clean
  | some hostname =>
    rw [front] at clean
    exact clean_counted.mp (nextAnnual_clean clean).1

theorem passOver_clean {without : String → Bool} {n : Nat} (clean : Clean (passOver p given year without n s)) : Clean s := by
  induction n generalizing s with
  | zero => exact clean
  | succ n ih =>
    rw [passOver] at clean
    cases front : (s.cursor year).current with
    | none =>
      rw [front] at clean
      exact clean
    | some hostname =>
      rw [front] at clean
      dsimp only at clean
      by_cases skipped : without hostname
      · rw [if_pos skipped] at clean
        exact absurd (assignAnnual_clean (ih clean)).missing (Nat.succ_ne_zero _)
      · rw [if_neg skipped] at clean
        exact clean

theorem passAll_clean {without : String → Bool} (clean : Clean (passAll p given year without s)) :
    ∀ hostname, (s.cursor year).current = some hostname → without hostname = false := by
  intro hostname front
  rw [passAll, passOver, front] at clean
  dsimp only at clean
  by_contra skipped
  rw [if_pos (by simpa using skipped)] at clean
  exact absurd (assignAnnual_clean (passOver_clean clean)).missing (Nat.succ_ne_zero _)

theorem passAll_none {without : String → Bool} (none_ : ∀ hostname, (s.cursor year).current = some hostname → without hostname = false) :
    passAll p given year without s = s := by
  rw [passAll, passOver]
  cases front : (s.cursor year).current with
  | none => rfl
  | some hostname =>
    dsimp only
    rw [none_ hostname front]
    rfl

/-! ## Counts -/

theorem increment_map (t : PyStr) (keys : List PyStr) (distinct : keys.Nodup) (n : PyStr → Nat) :
    increment t (keys.map fun k => (k, n k)) =
      keys.map (fun k => (k, if k = t then n k + 1 else n k)) ++ (if t ∈ keys then [] else [(t, 1)]) := by
  induction keys with
  | nil => rfl
  | cons k rest ih =>
    obtain ⟨new, distinct⟩ := List.nodup_cons.mp distinct
    rw [List.map_cons, increment]
    by_cases same : k = t
    · subst same
      have others : ∀ a ∈ rest, (a, n a) = (a, if a = k then n a + 1 else n a) := fun a inside => by
        rw [if_neg fun again : a = k => new (again ▸ inside)]
      rw [if_pos rfl, if_pos List.mem_cons_self, List.append_nil, List.map_cons, if_pos rfl, List.map_congr_left others]
    · have member : t ∈ k :: rest ↔ t ∈ rest := by rw [List.mem_cons, or_iff_right (Ne.symm same)]
      rw [if_neg same, ih distinct, List.map_cons, if_neg same, List.cons_append]
      simp only [member]

theorem eraseDups_snoc {α : Type} [DecidableEq α] [BEq α] [LawfulBEq α] (items : List α) (a : α) :
    (items ++ [a]).eraseDups = items.eraseDups ++ (if a ∈ items then [] else [a]) := by
  rw [List.eraseDups_append]
  by_cases member : a ∈ items <;> simp [List.removeAll, member, List.eraseDups_cons]

theorem increment_countsOf (hosts : List String) (hostname : String) :
    increment (tld p hostname) (countsOf p hosts) = countsOf p (hosts ++ [hostname]) := by
  simp only [countsOf, List.map_append, List.map_singleton]
  generalize hosts.map (tld p) = tlds
  rw [increment_map _ _ (EvidenceQueue.nodup_eraseDups tlds) (tlds.count ·), eraseDups_snoc, List.map_append]
  congr 1
  · refine List.map_congr_left fun k _ => ?_
    rw [List.count_append, List.count_singleton]
    by_cases same : k = tld p hostname
    · simp [same]
    · simp [same, Ne.symm same]
  · by_cases member : tld p hostname ∈ tlds
    · rw [if_pos member, if_pos (List.mem_eraseDups.mpr member), List.map_nil]
    · rw [if_neg member, if_neg fun again => member (List.mem_eraseDups.mp again)]
      simp [List.count_eq_zero_of_not_mem member]

theorem rising_snoc {α : Type} [Preorder α] {items : List α} (rising : items.Pairwise (· < ·)) {b : α}
    (above : ∀ last, items.getLast? = some last → last < b) : (items ++ [b]).Pairwise (· < ·) := by
  refine List.pairwise_append.mpr ⟨rising, List.pairwise_singleton _ _, fun a inside c last => ?_⟩
  rw [List.mem_singleton.mp last]
  rcases List.eq_nil_or_concat' items with none_ | ⟨front, q, parts⟩
  · rw [none_] at inside
    exact absurd inside List.not_mem_nil
  · subst parts
    have final := above q List.getLast?_concat
    rcases List.mem_append.mp inside with earlier | here
    · exact ((List.pairwise_append.mp rising).2.2 a earlier q (List.mem_singleton_self q)).trans final
    · rw [List.mem_singleton.mp here]
      exact final

/-! ## How far the files are read -/

/-- The hosts that were taken from the front of a file. -/
structure ReadTo (p : Python) (given : Supply) (raws taken : List String) (year : Int) (s : Progress) : Prop where
  lines : ∃ front, raws = front ++ (s.cursor year).lines ∧ front.map (fun raw => p.normalizeOfficial (py raw)) = taken.map some
  rising : taken.Pairwise (· < ·)
  novel : ∀ hostname ∈ taken, overlaps p given hostname year = false
  previous : (s.cursor year).previous = taken.getLast?
  counts : s.annualCounts year = countsOf p taken

/-- A read of a year leaves the other years, the lanes and the evidence alone. -/
structure Beside (year : Int) (s s' : Progress) : Prop where
  cursor : ∀ y ≠ year, s'.cursor y = s.cursor y
  counts : ∀ y ≠ year, s'.annualCounts y = s.annualCounts y
  laneCounts : s'.laneCounts = s.laneCounts
  laneRecords : s'.laneRecords = s.laneRecords
  evidence : s'.evidenceRecords = s.evidenceRecords
  previousKey : s'.previousKey = s.previousKey

theorem beside_accepted (rest : List String) (hostname : String) : Beside year s (s.accepted p given year rest hostname) :=
  ⟨fun _ other => Function.update_of_ne other _ _, fun _ other => Function.update_of_ne other _ _, rfl, rfl, rfl, rfl⟩

theorem nextAnnual_beside (lines : List String) (s : Progress) : Beside year s (nextAnnual p given year lines s) := by
  induction lines generalizing s with
  | nil => exact ⟨fun _ other => Function.update_of_ne other _ _, fun _ _ => rfl, rfl, rfl, rfl, rfl⟩
  | cons raw rest ih =>
    have failed (error : String) : Beside year s (nextAnnual p given year rest (s.fail error)) :=
      ⟨(ih _).cursor, (ih _).counts, (ih _).laneCounts, (ih _).laneRecords, (ih _).evidence, (ih _).previousKey⟩
    rw [nextAnnual]
    cases p.normalizeOfficial (py raw) with
    | none => exact failed _
    | some hostname =>
      cases (s.cursor year).previous with
      | none => exact beside_accepted rest hostname
      | some previous =>
        dsimp only
        split
        · exact failed _
        · split
          · exact failed _
          · exact beside_accepted rest hostname

variable {raws taken : List String}

theorem ReadTo.next (read : ReadTo p given raws taken year s) (clean : Clean (nextAnnual p given year (s.cursor year).lines s)) :
    let s' := nextAnnual p given year (s.cursor year).lines s
    ReadTo p given raws (taken ++ (s'.cursor year).current.toList) year s' ∧ ((s'.cursor year).current = none → (s'.cursor year).lines = []) ∧
      s'.annualRecords = s.annualRecords + (s'.cursor year).current.toList.length := by
  obtain ⟨front, whole, valid⟩ := read.lines
  obtain ⟨-, ends | ⟨raw, rest, hostname, more, place, new⟩⟩ := nextAnnual_clean clean
  · rw [ends] at whole ⊢
    have same : ((nextAnnual p given year [] s).cursor year) = ⟨[], none, (s.cursor year).previous⟩ := Function.update_self ..
    simp only [same, Option.toList_none, List.append_nil, List.length_nil, add_zero]
    exact ⟨⟨⟨front, by rw [same]; exact whole, valid⟩, read.rising, read.novel, by rw [same]; exact read.previous, read.counts⟩,
      fun _ => trivial, rfl⟩
  · rw [more] at whole ⊢
    rw [nextAnnual_inPlace rest place]
    have same : ((s.accepted p given year rest hostname).cursor year) = ⟨rest, some hostname, some hostname⟩ := Function.update_self ..
    simp only [same, Option.toList_some, List.length_singleton]
    refine ⟨⟨⟨front ++ [raw], ?_, ?_⟩, ?_, ?_, ?_, ?_⟩, nofun, rfl⟩
    · rw [same, whole, List.append_assoc, List.singleton_append]
    · rw [List.map_append, List.map_append, valid, List.map_singleton, List.map_singleton, place.1]
    · exact rising_snoc read.rising fun q found => place.2 q (read.previous.trans found)
    · intro h inside
      rcases List.mem_append.mp inside with old | last
      · exact read.novel h old
      · rw [List.mem_singleton.mp last]
        exact new
    · rw [same, List.getLast?_concat]
    · refine (Function.update_self ..).trans ?_
      rw [read.counts]
      exact increment_countsOf taken hostname

theorem ReadTo.beside {s' : Progress} {y : Int} (read : ReadTo p given raws taken y s) (beside : Beside year s s') (other : y ≠ year) :
    ReadTo p given raws taken y s' where
  lines := by rw [beside.cursor y other]; exact read.lines
  rising := read.rising
  novel := read.novel
  previous := by rw [beside.cursor y other]; exact read.previous
  counts := by rw [beside.counts y other]; exact read.counts

/-- The hosts taken of all years. -/
structure Holds (p : Python) (given : Supply) (raws taken : Int → List String) (s : Progress) : Prop where
  files : ∀ y ∈ years, ReadTo p given (raws y) (taken y) y s
  records : s.annualRecords = (years.map fun y => (taken y).length).sum

theorem Holds.congr {raws taken taken' : Int → List String} (holds : Holds p given raws taken s) (same : ∀ y ∈ years, taken' y = taken y) :
    Holds p given raws taken' s where
  files y member := by rw [same y member]; exact holds.files y member
  records := by rw [holds.records, List.map_congr_left fun y member => congrArg List.length (same y member)]

theorem sum_years {f g : Int → Nat} (ys : List Int) (distinct : ys.Nodup) (member : year ∈ ys) (others : ∀ y ≠ year, g y = f y) :
    (ys.map g).sum + f year = (ys.map f).sum + g year := by
  induction ys with
  | nil => exact absurd member List.not_mem_nil
  | cons y rest ih =>
    obtain ⟨new, distinct⟩ := List.nodup_cons.mp distinct
    simp only [List.map_cons, List.sum_cons]
    by_cases here : y = year
    · subst here
      rw [List.map_congr_left fun a inside => others a fun same => new (same ▸ inside)]
      omega
    · have rest_ := ih distinct (List.mem_of_ne_of_mem (Ne.symm here) member)
      have same := others y here
      omega

/-- A clean read of one year. -/
theorem Holds.next {raws taken : Int → List String} (holds : Holds p given raws taken s) (member : year ∈ years)
    (clean : Clean (nextAnnual p given year (s.cursor year).lines s)) :
    let s' := nextAnnual p given year (s.cursor year).lines s
    Holds p given raws (Function.update taken year (taken year ++ (s'.cursor year).current.toList)) s' ∧
      ((s'.cursor year).current = none → (s'.cursor year).lines = []) := by
  obtain ⟨read, ended, records⟩ := (holds.files year member).next clean
  refine ⟨⟨fun y inside => ?_, ?_⟩, ended⟩
  · by_cases same : y = year
    · subst same
      rw [Function.update_self]
      exact read
    · rw [Function.update_of_ne same]
      exact (holds.files y inside).beside (nextAnnual_beside _ s) same
  · have changed := sum_years (f := fun y => (taken y).length)
      (g := fun y => (Function.update taken year (taken year ++ ((nextAnnual p given year (s.cursor year).lines s).cursor year).current.toList) y).length)
      years (by decide) member fun y other => by rw [Function.update_of_ne other]
    simp only [Function.update_self, List.length_append] at changed
    rw [records, holds.records]
    omega

/-! ## Opening the files -/

theorem opened_clean (ys : List Int) (clean : Clean (ys.foldl (fun s year => nextAnnual p given year (s.cursor year).lines s) s)) : Clean s := by
  induction ys generalizing s with
  | nil => exact clean
  | cons y rest ih => exact (nextAnnual_clean (ih clean)).1

/-- The lanes and the evidence, as they were. -/
structure Aside (s s' : Progress) : Prop where
  laneCounts : s'.laneCounts = s.laneCounts
  laneRecords : s'.laneRecords = s.laneRecords
  evidence : s'.evidenceRecords = s.evidenceRecords
  previousKey : s'.previousKey = s.previousKey

theorem Beside.aside {s' : Progress} (beside : Beside year s s') : Aside s s' :=
  ⟨beside.laneCounts, beside.laneRecords, beside.evidence, beside.previousKey⟩

theorem opened_aside (ys : List Int) (s : Progress) :
    Aside s (ys.foldl (fun s year => nextAnnual p given year (s.cursor year).lines s) s) := by
  induction ys generalizing s with
  | nil => exact ⟨rfl, rfl, rfl, rfl⟩
  | cons y rest ih =>
    have first : Aside s (nextAnnual p given y (s.cursor y).lines s) := (nextAnnual_beside (s.cursor y).lines s).aside
    have later := ih (nextAnnual p given y (s.cursor y).lines s)
    exact ⟨later.laneCounts.trans first.laneCounts, later.laneRecords.trans first.laneRecords, later.evidence.trans first.evidence,
      later.previousKey.trans first.previousKey⟩

/-- Years that are read once each have their first hosts in front. -/
theorem opened_holds {raws taken : Int → List String} {ys : List Int} (distinct : ys.Nodup) (inside : ∀ y ∈ ys, y ∈ years)
    (holds : Holds p given raws taken s)
    (clean : Clean (ys.foldl (fun s year => nextAnnual p given year (s.cursor year).lines s) s)) :
    let s' := ys.foldl (fun s year => nextAnnual p given year (s.cursor year).lines s) s
    ∃ taken', Holds p given raws taken' s' ∧
      (∀ y ∈ ys, taken' y = taken y ++ (s'.cursor y).current.toList ∧ ((s'.cursor y).current = none → (s'.cursor y).lines = [])) ∧
      ∀ y ∉ ys, taken' y = taken y ∧ s'.cursor y = s.cursor y := by
  induction ys generalizing s taken with
  | nil => exact ⟨taken, holds, fun _ => nofun, fun _ _ => ⟨rfl, rfl⟩⟩
  | cons year rest ih =>
    obtain ⟨new, distinct⟩ := List.nodup_cons.mp distinct
    obtain ⟨member, inside⟩ := List.forall_mem_cons.mp inside
    obtain ⟨first, ended⟩ := holds.next member (opened_clean rest clean)
    obtain ⟨taken', held, read, left⟩ := ih distinct inside first clean
    obtain ⟨same, unmoved⟩ := left year new
    refine ⟨taken', held, List.forall_mem_cons.mpr ⟨⟨?_, ?_⟩, fun y later => ?_⟩, fun y outside => ?_⟩
    · rw [same, Function.update_self, List.foldl_cons, unmoved]
    · rw [List.foldl_cons, unmoved]
      exact ended
    · have other : y ≠ year := fun again => new (again ▸ later)
      have here := read y later
      rw [Function.update_of_ne other] at here
      exact here
    · obtain ⟨other, outside⟩ := not_or.mp (mt List.mem_cons.mpr outside)
      obtain ⟨same, unmoved⟩ := left y outside
      refine ⟨by rw [same, Function.update_of_ne other], ?_⟩
      rw [List.foldl_cons, unmoved]
      exact (nextAnnual_beside _ s).cursor y other

/-! ## Matching the evidence -/

def hostsOf (capsules : List Capsule) (year : Int) : List String := (capsules.filter (·.year = year)).map (·.hostname)

/-- A capsule is valid for its year. -/
def Accepted (p : Python) (given : Supply) (c : Capsule) : Prop :=
  ∃ validation, validateEvidenceSemantics p c given.reviewed = .ok validation ∧ validation.acceptedForAnnual

/-- A capsule whose hostname is in front, and taken. -/
def Progress.paired (p : Python) (given : Supply) (s : Progress) (c : Capsule) : Progress :=
  nextAnnual p given c.year (s.cursor c.year).lines
    (Progress.counted p { s with previousKey := some (key c), evidenceRecords := s.evidenceRecords + 1 } c.year (bucketOf p given c) c.hostname)

/-- Where the matching stands after some capsules. -/
structure Tracks (p : Python) (given : Supply) (raws : Int → List String) (done : List Capsule) (s : Progress) : Prop where
  holds : Holds p given raws (fun y => hostsOf done y ++ (s.cursor y).current.toList) s
  ended : ∀ y ∈ years, (s.cursor y).current = none → (s.cursor y).lines = []
  laneCounts : ∀ bucket y, s.laneCounts bucket y = countsOf p (laneHosts p given done bucket y)
  laneRecords : ∀ bucket y, s.laneRecords bucket y = (laneHosts p given done bucket y).length
  evidence : s.evidenceRecords = done.length
  last : s.previousKey = (done.map key).getLast?
  ordered : (done.map key).Pairwise (· < ·)
  accepted : ∀ c ∈ done, Accepted p given c

theorem hostsOf_snoc (capsules : List Capsule) (c : Capsule) (y : Int) :
    hostsOf (capsules ++ [c]) y = hostsOf capsules y ++ (if c.year = y then [c.hostname] else []) := by
  by_cases same : c.year = y <;> simp [hostsOf, same]

theorem laneHosts_snoc (capsules : List Capsule) (c : Capsule) (bucket : Bucket) (y : Int) :
    laneHosts p given (capsules ++ [c]) bucket y =
      laneHosts p given capsules bucket y ++ (if c.year = y ∧ bucketOf p given c = bucket then [c.hostname] else []) := by
  by_cases same : c.year = y ∧ bucketOf p given c = bucket <;> simp [laneHosts, same]

theorem Tracks.counted {raws : Int → List String} {done : List Capsule} (tracks : Tracks p given raws done s) (c : Capsule) :
    Holds p given raws (fun y => hostsOf done y ++ (s.cursor y).current.toList)
      (Progress.counted p { s with previousKey := some (key c), evidenceRecords := s.evidenceRecords + 1 } c.year (bucketOf p given c) c.hostname) :=
  ⟨fun y inside => ⟨(tracks.holds.files y inside).lines, (tracks.holds.files y inside).rising, (tracks.holds.files y inside).novel,
    (tracks.holds.files y inside).previous, (tracks.holds.files y inside).counts⟩, tracks.holds.records⟩

theorem Tracks.next {raws : Int → List String} {done : List Capsule} {c : Capsule} (tracks : Tracks p given raws done s)
    (member : c.year ∈ years) (front : (s.cursor c.year).current = some c.hostname) (above : ∀ k, s.previousKey = some k → k < key c)
    (valid : Accepted p given c) (clean : Clean (s.paired p given c)) : Tracks p given raws (done ++ [c]) (s.paired p given c) := by
  have beside : Beside c.year (Progress.counted p { s with previousKey := some (key c), evidenceRecords := s.evidenceRecords + 1 } c.year
      (bucketOf p given c) c.hostname) (s.paired p given c) := nextAnnual_beside _ _
  obtain ⟨held, ended⟩ := (tracks.counted c).next member clean
  refine ⟨held.congr fun y _ => ?_, fun y inside none_ => ?_, fun bucket y => ?_, fun bucket y => ?_, ?_, ?_, ?_, fun c' inside => ?_⟩
  · by_cases same : y = c.year
    · subst same
      rw [Function.update_self, hostsOf_snoc, if_pos rfl, front]
      rfl
    · rw [Function.update_of_ne same, hostsOf_snoc, if_neg (Ne.symm same), List.append_nil, beside.cursor y same]
      rfl
  · by_cases same : y = c.year
    · subst same
      exact ended none_
    · rw [beside.cursor y same] at none_ ⊢
      exact tracks.ended y inside none_
  · rw [beside.laneCounts, laneHosts_snoc]
    by_cases lane : bucket = bucketOf p given c
    · by_cases same : y = c.year
      · subst lane same
        rw [if_pos ⟨rfl, rfl⟩, ← increment_countsOf, ← tracks.laneCounts]
        simp [Progress.counted]
      · rw [if_neg fun again => same again.1.symm, List.append_nil, ← tracks.laneCounts]
        simp [Progress.counted, lane, same]
    · rw [if_neg fun again => lane again.2.symm, List.append_nil, ← tracks.laneCounts]
      simp [Progress.counted, lane]
  · rw [beside.laneRecords, laneHosts_snoc]
    by_cases lane : bucket = bucketOf p given c
    · by_cases same : y = c.year
      · subst lane same
        rw [if_pos ⟨rfl, rfl⟩, List.length_append, ← tracks.laneRecords]
        simp [Progress.counted]
      · rw [if_neg fun again => same again.1.symm, List.append_nil, ← tracks.laneRecords]
        simp [Progress.counted, lane, same]
    · rw [if_neg fun again => lane again.2.symm, List.append_nil, ← tracks.laneRecords]
      simp [Progress.counted, lane]
  · rw [beside.evidence, List.length_append, ← tracks.evidence]
    rfl
  · rw [beside.previousKey, List.map_append, List.map_singleton, List.getLast?_concat]
    rfl
  · rw [List.map_append, List.map_singleton]
    exact rising_snoc tracks.ordered fun k last => above k (tracks.last.trans last)
  · rcases List.mem_append.mp inside with old | last
    · exact tracks.accepted c' old
    · rw [List.mem_singleton.mp last]
      exact valid

theorem readRow_year {raw : String} {c : Capsule} (reads : readRow p raw = .capsule c) : c.year ∈ years := by
  have inside : 1996 ≤ c.year ∧ c.year ≤ 2001 := by
    unfold readRow at reads
    repeat' split at reads
    all_goals try cases reads
    unfold capsuleOf at reads
    dsimp only at reads
    repeat' split at reads
    all_goals try cases reads
    exact Capsule.make_year ‹_›
  have cases_ : c.year = 1996 ∨ c.year = 1997 ∨ c.year = 1998 ∨ c.year = 1999 ∨ c.year = 2000 ∨ c.year = 2001 := by omega
  rcases cases_ with year | year | year | year | year | year <;> rw [year] <;> decide

/-- A capsule in order whose hostname is in front. -/
theorem matchCapsule_good {n : Nat} {c : Capsule} {validation : EvidenceSemanticValidation} (member : c.year ∈ years)
    (valid : validation.acceptedForAnnual) (front : (s.cursor c.year).current = some c.hostname) :
    matchCapsule p given n c validation s = s.paired p given c := by
  have nothing : passAll p given c.year (· < c.hostname)
      { s with previousKey := some (key c), evidenceRecords := s.evidenceRecords + 1 } =
      { s with previousKey := some (key c), evidenceRecords := s.evidenceRecords + 1 } := by
    refine passAll_none fun hostname found => ?_
    rw [front] at found
    cases found
    exact decide_eq_false (lt_irrefl _)
  rw [matchCapsule]
  dsimp only
  rw [if_pos valid, if_pos member, nothing, if_pos front, assignAnnual]
  dsimp only
  rw [front]
  rfl

theorem matchCapsule_clean {n : Nat} {c : Capsule} {validation : EvidenceSemanticValidation} (member : c.year ∈ years)
    (validated : validateEvidenceSemantics p c given.reviewed = .ok validation) (clean : Clean (matchCapsule p given n c validation s)) :
    Clean s ∧ validation.acceptedForAnnual ∧ (s.cursor c.year).current = some c.hostname := by
  rw [matchCapsule] at clean
  dsimp only at clean
  rw [if_pos member] at clean
  generalize noted : (if validation.acceptedForAnnual then _ else _ : Progress) = t at clean
  have before : Clean t ∧ (t.cursor c.year).current = some c.hostname := by
    by_cases front : ((passAll p given c.year (· < c.hostname) t).cursor c.year).current = some c.hostname
    · rw [if_pos front] at clean
      have passed := assignAnnual_clean clean
      have nothing : passAll p given c.year (· < c.hostname) t = t := passAll_none (passAll_clean passed)
      rw [nothing] at passed front
      exact ⟨passed, front⟩
    · rw [if_neg front] at clean
      exact absurd clean (not_clean_fail _ _)
  by_cases valid : validation.acceptedForAnnual
  · rw [if_pos valid] at noted
    subst noted
    exact ⟨⟨before.1.errors, before.1.missing, before.1.overlap⟩, valid, before.2⟩
  · rw [if_neg valid] at noted
    subst noted
    have none_ := (List.append_eq_nil_iff.mp before.1.errors).2
    exact absurd (List.map_eq_nil_iff.mp none_) (validation_errors validated valid)

/-- A line that is read in order, accepted, and in front of its year. -/
structure Next (p : Python) (given : Supply) (s : Progress) (raw : String) (c : Capsule) : Prop where
  reads : readRow p raw = .capsule c
  above : ∀ k, s.previousKey = some k → k < key c
  valid : Accepted p given c
  front : (s.cursor c.year).current = some c.hostname

theorem evidenceLine_good {n : Nat} {raw : String} {c : Capsule} (next : Next p given s raw c) :
    evidenceLine p given n raw s = .ok (s.paired p given c) := by
  obtain ⟨validation, validated, valid⟩ := next.valid
  have new : s.previousKey ≠ some (key c) := fun again => lt_irrefl _ (next.above _ again)
  have rising : s.previousKey.filter (key c < ·) = none := by
    rw [Option.filter_eq_none_iff]
    exact fun k found => by simpa using (next.above k found).le
  rw [evidenceLine, next.reads]
  dsimp only
  rw [if_neg new, rising]
  dsimp only
  rw [validated, Except.map, matchCapsule_good (readRow_year next.reads) valid next.front]

theorem evidenceLine_clean {n : Nat} {raw : String} {s' : Progress} (read : evidenceLine p given n raw s = .ok s') (clean : Clean s') :
    Clean s ∧ ∃ c, Next p given s raw c ∧ s' = s.paired p given c := by
  have whole := read
  rw [evidenceLine] at read
  cases reads : readRow p raw with
  | raises err =>
    rw [reads] at read
    cases read
  | refused complaint =>
    rw [reads] at read
    cases read
    exact absurd clean (not_clean_fail _ _)
  | capsule c =>
    rw [reads] at read
    dsimp only at read
    by_cases again : s.previousKey = some (key c)
    · rw [if_pos again] at read
      cases read
      exact absurd clean (not_clean_fail _ _)
    rw [if_neg again] at read
    cases order : s.previousKey.filter (key c < ·) with
    | some previous =>
      rw [order] at read
      cases read
      exact absurd clean (not_clean_fail _ _)
    | none =>
      rw [order] at read
      cases validated : validateEvidenceSemantics p c given.reviewed with
      | error err =>
        rw [validated] at read
        cases read
      | ok validation =>
        rw [validated] at read
        cases read
        obtain ⟨before, valid, front⟩ := matchCapsule_clean (readRow_year reads) validated clean
        have above : ∀ k, s.previousKey = some k → k < key c := fun k found => by
          have notAbove := Option.filter_eq_none_iff.mp order k found
          exact lt_of_le_of_ne (by simpa using notAbove) fun same => again (same ▸ found)
        have next : Next p given s raw c := ⟨reads, above, ⟨validation, validated, valid⟩, front⟩
        refine ⟨before, c, next, ?_⟩
        rw [evidenceLine_good next] at whole
        exact (Except.ok.inj whole).symm

theorem evidenceLines_before {n : Nat} {lines : List String} {s' : Progress} (read : evidenceLines p given n lines s = .ok s')
    (clean : Clean s') : Clean s := by
  induction lines generalizing n s with
  | nil =>
    cases read
    exact clean
  | cons raw rest ih =>
    rw [evidenceLines] at read
    cases first : evidenceLine p given n raw s with
    | error err =>
      rw [first] at read
      cases read
    | ok s₁ =>
      rw [first] at read
      exact (evidenceLine_clean first (ih read)).1

theorem evidenceLines_clean {raws : Int → List String} {n : Nat} {lines : List String} {done : List Capsule} {s' : Progress}
    (tracks : Tracks p given raws done s) (read : evidenceLines p given n lines s = .ok s') (clean : Clean s') :
    ∃ capsules, lines.map (readRow p) = capsules.map .capsule ∧ Tracks p given raws (done ++ capsules) s' := by
  induction lines generalizing n s done with
  | nil =>
    cases read
    exact ⟨[], rfl, by rw [List.append_nil]; exact tracks⟩
  | cons raw rest ih =>
    rw [evidenceLines] at read
    cases first : evidenceLine p given n raw s with
    | error err =>
      rw [first] at read
      cases read
    | ok s₁ =>
      rw [first] at read
      have between : Clean s₁ := evidenceLines_before read clean
      obtain ⟨-, c, next, rfl⟩ := evidenceLine_clean first between
      have onward := tracks.next (readRow_year next.reads) next.front next.above next.valid between
      obtain ⟨capsules, rows, held⟩ := ih onward read
      refine ⟨c :: capsules, ?_, ?_⟩
      · rw [List.map_cons, List.map_cons, next.reads, rows]
      · rw [List.append_cons]
        exact held

/-! ## What is left of the years -/

theorem drained_clean {ys : List Int} (clean : Clean (ys.foldl (fun s year => passAll p given year (fun _ => true) s) s)) :
    Clean s ∧ ∀ y ∈ ys, (s.cursor y).current = none := by
  induction ys generalizing s with
  | nil => exact ⟨clean, fun _ => nofun⟩
  | cons y rest ih =>
    rw [List.foldl_cons] at clean
    obtain ⟨passed, later⟩ := ih clean
    have none_ : (s.cursor y).current = none :=
      Option.eq_none_iff_forall_ne_some.mpr fun hostname front => absurd (passAll_clean passed hostname front) (by decide)
    have nothing : passAll p given y (fun _ => true) s = s := passAll_none fun hostname front => absurd (none_.symm.trans front) nofun
    rw [nothing] at passed later
    exact ⟨passed, List.forall_mem_cons.mpr ⟨none_, later⟩⟩

theorem drained_none {ys : List Int} (none_ : ∀ y ∈ ys, (s.cursor y).current = none) :
    ys.foldl (fun s year => passAll p given year (fun _ => true) s) s = s := by
  induction ys with
  | nil => rfl
  | cons y rest ih =>
    obtain ⟨here, later⟩ := List.forall_mem_cons.mp none_
    rw [List.foldl_cons, passAll_none fun hostname front => absurd (here.symm.trans front) nofun]
    exact ih later

/-! ## An archive that keeps its contract -/

/-- The lines of the years are hosts in order, none of them in the baseline. -/
structure Valid (p : Python) (given : Supply) (raws hosts : List String) (year : Int) : Prop where
  lines : raws.map (fun raw => p.normalizeOfficial (py raw)) = hosts.map some
  rising : hosts.Pairwise (· < ·)
  novel : ∀ hostname ∈ hosts, overlaps p given hostname year = false

/-- What is left of a file gives what is left of its hosts. -/
theorem ReadTo.left {hosts : List String} (read : ReadTo p given raws taken year s) (valid : Valid p given raws hosts year) :
    ∃ more, hosts = taken ++ more ∧ (s.cursor year).lines.map (fun raw => p.normalizeOfficial (py raw)) = more.map some := by
  obtain ⟨front, whole, named⟩ := read.lines
  have lines := valid.lines
  rw [whole, List.map_append, named] at lines
  obtain ⟨first, rest, parts, same, left⟩ := List.map_eq_append_iff.mp lines.symm
  have first_ := List.map_injective_iff.mpr (Option.some_injective String) same
  subst first_
  exact ⟨rest, parts, left.symm⟩

/-- The next line of a valid file is in its place. -/
theorem ReadTo.good {hosts : List String} (read : ReadTo p given raws taken year s) (valid : Valid p given raws hosts year)
    (clean : Clean s) : Clean (nextAnnual p given year (s.cursor year).lines s) := by
  obtain ⟨more, parts, left⟩ := read.left valid
  cases lines : (s.cursor year).lines with
  | nil => exact clean_exhausted.mpr clean
  | cons raw rest =>
    rw [lines] at left
    cases more with
    | nil => cases left
    | cons hostname more =>
      obtain ⟨named, -⟩ := List.cons_eq_cons.mp left
      have place : InPlace (p := p) s year raw hostname := by
        refine ⟨named, fun previous last => ?_⟩
        rw [read.previous] at last
        have rising := valid.rising
        rw [parts] at rising
        exact (List.pairwise_append.mp rising).2.2 previous (List.mem_of_getLast? last) hostname List.mem_cons_self
      rw [nextAnnual_inPlace rest place]
      exact clean_accepted.mpr ⟨clean, valid.novel hostname (by rw [parts]; exact List.mem_append_right _ List.mem_cons_self)⟩

theorem opened_good {raws hosts taken : Int → List String} (valid : ∀ y ∈ years, Valid p given (raws y) (hosts y) y) {ys : List Int}
    (inside : ∀ y ∈ ys, y ∈ years) (holds : Holds p given raws taken s) (clean : Clean s) :
    Clean (ys.foldl (fun s year => nextAnnual p given year (s.cursor year).lines s) s) := by
  induction ys generalizing s taken with
  | nil => exact clean
  | cons y rest ih =>
    obtain ⟨member, inside⟩ := List.forall_mem_cons.mp inside
    have next := (holds.files y member).good (valid y member) clean
    exact ih inside (holds.next member next).1 next

theorem Tracks.front {raws hosts : Int → List String} {done rest : List Capsule} {c : Capsule} (tracks : Tracks p given raws done s)
    (valid : ∀ y ∈ years, Valid p given (raws y) (hosts y) y) (member : c.year ∈ years)
    (same : hosts c.year = hostsOf (done ++ c :: rest) c.year) : (s.cursor c.year).current = some c.hostname := by
  obtain ⟨more, parts, left⟩ := (tracks.holds.files c.year member).left (valid c.year member)
  have first : hostsOf (done ++ c :: rest) c.year = hostsOf done c.year ++ c.hostname :: hostsOf rest c.year := by
    simp [hostsOf]
  rw [same, first, List.append_assoc] at parts
  have next := List.append_cancel_left parts
  cases front : (s.cursor c.year).current with
  | none =>
    rw [tracks.ended c.year member front] at left
    rw [front, List.map_eq_nil_iff.mp left.symm] at next
    cases next
  | some hostname =>
    rw [front] at next
    rw [(List.cons_eq_cons.mp next).1]

theorem evidenceLines_good {raws hosts : Int → List String} {n : Nat} {lines : List String} {done capsules : List Capsule}
    (valid : ∀ y ∈ years, Valid p given (raws y) (hosts y) y) (same : ∀ y ∈ years, hosts y = hostsOf (done ++ capsules) y)
    (rows : lines.map (readRow p) = capsules.map .capsule) (ordered : ((done ++ capsules).map key).Pairwise (· < ·))
    (accepted : ∀ c ∈ capsules, Accepted p given c) (tracks : Tracks p given raws done s) (clean : Clean s) :
    ∃ s', evidenceLines p given n lines s = .ok s' ∧ Clean s' := by
  induction lines generalizing n s done capsules with
  | nil => exact ⟨s, rfl, clean⟩
  | cons raw rest ih =>
    cases capsules with
    | nil => cases rows
    | cons c capsules =>
      obtain ⟨reads, rows⟩ := List.cons_eq_cons.mp rows
      obtain ⟨valid_, accepted⟩ := List.forall_mem_cons.mp accepted
      have member := readRow_year reads
      have above : ∀ k, s.previousKey = some k → k < key c := fun k last => by
        rw [tracks.last] at last
        rw [List.map_append] at ordered
        exact (List.pairwise_append.mp ordered).2.2 k (List.mem_of_getLast? last) (key c) List.mem_cons_self
      have next : Next p given s raw c := ⟨reads, above, valid_, tracks.front valid member (same c.year member)⟩
      have paired : Clean (s.paired p given c) :=
        ((tracks.counted c).files c.year member).good (valid c.year member) ⟨clean.errors, clean.missing, clean.overlap⟩
      have onward := tracks.next member next.front above valid_ paired
      rw [evidenceLines, evidenceLine_good next]
      rw [List.append_cons] at same ordered
      exact ih same rows ordered accepted onward paired

theorem hostsOf_rising {capsules : List Capsule} (ordered : capsules.Pairwise (key · < key ·)) (y : Int) :
    (hostsOf capsules y).Pairwise (· < ·) := by
  refine List.pairwise_map.mpr (List.Pairwise.imp_of_mem ?_ (ordered.filter _))
  intro a b first second below
  have sameYear : a.year = b.year :=
    (of_decide_eq_true (List.mem_filter.mp first).2).trans (of_decide_eq_true (List.mem_filter.mp second).2).symm
  rcases Prod.Lex.toLex_lt_toLex.mp below with lower | ⟨-, lower⟩
  · exact lower
  · exact absurd lower (by rw [sameYear]; exact lt_irrefl _)

theorem mem_hostsOf {capsules : List Capsule} {y : Int} {hostname : String} :
    hostname ∈ hostsOf capsules y ↔ ∃ c ∈ capsules, c.hostname = hostname ∧ c.year = y := by
  simp only [hostsOf, List.mem_map, List.mem_filter, decide_eq_true_eq]
  exact ⟨fun ⟨c, ⟨inside, year⟩, name⟩ => ⟨c, inside, name, year⟩, fun ⟨c, inside, name, year⟩ => ⟨c, ⟨inside, year⟩, name⟩⟩

theorem rising_eq {xs ys : List String} (first : xs.Pairwise (· < ·)) (second : ys.Pairwise (· < ·)) (same : ∀ a, a ∈ xs ↔ a ∈ ys) :
    xs = ys := by
  have distinct {l : List String} (rising : l.Pairwise (· < ·)) : l.Nodup := rising.imp fun below => below.ne
  exact List.Perm.eq_of_pairwise (fun _ _ _ _ below above => absurd (below.trans above) (lt_irrefl _)) first second
    ((List.perm_ext_iff_of_nodup (distinct first) (distinct second)).mpr same)

section
variable {bundle : Bundle} {c : Contents}

theorem Contract.hosts_eq (contract : Contract p given bundle c) {y : Int} (member : y ∈ years) : c.hosts y = hostsOf c.capsules y :=
  rising_eq (contract.rising y member) (hostsOf_rising contract.ordered y) fun hostname =>
    (contract.same y member hostname).trans mem_hostsOf.symm

theorem Contract.valid (contract : Contract p given bundle c) {y : Int} (member : y ∈ years) :
    Valid p given (annualLines bundle y) (c.hosts y) y := by
  obtain ⟨content, found, named⟩ := contract.annual y member
  refine ⟨?_, contract.rising y member, fun hostname inside => by simpa using contract.novel y member hostname inside⟩
  rw [annualLines, found, Option.map_some, Option.getD_some, iterArchiveLines_eq, List.map_map]
  exact named

theorem unread_holds (bundle : Bundle) : Holds p given (annualLines bundle) (fun _ => []) (unread given bundle) :=
  ⟨fun _ _ => ⟨⟨[], rfl, rfl⟩, List.Pairwise.nil, fun _ => nofun, rfl, rfl⟩, rfl⟩

theorem opened_tracks (clean : Clean (opened p given bundle)) : Tracks p given (annualLines bundle) [] (opened p given bundle) := by
  have aside : Aside (unread given bundle) (opened p given bundle) := opened_aside years _
  obtain ⟨taken, holds, read, -⟩ := opened_holds (by decide) (fun _ member => member) (unread_holds bundle) clean
  rw [← opened] at holds read
  generalize opened p given bundle = s at holds read aside ⊢
  refine ⟨holds.congr fun y member => (read y member).1.symm, fun y member => (read y member).2, fun bucket y => ?_, fun bucket y => ?_,
    aside.evidence, aside.previousKey, List.Pairwise.nil, fun _ => nofun⟩
  · rw [aside.laneCounts]
    rfl
  · rw [aside.laneRecords]
    rfl

/-- Nothing was wrong before any line was read. -/
theorem clean_unread : Clean (unread given bundle) ↔ given.errors = [] ∧ ∀ y ∈ years, (bundle (fileName y)).isSome := by
  have missing : (years.filter fun year => (bundle (fileName year)).isNone) = [] ↔ ∀ y ∈ years, (bundle (fileName y)).isSome := by
    rw [List.filter_eq_nil_iff]
    simp only [Option.isNone_iff_eq_none, ← Option.isSome_iff_ne_none]
  constructor
  · rintro ⟨errors, -, -⟩
    obtain ⟨none_, all⟩ := List.append_eq_nil_iff.mp errors
    exact ⟨none_, missing.mp (List.map_eq_nil_iff.mp all)⟩
  · rintro ⟨none_, all⟩
    exact ⟨by simp only [unread, none_, missing.mpr all, List.map_nil, List.append_nil], rfl, rfl⟩

theorem Contract.matched (contract : Contract p given bundle c) (none_ : given.errors = []) :
    ∃ s, SubmissionVerify.matched p given bundle = .ok s ∧ Clean s ∧ Tracks p given (annualLines bundle) c.capsules s ∧
      ∀ y ∈ years, (s.cursor y).current = none := by
  have start : Clean (unread given bundle) := clean_unread.mpr ⟨none_, fun y member => by
    obtain ⟨content, found, -⟩ := contract.annual y member
    rw [found]
    rfl⟩
  have opened_ : Clean (opened p given bundle) :=
    opened_good (fun y member => contract.valid member) (fun _ member => member) (unread_holds bundle) start
  have tracks := opened_tracks opened_
  obtain ⟨content, found, rows⟩ := contract.evidence
  have rows : (iterArchiveLines content).map (readRow p) = c.capsules.map .capsule := by
    rw [iterArchiveLines_eq, List.map_map]
    exact rows
  have same : ∀ y ∈ years, c.hosts y = hostsOf ([] ++ c.capsules) y := fun y member => contract.hosts_eq member
  have ordered : (([] ++ c.capsules).map key).Pairwise (· < ·) := List.pairwise_map.mpr contract.ordered
  obtain ⟨s, read, clean⟩ := evidenceLines_good (n := 1) (fun y member => contract.valid member) same rows ordered contract.accepted
    tracks opened_
  obtain ⟨capsules, rows', final⟩ := evidenceLines_clean tracks read clean
  have unique : capsules = c.capsules :=
    List.map_injective_iff.mpr (fun _ _ one => EvidenceRow.capsule.inj one) (rows'.symm.trans rows)
  subst unique
  rw [List.nil_append] at final
  refine ⟨s, by rw [SubmissionVerify.matched, found]; exact read, clean, final, fun y member => ?_⟩
  obtain ⟨more, parts, -⟩ := (final.holds.files y member).left (contract.valid member)
  rw [contract.hosts_eq member, List.append_assoc, List.self_eq_append_right] at parts
  exact Option.toList_eq_nil_iff.mp (List.append_eq_nil_iff.mp parts).1

theorem contract_of_clean {s : Progress} (read : SubmissionVerify.matched p given bundle = .ok s) (clean : Clean s)
    (empty : ∀ y ∈ years, (s.cursor y).current = none) : given.errors = [] ∧ ∃ c, Contract p given bundle c := by
  rw [SubmissionVerify.matched] at read
  cases found : bundle "evidence.jsonl" with
  | none =>
    rw [found] at read
    cases read
    exact absurd clean (not_clean_fail _ _)
  | some content =>
    rw [found] at read
    have opened_ := evidenceLines_before read clean
    obtain ⟨none_, entries⟩ := clean_unread.mp (opened_clean years opened_)
    obtain ⟨capsules, rows, final⟩ := evidenceLines_clean (opened_tracks opened_) read clean
    rw [List.nil_append] at final
    have file (y : Int) (member : y ∈ years) : ReadTo p given (annualLines bundle y) (hostsOf capsules y) y s := by
      have read := final.holds.files y member
      rw [empty y member, Option.toList_none, List.append_nil] at read
      exact read
    refine ⟨none_, ⟨fun y => hostsOf capsules y, capsules⟩, ?_⟩
    refine ⟨fun y member => ?_, fun y member => (file y member).rising, ⟨content, found, ?_⟩, List.pairwise_map.mp final.ordered,
      final.accepted, fun y _ hostname => mem_hostsOf, fun y member hostname inside => ?_⟩
    · obtain ⟨entry, there⟩ := Option.isSome_iff_exists.mp (entries y member)
      obtain ⟨front, whole, named⟩ := (file y member).lines
      rw [final.ended y member (empty y member), List.append_nil, annualLines, there, Option.map_some, Option.getD_some,
        iterArchiveLines_eq] at whole
      refine ⟨entry, there, ?_⟩
      rw [← named, ← whole, List.map_map]
      rfl
    · rw [iterArchiveLines_eq, List.map_map] at rows
      exact rows
    · rw [(file y member).novel hostname inside]
      rfl

end

/-! ## Rows that raise -/

theorem assignAnnual_key (bucket : Bucket) (s : Progress) : (assignAnnual p given year bucket s).previousKey = s.previousKey := by
  rw [assignAnnual]
  cases (s.cursor year).current with
  | none => rfl
  | some hostname => exact (nextAnnual_beside _ _).previousKey

theorem passOver_key (without : String → Bool) (n : Nat) (s : Progress) : (passOver p given year without n s).previousKey = s.previousKey := by
  induction n generalizing s with
  | zero => rfl
  | succ n ih =>
    rw [passOver]
    cases (s.cursor year).current with
    | none => rfl
    | some hostname =>
      dsimp only
      split
      · rw [ih, assignAnnual_key]
      · rfl

theorem matchCapsule_key (n : Nat) (c : Capsule) (validation : EvidenceSemanticValidation) (s : Progress) :
    (matchCapsule p given n c validation s).previousKey = some (key c) := by
  rw [matchCapsule]
  dsimp only
  generalize noted : (if validation.acceptedForAnnual then _ else _ : Progress) = t
  have here : t.previousKey = some (key c) := by
    rw [← noted]
    split <;> rfl
  split
  · split
    · rw [assignAnnual_key, passAll, passOver_key, here]
    · exact (passOver_key _ _ _).trans here
  · exact here

/-- The loop returns when no row that it comes to raises. -/
theorem evidenceLines_returns (n : Nat) (lines : List String) (s : Progress) :
    (∃ s', evidenceLines p given n lines s = .ok s') ↔ Readable p s.previousKey lines := by
  induction lines generalizing n s with
  | nil => exact ⟨fun _ => trivial, fun _ => ⟨s, rfl⟩⟩
  | cons raw rest ih =>
    rw [evidenceLines, Readable, evidenceLine]
    cases readRow p raw with
    | raises err => exact ⟨fun ⟨_, raised⟩ => (nomatch raised), False.elim⟩
    | refused complaint => exact ih (n + 1) (s.fail _)
    | capsule c =>
      dsimp only
      by_cases again : s.previousKey = some (key c)
      · rw [if_pos again, if_pos (by rw [again]; simp)]
        exact ih (n + 1) (s.fail _)
      rw [if_neg again]
      cases order : s.previousKey.filter (key c < ·) with
      | some previous =>
        obtain ⟨found, below⟩ := Option.filter_eq_some_iff.mp order
        rw [if_pos (by rw [found]; simpa using (of_decide_eq_true below).le)]
        exact ih (n + 1) (s.fail _)
      | none =>
        have above : s.previousKey.any (key c ≤ ·) = false := by
          cases last : s.previousKey with
          | none => rfl
          | some k =>
            rw [last] at again order
            have notAbove : ¬key c < k := by simpa using Option.filter_eq_none_iff.mp order k rfl
            exact decide_eq_false fun below => notAbove (lt_of_le_of_ne below fun same => again (by rw [same]))
        rw [above, if_neg Bool.false_ne_true, ← validation_raises p c given.reviewed]
        cases validated : validateEvidenceSemantics p c given.reviewed with
        | error err => exact ⟨fun ⟨_, raised⟩ => (nomatch raised), fun ⟨⟨_, raised⟩, _⟩ => (nomatch raised)⟩
        | ok validation =>
          have onward := ih (n + 1) (matchCapsule p given n c validation s)
          rw [matchCapsule_key] at onward
          exact onward.trans ⟨fun rest => ⟨⟨validation, rfl⟩, rest⟩, fun both => both.2⟩

/-! ## Soundness and completeness -/

section
variable {bundle : Bundle} {c : Contents}

theorem errorUnless_nil {holds : Bool} {error : String} : errorUnless holds error = [] ↔ holds := by
  cases holds <;> simp [errorUnless]

theorem sound_errors : given.Sound ↔ given.errors = [] ∧ 0 < given.baselineEed.value := by
  unfold Supply.errors
  constructor
  · rintro ⟨⟨index, opened⟩, ⟨weights, loaded⟩, model, positive⟩
    rw [opened, loaded, model]
    simp [errorUnless, positive]
  · rintro ⟨none_, positive⟩
    obtain ⟨first, model⟩ := List.append_eq_nil_iff.mp none_
    obtain ⟨baseline, weights⟩ := List.append_eq_nil_iff.mp first
    refine ⟨?_, ?_, ?_, positive⟩
    · cases opened : given.baseline with
      | ok index => exact ⟨index, rfl⟩
      | error text =>
        rw [opened] at baseline
        cases baseline
    · cases loaded : given.weights with
      | ok weights => exact ⟨weights, rfl⟩
      | error text =>
        rw [loaded] at weights
        cases weights
    · cases signature : given.modelSignature with
      | ok text =>
        rw [signature] at model
        exact congrArg Except.ok (of_decide_eq_true (errorUnless_nil.mp model))
      | error text =>
        rw [signature] at model
        cases model

theorem report_errors {s : Progress} : (report given s).errors = [] ↔
    Clean s ∧ (laneSum given s.laneCounts).value = (weightedEed given s.annualCounts).value ∧ 0 < given.baselineEed.value := by
  simp only [report, List.append_eq_nil_iff, errorUnless_nil, decide_eq_true_eq]
  exact ⟨fun ⟨⟨⟨⟨errors, missing⟩, overlap⟩, lanes⟩, positive⟩ => ⟨⟨errors, missing, overlap⟩, lanes, positive⟩,
    fun ⟨⟨errors, missing, overlap⟩, lanes, positive⟩ => ⟨⟨⟨⟨errors, missing⟩, overlap⟩, lanes⟩, positive⟩⟩

/-- The EED of counts that agree on the six years. -/
theorem weightedEed_congr {counts counts' : Int → Counts} (same : ∀ y ∈ years, counts y = counts' y) :
    weightedEed given counts = weightedEed given counts' := by
  unfold weightedEed
  rw [List.flatMap_congr fun y member => by rw [same y member]]

theorem Contract.totals {s : Progress} (contract : Contract p given bundle c) (tracks : Tracks p given (annualLines bundle) c.capsules s)
    (empty : ∀ y ∈ years, (s.cursor y).current = none) : Totals p given c (report given s) ∧
      weightedEed given s.annualCounts = eedOf p given c.hosts ∧
      laneSum given s.laneCounts = laneSum given fun bucket year => countsOf p (laneHosts p given c.capsules bucket year) := by
  have taken (y : Int) (member : y ∈ years) : hostsOf c.capsules y ++ (s.cursor y).current.toList = c.hosts y := by
    rw [empty y member, contract.hosts_eq member, Option.toList_none, List.append_nil]
  have eed : weightedEed given s.annualCounts = eedOf p given c.hosts := weightedEed_congr fun y member => by
    rw [(tracks.holds.files y member).counts, taken y member]
  have lanes : s.laneCounts = fun bucket year => countsOf p (laneHosts p given c.capsules bucket year) :=
    funext fun bucket => funext fun y => tracks.laneCounts bucket y
  refine ⟨⟨?_, tracks.evidence, congrArg Decimal.format eed, fun bucket => ?_⟩, eed, by rw [lanes]⟩
  · exact tracks.holds.records.trans (congrArg List.sum (List.map_congr_left fun y member => congrArg List.length (taken y member)))
  · simp only [report, lanes, eedOf, funext (tracks.laneRecords bucket)]

end

end

/-! ## Exact sums -/

section
variable {p : Python} {given : Supply}

end

/-! ## An infinite year -/

/-- Python, on texts of ASCII characters. -/
def plainPython : Python where
  lower text := text.map fun c => match c with
    | .char c => .char c.toLower
    | .surrogate offset => .surrogate offset
  repr _ := py "inf"
  refusesNetloc _ := false
  complaint _ := ""

/-- A record whose year is infinite. -/
def infiniteRecord : Json := .obj (dictOf [
  (py "hostname", .str (py "a.com")), (py "year", .float .infinity), (py "provider", .str (py "cdx")),
  (py "temporal_semantics", .str (py "t")), (py "evidence_timestamp", .str (py "1997")), (py "source_locator", .str (py "l")),
  (py "payload_hash", .str (py "h")), (py "policy_version", .str (py "v")), (py "evidence_type", .str (py "e")),
  (py "source_id", .str (py "s")), (py "original_url", .str (py "u")), (py "record_locator", .str (py "r")),
  (py "extraction_method", .str (py "m"))])

def infiniteLine : List UInt8 := (dumps infiniteRecord).map fun c => UInt8.ofNat c.toNat

/-- Six empty annual files, and the record as the only evidence. -/
def infiniteArchive : Bundle := fun name =>
  if name = "evidence.jsonl" then some infiniteLine else if name ∈ years.map fileName then some [] else none

def plainSupply : Supply where
  baseline := .ok ⟨.empty⟩
  weights := .ok fun _ => none
  modelSignature := .ok ""
  modelHash := ""
  baselineEed := .ofNat 1
  reviewed := none

theorem infiniteLine_raises : readRow plainPython (decodeLine infiniteLine) = .raises .overflowError := by
  have text : py (decodeLine infiniteLine) = dumps infiniteRecord := by
    rw [decodeLine, if_neg (by decide +kernel), decode, py, String.toList_ofList]
    decide +kernel
  have loaded : loadsText (dumps infiniteRecord) = some infiniteRecord := by
    rw [loadsText, if_neg (by decide +kernel), loads_dumps (by decide +kernel)]
  rw [readRow, text, loaded]
  rfl

end Creeper.SubmissionVerify
