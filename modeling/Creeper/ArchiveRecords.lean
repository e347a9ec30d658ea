import Creeper.EvidenceSemantics
import Creeper.IndexRegions

/-!
# Records of archive indexes

`sources/archive`: the captures that rows of CDX and CDXJ files record, and their reduction to
the years of each hostname.
-/

namespace Creeper.ArchiveRecords
open Creeper.PyText Creeper.JsonText Creeper.EvidenceSemantics
open Creeper.BatchPayload (member)
open Creeper.FabricModels (PyError)
open Creeper.IndexRegions (RegionSynopsis)
open scoped NNRat

/-! ## Rows -/

/-- Python, with the texts at which `json.loads` raises anything else than a `JSONDecodeError`. -/
structure Python extends EvidenceSemantics.Python where
  refusesJson : PyStr → Bool

/-- A `SourceRecord` of a capture. -/
structure SourceRecord where
  locator : String
  payload : PyStr
  sourceYear : Nat
  sourceTime : PyStr
  directYearMask : Nat

def targetYears : List Nat := [1996, 1997, 1998, 1999, 2000, 2001]

/-- `YEAR_BITS.get(year, 0)`. -/
def yearBit (year : Nat) : Nat := if year ∈ targetYears then 2 ^ (year - 1996) else 0

/-- The year that a timestamp begins with; nothing when it does not begin with four digits. -/
def leadingYear (timestamp : PyStr) : Except PyError (Option Nat) :=
  if timestamp.length < 4 || !(timestamp.take 4).all isDigitAt then .ok none
  else
    match (timestamp.take 4).mapM decimalDigit with
    | some digits => .ok (some (digits.foldl (fun n d => 10 * n + d) 0))
    | none => .error (.valueError "invalid literal for int() with base 10")

/-- A status of a capture that is a success or a redirect. -/
def eligible (status : PyStr) : Bool := status.head? = some (.char '2') || status.head? = some (.char '3')

/-- `line.strip().split()`. -/
def words (line : PyStr) : List PyStr := ((stripText line).splitOnP spaceAt).filter (· ≠ [])

/-- `parse_cdx_line`. -/
def parseCdxLine (locator : String) (line : PyStr) : Except PyError (Option SourceRecord) :=
  match words line with
  | _ :: timestamp :: original :: rest =>
    match leadingYear timestamp with
    | .error e => .error e
    | .ok none => .ok none
    | .ok (some year) =>
      if year ∉ targetYears then .ok none
      else if ¬py "://" <:+: original then .ok none
      else if !rest[1]?.all eligible then .ok none
      else .ok (some ⟨locator, original, year, timestamp, yearBit year⟩)
  | _ => .ok none

/-- What stands before a character, and behind it. -/
def cut (c : CodePoint) (text : PyStr) : Option (PyStr × PyStr) :=
  match text.dropWhile (· ≠ c) with
  | [] => none
  | _ :: rest => some (text.takeWhile (· ≠ c), rest)

/-- `line.rstrip("\r\n")`. -/
def withoutBreaks (line : PyStr) : PyStr := (line.reverse.dropWhile fun c => c = .char '\r' || c = .char '\n').reverse

/-- The timestamp and the object of a CDXJ row: `split(" ", 2)`, less its first field. -/
def cdxjFields (line : PyStr) : Option (PyStr × PyStr) := (cut (.char ' ') (withoutBreaks line)).bind fun (_, rest) => cut (.char ' ') rest

/-- The URL of the object of a CDXJ row, when its status is none or eligible. -/
def Python.cdxjUrl (p : Python) (payload : Json) : Option PyStr :=
  match member payload "url" with
  | some (.str url) =>
    if stripText url = [] then none
    else
      match member payload "status" with
      | none | some .null => some (stripText url)
      | some status => if eligible (stripText (p.str status)) then some (stripText url) else none
  | _ => none

/-- `parse_cdxj_line`. -/
def Python.parseCdxjLine (p : Python) (locator : String) (line : PyStr) : Except PyError (Option SourceRecord) :=
  match cdxjFields line with
  | none => .ok none
  | some (timestamp, body) =>
    if timestamp.length < 4 || !(timestamp.take 4).all isDigitAt then .ok none
    else if p.refusesJson body then .error (.valueError "json.loads")
    else
      match (loads body).bind p.cdxjUrl with
      | none => .ok none
      | some url =>
        match leadingYear timestamp with
        | .error e => .error e
        | .ok none => .ok none
        | .ok (some year) => .ok (some ⟨locator, url, year, timestamp, yearBit year⟩)

def Python.parseLine (p : Python) (format : String) (locator : String) (line : PyStr) : Except PyError (Option SourceRecord) :=
  if format = "CDX" then parseCdxLine locator line else p.parseCdxjLine locator line

/-- `_hostname_from_record`. -/
def Python.hostnameFromRecord (p : Python) (record : SourceRecord) : Except PyError (Option String) :=
  let payload := stripText record.payload
  if payload = [] then .ok none
  else if py "://" <:+: payload || py "//" <+: payload then
    let url := if py "//" <+: payload then py "http:" ++ payload else payload
    match p.urlHost url with
    | none => .error (.valueError (p.complaint url))
    | some host => .ok (p.normalizeOfficial (host.getD []))
  else .ok (p.normalizeOfficial payload)

/-! ## Reduction -/

/-- `HostYearMask`. -/
structure HostYearMask where
  hostname : String
  yearMask : Nat
  captureCount : Nat
  firstLocator : String
  lastLocator : String

/-- The checks of a `HostYearMask`. -/
def Python.checkMask (p : Python) (m : HostYearMask) : Except PyError HostYearMask :=
  if p.normalizeOfficial (py m.hostname) ≠ some m.hostname then .error (.valueError "hostname must be official-normalized")
  else if m.yearMask = 0 || 64 ≤ m.yearMask then .error (.valueError "year_mask must contain only target-year bits")
  else if m.captureCount < 1 then .error (.valueError "capture_count must be positive")
  else if m.firstLocator = "" || m.lastLocator = "" then .error (.valueError "source and locator provenance are required")
  else .ok m

/-- The state of a `ContiguousHostYearReducer`; the fields of the mask say nothing while there is no hostname. -/
structure Reducer where
  current : Option HostYearMask

/-- `_emit`. -/
def Python.emit (p : Python) (r : Reducer) : Except PyError (Option HostYearMask) :=
  match r.current with
  | none => .ok none
  | some m => if m.yearMask = 0 then .ok none else (p.checkMask m).map some

/-- `feed`, of all target years. -/
def Python.feed (p : Python) (r : Reducer) (record : SourceRecord) : Except PyError (Reducer × Option HostYearMask) :=
  match p.hostnameFromRecord record with
  | .error e => .error e
  | .ok none => .ok (r, none)
  | .ok (some hostname) =>
    let bit := yearBit record.sourceYear
    if bit = 0 then .ok (r, none)
    else
      let started : Reducer := ⟨some ⟨hostname, bit, 1, record.locator, record.locator⟩⟩
      match r.current with
      | none => .ok (started, none)
      | some m =>
        if m.hostname = hostname then
          .ok (⟨some { m with yearMask := m.yearMask ||| bit, captureCount := m.captureCount + 1, lastLocator := record.locator }⟩, none)
        else (p.emit r).map fun emitted => (started, emitted)

/-- `iter_cdx_host_year_masks`, from some line on. -/
def Python.reduceLines (p : Python) (format locatorPrefix : String) : Nat → Reducer → List PyStr → Except PyError (List HostYearMask)
  | _, r, [] => (p.emit r).map Option.toList
  | n, r, line :: rest =>
    match p.parseLine format (locatorPrefix ++ ":" ++ toString n) line with
    | .error e => .error e
    | .ok none => p.reduceLines format locatorPrefix (n + 1) r rest
    | .ok (some record) =>
      match p.feed r record with
      | .error e => .error e
      | .ok (r, emitted) => (p.reduceLines format locatorPrefix (n + 1) r rest).map (emitted.toList ++ ·)

/-- `iter_cdx_host_year_masks`. -/
def Python.iterCdxHostYearMasks (p : Python) (format locatorPrefix : String) (lines : List PyStr) : Except PyError (List HostYearMask) :=
  p.reduceLines format locatorPrefix 1 ⟨none⟩ lines

/-- One value into the masks merged so far. -/
def Python.mergeMask (p : Python) (merged : List HostYearMask) (value : HostYearMask) : Except PyError (List HostYearMask) :=
  match merged.find? (·.hostname = value.hostname) with
  | none => .ok (merged ++ [value])
  | some existing =>
    (p.checkMask ⟨value.hostname, existing.yearMask ||| value.yearMask, existing.captureCount + value.captureCount, existing.firstLocator,
      value.lastLocator⟩).map fun union => merged.map fun m => if m.hostname = value.hostname then union else m

/-- `_merge_host_masks`. -/
def Python.mergeHostMasks (p : Python) (values : List HostYearMask) : Except PyError (List HostYearMask) :=
  (values.foldlM p.mergeMask []).map (List.insertionSort fun a b => a.hostname ≤ b.hostname)

/-! ## Synopsis -/

def yearsOf (mask : Nat) : List Nat := targetYears.filter fun year => mask.testBit (year - 1996)

/-- `novel_year_mask`. -/
def novelYearMask (evidence baseline : Nat) : Nat := Nat.ldiff evidence baseline &&& 63

def topLevel (hostname : String) : String := String.ofList ((hostname.toList.splitOn '.').getLastD [])

theorem yearsOf_novel (mask baseline : Nat) :
    yearsOf (novelYearMask mask baseline) = (yearsOf mask).filter fun year => !baseline.testBit (year - 1996) := by
  unfold yearsOf
  rw [List.filter_filter]
  refine List.filter_congr fun year target => ?_
  have small : (63 : Nat).testBit (year - 1996) := by
    revert year
    decide
  rw [novelYearMask, Nat.testBit_and, small, Nat.testBit_ldiff, Bool.and_true, Bool.and_comm]

/-- `summarize_region`, of an annual baseline. -/
def summarizeRegion (values : List HostYearMask) (baseline : String → Nat) (weights : String → ℚ≥0) (regionKey : String)
    (bytesRead requests : Nat) (confidence : ℚ≥0) (bounded : confidence ≤ 1) (complete : Bool) : RegionSynopsis where
  regionKey := regionKey
  uniqueHosts := values.length
  novelHosts := (values.filter fun m => novelYearMask m.yearMask (baseline m.hostname) ≠ 0).length
  observedHostYearPairs := (values.map fun m => (yearsOf m.yearMask).length).sum
  novelHostYearPairs := (values.map fun m => (yearsOf (novelYearMask m.yearMask (baseline m.hostname))).length).sum
  novelEed := (values.map fun m => (yearsOf (novelYearMask m.yearMask (baseline m.hostname))).length * weights (topLevel m.hostname)).sum
  bytesRead := bytesRead
  requests := requests
  measurementMode := .hostYear
  confidence := confidence
  complete := complete
  novelHosts_le := List.length_filter_le _ _
  novelPairs_le := by
    refine List.sum_le_sum fun m _ => ?_
    rw [yearsOf_novel]
    exact List.length_filter_le _ _
  confidence_le := bounded

/-! ## Host-years -/

/-- The host-year of a record. -/
def Python.pairOf (p : Python) (record : SourceRecord) : Option (String × Nat) :=
  match p.hostnameFromRecord record with
  | .ok (some hostname) => if record.sourceYear ∈ targetYears then some (hostname, record.sourceYear) else none
  | _ => none

/-- The host-year that a line proves. -/
def Python.linePair (p : Python) (format : String) (line : PyStr) : Option (String × Nat) :=
  match p.parseLine format "" line with
  | .ok (some record) => p.pairOf record
  | _ => none

def Shows (m : HostYearMask) (x : String × Nat) : Prop := m.hostname = x.1 ∧ x.2 ∈ yearsOf m.yearMask

def pairsOf (masks : List HostYearMask) : List (String × Nat) := masks.flatMap fun m => (yearsOf m.yearMask).map (m.hostname, ·)

theorem mem_pairsOf (masks : List HostYearMask) (x : String × Nat) : x ∈ pairsOf masks ↔ ∃ m ∈ masks, Shows m x := by
  simp only [pairsOf, List.mem_flatMap, List.mem_map, Shows]
  constructor
  · rintro ⟨m, member, year, inside, rfl⟩
    exact ⟨m, member, rfl, inside⟩
  · rintro ⟨m, member, same, inside⟩
    exact ⟨m, member, x.2, inside, by rw [same]⟩

theorem yearsOf_or (a b : Nat) (year : Nat) : year ∈ yearsOf (a ||| b) ↔ year ∈ yearsOf a ∨ year ∈ yearsOf b := by
  simp only [yearsOf, List.mem_filter, Nat.testBit_or, Bool.or_eq_true, and_or_left]

theorem yearsOf_yearBit (year other : Nat) (target : other ∈ targetYears) : year ∈ yearsOf (yearBit other) ↔ year = other := by
  have all : ∀ other ∈ targetYears, yearsOf (yearBit other) = [other] := by decide
  rw [all other target, List.mem_singleton]

theorem yearBit_zero (year : Nat) : yearBit year = 0 ↔ year ∉ targetYears := by
  unfold yearBit
  split_ifs with target
  · simp [target]
  · simp [target]

theorem parseLine_locator (p : Python) (format locator : String) (line : PyStr) :
    p.parseLine format locator line = (p.parseLine format "" line).map (Option.map fun record => { record with locator := locator }) := by
  unfold Python.parseLine
  split_ifs
  · unfold parseCdxLine
    split
    · split
      · rfl
      · rfl
      · split_ifs <;> rfl
    · rfl
  · unfold Python.parseCdxjLine
    split
    · rfl
    · split_ifs
      · rfl
      · rfl
      · split
        · rfl
        · split <;> rfl

theorem checkMask_ok {p : Python} {m m' : HostYearMask} (ok : p.checkMask m = .ok m') : m' = m := by
  unfold Python.checkMask at ok
  split_ifs at ok
  cases ok
  rfl

theorem emit_shows {p : Python} {r : Reducer} {emitted : Option HostYearMask} (ok : p.emit r = .ok emitted) (x : String × Nat) :
    (∃ m ∈ emitted, Shows m x) ↔ ∃ m ∈ r.current, Shows m x := by
  unfold Python.emit at ok
  cases current : r.current with
  | none =>
    rw [current] at ok
    cases ok
    rfl
  | some m =>
    rw [current] at ok
    dsimp only at ok
    by_cases empty : m.yearMask = 0
    · rw [if_pos empty] at ok
      cases ok
      simp [Shows, empty, yearsOf]
    · rw [if_neg empty] at ok
      cases checked : p.checkMask m with
      | error e =>
        rw [checked] at ok
        cases ok
      | ok m' =>
        rw [checked, checkMask_ok checked] at ok
        cases ok
        rfl

theorem feed_shows {p : Python} {r r' : Reducer} {record : SourceRecord} {emitted : Option HostYearMask}
    (ok : p.feed r record = .ok (r', emitted)) (x : String × Nat) :
    ((∃ m ∈ emitted, Shows m x) ∨ ∃ m ∈ r'.current, Shows m x) ↔ (∃ m ∈ r.current, Shows m x) ∨ p.pairOf record = some x := by
  unfold Python.feed at ok
  unfold Python.pairOf
  cases host : p.hostnameFromRecord record with
  | error e =>
    rw [host] at ok
    cases ok
  | ok found =>
    rw [host] at ok
    cases found with
    | none =>
      cases ok
      simp
    | some hostname =>
      dsimp only at ok ⊢
      by_cases target : record.sourceYear ∈ targetYears
      · rw [if_neg (mt (yearBit_zero _).mp (not_not.mpr target))] at ok
        rw [if_pos target, Option.some.injEq]
        have new (m : HostYearMask) (same : m.hostname = hostname) :
            Shows { m with yearMask := yearBit record.sourceYear } x ↔ (hostname, record.sourceYear) = x := by
          rw [Shows, yearsOf_yearBit _ _ target, Prod.ext_iff, same]
          exact and_congr_right fun _ => eq_comm
        cases current : r.current with
        | none =>
          rw [current] at ok
          cases ok
          have started := new ⟨hostname, 0, 1, record.locator, record.locator⟩ rfl
          simpa using started
        | some m =>
          rw [current] at ok
          dsimp only at ok
          by_cases same : m.hostname = hostname
          · rw [if_pos same] at ok
            cases ok
            have more := new m same
            simp only [Shows] at more
            simp only [Option.mem_def, reduceCtorEq, false_and, exists_false, false_or, Option.some.injEq, exists_eq_left', Shows, yearsOf_or,
              and_or_left, more]
          · rw [if_neg same] at ok
            cases last : p.emit r with
            | error e =>
              rw [last] at ok
              cases ok
            | ok emitted' =>
              rw [last] at ok
              cases ok
              have before := emit_shows last x
              rw [current] at before
              rw [before]
              have started := new ⟨hostname, 0, 1, record.locator, record.locator⟩ rfl
              simpa using or_congr_right started
      · rw [if_pos ((yearBit_zero _).mpr target)] at ok
        cases ok
        rw [if_neg target]
        simp

/-- The masks of lines have the host-years that the lines prove. -/
theorem reduceLines_shows {p : Python} {format locatorPrefix : String} {n : Nat} {r : Reducer} {lines : List PyStr}
    {masks : List HostYearMask} (ok : p.reduceLines format locatorPrefix n r lines = .ok masks) (x : String × Nat) :
    (∃ m ∈ masks, Shows m x) ↔ (∃ m ∈ r.current, Shows m x) ∨ x ∈ lines.filterMap (p.linePair format) := by
  induction lines generalizing n r masks with
  | nil =>
    rw [Python.reduceLines] at ok
    cases last : p.emit r with
    | error e =>
      rw [last] at ok
      cases ok
    | ok emitted =>
      rw [last] at ok
      cases ok
      rw [← emit_shows last]
      simp
  | cons line rest ih =>
    rw [Python.reduceLines, parseLine_locator] at ok
    cases parsed : p.parseLine format "" line with
    | error e =>
      rw [parsed] at ok
      cases ok
    | ok found =>
      rw [parsed] at ok
      cases found with
      | none =>
        have none_ : p.linePair format line = none := by
          rw [Python.linePair, parsed]
        rw [ih ok, List.filterMap_cons_none none_]
      | some record =>
        have pair : p.linePair format line = p.pairOf record := by
          rw [Python.linePair, parsed]
        dsimp only [Except.map, Option.map] at ok
        cases fed : p.feed r { record with locator := locatorPrefix ++ ":" ++ toString n } with
        | error e =>
          rw [fed] at ok
          cases ok
        | ok next =>
          rw [fed] at ok
          dsimp only at ok
          cases later : p.reduceLines format locatorPrefix (n + 1) next.1 rest with
          | error e =>
            rw [later] at ok
            cases ok
          | ok more =>
            rw [later] at ok
            cases ok
            have here := feed_shows fed x
            have behind := ih later
            have sameRecord : p.pairOf { record with locator := locatorPrefix ++ ":" ++ toString n } = p.pairOf record := rfl
            rw [sameRecord, ← pair] at here
            have first : (∃ m ∈ next.2.toList ++ more, Shows m x) ↔ (∃ m ∈ next.2, Shows m x) ∨ ∃ m ∈ more, Shows m x := by
              simp only [List.mem_append, Option.mem_toList, or_and_right, exists_or, Option.mem_def]
            have member : x ∈ (line :: rest).filterMap (p.linePair format) ↔
                p.linePair format line = some x ∨ x ∈ rest.filterMap (p.linePair format) := by
              rw [List.mem_filterMap, List.exists_mem_cons_iff, List.mem_filterMap]
            rw [first, behind, ← or_assoc, here, member, or_assoc]

theorem mergeMask_shows {p : Python} {merged merged' : List HostYearMask} {value : HostYearMask}
    (ok : p.mergeMask merged value = .ok merged') (single : (merged.map (·.hostname)).Nodup) :
    (merged'.map (·.hostname)).Nodup ∧ ∀ x, (∃ m ∈ merged', Shows m x) ↔ (∃ m ∈ merged, Shows m x) ∨ Shows value x := by
  unfold Python.mergeMask at ok
  cases found : merged.find? (·.hostname = value.hostname) with
  | none =>
    rw [found] at ok
    cases ok
    have fresh := List.find?_eq_none.mp found
    constructor
    · rw [List.map_append, List.nodup_append]
      refine ⟨single, List.nodup_singleton _, ?_⟩
      simp only [List.mem_map, List.map_cons, List.map_nil, List.mem_singleton]
      rintro _ ⟨m, member, rfl⟩ _ rfl same
      exact fresh m member (decide_eq_true same)
    · intro x
      simp only [List.mem_append, List.mem_singleton, or_and_right, exists_or, exists_eq_left]
  | some existing =>
    rw [found] at ok
    have here := List.mem_of_find?_eq_some found
    have host : existing.hostname = value.hostname := by simpa using List.find?_some found
    dsimp only at ok
    generalize isUnion : HostYearMask.mk value.hostname (existing.yearMask ||| value.yearMask) (existing.captureCount + value.captureCount)
      existing.firstLocator value.lastLocator = union at ok
    cases checked : p.checkMask union with
    | error e =>
      rw [checked] at ok
      cases ok
    | ok union' =>
      rw [checked, checkMask_ok checked] at ok
      cases ok
      have unionHost : union.hostname = value.hostname := by rw [← isUnion]
      constructor
      · have names : (merged.map fun m => if m.hostname = value.hostname then union else m).map (·.hostname) = merged.map (·.hostname) := by
          rw [List.map_map]
          refine List.map_congr_left fun m _ => ?_
          rw [Function.comp_apply]
          split_ifs with same
          · rw [unionHost, same]
          · rfl
        rw [names]
        exact single
      · intro x
        have both : Shows union x ↔ Shows existing x ∨ Shows value x := by
          rw [← isUnion]
          simp only [Shows, yearsOf_or, host, and_or_left]
        have only (m : HostYearMask) (member : m ∈ merged) (same : m.hostname = value.hostname) : m = existing :=
          List.inj_on_of_nodup_map single member here (same.trans host.symm)
        constructor
        · rintro ⟨_, member, shows⟩
          obtain ⟨m, inside, rfl⟩ := List.mem_map.mp member
          split_ifs at shows with same
          · rcases both.mp shows with old | new
            · exact .inl ⟨existing, here, old⟩
            · exact .inr new
          · exact .inl ⟨m, inside, shows⟩
        · have united : union ∈ merged.map fun m => if m.hostname = value.hostname then union else m :=
            List.mem_map.mpr ⟨existing, here, if_pos host⟩
          rintro (⟨m, inside, shows⟩ | shows)
          · by_cases same : m.hostname = value.hostname
            · rw [only m inside same] at shows
              exact ⟨union, united, both.mpr (.inl shows)⟩
            · exact ⟨m, List.mem_map.mpr ⟨m, inside, if_neg same⟩, shows⟩
          · exact ⟨union, united, both.mpr (.inr shows)⟩

theorem mergeMasks_shows {p : Python} (values : List HostYearMask) {merged merged' : List HostYearMask}
    (ok : values.foldlM p.mergeMask merged = .ok merged') (single : (merged.map (·.hostname)).Nodup) :
    (merged'.map (·.hostname)).Nodup ∧ ∀ x, (∃ m ∈ merged', Shows m x) ↔ (∃ m ∈ merged, Shows m x) ∨ ∃ m ∈ values, Shows m x := by
  induction values generalizing merged with
  | nil =>
    cases ok
    exact ⟨single, by simp⟩
  | cons value rest ih =>
    rw [List.foldlM_cons] at ok
    cases first : p.mergeMask merged value with
    | error e =>
      rw [first] at ok
      cases ok
    | ok next =>
      rw [first] at ok
      obtain ⟨nextSingle, shown⟩ := mergeMask_shows first single
      obtain ⟨lastSingle, all⟩ := ih ok nextSingle
      refine ⟨lastSingle, fun x => ?_⟩
      rw [all, shown, List.exists_mem_cons_iff, or_assoc]

theorem mergeHostMasks_shows {p : Python} {values merged : List HostYearMask} (ok : p.mergeHostMasks values = .ok merged) :
    (pairsOf merged).Nodup ∧ ∀ x, x ∈ pairsOf merged ↔ ∃ m ∈ values, Shows m x := by
  unfold Python.mergeHostMasks at ok
  cases folded : values.foldlM p.mergeMask [] with
  | error e =>
    rw [folded] at ok
    cases ok
  | ok unsorted =>
    rw [folded] at ok
    cases ok
    obtain ⟨single, shown⟩ := mergeMasks_shows values folded List.nodup_nil
    have sorted := List.perm_insertionSort (fun a b : HostYearMask => a.hostname ≤ b.hostname) unsorted
    have names : ((unsorted.insertionSort fun a b => a.hostname ≤ b.hostname).map (·.hostname)).Nodup :=
      (sorted.map _).nodup_iff.mpr single
    constructor
    · unfold pairsOf
      rw [List.nodup_flatMap]
      constructor
      · intro m _
        refine List.Nodup.map (fun a b same => congrArg Prod.snd same) ?_
        exact List.Nodup.filter _ (by decide)
      · refine (List.pairwise_map.mp names).imp fun {a b} other => ?_
        rw [Function.onFun, List.disjoint_left]
        intro x first second
        obtain ⟨_, _, rfl⟩ := List.mem_map.mp first
        obtain ⟨_, _, same⟩ := List.mem_map.mp second
        exact other (congrArg Prod.fst same).symm
    · intro x
      rw [mem_pairsOf]
      simp only [sorted.mem_iff]
      rw [shown]
      simp

theorem observed_pairs (values : List HostYearMask) : (values.map fun m => (yearsOf m.yearMask).length).sum = (pairsOf values).length := by
  simp [pairsOf, List.length_flatMap]

theorem novel_pairs (values : List HostYearMask) (baseline : String → Nat) :
    (values.map fun m => (yearsOf (novelYearMask m.yearMask (baseline m.hostname))).length).sum =
      ((pairsOf values).filter fun x => !(baseline x.1).testBit (x.2 - 1996)).length := by
  induction values with
  | nil => rfl
  | cons m rest ih =>
    have here : pairsOf (m :: rest) = (yearsOf m.yearMask).map (m.hostname, ·) ++ pairsOf rest := List.flatMap_cons
    rw [List.map_cons, List.sum_cons, ih, yearsOf_novel, here, List.filter_append, List.length_append, List.filter_map, List.length_map]
    rfl

end Creeper.ArchiveRecords
