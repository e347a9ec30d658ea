import Creeper.IndexRows
import Creeper.ArchiveRecords
import Creeper.RegionTomography

/-!
# Probes and harvests of a region

`source_discovery/region_probe.py` and the local harvest of `source_discovery/harvest.py`: both
read rows of one CDX or CDXJ file. The content of the file stays as it is.
-/

namespace Creeper.RegionProbes
open Creeper.PyText Creeper.PyNumbers Creeper.IndexRows Creeper.ArchiveRecords Creeper.ArchiveLines
open Creeper.FabricModels (PyError)
open Creeper.IndexRegions (SourceIndexSpec HarvestRegion RegionSynopsis sampleIndex)
open Creeper.RegionHarvest (ByteRange)
open Creeper.RegionTomography (normalizedRegion samplePolicy)
open scoped NNRat

/-! ## Probes -/

structure RegionProbePolicy where
  maxSampleBytes : Nat
  sampleWindows : Nat
  sample_pos : 1 ≤ maxSampleBytes
  windows_pos : 1 ≤ sampleWindows

structure SampledByteRange where
  start : Nat
  last : Nat
  bytesRead : Nat
  deriving DecidableEq, Repr

structure RegionProbeResult where
  region : HarvestRegion
  synopsis : RegionSynopsis
  sampledRanges : List SampledByteRange

/-- `_trim_complete_lines`. -/
def trimCompleteLines (payload : List UInt8) (start last objectEnd : Nat) : List UInt8 :=
  let view := if 0 < start then afterNewline payload else payload
  if last < objectEnd then throughNewline view else view

/-- `_read_range`: the bytes from a first to a last one, less incomplete lines. -/
def readRange (content : List UInt8) (start last : Nat) : List UInt8 :=
  let payload := (content.drop start).take (last - start + 1)
  trimCompleteLines payload start (start + (payload.length - 1)) (content.length - 1)

/-- `_window_ranges`: first and last bytes. -/
def windowRanges (start last budget windows : Nat) : List (Nat × Nat) :=
  let regionSize := last - start + 1
  if regionSize ≤ budget then [(start, last)]
  else
    let windows := min windows (min budget regionSize)
    let perWindow := max 1 (budget / windows)
    let maxStart := max start (last + 1 - perWindow)
    let offset (i : Nat) : Nat :=
      if windows = 1 then start else (roundHalfEven (start + ((maxStart - start : Nat) * i : ℚ) / (windows - 1 : Nat))).toNat
    let starts := ((List.range windows).map offset).foldl (fun starts offset => if offset ∈ starts then starts else starts ++ [offset]) []
    starts.map fun offset => (offset, min last (offset + perWindow - 1))

def textOf (chars : List Char) : PyStr := chars.map .char

def windowMasks (p : Python) (index : SourceIndexSpec) (content : List UInt8) (window : Nat × Nat) : Except PyError (List HostYearMask) :=
  let payload := readRange content window.1 window.2
  if payload = [] then .ok []
  else
    p.iterCdxHostYearMasks index.capabilities.format (s!"{index.locator}:bytes={window.1}-{window.2}")
      ((splitlines (decodeFrom none payload)).map textOf)

def sampledMasks (p : Python) (index : SourceIndexSpec) (content : List UInt8) : List (Nat × Nat) → Except PyError (List HostYearMask)
  | [] => .ok []
  | window :: rest =>
    match windowMasks p index content window with
    | .error e => .error e
    | .ok masks => (sampledMasks p index content rest).map (masks ++ ·)

def sampledWindows (policy : RegionProbePolicy) (range : ByteRange) : List (Nat × Nat) :=
  let start := range.byteStart.toNat
  let last := range.byteEnd.toNat
  windowRanges start last (min policy.maxSampleBytes (last - start + 1)) policy.sampleWindows

/-- `probe`, of an object with some content: `metadataRequests` are those that asked for its size. -/
def probe (p : Python) (policy : RegionProbePolicy) (baseline : String → Nat) (weights : String → ℚ≥0) (index : SourceIndexSpec)
    (content : List UInt8) (remote : Bool) (metadataRequests : Nat) (region : HarvestRegion) : Except PyError RegionProbeResult :=
  if index.capabilities.format ≠ "CDX" ∧ index.capabilities.format ≠ "CDXJ" then
    .error (.valueError ("region tomography currently requires CDX/CDXJ, got " ++ index.capabilities.format))
  else if region.indexKey ≠ index.indexKey then .error (.valueError "region does not belong to supplied index")
  else if content = [] then .error (.valueError "cannot probe an empty historical index")
  else
    match (normalizedRegion region content.length).bind fun normal => normal.bytes.map (normal, ·) with
    | none => .error (.valueError "region starts beyond end of source")
    | some (normal, range) =>
      let start := range.byteStart.toNat
      let last := range.byteEnd.toNat
      let regionSize := last - start + 1
      let ranges := sampledWindows policy range
      match sampledMasks p index content ranges with
      | .error e => .error e
      | .ok masks =>
        match p.mergeHostMasks masks with
        | .error e => .error e
        | .ok merged =>
          let sampled := ranges.map fun window => SampledByteRange.mk window.1 window.2 (window.2 - window.1 + 1)
          let bytesRead := (sampled.map (·.bytesRead)).sum
          let requests := metadataRequests + if remote then ranges.length else 0
          .ok {
            region := normal
            synopsis := summarizeRegion merged baseline weights normal.regionKey bytesRead requests (min 1 (bytesRead / max 1 regionSize))
              (min_le_left _ _) (ranges = [(start, last)])
            sampledRanges := sampled }

/-! ## Harvests -/

/-- `readline()`. -/
def firstLine : List UInt8 → List UInt8
  | [] => []
  | b :: rest => if b = 10 then [b] else b :: firstLine rest

/-- `readline(limit)`. -/
def readline (limit : Nat) (rest : List UInt8) : List UInt8 := (firstLine rest).take limit

/-- `_parse_region_record`. -/
def parseRegionRecord (p : Python) (index : SourceIndexSpec) (lineStart : Nat) (raw : List UInt8) : Except PyError (Option SourceRecord) :=
  p.parseLine index.capabilities.format (s!"{index.locator}:byte:{lineStart}") (textOf (withoutEnd (decodeFrom none raw)))

/-- What a harvest works with: its index, the end of its region, the bounds of a record and of a lease, and
    what the clock says at each of its checks. -/
structure Lease where
  index : SourceIndexSpec
  endExclusive : Nat
  boundaryRecordMaxBytes : Nat
  maxRecords : Nat
  late : Nat → Bool

/-- The loop of `_execute_local_region`: what it emitted, where it is, and whether it stopped early. Every
    line takes a byte, so that the bytes that are left bound the rounds. -/
def harvestLoop (p : Python) (lease : Lease) (size : Nat) :
    Nat → Nat → Nat → List UInt8 → List SourceRecord → Except PyError (List SourceRecord × Nat × Bool)
  | 0, _, cursor, _, emitted => .ok (emitted, cursor, false)
  | fuel + 1, check, cursor, rest, emitted =>
    if lease.endExclusive ≤ cursor then .ok (emitted, cursor, false)
    else if lease.late check then .ok (emitted, cursor, true)
    else
      let raw := readline (lease.boundaryRecordMaxBytes + 1) rest
      if raw = [] then .ok (emitted, size, false)
      else
        let next := cursor + raw.length
        if lease.boundaryRecordMaxBytes < raw.length then
          .error (.valueError "CDX/CDXJ record crossing a region boundary exceeds boundary_record_max_bytes")
        else if raw.getLast? ≠ some 10 ∧ next < size then
          .error (.valueError "bounded local read ended before a complete CDX/CDXJ record")
        else
          match parseRegionRecord p lease.index cursor raw with
          | .error e => .error e
          | .ok found =>
            let emitted := emitted ++ found.toList
            if lease.maxRecords ≤ emitted.length || lease.late (check + 1) then .ok (emitted, next, next < lease.endExclusive)
            else harvestLoop p lease size fuel (check + 2) next (rest.drop raw.length) emitted

/-- What a harvest makes of the result of its loop. -/
def finished (lease : Lease) (result : List SourceRecord × Nat × Bool) : List SourceRecord × Option Nat :=
  (result.1, if result.2.2 && result.2.1 < lease.endExclusive then some result.2.1 else none)

/-- `_execute_local_region` from some byte on: the records that it emits, and the next cursor. -/
def executeLocalRegion (p : Python) (lease : Lease) (content : List UInt8) (start : Nat) : Except PyError (List SourceRecord × Option Nat) :=
  if lease.endExclusive ≤ start then .ok ([], none)
  else if content.length < lease.endExclusive then .error (.valueError "local source is shorter than the selected region")
  else if start = 0 || content[start - 1]? = some 10 then (harvestLoop p lease content.length (content.length + 1) 0 start (content.drop start) []).map (finished lease)
  else
    let skipped := readline (lease.endExclusive - start) (content.drop start)
    if skipped.getLast? ≠ some 10 then .ok ([], none)
    else
      (harvestLoop p lease content.length (content.length + 1) 0 (start + skipped.length) (content.drop (start + skipped.length)) []).map (finished lease)

/-! ## Rows of a region -/

/-- The rows whose first bytes lie in a region. -/
def ownedRows (content : List UInt8) (start last : Nat) : List (Nat × List UInt8) :=
  (located 0 (rows content)).filter fun row => start ≤ row.1 ∧ row.1 ≤ last

/-- The rows that lie in a region whole, less one at its very start. -/
def innerRows (content : List UInt8) (start last : Nat) : List (Nat × List UInt8) :=
  (ownedRows content start last).filter fun row => (start = 0 ∨ start < row.1) ∧ row.1 + row.2.length ≤ last + 1

/-- The host-year that a harvest finds in a row. -/
def rowPair (p : Python) (format : String) (row : List UInt8) : Option (String × Nat) :=
  p.linePair format (textOf (withoutEnd (decodeFrom none row)))

/-- A host-year of the annual baseline. -/
def InBaseline (baseline : String → Nat) (x : String × Nat) : Prop := (baseline x.1).testBit (x.2 - 1996) = true

instance (baseline : String → Nat) : DecidablePred (InBaseline baseline) := fun _ => inferInstanceAs (Decidable (_ = true))

theorem row_some {rs : List (List UInt8)} (rowed : Rowed rs) : ∀ row ∈ rs, row ≠ [] := by
  induction rowed with
  | nil => exact fun row member => absurd member List.not_mem_nil
  | last some_ plain => exact fun row member => by rwa [List.mem_singleton.mp member]
  | cons plain rest ih =>
    intro row member
    rcases List.mem_cons.mp member with rfl | later
    · exact List.append_ne_nil_of_right_ne_nil _ (List.cons_ne_nil _ _)
    · exact ih row later

theorem located_some {content : List UInt8} {row : Nat × List UInt8} (member : row ∈ located 0 (rows content)) : 0 < row.2.length := by
  have inside : row.2 ∈ rows content := by
    rw [← located_rows 0 (rows content)]
    exact List.mem_map_of_mem member
  exact List.length_pos_of_ne_nil (row_some (rows_rowed content) _ inside)

theorem innerRows_eq (content : List UInt8) (start last : Nat) :
    innerRows content start last = (located 0 (rows content)).filter fun row => (start = 0 ∨ start < row.1) ∧ row.1 + row.2.length ≤ last + 1 := by
  rw [innerRows, ownedRows, List.filter_filter]
  refine List.filter_congr fun row member => ?_
  have some_ := located_some member
  rw [← Bool.decide_and, decide_eq_decide]
  constructor
  · exact fun both => both.1
  · exact fun inner => ⟨inner, by omega, by omega⟩

/-- The rows, from some offset on, that end before a position. -/
theorem whole_until {rs : List (List UInt8)} (rowed : Rowed rs) (offset bound : Nat) :
    (located offset rs).filter (fun row => row.1 + row.2.length ≤ bound) = located offset (whole (bound - offset) rs) := by
  by_cases inside : offset ≤ bound
  · rw [← whole_located, Nat.add_sub_cancel' inside]
  · rw [Nat.sub_eq_zero_of_le (by omega)]
    cases rs with
    | nil => rfl
    | cons row more =>
      have some_ := List.length_pos_of_ne_nil (row_some rowed row List.mem_cons_self)
      rw [whole, if_neg (by omega), located, List.filter_eq_nil_iff]
      intro r member
      have behind := located_behind member
      have start : offset ≤ r.1 := by
        rcases List.mem_cons.mp member with rfl | later
        · exact le_rfl
        · exact le_trans (Nat.le_add_right _ _) (located_behind later)
      simp only [decide_eq_true_eq]
      omega

theorem flatten_some {rs : List (List UInt8)} (rowed : Rowed rs) (some_ : rs ≠ []) : 0 < rs.flatten.length := by
  obtain ⟨row, more, rfl⟩ := List.exists_cons_of_ne_nil some_
  have := List.length_pos_of_ne_nil (row_some rowed row List.mem_cons_self)
  rw [List.flatten_cons, List.length_append]
  omega

theorem window_start (content : List UInt8) (start m : Nat) : ∃ offset later, Rowed later ∧ offset + later.flatten.length = content.length ∧
    (if 0 < start then afterNewline ((content.drop start).take m) else (content.drop start).take m) = later.flatten.take (start + m - offset) ∧
    (located 0 (rows content)).filter (fun row => start = 0 ∨ start < row.1) = located offset later := by
  have flat := rows_flatten content
  by_cases first : start = 0
  · refine ⟨0, rows content, rows_rowed content, by rw [flat, Nat.zero_add], ?_, ?_⟩
    · rw [if_neg (by omega), first, flat, List.drop_zero, Nat.zero_add, Nat.sub_zero]
    · rw [List.filter_eq_self]
      exact fun row _ => decide_eq_true (.inl first)
  · obtain ⟨shorter, view⟩ := afterNewline_window (rows_rowed content) start m
    obtain ⟨_, behind⟩ := late_located 0 start (rows content)
    rw [flat] at shorter view behind
    refine ⟨content.length - (late start (rows content)).flatten.length, late start (rows content), late_rowed (rows_rowed content) start,
      Nat.sub_add_cancel shorter, ?_, ?_⟩
    · rw [if_pos (by omega), view]
    · rw [Nat.zero_add, Nat.zero_add] at behind
      rw [← behind]
      exact List.filter_congr fun row _ => decide_eq_decide.mpr (or_iff_right first)

/-- A trimmed window holds the inner rows. -/
theorem readRange_rows (content : List UInt8) {start last : Nat} (ordered : start ≤ last) (inside : last < content.length) :
    Rowed ((innerRows content start last).map Prod.snd) ∧
      readRange content start last = ((innerRows content start last).map Prod.snd).flatten := by
  have size : ((content.drop start).take (last - start + 1)).length = last - start + 1 := by
    rw [List.length_take, List.length_drop]
    omega
  obtain ⟨offset, later, rowed, total, view, located_⟩ := window_start content start (last - start + 1)
  have until_ : start + (last - start + 1) - offset = last + 1 - offset := by omega
  have inner : (innerRows content start last).map Prod.snd = whole (last + 1 - offset) later := by
    have both : innerRows content start last = (located offset later).filter fun row => row.1 + row.2.length ≤ last + 1 := by
      rw [innerRows_eq, ← located_, List.filter_filter]
      refine List.filter_congr fun row _ => ?_
      rw [← Bool.decide_and, decide_eq_decide, and_comm]
    rw [both, whole_until rowed, located_rows]
  refine ⟨inner ▸ whole_rowed rowed _, ?_⟩
  rw [readRange, trimCompleteLines, size, show start + (last - start + 1 - 1) = last by omega, inner, view, until_]
  by_cases ends : last < content.length - 1
  · rw [if_pos ends]
    by_cases none_ : later = []
    · rw [none_, List.flatten_nil, List.take_nil, whole, List.flatten_nil, throughNewline]
    · have some_ := flatten_some rowed none_
      exact throughNewline_window rowed (by omega)
  · have enough : later.flatten.length ≤ last + 1 - offset := by omega
    rw [if_neg ends, List.take_of_length_le enough, whole_all later enough]

/-! ## What a complete probe counts -/

theorem windowMasks_shows {p : Python} {index : SourceIndexSpec} {content : List UInt8} {window : Nat × Nat} {masks : List HostYearMask}
    (ok : windowMasks p index content window = .ok masks) (x : String × Nat) : (∃ m ∈ masks, Shows m x) ↔
      x ∈ ((splitlines (decodeFrom none (readRange content window.1 window.2))).map textOf).filterMap (p.linePair index.capabilities.format) := by
  unfold windowMasks at ok
  by_cases empty : readRange content window.1 window.2 = []
  · rw [empty, if_pos rfl] at ok
    cases ok
    rw [empty]
    simp [decodeFrom, splitlines]
  · rw [if_neg empty] at ok
    rw [reduceLines_shows ok]
    simp

theorem linePair_nil (p : Python) (format : String) : p.linePair format (textOf []) = none := by
  unfold Python.linePair Python.parseLine
  split_ifs <;> rfl

theorem plain_pairs (p : Python) (format : String) {kept : List (List UInt8)} (rowed : Rowed kept) (plain : ∀ row ∈ kept, Plain row) :
    ((splitlines (decodeFrom none kept.flatten)).map textOf).filterMap (p.linePair format) = kept.filterMap (rowPair p format) := by
  rw [splitlines_rows rowed, List.filterMap_map, List.filterMap_flatMap, List.filterMap_eq_flatMap_toList]
  exact List.flatMap_congr fun row member => plain_lines (plain row member) (linePair_nil p format)

theorem normalized_bounds {region normal : HarvestRegion} {range : ByteRange} {n : Nat}
    (bounds : (normalizedRegion region n).bind (fun normal => normal.bytes.map (normal, ·)) = some (normal, range)) :
    normal.bytes = some range ∧ range.byteStart.toNat ≤ range.byteEnd.toNat ∧ range.byteEnd.toNat < n := by
  obtain ⟨normal', clipped, bytes⟩ := Option.bind_eq_some_iff.mp bounds
  obtain ⟨range', isRange, same⟩ := Option.map_eq_some_iff.mp bytes
  cases same
  refine ⟨isRange, ?_⟩
  have first := range.nonneg
  have ordered := range.ordered
  unfold normalizedRegion at clipped
  dsimp only at clipped
  split_ifs at clipped
  cases clipped
  cases isRange
  dsimp only at first ordered ⊢
  omega

theorem probe_complete {p : Python} {policy : RegionProbePolicy} {baseline : String → Nat} {weights : String → ℚ≥0} {index : SourceIndexSpec}
    {content : List UInt8} {remote : Bool} {metadataRequests : Nat} {region : HarvestRegion} {result : RegionProbeResult}
    (ok : probe p policy baseline weights index content remote metadataRequests region = .ok result) (complete : result.synopsis.complete = true) :
    ∃ range masks merged, result.region.bytes = some range ∧ range.byteStart.toNat ≤ range.byteEnd.toNat ∧ range.byteEnd.toNat < content.length ∧
      windowMasks p index content (range.byteStart.toNat, range.byteEnd.toNat) = .ok masks ∧ p.mergeHostMasks masks = .ok merged ∧
      result.synopsis.observedHostYearPairs = (merged.map fun m => (yearsOf m.yearMask).length).sum ∧
      result.synopsis.novelHostYearPairs = (merged.map fun m => (yearsOf (novelYearMask m.yearMask (baseline m.hostname))).length).sum := by
  unfold probe at ok
  by_cases format : index.capabilities.format ≠ "CDX" ∧ index.capabilities.format ≠ "CDXJ"
  · rw [if_pos format] at ok
    cases ok
  rw [if_neg format] at ok
  by_cases foreign : region.indexKey ≠ index.indexKey
  · rw [if_pos foreign] at ok
    cases ok
  rw [if_neg foreign] at ok
  by_cases empty : content = []
  · rw [if_pos empty] at ok
    cases ok
  rw [if_neg empty] at ok
  cases bounds : (normalizedRegion region content.length).bind fun normal => normal.bytes.map (normal, ·) with
  | none =>
    rw [bounds] at ok
    cases ok
  | some found =>
    obtain ⟨bytes, ordered, inside⟩ := normalized_bounds bounds
    rw [bounds] at ok
    dsimp only at ok
    cases sampled : sampledMasks p index content (sampledWindows policy found.2) with
    | error e =>
      rw [sampled] at ok
      cases ok
    | ok masks =>
      rw [sampled] at ok
      dsimp only at ok
      cases union : p.mergeHostMasks masks with
      | error e =>
        rw [union] at ok
        cases ok
      | ok merged =>
        rw [union] at ok
        cases ok
        have single : sampledWindows policy found.2 = [(found.2.byteStart.toNat, found.2.byteEnd.toNat)] := of_decide_eq_true complete
        rw [single, sampledMasks] at sampled
        cases read : windowMasks p index content (found.2.byteStart.toNat, found.2.byteEnd.toNat) with
        | error e =>
          rw [read] at sampled
          cases sampled
        | ok window =>
          rw [read, sampledMasks] at sampled
          have same : window ++ [] = masks := Except.ok.inj sampled
          rw [List.append_nil] at same
          exact ⟨found.2, window, merged, bytes, ordered, inside, read, same ▸ union, rfl, rfl⟩

/-- Python, as far as texts of small ASCII letters go. -/
def plainPython : Python where
  lower := id
  repr := fun _ => []
  refusesNetloc := fun _ => false
  complaint := fun _ => ""
  refusesJson := fun _ => false

def cdxIndex : SourceIndexSpec :=
  { sampleIndex (some 44) with locator := "/a.cdx", capabilities := { (sampleIndex (some 44)).capabilities with format := "CDX" } }

def twoRows : List UInt8 := "a 1996 http://aa.com/\nb 1997 http://bb.com/\n".toUTF8.toList

def someRegion (range : ByteRange) : HarvestRegion where
  regionKey := "region:a"
  indexKey := "index:a"
  kind := .byteRange
  locator := "/a.cdx"
  state := .discovered
  parentRegionKey := none
  depth := 1
  bytes := some range
  keyPrefix := none
  years := none

def smallProbes : RegionProbePolicy := ⟨1024, 4, by decide, by decide⟩

def smallProbe (range : ByteRange) : Except PyError RegionProbeResult :=
  probe plainPython smallProbes (fun _ => 0) (fun _ => 1) cdxIndex twoRows false 0 (someRegion range)

end Creeper.RegionProbes
