import Creeper.ArchiveRecords
import Creeper.NumberedCursors

/-!
# Leases of a WARC file

`sources/archive/warc.py`: the target records of a WARC or ARC file, in one pass, or in leases that
each go on at the byte cursor which the one before left. A record may declare a content length; a
lease refuses one that is too long, and one pass reads it.
-/

namespace Creeper.WarcLeases
open Creeper.PyText Creeper.NumberedCursors
open Creeper.FabricModels (PyError)

/-- What the readers raise. -/
inductive WarcError
  | format (message : String)
  | cursor (message : String)
  | resourceLimit (message : String)
  | python (error : PyError)
  deriving DecidableEq

def WarcError.value (message : String) : WarcError := .python (.valueError message)

/-! ## Cursors -/

/-- The digits that `int` and `str` convert at most. -/
def maxStrDigits : Nat := 4300

/-- `encode_warc_cursor`, of an offset that is no negative one. -/
def encodeWarcCursor (offset : Nat) : Except WarcError PyStr :=
  if 10 ^ maxStrDigits ≤ offset then .error (.value "Exceeds the limit (4300 digits) for integer string conversion")
  else .ok (writeCursor "warc-byte:" offset)

/-- `decode_warc_cursor`. -/
def decodeWarcCursor : Option PyStr → Except WarcError Nat
  | none => .ok 0
  | some cursor =>
    if cursor = [] ∨ cursor = py "0" then .ok 0
    else if ¬py "warc-byte:" <+: cursor then .error (.cursor "invalid WARC cursor; expected warc-byte:<offset>")
    else
      let raw := cursor.drop "warc-byte:".length
      match readNumber raw with
      | .ok none => .error (.cursor "invalid WARC cursor offset")
      | .ok (some offset) =>
        if maxStrDigits < raw.length then .error (.value "Exceeds the limit (4300 digits) for integer string conversion") else .ok offset
      | .error e => .error (.python e)

/-! ## Records -/

/-- A record as the archive iterator yields it, with its offset and length in the file. -/
structure ArchiveRecord where
  recType : String
  targetUri : Option String
  date : Option PyStr
  declaredLength : Option Int
  offset : Nat
  length : Nat

structure WarcTargetRecord where
  recordType : String
  targetUri : Option String
  sourceYear : Option Nat
  offset : Nat
  length : Nat
  deriving DecidableEq

def targetRecordTypes : List String := ["response", "resource", "revisit"]

/-- `_capture_year`. -/
def captureYear : Option PyStr → Except WarcError (Option Nat)
  | none => .ok none
  | some value =>
    match ArchiveRecords.leadingYear value with
    | .ok year => .ok (year.filter fun year => 1000 ≤ year && year ≤ 9999)
    | .error e => .error (.python e)

/-- `_target_from_record`. -/
def targetFromRecord (record : ArchiveRecord) : Except WarcError (Option WarcTargetRecord) :=
  if record.recType ∉ targetRecordTypes then .ok none
  else (captureYear record.date).map fun year => some ⟨record.recType, record.targetUri, year, record.offset, record.length⟩

/-- A seekable or other stream of bytes: the size that is known of it, and what warcio's `ArchiveIterator` yields from a position on. -/
structure Stream where
  bytes : List UInt8
  size : Option Nat
  seekable : Bool
  archiveIterator : Nat → List ArchiveRecord

def targetsOf (records : List ArchiveRecord) : Except WarcError (List WarcTargetRecord) :=
  (records.mapM targetFromRecord).map List.reduceOption

/-- `iter_warc_target_records`, from the start of a stream. -/
def iterWarcTargetRecords (stream : Stream) : Except WarcError (List WarcTargetRecord) := targetsOf (stream.archiveIterator 0)

/-! ## Leases -/

structure WarcMetadataLease where
  records : List WarcTargetRecord
  scannedRecords : Nat
  startOffset : Nat
  endOffset : Nat
  nextOffset : Option Nat
  exhausted : Bool
  ordered : startOffset ≤ endOffset
  ahead : ∀ next ∈ nextOffset, endOffset ≤ next
  final : exhausted = true → nextOffset = none

/-- `next_cursor`. -/
def WarcMetadataLease.nextCursor (lease : WarcMetadataLease) : Except WarcError (Option PyStr) :=
  match lease.nextOffset with
  | none => .ok none
  | some offset => (encodeWarcCursor offset).map some

structure Bounds where
  maxScannedRecords : Int
  maxArchiveBytes : Int
  targetYearFrom : Int
  targetYearTo : Int
  maxRecordContentBytes : Int

/-- The arguments that are refused. -/
def Bounds.problem (b : Bounds) : Option WarcError :=
  if b.maxScannedRecords < 1 then some (.value "max_scanned_records must be a positive integer")
  else if b.maxArchiveBytes < 1 then some (.value "max_archive_bytes must be a positive integer")
  else if b.maxRecordContentBytes < 1 then some (.value "max_record_content_bytes must be a positive integer")
  else if b.targetYearTo < b.targetYearFrom then some (.value "target_year_from must not exceed target_year_to")
  else none

def isSeparator (byte : UInt8) : Bool := byte = 13 || byte = 10

/-- The position behind `_skip_record_separators`. -/
def skipRecordSeparators (bytes : List UInt8) (position : Nat) : Nat :=
  position + ((bytes.drop position).takeWhile isSeparator).length

/-- What is wrong with the length that a record declares. -/
def declaredProblem (b : Bounds) (record : ArchiveRecord) : Option WarcError :=
  match record.declaredLength with
  | none => none
  | some declared =>
    if declared < 0 then some (.format "WARC/ARC record has a negative declared length")
    else if b.maxRecordContentBytes < declared then
      some (.resourceLimit ("WARC/ARC record declared content length " ++ toString declared ++ " exceeds limit " ++
        toString b.maxRecordContentBytes))
    else none

def Bounds.wants (b : Bounds) (target : WarcTargetRecord) : Bool :=
  target.sourceYear.any fun year => b.targetYearFrom ≤ year && (year : Int) ≤ b.targetYearTo

/-- The state of a lease. -/
structure Scan where
  targets : List WarcTargetRecord
  scanned : Nat
  endOffset : Nat
  hitBudget : Bool

/-- The loop of a lease. -/
def scan (b : Bounds) (actualStart : Nat) (s : Scan) : List ArchiveRecord → Except WarcError Scan
  | [] => .ok s
  | record :: rest =>
    match declaredProblem b record with
    | some e => .error e
    | none =>
      if record.offset < actualStart ∨ record.offset < s.endOffset ∨ record.length = 0 then
        .error (.format "warcio returned a non-monotonic or non-positive record offset/length")
      else
        match targetFromRecord record with
        | .error e => .error e
        | .ok target =>
          let next : Scan := ⟨s.targets ++ (target.filter b.wants).toList, s.scanned + 1, record.offset + record.length, false⟩
          if b.maxScannedRecords ≤ next.scanned ∨ b.maxArchiveBytes ≤ ((next.endOffset - actualStart : Nat) : Int) then
            .ok { next with hitBudget := true }
          else scan b actualStart next rest

/-- `read_warc_metadata_lease`. -/
def readWarcMetadataLease (stream : Stream) (b : Bounds) (cursor : Option PyStr) : Except WarcError WarcMetadataLease :=
  match b.problem with
  | some e => .error e
  | none =>
    if !stream.seekable then .error (.cursor "production WARC leases require a seekable stream")
    else do
      let requested ← decodeWarcCursor cursor
      if stream.size.any (· < requested) then
        throw (.cursor ("WARC cursor offset " ++ toString requested ++ " exceeds stream size"))
      let actualStart := if requested = 0 then 0 else skipRecordSeparators stream.bytes requested
      if stream.size.any (· ≤ actualStart) then
        return ⟨[], 0, actualStart, actualStart, none, true, le_rfl, nofun, fun _ => rfl⟩
      let s ← scan b actualStart ⟨[], 0, actualStart, false⟩ (stream.archiveIterator actualStart)
      if ordered : actualStart ≤ s.endOffset then
        if s.hitBudget then
          return ⟨s.targets, s.scanned, actualStart, s.endOffset, some s.endOffset, false, ordered,
            fun _ isNext => (Option.some.inj isNext).le, nofun⟩
        else return ⟨s.targets, s.scanned, actualStart, s.endOffset, none, true, ordered, nofun, fun _ => rfl⟩
      else throw (.value "end_offset cannot precede start_offset")

/-! ## Chains of leases -/

/-- A lease, and the cursor that it was read from. -/
structure Turn where
  cursor : Option PyStr
  lease : WarcMetadataLease

/-- Leases each from the cursor of the one before, until one is exhausted. -/
inductive Chain (stream : Stream) (bounds : Nat → Bounds) : Nat → Option PyStr → List Turn → Prop
  | last {i : Nat} {cursor : Option PyStr} {lease : WarcMetadataLease} (read : readWarcMetadataLease stream (bounds i) cursor = .ok lease)
      (exhausted : lease.exhausted = true) : Chain stream bounds i cursor [⟨cursor, lease⟩]
  | more {i : Nat} {cursor next : Option PyStr} {lease : WarcMetadataLease} {turns : List Turn}
      (read : readWarcMetadataLease stream (bounds i) cursor = .ok lease) (goesOn : lease.exhausted = false)
      (isNext : lease.nextCursor = .ok next) (later : Chain stream bounds (i + 1) next turns) :
      Chain stream bounds i cursor (⟨cursor, lease⟩ :: turns)

/-! ## Files -/

/-- A record of a file, or its gzip member, with the blank lines behind it. -/
structure Part where
  recType : String
  targetUri : Option String
  date : Option PyStr
  declaredLength : Option Int
  body : List UInt8
  separators : List UInt8
  begins : ∃ first rest, body = first :: rest ∧ isSeparator first = false
  blank : ∀ byte ∈ separators, isSeparator byte = true

def Part.size (part : Part) : Nat := part.body.length + part.separators.length

/-- The record that an iterator yields of a part which begins at an offset. -/
def Part.recordAt (part : Part) (offset : Nat) : ArchiveRecord :=
  ⟨part.recType, part.targetUri, part.date, part.declaredLength, offset, part.body.length⟩

def bytesOf (parts : List Part) : List UInt8 := parts.flatMap fun part => part.body ++ part.separators

/-- The records of parts of which the first begins at an offset. -/
def located (offset : Nat) : List Part → List ArchiveRecord
  | [] => []
  | part :: rest => part.recordAt offset :: located (offset + part.size) rest

/-- A stream of the bytes of some parts, of which the iterator yields every record from any boundary on. -/
structure Holds (stream : Stream) (parts : List Part) : Prop where
  bytes : stream.bytes = bytesOf parts
  size : ∀ size ∈ stream.size, size = stream.bytes.length
  seekable : stream.seekable = true
  iterates : ∀ done rest, parts = done ++ rest → stream.archiveIterator (bytesOf done).length = located (bytesOf done).length rest

/-- A part whose length a lease accepts and whose date can be read. -/
structure Part.Accepted (b : Bounds) (part : Part) : Prop where
  length : ∀ declared ∈ part.declaredLength, 0 ≤ declared ∧ declared ≤ b.maxRecordContentBytes
  date : ∃ year, captureYear part.date = .ok year

/-- The bounds with the budgets of one lease. -/
def Bounds.within (b : Bounds) (records archiveBytes : Int) : Bounds :=
  { b with maxScannedRecords := records, maxArchiveBytes := archiveBytes }

theorem bytesOf_append (first second : List Part) : bytesOf (first ++ second) = bytesOf first ++ bytesOf second :=
  List.flatMap_append

theorem bytesOf_snoc (done : List Part) (last : Part) :
    bytesOf (done ++ [last]) = bytesOf done ++ (last.body ++ last.separators) := by
  rw [bytesOf_append]
  simp [bytesOf]

theorem length_snoc (done : List Part) (last : Part) :
    (bytesOf (done ++ [last])).length = (bytesOf done).length + last.size := by
  simp [bytesOf_snoc, Part.size]

theorem Part.body_pos (part : Part) : 0 < part.body.length := by
  obtain ⟨first, rest, filled, -⟩ := part.begins
  simp [filled]

theorem length_cons (part : Part) (rest : List Part) : (bytesOf (part :: rest)).length = part.size + (bytesOf rest).length := by
  rw [bytesOf, List.flatMap_cons, List.length_append, List.length_append, ← bytesOf, Part.size]

theorem located_append (offset : Nat) (first second : List Part) :
    located offset (first ++ second) = located offset first ++ located (offset + (bytesOf first).length) second := by
  induction first generalizing offset with
  | nil => simp [located, bytesOf]
  | cons part rest ih =>
    rw [List.cons_append, located, located, ih, length_cons, List.cons_append, Nat.add_assoc]

/-! ## Targets -/

theorem targetsOf_append {first second : List ArchiveRecord} {early late : List WarcTargetRecord} (before : targetsOf first = .ok early)
    (behind : targetsOf second = .ok late) : targetsOf (first ++ second) = .ok (early ++ late) := by
  unfold targetsOf at *
  rw [List.mapM_append]
  cases firstRead : first.mapM targetFromRecord with
  | error e => simp [firstRead, Except.map] at before
  | ok earlies =>
    cases secondRead : second.mapM targetFromRecord with
    | error e => simp [secondRead, Except.map] at behind
    | ok lates =>
      have earlyIs : earlies.reduceOption = early := by simpa [firstRead, Except.map] using before
      have lateIs : lates.reduceOption = late := by simpa [secondRead, Except.map] using behind
      subst earlyIs lateIs
      simp [Except.map, bind, Except.bind, pure, Except.pure, List.reduceOption_append]

theorem targetsOf_one {record : ArchiveRecord} {target : Option WarcTargetRecord} (read : targetFromRecord record = .ok target) :
    targetsOf [record] = .ok target.toList := by
  unfold targetsOf
  cases target <;> simp [read, Except.map, bind, Except.bind, pure, Except.pure]

theorem Part.Accepted.target {b : Bounds} {part : Part} (accepted : part.Accepted b) (offset : Nat) :
    ∃ target, targetFromRecord (part.recordAt offset) = .ok target := by
  obtain ⟨year, read⟩ := accepted.date
  unfold targetFromRecord
  by_cases other : (part.recordAt offset).recType ∉ targetRecordTypes
  · exact ⟨none, if_pos other⟩
  · refine ⟨some ⟨part.recType, part.targetUri, year, offset, part.body.length⟩, (if_neg other).trans ?_⟩
    rw [show (part.recordAt offset).date = part.date from rfl, read]
    rfl

theorem Part.Accepted.noProblem {b : Bounds} {part : Part} (accepted : part.Accepted b) (offset : Nat) :
    declaredProblem b (part.recordAt offset) = none := by
  have length := accepted.length
  unfold declaredProblem
  rw [show (part.recordAt offset).declaredLength = part.declaredLength from rfl]
  cases declaredIs : part.declaredLength with
  | none => rfl
  | some declared =>
    obtain ⟨low, high⟩ := length declared declaredIs
    simp only [if_neg (not_lt.mpr low), if_neg (not_lt.mpr high)]

theorem Part.Accepted.within {b : Bounds} {part : Part} (accepted : part.Accepted b) (records archiveBytes : Int) :
    part.Accepted (b.within records archiveBytes) := ⟨accepted.length, accepted.date⟩

/-! ## The loop of a lease -/

/-- What the loop of a lease makes of the parts before it: it takes the first of them, and when it stops before the
end it stops behind the body of one. -/
structure Taken (b : Bounds) (offset : Nat) (s : Scan) (parts taken left : List Part) (found : Scan) : Prop where
  split : parts = taken ++ left
  targets : ∃ targets, targetsOf (located offset taken) = .ok targets ∧ found.targets = s.targets ++ targets.filter b.wants
  scanned : found.scanned = s.scanned + taken.length
  later : s.endOffset ≤ found.endOffset
  whole : found.hitBudget = false → left = []
  stops : found.hitBudget = true → ∃ before last, taken = before ++ [last] ∧
    found.endOffset = offset + (bytesOf before).length + last.body.length

theorem filter_wants (b : Bounds) (target : Option WarcTargetRecord) :
    (target.filter b.wants).toList = target.toList.filter b.wants := by
  cases target with
  | none => rfl
  | some target => by_cases wanted : b.wants target <;> simp [Option.filter, wanted]

theorem scan_takes {b : Bounds} {start : Nat} {parts : List Part} {offset : Nat} {s : Scan} (accepted : ∀ part ∈ parts, part.Accepted b)
    (started : start ≤ s.endOffset) (behind : s.endOffset ≤ offset) (fresh : s.hitBudget = false) :
    ∃ taken left found, scan b start s (located offset parts) = .ok found ∧ Taken b offset s parts taken left found := by
  induction parts generalizing offset s with
  | nil =>
    exact ⟨[], [], s, rfl, rfl, ⟨[], rfl, by simp⟩, rfl, le_rfl, fun _ => rfl, fun hit => by simp [fresh] at hit⟩
  | cons part rest ih =>
    obtain ⟨target, read⟩ := (accepted part List.mem_cons_self).target offset
    have noProblem := (accepted part List.mem_cons_self).noProblem offset
    have ordered : ¬((part.recordAt offset).offset < start ∨ (part.recordAt offset).offset < s.endOffset ∨
        (part.recordAt offset).length = 0) := by
      have filled := part.body_pos
      simp only [Part.recordAt]
      omega
    rw [located, scan, noProblem]
    simp only [if_neg ordered, read]
    set next : Scan := ⟨s.targets ++ (target.filter b.wants).toList, s.scanned + 1, offset + part.body.length, false⟩ with nextIs
    have nextTargets : next.targets = s.targets ++ target.toList.filter b.wants := by rw [nextIs, ← filter_wants]
    by_cases spent : b.maxScannedRecords ≤ next.scanned ∨ b.maxArchiveBytes ≤ ((next.endOffset - start : Nat) : Int)
    · refine ⟨[part], rest, { next with hitBudget := true }, if_pos spent, rfl, ⟨_, targetsOf_one read, nextTargets⟩, rfl, ?_,
        fun whole => by simp at whole, fun _ => ⟨[], part, rfl, by simp [nextIs, bytesOf]⟩⟩
      exact Nat.le_trans behind (Nat.le_add_right _ _)
    · have others : ∀ other ∈ rest, other.Accepted b := fun other member => accepted other (List.mem_cons_of_mem _ member)
      obtain ⟨taken, left, found, scanned, split, ⟨targets, reads, kept⟩, count, later, whole, stops⟩ :=
        @ih (offset + part.size) next others (Nat.le_trans started (Nat.le_trans behind (Nat.le_add_right _ _)))
          (by simp only [nextIs, Part.size]; omega) rfl
      refine ⟨part :: taken, left, found, (if_neg spent).trans scanned, by rw [split]; rfl,
        ⟨target.toList ++ targets, targetsOf_append (targetsOf_one read) reads, ?_⟩, ?_, ?_, whole, ?_⟩
      · rw [kept, nextTargets, List.filter_append, List.append_assoc]
      · rw [count, List.length_cons]
        show s.scanned + 1 + taken.length = _
        omega
      · exact Nat.le_trans (Nat.le_trans behind (Nat.le_add_right _ _)) later
      · intro hit
        obtain ⟨before, last, takenIs, ends⟩ := stops hit
        refine ⟨part :: before, last, by rw [takenIs]; rfl, ?_⟩
        rw [ends, length_cons]
        omega

/-! ## Offsets -/

theorem cursor_read {n : Nat} (small : n < 10 ^ maxStrDigits) :
    ∃ cursor, encodeWarcCursor n = .ok cursor ∧ decodeWarcCursor (some cursor) = .ok n := by
  refine ⟨writeCursor "warc-byte:" n, if_neg (Nat.not_le.mpr small), ?_⟩
  have marked : py "warc-byte:" <+: writeCursor "warc-byte:" n := List.prefix_append _ _
  have other : ¬(writeCursor "warc-byte:" n = [] ∨ writeCursor "warc-byte:" n = py "0") := by
    rintro (empty | zero)
    · simp [writeCursor, py] at empty
    · simp [writeCursor, py] at zero
  have behind : (writeCursor "warc-byte:" n).drop "warc-byte:".length = py (toString n) :=
    List.drop_left' (by rw [py, List.length_map, String.length_toList])
  have few : ¬maxStrDigits < (py (toString n)).length := by
    rw [py, List.length_map, Nat.toString_eq_repr, Nat.toList_repr]
    exact Nat.not_lt.mpr (Nat.toDigits_length 10 n maxStrDigits (by decide) small)
  rw [decodeWarcCursor]
  simp only [if_neg other, marked, not_true, if_false, behind, readNumber_toString, if_neg few]

theorem takeWhile_blank {separators rest : List UInt8} (blank : ∀ byte ∈ separators, isSeparator byte = true)
    (solid : ∀ first ∈ rest.head?, isSeparator first = false) : (separators ++ rest).takeWhile isSeparator = separators := by
  rw [List.takeWhile_append_of_pos blank]
  cases rest with
  | nil => simp
  | cons first others => rw [List.takeWhile_cons_of_neg (by simp [solid first rfl]), List.append_nil]

theorem bytesOf_solid (parts : List Part) : ∀ first ∈ (bytesOf parts).head?, isSeparator first = false := by
  cases parts with
  | nil => nofun
  | cons part rest =>
    obtain ⟨first, others, filled, solid⟩ := part.begins
    intro byte isFirst
    have same : first = byte := by simpa [bytesOf, filled] using isFirst
    rw [← same, solid]

theorem skip_lands (before : List Part) (last : Part) (rest : List Part) :
    skipRecordSeparators (bytesOf (before ++ [last] ++ rest)) ((bytesOf before).length + last.body.length) =
      (bytesOf (before ++ [last])).length := by
  have remaining : (bytesOf (before ++ [last] ++ rest)).drop ((bytesOf before).length + last.body.length) =
      last.separators ++ bytesOf rest := by
    have split : bytesOf (before ++ [last] ++ rest) = (bytesOf before ++ last.body) ++ (last.separators ++ bytesOf rest) := by
      rw [bytesOf_append, bytesOf_snoc]
      simp only [List.append_assoc]
    rw [split, List.drop_left' (List.length_append)]
  rw [skipRecordSeparators, remaining, takeWhile_blank last.blank (bytesOf_solid rest), length_snoc, Part.size, Nat.add_assoc]

/-- Where a lease goes on: at the start of the file, or behind the body of the part that was read last. -/
inductive Boundary : List Part → Nat → Prop
  | start : Boundary [] 0
  | behind (before : List Part) (last : Part) : Boundary (before ++ [last]) ((bytesOf before).length + last.body.length)

theorem Boundary.le {done : List Part} {offset : Nat} (boundary : Boundary done offset) : offset ≤ (bytesOf done).length := by
  cases boundary with
  | start => exact Nat.zero_le _
  | behind before last =>
    rw [length_snoc, Part.size]
    omega

theorem Boundary.lands {done : List Part} {offset : Nat} (boundary : Boundary done offset) (rest : List Part) :
    (if offset = 0 then 0 else skipRecordSeparators (bytesOf (done ++ rest)) offset) = (bytesOf done).length := by
  cases boundary with
  | start => rfl
  | behind before last =>
    have positive : (bytesOf before).length + last.body.length ≠ 0 := by
      have := last.body_pos
      omega
    rw [if_neg positive, skip_lands]

/-! ## One lease -/

/-- What a lease makes of a file of which some parts are read: it takes the first of the others. -/
structure Reads (b : Bounds) (done rest taken left : List Part) (lease : WarcMetadataLease) : Prop where
  split : rest = taken ++ left
  targets : ∃ targets, targetsOf (located (bytesOf done).length taken) = .ok targets ∧ lease.records = targets.filter b.wants
  scanned : lease.scannedRecords = taken.length
  whole : lease.exhausted = true → left = []
  goesOn : lease.exhausted = false → taken ≠ [] ∧ ∃ next, lease.nextOffset = some next ∧ Boundary (done ++ taken) next ∧
    (bytesOf done).length < next

theorem lease_reads {stream : Stream} {b : Bounds} {done rest : List Part} (holds : Holds stream (done ++ rest)) (valid : b.problem = none)
    (accepted : ∀ part ∈ rest, part.Accepted b) {cursor : Option PyStr} {offset : Nat} (boundary : Boundary done offset)
    (decoded : decodeWarcCursor cursor = .ok offset) :
    ∃ taken left lease, readWarcMetadataLease stream b cursor = .ok lease ∧ Reads b done rest taken left lease := by
  have bytes := holds.bytes
  have total : stream.bytes.length = (bytesOf done).length + (bytesOf rest).length := by
    rw [bytes, bytesOf_append, List.length_append]
  have inside : stream.size.any (· < offset) = false := by
    cases known : stream.size with
    | none => rfl
    | some size =>
      have sizeIs := holds.size size known
      have := boundary.le
      simp only [Option.any_some, decide_eq_false_iff_not]
      omega
  have landed : (if offset = 0 then 0 else skipRecordSeparators stream.bytes offset) = (bytesOf done).length := by
    rw [bytes, boundary.lands rest]
  have unfolded : readWarcMetadataLease stream b cursor = (do
      if stream.size.any (· ≤ (bytesOf done).length) then
        return ⟨[], 0, (bytesOf done).length, (bytesOf done).length, none, true, le_rfl, nofun, fun _ => rfl⟩
      let s ← scan b (bytesOf done).length ⟨[], 0, (bytesOf done).length, false⟩ (stream.archiveIterator (bytesOf done).length)
      if ordered : (bytesOf done).length ≤ s.endOffset then
        if s.hitBudget then
          return ⟨s.targets, s.scanned, (bytesOf done).length, s.endOffset, some s.endOffset, false, ordered,
            fun _ isNext => (Option.some.inj isNext).le, nofun⟩
        else return ⟨s.targets, s.scanned, (bytesOf done).length, s.endOffset, none, true, ordered, nofun, fun _ => rfl⟩
      else throw (.value "end_offset cannot precede start_offset")) := by
    rw [readWarcMetadataLease, valid]
    simp only [holds.seekable, Bool.not_true, Bool.false_eq_true, if_false, decoded]
    simp only [bind, Except.bind, inside, Bool.false_eq_true, if_false, landed, pure, Except.pure]
  rw [unfolded]
  by_cases ended : stream.size.any (· ≤ (bytesOf done).length) = true
  · have none_ : rest = [] := by
      cases known : stream.size with
      | none => simp [known] at ended
      | some size =>
        have sizeIs := holds.size size known
        have le : size ≤ (bytesOf done).length := by simpa [known] using ended
        cases rest with
        | nil => rfl
        | cons part others =>
          rw [length_cons, Part.size] at total
          have := part.body_pos
          omega
    subst none_
    rw [if_pos ended]
    exact ⟨[], [], _, rfl, rfl, ⟨[], rfl, rfl⟩, rfl, fun _ => rfl, nofun⟩
  · rw [if_neg ended, holds.iterates done rest rfl]
    obtain ⟨taken, left, found, scanned, split, ⟨targets, reads, kept⟩, count, later, whole, stops⟩ :
        ∃ taken left found, scan b (bytesOf done).length ⟨[], 0, (bytesOf done).length, false⟩ (located (bytesOf done).length rest) =
          .ok found ∧ Taken b (bytesOf done).length ⟨[], 0, (bytesOf done).length, false⟩ rest taken left found :=
      scan_takes accepted le_rfl le_rfl rfl
    refine ⟨taken, left, ?_⟩
    rw [scanned]
    simp only [bind, Except.bind, dif_pos later]
    cases hit : found.hitBudget with
    | false => exact ⟨_, rfl, split, ⟨targets, reads, kept⟩, by simpa using count, fun _ => whole hit, nofun⟩
    | true =>
      obtain ⟨before, last, takenIs, ends⟩ := stops hit
      have boundary : Boundary (done ++ taken) found.endOffset := by
        have atEnd : found.endOffset = (bytesOf (done ++ before)).length + last.body.length := by
          rw [ends, bytesOf_append, List.length_append]
        rw [takenIs, ← List.append_assoc, atEnd]
        exact .behind _ _
      have advances : (bytesOf done).length < found.endOffset := by
        have := last.body_pos
        omega
      refine ⟨_, rfl, split, ⟨targets, reads, kept⟩, by simpa using count, nofun, fun _ => ⟨?_, found.endOffset, rfl, boundary, advances⟩⟩
      rw [takenIs]
      simp

/-! ## Chains -/

theorem Chain.unique {stream : Stream} {bounds : Nat → Bounds} {i : Nat} {cursor : Option PyStr} {first second : List Turn}
    (one : Chain stream bounds i cursor first) (other : Chain stream bounds i cursor second) : first = second := by
  induction one generalizing second with
  | last read exhausted =>
    cases other with
    | last again _ =>
      rw [read] at again
      rw [Except.ok.inj again]
    | more again goesOn _ _ =>
      rw [read] at again
      rw [← Except.ok.inj again, exhausted] at goesOn
      cases goesOn
  | more read goesOn isNext later ih =>
    cases other with
    | last again exhausted =>
      rw [read] at again
      rw [← Except.ok.inj again, goesOn] at exhausted
      cases exhausted
    | more again _ isNextToo laterToo =>
      rw [read] at again
      obtain rfl := Except.ok.inj again
      rw [isNext] at isNextToo
      obtain rfl := Except.ok.inj isNextToo
      rw [ih laterToo]

/-- A lease that another follows, behind where it was asked to begin. -/
def Turn.Advances (turn : Turn) : Prop :=
  ∀ next ∈ turn.lease.nextOffset, ∃ requested, decodeWarcCursor turn.cursor = .ok requested ∧ requested < next

/-- What a chain of leases makes of the parts that are left. -/
structure ReadsAll (b : Bounds) (done rest : List Part) (turns : List Turn) : Prop where
  targets : ∃ targets, targetsOf (located (bytesOf done).length rest) = .ok targets ∧
    (turns.flatMap fun turn => turn.lease.records) = targets.filter b.wants
  scanned : (turns.map fun turn => turn.lease.scannedRecords).sum = rest.length
  advances : ∀ turn ∈ turns, turn.Advances

theorem chain_reads {stream : Stream} {b : Bounds} {records archiveBytes : Nat → Int} {parts : List Part} (holds : Holds stream parts)
    (small : stream.bytes.length < 10 ^ maxStrDigits) (valid : ∀ i, (b.within (records i) (archiveBytes i)).problem = none)
    (accepted : ∀ part ∈ parts, part.Accepted b) {done rest : List Part} (split : parts = done ++ rest) {cursor : Option PyStr}
    {offset : Nat}
    (boundary : Boundary done offset) (decoded : decodeWarcCursor cursor = .ok offset) (i : Nat) :
    ∃ turns, Chain stream (fun i => b.within (records i) (archiveBytes i)) i cursor turns ∧ ReadsAll b done rest turns := by
  -- a lease that is not the last takes a part at least
  induction size : rest.length using Nat.strong_induction_on generalizing done rest cursor offset i with
  | _ size ih =>
    subst size split
    have left_ : ∀ part ∈ rest, part.Accepted (b.within (records i) (archiveBytes i)) := fun part member =>
      (accepted part (List.mem_append_right _ member)).within _ _
    obtain ⟨taken, left, lease, read, reads⟩ := lease_reads holds (valid i) left_ boundary decoded
    obtain ⟨targets, takes, kept⟩ : ∃ targets, targetsOf (located (bytesOf done).length taken) = .ok targets ∧
        lease.records = targets.filter b.wants := reads.targets
    have takenAll := reads.split
    subst takenAll
    cases exhausted : lease.exhausted with
    | true =>
      have nothing := reads.whole exhausted
      subst nothing
      refine ⟨[⟨cursor, lease⟩], .last read exhausted, ⟨targets, by rw [List.append_nil]; exact takes, ?_⟩, ?_, ?_⟩
      · simpa using kept
      · simpa using reads.scanned
      · intro turn member next isNext
        obtain rfl := List.mem_singleton.mp member
        rw [lease.final exhausted] at isNext
        cases isNext
    | false =>
      obtain ⟨filled, next, isNext, nextBoundary, ahead⟩ := reads.goesOn exhausted
      have within : next < 10 ^ maxStrDigits := by
        have total : stream.bytes.length = (bytesOf (done ++ taken)).length + (bytesOf left).length := by
          rw [holds.bytes, ← List.append_assoc, bytesOf_append, List.length_append]
        have := nextBoundary.le
        omega
      obtain ⟨nextCursor, encoded, nextDecoded⟩ := cursor_read within
      have fewer : left.length < (taken ++ left).length := by
        have := List.length_pos_iff.mpr filled
        rw [List.length_append]
        omega
      have again : done ++ (taken ++ left) = done ++ taken ++ left := (List.append_assoc _ _ _).symm
      obtain ⟨turns, later, ⟨others, laterTakes, laterKept⟩, count, advances⟩ :=
        ih left.length fewer again nextBoundary nextDecoded (i + 1) rfl
      have isCursor : lease.nextCursor = .ok (some nextCursor) := by
        rw [WarcMetadataLease.nextCursor, isNext]
        simp only [encoded, Except.map]
      refine ⟨⟨cursor, lease⟩ :: turns, .more read exhausted isCursor later, ⟨targets ++ others, ?_, ?_⟩, ?_, ?_⟩
      · rw [bytesOf_append, List.length_append] at laterTakes
        rw [located_append]
        exact targetsOf_append takes laterTakes
      · rw [List.flatMap_cons, laterKept, List.filter_append, kept]
      · rw [List.map_cons, List.sum_cons, count, reads.scanned, List.length_append]
      · intro turn member
        obtain rfl | member := List.mem_cons.mp member
        · intro found isFound
          obtain rfl : next = found := Option.some.inj (isNext.symm.trans isFound)
          have := boundary.le
          exact ⟨offset, decoded, by omega⟩
        · exact advances turn member

theorem within_valid {b : Bounds} (years : b.targetYearFrom ≤ b.targetYearTo) (limit : 1 ≤ b.maxRecordContentBytes)
    {records archiveBytes : Int}
    (budgets : 1 ≤ records ∧ 1 ≤ archiveBytes) : (b.within records archiveBytes).problem = none := by
  rw [Bounds.problem, Bounds.within]
  simp only [if_neg (not_lt.mpr budgets.1), if_neg (not_lt.mpr budgets.2), if_neg (not_lt.mpr limit), if_neg (not_lt.mpr years)]

/-- The leases of a file, whatever their budgets, are one chain, and yield the targets of the wanted years that one pass
yields; each record is counted once, each lease but the last moves the cursor on, and a cursor is read as the offset it
was written of. The parts are those that a lease accepts. -/
theorem leases_read_all {stream : Stream} {parts : List Part} (holds : Holds stream parts) (b : Bounds) (records archiveBytes : Nat → Int)
    (years : b.targetYearFrom ≤ b.targetYearTo) (limit : 1 ≤ b.maxRecordContentBytes) (budgets : ∀ i, 1 ≤ records i ∧ 1 ≤ archiveBytes i)
    (accepted : ∀ part ∈ parts, part.Accepted b)
    (small : stream.bytes.length < 10 ^ maxStrDigits) :
    (∃ targets turns, iterWarcTargetRecords stream = .ok targets ∧
      Chain stream (fun i => b.within (records i) (archiveBytes i)) 0 none turns ∧
      (∀ others, Chain stream (fun i => b.within (records i) (archiveBytes i)) 0 none others → others = turns) ∧
      (turns.flatMap fun turn => turn.lease.records) = targets.filter b.wants ∧
      (turns.map fun turn => turn.lease.scannedRecords).sum = parts.length ∧ ∀ turn ∈ turns, turn.Advances) ∧
    ∀ n < 10 ^ maxStrDigits, ∃ cursor, encodeWarcCursor n = .ok cursor ∧ decodeWarcCursor (some cursor) = .ok n := by
  refine ⟨?_, fun n within => cursor_read within⟩
  have start : decodeWarcCursor none = .ok 0 := rfl
  have valid i := within_valid years limit (budgets i)
  obtain ⟨turns, chain, ⟨targets, takes, kept⟩, count, advances⟩ :=
    chain_reads holds small valid accepted (List.nil_append parts).symm .start start 0
  refine ⟨targets, turns, ?_, chain, fun others other => other.unique chain, kept, count, advances⟩
  rw [iterWarcTargetRecords, ← takes]
  exact congrArg targetsOf (holds.iterates [] parts rfl)

/-- A file of one record. -/
def only (part : Part) : Stream where
  bytes := bytesOf [part]
  size := none
  seekable := true
  archiveIterator position := if position = 0 then located 0 [part] else []

theorem only_holds (part : Part) : Holds (only part) [part] where
  bytes := rfl
  size := nofun
  seekable := rfl
  iterates done rest split := by
    cases done with
    | nil =>
      obtain rfl : [part] = rest := split
      rfl
    | cons first others =>
      obtain ⟨rfl, empty⟩ := List.cons_eq_cons.mp split
      obtain ⟨rfl, rfl⟩ := List.nil_eq_append_iff.mp empty
      have behind : (bytesOf [part]).length ≠ 0 := by
        have := part.body_pos
        rw [length_cons, Part.size]
        omega
      exact if_neg behind

def asciiBytes (text : String) : List UInt8 := text.toList.map fun c => c.toNat.toUInt8

/-- The bytes of a capture of 1996 behind its first. -/
def captureRest (size : Nat) : List UInt8 :=
  asciiBytes ("ARC/1.0\r\nWARC-Type: response\r\nWARC-Target-URI: http://example.com/\r\nWARC-Date: 1996-12-27T00:00:00Z\r\n" ++
    "Content-Length: " ++ toString size ++ "\r\n\r\n") ++ List.replicate size 0

/-- A capture of 1996 of a number of bytes. -/
def capture (size : Nat) : Part where
  recType := "response"
  targetUri := some "http://example.com/"
  date := some (py "1996-12-27T00:00:00Z")
  declaredLength := some size
  body := 'W'.toNat.toUInt8 :: captureRest size
  separators := [13, 10, 13, 10]
  begins := ⟨'W'.toNat.toUInt8, captureRest size, rfl, by decide⟩
  blank := by decide +kernel

theorem capture_year (size : Nat) : captureYear (capture size).date = .ok (some 1996) := by
  rw [show (capture size).date = some (py "1996-12-27T00:00:00Z") from rfl]
  decide +kernel

/-- The bounds of a lease that names none. -/
def defaultBounds : Bounds := ⟨1, 1, 1996, 2001, 64 * 1024 * 1024⟩

theorem capture_read :
    ∃ targets turns, iterWarcTargetRecords (only (capture 3)) = .ok targets ∧
      Chain (only (capture 3)) (fun _ => defaultBounds) 0 none turns ∧
      (turns.flatMap fun turn => turn.lease.records) = targets.filter defaultBounds.wants := by
  have accepted : ∀ part ∈ [capture 3], part.Accepted defaultBounds := by
    intro part member
    obtain rfl := List.mem_singleton.mp member
    exact ⟨fun declared isDeclared => by obtain rfl := Option.some.inj isDeclared; decide, _, capture_year 3⟩
  have small : (only (capture 3)).bytes.length < 10 ^ maxStrDigits := by
    have few : (only (capture 3)).bytes.length < 10 ^ 3 := by decide +kernel
    exact few.trans_le (Nat.pow_le_pow_right (by decide) (by decide))
  obtain ⟨⟨targets, turns, one, chain, -, same, -, -⟩, -⟩ := leases_read_all (only_holds (capture 3)) defaultBounds (fun _ => 1)
    (fun _ => 1)
    (by decide) (by decide) (fun _ => by decide) accepted small
  exact ⟨targets, turns, one, chain, same⟩

/-- A capture of more than 64 MiB: one pass yields its target, and no lease gets past it. -/
theorem capture_refused :
    ∃ (stream : Stream) (parts : List Part) (target : WarcTargetRecord), Holds stream parts ∧
      iterWarcTargetRecords stream = .ok [target] ∧ defaultBounds.wants target = true ∧
      ∀ turns, ¬Chain stream (fun _ => defaultBounds) 0 none turns := by
  let size := 64 * 1024 * 1024 + 1
  let part := capture size
  have read : targetFromRecord (part.recordAt 0) = .ok (some ⟨"response", some "http://example.com/", some 1996, 0, part.body.length⟩) := by
    unfold targetFromRecord
    have typed : ¬(part.recordAt 0).recType ∉ targetRecordTypes := by
      rw [show (part.recordAt 0).recType = "response" from rfl]
      decide
    rw [if_neg typed, show (part.recordAt 0).date = (capture size).date from rfl, capture_year]
    rfl
  refine ⟨only part, [part], _, only_holds part, targetsOf_one read, by simp [Bounds.wants, defaultBounds], ?_⟩
  have refused : ∃ e, readWarcMetadataLease (only part) defaultBounds none = .error e := by
    have tooLong : ∃ e, declaredProblem defaultBounds (part.recordAt 0) = some e := by
      rw [declaredProblem, show (part.recordAt 0).declaredLength = some ((64 * 1024 * 1024 + 1 : Nat) : Int) from rfl]
      exact ⟨_, rfl⟩
    obtain ⟨e, problem⟩ := tooLong
    refine ⟨e, ?_⟩
    rw [readWarcMetadataLease, show defaultBounds.problem = none from rfl]
    have records : (only part).archiveIterator 0 = [part.recordAt 0] := rfl
    have start : decodeWarcCursor none = .ok 0 := rfl
    have unsized : (only part).size = none := rfl
    have seekable : (only part).seekable = true := rfl
    simp only [seekable, start, unsized, bind, Except.bind, Option.any_none, Bool.not_true, Bool.false_eq_true, if_false,
      if_true, records, scan,
      problem, pure, Except.pure]
  obtain ⟨e, raised⟩ := refused
  intro turns chain
  cases chain with
  | last read _ =>
    rw [raised] at read
    cases read
  | more read _ _ _ =>
    rw [raised] at read
    cases read

end Creeper.WarcLeases
