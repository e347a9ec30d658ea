import Creeper.NumberedCursors
import Creeper.Runs
import Creeper.StructuredRecords

/-!
# Leases of the site list

`FtpSitelistProductionAdapter` of `sources/production.py` emits the records of one archive, a lease
at a time. A lease passes over a run of records, emits those of a target year among them, and its
cursor names the first record that it has not passed.
-/

namespace Creeper.SitelistLeases
open Creeper.PyText Creeper.Runs Creeper.NumberedCursors
open Creeper.FabricModels (PyError)
open Creeper.AdapterBindings (SourceEvidenceContract)
open Creeper.ArchiveRecords (yearBit targetYears yearBit_zero)
open Creeper.StructuredRecords (SourceRecord grantsDirectWebYear)

/-! ## Adapter -/

structure FtpSitelistRecord where
  hostname : String
  sourceTime : String
  year : Nat
  memberName : String
  recordIndex : Nat

/-- An artifact: how long it is, and what `parse_ftp_sitelist_zip` makes of it. Nothing is parsed of no bytes. -/
structure Artifact where
  size : Nat
  parsed : Except String (List FtpSitelistRecord)
  filled : ∀ records, parsed = .ok records → 0 < size

/-- A `WorkLease`, as far as it is read. -/
structure WorkLease where
  leaseId : String
  cursorStart : Option PyStr
  maxRecords : Nat
  maxRequests : Nat
  maxBytes : Nat
  maxSeconds : ℚ

structure LeaseResult where
  leaseId : String
  records : Nat
  requests : Nat
  bytesRead : Nat
  elapsedSeconds : ℚ
  nextCursor : Option PyStr

inductive AdapterError
  | productionAdapterError (message : String)
  | python (error : PyError)

structure FtpSitelistProductionAdapter where
  sourceId : String
  source : String
  evidenceContract : SourceEvidenceContract
  /-- `_records`. -/
  loaded : Option (List FtpSitelistRecord)

/-- `_cursor_index`. -/
def cursorIndex : Option PyStr → Except AdapterError Nat
  | none => .ok 0
  | some cursor =>
    match readCursor "record:" cursor with
    | .ok (some index) => .ok index
    | .ok none => .error (.productionAdapterError "invalid FTP sitelist cursor")
    | .error raised => .error (.python raised)

namespace FtpSitelistProductionAdapter
variable (a : FtpSitelistProductionAdapter)

/-- `_load`: the records, the requests made and the bytes read. Nothing is readable of an artifact that cannot be opened. -/
def load (artifact : Option Artifact) (maxBytes : Nat) : Except AdapterError (List FtpSitelistRecord × Nat × Nat) :=
  match a.loaded with
  | some records => .ok (records, 0, 0)
  | none =>
    if maxBytes < 1 then .error (.productionAdapterError "FTP sitelist first lease requires a positive byte budget")
    else
      match artifact with
      | none => .error (.productionAdapterError "unable to read FTP sitelist artifact")
      | some artifact =>
        if maxBytes < artifact.size then .error (.productionAdapterError "FTP sitelist artifact exceeds lease max_bytes")
        else
          match artifact.parsed with
          | .error message => .error (.productionAdapterError message)
          | .ok records => .ok (records, 1, artifact.size)

def sourceRecord (item : FtpSitelistRecord) : SourceRecord where
  sourceId := a.sourceId
  locator := a.source ++ ":member:" ++ item.memberName ++ ":record:" ++ toString item.recordIndex
  payload := py item.hostname
  sourceYear := some item.year
  sourceTime := some (py item.sourceTime)
  recordType := "FTP_SITELIST_SITE"
  artifactRef := a.source
  directYearMask := if grantsDirectWebYear a.evidenceContract then yearBit item.year else 0
  yearHintMask := if grantsDirectWebYear a.evidenceContract then 0 else yearBit item.year
  evidenceType := if grantsDirectWebYear a.evidenceContract then a.evidenceContract.evidenceType else []
  temporalSemantics := if grantsDirectWebYear a.evidenceContract then a.evidenceContract.temporalSemantics else []
  evidenceContractId := if grantsDirectWebYear a.evidenceContract then a.evidenceContract.contractId else []
  evidenceContractVersion := if grantsDirectWebYear a.evidenceContract then a.evidenceContract.policyVersion else []

/-- Where the loop of a lease stands: the clock has been read `reading` times. -/
structure Progress where
  index : Nat
  emitted : List SourceRecord
  reading : Nat
  downstreamWait : ℚ

/-- The loop of `execute_stream`, with the items that are left. -/
def stream (lease : WorkLease) (clock : Nat → ℚ) : List FtpSitelistRecord → Progress → Progress
  | [], at_ => at_
  | item :: rest, at_ =>
    if lease.maxRecords ≤ at_.emitted.length then at_
    else if lease.maxSeconds ≤ clock at_.reading - clock 0 - at_.downstreamWait then { at_ with reading := at_.reading + 1 }
    else if yearBit item.year = 0 then stream lease clock rest { at_ with index := at_.index + 1, reading := at_.reading + 1 }
    else
      stream lease clock rest
        { index := at_.index + 1
          emitted := at_.emitted ++ [a.sourceRecord item]
          reading := at_.reading + 3
          downstreamWait := at_.downstreamWait + (clock (at_.reading + 2) - clock (at_.reading + 1)) }

/-- A lease that is answered before anything is read. -/
def unspent (lease : WorkLease) : LeaseResult := ⟨lease.leaseId, 0, 0, 0, 0, some (lease.cursorStart.getD (py "record:0"))⟩

/-- Whether a lease is answered so: it has no time, or no request for an archive that is not there yet. -/
def idle (lease : WorkLease) : Bool :=
  lease.maxRecords ≤ 0 || lease.maxSeconds ≤ 0 || (a.loaded.isNone && lease.maxRequests ≤ 0)

/-- `execute_stream`: the result, the emitted records, and the adapter after it. -/
def executeStream (artifact : Option Artifact) (clock : Nat → ℚ) (lease : WorkLease) :
    Except AdapterError LeaseResult × List SourceRecord × FtpSitelistProductionAdapter :=
  match cursorIndex lease.cursorStart with
  | .error raised => (.error raised, [], a)
  | .ok start =>
    if a.idle lease then (.ok (unspent lease), [], a)
    else
      match a.load artifact lease.maxBytes with
      | .error raised => (.error raised, [], a)
      | .ok (records, opened, bytesRead) =>
        let after := { a with loaded := some records }
        if records.length < start then (.error (.productionAdapterError "FTP sitelist cursor exceeds record count"), [], after)
        else
          let done := after.stream lease clock (records.drop start) ⟨start, [], 1, 0⟩
          (.ok {
            leaseId := lease.leaseId
            records := done.emitted.length
            requests := opened
            bytesRead := bytesRead
            elapsedSeconds := max 0 (clock done.reading - clock 0 - done.downstreamWait)
            nextCursor := if records.length ≤ done.index then none else some (writeCursor "record:" done.index) }, done.emitted, after)

end FtpSitelistProductionAdapter

/-! ## Chains of leases -/

/-- What a lease of a chain is given: its bounds, the readings of the clock, and whether the artifact can be read. -/
structure Budget where
  leaseId : String
  maxRecords : Nat
  maxRequests : Nat
  maxBytes : Nat
  maxSeconds : ℚ
  clock : Nat → ℚ
  readable : Bool

def Budget.lease (b : Budget) (cursor : Option PyStr) : WorkLease := ⟨b.leaseId, cursor, b.maxRecords, b.maxRequests, b.maxBytes, b.maxSeconds⟩

inductive Event
  | lease (budget : Budget)
  | rebuild

/-- A chain: the adapter, the last cursor, whether it was none, and what has been emitted. -/
structure Chain where
  adapter : FtpSitelistProductionAdapter
  cursor : Option PyStr
  exhausted : Bool
  emitted : List SourceRecord

/-- The next lease of a chain; an exhausted chain has none. -/
def step (artifact : Artifact) (s : Chain) : Event → Option (Except AdapterError LeaseResult) × Chain
  | .rebuild => (none, { s with adapter := { s.adapter with loaded := none } })
  | .lease b =>
    if s.exhausted then (none, s)
    else
      match s.adapter.executeStream (if b.readable then some artifact else none) b.clock (b.lease s.cursor) with
      | (.error raised, emitted, adapter) => (some (.error raised), { s with adapter := adapter, emitted := s.emitted ++ emitted })
      | (.ok result, emitted, adapter) =>
        (some (.ok result), ⟨adapter, result.nextCursor, result.nextCursor.isNone, s.emitted ++ emitted⟩)

def leasing (artifact : Artifact) (a : FtpSitelistProductionAdapter) : Machine Chain Event (Option (Except AdapterError LeaseResult)) :=
  ⟨⟨{ a with loaded := none }, none, false, []⟩, step artifact⟩

/-! ## What a lease passes -/

def inYear (item : FtpSitelistRecord) : Bool := item.year ∈ targetYears

section
variable (a : FtpSitelistProductionAdapter)

/-- The loop passes over a run of the items, and over at least one where it has the time and a record to emit. -/
theorem stream_passes (lease : WorkLease) (clock : Nat → ℚ) (items : List FtpSitelistRecord) (at_ : FtpSitelistProductionAdapter.Progress) :
    ∃ passed ≤ items.length, (a.stream lease clock items at_).index = at_.index + passed ∧
      (a.stream lease clock items at_).emitted = at_.emitted ++ ((items.take passed).filter inYear).map a.sourceRecord ∧
      (items ≠ [] → at_.emitted.length < lease.maxRecords → clock at_.reading - clock 0 - at_.downstreamWait < lease.maxSeconds → 0 < passed) := by
  induction items generalizing at_ with
  | nil => exact ⟨0, le_rfl, rfl, by simp [FtpSitelistProductionAdapter.stream], fun filled => absurd rfl filled⟩
  | cons item rest ih =>
    unfold FtpSitelistProductionAdapter.stream
    by_cases full : lease.maxRecords ≤ at_.emitted.length
    · rw [if_pos full]
      exact ⟨0, Nat.zero_le _, rfl, by simp, fun _ room => absurd room (not_lt.mpr full)⟩
    rw [if_neg full]
    by_cases late : lease.maxSeconds ≤ clock at_.reading - clock 0 - at_.downstreamWait
    · rw [if_pos late]
      exact ⟨0, Nat.zero_le _, rfl, by simp, fun _ _ early => absurd early (not_lt.mpr late)⟩
    rw [if_neg late]
    by_cases outside : yearBit item.year = 0
    · have skipped : inYear item = false := decide_eq_false ((yearBit_zero _).mp outside)
      rw [if_pos outside]
      obtain ⟨passed, within, index, emitted, -⟩ := ih { at_ with index := at_.index + 1, reading := at_.reading + 1 }
      refine ⟨passed + 1, Nat.succ_le_succ within, index.trans (Nat.succ_add_eq_add_succ _ _), ?_, fun _ _ _ => Nat.succ_pos _⟩
      rw [emitted, List.take_succ_cons, List.filter_cons_of_neg (by simp [skipped])]
    · have kept : inYear item = true := decide_eq_true (by_contra fun none_ => outside ((yearBit_zero _).mpr none_))
      rw [if_neg outside]
      obtain ⟨passed, within, index, emitted, -⟩ := ih
        { index := at_.index + 1
          emitted := at_.emitted ++ [a.sourceRecord item]
          reading := at_.reading + 3
          downstreamWait := at_.downstreamWait + (clock (at_.reading + 2) - clock (at_.reading + 1)) }
      refine ⟨passed + 1, Nat.succ_le_succ within, index.trans (Nat.succ_add_eq_add_succ _ _), ?_, fun _ _ _ => Nat.succ_pos _⟩
      rw [emitted, List.take_succ_cons, List.filter_cons_of_pos kept, List.map_cons, List.append_assoc, List.singleton_append]

end

theorem cursorIndex_writeCursor (n : Nat) : cursorIndex (some (writeCursor "record:" n)) = .ok n := by
  rw [cursorIndex, readCursor_writeCursor]

/-- The first record that the cursor of a chain has not passed. -/
def Chain.index (s : Chain) : Nat :=
  match cursorIndex s.cursor with
  | .ok index => index
  | .error _ => 0

/-- How many of the records a chain has passed. -/
def Chain.passed (records : List FtpSitelistRecord) (s : Chain) : Nat := if s.exhausted then records.length else s.index

/-- Where a chain stands: an exhausted chain is behind every cursor. -/
def Chain.position (s : Chain) : WithTop Nat := if s.exhausted then ⊤ else s.index

section
variable (artifact : Artifact) (records : List FtpSitelistRecord) (a : FtpSitelistProductionAdapter)

/-- What every chain over an archive keeps. -/
structure Sound (s : Chain) : Prop where
  adapter : s.adapter = { a with loaded := none } ∨ s.adapter = { a with loaded := some records }
  reads : s.exhausted = false → cursorIndex s.cursor = .ok s.index
  within : s.exhausted = false → s.index < records.length ∨ s.index = 0
  emitted : s.emitted = ((records.take (s.passed records)).filter inYear).map a.sourceRecord

inductive Ends (s : Chain) (b : Budget) : Option (Except AdapterError LeaseResult) × Chain → Prop
  | idle (unspent : s.adapter.idle (b.lease s.cursor) = true) :
    Ends s b (some (.ok (FtpSitelistProductionAdapter.unspent (b.lease s.cursor))), { s with cursor := some (s.cursor.getD (py "record:0")) })
  | refused (spends : s.adapter.idle (b.lease s.cursor) = false) (raised : AdapterError) (unloaded : s.adapter.loaded = none)
    (large : b.readable = true → b.maxBytes < artifact.size) : Ends s b (some (.error raised), s)
  | passes (spends : s.adapter.idle (b.lease s.cursor) = false) (result : LeaseResult) (next : Nat) (from_ : s.index ≤ next)
    (until_ : next ≤ records.length)
    (cursor : result.nextCursor = if records.length ≤ next then none else some (writeCursor "record:" next))
    (moves : s.index < records.length → b.clock 1 - b.clock 0 < b.maxSeconds → s.index < next) :
    Ends s b (some (.ok result), ⟨{ a with loaded := some records }, result.nextCursor, result.nextCursor.isNone,
      ((records.take next).filter inYear).map a.sourceRecord⟩)

variable {artifact records a} {s : Chain}

theorem load_cases (sound : Sound records a s) (parsed : artifact.parsed = .ok records) (readable : Bool) (maxBytes : Nat) :
    (∃ raised, s.adapter.load (if readable then some artifact else none) maxBytes = .error raised ∧ s.adapter.loaded = none ∧
      (readable = true → maxBytes < artifact.size)) ∨
    ∃ opened bytesRead, s.adapter.load (if readable then some artifact else none) maxBytes = .ok (records, opened, bytesRead) := by
  have filled := artifact.filled records parsed
  rcases sound.adapter with fresh | kept
  · rw [fresh]
    unfold FtpSitelistProductionAdapter.load
    dsimp only
    by_cases none_ : maxBytes < 1
    · rw [if_pos none_]
      exact .inl ⟨_, rfl, rfl, fun _ => by omega⟩
    rw [if_neg none_]
    cases readable with
    | false => exact .inl ⟨_, rfl, rfl, fun no => absurd no Bool.false_ne_true⟩
    | true =>
      simp only [if_true]
      by_cases large : maxBytes < artifact.size
      · rw [if_pos large]
        exact .inl ⟨_, rfl, trivial, fun _ => large⟩
      · rw [if_neg large, parsed]
        exact .inr ⟨1, artifact.size, rfl⟩
  · rw [kept]
    exact .inr ⟨0, 0, rfl⟩

theorem step_idle (artifact : Artifact) {s : Chain} (going : s.exhausted = false) {n : Nat} (reads : cursorIndex s.cursor = .ok n) {b : Budget}
    (idle : s.adapter.idle (b.lease s.cursor) = true) : step artifact s (.lease b) =
      (some (.ok (FtpSitelistProductionAdapter.unspent (b.lease s.cursor))), { s with cursor := some (s.cursor.getD (py "record:0")) }) := by
  have start : cursorIndex (b.lease s.cursor).cursorStart = .ok n := reads
  unfold step
  dsimp only
  rw [if_neg (Bool.eq_false_iff.mp going)]
  unfold FtpSitelistProductionAdapter.executeStream
  rw [start]
  dsimp only
  rw [if_pos idle]
  dsimp only
  rw [List.append_nil, show (FtpSitelistProductionAdapter.unspent (b.lease s.cursor)).nextCursor.isNone = s.exhausted from going.symm]
  rfl

theorem lease_ends (sound : Sound records a s) (parsed : artifact.parsed = .ok records) (going : s.exhausted = false) (b : Budget) :
    Ends artifact records a s b (step artifact s (.lease b)) := by
  have start : cursorIndex (b.lease s.cursor).cursorStart = .ok s.index := sound.reads going
  have bound : s.index ≤ records.length := by rcases sound.within going with less | zero <;> omega
  have kept := sound.emitted
  rw [show s.passed records = s.index by rw [Chain.passed, going]; rfl] at kept
  cases unspent : s.adapter.idle (b.lease s.cursor) with
  | true =>
    rw [step_idle artifact going (sound.reads going) unspent]
    exact .idle unspent
  | false =>
    unfold step
    dsimp only
    rw [if_neg (Bool.eq_false_iff.mp going)]
    unfold FtpSitelistProductionAdapter.executeStream
    rw [start]
    dsimp only
    rw [if_neg (Bool.eq_false_iff.mp unspent)]
    rcases load_cases sound parsed b.readable (b.lease s.cursor).maxBytes with ⟨raised, failed, unloaded, large⟩ | ⟨opened, bytesRead, loads⟩
    · rw [failed]
      dsimp only
      rw [List.append_nil]
      exact .refused unspent raised unloaded large
    · have loaded : (⟨s.adapter.sourceId, s.adapter.source, s.adapter.evidenceContract, some records⟩ : FtpSitelistProductionAdapter) =
          { a with loaded := some records } := by
        rcases sound.adapter with same | same <;> rw [same]
      rw [loads]
      dsimp only
      rw [if_neg (not_lt.mpr bound)]
      dsimp only
      rw [loaded]
      obtain ⟨passed, within, index, emitted, moves⟩ :=
        stream_passes { a with loaded := some records } (b.lease s.cursor) b.clock (records.drop s.index) ⟨s.index, [], 1, 0⟩
      rw [List.length_drop] at within
      have all_ : s.emitted ++ (((records.drop s.index).take passed).filter inYear).map a.sourceRecord =
          ((records.take (s.index + passed)).filter inYear).map a.sourceRecord := by
        rw [kept, List.take_add, List.filter_append, List.map_append]
      rw [emitted, List.nil_append, index]
      change Ends artifact records a s b (_, ⟨_, _, _, s.emitted ++ (((records.drop s.index).take passed).filter inYear).map a.sourceRecord⟩)
      rw [all_]
      refine .passes unspent _ (s.index + passed) (Nat.le_add_right _ _) (by omega) rfl fun left early => ?_
      have room : 0 < b.maxRecords := by
        by_contra none_
        have : s.adapter.idle (b.lease s.cursor) = true := by
          simp [FtpSitelistProductionAdapter.idle, Budget.lease, Nat.eq_zero_of_not_pos none_]
        exact absurd this (by simp [unspent])
      have some_ : records.drop s.index ≠ [] := by simpa using left
      have := moves some_ room (by simpa [Budget.lease] using early)
      omega

theorem cursorIndex_getD (cursor : Option PyStr) : cursorIndex (some (cursor.getD (py "record:0"))) = cursorIndex cursor := by
  cases cursor with
  | none => exact cursorIndex_writeCursor 0
  | some _ => rfl

theorem index_of {adapter : FtpSitelistProductionAdapter} {cursor : Option PyStr} {exhausted : Bool} {emitted : List SourceRecord} {n : Nat}
    (reads : cursorIndex cursor = .ok n) : Chain.index ⟨adapter, cursor, exhausted, emitted⟩ = n := by
  rw [Chain.index, reads]

theorem sound_ends (sound : Sound records a s) (going : s.exhausted = false) {b : Budget}
    {answer : Option (Except AdapterError LeaseResult) × Chain} (ends : Ends artifact records a s b answer) : Sound records a answer.2 := by
  have here : s.passed records = s.index := by rw [Chain.passed, going]; rfl
  cases ends with
  | idle unspent =>
    have reads := (cursorIndex_getD s.cursor).trans (sound.reads going)
    have same : Chain.index { s with cursor := some (s.cursor.getD (py "record:0")) } = s.index := index_of reads
    refine ⟨sound.adapter, fun _ => same ▸ reads, fun _ => same ▸ sound.within going, ?_⟩
    have kept := sound.emitted
    rw [here] at kept
    rw [Chain.passed, same]
    simpa [going] using kept
  | refused => exact sound
  | passes spends result next from_ until_ cursor moves =>
    by_cases all_ : records.length ≤ next
    · have last : next = records.length := le_antisymm until_ all_
      rw [if_pos all_] at cursor
      refine ⟨.inr rfl, fun going => ?_, fun going => ?_, ?_⟩
      · simp [cursor] at going
      · simp [cursor] at going
      · simp [Chain.passed, cursor, last]
    · rw [if_neg all_] at cursor
      have reads : cursorIndex result.nextCursor = .ok next := cursor ▸ cursorIndex_writeCursor next
      refine ⟨.inr rfl, fun _ => ?_, fun _ => ?_, ?_⟩
      · rw [index_of reads]
        exact reads
      · rw [index_of reads]
        exact .inl (not_le.mp all_)
      · rw [Chain.passed, index_of reads]
        simp [cursor]

theorem sound_step (sound : Sound records a s) (parsed : artifact.parsed = .ok records) (e : Event) : Sound records a (step artifact s e).2 := by
  cases e with
  | rebuild =>
    refine ⟨.inl ?_, sound.reads, sound.within, sound.emitted⟩
    rcases sound.adapter with same | same <;> simp only [step, same]
  | lease b =>
    cases going : s.exhausted with
    | true =>
      have same : step artifact s (.lease b) = (none, s) := by rw [step, if_pos going]
      rw [same]
      exact sound
    | false => exact sound_ends sound going (lease_ends sound parsed going b)

theorem sound_final (parsed : artifact.parsed = .ok records) (es : List Event) : Sound records a ((leasing artifact a).final es) := by
  induction es using List.reverseRecOn with
  | nil =>
    exact ⟨.inl rfl, fun _ => rfl, fun _ => .inr rfl, rfl⟩
  | append_singleton es e ih =>
    rw [Machine.final_snoc]
    exact sound_step ih parsed e

/-! ## Every record once -/

/-- What a chain of leases does, as far as its leases meet a condition. -/
structure EmitsOnce (artifact : Artifact) (records : List FtpSitelistRecord) (a : FtpSitelistProductionAdapter)
    (meets : Chain → Budget → Prop) (es : List Event) : Prop where
  /-- What has been emitted are the records of a target year among those that are passed, in order and each once. -/
  emitted : ((leasing artifact a).final es).emitted =
    ((records.take (((leasing artifact a).final es).passed records)).filter inYear).map a.sourceRecord
  /-- When the last cursor is none, all of them have been emitted. -/
  complete : ((leasing artifact a).final es).exhausted = true →
    ((leasing artifact a).final es).emitted = (records.filter inYear).map a.sourceRecord
  /-- A lease that has time for one step moves the cursor forward. -/
  moves : ∀ taken ∈ (leasing artifact a).trace es, ∀ b result, taken.event = .lease b → taken.outcome = some (.ok result) →
    meets taken.before b → b.clock 1 - b.clock 0 < b.maxSeconds → taken.before.position < taken.after.position
  /-- The next cursor is none exactly when all records are passed. -/
  ends : ∀ taken ∈ (leasing artifact a).trace es, ∀ b result, taken.event = .lease b → taken.outcome = some (.ok result) →
    meets taken.before b → (result.nextCursor = none ↔ taken.after.passed records = records.length)
  /-- Only a rebuilt adapter refuses, and an archive that can be read only when it is longer than the lease allows. -/
  refuses : ∀ taken ∈ (leasing artifact a).trace es, ∀ b raised, taken.event = .lease b → taken.outcome = some (.error raised) →
    taken.before.adapter.loaded = none ∧ (b.readable = true → b.maxBytes < artifact.size)

/-- A lease that has no time, or no request for an archive that is not loaded, passes nothing and answers with the cursor it began at. -/
def IdleKeeps (artifact : Artifact) (a : FtpSitelistProductionAdapter) (es : List Event) : Prop :=
  ∀ taken ∈ (leasing artifact a).trace es, ∀ b result, taken.event = .lease b → taken.outcome = some (.ok result) →
    taken.before.adapter.idle (b.lease taken.before.cursor) = true →
      result.nextCursor = some (taken.before.cursor.getD (py "record:0")) ∧ taken.after.emitted = taken.before.emitted ∧
        taken.after.position = taken.before.position

/-- The lease of a step of a chain, in a state that is sound. -/
theorem taken_ends (parsed : artifact.parsed = .ok records) {es : List Event} {taken : Step Chain Event (Option (Except AdapterError LeaseResult))}
    (member : taken ∈ (leasing artifact a).trace es) {b : Budget} (isLease : taken.event = .lease b)
    (answered : taken.outcome ≠ none) :
    Sound records a taken.before ∧ taken.before.exhausted = false ∧ Ends artifact records a taken.before b (taken.outcome, taken.after) := by
  obtain ⟨before, after, -, same⟩ := (leasing artifact a).mem_trace member
  have sound : Sound records a taken.before := by
    rw [same]
    exact sound_final parsed before
  have stepped : (taken.outcome, taken.after) = step artifact taken.before (.lease b) := by
    rw [← isLease, same]
    rfl
  have going : taken.before.exhausted = false := by
    cases done : taken.before.exhausted with
    | false => rfl
    | true =>
      rw [step, if_pos done] at stepped
      exact absurd (congrArg Prod.fst stepped) answered
  refine ⟨sound, going, ?_⟩
  rw [stepped]
  exact lease_ends sound parsed going b

theorem position_going {s : Chain} (going : s.exhausted = false) : s.position = s.index := by
  rw [Chain.position, going]
  rfl

section
variable {b : Budget} {after : Chain}

theorem ends_moves (going : s.exhausted = false) {result : LeaseResult}
    (ends : Ends artifact records a s b (some (.ok result), after)) (spends : s.adapter.idle (b.lease s.cursor) = false)
    (early : b.clock 1 - b.clock 0 < b.maxSeconds) : s.position < after.position := by
  rw [position_going going]
  cases ends with
  | idle unspent => exact absurd unspent (by simp [spends])
  | passes _ _ next from_ until_ cursor moves =>
    by_cases all_ : records.length ≤ next
    · rw [if_pos all_] at cursor
      simp [Chain.position, cursor]
    · rw [if_neg all_] at cursor
      have reads : cursorIndex result.nextCursor = .ok next := cursor ▸ cursorIndex_writeCursor next
      have less := moves (by omega) early
      rw [Chain.position, index_of reads]
      simpa [cursor] using less

theorem ends_end {result : LeaseResult} (ends : Ends artifact records a s b (some (.ok result), after))
    (spends : s.adapter.idle (b.lease s.cursor) = false) : result.nextCursor = none ↔ after.passed records = records.length := by
  cases ends with
  | idle unspent => exact absurd unspent (by simp [spends])
  | passes _ _ next from_ until_ cursor moves =>
    by_cases all_ : records.length ≤ next
    · rw [if_pos all_] at cursor
      simp [Chain.passed, cursor]
    · rw [if_neg all_] at cursor
      have reads : cursorIndex result.nextCursor = .ok next := cursor ▸ cursorIndex_writeCursor next
      rw [Chain.passed, index_of reads]
      simp [cursor]
      omega

theorem ends_refuses {raised : AdapterError} (ends : Ends artifact records a s b (some (.error raised), after)) :
    s.adapter.loaded = none ∧ (b.readable = true → b.maxBytes < artifact.size) := by
  cases ends with
  | refused _ _ unloaded large => exact ⟨unloaded, large⟩

theorem ends_idle (sound : Sound records a s) (going : s.exhausted = false) {result : LeaseResult}
    (ends : Ends artifact records a s b (some (.ok result), after)) (idle : s.adapter.idle (b.lease s.cursor) = true) :
    result.nextCursor = some (s.cursor.getD (py "record:0")) ∧ after.emitted = s.emitted ∧ after.position = s.position := by
  cases ends with
  | idle unspent =>
    have same : Chain.index { s with cursor := some (s.cursor.getD (py "record:0")) } = s.index :=
      index_of ((cursorIndex_getD s.cursor).trans (sound.reads going))
    exact ⟨rfl, rfl, by rw [Chain.position, Chain.position, same]⟩
  | passes spends => exact absurd idle (by simp [spends])

end

theorem idle_keeps (parsed : artifact.parsed = .ok records) (a : FtpSitelistProductionAdapter) (es : List Event) : IdleKeeps artifact a es := by
  intro taken member b result isLease outcome idle
  obtain ⟨sound, going, ends⟩ := taken_ends parsed member isLease (by simp [outcome])
  exact ends_idle sound going (outcome ▸ ends) idle

end

def archive (bytes : Nat) (records : List FtpSitelistRecord) : Artifact := ⟨bytes + 1, .ok records, fun _ _ => Nat.succ_pos _⟩

/-- A chain emits every record of a target year once; a lease moves the cursor forward and reports the end exactly, unless it is idle. -/
theorem emits_once (bytes : Nat) (records : List FtpSitelistRecord) (a : FtpSitelistProductionAdapter) (es : List Event) :
    EmitsOnce (archive bytes records) records a (fun s b => s.adapter.idle (b.lease s.cursor) = false) es ∧
      IdleKeeps (archive bytes records) a es := by
  have parsed : (archive bytes records).parsed = .ok records := rfl
  have sound := sound_final (a := a) parsed es
  refine ⟨⟨sound.emitted, fun done => ?_, ?_, ?_, ?_⟩, idle_keeps parsed a es⟩
  · have all_ := sound.emitted
    rwa [Chain.passed, done, if_pos rfl, List.take_length] at all_
  · intro taken member b result isLease outcome spends early
    obtain ⟨-, going, ends⟩ := taken_ends parsed member isLease (by simp [outcome])
    exact ends_moves going (outcome ▸ ends) spends early
  · intro taken member b result isLease outcome spends
    obtain ⟨-, -, ends⟩ := taken_ends parsed member isLease (by simp [outcome])
    exact ends_end (outcome ▸ ends) spends
  · intro taken member b raised isLease outcome
    obtain ⟨-, -, ends⟩ := taken_ends parsed member isLease (by simp [outcome])
    exact ends_refuses (outcome ▸ ends)

/-- A lease that has time but no request leaves the cursor of a rebuilt adapter where it was. -/
theorem requestless_stays : ∃ (records : List FtpSitelistRecord) (a : FtpSitelistProductionAdapter) (b : Budget),
    1 ≤ b.maxRecords ∧ ¬EmitsOnce (archive 1000 records) records a (fun _ _ => True) [.lease b] := by
  let site : FtpSitelistRecord := ⟨"ftp.example.org", "1998-02-03", 1998, "sitelist.txt", 0⟩
  let a : FtpSitelistProductionAdapter := ⟨"ftp", "https://example.org/sitelist.zip", ⟨[], .discoveryOnly, [], [], [], none, none, []⟩, none⟩
  let b : Budget := ⟨"lease", 1, 0, 2000, 1, fun _ => 0, true⟩
  refine ⟨[site], a, b, le_rfl, fun claimed => ?_⟩
  let taken := (leasing (archive 1000 [site]) a).take (leasing (archive 1000 [site]) a).initial (.lease b)
  have member : taken ∈ (leasing (archive 1000 [site]) a).trace [.lease b] := List.mem_cons_self
  have idle : taken.before.adapter.idle (b.lease taken.before.cursor) = true := by decide +kernel
  have answered : taken.outcome = some (.ok (FtpSitelistProductionAdapter.unspent (b.lease none))) :=
    congrArg Prod.fst (step_idle (archive 1000 [site]) (s := (leasing (archive 1000 [site]) a).initial) rfl rfl idle)
  have moved := claimed.moves taken member b _ rfl answered trivial (by decide +kernel)
  have kept := (idle_keeps rfl a [.lease b] taken member b _ rfl answered idle).2.2
  exact absurd kept moved.ne'

end Creeper.SitelistLeases
