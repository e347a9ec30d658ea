import Creeper.DigestNumbers
import Creeper.EvidenceBridge
import Creeper.ResultLog

/-!
# Consuming the batches of a shard

`FabricRegionHarvestExecutor._execute_http_region` polls the authority for the batches of a
bulk task, emits the witnesses they hold and returns with the summary of the last batch. The
batches are marked as consumed only when the whole region has been harvested, and a poll reads
no more than 256 of the unconsumed ones: of a longer shard the last batches are never read.
-/

namespace Creeper.ShardConsumption
open Creeper.Runs Creeper.Tables Creeper.PyNumbers Creeper.PyText Creeper.JsonText Creeper.FabricModels Creeper.AuthorityStore
open Creeper.ResultLog
open Creeper.BatchPayload (member charsOf)
open Creeper.EvidenceBridge (Python text textOrEmpty number count items isMapping intOf)

/-! ## Witnesses -/

structure HostYearWitness where
  hostname : String
  year : Int
  sourceId : String
  locator : String
  sourceTime : Option String
  recordType : String
  artifactRef : String
  originalUrl : String

/-- What `HostYearWitness.__post_init__` accepts. -/
def HostYearWitness.accepted (py : Python) (w : HostYearWitness) : Bool :=
  py.normalizeOfficial w.hostname = some w.hostname && (1996 ≤ w.year && w.year ≤ 2001) &&
    !(w.sourceId.isEmpty || w.locator.isEmpty || w.originalUrl.isEmpty)

structure HostYearWitnessGroup where
  hostname : String
  witnesses : List HostYearWitness
  captureCount : Int

/-- What `HostYearWitnessGroup.__post_init__` accepts. -/
def HostYearWitnessGroup.accepted (py : Python) (g : HostYearWitnessGroup) : Bool :=
  py.normalizeOfficial g.hostname = some g.hostname && decide ((g.witnesses.map (·.year)).Pairwise (· < ·)) &&
    g.witnesses.length ≤ g.captureCount

/-- A `SourceRecord` of a witness. -/
structure SourceRecord where
  sourceId : String
  locator : String
  payload : String
  sourceYear : Int
  recordType : String
  sourceTime : Option String
  artifactRef : String
  directYearMask : Nat
  deriving DecidableEq

section
variable (py : Python) (raw : Json)

/-- `None if raw.get(name) is None else str(raw[name])`. -/
def optionalTextOf (name : String) : Option (Option String) :=
  match member raw name with
  | none | some .null => some none
  | some value => (py.str value).map some

/-- An item of `witnesses`, as `deserialize_witness_group` reads it. -/
def deserializeWitness : Option HostYearWitness := do
  if !isMapping raw then none
  else
    let witness : HostYearWitness := {
      hostname := ← text py raw "hostname"
      year := ← number raw "year"
      sourceId := ← text py raw "source_id"
      locator := ← text py raw "locator"
      sourceTime := ← optionalTextOf py raw "source_time"
      recordType := ← textOrEmpty py raw "record_type"
      artifactRef := ← textOrEmpty py raw "artifact_ref"
      originalUrl := ← text py raw "original_url" }
    if witness.accepted py then some witness else none

/-- `deserialize_witness_group`, past the check of the kind; nothing when it raises. -/
def deserializeWitnessGroup : Option HostYearWitnessGroup := do
  let group : HostYearWitnessGroup := {
    witnesses := ← (← items raw "witnesses").mapM (deserializeWitness py)
    hostname := ← text py raw "hostname"
    captureCount := ← number raw "capture_count" }
  if group.accepted py then some group else none

end

/-- `witness_to_source_record`; nothing when the constructor raises. -/
def witnessToSourceRecord (w : HostYearWitness) : Option SourceRecord :=
  if blank w.sourceId || blank w.locator then none
  else some {
    sourceId := w.sourceId, locator := w.locator, payload := w.originalUrl, sourceYear := w.year,
    recordType := w.recordType, sourceTime := w.sourceTime, artifactRef := w.artifactRef,
    directYearMask := 2 ^ (w.year - 1996).toNat }

/-! ## The call -/

/-- What ends the call: a `RegionHarvestError` by its cause, or another exception. -/
inductive HarvestFailure
  | invalidBatch
  | notAnObject
  | duplicateSummary
  | unexpectedKind (kind : Option String)
  | died (lastError : Option String)
  | timedOut
  | raised
  deriving DecidableEq

/-- The text of a `RegionHarvestError`. -/
def HarvestFailure.text : HarvestFailure → Option String
  | .invalidBatch => some "invalid Fabric bulk result batch"
  | .notAnObject => some "Fabric bulk result must be an object"
  | .duplicateSummary => some "Fabric bulk task emitted duplicate summary"
  | .unexpectedKind kind => kind.map ("unexpected Fabric bulk result kind: " ++ ·)
  | .died lastError => some ("Fabric bulk task died: " ++ strOf lastError)
  | .timedOut => some "timed out waiting for Fabric bulk worker"
  | .raised => none

/-- What an item of a batch holds. -/
inductive Item
  | group (records : List SourceRecord)
  | summary (fields : Json)

def Item.records : Item → List SourceRecord
  | .group records => records
  | .summary _ => []

def Item.summary? : Item → Option Json
  | .group _ => none
  | .summary fields => some fields

def readItem (py : Python) (item : Json) : Except HarvestFailure Item :=
  if !isMapping item then .error .notAnObject
  else
    match textOrEmpty py item "kind" with
    | some "BULK_WITNESS_GROUP" =>
      match (deserializeWitnessGroup py item).bind (·.witnesses.mapM witnessToSourceRecord) with
      | some records => .ok (.group records)
      | none => .error .raised
    | some "BULK_SUMMARY" => .ok (.summary item)
    | kind => .error (.unexpectedKind kind)

/-- `_json_object(payload_json)["results"]`. -/
def readResults (payload : PyStr) : Except HarvestFailure (List Json) :=
  match loads payload with
  | some (.obj members) =>
    match items (.obj members) "results" with
    | some values => .ok values
    | none => .error .invalidBatch
  | _ => .error .raised

/-- The state of the call: the batches it has processed, which are pending, the records that it
    has emitted and the summary. -/
structure Progress where
  seen : List String
  emitted : List SourceRecord
  summary : Option Json

def Progress.start : Progress := ⟨[], [], none⟩

def Progress.accept (p : Progress) : Item → Except HarvestFailure Progress
  | .group records => .ok { p with emitted := p.emitted ++ records }
  | .summary fields => if p.summary.isSome then .error .duplicateSummary else .ok { p with summary := some fields }

/-- The loop over the items of a batch. -/
def readItems (py : Python) : Progress → List Json → Except HarvestFailure Progress
  | p, [] => .ok p
  | p, item :: rest =>
    match readItem py item with
    | .error e => .error e
    | .ok read =>
      match p.accept read with
      | .error e => .error e
      | .ok p => readItems py p rest

/-- The loop over the rows of a poll. -/
def readRows (py : Python) : Progress → List BatchRow → Except HarvestFailure Progress
  | p, [] => .ok p
  | p, row :: rest =>
    if row.batchId ∈ p.seen then readRows py p rest
    else
      match readResults row.payloadJson with
      | .error e => .error e
      | .ok values =>
        match readItems py { p with seen := p.seen ++ [row.batchId] } values with
        | .error e => .error e
        | .ok p => readRows py p rest

/-- `unconsumed_batches_for_task`. -/
def unconsumedBatchesForTask (s : Store) (taskId : String) (limit : Int) : Except PyError (List BatchRow) :=
  if blank taskId || limit < 1 then .error (.valueError "task_id and positive limit are required")
  else .ok (selectOrdered
    (s.resultBatches.rows.filter fun b => b.taskId = taskId && b.consumedAt.isNone && !b.quarantined)
    (fun a b => a.sequenceNo ≤ b.sequenceNo) limit.toNat)

structure LeaseResult where
  records : Int
  requests : Int
  bytesRead : Int
  elapsedSeconds : ℚ
  nextCursor : Option String
  deriving DecidableEq

/-- `float(value)`. -/
def secondsOf : Json → Option PyFloat
  | .int n => some (.fin n)
  | .bool value => some (.fin (if value then 1 else 0))
  | .float (.finite text _) => floatOf (String.ofList text)
  | .float .infinity => some .posInf
  | .float .negInfinity => some .negInf
  | .float .nan => some .nan
  | .str text => (charsOf text).bind fun chars => floatOf (String.ofList chars)
  | _ => none

/-- The result that the summary makes; nothing when a conversion or the constructor raises. -/
def leaseResult (summary : Json) : Option LeaseResult := do
  let records ← count summary "records"
  let requests ← ((member summary "requests").map intOf).getD (some 1)
  let bytesRead ← count summary "bytes_read"
  match ← ((member summary "elapsed_seconds").map secondsOf).getD (some (.fin 0)) with
  | .fin elapsedSeconds =>
    if records < 0 || requests < 0 || bytesRead < 0 || elapsedSeconds < 0 then none
    else some { records, requests, bytesRead, elapsedSeconds, nextCursor := none }
  | _ => none

/-- A round of the loop: the calls of others before the rows are read, their calls before the
    task is read, and the clock at the end of the round. -/
structure Look where
  before : List Event
  between : List Event
  clock : ℚ

/-- A round that nothing happens in. -/
def Look.still (clock : ℚ) : Look := ⟨[], [], clock⟩

/-- The call so far. -/
inductive Outcome
  | polling (p : Progress)
  | returned (result : LeaseResult) (p : Progress)
  | raised (e : HarvestFailure)

/-- The rounds of the loop. -/
def watch (py : Python) (taskId : String) (deadline : ℚ) : Store → Progress → List Look → Outcome
  | _, p, [] => .polling p
  | s, p, look :: later =>
    let reading := authority.finalFrom s look.before
    match unconsumedBatchesForTask reading taskId 256 with
    | .error _ => .raised .raised
    | .ok rows =>
      match readRows py p rows with
      | .error e => .raised e
      | .ok p =>
        let judged := authority.finalFrom reading look.between
        match taskRow judged taskId with
        | .error _ => .raised .raised
        | .ok row =>
          if row.state = .dead then .raised (.died row.lastError)
          else
            match if row.state = .complete then p.summary else none with
            | some summary =>
              match leaseResult summary with
              | some result => .returned result p
              | none => .raised .raised
            | none => if deadline ≤ look.clock then .raised .timedOut else watch py taskId deadline judged p later

/-- `FabricRegionHarvestExecutor._execute_http_region`, once it has its work. -/
def executeHttpRegion (py : Python) (s : Store) (now : ℚ) (drawn : String) (work : WorkDefinition) (deadline : ℚ)
    (looks : List Look) : Outcome :=
  match admitWork s now drawn work with
  | (.error _, _) => .raised .raised
  | (.ok (taskId, _), s) => watch py taskId deadline s .start looks

/-! ## The stored batches -/

/-- No batch of a task is consumed or quarantined. -/
def Unmarked (taskId : String) (s : Store) : Prop :=
  ∀ row ∈ s.resultBatches.rows, row.taskId = taskId → row.consumedAt = none ∧ row.quarantined = false

/-- The columns that the call reads of a row. -/
def cells (row : BatchRow) : String × Nat × PyStr := (row.batchId, row.sequenceNo, row.payloadJson)

/-- The same columns of a batch. -/
def written (batch : ResultBatch) : String × Nat × PyStr := (batch.batchId, batch.sequenceNo, batchPayload batch)

def stored (taskId : String) (s : Store) : List BatchRow := s.resultBatches.rows.filter (·.taskId = taskId)

section
variable {py : Python} {taskId : String} {s : Store}

theorem stored_marked (where_ : BatchRow → Bool) (set : BatchRow → BatchRow) (keeps : ∀ r, (set r).batchId = r.batchId)
    (same : ∀ r, cells (set r) = cells r) (task : ∀ r, (set r).taskId = r.taskId) :
    (stored taskId { s with resultBatches := s.resultBatches.update where_ set keeps }).map cells = (stored taskId s).map cells := by
  unfold stored
  rw [Table.rows_update]
  induction s.resultBatches.rows with
  | nil => rfl
  | cons row rows ih =>
    have sameTask : (if where_ row = true then set row else row).taskId = row.taskId := by split <;> simp [task]
    have sameCells : cells (if where_ row = true then set row else row) = cells row := by split <;> simp [same]
    simp only [List.map_cons, List.filter_cons, sameTask]
    split
    · rw [List.map_cons, List.map_cons, sameCells, ih]
    · exact ih

/-- Every call keeps the batches of a task that nobody marked, and stores what it accepts behind them. -/
theorem stored_step (unmarked : Unmarked taskId s) (e : Event) :
    (stored taskId (step s e).2).map cells = (stored taskId s).map cells ++ (newBatches taskId (taken s e)).map written := by
  have kept (other : ∀ b w i, e.op ≠ .commitResultBatch b w i)
      (same : (stored taskId (step s e).2).map cells = (stored taskId s).map cells) :
      (stored taskId (step s e).2).map cells = (stored taskId s).map cells ++ (newBatches taskId (taken s e)).map written := by
    rw [newBatches_of_other other, same, List.map_nil, List.append_nil]
  cases op : e.op with
  | commitResultBatch batch w i =>
    have outcome : (taken s e).outcome = .flag <$> (commitResultBatch s e.now batch w i).1 := by
      simp [taken, authority, step, op, Answer.reply]
    have after : (step s e).2 = (commitResultBatch s e.now batch w i).2 := by simp [step, op, Answer.reply]
    have accepts : accepted (taken s e) = if (commitResultBatch s e.now batch w i).1 = .ok true then some batch else none := by
      unfold accepted
      rw [show (taken s e).event.op = e.op from rfl, op, outcome]
      rcases (commitResultBatch s e.now batch w i).1 with error | (_ | _) <;> rfl
    rw [after, newBatches, accepts]
    have answer := commit_cases s e.now batch w i
    generalize commitResultBatch s e.now batch w i = result at answer
    cases answer with
    | accepted bytes encoded absent =>
      simp only [stored, Store.accept]
      rw [Table.rows_insert (by exact absent), List.filter_append, List.map_append, if_pos trivial]
      congr 1
      by_cases sameTask : batch.taskId = taskId
      · simp [sameTask, cells, written]
      · simp [sameTask]
    | _ => simp
  | markBatchConsumed id =>
    refine kept (by simp [op]) ?_
    simp only [step, op, Answer.reply, markBatchConsumed]
    exact stored_marked _ _ _ (fun _ => rfl) (fun _ => rfl)
  | markBatchConsumeFailed id err m =>
    refine kept (by simp [op]) ?_
    simp only [step, op, Answer.reply, markBatchConsumeFailed]
    repeat' split
    all_goals first
      | rfl
      | exact stored_marked _ _ _ (fun _ => rfl) (fun _ => rfl)
  | gcTransientState ret limit =>
    refine kept (by simp [op]) ?_
    simp only [step, op, Answer.reply, gcTransientState]
    repeat' split
    all_goals try rfl
    simp only [stored, Table.rows_delete, List.filter_filter]
    refine congrArg _ (List.filter_congr fun row member => ?_)
    by_cases sameTask : row.taskId = taskId
    · obtain ⟨fresh, sound⟩ := unmarked row member sameTask
      simp only [sameTask, decide_true, Bool.true_and, Bool.not_eq_true', List.any_eq_false, decide_eq_true_eq]
      intro other listed same
      obtain ⟨inside, disposable⟩ := List.mem_filter.mp (mem_selectOrdered listed)
      cases Table.row_unique inside member same
      simp [BatchRow.disposable, fresh, sound] at disposable
    · simp [sameTask]
  | _ =>
    refine kept (by simp [op]) ?_
    rw [stored, resultBatches_untouched s e (by simp [op]) (by simp [op]) (by simp [op]) (by simp [op])]
    rfl

/-- The batches of a task that nobody marks are those that it accepted. -/
theorem stored_log {es : List Event} (unmarked : ∀ before rest, es = before ++ rest → Unmarked taskId (authority.final before)) :
    (stored taskId (authority.final es)).map cells = (acceptedLog taskId es).map written := by
  induction es using List.reverseRecOn with
  | nil => rfl
  | append_singleton es e ih =>
    rw [Machine.final_snoc, acceptedLog_snoc, List.map_append]
    refine (stored_step (unmarked es [e] rfl) e).trans ?_
    rw [ih fun before rest split => unmarked before (rest ++ [e]) (by simp [split])]

theorem read_log {es : List Event} (unmarked : ∀ before rest, es = before ++ rest → Unmarked taskId (authority.final before))
    (named : blank taskId = false) :
    ∃ rows, unconsumedBatchesForTask (authority.final es) taskId 256 = .ok rows ∧ (rows.map (·.batchId)).Nodup ∧
      rows.map cells = ((acceptedLog taskId es).take 256).map written := by
  have all := stored_log unmarked
  have fresh : (authority.final es).resultBatches.rows.filter (fun b => b.taskId = taskId && b.consumedAt.isNone && !b.quarantined) =
      stored taskId (authority.final es) := by
    refine List.filter_congr fun row member => ?_
    by_cases sameTask : row.taskId = taskId
    · obtain ⟨fresh, sound⟩ := unmarked es [] (by simp) row member sameTask
      simp [sameTask, fresh, sound]
    · simp [sameTask]
  have numbers : (stored taskId (authority.final es)).map (·.sequenceNo) = List.range (acceptedLog taskId es).length := by
    rw [← (result_log_safe taskId es).numbered]
    have second := congrArg (List.map fun cell => cell.2.1) all
    rwa [List.map_map, List.map_map] at second
  have sorted : (stored taskId (authority.final es)).Pairwise fun a b => decide (a.sequenceNo ≤ b.sequenceNo) = true := by
    have rising : ((stored taskId (authority.final es)).map (·.sequenceNo)).Pairwise (· ≤ ·) := by
      rw [numbers]
      exact List.pairwise_lt_range.imp le_of_lt
    exact (List.pairwise_map.mp rising).imp (by simp)
  refine ⟨(stored taskId (authority.final es)).take 256, ?_, ?_, ?_⟩
  · rw [unconsumedBatchesForTask, if_neg (by simp [named]), fresh, selectOrdered, sorted.insertionSort_eq]
    rfl
  · exact (((List.take_sublist _ _).trans List.filter_sublist).map _).nodup (authority.final es).resultBatches.keyed
  · rw [List.map_take, all, List.map_take]

end

/-! ## Reading the batches -/

/-- What the payload of a batch holds, when it is well formed. -/
def contents (py : Python) (payload : PyStr) : Option (List Item) :=
  match readResults payload with
  | .ok values => values.mapM fun value => (readItem py value).toOption
  | .error _ => none

def summaries (read : List Item) : List Json := read.filterMap Item.summary?

@[simp] theorem summaries_group (records : List SourceRecord) (read : List Item) : summaries (.group records :: read) = summaries read :=
  List.filterMap_cons_none rfl
@[simp] theorem summaries_summary (fields : Json) (read : List Item) : summaries (.summary fields :: read) = fields :: summaries read :=
  List.filterMap_cons_some rfl
@[simp] theorem summaries_nil : summaries [] = [] := rfl
@[simp] theorem summaries_append (first second : List Item) : summaries (first ++ second) = summaries first ++ summaries second :=
  List.filterMap_append

/-- The state after batches with these contents. -/
def progressAfter (ids : List String) (read : List (List Item)) : Progress :=
  ⟨ids, read.flatten.flatMap Item.records, (summaries read.flatten).head?⟩

section
variable {py : Python}

theorem readItems_read {values : List Json} {read : List Item} {p : Progress}
    (reads : values.mapM (fun value => (readItem py value).toOption) = some read)
    (single : (p.summary.toList ++ summaries read).length ≤ 1) :
    readItems py p values =
      .ok ⟨p.seen, p.emitted ++ read.flatMap Item.records, p.summary.or (summaries read).head?⟩ := by
  induction values generalizing p read with
  | nil =>
    cases reads
    simp [readItems]
  | cons value rest ih =>
    rw [List.mapM_cons] at reads
    cases here : readItem py value with
    | error e =>
      rw [here] at reads
      cases reads
    | ok item =>
      cases later : rest.mapM (fun value => (readItem py value).toOption) with
      | none =>
        rw [here, later] at reads
        cases reads
      | some others =>
        rw [here, later] at reads
        obtain rfl : item :: others = read := Option.some.inj reads
        simp only [readItems, here]
        cases item with
        | group records =>
          simp only [Progress.accept]
          rw [ih later (by simpa using single)]
          simp [Item.records]
        | summary fields =>
          have first : p.summary = none := by
            cases held : p.summary with
            | none => rfl
            | some other => simp [held] at single
          have only : summaries others = [] := by simpa [first] using single
          simp only [Progress.accept, first, Option.isSome_none, Bool.false_eq_true, if_false]
          rw [ih later (by simp [only])]
          simp [Item.records, only]

/-- Rows that were processed before are passed over. -/
theorem readRows_seen {p : Progress} {rows later : List BatchRow} (known : ∀ row ∈ rows, row.batchId ∈ p.seen) :
    readRows py p (rows ++ later) = readRows py p later := by
  induction rows with
  | nil => rfl
  | cons row rows ih =>
    obtain ⟨here, others⟩ := List.forall_mem_cons.mp known
    rw [List.cons_append, readRows, if_pos here, ih others]

theorem readRows_new {rows : List BatchRow} {read : List (List Item)} {ids : List String} {past : List (List Item)}
    (reads : rows.map (fun row => contents py row.payloadJson) = read.map some)
    (distinct : (ids ++ rows.map (·.batchId)).Nodup) (single : (summaries (past ++ read).flatten).length ≤ 1) :
    readRows py (progressAfter ids past) rows = .ok (progressAfter (ids ++ rows.map (·.batchId)) (past ++ read)) := by
  induction rows generalizing read ids past with
  | nil =>
    obtain rfl := List.map_eq_nil_iff.mp reads.symm
    simp [readRows]
  | cons row rows ih =>
    obtain ⟨first, others, rfl, here, later⟩ := List.map_eq_cons_iff.mp reads.symm
    have fresh : row.batchId ∉ ids := fun member =>
      (List.nodup_append.mp distinct).2.2 _ member _ (by simp) rfl
    have values : ∃ values, readResults row.payloadJson = .ok values ∧
        values.mapM (fun value => (readItem py value).toOption) = some first := by
      unfold contents at here
      cases opened : readResults row.payloadJson with
      | error e => simp [opened] at here
      | ok values => exact ⟨values, rfl, by simpa [opened] using here.symm⟩
    obtain ⟨values, opened, items⟩ := values
    have few : ((summaries past.flatten).head?.toList ++ summaries first).length ≤ 1 := by
      have bound : (summaries past.flatten ++ summaries first).length ≤ 1 := by
        refine le_trans (List.Sublist.length_le ?_) single
        simp [summaries]
      refine le_trans (List.Sublist.length_le (List.Sublist.append_right ?_ _)) bound
      cases summaries past.flatten <;> simp
    have step : (⟨ids ++ [row.batchId], past.flatten.flatMap Item.records ++ first.flatMap Item.records,
        (summaries past.flatten).head?.or (summaries first).head?⟩ : Progress) =
          progressAfter (ids ++ [row.batchId]) (past ++ [first]) := by
      simp [progressAfter, List.head?_append]
    rw [readRows, if_neg (by exact fresh), opened]
    dsimp only [progressAfter]
    rw [readItems_read items few]
    dsimp only
    rw [step, ih later.symm (by simpa using distinct) (by simpa using single)]
    simp [progressAfter]

/-- Of rows whose first ones were processed before, the others are processed. -/
theorem readRows_rest {rows : List BatchRow} {read : List (List Item)}
    (reads : rows.map (fun row => contents py row.payloadJson) = read.map some) (distinct : (rows.map (·.batchId)).Nodup)
    (single : (summaries read.flatten).length ≤ 1) (k : Nat) :
    readRows py (progressAfter ((rows.map (·.batchId)).take k) (read.take k)) rows =
      .ok (progressAfter (rows.map (·.batchId)) read) := by
  have known : ∀ row ∈ rows.take k, row.batchId ∈ (rows.map (·.batchId)).take k := by
    intro row member
    rw [← List.map_take]
    exact List.mem_map_of_mem member
  have later : (rows.drop k).map (fun row => contents py row.payloadJson) = (read.drop k).map some := by
    rw [List.map_drop, reads, List.map_drop]
  have apart : ((rows.map (·.batchId)).take k ++ (rows.drop k).map (·.batchId)).Nodup := by
    rwa [List.map_drop, List.take_append_drop]
  calc readRows py _ rows = readRows py _ (rows.take k ++ rows.drop k) := by rw [List.take_append_drop]
    _ = readRows py (progressAfter ((rows.map (·.batchId)).take k) (read.take k)) (rows.drop k) := readRows_seen known
    _ = .ok (progressAfter ((rows.map (·.batchId)).take k ++ (rows.drop k).map (·.batchId)) (read.take k ++ read.drop k)) :=
      readRows_new later apart (by rwa [List.take_append_drop])
    _ = _ := by rw [List.map_drop, List.take_append_drop, List.take_append_drop]

end

/-! ## The whole call -/

/-- The history after some rounds. -/
def after (es : List Event) (looks : List Look) : List Event := es ++ looks.flatMap fun look => look.before ++ look.between

/-- A task that is COMPLETE with batches that nobody marked and that can be read; the last one
    holds the summary `fields`. -/
structure Delivered (py : Python) (taskId : String) (es : List Event) (read : List (List Item)) (fields : Json)
    (result : LeaseResult) : Prop where
  complete : ∃ row, (authority.final es).work.get? taskId = some row ∧ row.state = .complete
  unconsumed : ∀ before rest, es = before ++ rest → Unmarked taskId (authority.final before)
  wellFormed : (acceptedLog taskId es).map (fun batch => contents py (batchPayload batch)) = read.map some
  summary : ∃ groups final, read = groups ++ [final] ∧ summaries groups.flatten = [] ∧ summaries final = [fields]
  readable : leaseResult fields = some result

section
variable {py : Python} {taskId : String} {es h : List Event} {read : List (List Item)} {fields : Json} {result : LeaseResult}
  {deadline : ℚ}

theorem acceptedLog_append (taskId : String) (first second : List Event) :
    acceptedLog taskId first <+: acceptedLog taskId (first ++ second) := by
  rw [acceptedLog, acceptedLog, Machine.trace_append, List.flatMap_append]
  exact List.prefix_append _ _

theorem Delivered.earlier (delivered : Delivered py taskId es read fields result) (inside : h <+: es) :
    ∀ before rest, h = before ++ rest → Unmarked taskId (authority.final before) := by
  rintro before rest rfl
  obtain ⟨more, rfl⟩ := inside
  exact delivered.unconsumed before (rest ++ more) (by simp)

theorem Delivered.length (delivered : Delivered py taskId es read fields result) : read.length = (acceptedLog taskId es).length := by
  have sizes := congrArg List.length delivered.wellFormed
  simpa using sizes.symm

theorem Delivered.named (delivered : Delivered py taskId es read fields result) : blank taskId = false := by
  obtain ⟨groups, final, rfl, -⟩ := delivered.summary
  have sizes := delivered.length
  obtain ⟨batch, member⟩ : ∃ batch, batch ∈ acceptedLog taskId es := by
    refine List.exists_mem_of_length_pos ?_
    rw [← sizes]
    simp
  obtain ⟨r, -, inside⟩ := List.mem_flatMap.mp member
  have sameTask : batch.taskId = taskId := by simpa using (List.mem_filter.mp inside).2
  have valid := batch.valid
  unfold BatchFields.postInit at valid
  split at valid
  · cases valid
  · rename_i sound
    rw [← sameTask]
    simpa using fun isBlank => sound (.inl isBlank)

/-- The state of the call when it has processed `k` batches. -/
def reached (taskId : String) (es : List Event) (read : List (List Item)) (k : Nat) : Progress :=
  progressAfter (((acceptedLog taskId es).map (·.batchId)).take k) (read.take k)

/-- The summary is known when all batches have been processed. -/
theorem Delivered.reached_summary (delivered : Delivered py taskId es read fields result) (k : Nat) :
    (reached taskId es read k).summary = if (acceptedLog taskId es).length ≤ k then some fields else none := by
  rw [← delivered.length]
  obtain ⟨groups, final, rfl, before, only⟩ := delivered.summary
  simp only [reached, progressAfter, List.length_append, List.length_singleton]
  split
  · rename_i all
    rw [List.take_of_length_le (by simpa using all), List.flatten_append, summaries_append]
    simp [before, only]
  · rename_i some_
    rw [List.take_append_of_le_length (by omega)]
    have none_ : summaries (groups.take k).flatten = [] := by
      have whole : summaries ((groups.take k).flatten ++ (groups.drop k).flatten) = [] := by
        rw [← List.flatten_append, List.take_append_drop, before]
      rw [summaries_append] at whole
      exact (List.append_eq_nil_iff.mp whole).1
    rw [none_]
    rfl

theorem Delivered.reads (delivered : Delivered py taskId es read fields result) (inside : h <+: es) {k : Nat}
    (le : k ≤ min 256 (acceptedLog taskId h).length) :
    ∃ rows, unconsumedBatchesForTask (authority.final h) taskId 256 = .ok rows ∧
      readRows py (reached taskId es read k) rows = .ok (reached taskId es read (min 256 (acceptedLog taskId h).length)) := by
  obtain ⟨rows, opened, distinct, columns⟩ := read_log (delivered.earlier inside) delivered.named
  refine ⟨rows, opened, ?_⟩
  have initial : (acceptedLog taskId h).take 256 = (acceptedLog taskId es).take (min 256 (acceptedLog taskId h).length) := by
    obtain ⟨more, rfl⟩ := inside
    conv_lhs => rw [List.prefix_iff_eq_take.mp (acceptedLog_append taskId h more)]
    rw [List.take_take]
  rw [initial] at columns
  generalize min 256 (acceptedLog taskId h).length = j at columns le
  have ids : rows.map (·.batchId) = ((acceptedLog taskId es).map (·.batchId)).take j := by
    have first := congrArg (List.map fun cell => cell.1) columns
    rw [List.map_map, List.map_map] at first
    rw [← List.map_take]
    exact first
  have reads : rows.map (fun row => contents py row.payloadJson) = (read.take j).map some := by
    have third := congrArg (List.map fun cell => contents py cell.2.2) columns
    rw [List.map_map, List.map_map] at third
    rw [List.map_take, ← delivered.wellFormed, ← List.map_take]
    exact third
  have single : (summaries (read.take j).flatten).length ≤ 1 := by
    obtain ⟨groups, final, rfl, before, only⟩ := delivered.summary
    have part : summaries ((groups ++ [final]).take j).flatten <+: summaries (groups ++ [final]).flatten := by
      conv_rhs => rw [← List.take_append_drop j (groups ++ [final]), List.flatten_append, summaries_append]
      exact List.prefix_append _ _
    refine le_trans part.length_le ?_
    rw [List.flatten_append, summaries_append]
    simp [before, only]
  have done := readRows_rest reads distinct single k
  rw [ids, List.take_take, List.take_take, min_eq_left le] at done
  exact done

theorem task_stays {s : Store} (shaped : Shaped s) {row : WorkRow} (found : s.work.get? taskId = some row) (more : List Event) :
    ∃ row', (authority.finalFrom s more).work.get? taskId = some row' ∧ (row.state = .dead → row'.state = .dead) := by
  induction more generalizing s row with
  | nil => exact ⟨row, found, id⟩
  | cons e more ih =>
    have move := row_moves shaped e taskId
    rw [found] at move
    have next : ∃ row', (step s e).2.work.get? taskId = some row' ∧ (row.state = .dead → row'.state = .dead) := by
      revert move
      cases (step s e).2.work.get? taskId with
      | none =>
        intro move
        cases move
      | some row' =>
        intro move
        refine ⟨row', rfl, fun dead => ?_⟩
        cases move with
        | same => exact dead
        | released row leased => simp [leased] at dead
        | granted row scan w i leaseSeconds isClaim positive chosen open_ => simp [claimable, dead] at open_
        | renewed => exact dead
        | committed row batch w i isCommit sameTask accept holds => simp [holds.leased] at dead
        | finished row w i generation isFinish holds => simp [holds.leased] at dead
        | failed row w i generation error retryable later isFail holds => simp [holds.leased] at dead
        | compacted row retention limit isGc complete => simp [complete] at dead
    obtain ⟨row', found', dead⟩ := next
    obtain ⟨last, foundLast, stays⟩ := ih (shaped_step shaped e) found'
    exact ⟨last, foundLast, fun isDead => stays (dead isDead)⟩

/-- The task as a round finds it. -/
theorem Delivered.alive (delivered : Delivered py taskId es read fields result) (inside : h <+: es) {row : WorkRow}
    (found : (authority.final h).work.get? taskId = some row) : row.state ≠ .dead := by
  intro dead
  obtain ⟨more, rfl⟩ := inside
  obtain ⟨last, foundLast, stays⟩ := task_stays (shaped_final h) found more
  obtain ⟨row', complete, isComplete⟩ := delivered.complete
  rw [Machine.final_append, foundLast] at complete
  cases complete
  rw [stays dead] at isComplete
  cases isComplete

/-- The rounds before the last one is due: the call still polls, or it has read every batch of at
    most 256 and returns, or the time is up. -/
theorem Delivered.watched (delivered : Delivered py taskId es read fields result) {looks : List Look}
    (known : ∃ row, (authority.final h).work.get? taskId = some row) (inside : after h looks <+: es) {k : Nat}
    (le : k ≤ min 256 (acceptedLog taskId h).length) :
    (∃ j ≤ min 256 (acceptedLog taskId (after h looks)).length,
        watch py taskId deadline (authority.final h) (reached taskId es read k) looks = .polling (reached taskId es read j)) ∨
      ((acceptedLog taskId es).length ≤ 256 ∧ watch py taskId deadline (authority.final h) (reached taskId es read k) looks =
        .returned result (reached taskId es read (acceptedLog taskId es).length)) ∨
      ((∃ look ∈ looks, deadline ≤ look.clock) ∧
        watch py taskId deadline (authority.final h) (reached taskId es read k) looks = .raised .timedOut) := by
  induction looks generalizing h k with
  | nil =>
    refine .inl ⟨k, ?_, rfl⟩
    simpa [after] using le
  | cons look later ih =>
    have through : after h (look :: later) = after (h ++ look.before ++ look.between) later := by simp [after]
    rw [through] at inside ⊢
    have whole : h ++ look.before ++ look.between <+: es := (List.prefix_append _ _).trans inside
    have first : h ++ look.before <+: es := (List.prefix_append _ _).trans whole
    have grown : acceptedLog taskId h <+: acceptedLog taskId (h ++ look.before) := acceptedLog_append taskId h look.before
    have longer : acceptedLog taskId (h ++ look.before) <+: acceptedLog taskId (h ++ look.before ++ look.between) :=
      acceptedLog_append taskId _ _
    obtain ⟨rows, opened, done⟩ := delivered.reads first
      (le_trans le (min_le_min_left _ grown.length_le))
    obtain ⟨row, found⟩ := known
    obtain ⟨row', found', -⟩ := task_stays (shaped_final h) found (look.before ++ look.between)
    rw [Machine.finalFrom_append, ← Machine.final_append, ← Machine.final_append] at found'
    simp only [watch, ← Machine.final_append, opened, done, taskRow, found', if_neg (delivered.alive whole found')]
    have next := ih ⟨row', found'⟩ inside (min_le_min_left _ longer.length_le)
    by_cases isComplete : row'.state = .complete ∧ (acceptedLog taskId es).length ≤ min 256 (acceptedLog taskId (h ++ look.before)).length
    · obtain ⟨complete, all⟩ := isComplete
      refine .inr (.inl ⟨le_trans all (min_le_left _ _), ?_⟩)
      rw [if_pos complete, delivered.reached_summary, if_pos all]
      simp only [delivered.readable]
      congr 1
      have most : (acceptedLog taskId (h ++ look.before)).length ≤ (acceptedLog taskId es).length := by
        obtain ⟨more, rfl⟩ := first
        exact (acceptedLog_append taskId _ more).length_le
      congr 1
      omega
    · have waits : (if row'.state = .complete then (reached taskId es read
          (min 256 (acceptedLog taskId (h ++ look.before)).length)).summary else none) = none := by
        split
        · rename_i complete
          rw [delivered.reached_summary, if_neg fun all => isComplete ⟨complete, all⟩]
        · rfl
      rw [waits]
      dsimp only
      split
      · rename_i late
        exact .inr (.inr ⟨⟨look, List.mem_cons_self, late⟩, rfl⟩)
      · rcases next with polls | returns | ⟨⟨other, member, late⟩, ends⟩
        · exact .inl polls
        · exact .inr (.inl returns)
        · exact .inr (.inr ⟨⟨other, List.mem_cons_of_mem _ member, late⟩, ends⟩)

/-- The next round after the task is COMPLETE reads the last of at most 256 batches. -/
theorem Delivered.next_returns (delivered : Delivered py taskId es read fields result) (few : (acceptedLog taskId es).length ≤ 256)
    {k : Nat} (le : k ≤ min 256 (acceptedLog taskId es).length) (clock : ℚ) :
    watch py taskId deadline (authority.final es) (reached taskId es read k) [.still clock] =
      .returned result (reached taskId es read (acceptedLog taskId es).length) := by
  obtain ⟨rows, opened, done⟩ := delivered.reads List.prefix_rfl le
  obtain ⟨row, found, complete⟩ := delivered.complete
  simp only [watch, Look.still, Machine.finalFrom_nil, opened, done, taskRow, found, complete, min_eq_right few]
  rw [if_neg (by simp), if_pos trivial, delivered.reached_summary, if_pos le_rfl]
  simp only [delivered.readable]

theorem watch_append (s : Store) (p : Progress) (looks more : List Look) :
    watch py taskId deadline s p (looks ++ more) =
      match watch py taskId deadline s p looks with
      | .polling p => watch py taskId deadline (authority.finalFrom s (looks.flatMap fun look => look.before ++ look.between)) p more
      | ended => ended := by
  induction looks generalizing s p with
  | nil => rfl
  | cons look later ih =>
    simp only [List.cons_append, watch, List.flatMap_cons, Machine.finalFrom_append]
    repeat' split
    all_goals first
      | rfl
      | simp_all

theorem admitted_known {s s' : Store} {now : ℚ} {drawn : String} {work : WorkDefinition} {created : Bool}
    (admitted : admitWork s now drawn work = (.ok (taskId, created), s')) : ∃ row, s'.work.get? taskId = some row := by
  unfold admitWork at admitted
  split at admitted
  · simp at admitted
  · rename_i key isKey
    split at admitted
    · split at admitted
      · rename_i row found
        simp only [Prod.mk.injEq, Except.ok.injEq] at admitted
        obtain ⟨⟨rfl, -⟩, rfl⟩ := admitted
        exact ⟨row, Table.get?_mem (List.mem_of_find?_eq_some found)⟩
      · simp at admitted
    · rename_i fresh
      simp only [Prod.mk.injEq, Except.ok.injEq] at admitted
      obtain ⟨⟨rfl, -⟩, rfl⟩ := admitted
      refine Option.isSome_iff_exists.mp ?_
      rw [Table.get?_insert_or]
      simp

theorem start_reached (taskId : String) (es : List Event) (read : List (List Item)) : Progress.start = reached taskId es read 0 := by
  simp [Progress.start, reached, progressAfter]

section
variable {calls : List Event} {now : ℚ} {drawn : String} {work : WorkDefinition} {created : Bool} (sinceEpoch : 0 ≤ now)
  (admitted : (admitWork (authority.final calls) now drawn work).1 = .ok (taskId, created))
include admitted

theorem admitted_final : admitWork (authority.final calls) now drawn work =
    (.ok (taskId, created), authority.final (calls ++ [⟨now, .admitWork drawn work, sinceEpoch⟩])) := by
  have moved : authority.final (calls ++ [⟨now, .admitWork drawn work, sinceEpoch⟩]) =
      (admitWork (authority.final calls) now drawn work).2 := by
    simp [authority, step, Answer.reply]
  rw [moved, ← admitted]

theorem admitted_stored : ∃ row, (authority.final (calls ++ [⟨now, .admitWork drawn work, sinceEpoch⟩])).work.get? taskId = some row :=
  admitted_known (admitted_final sinceEpoch admitted)

theorem execute_watch (looks : List Look) : executeHttpRegion py (authority.final calls) now drawn work deadline looks =
    watch py taskId deadline (authority.final (calls ++ [⟨now, .admitWork drawn work, sinceEpoch⟩])) .start looks := by
  unfold executeHttpRegion
  rw [admitted_final sinceEpoch admitted]

end

/-- The call of a task that comes to be COMPLETE, with well-formed batches that nobody else
    consumes, processes every batch once and in order, emits what they hold and returns with the
    summary, exactly when there are at most 256 of them. -/
theorem shard_consumed_iff {calls : List Event} {now : ℚ} {drawn : String} {work : WorkDefinition} {created : Bool}
    {looks : List Look} (sinceEpoch : 0 ≤ now) (admitted : (admitWork (authority.final calls) now drawn work).1 = .ok (taskId, created))
    (delivered : Delivered py taskId (after (calls ++ [⟨now, .admitWork drawn work, sinceEpoch⟩]) looks) read fields result)
    (early : ∀ look ∈ looks, look.clock < deadline) :
    (∃ clocks : List ℚ, executeHttpRegion py (authority.final calls) now drawn work deadline (looks ++ clocks.map .still) =
        .returned result ⟨(acceptedLog taskId (after (calls ++ [⟨now, .admitWork drawn work, sinceEpoch⟩]) looks)).map (·.batchId),
          read.flatten.flatMap Item.records, some fields⟩) ↔
      (acceptedLog taskId (after (calls ++ [⟨now, .admitWork drawn work, sinceEpoch⟩]) looks)).length ≤ 256 := by
  have runs := @execute_watch py taskId deadline calls now drawn work created sinceEpoch admitted
  obtain ⟨row, found⟩ := admitted_stored sinceEpoch admitted
  generalize calls ++ [⟨now, .admitWork drawn work, sinceEpoch⟩] = first at *
  have start := start_reached taskId (after first looks) read
  have all : reached taskId (after first looks) read (acceptedLog taskId (after first looks)).length =
      ⟨(acceptedLog taskId (after first looks)).map (·.batchId), read.flatten.flatMap Item.records, some fields⟩ := by
    have summary := delivered.reached_summary (acceptedLog taskId (after first looks)).length
    rw [if_pos le_rfl] at summary
    have ids : ((acceptedLog taskId (after first looks)).map (·.batchId)).take (acceptedLog taskId (after first looks)).length =
        (acceptedLog taskId (after first looks)).map (·.batchId) := List.take_of_length_le (by simp)
    have whole : read.take (acceptedLog taskId (after first looks)).length = read := List.take_of_length_le (by simp [delivered.length])
    rw [← summary]
    simp only [reached, progressAfter, ids, whole]
  constructor
  · rintro ⟨clocks, returns⟩
    rw [runs, start] at returns
    have still : after first (looks ++ clocks.map .still) = after first looks := by
      simp [after, List.flatMap_map, Look.still]
    rcases delivered.watched ⟨row, found⟩ (by rw [still]) (Nat.zero_le _) with ⟨j, -, polls⟩ | ⟨few, -⟩ | ⟨-, ends⟩
    · rw [returns] at polls
      cases polls
    · exact few
    · rw [returns] at ends
      cases ends
  · intro few
    refine ⟨[0], ?_⟩
    rw [runs, start, watch_append, ← all]
    rcases delivered.watched ⟨row, found⟩ List.prefix_rfl (Nat.zero_le _) with ⟨j, le, polls⟩ | ⟨-, returns⟩ | ⟨⟨look, member, late⟩, -⟩
    · rw [polls]
      dsimp only
      rw [← Machine.final_append]
      exact delivered.next_returns few le 0
    · rw [returns]
    · exact absurd (early look member) (not_lt.mpr late)

end

/-! ## A shard of some batches -/

theorem accept_next {s : Store} {now : ℚ} {batch : ResultBatch} {w i : String} {row : WorkRow}
    (encodes : encodable (batchPayload batch)) (absent : s.resultBatches.get? batch.batchId = none)
    (found : s.work.get? batch.taskId = some row) (holds : Holds row now w i batch.generation)
    (next : row.nextSequenceNo = batch.sequenceNo)
    (single : ∀ r ∈ s.resultBatches.rows, r.taskId = batch.taskId → r.sequenceNo ≠ batch.sequenceNo) :
    commitResultBatch s now batch w i = (.ok true, s.accept now batch (Hashing.sha256Hex ((Hashing.encodeUtf8 (batchPayload batch)).getD []))) := by
  have answer := commit_cases s now batch w i
  generalize commitResultBatch s now batch w i = result at answer
  cases answer with
  | unencodable bad => simp [← Hashing.encodeUtf8_isSome, bad] at encodes
  | conflict bytes encoded existing stored => simp [absent] at stored
  | replayed bytes encoded existing stored => simp [absent] at stored
  | fenced bytes encoded absent err rejected =>
    rw [assertActiveLease_holds found holds] at rejected
    cases rejected
  | outOfSequence bytes encoded absent other through jump =>
    rw [assertActiveLease_holds found holds] at through
    cases through
    exact absurd next jump
  | duplicate bytes encoded absent other through _ stored member same => exact absurd same.2 (single stored member same.1)
  | accepted bytes encoded => rw [encoded]; rfl

def plainPython : Python := ⟨String.toLower, fun _ => ""⟩

def groupDict : Dict := ⟨[(py "capture_count", .int 1), (py "hostname", .str (py "aa.com")), (py "kind", .str (py "BULK_WITNESS_GROUP")),
    (py "witnesses", .arr [.obj [(py "artifact_ref", .str (py "")), (py "hostname", .str (py "aa.com")), (py "locator", .str (py "l")),
      (py "original_url", .str (py "http://aa.com/")), (py "record_type", .str (py "cdx")), (py "source_id", .str (py "s")),
      (py "source_time", .str (py "1996")), (py "year", .int 1996)]])], by decide +kernel⟩

/-- The summary of a shard of one record. -/
def summaryDict : Dict := ⟨[(py "bytes_read", .int 20), (py "elapsed_seconds", .int 1), (py "kind", .str (py "BULK_SUMMARY")),
    (py "records", .int 1), (py "requests", .int 1)], by decide +kernel⟩

/-- What the witness becomes. -/
def groupRecord : SourceRecord := ⟨"s", "l", "http://aa.com/", 1996, "cdx", some "1996", "", 1⟩

/-- A batch of a shard of `n` batches: the last one holds the summary, every other one a host. -/
def shardBatch (n i : Nat) : ResultBatch where
  taskId := "t"
  generation := 1
  sequenceNo := i
  results := [if i + 1 = n then summaryDict else groupDict]
  artifacts := []
  cursorAfter := none
  final := i + 1 = n
  valid := by
    have named : blank "t" = false := by decide
    simp [BatchFields.postInit, named]

/-- What a batch of the shard holds. -/
def shardItems (n i : Nat) : List Item := [if i + 1 = n then .summary (.obj summaryDict.members) else .group [groupRecord]]

def shardRow (n i : Nat) : BatchRow where
  batchId := batchId "t" i
  taskId := "t"
  generation := 1
  sequenceNo := i
  payloadJson := batchPayload (shardBatch n i)
  payloadDigest := Hashing.sha256Hex ((Hashing.encodeUtf8 (batchPayload (shardBatch n i))).getD [])
  cursorAfter := none
  final := i + 1 = n
  committedAt := 0
  consumedAt := none
  consumeAttempts := 0
  consumeError := none
  quarantined := false

theorem shardBatch_encodes (n i : Nat) : encodable (batchPayload (shardBatch n i)) := by
  rw [batchPayload, dumps, encodable_write]
  unfold batchJson shardBatch
  split <;> simp [Encodes, EncodesMembers, EncodesItems, summaryDict, groupDict, optionalText]

theorem shardBatch_contents (n i : Nat) : contents plainPython (batchPayload (shardBatch n i)) = some (shardItems n i) := by
  have opened : readResults (batchPayload (shardBatch n i)) = .ok [.obj (if i + 1 = n then summaryDict else groupDict).members] := by
    rw [readResults, batchPayload, loads_dumps (BatchPayload.batchJson_ordered _)]
    rfl
  have groupRead : readItem plainPython (.obj groupDict.members) = .ok (.group [groupRecord]) := by
    have named : textOrEmpty plainPython (.obj groupDict.members) "kind" = some "BULK_WITNESS_GROUP" := by decide +kernel
    have records : (deserializeWitnessGroup plainPython (.obj groupDict.members)).bind (·.witnesses.mapM witnessToSourceRecord) =
        some [groupRecord] := by decide +kernel
    simp [readItem, isMapping, named, records]
  have summaryRead : readItem plainPython (.obj summaryDict.members) = .ok (.summary (.obj summaryDict.members)) := by
    have named : textOrEmpty plainPython (.obj summaryDict.members) "kind" = some "BULK_SUMMARY" := by decide +kernel
    simp [readItem, isMapping, named]
  rw [contents, opened, shardItems]
  by_cases last : i + 1 = n
  · simp [last, summaryRead, Except.toOption]
  · simp [last, groupRead, Except.toOption]

def shardCalls : List Event := [⟨0, .registerWorker (plainWorker "w" "i" worker_named), zero_sinceEpoch⟩]

/-- The worker claims the shard and commits its first batches. -/
def shardLook (n m : Nat) : Look where
  before := ⟨0, .claimWork (fun _ => 0) "w" "i" (.fin 300), zero_sinceEpoch⟩ ::
    (List.range m).map fun i => ⟨0, .commitResultBatch (shardBatch n i) "w" "i", zero_sinceEpoch⟩
  between := []
  clock := 0

/-- The shard is admitted and claimed. -/
def shardOpened : List Event :=
  shardCalls ++ [⟨0, .admitWork "t" (plainWork 8 eight_tries), zero_sinceEpoch⟩, ⟨0, .claimWork (fun _ => 0) "w" "i" (.fin 300), zero_sinceEpoch⟩]

/-- The history of the shard until some batches are committed. -/
def shardHistory (n m : Nat) : List Event :=
  shardOpened ++ (List.range m).map fun i => ⟨0, .commitResultBatch (shardBatch n i) "w" "i", zero_sinceEpoch⟩

theorem shardHistory_eq (n m : Nat) :
    after (shardCalls ++ [⟨0, .admitWork "t" (plainWork 8), by norm_num⟩]) [shardLook n m] = shardHistory n m := by
  simp [after, shardLook, shardHistory, shardOpened]

/-- The store when the first `m` of `n` batches are committed. -/
structure Filled (n m : Nat) (s : Store) : Prop where
  task : ∃ row, s.work.get? "t" = some row ∧ row.nextSequenceNo = m ∧
    if m = n then row.state = .complete else Holds row 0 "w" "i" 1
  rows : s.resultBatches.rows = (List.range m).map (shardRow n)

theorem opened_holds : ∃ row, (authority.final shardOpened).work.get? "t" = some row ∧ row.nextSequenceNo = 0 ∧ Holds row 0 "w" "i" 1 := by
  have opened : ((authority.final shardOpened).work.get? "t").any (fun row => row.nextSequenceNo = 0 && row.state = .leased &&
      row.leaseOwner = some "w" && row.leaseOwnerInstance = some "i" && row.leaseGeneration = 1 &&
      row.leaseDeadline = some (.fin 300)) = true := by decide +kernel
  cases found : (authority.final shardOpened).work.get? "t" with
  | none => simp [found] at opened
  | some row =>
    simp only [found, Option.any_some, Bool.and_eq_true, decide_eq_true_eq] at opened
    obtain ⟨⟨⟨⟨⟨first, leased⟩, owner⟩, owning⟩, current⟩, due⟩ := opened
    exact ⟨row, rfl, first, leased, owner, owning, by simp [current], _, due, by decide +kernel⟩

theorem filled {n m : Nat} (positive : 0 < n) (le : m ≤ n) (distinct : ((List.range n).map (batchId "t")).Nodup) :
    Filled n m (authority.final (shardHistory n m)) ∧ acceptedLog "t" (shardHistory n m) = (List.range m).map (shardBatch n) := by
  induction m with
  | zero =>
    obtain ⟨row, found, first, holds⟩ := opened_holds
    have plain : shardHistory n 0 = shardOpened := by simp [shardHistory]
    rw [plain]
    refine ⟨⟨⟨row, found, first, ?_⟩, ?_⟩, ?_⟩
    · rw [if_neg (by omega)]
      exact holds
    · exact List.isEmpty_iff.mp (by decide +kernel)
    · exact List.isEmpty_iff.mp (by decide +kernel)
  | succ m ih =>
    obtain ⟨⟨⟨row, found, next, held⟩, rows⟩, log⟩ := ih (by omega)
    rw [if_neg (by omega)] at held
    have extended : shardHistory n (m + 1) = shardHistory n m ++ [⟨0, .commitResultBatch (shardBatch n m) "w" "i", by norm_num⟩] := by
      simp [shardHistory, List.range_succ]
    rw [extended, Machine.final_snoc, acceptedLog_snoc, log]
    generalize authority.final (shardHistory n m) = s at found rows
    have absent : s.resultBatches.get? (shardBatch n m).batchId = none := by
      refine Table.get?_eq_none.mpr fun r member same => ?_
      rw [rows] at member
      obtain ⟨i, inside, rfl⟩ := List.mem_map.mp member
      have below := List.mem_range.mp inside
      have equal := List.inj_on_of_nodup_map distinct (List.mem_range.mpr (by omega : i < n)) (List.mem_range.mpr (by omega : m < n)) same
      omega
    have single : ∀ r ∈ s.resultBatches.rows, r.taskId = (shardBatch n m).taskId → r.sequenceNo ≠ (shardBatch n m).sequenceNo := by
      intro r member _
      rw [rows] at member
      obtain ⟨i, inside, rfl⟩ := List.mem_map.mp member
      have below := List.mem_range.mp inside
      simp only [shardRow, shardBatch]
      omega
    have accepts := accept_next (shardBatch_encodes n m) absent found held next single
    have moved : (authority.step s ⟨0, .commitResultBatch (shardBatch n m) "w" "i", by norm_num⟩).2 =
        (commitResultBatch s 0 (shardBatch n m) "w" "i").2 := rfl
    have replied : accepted (taken s ⟨0, .commitResultBatch (shardBatch n m) "w" "i", by norm_num⟩) = some (shardBatch n m) := by
      simp [accepted, taken, authority, step, Answer.reply, accepts]
    rw [moved, accepts]
    refine ⟨⟨?_, ?_⟩, ?_⟩
    · refine ⟨row.committed none (decide (m + 1 = n)) 0, ?_, by simp [next], ?_⟩
      · simp only [Store.accept]
        rw [show (shardBatch n m).taskId = "t" from rfl, Table.get?_update_key, if_pos rfl, found]
        rfl
      · split
        · rename_i last
          simp [last]
        · rename_i more
          exact ⟨by simp [more], by simp [more, held.owner], by simp [more, held.owningInstance], held.current, by simpa [more] using held.unexpired⟩
    · simp only [Store.accept]
      rw [Table.rows_insert (by exact absent), rows, List.range_succ, List.map_append]
      rfl
    · have named : (shardBatch n m).taskId = "t" := rfl
      rw [List.range_succ, List.map_append, newBatches, replied, Option.toList_some, List.filter_cons_of_pos (by rw [named]; decide),
        List.filter_nil, List.map_singleton]

/-- The result that the summary makes. -/
def shardResult : LeaseResult := ⟨1, 1, 20, 1, none⟩

theorem shard_delivered {n : Nat} (positive : 0 < n) (distinct : ((List.range n).map (batchId "t")).Nodup) :
    Delivered plainPython "t" (shardHistory n n) ((List.range n).map (shardItems n)) (.obj summaryDict.members) shardResult := by
  obtain ⟨⟨⟨row, found, -, complete⟩, -⟩, log⟩ := filled positive le_rfl distinct
  rw [if_pos rfl] at complete
  refine ⟨⟨row, found, complete⟩, fun before rest split => ?_, ?_, ?_, by decide +kernel⟩
  · have unstored : ∀ before ∈ shardOpened.inits, (authority.final before).resultBatches.rows.isEmpty = true := by decide +kernel
    rcases List.append_eq_append_iff.mp split with ⟨some_, rfl, commits⟩ | ⟨others, opened, -⟩
    · have count : some_.length ≤ n := by
        have sizes := congrArg List.length commits
        simp only [List.length_map, List.length_range, List.length_append] at sizes
        omega
      have first : shardOpened ++ some_ = shardHistory n some_.length := by
        have taken := congrArg (List.take some_.length) commits
        rw [List.take_left, ← List.map_take, List.take_range, min_eq_left count] at taken
        rw [shardHistory, taken]
      rw [first]
      obtain ⟨⟨-, rows⟩, -⟩ := filled positive count distinct
      intro r member _
      rw [rows] at member
      obtain ⟨i, -, rfl⟩ := List.mem_map.mp member
      exact ⟨rfl, rfl⟩
    · intro r member _
      have none_ := unstored before ((List.mem_inits _ _).mpr ⟨others, opened.symm⟩)
      rw [List.isEmpty_iff.mp none_] at member
      cases member
  · rw [log, List.map_map, List.map_map]
    refine List.map_congr_left fun i _ => ?_
    simp only [Function.comp_apply, shardBatch_contents]
  · obtain ⟨k, rfl⟩ : ∃ k, n = k + 1 := ⟨n - 1, by omega⟩
    refine ⟨(List.range k).map (shardItems (k + 1)), shardItems (k + 1) k, ?_, ?_, ?_⟩
    · rw [List.range_succ, List.map_append, List.map_singleton]
    · refine List.filterMap_eq_nil_iff.mpr fun item member => ?_
      obtain ⟨items, listed, inside⟩ := List.mem_flatten.mp member
      obtain ⟨i, below, rfl⟩ := List.mem_map.mp listed
      have early := List.mem_range.mp below
      rw [shardItems, if_neg (by omega)] at inside
      rw [List.mem_singleton.mp inside]
      rfl
    · simp [shardItems]

theorem shard_admitted : (admitWork (authority.final shardCalls) 0 "t" (plainWork 8)).1 = .ok ("t", true) := by decide +kernel

/-- A shard of one batch is consumed. -/
theorem short_shard_consumed : ∃ clocks : List ℚ,
    executeHttpRegion plainPython (authority.final shardCalls) 0 "t" (plainWork 8) 1 ([shardLook 1 1] ++ clocks.map .still) =
      .returned shardResult ⟨(acceptedLog "t" (after (shardCalls ++ [⟨0, .admitWork "t" (plainWork 8), le_refl 0⟩]) [shardLook 1 1])).map (·.batchId),
        ((List.range 1).map (shardItems 1)).flatten.flatMap Item.records, some (.obj summaryDict.members)⟩ := by
  refine (shard_consumed_iff (le_refl 0) shard_admitted ?_ ?_).mpr ?_
  · rw [shardHistory_eq]
    exact shard_delivered one_pos (List.nodup_singleton _)
  · simp [shardLook]
  · rw [shardHistory_eq, (filled one_pos le_rfl (List.nodup_singleton _)).2]
    simp

theorem batch_bytes (n : Nat) : (Hashing.utf8 "result-batch" ++ 0 :: (Hashing.encodeUtf8 (dumps (.obj [
      (py "sequence_no", .int n), (py "task_id", .str (py (strip "t")))]))).getD []).map UInt8.toNat =
    DigestNumbers.kindBytes "result-batch" "\x7b\"sequence_no\":" ++
      (DigestNumbers.digitBytes n ++ (Hashing.utf8 ",\"task_id\":\"t\"\x7d").map UInt8.toNat) := by
  refine DigestNumbers.numbered_bytes _ ?_
  have texts : writeString (py "sequence_no") = py "\"sequence_no\"" ∧ writeString (py "task_id") = py "\"task_id\"" ∧
      writeString (py (strip "t")) = py "\"t\"" := by decide +kernel
  have front : py "\x7b\"sequence_no\":" = .char '\x7b' :: (py "\"sequence_no\"" ++ [.char ':']) := by decide +kernel
  have back : py ",\"task_id\":\"t\"\x7d" = .char ',' :: (py "\"task_id\"" ++ .char ':' :: (py "\"t\"" ++ [.char '\x7d'])) := by
    decide +kernel
  simp [dumps, write, writeMembers, writeInt, texts, front, back]

theorem shard_ids_distinct : ((List.range 257).map (batchId "t")).Nodup :=
  DigestNumbers.sha256Hex_nodup batch_bytes (by decide +kernel)

theorem shard_unread {n : Nat} (long : 256 < n) (distinct : ((List.range n).map (batchId "t")).Nodup) (clocks : List ℚ) (deadline : ℚ)
    (result : LeaseResult) (p : Progress) :
    executeHttpRegion plainPython (authority.final shardCalls) 0 "t" (plainWork 8) deadline ([shardLook n n] ++ clocks.map .still) ≠
      .returned result p := by
  intro returns
  have delivered := shard_delivered (by omega) distinct
  have log := (filled (by omega) le_rfl distinct).2
  have still : after (shardCalls ++ [⟨0, .admitWork "t" (plainWork 8), le_refl 0⟩]) ([shardLook n n] ++ clocks.map .still) = shardHistory n n := by
    rw [← shardHistory_eq]
    simp [after, List.flatMap_map, Look.still]
  have inside : after (shardCalls ++ [⟨0, .admitWork "t" (plainWork 8), le_refl 0⟩]) ([shardLook n n] ++ clocks.map .still) <+: shardHistory n n := by
    rw [still]
  rw [execute_watch (le_refl 0) shard_admitted, start_reached "t" (shardHistory n n) ((List.range n).map (shardItems n))] at returns
  rcases delivered.watched (admitted_stored (le_refl 0) shard_admitted) inside (Nat.zero_le _) with ⟨j, -, polls⟩ | ⟨few, -⟩ | ⟨-, ends⟩
  · rw [returns] at polls
    cases polls
  · rw [log, List.length_map, List.length_range] at few
    omega
  · rw [returns] at ends
    cases ends

/-- The call of a shard of 257 batches never returns, though the task is COMPLETE. -/
theorem long_shard_unread :
    Delivered plainPython "t" (after (shardCalls ++ [⟨0, .admitWork "t" (plainWork 8), le_refl 0⟩]) [shardLook 257 257])
        ((List.range 257).map (shardItems 257)) (.obj summaryDict.members) shardResult ∧
      ∀ (clocks : List ℚ) (deadline : ℚ) (result : LeaseResult) (p : Progress),
        executeHttpRegion plainPython (authority.final shardCalls) 0 "t" (plainWork 8) deadline ([shardLook 257 257] ++ clocks.map .still) ≠
          .returned result p := by
  rw [shardHistory_eq]
  exact ⟨shard_delivered (by norm_num) shard_ids_distinct, shard_unread (by norm_num) shard_ids_distinct⟩

end Creeper.ShardConsumption
