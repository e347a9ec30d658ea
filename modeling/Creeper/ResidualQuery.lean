import Creeper.SearchResults
import Creeper.AuthorityStore

/-!
# Residual queries on workers

`distributed/residual_query.py`: a worker runs the providers of a query and sends their raw
results; the authority reads them back and classifies them. `DeterministicSearchExecutor` does all
of it in one process, and skips a result that it cannot classify.
-/

namespace Creeper.ResidualQuery
open Creeper.PyText Creeper.PyNumbers Creeper.JsonText Creeper.Hashing Creeper.Tables Creeper.FabricModels Creeper.SearchResults
open Creeper.BatchPayload (member charsOf asItems charsOf_py py_eq keysRise_of orderedItems_of batchJson_ordered mapM_written)
open Creeper.EvidenceBridge (BridgeError isMapping)
open Creeper.EvidenceSemantics (stripText)
open Creeper.AuthorityStore (Store WorkRow BatchRow)

/-! ## Plans and policies -/

inductive PyNumber
  | int (n : Int)
  | float (value : JsonFloat)

def PyNumber.json : PyNumber → Json
  | int n => .int n
  | float value => .float value

def floatValue : JsonFloat → PyFloat
  | .finite text _ => (floatOf (String.ofList text)).getD .nan
  | .nan => .nan
  | .infinity => .posInf
  | .negInfinity => .negInf

/-- `float(number)`. -/
def PyNumber.value : PyNumber → PyFloat
  | int n => if n < 0 then (nearestDouble (-n)).neg else nearestDouble n
  | float value => floatValue value

structure QueryPlan (Number : Type) where
  cell : SearchCell
  query : PyStr
  variant : Int
  exclusions : List PyStr
  score : Number
  mechanismPhrase : PyStr
  includeInstitution : Bool
  queryShape : PyStr

structure PolicyFields (Number : Type) where
  resultsPerProvider : Int
  maxTotalResults : Int
  minRelevanceScore : Number
  timeoutSeconds : Number

def QueryPlan.read (plan : QueryPlan PyNumber) : QueryPlan PyFloat := { plan with score := plan.score.value }

def PolicyFields.read (policy : PolicyFields PyNumber) : PolicyFields PyFloat :=
  { policy with minRelevanceScore := policy.minRelevanceScore.value, timeoutSeconds := policy.timeoutSeconds.value }

/-- The first check of `DeterministicSearchPolicy.__post_init__` that fails. -/
def PolicyFields.postInit (policy : PolicyFields PyFloat) : Option String :=
  if policy.resultsPerProvider < 1 then some "results_per_provider must be a positive integer"
  else if policy.maxTotalResults < 1 then some "max_total_results must be a positive integer"
  else if !((PyFloat.fin 0).le policy.minRelevanceScore && policy.minRelevanceScore.le (.fin 1)) then
    some "min_relevance_score must be within [0,1]"
  else if !policy.timeoutSeconds.isFinite || policy.timeoutSeconds.le (.fin 0) then some "timeout_seconds must be finite and positive"
  else none

structure DeterministicSearchPolicy extends PolicyFields PyNumber where
  valid : toPolicyFields.read.postInit = none

/-- `serialize_query_plan`. -/
def serializeQueryPlan (plan : QueryPlan PyNumber) : Json := .obj [
  (py "cell", .obj [(py "artifact", .str (py plan.cell.artifact)), (py "institution", .str (py plan.cell.institution)),
    (py "mechanism", .str (py plan.cell.mechanism)), (py "period", .str (py plan.cell.period))]),
  (py "exclusions", .arr (plan.exclusions.map .str)), (py "include_institution", .bool plan.includeInstitution),
  (py "mechanism_phrase", .str plan.mechanismPhrase), (py "query", .str plan.query), (py "query_shape", .str plan.queryShape),
  (py "score", plan.score.json), (py "variant", .int plan.variant)]

/-- `asdict(policy)`. -/
def policyJson (policy : PolicyFields PyNumber) : Json := .obj [
  (py "max_total_results", .int policy.maxTotalResults), (py "min_relevance_score", policy.minRelevanceScore.json),
  (py "results_per_provider", .int policy.resultsPerProvider), (py "timeout_seconds", policy.timeoutSeconds.json)]

/-! ### Readers; nothing when a conversion raises -/

/-- `int(value)`. -/
def asInteger (value : Json) : Option Int := (EvidenceSemantics.intOf value).toOption

/-- `float(value)`. -/
def asFloat : Json → Option PyFloat
  | .int n => some (PyNumber.int n).value
  | .float value => some (floatValue value)
  | .bool value => some (.fin (if value then 1 else 0))
  | .str text => (charsOf text).bind fun chars => floatOf (String.ofList chars)
  | _ => none

/-- `bool(value)`. -/
def asTruth : Json → Bool
  | .null => false
  | .bool value => value
  | .int n => n ≠ 0
  | .float value => floatValue value ≠ .fin 0
  | .str text => text ≠ []
  | .arr items => !items.isEmpty
  | .obj members => !members.isEmpty

def iterated : Json → Option (List Json)
  | .arr items => some items
  | .str text => some (text.map fun c => .str [c])
  | .obj members => some (members.map fun pair => .str pair.1)
  | _ => none

section
variable (p : SearchResults.Python)

/-- `str(raw[name])`. -/
def text (raw : Json) (name : String) : Option PyStr := (member raw name).map p.str

/-- `str(raw.get(name, ""))`. -/
def textOrEmpty (raw : Json) (name : String) : PyStr := ((member raw name).map p.str).getD []

/-- `tuple(str(item) for item in raw.get(name, ()))`. -/
def texts (raw : Json) (name : String) : Option (List PyStr) :=
  match member raw name with
  | none => some []
  | some value => (iterated value).map fun items => items.map p.str

/-- A text of a cell; no cell has a text with surrogates. -/
def cellText (raw : Json) (name : String) : Option String := (text p raw name).bind fun t => (charsOf t).map String.ofList

/-- `deserialize_query_plan`. -/
def deserializeQueryPlan (raw : Json) : Option (QueryPlan PyFloat) := do
  let cell ← (member raw "cell").filter isMapping
  let cell ← (SearchCell.make {
    mechanism := ← cellText p cell "mechanism"
    institution := ← cellText p cell "institution"
    period := ← cellText p cell "period"
    artifact := ← cellText p cell "artifact" }).toOption
  return {
    cell
    query := ← text p raw "query"
    variant := ← (member raw "variant").bind asInteger
    exclusions := ← texts p raw "exclusions"
    score := ← (member raw "score").bind asFloat
    mechanismPhrase := ← text p raw "mechanism_phrase"
    includeInstitution := ← (member raw "include_institution").map asTruth
    queryShape := ← text p raw "query_shape" }

/-- `DeterministicSearchPolicy` of a payload. -/
def deserializePolicy (raw : Json) : Option (PolicyFields PyFloat) := do
  let policy : PolicyFields PyFloat := {
    resultsPerProvider := ← (member raw "results_per_provider").bind asInteger
    maxTotalResults := ← (member raw "max_total_results").bind asInteger
    minRelevanceScore := ← (member raw "min_relevance_score").bind asFloat
    timeoutSeconds := ← (member raw "timeout_seconds").bind asFloat }
  if policy.postInit.isNone then some policy else none

end

/-! ## Raw results -/

/-- A value or `null`. -/
def optional {α : Type} (write : α → Json) : Option α → Json
  | some value => write value
  | none => .null

/-- `serialize_raw_result`. -/
def serializeRawResult (result : RawFields) : Json := .obj [
  (py "checksum_sha256", optional .str result.checksumSha256), (py "content_length", optional .int result.contentLength),
  (py "creators", .arr (result.creators.map .str)), (py "description", .str result.description),
  (py "etag", optional .str result.etag), (py "identifiers", .arr (result.identifiers.map .str)),
  (py "kind", .str (py "RESIDUAL_RAW_RESULT")), (py "provider", .str result.provider),
  (py "provider_result_id", .str result.providerResultId), (py "publication_year", optional .int result.publicationYear),
  (py "publisher", .str result.publisher), (py "resource_type", .str result.resourceType), (py "title", .str result.title),
  (py "url", .str result.url)]

/-- `None if raw.get(name) is None else read(raw[name])`. -/
def optionalMember {α : Type} (read : Json → Option α) (raw : Json) (name : String) : Option (Option α) :=
  match member raw name with
  | none | some .null => some none
  | some value => (read value).map some

/-- What `deserialize_raw_result` reads. -/
def readRawResult (p : SearchResults.Python) (raw : Json) : Option RawFields := do
  return {
    provider := ← text p raw "provider"
    providerResultId := ← text p raw "provider_result_id"
    url := ← text p raw "url"
    title := textOrEmpty p raw "title"
    description := textOrEmpty p raw "description"
    publisher := textOrEmpty p raw "publisher"
    creators := ← texts p raw "creators"
    publicationYear := ← optionalMember asInteger raw "publication_year"
    resourceType := textOrEmpty p raw "resource_type"
    identifiers := ← texts p raw "identifiers"
    contentLength := ← optionalMember asInteger raw "content_length"
    etag := ← optionalMember (fun value => some (p.str value)) raw "etag"
    checksumSha256 := ← optionalMember (fun value => some (p.str value)) raw "checksum_sha256" }

/-- `deserialize_raw_result`. -/
def deserializeRawResult (p : SearchResults.Python) (raw : Json) : Except BridgeError RawSearchResult :=
  if textOrEmpty p raw "kind" ≠ py "RESIDUAL_RAW_RESULT" then
    .error (.raised (.valueError "unexpected distributed residual result kind"))
  else
    match readRawResult p raw with
    | none => .error .malformed
    | some fields => (RawSearchResult.make fields).mapError .raised

/-! ## Work -/

/-- `PRODUCER_NAME`. -/
def producerName : String := "ResidualQueryProducer"

/-- `DEFAULT_PROVIDERS`, which are all that a worker knows. -/
def defaultProviders : List String := ["datacite", "zenodo", "harvard_dataverse", "internet_archive"]

/-- `SearchCell.key`. -/
def cellKey (cell : SearchCell) : String :=
  String.ofList ((sha256Hex (utf8 ("\x1f".intercalate [cell.mechanism, cell.institution, cell.period, cell.artifact]))).toList.take 24)

/-- The payload of `residual_work_definition`. -/
def payloadJson (plan : QueryPlan PyNumber) (policy : PolicyFields PyNumber) (providers : List String) : Json := .obj [
  (py "plan", serializeQueryPlan plan), (py "policy", policyJson policy), (py "providers", .arr (providers.map fun name => .str (py name)))]

theorem texts_ordered (values : List PyStr) : OrderedItems (values.map .str) := by
  refine orderedItems_of fun v member => ?_
  obtain ⟨value, -, rfl⟩ := List.mem_map.mp member
  trivial

theorem number_ordered (number : PyNumber) : Ordered number.json := by
  cases number <;> trivial

theorem payloadJson_ordered (plan : QueryPlan PyNumber) (policy : PolicyFields PyNumber) (providers : List String) :
    Ordered (payloadJson plan policy providers) := by
  have cell : Ordered (.obj [(py "artifact", .str (py plan.cell.artifact)), (py "institution", .str (py plan.cell.institution)),
      (py "mechanism", .str (py plan.cell.mechanism)), (py "period", .str (py plan.cell.period))]) :=
    ⟨keysRise_of _ ["artifact", "institution", "mechanism", "period"] rfl (by decide), trivial, trivial, trivial, trivial, trivial⟩
  have ofPlan : Ordered (serializeQueryPlan plan) :=
    ⟨keysRise_of _ ["cell", "exclusions", "include_institution", "mechanism_phrase", "query", "query_shape", "score", "variant"] rfl
        (by decide),
      cell, texts_ordered _, trivial, trivial, trivial, trivial, number_ordered _, trivial, trivial⟩
  have ofPolicy : Ordered (policyJson policy) :=
    ⟨keysRise_of _ ["max_total_results", "min_relevance_score", "results_per_provider", "timeout_seconds"] rfl (by decide),
      trivial, number_ordered _, trivial, number_ordered _, trivial⟩
  have names : OrderedItems (providers.map fun name => .str (py name)) := by
    have same : (providers.map fun name => Json.str (py name)) = (providers.map py).map .str := by rw [List.map_map]; rfl
    rw [same]
    exact texts_ordered _
  exact ⟨keysRise_of _ ["plan", "policy", "providers"] rfl (by decide), ofPlan, ofPolicy, names, trivial⟩

/-- `residual_work_definition`. -/
def residualWorkDefinition (plan : QueryPlan PyNumber) (policy : DeterministicSearchPolicy) (providers : List String) :
    Except PyError WorkDefinition :=
  if providers = [] || !distinct providers then
    .error (.valueError "distributed residual providers must be unique and non-empty")
  else
    WorkDefinition.make {
      producer := producerName
      taskClass := .residualQuery
      inputIdentity := s!"{cellKey plan.cell}:variant:{plan.variant}"
      payload := ⟨_, payloadJson_ordered plan policy.toPolicyFields providers⟩
      partition_ := cellKey plan.cell
      algorithmVersion := "fabric-residual-query-v1"
      requiredCapabilities := ["RESIDUAL_QUERY"]
      requiredProviders := providers
      priority := plan.score.value
      maxAttempts := 8
      notBefore := .fin 0 }

/-- `submit`, as far as the work that it admits. -/
def submitted (plan : QueryPlan PyNumber) (policy : DeterministicSearchPolicy) (providers : List String) : Except PyError WorkDefinition := do
  let work ← residualWorkDefinition plan policy providers
  let _ ← workKey work.toWorkFields
  return work

/-! ## Providers -/

/-- What a search of a provider returns, or the class of its exception. -/
abbrev Answers := String → Except String (List RawSearchResult)

def failures (providers : List String) (answers : Answers) : List (String × String) :=
  providers.filterMap fun name => match answers name with
    | .ok _ => none
    | .error raised => some (name, raised)

/-- What the others returned. -/
def buckets (providers : List String) (answers : Answers) : List (List RawSearchResult) :=
  providers.filterMap fun name => (answers name).toOption

/-- Results rank by rank. The loops end at the limit, which is positive. -/
def interleave {α : Type} (limit : Int) (buckets : List (List α)) : List α :=
  let depth := (buckets.map List.length).foldl max 0
  ((List.range depth).flatMap fun rank => buckets.filterMap (·[rank]?)).take limit.toNat

/-- The results that both pipelines classify. -/
def rawResults (policy : PolicyFields PyFloat) (providers : List String) (answers : Answers) : List RawSearchResult :=
  interleave policy.maxTotalResults (buckets providers answers)

/-- A reading of a clock that does not go back: finite and not negative. -/
structure Seconds where
  float : JsonFloat
  value : ℚ
  reads : floatValue float = .fin value
  nonneg : 0 ≤ value

structure DeterministicSearchBatch where
  backend : PyStr
  query : PyStr
  actor : PyStr
  results : List CanonicalSearchResult
  searchCostSeconds : PyFloat

/-- `DeterministicSearchBatch.__post_init__`. -/
def DeterministicSearchBatch.make (batch : DeterministicSearchBatch) : Except PyError DeterministicSearchBatch :=
  if [batch.backend, batch.query, batch.actor].any fun t => stripText t = [] then
    .error (.valueError "deterministic search attribution is required")
  else if !batch.searchCostSeconds.isFinite || batch.searchCostSeconds.lt (.fin 0) then
    .error (.valueError "search_cost_seconds must be finite and non-negative")
  else .ok batch

section
variable (p : SearchResults.Python)

/-- One turn of the loop of `DeterministicSearchExecutor.__call__` that classifies. -/
def classifyOrSkip (cell : SearchCell) (minRelevanceScore : PyFloat) (result : RawSearchResult) :
    Except PyError (Option CanonicalSearchResult) :=
  match p.classifyResult cell minRelevanceScore result with
  | .error raised => if isValueError raised then .ok none else .error raised
  | .ok classified => .ok classified

/-- `DeterministicSearchExecutor.__call__`, of `deterministic_search_core.py`. -/
def execute (policy : PolicyFields PyFloat) (actor : PyStr) (providers : List String) (answers : Answers) (plan : QueryPlan PyNumber)
    (seconds : Seconds) : Except PyError DeterministicSearchBatch :=
  if failures providers answers ≠ [] then
    .error (.runtimeError ("configured deterministic search providers incomplete: " ++
      "; ".intercalate ((failures providers answers).map fun failure => failure.1 ++ ": " ++ failure.2)))
  else do
    let classified ← (rawResults policy providers answers).mapM (classifyOrSkip p plan.cell policy.minRelevanceScore)
    DeterministicSearchBatch.make ⟨py ("+".intercalate providers), plan.query, actor, classified.reduceOption, .fin seconds.value⟩

/-! ## The worker -/

def summaryJson (providers : List String) (query : PyStr) (seconds : Seconds) : Json := .obj [
  (py "backend", .str (py ("+".intercalate providers))), (py "kind", .str (py "RESIDUAL_SUMMARY")),
  (py "provider_count", .int providers.length), (py "query", .str query), (py "search_cost_seconds", .float seconds.float)]

theorem optional_ordered {α : Type} (write : α → Json) (ordered : ∀ value, Ordered (write value)) (value : Option α) :
    Ordered (optional write value) := by
  cases value
  · trivial
  · exact ordered _

theorem serializeRawResult_ordered (result : RawFields) : Ordered (serializeRawResult result) :=
  have text := optional_ordered .str fun _ => trivial
  have number := optional_ordered .int fun _ => trivial
  ⟨keysRise_of _ ["checksum_sha256", "content_length", "creators", "description", "etag", "identifiers", "kind", "provider",
      "provider_result_id", "publication_year", "publisher", "resource_type", "title", "url"] rfl (by decide),
    text _, number _, texts_ordered _, trivial, text _, texts_ordered _, trivial, trivial, trivial, number _, trivial, trivial, trivial,
    trivial, trivial⟩

theorem summaryJson_ordered (providers : List String) (query : PyStr) (seconds : Seconds) : Ordered (summaryJson providers query seconds) :=
  ⟨keysRise_of _ ["backend", "kind", "provider_count", "query", "search_cost_seconds"] rfl (by decide),
    trivial, trivial, trivial, trivial, trivial, trivial⟩

/-- The results of a batch: the raw results, then the summary. -/
def resultDicts (raws : List RawSearchResult) (providers : List String) (query : PyStr) (seconds : Seconds) : List Dict :=
  raws.map (fun raw => ⟨_, serializeRawResult_ordered raw.toRawFields⟩) ++ [⟨_, summaryJson_ordered providers query seconds⟩]

/-- `ResidualQueryProducer.run`. -/
def run (lease : TaskLease) (answers : Answers) (seconds : Seconds) : Except PyError ResultBatch :=
  let raw : Json := .obj lease.work.payload.members
  match ((member raw "plan").filter isMapping).bind (deserializeQueryPlan p),
      ((member raw "policy").filter isMapping).bind (deserializePolicy), (member raw "providers").bind asItems with
  | some plan, some policy, some names =>
    match names.mapM fun name => (charsOf (p.str name)).map String.ofList with
    | none => .error (.valueError "unsupported distributed residual provider")
    | some providers =>
      if providers = [] || !distinct providers || !(providers.all (· ∈ lease.work.requiredProviders)) ||
          !(lease.work.requiredProviders.all (· ∈ providers)) then
        .error (.valueError "provider payload disagrees with work authority")
      else
        match providers.find? (· ∉ defaultProviders) with
        | some name => .error (.valueError ("unsupported distributed residual provider: " ++ name))
        | none =>
          if failures providers answers ≠ [] then
            .error (.runtimeError ("distributed residual provider set incomplete: " ++
              "; ".intercalate ((failures providers answers).map fun failure => failure.1 ++ ":" ++ failure.2)))
          else
            let fields : BatchFields := ⟨lease.taskId, lease.generation, lease.nextSequenceNo,
              resultDicts (rawResults policy providers answers) providers plan.query seconds, [], some "EOF", true⟩
            match valid : fields.postInit with
            | none => .ok ⟨fields, valid⟩
            | some message => .error (.valueError message)
  | _, _, _ => .error (.valueError "invalid distributed residual work payload")

/-- The text of a batch on its way to the authority, which refuses what UTF-8 cannot hold. -/
def transported (batch : ResultBatch) : Except PyError PyStr :=
  match encodeUtf8 (batchPayload batch) with
  | none => .error .unicodeEncodeError
  | some _ => .ok (batchPayload batch)

/-! ## The authority -/

/-- One item of a batch: the summary, or a raw result. -/
def sortItem (found : Option Json × List Json) (item : Json) : Except BridgeError (Option Json × List Json) :=
  if !isMapping item then .error (.raised (.valueError "Fabric residual result must be an object"))
  else if textOrEmpty p item "kind" = py "RESIDUAL_SUMMARY" then
    if found.1.isSome then .error (.raised (.valueError "Fabric residual batch has duplicate summary"))
    else .ok (some item, found.2)
  else if textOrEmpty p item "kind" = py "RESIDUAL_RAW_RESULT" then .ok (found.1, found.2 ++ [item])
  else .error (.raised (.valueError "unexpected Fabric residual result kind"))

/-- A row of a provider: read, then classified. -/
def classifyRow (cell : SearchCell) (minRelevanceScore : PyFloat) (item : Json) : Except BridgeError (Option CanonicalSearchResult) := do
  let raw ← deserializeRawResult p item
  (p.classifyResult cell minRelevanceScore raw).mapError .raised

/-- What a conversion gives; nothing is an exception. -/
def orMalformed {α : Type} : Option α → Except BridgeError α
  | some value => .ok value
  | none => .error .malformed

/-- The batch that `drain` builds of a row and its task. -/
def rebuild (payload : PyStr) (task : Dict) : Except BridgeError DeterministicSearchBatch := do
  let raw ← orMalformed ((loads payload).filter isMapping)
  let some (.arr items) := member raw "results" | throw (.raised (.valueError "Fabric residual batch results must be an array"))
  let (summary, rows) ← items.foldlM (sortItem p) (none, [])
  let some summary := summary | throw (.raised (.valueError "Fabric residual batch is missing summary"))
  let plan ← orMalformed (((member (.obj task.members) "plan").filter isMapping).bind (deserializeQueryPlan p))
  let policy ← orMalformed (((member (.obj task.members) "policy").filter isMapping).bind deserializePolicy)
  let canonical ← rows.mapM (classifyRow p plan.cell policy.minRelevanceScore)
  let backend ← orMalformed (text p summary "backend")
  let query ← orMalformed (text p summary "query")
  let seconds ← orMalformed ((member summary "search_cost_seconds").bind asFloat)
  (DeterministicSearchBatch.make ⟨backend, query, py "deterministic:fabric-residual", canonical.reduceOption, seconds⟩).mapError .raised

/-- The turn of `drain` for one batch. What the commit to the search ledgers does is a parameter, as is the text of an exception. -/
def drainBatch (commit : QueryPlan PyFloat → DeterministicSearchBatch → Except BridgeError Unit) (describe : BridgeError → String)
    (now : ℚ) (s : Store) (row : BatchRow) (work : WorkRow) : Store :=
  let plan := ((member (.obj work.fields.payload.members) "plan").filter isMapping).bind (deserializeQueryPlan p)
  match rebuild p row.payloadJson work.fields.payload >>= fun batch => orMalformed plan >>= fun plan => commit plan batch with
  | .ok () => (AuthorityStore.markBatchConsumed s now row.batchId).2
  | .error raised => (AuthorityStore.markBatchConsumeFailed s row.batchId (describe raised) 20).2

end

/-! ## Reading what was written -/

section
variable (p : SearchResults.Python)

theorem asInteger_int (n : Int) : asInteger (.int n) = some n := rfl

theorem asFloat_json (number : PyNumber) : asFloat number.json = some number.value := by
  cases number <;> rfl

theorem texts_written (values : List PyStr) : values.map (p.str ∘ Json.str) = values := List.map_id values

/-- A plan is read back with the value of its score. -/
theorem deserializeQueryPlan_serialize (plan : QueryPlan PyNumber) :
    deserializeQueryPlan p (serializeQueryPlan plan) = some plan.read := by
  have cell : (SearchCell.make plan.cell.toCellFields).toOption = some plan.cell := by rw [SearchCell.make_fields]; rfl
  have mapping (members : List (PyStr × Json)) : (some (Json.obj members)).filter isMapping = some (.obj members) := rfl
  simp [deserializeQueryPlan, serializeQueryPlan, member, List.find?, py_eq, mapping, cellText, text, EvidenceSemantics.Python.str,
    cell, texts, iterated, texts_written, asInteger_int, asFloat_json, asTruth]
  rfl

theorem deserializePolicy_json (policy : DeterministicSearchPolicy) :
    deserializePolicy (policyJson policy.toPolicyFields) = some policy.toPolicyFields.read := by
  have valid : policy.toPolicyFields.read.postInit = none := policy.valid
  simp only [PolicyFields.read] at valid ⊢
  simp [deserializePolicy, policyJson, member, List.find?, py_eq, asInteger_int, asFloat_json, valid]

theorem optionalMember_text (raw : Json) (name : String) (value : Option PyStr) (is : member raw name = some (optional .str value)) :
    optionalMember (fun value => some (p.str value)) raw name = some value := by
  unfold optionalMember
  rw [is]
  cases value <;> rfl

theorem optionalMember_int (raw : Json) (name : String) (value : Option Int) (is : member raw name = some (optional .int value)) :
    optionalMember asInteger raw name = some value := by
  unfold optionalMember
  rw [is]
  cases value <;> rfl

theorem deserializeRawResult_serialize (raw : RawSearchResult) :
    deserializeRawResult p (serializeRawResult raw.toRawFields) = .ok raw := by
  have year := optionalMember_int (serializeRawResult raw.toRawFields) "publication_year" raw.publicationYear
    (by simp [member, serializeRawResult, List.find?, py_eq])
  have length := optionalMember_int (serializeRawResult raw.toRawFields) "content_length" raw.contentLength
    (by simp [member, serializeRawResult, List.find?, py_eq])
  have etag := optionalMember_text p (serializeRawResult raw.toRawFields) "etag" raw.etag
    (by simp [member, serializeRawResult, List.find?, py_eq])
  have checksum := optionalMember_text p (serializeRawResult raw.toRawFields) "checksum_sha256" raw.checksumSha256
    (by simp [member, serializeRawResult, List.find?])
  have read : readRawResult p (serializeRawResult raw.toRawFields) = some raw.toRawFields := by
    rw [readRawResult, year, length, etag, checksum]
    simp [serializeRawResult, member, List.find?, py_eq, text, textOrEmpty, texts, iterated, texts_written,
      EvidenceSemantics.Python.str]
  have kind : textOrEmpty p (serializeRawResult raw.toRawFields) "kind" = py "RESIDUAL_RAW_RESULT" := by
    simp [serializeRawResult, member, List.find?, py_eq, textOrEmpty, EvidenceSemantics.Python.str]
  rw [deserializeRawResult, if_neg (not_not.mpr kind), read]
  dsimp only
  rw [RawSearchResult.make_fields]
  rfl

/-- The tasks of a plan read the plan and its policy back. -/
theorem payload_members (plan : QueryPlan PyNumber) (policy : DeterministicSearchPolicy) (providers : List String) :
    ((member (payloadJson plan policy.toPolicyFields providers) "plan").filter isMapping).bind (deserializeQueryPlan p) = some plan.read ∧
    ((member (payloadJson plan policy.toPolicyFields providers) "policy").filter isMapping).bind deserializePolicy =
      some policy.toPolicyFields.read := by
  have ofPlan : (member (payloadJson plan policy.toPolicyFields providers) "plan").filter isMapping = some (serializeQueryPlan plan) := by
    simp [payloadJson, member, List.find?, serializeQueryPlan, isMapping]
  have ofPolicy : (member (payloadJson plan policy.toPolicyFields providers) "policy").filter isMapping =
      some (policyJson policy.toPolicyFields) := by
    simp [payloadJson, member, List.find?, py_eq, policyJson, isMapping]
  rw [ofPlan, ofPolicy]
  exact ⟨deserializeQueryPlan_serialize p plan, deserializePolicy_json policy⟩

/-! ## The batch that is rebuilt -/

theorem sortItem_raw (found : Option Json × List Json) (raw : RawSearchResult) :
    sortItem p found (serializeRawResult raw.toRawFields) = .ok (found.1, found.2 ++ [serializeRawResult raw.toRawFields]) := by
  have kind : textOrEmpty p (serializeRawResult raw.toRawFields) "kind" = py "RESIDUAL_RAW_RESULT" := by
    simp [serializeRawResult, member, List.find?, py_eq, textOrEmpty, EvidenceSemantics.Python.str]
  simp only [sortItem, kind]
  rfl

theorem sortItem_summary (rows : List Json) (providers : List String) (query : PyStr) (seconds : Seconds) :
    sortItem p (none, rows) (summaryJson providers query seconds) = .ok (some (summaryJson providers query seconds), rows) := by
  have kind : textOrEmpty p (summaryJson providers query seconds) "kind" = py "RESIDUAL_SUMMARY" := by
    simp [summaryJson, member, List.find?, py_eq, textOrEmpty, EvidenceSemantics.Python.str]
  simp only [sortItem, kind]
  rfl

/-- The items of a batch are its raw results, in order, and its summary. -/
theorem resultDicts_json (raws : List RawSearchResult) (providers : List String) (query : PyStr) (seconds : Seconds) :
    (resultDicts raws providers query seconds).map (fun d => Json.obj d.members) =
      raws.map (fun raw => serializeRawResult raw.toRawFields) ++ [summaryJson providers query seconds] := by
  rw [resultDicts, List.map_append, List.map_map]
  rfl

theorem sort_results (raws : List RawSearchResult) (rows : List Json) (providers : List String) (query : PyStr) (seconds : Seconds) :
    (raws.map (fun raw => serializeRawResult raw.toRawFields) ++ [summaryJson providers query seconds]).foldlM (sortItem p) (none, rows) =
      .ok (some (summaryJson providers query seconds), rows ++ raws.map fun raw => serializeRawResult raw.toRawFields) := by
  induction raws generalizing rows with
  | nil =>
    rw [List.map_nil, List.nil_append, List.foldlM_cons, sortItem_summary, List.append_nil]
    rfl
  | cons raw rest ih =>
    rw [List.map_cons, List.cons_append, List.foldlM_cons, sortItem_raw]
    refine (ih _).trans ?_
    rw [List.append_assoc]
    rfl

theorem classifyRow_written (cell : SearchCell) (minRelevanceScore : PyFloat) (raw : RawSearchResult) :
    classifyRow p cell minRelevanceScore (serializeRawResult raw.toRawFields) =
      (p.classifyResult cell minRelevanceScore raw).mapError .raised := by
  rw [classifyRow, deserializeRawResult_serialize]
  rfl

theorem rebuild_written (plan : QueryPlan PyNumber) (policy : DeterministicSearchPolicy) (providers : List String)
    (raws : List RawSearchResult) (seconds : Seconds) {batch : ResultBatch} (results : batch.results = resultDicts raws providers plan.query seconds) :
    rebuild p (batchPayload batch) ⟨_, payloadJson_ordered plan policy.toPolicyFields providers⟩ =
      (raws.mapM fun raw => (p.classifyResult plan.cell policy.minRelevanceScore.value raw).mapError .raised) >>= fun canonical =>
        (DeterministicSearchBatch.make ⟨py ("+".intercalate providers), plan.query, py "deterministic:fabric-residual",
          canonical.reduceOption, .fin seconds.value⟩).mapError .raised := by
  obtain ⟨ofPlan, ofPolicy⟩ := payload_members p plan policy providers
  have read : (loads (batchPayload batch)).filter isMapping = some (batchJson batch) := by
    rw [batchPayload, loads_dumps (batchJson_ordered batch)]
    rfl
  have items : member (batchJson batch) "results" =
      some (.arr (raws.map (fun raw => serializeRawResult raw.toRawFields) ++ [summaryJson providers plan.query seconds])) := by
    rw [← resultDicts_json, ← results]
    simp [batchJson, member, List.find?, py_eq]
  have backend : text p (summaryJson providers plan.query seconds) "backend" = some (py ("+".intercalate providers)) := by
    simp [summaryJson, member, List.find?, text, EvidenceSemantics.Python.str]
  have query : text p (summaryJson providers plan.query seconds) "query" = some plan.query := by
    simp [summaryJson, member, List.find?, py_eq, text, EvidenceSemantics.Python.str]
  have cost : (member (summaryJson providers plan.query seconds) "search_cost_seconds").bind asFloat = some (.fin seconds.value) := by
    simp [summaryJson, member, List.find?, py_eq, asFloat, seconds.reads]
  have rows : (raws.map fun raw => serializeRawResult raw.toRawFields).mapM (classifyRow p plan.cell policy.minRelevanceScore.value) =
      raws.mapM fun raw => (p.classifyResult plan.cell policy.minRelevanceScore.value raw).mapError .raised := by
    rw [List.mapM_map]
    exact congrArg (raws.mapM ·) (funext fun raw => classifyRow_written p _ _ raw)
  have ok_bind {α β : Type} (a : α) (f : α → Except BridgeError β) : (Except.ok a >>= f) = f a := rfl
  unfold rebuild
  rw [read]
  simp only [orMalformed, ok_bind, items, sort_results, List.nil_append]
  rw [show Json.obj (⟨_, payloadJson_ordered plan policy.toPolicyFields providers⟩ : Dict).members =
    payloadJson plan policy.toPolicyFields providers from rfl, ofPlan, ofPolicy]
  simp only [ok_bind, QueryPlan.read, PolicyFields.read, rows, backend, query, cost]

/-! ## Submitted work -/

structure Admitted (plan : QueryPlan PyNumber) (policy : DeterministicSearchPolicy) (providers : List String) (work : WorkDefinition) :
    Prop where
  payload : work.payload = ⟨_, payloadJson_ordered plan policy.toPolicyFields providers⟩
  required : work.requiredProviders = providers
  some_ : providers ≠ []
  distinct_ : distinct providers = true
  query : encodable plan.query

theorem workKey_encodes {w : WorkFields} {key : String} (keyed : workKey w = .ok key) : EncodesMembers w.payload.members := by
  unfold workKey stableIdentity at keyed
  split at keyed
  · rename_i bytes encoded
    have holds : encodable (dumps _) = true := (encodeUtf8_isSome _).symm.trans (congrArg Option.isSome encoded)
    obtain ⟨-, -, -, -, -, -, -, payload, -⟩ := (encodable_write _).mp holds
    exact payload
  · cases keyed

theorem submitted_admitted {plan : QueryPlan PyNumber} {policy : DeterministicSearchPolicy} {providers : List String} {work : WorkDefinition}
    (submits : submitted plan policy providers = .ok work) : Admitted plan policy providers work := by
  unfold submitted at submits
  cases defined : residualWorkDefinition plan policy providers with
  | error raised =>
    rw [defined] at submits
    cases submits
  | ok made =>
    cases keyed : workKey made.toWorkFields with
    | error raised => simp [bind, Except.bind, defined, keyed] at submits
    | ok key =>
      have same : made = work := by simpa [bind, Except.bind, defined, keyed, pure, Except.pure] using submits
      subst same
      have payload := workKey_encodes keyed
      unfold residualWorkDefinition at defined
      by_cases bad : (decide (providers = []) || !distinct providers) = true
      · rw [if_pos bad] at defined
        cases defined
      · rw [if_neg bad] at defined
        unfold WorkDefinition.make at defined
        simp only [Bool.or_eq_true, decide_eq_true_eq, Bool.not_eq_true', not_or, Bool.not_eq_false] at bad
        split at defined
        · cases defined
          obtain ⟨-, ⟨-, -, -, -, -, -, -, -, -, query, -⟩, -⟩ := payload
          exact ⟨rfl, rfl, bad.1, bad.2, query⟩
        · cases defined

/-! ## The worker's batch -/

theorem run_written {plan : QueryPlan PyNumber} {policy : DeterministicSearchPolicy} {providers : List String} {lease : TaskLease}
    (admitted : Admitted plan policy providers lease.work) (known : ∀ name ∈ providers, name ∈ defaultProviders)
    (leased : blank lease.taskId = false ∧ 1 ≤ lease.generation) (answers : Answers) (seconds : Seconds) :
    (failures providers answers ≠ [] → ∃ raised, run p lease answers seconds = .error raised) ∧
    (failures providers answers = [] → ∃ batch, run p lease answers seconds = .ok batch ∧ batch.artifacts = [] ∧
      batch.results = resultDicts (rawResults policy.toPolicyFields.read providers answers) providers plan.query seconds) := by
  obtain ⟨ofPlan, ofPolicy⟩ := payload_members p plan policy providers
  have ofProviders : (member (payloadJson plan policy.toPolicyFields providers) "providers").bind asItems =
      some (providers.map fun name => .str (py name)) := by
    simp [payloadJson, member, List.find?, py_eq, asItems]
  have names : (providers.map fun name => Json.str (py name)).mapM (fun name => (charsOf (p.str name)).map String.ofList) = some providers :=
    mapM_written (fun name => by simp [EvidenceSemantics.Python.str]) providers
  have payload : Json.obj lease.work.payload.members = payloadJson plan policy.toPolicyFields providers := by
    rw [admitted.payload]
    rfl
  have agrees : ¬(decide (providers = []) || !distinct providers || !(providers.all (· ∈ lease.work.requiredProviders)) ||
      !(lease.work.requiredProviders.all (· ∈ providers))) = true := by
    rw [admitted.required]
    simp [admitted.some_, admitted.distinct_]
  have supported : providers.find? (· ∉ defaultProviders) = none := by
    simp only [List.find?_eq_none, decide_eq_true_eq, not_not]
    exact known
  unfold run
  simp only [payload, ofPlan, ofPolicy, ofProviders]
  rw [names]
  dsimp only
  rw [if_neg agrees, supported]
  dsimp only
  constructor
  · intro failed
    exact ⟨_, if_pos failed⟩
  · intro answered
    rw [if_neg (not_not.mpr answered)]
    split
    · exact ⟨_, rfl, rfl, rfl⟩
    · rename_i refused
      simp [BatchFields.postInit, leased.1] at refused
      omega

def rawTexts (raw : RawFields) : List PyStr :=
  [raw.provider, raw.providerResultId, raw.url, raw.title, raw.description, raw.publisher, raw.resourceType] ++ raw.creators ++
    raw.identifiers ++ raw.etag.toList ++ raw.checksumSha256.toList

theorem encodable_optional (value : Option PyStr) : Encodes (optional .str value) ↔ ∀ t ∈ value.toList, encodable t := by
  cases value <;> simp [optional, Encodes]

theorem encodable_texts (values : List PyStr) : EncodesItems (values.map .str) ↔ ∀ t ∈ values, encodable t := by
  simp [encodesItems_iff, Encodes]

theorem serializeRawResult_encodable (raw : RawFields) : Encodes (serializeRawResult raw) ↔ ∀ t ∈ rawTexts raw, encodable t := by
  have number (value : Option Int) : Encodes (optional .int value) := by cases value <;> trivial
  simp only [serializeRawResult, Encodes, EncodesMembers, py_encodable, encodable_optional, encodable_texts, number, rawTexts,
    List.forall_mem_append, List.forall_mem_cons]
  tauto

theorem batch_encodable {raws : List RawSearchResult} {providers : List String} {query : PyStr} {seconds : Seconds} {batch : ResultBatch}
    (plain : batch.artifacts = []) (results : batch.results = resultDicts raws providers query seconds) (asked : encodable query) :
    encodable (batchPayload batch) ↔ ∀ raw ∈ raws, ∀ t ∈ rawTexts raw.toRawFields, encodable t := by
  have cursor : Encodes (optionalText batch.cursorAfter) := by
    cases batch.cursorAfter
    · trivial
    · exact py_encodable _
  have summary : Encodes (summaryJson providers query seconds) := by
    simp [summaryJson, Encodes, EncodesMembers, asked]
  have items : EncodesItems (batch.results.map fun d => Json.obj d.members) ↔
      ∀ raw ∈ raws, ∀ t ∈ rawTexts raw.toRawFields, encodable t := by
    rw [results, resultDicts_json, encodesItems_iff, List.forall_mem_append, List.forall_mem_map, List.forall_mem_singleton]
    simp only [serializeRawResult_encodable, and_iff_left summary]
  rw [batchPayload, dumps, encodable_write, ← items]
  simp [batchJson, Encodes, EncodesMembers, EncodesItems, plain, cursor]

/-- A batch reaches the authority when its text can be encoded. -/
theorem transported_eq (batch : ResultBatch) :
    transported batch = if encodable (batchPayload batch) then .ok (batchPayload batch) else .error .unicodeEncodeError := by
  unfold transported
  rw [← encodeUtf8_isSome]
  cases encodeUtf8 (batchPayload batch) <;> rfl

/-! ## Classification -/

theorem mapM_ok {α β ε : Type} {f : α → Except ε β} {g : α → β} (items : List α) (each : ∀ a ∈ items, f a = .ok (g a)) :
    items.mapM f = .ok (items.map g) := by
  induction items with
  | nil => rfl
  | cons a rest ih =>
    obtain ⟨here, others⟩ := List.forall_mem_cons.mp each
    rw [List.mapM_cons, here, ih others]
    rfl

theorem mapM_error {α β ε : Type} (f : α → Except ε β) {items : List α} {a : α} (member : a ∈ items) (raised : ε)
    (raises : f a = .error raised) : ∃ raised, items.mapM f = .error raised := by
  induction items with
  | nil => exact absurd member List.not_mem_nil
  | cons b rest ih =>
    rw [List.mapM_cons]
    cases first : f b with
    | error other => exact ⟨other, rfl⟩
    | ok value =>
      rcases List.mem_cons.mp member with rfl | later
      · exact nomatch raises.symm.trans first
      · obtain ⟨other, fails⟩ := ih later
        exact ⟨other, by rw [fails]; rfl⟩

/-- What is made of a result that is not refused; of a refused one, nothing. -/
def classified (cell : SearchCell) (minRelevanceScore : PyFloat) (raw : RawSearchResult) : Option CanonicalSearchResult :=
  (p.classifyResult cell minRelevanceScore raw).toOption.join

theorem classifyOrSkip_eq (cell : SearchCell) (minRelevanceScore : PyFloat) (raw : RawSearchResult) :
    classifyOrSkip p cell minRelevanceScore raw = .ok (classified p cell minRelevanceScore raw) := by
  unfold classifyOrSkip classified
  cases result : p.classifyResult cell minRelevanceScore raw with
  | ok value => rfl
  | error raised => simp [classifyResult_refuses cell minRelevanceScore raw raised result, Except.toOption]

/-- The batch has a backend and a query. -/
def Attributed (providers : List String) (query : PyStr) : Prop :=
  stripText (py ("+".intercalate providers)) ≠ [] ∧ stripText query ≠ []

theorem make_attributed (providers : List String) (query : PyStr) {actor : PyStr} (results : List CanonicalSearchResult) (seconds : Seconds)
    (named : stripText actor ≠ []) :
    (Attributed providers query → DeterministicSearchBatch.make ⟨py ("+".intercalate providers), query, actor, results, .fin seconds.value⟩ =
      .ok ⟨py ("+".intercalate providers), query, actor, results, .fin seconds.value⟩) ∧
    (¬Attributed providers query → ∃ raised,
      DeterministicSearchBatch.make ⟨py ("+".intercalate providers), query, actor, results, .fin seconds.value⟩ = .error raised) := by
  have finite : (PyFloat.fin seconds.value).isFinite = true := rfl
  constructor
  · rintro ⟨backend, query⟩
    simp [DeterministicSearchBatch.make, backend, query, named, finite, seconds.nonneg]
  · intro blank_
    rw [Attributed, not_and_or, not_not, not_not] at blank_
    refine ⟨.valueError "deterministic search attribution is required", ?_⟩
    rcases blank_ with backend | query
    · simp [DeterministicSearchBatch.make, backend]
    · simp [DeterministicSearchBatch.make, query]

/-! ## The two pipelines -/

/-- What `drain` rebuilds of the run of a worker. -/
def distributed (lease : TaskLease) (answers : Answers) (seconds : Seconds) : Except BridgeError DeterministicSearchBatch := do
  let batch ← (run p lease answers seconds).mapError .raised
  let payload ← (transported batch).mapError .raised
  rebuild p payload lease.work.payload

/-- Both build the same results, or neither builds a batch. -/
def Agree (here : Except PyError DeterministicSearchBatch) (there : Except BridgeError DeterministicSearchBatch) : Prop :=
  match here with
  | .ok batch => ∃ batch', there = .ok batch' ∧ batch'.results = batch.results
  | .error _ => ∀ batch', there ≠ .ok batch'

/-- The classification does not refuse the result, and UTF-8 holds its texts. -/
def Accepted (cell : SearchCell) (minRelevanceScore : PyFloat) (raw : RawSearchResult) : Prop :=
  (p.classifyResult cell minRelevanceScore raw).isOk ∧ ∀ t ∈ rawTexts raw.toRawFields, encodable t

section
variable {plan : QueryPlan PyNumber} {policy : DeterministicSearchPolicy} {providers : List String} {lease : TaskLease}

theorem execute_answered (plan : QueryPlan PyNumber) (policy : DeterministicSearchPolicy) {actor : PyStr} (named : stripText actor ≠ []) {answers : Answers} (answered : failures providers answers = [])
    (seconds : Seconds) :
    (Attributed providers plan.query → ∃ batch, execute p policy.toPolicyFields.read actor providers answers plan seconds = .ok batch ∧
      batch.results = ((rawResults policy.toPolicyFields.read providers answers).map
        (classified p plan.cell policy.minRelevanceScore.value)).reduceOption) ∧
    (¬Attributed providers plan.query → ∃ raised, execute p policy.toPolicyFields.read actor providers answers plan seconds = .error raised) := by
  have skips := mapM_ok (rawResults policy.toPolicyFields.read providers answers)
    fun raw _ => classifyOrSkip_eq p plan.cell policy.minRelevanceScore.value raw
  have built := make_attributed providers plan.query
    ((rawResults policy.toPolicyFields.read providers answers).map (classified p plan.cell policy.minRelevanceScore.value)).reduceOption seconds named
  unfold execute
  rw [if_neg (not_not.mpr answered), show policy.toPolicyFields.read.minRelevanceScore = policy.minRelevanceScore.value from rfl, skips]
  exact ⟨fun attributed => ⟨_, built.1 attributed, rfl⟩, built.2⟩

/-- What reaches the authority is classified there. -/
theorem distributed_eq (admitted : Admitted plan policy providers lease.work) (known : ∀ name ∈ providers, name ∈ defaultProviders)
    (leased : blank lease.taskId = false ∧ 1 ≤ lease.generation) {answers : Answers} (answered : failures providers answers = [])
    (seconds : Seconds) :
    ((∀ raw ∈ rawResults policy.toPolicyFields.read providers answers, ∀ t ∈ rawTexts raw.toRawFields, encodable t) →
      distributed p lease answers seconds =
        ((rawResults policy.toPolicyFields.read providers answers).mapM fun raw =>
          (p.classifyResult plan.cell policy.minRelevanceScore.value raw).mapError .raised) >>= fun canonical =>
            (DeterministicSearchBatch.make ⟨py ("+".intercalate providers), plan.query, py "deterministic:fabric-residual",
              canonical.reduceOption, .fin seconds.value⟩).mapError .raised) ∧
    (¬(∀ raw ∈ rawResults policy.toPolicyFields.read providers answers, ∀ t ∈ rawTexts raw.toRawFields, encodable t) →
      distributed p lease answers seconds = .error (.raised .unicodeEncodeError)) := by
  obtain ⟨batch, ran, plain, results⟩ := (run_written p admitted known leased answers seconds).2 answered
  have sent : distributed p lease answers seconds =
      (transported batch).mapError .raised >>= fun payload => rebuild p payload lease.work.payload := by
    unfold distributed
    rw [ran]
    rfl
  rw [sent, transported_eq, ← batch_encodable plain results admitted.query, admitted.payload]
  constructor
  · intro holds
    rw [if_pos holds, ← rebuild_written p plan policy providers _ seconds results]
    rfl
  · intro refused
    rw [if_neg refused]
    rfl

/-- The authority refuses the whole batch of a result that it cannot classify. -/
theorem distributed_answered (admitted : Admitted plan policy providers lease.work) (known : ∀ name ∈ providers, name ∈ defaultProviders)
    (leased : blank lease.taskId = false ∧ 1 ≤ lease.generation) {answers : Answers} (answered : failures providers answers = [])
    (seconds : Seconds) :
    (Attributed providers plan.query → (∀ raw ∈ rawResults policy.toPolicyFields.read providers answers,
        Accepted p plan.cell policy.minRelevanceScore.value raw) →
      ∃ batch, distributed p lease answers seconds = .ok batch ∧ batch.results =
        ((rawResults policy.toPolicyFields.read providers answers).map (classified p plan.cell policy.minRelevanceScore.value)).reduceOption) ∧
    (¬(Attributed providers plan.query ∧ ∀ raw ∈ rawResults policy.toPolicyFields.read providers answers,
        Accepted p plan.cell policy.minRelevanceScore.value raw) → ∃ raised, distributed p lease answers seconds = .error raised) := by
  obtain ⟨arrives, lost⟩ := distributed_eq p admitted known leased answered seconds
  have actor : stripText (py "deterministic:fabric-residual") ≠ [] := by decide
  have built (results : List CanonicalSearchResult) := make_attributed providers plan.query results seconds actor
  have ok_bind {α β : Type} (a : α) (f : α → Except BridgeError β) : (Except.ok a >>= f) = f a := rfl
  have each (raw : RawSearchResult) (accepts : (p.classifyResult plan.cell policy.minRelevanceScore.value raw).isOk) :
      (p.classifyResult plan.cell policy.minRelevanceScore.value raw).mapError BridgeError.raised =
        .ok (classified p plan.cell policy.minRelevanceScore.value raw) := by
    unfold classified
    cases result : p.classifyResult plan.cell policy.minRelevanceScore.value raw with
    | ok value => rfl
    | error raised =>
      rw [result] at accepts
      cases accepts
  constructor
  · intro attributed accepted
    rw [arrives fun raw member => (accepted raw member).2, mapM_ok _ fun raw member => each raw (accepted raw member).1, ok_bind,
      (built _).1 attributed]
    exact ⟨_, rfl, rfl⟩
  · intro refused
    by_cases texts : ∀ raw ∈ rawResults policy.toPolicyFields.read providers answers, ∀ t ∈ rawTexts raw.toRawFields, encodable t
    · rw [arrives texts]
      by_cases accepts : ∀ raw ∈ rawResults policy.toPolicyFields.read providers answers,
          (p.classifyResult plan.cell policy.minRelevanceScore.value raw).isOk
      · have nameless : ¬Attributed providers plan.query := fun attributed =>
          refused ⟨attributed, fun raw member => ⟨accepts raw member, texts raw member⟩⟩
        obtain ⟨raised, fails⟩ := (built ((rawResults policy.toPolicyFields.read providers answers).map
          (classified p plan.cell policy.minRelevanceScore.value)).reduceOption).2 nameless
        rw [mapM_ok _ fun raw member => each raw (accepts raw member), ok_bind, fails]
        exact ⟨_, rfl⟩
      · push Not at accepts
        obtain ⟨raw, member, rejects⟩ := accepts
        cases result : p.classifyResult plan.cell policy.minRelevanceScore.value raw with
        | ok value =>
          rw [result] at rejects
          exact absurd rfl rejects
        | error raised =>
          obtain ⟨other, fails⟩ := mapM_error
            (fun raw => (p.classifyResult plan.cell policy.minRelevanceScore.value raw).mapError BridgeError.raised) member
            (.raised raised) (by rw [result]; rfl)
          rw [fails]
          exact ⟨other, rfl⟩
    · exact ⟨_, lost texts⟩

/-- Both pipelines give the same results exactly when none of the raw results that they classify is refused. -/
theorem agree_iff (submits : submitted plan policy providers = .ok lease.work) (known : ∀ name ∈ providers, name ∈ defaultProviders)
    (leased : blank lease.taskId = false ∧ 1 ≤ lease.generation) {actor : PyStr} (named : stripText actor ≠ []) (answers : Answers)
    (here there : Seconds) :
    Agree (execute p policy.toPolicyFields.read actor providers answers plan here) (distributed p lease answers there) ↔
      (failures providers answers = [] → Attributed providers plan.query → ∀ raw ∈ rawResults policy.toPolicyFields.read providers answers,
        Accepted p plan.cell policy.minRelevanceScore.value raw) := by
  have admitted := submitted_admitted submits
  by_cases answered : failures providers answers = []
  · obtain ⟨executes, stops⟩ := execute_answered p plan policy named answered here
    obtain ⟨builds, fails⟩ := distributed_answered p admitted known leased answered there
    by_cases attributed : Attributed providers plan.query
    · obtain ⟨batch, result, results⟩ := executes attributed
      rw [result]
      constructor
      · rintro ⟨batch', built, -⟩ - -
        by_contra refused
        obtain ⟨raised, failed⟩ := fails fun both => refused both.2
        exact nomatch built.symm.trans failed
      · intro accepted
        obtain ⟨batch', built, same⟩ := builds attributed (accepted answered attributed)
        exact ⟨batch', built, same.trans results.symm⟩
    · obtain ⟨raised, result⟩ := stops attributed
      obtain ⟨other, failed⟩ := fails fun both => attributed both.1
      rw [result]
      exact ⟨fun _ _ named_ => absurd named_ attributed, fun _ batch built => nomatch built.symm.trans failed⟩
  · have result : ∃ raised, execute p policy.toPolicyFields.read actor providers answers plan here = .error raised := by
      unfold execute
      exact ⟨_, if_pos answered⟩
    obtain ⟨raised, result⟩ := result
    obtain ⟨other, ran⟩ := (run_written p admitted known leased answers there).1 answered
    have failed : distributed p lease answers there = .error (.raised other) := by
      unfold distributed
      rw [ran]
      rfl
    rw [result]
    exact ⟨fun _ answered' => absurd answered' answered, fun _ batch built => nomatch built.symm.trans failed⟩

/-! ## Quarantine -/

/-- Some turns of `drain` for one batch. -/
def drains (commit : QueryPlan PyFloat → DeterministicSearchBatch → Except BridgeError Unit) (describe : BridgeError → String) (now : ℚ)
    (s : Store) (row : BatchRow) (work : WorkRow) : Nat → Store
  | 0 => s
  | n + 1 => drainBatch p commit describe now (drains commit describe now s row work n) row work

/-- A batch that cannot be rebuilt is never consumed; its twentieth turn puts it in quarantine. -/
theorem refused_quarantined (commit : QueryPlan PyFloat → DeterministicSearchBatch → Except BridgeError Unit) (describe : BridgeError → String)
    (now : ℚ) {s : Store} {row : BatchRow} {work : WorkRow} (stored : s.resultBatches.get? row.batchId = some row)
    (fresh : row.consumedAt = none ∧ row.consumeAttempts = 0 ∧ row.quarantined = false) {raised : BridgeError}
    (refused : rebuild p row.payloadJson work.fields.payload = .error raised) (n : Nat) :
    ∃ row', (drains p commit describe now s row work n).resultBatches.get? row.batchId = some row' ∧ row'.consumedAt = none ∧
      row'.consumeAttempts = n ∧ (row'.quarantined = true ↔ 20 ≤ n) := by
  induction n with
  | zero => exact ⟨row, stored, fresh.1, fresh.2.1, by simp [fresh.2.2]⟩
  | succ n ih =>
    obtain ⟨row', found, unconsumed, attempts, -⟩ := ih
    have turn : drains p commit describe now s row work (n + 1) =
        (AuthorityStore.markBatchConsumeFailed (drains p commit describe now s row work n) row.batchId (describe raised) 20).2 := by
      simp only [drains, drainBatch, refused]
      rfl
    rw [turn]
    simp only [AuthorityStore.markBatchConsumeFailed, found, unconsumed]
    have positive : ¬(20 : Int) < 1 := by decide
    rw [if_neg positive, if_neg (by decide)]
    dsimp only
    rw [Table.get?_update_key, if_pos rfl, found]
    refine ⟨_, rfl, unconsumed, ?_, ?_⟩
    · rw [attempts]
    · simp only [attempts, decide_eq_true_eq]
      omega

end

end

/-! ## A result with a user name in its URL -/

/-- Python on ASCII texts, and on URLs without a query. -/
def asciiPython : SearchResults.Python where
  lower text := text.map fun c => match c with
    | .char c => .char c.toLower
    | .surrogate k => .surrogate k
  repr _ := []
  refusesNetloc _ := false
  complaint _ := ""
  wordChar c := match c with
    | .char c => c.isAlphanum || c == '_'
    | .surrogate _ => false
  idna := some
  parseQsl _ := []
  urlencode _ := some []

def sampleCell : SearchCell where
  mechanism := "proxy_access"
  institution := "university"
  period := "1998"
  artifact := "trace"
  valid := by decide

def plainFloat (text : String) (valid : isFloatText text.toList = true := by decide) : PyNumber := .float (.finite text.toList valid)

def samplePlan : QueryPlan PyNumber where
  cell := sampleCell
  query := py "proxy trace"
  variant := 0
  exclusions := []
  score := plainFloat "2.0"
  mechanismPhrase := py "proxy"
  includeInstitution := true
  queryShape := py "STRICT_4D"

def samplePolicy : DeterministicSearchPolicy where
  resultsPerProvider := 10
  maxTotalResults := 40
  minRelevanceScore := plainFloat "0.55"
  timeoutSeconds := plainFloat "10.0"
  valid := by decide +kernel

def sampleProviders : List String := ["datacite", "zenodo"]

theorem sample_submits : (submitted samplePlan samplePolicy sampleProviders).toOption.isSome := by decide +kernel

def sampleLease : TaskLease where
  taskId := "task"
  workKey := "key"
  workerId := "worker"
  workerInstanceId := "instance"
  generation := 1
  leaseDeadline := .fin 60
  attempt := 1
  work := (submitted samplePlan samplePolicy sampleProviders).toOption.get sample_submits
  cursor := none
  nextSequenceNo := 0

theorem toOption_get {ε α : Type} {result : Except ε α} (returns : result.toOption.isSome) : result = .ok (result.toOption.get returns) := by
  cases result with
  | error raised => cases returns
  | ok value => rfl

theorem sampleLease_submitted : submitted samplePlan samplePolicy sampleProviders = .ok sampleLease.work := toOption_get sample_submits

def sampleResult (url : String) (valid : stripText (py url) ≠ [] := by decide) : RawSearchResult where
  provider := py "datacite"
  providerResultId := py "fixture:1"
  url := py url
  title := py "1998 Proxy Trace"
  valid := by
    have provider : stripText (py "datacite") ≠ [] := by decide
    have result : stripText (py "fixture:1") ≠ [] := by decide
    simp [RawFields.postInit, provider, result, valid]

/-- One provider finds a good result; the other finds one, or nothing. -/
def sampleAnswers (other : List RawSearchResult) : Answers
  | "datacite" => .ok [sampleResult "https://repo.example/proxy98.zip"]
  | _ => .ok other

theorem noTime_nonneg : (0 : ℚ) ≤ 0 := le_rfl

def noTime : Seconds where
  float := .finite "0.0".toList (by decide)
  value := 0
  reads := by decide +kernel
  nonneg := noTime_nonneg

def sampleActor : PyStr := py "deterministic:residual-search"

/-- A good result alone passes through both. -/
theorem good_results_agree : Agree
    (execute asciiPython samplePolicy.toPolicyFields.read sampleActor sampleProviders (sampleAnswers []) samplePlan noTime)
    (distributed asciiPython sampleLease (sampleAnswers []) noTime) := by
  refine (agree_iff asciiPython sampleLease_submitted (by decide) (by decide) (by decide) (sampleAnswers []) noTime noTime).mpr
    fun _ _ raw member => ?_
  have alone : rawResults samplePolicy.toPolicyFields.read sampleProviders (sampleAnswers []) =
      [sampleResult "https://repo.example/proxy98.zip"] := by rfl
  rw [alone, List.mem_singleton] at member
  subst member
  exact ⟨by decide +kernel, by decide⟩

/-- What the two providers find when one result has a user name in its URL. -/
def userinfoAnswers : Answers := sampleAnswers [sampleResult "https://user@repo.example/"]

theorem userinfo_refused : distributed asciiPython sampleLease userinfoAnswers noTime =
    .error (.raised (.valueError "search-result URL must not contain userinfo")) := by
  have both : rawResults samplePolicy.toPolicyFields.read sampleProviders userinfoAnswers =
      [sampleResult "https://repo.example/proxy98.zip", sampleResult "https://user@repo.example/"] := by rfl
  obtain ⟨arrives, -⟩ := distributed_eq asciiPython (submitted_admitted sampleLease_submitted) (by decide) (by decide)
    (rfl : failures sampleProviders userinfoAnswers = []) noTime
  rw [both] at arrives
  rw [arrives (by decide)]
  have good : (asciiPython.classifyResult sampleCell samplePolicy.minRelevanceScore.value
      (sampleResult "https://repo.example/proxy98.zip")).isOk := by decide +kernel
  have bad : asciiPython.classifyResult sampleCell samplePolicy.minRelevanceScore.value (sampleResult "https://user@repo.example/") =
      .error (.valueError "search-result URL must not contain userinfo") := by decide +kernel
  cases first : asciiPython.classifyResult sampleCell samplePolicy.minRelevanceScore.value
      (sampleResult "https://repo.example/proxy98.zip") with
  | error raised =>
    rw [first] at good
    cases good
  | ok value =>
    rw [List.mapM_cons, List.mapM_cons]
    simp only [samplePlan, first, bad]
    rfl

/-- The good result is lost with the other one, and twenty turns put their batch in quarantine. -/
theorem userinfo_loses_batch :
    (execute asciiPython samplePolicy.toPolicyFields.read sampleActor sampleProviders userinfoAnswers samplePlan noTime).toOption.map
        (fun batch => batch.results.map (·.canonicalUrl)) = some [py "https://repo.example/proxy98.zip"] ∧
    distributed asciiPython sampleLease userinfoAnswers noTime =
      .error (.raised (.valueError "search-result URL must not contain userinfo")) ∧
    ∀ batch, run asciiPython sampleLease userinfoAnswers noTime = .ok batch → ∀ commit describe now (s : Store) (row : BatchRow) (work : WorkRow),
      row.payloadJson = batchPayload batch → work.fields.payload = sampleLease.work.payload → s.resultBatches.get? row.batchId = some row →
      (row.consumedAt = none ∧ row.consumeAttempts = 0 ∧ row.quarantined = false) →
      ∃ row', (drains asciiPython commit describe now s row work 20).resultBatches.get? row.batchId = some row' ∧
        row'.consumedAt = none ∧ row'.quarantined = true := by
  refine ⟨by decide +kernel, userinfo_refused, fun batch ran commit describe now s row work isPayload isTask stored fresh => ?_⟩
  have refused : ((transported batch).mapError BridgeError.raised >>= fun payload => rebuild asciiPython payload sampleLease.work.payload) =
      .error (.raised (.valueError "search-result URL must not contain userinfo")) := by
    rw [← userinfo_refused, distributed, ran]
    rfl
  rw [transported_eq] at refused
  have rebuilt : rebuild asciiPython row.payloadJson work.fields.payload =
      .error (.raised (.valueError "search-result URL must not contain userinfo")) := by
    rw [isPayload, isTask]
    by_cases encoded : encodable (batchPayload batch) = true
    · rw [if_pos encoded] at refused
      exact refused
    · rw [if_neg encoded] at refused
      cases refused
  obtain ⟨row', found, unconsumed, -, quarantined⟩ := refused_quarantined asciiPython commit describe now stored fresh rebuilt 20
  exact ⟨row', found, unconsumed, quarantined.mpr le_rfl⟩

end Creeper.ResidualQuery
