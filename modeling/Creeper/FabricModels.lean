import Creeper.PyNumbers
import Creeper.JsonText
import Creeper.Hashing

/-!
# Wire-neutral models of the Fabric

The records of `distributed/models.py` with the checks of their constructors, the
deterministic identities of `distributed/identity.py`, and the errors the
authority raises. A record that fails a check cannot be built.
-/

namespace Creeper.FabricModels
open Creeper.PyText Creeper.PyNumbers Creeper.JsonText Creeper.Hashing

/-- The exceptions of the authority, with what their texts show. -/
inductive PyError
  | valueError (message : String)
  | keyError (key : String)
  | unicodeEncodeError
  | integrityError
  | dataError
  | runtimeError (message : String)
  | overflowError
  | staleLease (message : String)
  | batchConflict (message : String)
  | batchSequence (message : String)
  | workerRejected (message : String)
  | fabricProtocolMismatch (given required : String)
  | providerAccessDenied (message : String)
  | workerEgressBudgetExceeded (workerId : String)
  | assertionError
  deriving DecidableEq, Repr

def PyError.className : PyError → String
  | .valueError _ => "ValueError"
  | .keyError _ => "KeyError"
  | .unicodeEncodeError => "UnicodeEncodeError"
  | .integrityError => "IntegrityError"
  | .dataError => "DataError"
  | .runtimeError _ => "RuntimeError"
  | .overflowError => "OverflowError"
  | .staleLease _ => "StaleLeaseError"
  | .batchConflict _ => "BatchConflictError"
  | .batchSequence _ => "BatchSequenceError"
  | .workerRejected _ => "WorkerRejectedError"
  | .fabricProtocolMismatch _ _ => "FabricProtocolMismatchError"
  | .providerAccessDenied _ => "ProviderAccessDeniedError"
  | .workerEgressBudgetExceeded _ => "WorkerEgressBudgetExceededError"
  | .assertionError => "AssertionError"

/-- `not text.strip()`. -/
def blank (text : String) : Bool := text.toList.all isSpace

/-- `len(values) == len(set(values))`. -/
def distinct (values : List String) : Bool := values.eraseDups.length == values.length

/-! ## Identities -/

/-- `stable_identity`, for kinds that are not blank. -/
def stableIdentity (kind : String) (payload : Json) : Except PyError String :=
  match encodeUtf8 (dumps payload) with
  | some bytes => .ok (sha256Hex (utf8 kind ++ 0 :: bytes))
  | none => .error .unicodeEncodeError

/-- `batch_id`. -/
def batchId (taskId : String) (sequenceNo : Nat) : String :=
  sha256Hex (utf8 "result-batch" ++ 0 :: (encodeUtf8 (dumps (.obj [
    (py "sequence_no", .int sequenceNo), (py "task_id", .str (py (strip taskId)))]))).getD [])

/-- `artifact_id`: the checked digest in lower case, then its identity. -/
def artifactId (sha256 : String) : Except PyError String :=
  let value := (strip sha256).toLower
  if value.length ≠ 64 ∨ !value.toList.all "0123456789abcdef".toList.contains then
    .error (.valueError "artifact sha256 must be a 64-character hex digest")
  else stableIdentity "artifact" (.obj [(py "sha256", .str (py value))])

/-! ## Workers -/

def fabricProtocolVersion : String := "creeper-fabric-v2"

structure WorkerFields where
  workerId : String
  workerInstanceId : String
  runtimeClass : String
  region : String
  architecture : String
  memoryBytes : Int
  cpuCount : Int
  networkClass : String
  capabilities : List String
  producers : List String
  allowedProviders : List String
  dailyEgressBudgetBytes : Int
  protocolVersion : String
  editionVersion : String
  deriving DecidableEq

/-- The texts that must not be blank, with their names. -/
def WorkerFields.required (w : WorkerFields) : List (String × String) :=
  [("worker_id", w.workerId), ("worker_instance_id", w.workerInstanceId), ("runtime_class", w.runtimeClass),
    ("region", w.region), ("architecture", w.architecture), ("network_class", w.networkClass),
    ("protocol_version", w.protocolVersion), ("edition_version", w.editionVersion)]

/-- The value lists, with their names. -/
def WorkerFields.lists (w : WorkerFields) : List (String × List String) :=
  [("capabilities", w.capabilities), ("producers", w.producers), ("allowed_providers", w.allowedProviders)]

/-- The first check of `WorkerDescriptor.__post_init__` that fails. -/
def WorkerFields.postInit (w : WorkerFields) : Option String :=
  match w.required.find? (fun field => blank field.2) with
  | some field => some (field.1 ++ " is required")
  | none =>
    if w.memoryBytes < 0 ∨ w.cpuCount < 1 then some "invalid worker capacity"
    else if w.dailyEgressBudgetBytes < 0 then some "daily egress budget must be non-negative"
    else
      match w.lists.find? (fun field => !distinct field.2 || field.2.any blank) with
      | some field => some (field.1 ++ " must contain unique non-empty values")
      | none =>
        if w.capabilities.isEmpty || w.producers.isEmpty then
          some "workers must explicitly declare non-empty capabilities and producers"
        else none

structure WorkerDescriptor extends WorkerFields where
  valid : toWorkerFields.postInit = none

/-! ## Work -/

inductive TaskClass
  | residualQuery
  | sourceShard
  | hostBatch
  | evidenceBatch
  | regionProbe
  deriving DecidableEq, Repr

structure WorkFields where
  producer : String
  taskClass : TaskClass
  inputIdentity : String
  payload : Dict
  partition_ : String
  algorithmVersion : String
  requiredCapabilities : List String
  requiredProviders : List String
  priority : PyFloat
  maxAttempts : Int
  notBefore : PyFloat

/-- The first check of `WorkDefinition.__post_init__` that fails. -/
def WorkFields.postInit (w : WorkFields) : Option String :=
  if blank w.producer || blank w.inputIdentity then some "producer and input_identity are required"
  else if blank w.algorithmVersion then some "algorithm_version is required"
  else if !distinct w.requiredCapabilities then some "required capabilities must be unique"
  else if !distinct w.requiredProviders then some "required providers must be unique"
  else if w.maxAttempts < 1 then some "max_attempts must be positive"
  else if !w.priority.isFinite then some "priority must be finite"
  else if !w.notBefore.isFinite || w.notBefore.lt (.fin 0) then some "not_before must be finite and non-negative"
  else none

structure WorkDefinition extends WorkFields where
  valid : toWorkFields.postInit = none

def WorkDefinition.make (w : WorkFields) : Except PyError WorkDefinition :=
  match valid : w.postInit with
  | none => .ok ⟨w, valid⟩
  | some message => .error (.valueError message)

/-- `WorkDefinition.work_key`; the members are in key order. -/
def workKey (w : WorkFields) : Except PyError String :=
  stableIdentity "work" (.obj [
    (py "algorithm_version", .str (py (strip w.algorithmVersion))), (py "input", .str (py (strip w.inputIdentity))),
    (py "partition", .str (py (strip w.partition_))), (py "payload", .obj w.payload.members),
    (py "producer", .str (py (strip w.producer)))])

def emptyDict : Dict := ⟨[], by simp [Ordered, KeysRise, OrderedMembers]⟩

/-- A worker with one capability and one producer. -/
def plainWorker (workerId workerInstanceId : String)
    (named : blank workerId = false ∧ blank workerInstanceId = false := by decide) : WorkerDescriptor where
  workerId := workerId
  workerInstanceId := workerInstanceId
  runtimeClass := "vm"
  region := "eu"
  architecture := "x86_64"
  memoryBytes := 0
  cpuCount := 1
  networkClass := "public"
  capabilities := ["RDAP"]
  producers := ["p"]
  allowedProviders := ["wayback"]
  dailyEgressBudgetBytes := 0
  protocolVersion := fabricProtocolVersion
  editionVersion := "2.0.0-dev"
  valid := by
    have rest : blank "vm" = false ∧ blank "eu" = false ∧ blank "x86_64" = false ∧ blank "public" = false ∧
        blank fabricProtocolVersion = false ∧ blank "2.0.0-dev" = false := by decide
    have lists : ([("capabilities", ["RDAP"]), ("producers", ["p"]), ("allowed_providers", ["wayback"])].find?
        (fun field : String × List String => !distinct field.2 || field.2.any blank)) = none := by decide
    simp [WorkerFields.postInit, WorkerFields.required, WorkerFields.lists, named, rest, lists]

/-- Work that any worker with its producer can do. -/
def plainWork (maxAttempts : Int) (positive : 1 ≤ maxAttempts := by decide) : WorkDefinition where
  producer := "p"
  taskClass := .sourceShard
  inputIdentity := "x"
  payload := emptyDict
  partition_ := ""
  algorithmVersion := "1"
  requiredCapabilities := []
  requiredProviders := []
  priority := .fin 0
  maxAttempts := maxAttempts
  notBefore := .fin 0
  valid := by
    have texts : blank "p" = false ∧ blank "x" = false ∧ blank "1" = false ∧ distinct [] = true := by decide
    have attempts : ¬maxAttempts < 1 := by omega
    simp [WorkFields.postInit, texts, attempts, PyFloat.isFinite]

theorem worker_named : blank "w" = false ∧ blank "i" = false := by decide

theorem five_tries : (1 : Int) ≤ 5 := by decide

theorem eight_tries : (1 : Int) ≤ 8 := by decide

/-! ## Leases -/

structure TaskLease where
  taskId : String
  workKey : String
  workerId : String
  workerInstanceId : String
  generation : Nat
  leaseDeadline : PyFloat
  attempt : Nat
  work : WorkDefinition
  cursor : Option String
  nextSequenceNo : Nat

/-- `TaskLease.__post_init__`. -/
def TaskLease.make (lease : TaskLease) : Except PyError TaskLease :=
  if lease.generation < 1 ∨ lease.attempt < 1 then .error (.valueError "invalid lease counters") else .ok lease

/-! ## Result batches -/

structure ArtifactFields where
  uri : String
  sha256 : String
  sizeBytes : Int
  contentType : String
  compression : String
  metadata : Dict

/-- The first check of `ArtifactRef.__post_init__` that fails. -/
def ArtifactFields.postInit (a : ArtifactFields) : Option PyError :=
  if blank a.uri then some (.valueError "artifact uri is required")
  else
    match artifactId a.sha256 with
    | .error e => some e
    | .ok _ =>
      if a.sizeBytes < 0 then some (.valueError "artifact size must be non-negative")
      else if blank a.contentType || blank a.compression then
        some (.valueError "artifact content_type and compression are required")
      else none

structure ArtifactRef extends ArtifactFields where
  valid : toArtifactFields.postInit = none

structure BatchFields where
  taskId : String
  generation : Nat
  sequenceNo : Nat
  results : List Dict
  artifacts : List ArtifactRef
  cursorAfter : Option String
  final : Bool

/-- `ResultBatch.__post_init__`; a sequence number below zero cannot be written. -/
def BatchFields.postInit (b : BatchFields) : Option String :=
  if blank b.taskId ∨ b.generation < 1 then some "invalid result batch identity" else none

structure ResultBatch extends BatchFields where
  valid : toBatchFields.postInit = none

def ResultBatch.batchId (b : ResultBatch) : String := FabricModels.batchId b.taskId b.sequenceNo

/-- A text or `null`. -/
def optionalText : Option String → Json
  | some text => .str (py text)
  | none => .null

/-- An artifact inside `_batch_payload`. -/
def artifactJson (a : ArtifactFields) : Json := .obj [
  (py "compression", .str (py a.compression)), (py "content_type", .str (py a.contentType)),
  (py "metadata", .obj a.metadata.members), (py "sha256", .str (py a.sha256)), (py "size_bytes", .int a.sizeBytes),
  (py "uri", .str (py a.uri))]

/-- `_batch_payload` before it is written; the members are in key order. -/
def batchJson (b : ResultBatch) : Json := .obj [
  (py "artifacts", .arr (b.artifacts.map (fun a => artifactJson a.toArtifactFields))),
  (py "cursor_after", optionalText b.cursorAfter), (py "final", .bool b.final), (py "generation", .int b.generation),
  (py "results", .arr (b.results.map (fun d => .obj d.members))), (py "sequence_no", .int b.sequenceNo),
  (py "task_id", .str (py b.taskId))]

/-- `_batch_payload`. -/
def batchPayload (b : ResultBatch) : PyStr := dumps (batchJson b)

end Creeper.FabricModels
