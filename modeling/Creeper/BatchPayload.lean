import Creeper.FabricModels

/-!
# Result batches as text

The payload of the worker's spool, the body of a commit request and the payload
that the authority digests are one text. Both readers of that text, the spool's
and the endpoint's, give back the batch that was written.
-/

namespace Creeper.BatchPayload
open Creeper.PyText Creeper.JsonText Creeper.Hashing Creeper.FabricModels

/-! ## Objects in key order -/

mutual
/-- Whether every object inside a value keeps its members in key order. -/
def orderedDecidable : (v : Json) → Decidable (Ordered v)
  | .arr items => orderedItemsDecidable items
  | .obj members =>
    have := orderedMembersDecidable members
    inferInstanceAs (Decidable (members.Pairwise (fun a b => before a.1 b.1) ∧ OrderedMembers members))
  | .null | .bool _ | .int _ | .float _ | .str _ => .isTrue trivial
def orderedItemsDecidable : (items : List Json) → Decidable (OrderedItems items)
  | [] => .isTrue trivial
  | v :: rest =>
    have := orderedDecidable v
    have := orderedItemsDecidable rest
    inferInstanceAs (Decidable (Ordered v ∧ OrderedItems rest))
def orderedMembersDecidable : (members : List (PyStr × Json)) → Decidable (OrderedMembers members)
  | [] => .isTrue trivial
  | (_, v) :: rest =>
    have := orderedDecidable v
    have := orderedMembersDecidable rest
    inferInstanceAs (Decidable (Ordered v ∧ OrderedMembers rest))
end

instance (v : Json) : Decidable (Ordered v) := orderedDecidable v

/-! ## The readers -/

/-- `raw[key]`. -/
def member (raw : Json) (key : String) : Option Json :=
  match raw with
  | .obj members => (members.find? (fun p => p.1 = py key)).map (·.2)
  | _ => none

/-- The characters of a text without surrogates. -/
def charsOf : PyStr → Option (List Char)
  | [] => some []
  | .char c :: rest => (charsOf rest).map (c :: ·)
  | .surrogate _ :: _ => none

def asText : Json → Option String
  | .str text => (charsOf text).map String.ofList
  | _ => none

def asInt : Json → Option Int
  | .int n => some n
  | _ => none

/-- A number of a batch that cannot be negative. -/
def asNat : Json → Option Nat
  | .int (.ofNat n) => some n
  | _ => none

def asBool : Json → Option Bool
  | .bool value => some value
  | _ => none

def asItems : Json → Option (List Json)
  | .arr items => some items
  | _ => none

/-- A text, or `null`. -/
def asOptionalText : Json → Option (Option String)
  | .null => some none
  | v => (asText v).map some

/-- `dict(item)`. -/
def asDict : Json → Option Dict
  | .obj members => if ordered : Ordered (.obj members) then some ⟨members, ordered⟩ else none
  | _ => none

/-- `item[key]`, or the default that `item.get` gives. -/
def textOr (default : Option String) (item : Json) (key : String) : Option String :=
  match member item key with
  | some value => asText value
  | none => default

def ArtifactRef.make (fields : ArtifactFields) : Option ArtifactRef :=
  if valid : fields.postInit.isNone then some ⟨fields, Option.isNone_iff_eq_none.mp valid⟩ else none

def ResultBatch.make (fields : BatchFields) : Option ResultBatch :=
  if valid : fields.postInit = none then some ⟨fields, valid⟩ else none

/-- An artifact of a payload, with the defaults of the reader. -/
def readArtifact (contentType compression : Option String) (item : Json) : Option ArtifactRef := do
  let fields : ArtifactFields := {
    uri := ← (member item "uri").bind asText
    sha256 := ← (member item "sha256").bind asText
    sizeBytes := ← (member item "size_bytes").bind asInt
    contentType := ← textOr contentType item "content_type"
    compression := ← textOr compression item "compression"
    metadata := ← ((member item "metadata").map asDict).getD (some emptyDict) }
  ArtifactRef.make fields

/-- A batch from its payload. Payloads that no writer makes are not read. -/
def readBatch (contentType compression : Option String) (payload : PyStr) : Option ResultBatch := do
  let raw ← loads payload
  let results ← (member raw "results").bind asItems
  let artifacts ← (member raw "artifacts").bind asItems
  let fields : BatchFields := {
    taskId := ← (member raw "task_id").bind asText
    generation := ← (member raw "generation").bind asNat
    sequenceNo := ← (member raw "sequence_no").bind asNat
    results := ← results.mapM asDict
    artifacts := ← artifacts.mapM (readArtifact contentType compression)
    cursorAfter := ← ((member raw "cursor_after").map asOptionalText).getD (some none)
    final := ← ((member raw "final").map asBool).getD (some false) }
  ResultBatch.make fields

/-- A row of `WorkerResultSpool.pending`. -/
def spooledBatch (payload : PyStr) : Option ResultBatch := readBatch none none payload

/-- The batch that the endpoint `commit_batch` builds. -/
def receivedBatch (body : PyStr) : Option ResultBatch :=
  readBatch (some "application/octet-stream") (some "none") body

/-! ## Reading what was written -/

@[simp] theorem charsOf_py (text : String) : charsOf (py text) = some text.toList := by
  unfold py
  induction text.toList with
  | nil => rfl
  | cons c rest ih => simp [charsOf, ih]

@[simp] theorem asText_py (text : String) : asText (.str (py text)) = some text := by simp [asText]

@[simp] theorem asOptionalText_optionalText (text : Option String) : asOptionalText (optionalText text) = some text := by
  cases text <;> simp [optionalText, asOptionalText]

@[simp] theorem asDict_members (d : Dict) : asDict (.obj d.members) = some d := by
  simp [asDict, d.ordered]

theorem ArtifactRef.make_fields (a : ArtifactRef) : ArtifactRef.make a.toArtifactFields = some a := by
  simp [ArtifactRef.make, a.valid]

theorem ResultBatch.make_fields (b : ResultBatch) : ResultBatch.make b.toBatchFields = some b := by
  simp [ResultBatch.make, b.valid]

theorem keysRise_of (members : List (PyStr × Json)) (keys : List String) (named : members.map (·.1) = keys.map py)
    (rise : (keys.map py).Pairwise (fun a b => before a b)) : KeysRise members := by
  rw [← named, List.pairwise_map] at rise
  exact rise

theorem artifactJson_ordered (a : ArtifactFields) : Ordered (artifactJson a) := by
  refine ⟨keysRise_of _ ["compression", "content_type", "metadata", "sha256", "size_bytes", "uri"] rfl (by decide), ?_⟩
  simp only [OrderedMembers, Ordered, and_true, true_and]
  exact a.metadata.ordered

theorem orderedItems_of {items : List Json} (each : ∀ v ∈ items, Ordered v) : OrderedItems items := by
  induction items with
  | nil => trivial
  | cons v rest ih => exact ⟨each v (by simp), ih (fun w member => each w (by simp [member]))⟩

theorem batchJson_ordered (b : ResultBatch) : Ordered (batchJson b) := by
  refine ⟨keysRise_of _
    ["artifacts", "cursor_after", "final", "generation", "results", "sequence_no", "task_id"] rfl (by decide), ?_⟩
  have artifacts : OrderedItems (b.artifacts.map (fun a => artifactJson a.toArtifactFields)) :=
    orderedItems_of (by simp [artifactJson_ordered])
  have results : OrderedItems (b.results.map (fun d => .obj d.members)) :=
    orderedItems_of (by
      intro v member
      obtain ⟨d, -, rfl⟩ := List.mem_map.mp member
      exact d.ordered)
  have cursor : Ordered (optionalText b.cursorAfter) := by cases b.cursorAfter <;> trivial
  exact ⟨artifacts, cursor, trivial, trivial, results, trivial, trivial, trivial⟩

/-- Distinct keys are distinct texts. -/
theorem py_eq {a b : String} : py a = py b ↔ a = b := py_injective.eq_iff

theorem readArtifact_written (contentType compression : Option String) (a : ArtifactRef) :
    readArtifact contentType compression (artifactJson a.toArtifactFields) = some a := by
  simp [readArtifact, textOr, member, artifactJson, List.find?, py_eq, asInt]
  exact ArtifactRef.make_fields a

theorem mapM_written {α β : Type} {write : α → β} {read : β → Option α} (back : ∀ x, read (write x) = some x)
    (xs : List α) : (xs.map write).mapM read = some xs := by
  induction xs with
  | nil => rfl
  | cons x rest ih => simp [back, ih]

theorem readBatch_written (contentType compression : Option String) (b : ResultBatch) :
    readBatch contentType compression (batchPayload b) = some b := by
  have results := mapM_written asDict_members b.results
  have artifacts := mapM_written (readArtifact_written contentType compression) b.artifacts
  rw [readBatch, batchPayload, loads_dumps (batchJson_ordered b)]
  simp [member, batchJson, List.find?, py_eq, asItems, asNat, asBool, results, artifacts]
  exact ResultBatch.make_fields b

theorem spooledBatch_written (b : ResultBatch) : spooledBatch (batchPayload b) = some b := readBatch_written _ _ b

theorem receivedBatch_written (b : ResultBatch) : receivedBatch (batchPayload b) = some b := readBatch_written _ _ b

theorem batchPayload_injective : Function.Injective batchPayload := by
  intro a b same
  have read := spooledBatch_written a
  rw [same, spooledBatch_written b] at read
  exact (Option.some.inj read).symm

end Creeper.BatchPayload
