import Creeper.Tables
import Creeper.EvidenceTasks
import Creeper.ProductionExposures

/-!
# Source runs

The rows of `source_run_outcomes` in `source_discovery/registry.py`: registration, the reports
of the read and of validation, the closing of a run and its end without a reward. Each is the
one transaction on the table; what the calls do beside it is with the modules that use them.
-/

namespace Creeper.SourceRuns
open Creeper.Tables Creeper.PyNumbers
open Creeper.FabricModels (PyError blank)
open Creeper.PyText (strip)
open Creeper.EvidenceTasks (finiteReading)
open Creeper.ProductionExposures (ExposureState fitsColumn)

/-- A baseline and a model signature. -/
abbrev Authority := String × String

structure RunKey where
  sourceKey : String
  reservoirId : String
  leaseId : String
  baselineSignature : String
  modelSignature : String
  deriving DecidableEq

def RunKey.authority (key : RunKey) : Authority := (key.baselineSignature, key.modelSignature)

/-- What `record_source_run_read` reports. -/
structure ReadCounters where
  sourceRecords : Int
  bytesRead : Int
  sourceRequests : Int
  candidateDuplicates : Int
  baselineDuplicates : Int
  deriving DecidableEq

def ReadCounters.list (c : ReadCounters) : List Int :=
  [c.sourceRecords, c.bytesRead, c.sourceRequests, c.candidateDuplicates, c.baselineDuplicates]

/-- What `record_source_run_validation` reports. -/
structure Validation where
  evidenceTasksCreated : Int
  evidenceTasksTerminal : Int
  directCapsulesCommitted : Int
  providerRequests : Int
  providerElapsedSeconds : ℚ
  acceptedHostYears : Int
  finalAcceptedEed : ℚ
  maxEvidenceSequence : Int
  complete : Bool
  deriving DecidableEq

def Validation.counts (v : Validation) : List Int :=
  [v.evidenceTasksCreated, v.evidenceTasksTerminal, v.directCapsulesCommitted, v.providerRequests, v.acceptedHostYears,
    v.maxEvidenceSequence]

def Validation.zero : Validation := ⟨0, 0, 0, 0, 0, 0, 0, 0, false⟩

/-- A row of `source_run_outcomes`. -/
structure RunRow where
  key : RunKey
  exposureId : Option String
  readStarted : Option ℚ
  readFinished : Option ℚ
  read : ReadCounters
  readComplete : Bool
  validation : Validation
  closed : Bool
  terminalState : Option ExposureState
  terminalReason : Option String
  deriving DecidableEq

abbrev Runs := Table RunRow RunKey (·.key)

/-- A run that has just been registered. -/
def RunRow.registered (key : RunKey) (exposureId : Option String) (readStarted : Option ℚ) : RunRow :=
  ⟨key, exposureId, readStarted, none, ⟨0, 0, 0, 0, 0⟩, false, .zero, false, none, none⟩

/-- The transaction of `begin_source_run`: a row that is there keeps its exposure. -/
def beginRun (t : Runs) (key : RunKey) (exposureId : String) (readStarted : Option ℚ) : Runs :=
  (t.insert (.registered key (some exposureId) readStarted)).update (fun r => r.key = key && r.exposureId.isNone)
    (fun r => { r with exposureId := some exposureId })

/-- What `record_source_run_read` finds wrong with its counters. -/
def readProblem (counters : ReadCounters) (readFinished : Option ℚ) : Option PyError :=
  if counters.list.any (· < 0) then some (.valueError "source-run read counters must be non-negative integers")
  else if readFinished.any (· < 0) then some (.valueError "read_finished must be finite and non-negative")
  else none

/-- The transaction of `record_source_run_read`. -/
def recordRead (t : Runs) (now : ℚ) (key : RunKey) (counters : ReadCounters) (readFinished : Option ℚ) (readComplete : Bool) :
    Except PyError Unit × Runs :=
  match readProblem counters readFinished with
  | some err => (.error err, t)
  | none =>
    match (t.get? key).filter (!·.closed) with
    | none => (.error (.keyError "unknown or closed source run"), t)
    | some _ =>
      if !counters.list.all fitsColumn then (.error .overflowError, t)
      else (.ok (), t.update (fun r => r.key = key) (fun r => { r with
        read := counters
        readFinished := if !readComplete && readFinished.isNone then none else some (readFinished.getD now)
        readComplete }))

/-- What `record_source_run_validation` finds wrong with its report. -/
def Validation.problem (v : Validation) : Option PyError :=
  if v.counts.any (· < 0) then some (.valueError "source-run validation counters must be non-negative integers")
  else if v.evidenceTasksCreated < v.evidenceTasksTerminal then
    some (.valueError "terminal evidence tasks cannot exceed created tasks")
  else if v.providerElapsedSeconds < 0 || v.finalAcceptedEed < 0 then
    some (.valueError "source-run final reward and cost must be finite and non-negative")
  else none

/-- The transaction of `record_source_run_validation`. -/
def recordValidation (t : Runs) (key : RunKey) (v : Validation) : Except PyError Unit × Runs :=
  match v.problem with
  | some err => (.error err, t)
  | none =>
    match (t.get? key).filter (!·.closed) with
    | none => (.error (.keyError "unknown or closed source run"), t)
    | some _ =>
      if !v.counts.all fitsColumn then (.error .overflowError, t)
      else (.ok (), t.update (fun r => r.key = key) (fun r => { r with validation := v }))

/-- The row passes the gates in the transaction of `close_source_run`. -/
def RunRow.closable (r : RunRow) : Bool :=
  !r.closed && r.readComplete && r.validation.complete && r.validation.evidenceTasksTerminal = r.validation.evidenceTasksCreated

/-- Its UPDATE. -/
def markClosed (t : Runs) (key : RunKey) : Runs := t.update (fun r => r.key = key) (fun r => { r with closed := true })

/-- The transaction of `abort_source_run`. -/
def markTerminal (t : Runs) (key : RunKey) (state : ExposureState) (reason : String) : Bool × Runs :=
  (((t.get? key).any fun r => r.terminalState.isNone && !r.closed),
    t.update (fun r => r.key = key && (r.terminalState.isNone && !r.closed))
      (fun r => { r with terminalState := some state, terminalReason := some (strip reason) }))

/-- Runs whose EED and cost are not negative, as the columns check. -/
def Sound (t : Runs) : Prop := ∀ r ∈ t.rows, 0 ≤ r.validation.finalAcceptedEed ∧ 0 ≤ r.validation.providerElapsedSeconds

section
variable {t : Runs} (sound : Sound t)
include sound

theorem sound_update {where_ : RunRow → Bool} {set : RunRow → RunRow} (keeps : ∀ r, (set r).key = r.key)
    (amounts : ∀ r, 0 ≤ r.validation.finalAcceptedEed ∧ 0 ≤ r.validation.providerElapsedSeconds →
      0 ≤ (set r).validation.finalAcceptedEed ∧ 0 ≤ (set r).validation.providerElapsedSeconds) :
    Sound (t.update where_ set keeps) := by
  intro r member
  obtain ⟨old, stored, ⟨-, rfl⟩ | ⟨-, rfl⟩⟩ := mem_update member
  · exact amounts old (sound old stored)
  · exact sound r stored

theorem sound_begin (key : RunKey) (exposureId : String) (readStarted : Option ℚ) : Sound (beginRun t key exposureId readStarted) := by
  refine sound_update (fun r member => ?_) (by intro _; rfl) fun _ same => same
  rcases mem_insert member with rfl | before
  · exact ⟨le_refl _, le_refl _⟩
  · exact sound r before

theorem sound_read (now : ℚ) (key : RunKey) (counters : ReadCounters) (readFinished : Option ℚ) (readComplete : Bool) :
    Sound (recordRead t now key counters readFinished readComplete).2 := by
  unfold recordRead
  split
  · exact sound
  · split
    · exact sound
    · split
      · exact sound
      · exact sound_update sound (by intro _; rfl) fun _ same => same

omit sound in
theorem Validation.amounts {v : Validation} (fine : v.problem = none) : 0 ≤ v.finalAcceptedEed ∧ 0 ≤ v.providerElapsedSeconds := by
  unfold Validation.problem at fine
  split at fine
  · cases fine
  · split at fine
    · cases fine
    · split at fine
      · cases fine
      · rename_i amounts
        simp only [Bool.or_eq_true, decide_eq_true_eq, not_or, not_lt] at amounts
        exact ⟨amounts.2, amounts.1⟩

theorem sound_validation (key : RunKey) (v : Validation) : Sound (recordValidation t key v).2 := by
  unfold recordValidation
  split
  · exact sound
  · rename_i fine
    split
    · exact sound
    · split
      · exact sound
      · exact sound_update sound (by intro _; rfl) fun _ _ => v.amounts fine

theorem sound_closed (key : RunKey) : Sound (markClosed t key) := sound_update sound (by intro _; rfl) fun _ same => same

theorem sound_terminal (key : RunKey) (state : ExposureState) (reason : String) :
    Sound (markTerminal t key state reason).2 := sound_update sound (by intro _; rfl) fun _ same => same

end
end Creeper.SourceRuns
