import Creeper.SourceCoordinator

/-!
# Suppressions

Every writer of `source_suppressions` replaces the row of its key: what suppresses a key, and until
when, is what the last call said. Only a saturation decision that already holds writes nothing, and
only rows that nobody reads any more are pruned.
-/

namespace Creeper.Suppressions
open Creeper.Runs Creeper.Tables Creeper.PyNumbers Creeper.SourceCoordinator
open Creeper.EvidenceTasks (finiteReading)
open Creeper.SourceActivation (SourceError)
open Creeper.FabricModels (blank)

/-! ## Calls -/

structure Candidate where
  sourceKey : String
  sourceFamily : String
  origin : String

/-- A `SaturationDecision`, as far as it is applied. -/
structure SaturationDecision where
  origin : String
  shouldSuppress : Bool
  reason : String

def Candidate.scopeKey (candidate : Candidate) : SuppressionScope → String
  | .source => candidate.sourceKey
  | .family => candidate.sourceFamily
  | .origin => candidate.origin

/-- `_same_active_origin_suppression`, with a reading of the clock that nobody checks. -/
def sameActiveOriginSuppression (w : World) (decision : SaturationDecision) : Bool :=
  (w.suppressions.get? (.origin, decision.origin)).any fun row =>
    row.expiresAt.all (fun expiry => w.clock.lt (.fin expiry)) && row.reason = decision.reason

/-- `SourceSaturationController.apply`. -/
def apply (ttlSeconds : Option ℚ) (decision : SaturationDecision) (w : World) : Answer Bool :=
  if !decision.shouldSuppress then (.ok false, w)
  else if sameActiveOriginSuppression w decision then (.ok false, w)
  else
    match suppress .origin decision.origin decision.reason ttlSeconds w with
    | (.ok (), w) => (.ok true, w)
    | (.error err, w) => (.error err, w)

/-- What happens to the table: the calls of the registry and of the saturation controller, and readings of the clock. -/
inductive Event
  | suppress (scope : SuppressionScope) (scopeKey reason : String) (ttlSeconds : Option ℚ)
  | suppressCandidate (candidate : Candidate) (scope : SuppressionScope) (reason : String) (ttlSeconds : Option ℚ)
  | apply (ttlSeconds : Option ℚ) (decision : SaturationDecision)
  | prune
  | clock (reading : PyFloat)

/-- What a call answers, without its value. -/
def answered {α : Type} (answer : Answer α) : Except SourceError Unit × World := (answer.1.map fun _ => (), answer.2)

def step (w : World) : Event → Except SourceError Unit × World
  | .suppress scope scopeKey reason ttlSeconds => suppress scope scopeKey reason ttlSeconds w
  | .suppressCandidate candidate scope reason ttlSeconds => suppress scope (candidate.scopeKey scope) reason ttlSeconds w
  | .apply ttlSeconds decision => answered (apply ttlSeconds decision w)
  | .prune => pruneExpiredSuppressions w
  | .clock reading => (.ok (), { w with clock := reading })

/-- The histories of the table from some world. -/
def suppressing (w : World) : Machine World Event (Except SourceError Unit) := ⟨w, step⟩

/-! ## What a call writes -/

/-- The row that `suppress` writes. -/
def suppression (scope : SuppressionScope) (scopeKey reason : String) (ttlSeconds : Option ℚ) (clock : PyFloat) : Option SuppressionRow :=
  if blank scopeKey || blank reason || ttlSeconds.any (· < 0) then none
  else (finiteReading clock).map fun now => ⟨scope, scopeKey, reason, now, ttlSeconds.map (now + ·)⟩

def written (w : World) : Event → Option SuppressionRow
  | .suppress scope scopeKey reason ttlSeconds => suppression scope scopeKey reason ttlSeconds w.clock
  | .suppressCandidate candidate scope reason ttlSeconds => suppression scope (candidate.scopeKey scope) reason ttlSeconds w.clock
  | .apply ttlSeconds decision =>
    if decision.shouldSuppress && !sameActiveOriginSuppression w decision then
      suppression .origin decision.origin decision.reason ttlSeconds w.clock
    else none
  | _ => none

theorem suppress_writes (scope : SuppressionScope) (scopeKey reason : String) (ttlSeconds : Option ℚ) (w : World)
    (key : SuppressionScope × String) : (suppress scope scopeKey reason ttlSeconds w).2.suppressions.get? key =
      match suppression scope scopeKey reason ttlSeconds w.clock with
      | some row => if key = row.key then some row else w.suppressions.get? key
      | none => w.suppressions.get? key := by
  unfold suppress suppression
  by_cases blanks : blank scopeKey || blank reason
  · simp [blanks]
  by_cases negative : ttlSeconds.any (· < 0)
  · simp [blanks, negative]
  simp only [blanks, negative, Bool.false_eq_true, if_false, Bool.false_or, World.timed]
  cases finiteReading w.clock with
  | none => rfl
  | some now =>
    dsimp only [Option.map_some]
    rw [Table.get?_upsert]
    by_cases same : key = (scope, scopeKey)
    · rw [if_pos same, if_pos same]
      cases found : w.suppressions.get? key with
      | none => rfl
      | some old =>
        have name := (Table.get?_key found).trans same
        obtain ⟨isScope, isKey⟩ := Prod.mk.inj name
        simp [isScope, isKey]
    · rw [if_neg same, if_neg same]

/-- What an event leaves of a key: the row that it writes, or the row that was there, unless it was pruned. -/
theorem step_rows (w : World) (e : Event) (key : SuppressionScope × String) : (step w e).2.suppressions.get? key =
    match written w e with
    | some row => if key = row.key then some row else w.suppressions.get? key
    | none =>
      match e, finiteReading w.clock with
      | .prune, some now => (w.suppressions.get? key).filter fun row => !row.expiresAt.any (· ≤ now)
      | _, _ => w.suppressions.get? key := by
  cases e with
  | suppress scope scopeKey reason ttlSeconds =>
    rw [step, suppress_writes, written]
  | suppressCandidate candidate scope reason ttlSeconds =>
    rw [step, suppress_writes, written]
  | apply ttlSeconds decision =>
    rw [step, answered, apply, written]
    cases saturated : decision.shouldSuppress with
    | false => rfl
    | true =>
      cases same : sameActiveOriginSuppression w decision with
      | true => rfl
      | false =>
        have writes := suppress_writes .origin decision.origin decision.reason ttlSeconds w key
        simp only [Bool.not_true, Bool.false_eq_true, if_false, Bool.not_false, Bool.and_self, if_true]
        generalize suppress .origin decision.origin decision.reason ttlSeconds w = answer at writes
        obtain ⟨value, after⟩ := answer
        cases value <;> exact writes
  | prune =>
    have none_ : written w .prune = none := rfl
    rw [step, pruneExpiredSuppressions, World.timed, none_]
    cases finiteReading w.clock with
    | none => rfl
    | some now => exact Table.get?_delete _ _ _
  | clock reading => rfl

/-! ## How long a key is suppressed -/

/-- The time until which a row suppresses its key. -/
def heldUntil (row : SuppressionRow) : WithTop ℚ :=
  match row.expiresAt with
  | some expiry => expiry
  | none => ⊤

/-- A row that nobody reads: `suppression_reason` passes over it at the time of the clock. -/
def Ignored (w : World) (row : SuppressionRow) : Prop := ∃ now, finiteReading w.clock = some now ∧ w.suppression now row.scopeType row.scopeKey = none

deriving instance DecidableEq for SuppressionRow

abbrev Taken := Step World Event (Except SourceError Unit)

/-- After a call that writes, the key is suppressed for the longer of both times. -/
def Strengthens (taken : Taken) : Prop :=
  ∀ row, written taken.before taken.event = some row →
    ∃ after, taken.after.suppressions.get? row.key = some after ∧ heldUntil row ≤ heldUntil after ∧
      ∀ old, taken.before.suppressions.get? row.key = some old → heldUntil old ≤ heldUntil after

/-- A saturation decision that already holds changes nothing. -/
def Steady (taken : Taken) : Prop :=
  ∀ ttlSeconds decision, taken.event = .apply ttlSeconds decision → sameActiveOriginSuppression taken.before decision = true →
    taken.after = taken.before

/-- Pruning removes what nobody reads any more. -/
def PrunesIgnored (taken : Taken) : Prop :=
  taken.event = .prune → ∀ key row, taken.before.suppressions.get? key = some row →
    taken.after.suppressions.get? key = some row ∨ Ignored taken.before row

/-- The calls of the coordinator's own loops; an operator calls `suppress`. -/
def Event.automatic : Event → Bool
  | .suppressCandidate .. => true
  | .apply .. => true
  | _ => false

/-- What is claimed of a history. -/
def NeverWeakens (w : World) (es : List Event) : Prop :=
  ∀ taken ∈ (suppressing w).trace es, (taken.event.automatic = true → Strengthens taken) ∧ Steady taken ∧ PrunesIgnored taken

/-- What holds of a history: the last call on a key decides. -/
structure LastCallWins (w : World) (es : List Event) : Prop where
  /-- A row stays as it was written until its key is written again, or a prune finds it expired. -/
  lasts : ∀ before e after row, es = before ++ e :: after → written ((suppressing w).final before) e = some row →
    (∀ middle e' later other, after = middle ++ e' :: later → written ((suppressing w).final (before ++ e :: middle)) e' = some other →
      other.key ≠ row.key) →
    ((suppressing w).final es).suppressions.get? row.key = some row ∨
      ∃ middle later now, after = middle ++ .prune :: later ∧ finiteReading ((suppressing w).final (before ++ e :: middle)).clock = some now ∧
        row.expiresAt.any (· ≤ now) = true
  /-- A call weakens a suppression exactly when its own ends earlier. -/
  weakens : ∀ taken ∈ (suppressing w).trace es, Strengthens taken ↔
    ∀ row old, written taken.before taken.event = some row → taken.before.suppressions.get? row.key = some old → heldUntil old ≤ heldUntil row
  steady : ∀ taken ∈ (suppressing w).trace es, Steady taken
  prunes : ∀ taken ∈ (suppressing w).trace es, PrunesIgnored taken

theorem taken_rows {w : World} {es : List Event} {taken : Taken} (member : taken ∈ (suppressing w).trace es) :
    taken.after = (step taken.before taken.event).2 := by
  obtain ⟨before, after, -, same⟩ := (suppressing w).mem_trace member
  rw [same]
  rfl

theorem strengthens_iff {taken : Taken} (stepped : taken.after = (step taken.before taken.event).2) : Strengthens taken ↔
    ∀ row old, written taken.before taken.event = some row → taken.before.suppressions.get? row.key = some old → heldUntil old ≤ heldUntil row := by
  have after (row : SuppressionRow) (writes : written taken.before taken.event = some row) :
      taken.after.suppressions.get? row.key = some row := by
    rw [stepped, step_rows, writes]
    exact if_pos rfl
  constructor
  · intro strengthens row old writes found
    obtain ⟨row', stored, -, above⟩ := strengthens row writes
    rw [after row writes] at stored
    exact Option.some.inj stored ▸ above old found
  · intro longer row writes
    exact ⟨row, after row writes, le_rfl, fun old found => longer row old writes found⟩

theorem steady_step {taken : Taken} (stepped : taken.after = (step taken.before taken.event).2) : Steady taken := by
  intro ttlSeconds decision isApply same
  rw [stepped, isApply, step, answered, apply, same]
  cases decision.shouldSuppress <;> rfl

theorem prunes_step {taken : Taken} (stepped : taken.after = (step taken.before taken.event).2) : PrunesIgnored taken := by
  intro isPrune key row found
  have nothing : written taken.before .prune = none := rfl
  rw [stepped, step_rows, isPrune, nothing]
  cases reads : finiteReading taken.before.clock with
  | none => exact .inl found
  | some now =>
    dsimp only
    rw [found]
    cases ends : row.expiresAt.any (· ≤ now) with
    | false =>
      left
      simp [ends]
    | true =>
      right
      refine ⟨now, reads, ?_⟩
      have name := Table.get?_key (t := taken.before.suppressions) found
      have past : row.expiresAt.all (now < ·) = false := by
        cases isExpiry : row.expiresAt with
        | none => simp [isExpiry] at ends
        | some expiry => simpa [isExpiry] using ends
      rw [World.suppression, show (row.scopeType, row.scopeKey) = key from name, found, Option.filter_some, past]
      rfl

theorem row_lasts (w : World) (before : List Event) (e : Event) {row : SuppressionRow}
    (writes : written ((suppressing w).final before) e = some row) (after : List Event)
    (alone : ∀ middle e' later other, after = middle ++ e' :: later →
      written ((suppressing w).final (before ++ e :: middle)) e' = some other → other.key ≠ row.key) :
    ((suppressing w).final (before ++ e :: after)).suppressions.get? row.key = some row ∨
      ∃ middle later now, after = middle ++ .prune :: later ∧
        finiteReading ((suppressing w).final (before ++ e :: middle)).clock = some now ∧ row.expiresAt.any (· ≤ now) = true := by
  induction after using List.reverseRecOn with
  | nil =>
    left
    rw [Machine.final_snoc]
    change (step ((suppressing w).final before) e).2.suppressions.get? row.key = some row
    rw [step_rows, writes]
    exact if_pos rfl
  | append_singleton after e' ih =>
    have earlier := ih fun middle e'' later other split => alone middle e'' (later ++ [e']) other (by rw [split]; simp)
    have split : before ++ e :: (after ++ [e']) = (before ++ e :: after) ++ [e'] := by simp
    rw [split, Machine.final_snoc]
    change (step ((suppressing w).final (before ++ e :: after)) e').2.suppressions.get? row.key = some row ∨ _
    rcases earlier with stored | ⟨middle, later, now, split', reads, ends⟩
    · rw [step_rows]
      cases again : written ((suppressing w).final (before ++ e :: after)) e' with
      | some other =>
        left
        have apart := alone after e' [] other rfl again
        exact (if_neg apart.symm).trans stored
      | none =>
        dsimp only
        cases e' with
        | prune =>
          cases reads : finiteReading ((suppressing w).final (before ++ e :: after)).clock with
          | none => exact .inl stored
          | some now =>
            cases ends : row.expiresAt.any (· ≤ now) with
            | false =>
              left
              dsimp only
              rw [stored, Option.filter_some, ends]
              rfl
            | true => exact .inr ⟨after, [], now, rfl, reads, ends⟩
        | _ => exact .inl stored
    · exact .inr ⟨middle, later ++ [e'], now, by rw [split']; simp, reads, ends⟩

/-- In every history the last call on a key decides how long it is suppressed. -/
theorem last_call_wins (w : World) (es : List Event) : LastCallWins w es where
  lasts := by
    rintro before e after row rfl writes alone
    exact row_lasts w before e writes after alone
  weakens := fun _ member => strengthens_iff (taken_rows member)
  steady := fun _ member => steady_step (taken_rows member)
  prunes := fun _ member => prunes_step (taken_rows member)

/-- A scout's retry backoff of a minute ends what an operator had suppressed for ever. -/
theorem backoff_weakens : ¬NeverWeakens emptyWorld
    [.suppress .source "k" "operator" none, .suppressCandidate ⟨"k", "f", "o"⟩ .source "scout transient failure: TimeoutError" (some 60)] := by
  intro claimed
  let held := (step emptyWorld (.suppress .source "k" "operator" none)).2
  let backoff : Event := .suppressCandidate ⟨"k", "f", "o"⟩ .source "scout transient failure: TimeoutError" (some 60)
  have member : ((suppressing emptyWorld).take held backoff) ∈ (suppressing emptyWorld).trace
      [.suppress .source "k" "operator" none, backoff] := List.mem_cons_of_mem _ List.mem_cons_self
  have longer := (strengthens_iff (taken_rows member)).mp ((claimed _ member).1 rfl)
  have below := longer ⟨.source, "k", "scout transient failure: TimeoutError", 0, some 60⟩ ⟨.source, "k", "operator", 0, none⟩
    (by decide +kernel) (by decide +kernel)
  exact WithTop.coe_ne_top (top_le_iff.mp below)

end Creeper.Suppressions
