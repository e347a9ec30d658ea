import Creeper.SourceCoordinator

/-!
# What a dead coordinator leaves

A source that is neither waiting for the plan nor decided belongs to a commit that is under way. A
commit that is not cut short leaves none of its sources behind, and a new process takes up the
claimed ones. What neither does is to take up a source that a commit left in TRIAGED, or on HOLD
before its reason or its way back.
-/

namespace Creeper.CoordinatorRecovery
open Creeper.Runs Creeper.Tables Creeper.PyNumbers Creeper.PyText Creeper.Transactions Creeper.Interleavings
open Creeper.SourceCoordinator
open Creeper.SourceActivation hiding Event step machine
open Creeper.EvidenceTasks (finiteReading)

/-! ## Where a source stands -/

/-- Suppressed for good, with the reason. -/
def Closed (w : World) (sourceKey : String) : Bool :=
  (w.suppressions.get? (.source, sourceKey)).any (·.expiresAt.isNone)

/-- HOLD says why, or when it ends. -/
def States (w : World) (row : CandidateRow) : Bool :=
  row.stateReason ≠ "" || row.activationRetryAt.isSome || Closed w row.sourceKey

/-- Planning looks at the source, or it is decided or claimed for its activation. -/
def Reached (w : World) (row : CandidateRow) : Bool :=
  match row.state with
  | .discovered | .scoutReady => true
  | .warm | .activating | .active | .rejected | .exhausted => true
  | .hold => States w row
  | .triaged | .scouting => false

/-- Reached, whatever its reason. -/
def firm (row : CandidateRow) : Bool :=
  match row.state with
  | .hold => row.activationRetryAt.isSome
  | .triaged | .scouting => false
  | _ => true

/-- Neither TRIAGED nor SCOUTING. -/
def calm (row : CandidateRow) : Bool := row.state ≠ .triaged && row.state ≠ .scouting

/-- Reached, or left to the recovery of a new process. -/
def waiting (w : World) (row : CandidateRow) : Bool := row.state = .scouting || Reached w row

/-- A condition on the row of a source, if there is one. -/
def At (good : World → CandidateRow → Bool) (w : World) (sourceKey : String) : Prop :=
  ∀ row, w.registry.candidates.get? sourceKey = some row → good w row = true

theorem reached_of_firm {w : World} {row : CandidateRow} (fixed : firm row = true) : Reached w row = true := by
  unfold firm at fixed
  unfold Reached
  cases state : row.state <;> simp_all [States]

theorem calm_of_firm {row : CandidateRow} (fixed : firm row = true) : calm row = true := by
  unfold firm at fixed
  unfold calm
  cases state : row.state <;> simp_all

theorem waiting_of_reached {w : World} {row : CandidateRow} (reached : Reached w row = true) : waiting w row = true := by
  simp [waiting, reached]

theorem reached_of_calm {w : World} {row : CandidateRow} (quiet : calm row = true) (states : States w row = true) :
    Reached w row = true := by
  unfold calm at quiet
  unfold Reached
  cases state : row.state <;> simp_all

theorem At.imp {good good' : World → CandidateRow → Bool} {w : World} {sourceKey : String} (at_ : At good w sourceKey)
    (weaker : ∀ row, good w row = true → good' w row = true) : At good' w sourceKey :=
  fun row found => weaker row (at_ row found)

/-! ## What the others leave standing -/

/-- Whatever holds of a source still does, except of some sources. -/
structure Keeps (free : List String) (w w' : World) : Prop where
  reached : ∀ key, key ∉ free → At Reached w key → At Reached w' key
  fixed : ∀ key, key ∉ free → At (fun _ => firm) w key → At (fun _ => firm) w' key
  quiet : ∀ key, key ∉ free → At (fun _ => calm) w key → At (fun _ => calm) w' key
  waits : ∀ key, key ∉ free → At waiting w key → At waiting w' key
  closed : ∀ key, key ∉ free → Closed w key = true → Closed w' key = true

section
variable {free : List String} {w w' w'' : World}

theorem Keeps.refl (free : List String) (w : World) : Keeps free w w :=
  ⟨fun _ _ h => h, fun _ _ h => h, fun _ _ h => h, fun _ _ h => h, fun _ _ h => h⟩

theorem Keeps.trans (first : Keeps free w w') (second : Keeps free w' w'') : Keeps free w w'' where
  reached key out here := second.reached key out (first.reached key out here)
  fixed key out here := second.fixed key out (first.fixed key out here)
  quiet key out here := second.quiet key out (first.quiet key out here)
  waits key out here := second.waits key out (first.waits key out here)
  closed key out here := second.closed key out (first.closed key out here)

theorem States.mono {row : CandidateRow} (closed : Closed w row.sourceKey = true → Closed w' row.sourceKey = true)
    (states : States w row = true) : States w' row = true := by
  simp only [States, Bool.or_eq_true] at states ⊢
  exact states.imp_right closed

theorem Reached.mono {row : CandidateRow} (closed : Closed w row.sourceKey = true → Closed w' row.sourceKey = true)
    (reached : Reached w row = true) : Reached w' row = true := by
  unfold Reached at reached ⊢
  split at reached
  · rfl
  · rfl
  · rfl
  · rfl
  · rfl
  · rfl
  · rfl
  · exact States.mono closed reached
  · exact reached
  · exact reached

theorem Keeps.of_rows
    (rows : ∀ key row', key ∉ free → w'.registry.candidates.get? key = some row' →
      w.registry.candidates.get? key = some row' ∨ firm row' = true)
    (closed : ∀ key, key ∉ free → Closed w key = true → Closed w' key = true) : Keeps free w w' := by
  refine ⟨?_, ?_, ?_, ?_, closed⟩
  · intro key out here row' found
    rcases rows key row' out found with same | good
    · have name : row'.sourceKey = key := Table.get?_key same
      exact Reached.mono (name ▸ closed key out) (here row' same)
    · exact reached_of_firm good
  · intro key out here row' found
    rcases rows key row' out found with same | good
    · exact here row' same
    · exact good
  · intro key out here row' found
    rcases rows key row' out found with same | good
    · exact here row' same
    · exact calm_of_firm good
  · intro key out here row' found
    rcases rows key row' out found with same | good
    · have name : row'.sourceKey = key := Table.get?_key same
      have before := here row' same
      simp only [waiting, Bool.or_eq_true] at before ⊢
      exact before.imp_right (Reached.mono (name ▸ closed key out))
    · exact waiting_of_reached (reached_of_firm good)

/-- Neither the candidates nor the suppressions change. -/
theorem Keeps.of_same (rows : w'.registry.candidates = w.registry.candidates) (suppressions : w'.suppressions = w.suppressions) :
    Keeps free w w' := by
  refine Keeps.of_rows (fun key row' _ found => .inl (rows ▸ found)) fun key _ here => ?_
  unfold Closed
  rw [suppressions]
  exact here

/-- One row is rewritten, into a firm one or one of those that are left out. -/
theorem Keeps.of_update {sourceKey : String} {set : CandidateRow → CandidateRow} {keeps : ∀ r, (set r).sourceKey = r.sourceKey}
    (rows : w'.registry.candidates = w.registry.candidates.update (fun r => r.sourceKey = sourceKey) set keeps)
    (suppressions : w'.suppressions = w.suppressions) (made : sourceKey ∈ free ∨ ∀ row, firm (set row) = true) :
    Keeps free w w' := by
  refine Keeps.of_rows (fun key row' out found => ?_) fun key _ here => ?_
  · rw [rows, Table.get?_update_key] at found
    by_cases same : key = sourceKey
    · rw [if_pos same] at found
      obtain ⟨row, _, rfl⟩ := Option.map_eq_some_iff.mp found
      rcases made with spared | good
      · exact absurd (same ▸ spared) out
      · exact .inr (good row)
    · rw [if_neg same] at found
      exact .inl found
  · unfold Closed
    rw [suppressions]
    exact here

/-- A row that is not there becomes one that is firm. -/
theorem Keeps.of_insert {row : CandidateRow} (rows : w'.registry.candidates = w.registry.candidates.insert row)
    (suppressions : w'.suppressions = w.suppressions) (good : firm row = true) : Keeps free w w' := by
  refine Keeps.of_rows (fun key row' _ found => ?_) fun key _ here => ?_
  · rw [rows, Table.get?_insert_or, Option.or_eq_some_iff] at found
    rcases found with before | ⟨_, fresh⟩
    · exact .inl before
    · by_cases same : row.sourceKey = key
      · rw [if_pos same] at fresh
        cases fresh
        exact .inr good
      · rw [if_neg same] at fresh
        exact nomatch fresh
  · unfold Closed
    rw [suppressions]
    exact here

end

/-! ## Operations of the registry -/

/-- The row of one source is rewritten, into a good one, or nothing is. -/
def Rewrites (sourceKey : String) (good : CandidateRow → Prop) (s s' : Registry) : Prop :=
  s'.candidates = s.candidates ∨ ∃ set keeps,
    s'.candidates = s.candidates.update (fun r => r.sourceKey = sourceKey) set keeps ∧ ∀ row, good (set row)

section
variable {s : Registry} {sourceKey : String}

theorem rewrites_rewrite {good : CandidateRow → Prop} {row : CandidateRow} (found : s.candidates.get? sourceKey = some row)
    {around : Surroundings} (set : CandidateRow → CandidateRow) (keeps : ∀ r, (set r).sourceKey = r.sourceKey)
    (made : ∀ row, good (set row)) : Rewrites sourceKey good s ((⟨s.candidates, around⟩ : Registry).rewrite row set keeps).2 := by
  have name : row.sourceKey = sourceKey := Table.get?_key found
  subst name
  exact .inr ⟨set, keeps, rfl, made⟩

/-- A `transition` that returns leaves its source in the target state. -/
theorem transition_ok {clock : PyFloat} {target : SourceState} {row : CandidateRow}
    (returns : (transition s clock sourceKey target).1 = .ok row) :
    ∃ set keeps, (transition s clock sourceKey target).2.candidates =
      s.candidates.update (fun r => r.sourceKey = sourceKey) set keeps ∧
        ∀ r, (set r).state = target ∧ (set r).stateReason = r.stateReason := by
  cases reads : finiteReading clock with
  | none => simp [transition, reads] at returns
  | some now =>
    cases found : s.candidates.get? sourceKey with
    | none => simp [transition, reads, found] at returns
    | some old =>
      have name : old.sourceKey = sourceKey := Table.get?_key found
      simp only [transition, reads, found] at returns ⊢
      split at returns
      · cases returns
      · split at returns
        · cases returns
        · rename_i allowed measured
          rw [if_neg allowed, if_neg measured, ← name]
          exact ⟨fun r => { r with state := target, updatedAt := now }, fun _ => rfl, rfl, fun _ => ⟨rfl, rfl⟩⟩

theorem rewrites_transition (sourceKey : String) (clock : PyFloat) (target : SourceState) :
    Rewrites sourceKey (·.state = target) s (transition s clock sourceKey target).2 := by
  unfold transition
  split
  · exact .inl rfl
  · split
    · exact .inl rfl
    · rename_i row found
      split
      · exact .inl rfl
      · split
        · exact .inl rfl
        · exact rewrites_rewrite found _ _ fun _ => rfl

theorem rewrites_begin (sourceKey : String) (clock : PyFloat) :
    Rewrites sourceKey (firm · = true) s (beginActivation s clock sourceKey).2 := by
  unfold beginActivation
  split
  · exact .inl rfl
  · split
    · exact .inl rfl
    · rename_i row found
      split
      · exact .inl rfl
      · split
        · exact .inl rfl
        · split
          · exact .inl rfl
          · split
            · exact .inl rfl
            · exact rewrites_rewrite found _ _ fun _ => rfl

theorem rewrites_failure (sourceKey : String) (clock : PyFloat) (reason : String) (permanent : Bool) (retrySeconds : PyFloat) :
    Rewrites sourceKey (firm · = true) s (recordActivationFailure s clock sourceKey reason permanent retrySeconds).2 := by
  unfold recordActivationFailure
  split
  · exact .inl rfl
  · split
    · exact .inl rfl
    · rename_i given
      split
      · exact .inl rfl
      · split
        · exact .inl rfl
        · rename_i row found
          split
          · exact .inl rfl
          · refine rewrites_rewrite found _ _ fun r => ?_
            cases permanent with
            | true => rfl
            | false =>
              cases seconds : Creeper.EvidenceTasks.positive retrySeconds with
              | none => simp [seconds] at given
              | some q => rfl

theorem rewrites_bind (sourceKey : String) (clock : PyFloat) (format : SourceFormatObservation) (layout : SourceRecordLayout)
    (schema : Option SourceRecordSchema) (expectedStateReason : String) :
    Rewrites sourceKey (firm · = true) s
      (applyValidatedAdapterBinding s clock sourceKey format layout schema expectedStateReason).2 := by
  unfold applyValidatedAdapterBinding
  split
  · exact .inl rfl
  · split
    · exact .inl rfl
    · rename_i row found
      split
      · exact .inl rfl
      · split
        · exact .inl rfl
        · split
          · exact .inl rfl
          · split
            · exact .inl rfl
            · exact rewrites_rewrite found _ _ fun _ => rfl

theorem setStateReason_ok {clock : PyFloat} {reason : String} (returns : (setStateReason s clock sourceKey reason).1 = .ok ()) :
    ∃ set keeps, (setStateReason s clock sourceKey reason).2.candidates =
      s.candidates.update (fun r => r.sourceKey = sourceKey) set keeps ∧
        ∀ r, (set r).state = r.state ∧ (set r).activationRetryAt = r.activationRetryAt ∧ (set r).stateReason = strip reason := by
  by_cases long : 8 * 1024 < (strip reason).length
  · simp [setStateReason, long] at returns
  · cases reads : finiteReading clock with
    | none => simp [setStateReason, long, reads] at returns
    | some now =>
      cases found : s.candidates.get? sourceKey with
      | none => simp [setStateReason, long, reads, found] at returns
      | some row =>
        have name : row.sourceKey = sourceKey := Table.get?_key found
        simp only [setStateReason, if_neg long, reads, found]
        rw [← name]
        exact ⟨fun r => { r with stateReason := strip reason, updatedAt := now }, fun _ => rfl, rfl, fun _ => ⟨rfl, rfl, rfl⟩⟩

end

/-! ## Calls that disturb nothing -/

/-- Nobody else takes the condition back. -/
def Stable (P : World → Prop) : Prop := ∀ w w', P w → Keeps [] w w' → P w'

/-- A transaction that keeps what holds of every source. -/
def Mild {α : Type} (f : World → Answer α) : Prop := ∀ w, Keeps [] w (f w).2

/-- A call that keeps every stable condition. -/
def Harmless {α : Type} (x : Call World SourceError α) : Prop :=
  ∀ P, Stable P → Returns (Keeps []) (fun _ => P) P x

theorem Stable.and {P Q : World → Prop} (first : Stable P) (second : Stable Q) : Stable fun w => P w ∧ Q w :=
  fun w w' here kept => ⟨first w w' here.1 kept, second w w' here.2 kept⟩

theorem stable_firm (key : String) : Stable fun w => At (fun _ => firm) w key :=
  fun _ _ here kept => kept.fixed key List.not_mem_nil here

theorem stable_calm (key : String) : Stable fun w => At (fun _ => calm) w key :=
  fun _ _ here kept => kept.quiet key List.not_mem_nil here

theorem stable_closed (key : String) : Stable fun w => Closed w key = true :=
  fun _ _ here kept => kept.closed key List.not_mem_nil here

section
variable {α β : Type}

/-- A transaction of the coordinator, from what it does when no error waits. -/
theorem returns_call {f : World → Answer α} {P : World → Prop} {Q : α → World → Prop} (stable : ∀ a, Stable (Q a))
    (does : ∀ w a, P w → (f w).1 = .ok a → Q a (f w).2) : Returns (Keeps []) Q P (call f) := by
  refine returns_atomic fun w a here returned later after => ?_
  unfold World.answer at returned after
  split at returned
  · cases returned
  · rename_i quiet
    simp only [quiet] at after
    exact stable a _ _ (does w a here returned) after

theorem mild_answer {f : World → Answer α} (mild : Mild f) : Mild (World.answer f) := by
  intro w
  unfold World.answer
  split
  · exact Keeps.of_same rfl rfl
  · exact mild w

theorem harmless_pure (a : α) : Harmless (pure a) := fun _ _ => returns_pure fun _ here => here

theorem harmless_bind {x : Call World SourceError α} {f : α → Call World SourceError β} (first : Harmless x)
    (then_ : ∀ a, Harmless (f a)) : Harmless (x >>= f) :=
  fun P stable => returns_bind (first P stable) fun a => then_ a P stable

theorem harmless_atomic {f : World → Answer α} (mild : Mild f) : Harmless (Call.atomic f : Call World SourceError α) :=
  fun _ stable => returns_atomic fun w _ here _ _ after => stable _ _ (stable _ _ here (mild w)) after

theorem harmless_call {f : World → Answer α} (mild : Mild f) : Harmless (call f) := harmless_atomic (mild_answer mild)

theorem harmless_attempt {f : World → Answer α} (catches : SourceError → Option String) (mild : Mild f) :
    Harmless (attempt catches f) := harmless_atomic fun w => mild_answer mild w

theorem harmless_ite {b : Prop} [Decidable b] {x y : Call World SourceError α} (first : Harmless x) (second : Harmless y) :
    Harmless (if b then x else y) := by
  by_cases here : b
  · rw [if_pos here]
    exact first
  · rw [if_neg here]
    exact second

theorem harmless_forAll {body : α → Call World SourceError Unit} (each : ∀ a, Harmless (body a)) (l : List α) :
    Harmless (forAll body l) := by
  induction l with
  | nil => exact harmless_pure ()
  | cons first rest ih => exact harmless_bind (each first) fun _ => ih

theorem mild_read (f : World → Except SourceError α) : Mild fun w => (f w, w) := fun w => Keeps.refl [] w

theorem keeps_timed {free : List String} {w : World} {write : ℚ → α × World} (kept : ∀ now, Keeps free w (write now).2) :
    Keeps free w (w.timed write).2 := by
  unfold World.timed
  split
  · exact Keeps.refl free w
  · exact kept _

theorem keeps_rewrites {sourceKey : String} {s' : Registry} {w : World} (rewrites : Rewrites sourceKey (firm · = true) w.registry s') :
    Keeps [] w { w with registry := s' } := by
  rcases rewrites with same | ⟨set, keeps, rows, good⟩
  · exact Keeps.of_same same rfl
  · exact Keeps.of_update rows rfl (.inr good)

theorem mild_onRegistry (sourceKey : String) {op : Registry → PyFloat → Reply α}
    (rewrites : ∀ s clock, Rewrites sourceKey (firm · = true) s (op s clock).2) : Mild (onRegistry op) :=
  fun w => keeps_rewrites (rewrites w.registry w.clock)

/-- A state in which a row is firm whatever else it says. -/
def settledState (state : SourceState) : Bool := state ≠ .hold && state ≠ .triaged && state ≠ .scouting

theorem firm_of_state {row : CandidateRow} (settled : settledState row.state = true) : firm row = true := by
  unfold firm
  cases state : row.state <;> simp_all [settledState]

theorem mild_transition (sourceKey : String) {target : SourceState} (settled : settledState target = true) :
    Mild (onRegistry fun registry clock => transition registry clock sourceKey target) := by
  refine mild_onRegistry sourceKey fun s clock => ?_
  rcases rewrites_transition sourceKey clock target with same | ⟨set, keeps, rows, good⟩
  · exact .inl same
  · refine .inr ⟨set, keeps, rows, fun row => firm_of_state ?_⟩
    rw [good row]
    exact settled

theorem mild_register (proposal : Proposal) : Mild (register proposal) := by
  intro w
  unfold register
  split
  · exact Keeps.refl [] w
  · split
    · exact Keeps.refl [] w
    · rename_i row _
      unfold registerProposal
      split
      · exact Keeps.refl [] w
      · refine Keeps.of_insert rfl rfl (firm_of_state ?_)
        simp only [proposal.enters]
        rfl

theorem mild_suppress {scope : SuppressionScope} (other : scope ≠ .source) (scopeKey reason : String) (ttlSeconds : Option ℚ) :
    Mild (suppress scope scopeKey reason ttlSeconds) := by
  intro w
  unfold suppress
  split
  · exact Keeps.refl [] w
  · split
    · exact Keeps.refl [] w
    · refine keeps_timed fun now => Keeps.of_rows (fun _ _ _ found => .inl found) fun key _ here => ?_
      unfold Closed at here ⊢
      rw [Table.get?_upsert, if_neg fun same => other (congrArg Prod.fst same).symm]
      exact here

theorem mild_prune : Mild pruneExpiredSuppressions := by
  refine fun w => keeps_timed fun now => Keeps.of_rows (fun _ _ _ found => .inl found) fun key _ here => ?_
  unfold Closed at here ⊢
  rw [Table.get?_delete]
  cases found : w.suppressions.get? (.source, key) with
  | none => simp [found] at here
  | some row =>
    rw [found, Option.any_some, Option.isNone_iff_eq_none] at here
    simp [Option.filter, here]

theorem mild_link (cfg : Settings) (parentKey childKey relation : String) : Mild (linkSources cfg parentKey childKey relation) := by
  intro w
  unfold linkSources
  split
  · exact Keeps.refl [] w
  · split
    · exact Keeps.refl [] w
    · exact Keeps.of_same rfl rfl

theorem mild_triageObservation (sourceKey : String) : Mild (recordTriageObservation sourceKey) := by
  intro w
  unfold recordTriageObservation
  split
  · exact Keeps.refl [] w
  · exact keeps_timed fun _ => Keeps.refl [] w

theorem mild_observation {Observation : Type} (stored : Surroundings → Observations Observation)
    (put : Observations Observation → Surroundings → Surroundings) (judge : Observation → Observation → Verdict)
    (message sourceKey : String) (observation : Observation) :
    Mild (recordObservation stored put judge message sourceKey observation) := by
  intro w
  unfold recordObservation
  split
  · exact Keeps.refl [] w
  · split
    · exact Keeps.refl [] w
    · exact Keeps.refl [] w
    · exact keeps_timed fun _ => Keeps.of_same rfl rfl

theorem mild_measurement (authority : Option (String × String)) (sourceKey : String) :
    Mild (recordScoutMeasurement authority sourceKey) := by
  intro w
  unfold recordScoutMeasurement
  dsimp only
  split
  · exact Keeps.refl [] w
  · split
    · exact Keeps.refl [] w
    · split
      · exact Keeps.refl [] w
      · exact keeps_timed fun _ => Keeps.of_same rfl rfl

theorem mild_reason (cfg : Settings) (sourceKey : String) : Mild (suppressionReason cfg sourceKey) :=
  fun w => keeps_timed fun _ => Keeps.refl [] w

theorem mild_plan (cfg : Settings) : Mild (plan cfg) := fun w => keeps_timed fun _ => Keeps.refl [] w

theorem harmless_getCandidate (sourceKey : String) : Harmless (getCandidate sourceKey) := harmless_call (mild_read _)

theorem harmless_moveTo (sourceKey : String) {target : SourceState} (settled : settledState target = true) :
    Harmless (moveTo sourceKey target) := harmless_call (mild_transition sourceKey settled)

end

/-! ## Sources in hand -/

/-- Every source is reached, but for those of a list, which are claimed or reached, and those in hand. -/
structure Within (hand claimed : List String) (w : World) : Prop where
  waits : ∀ key, key ∉ hand → At waiting w key
  reached : ∀ key, key ∉ hand → key ∉ claimed → At Reached w key

section
variable {w w' : World} {key : String} {hand claimed claimed' : List String}

theorem stable_within (hand claimed : List String) : Stable (Within hand claimed) := fun _ _ within kept =>
  ⟨fun key out => kept.waits key List.not_mem_nil (within.waits key out),
    fun key out free => kept.reached key List.not_mem_nil (within.reached key out free)⟩

/-- What is done to the sources in hand does not show. -/
theorem Within.kept (within : Within hand claimed w) (kept : Keeps hand w w') : Within hand claimed w' :=
  ⟨fun key out => kept.waits key out (within.waits key out), fun key out free => kept.reached key out (within.reached key out free)⟩

theorem Within.mono (within : Within hand claimed w) (more : ∀ key ∈ claimed, key ∈ claimed') : Within hand claimed' w :=
  ⟨within.waits, fun key out free => within.reached key out fun member => free (more key member)⟩

theorem Within.take (within : Within [] (key :: claimed) w) : Within [key] claimed w where
  waits other _ := within.waits other List.not_mem_nil
  reached other out free := within.reached other List.not_mem_nil fun member => by
    rcases List.mem_cons.mp member with same | later
    · exact out (List.mem_singleton.mpr same)
    · exact free later

/-- The source in hand is reached again. -/
theorem Within.leave (within : Within [key] claimed w) (reached : At Reached w key) : Within [] claimed w := by
  have here : ∀ other, other ∉ [key] ∨ other = key := fun other => by
    rw [List.mem_singleton]
    exact (em (other = key)).symm
  refine ⟨fun other _ => ?_, fun other _ free => ?_⟩
  · rcases here other with out | rfl
    · exact within.waits other out
    · exact reached.imp fun _ => waiting_of_reached
  · rcases here other with out | rfl
    · exact within.reached other out free
    · exact reached

theorem Within.claim (within : Within [key] claimed w) (waits : At waiting w key) : Within [] (key :: claimed) w := by
  have here : ∀ other, other ∉ [key] ∨ other = key := fun other => by
    rw [List.mem_singleton]
    exact (em (other = key)).symm
  refine ⟨fun other _ => ?_, fun other _ free => ?_⟩
  · rcases here other with out | rfl
    · exact within.waits other out
    · exact waits
  · rcases here other with out | rfl
    · exact within.reached other out fun member => free (List.mem_cons_of_mem _ member)
    · exact absurd List.mem_cons_self free

end

/-! ## Calls about the source in hand -/

section
variable {P : World → Prop} {Q : World → Prop} {key : String} {claimed : List String}

/-- A row of a table in which one row was rewritten. -/
theorem found_update {w w' : World} {set : CandidateRow → CandidateRow} {keeps : ∀ r, (set r).sourceKey = r.sourceKey}
    (rows : w'.registry.candidates = w.registry.candidates.update (fun r => r.sourceKey = key) set keeps) {row' : CandidateRow}
    (found : w'.registry.candidates.get? key = some row') : ∃ row, w.registry.candidates.get? key = some row ∧ row' = set row := by
  rw [rows, Table.get?_update_key, if_pos rfl] at found
  obtain ⟨row, before, same⟩ := Option.map_eq_some_iff.mp found
  exact ⟨row, before, same.symm⟩

/-- `registry.transition` of the source in hand. -/
theorem returns_moveTo (target : SourceState) (stable : Stable Q)
    (lands : ∀ w w', P w → Keeps [key] w w' → w'.suppressions = w.suppressions →
      (∀ row, w'.registry.candidates.get? key = some row → row.state = target) → Q w') :
    Returns (Keeps []) (fun _ => Q) P (moveTo key target) := by
  refine returns_call (fun _ => stable) fun w row here returned => ?_
  obtain ⟨set, keeps, rows, made⟩ := transition_ok returned
  refine lands w _ here (Keeps.of_update rows rfl (.inl (List.mem_singleton_self _))) rfl fun row' found => ?_
  obtain ⟨old, _, rfl⟩ := found_update (w := w) rows found
  exact (made old).1

theorem returns_suppress {ttlSeconds : Option ℚ} {reason : String} (stable : Stable Q)
    (lands : ∀ w w', P w → Keeps [key] w w' → w'.registry = w.registry → (ttlSeconds = none → Closed w' key = true) → Q w') :
    Returns (Keeps []) (fun _ => Q) P (suppressCandidate key reason ttlSeconds) := by
  refine returns_call (fun _ => stable) fun w _ here returned => ?_
  unfold suppress at returned ⊢
  split at returned
  · cases returned
  · rename_i named
    split at returned
    · cases returned
    · rename_i positive
      simp only [named, positive, Bool.false_eq_true, if_false]
      unfold World.timed at returned ⊢
      split at returned
      · cases returned
      · refine lands w _ here (Keeps.of_rows (fun _ _ _ found => .inl found) fun other out closed => ?_) rfl fun forever => ?_
        · unfold Closed at closed ⊢
          rw [Table.get?_upsert, if_neg fun same => out (List.mem_singleton.mpr (congrArg Prod.snd same))]
          exact closed
        · unfold Closed
          rw [Table.get?_upsert, if_pos rfl, forever]
          cases w.suppressions.get? (.source, key) with
          | none => simp
          | some old => simp

theorem returns_setReason {reason : String} (stable : Stable Q)
    (lands : ∀ w w', P w → Keeps [key] w w' → (∀ row', w'.registry.candidates.get? key = some row' →
      ∃ row, w.registry.candidates.get? key = some row ∧ row'.state = row.state ∧
        row'.activationRetryAt = row.activationRetryAt ∧ row'.stateReason = strip reason) → Q w') :
    Returns (Keeps []) (fun _ => Q) P (setReason key reason) := by
  refine returns_call (fun _ => stable) fun w _ here returned => ?_
  simp only [onRegistry] at returned ⊢
  obtain ⟨set, keeps, rows, made⟩ := setStateReason_ok returned
  generalize setStateReason w.registry w.clock key reason = reply at rows ⊢
  refine lands w _ here (Keeps.of_update rows rfl (.inl (List.mem_singleton_self _))) fun row' found => ?_
  obtain ⟨row, before, rfl⟩ := found_update (w := w) rows found
  exact ⟨row, before, made row⟩

/-- The source in hand moves to a state in which its row is firm. -/
theorem returns_settled {target : SourceState} (settled : settledState target = true) :
    Returns (Keeps []) (fun _ w => Within [key] claimed w ∧ At (fun _ => firm) w key) (Within [key] claimed) (moveTo key target) :=
  returns_moveTo target ((stable_within _ _).and (stable_firm key)) fun _ _ within kept _ lands =>
    ⟨within.kept kept, fun row found => firm_of_state (by rw [lands row found]; exact settled)⟩

theorem returns_moved (target : SourceState) :
    Returns (Keeps []) (fun _ => Within [key] claimed) (Within [key] claimed) (moveTo key target) :=
  returns_moveTo target (stable_within _ _) fun _ _ within kept _ _ => within.kept kept

/-- The source in hand goes on HOLD. -/
theorem returns_held :
    Returns (Keeps []) (fun _ w => Within [key] claimed w ∧ At (fun _ => calm) w key) (Within [key] claimed) (moveTo key .hold) :=
  returns_moveTo .hold ((stable_within _ _).and (stable_calm key)) fun _ _ within kept _ lands =>
    ⟨within.kept kept, fun row found => by simp [calm, lands row found]⟩

theorem returns_suppressed (reason : String) (ttlSeconds : Option ℚ) :
    Returns (Keeps []) (fun _ => Within [key] claimed) (Within [key] claimed) (suppressCandidate key reason ttlSeconds) :=
  returns_suppress (stable_within _ _) fun _ _ within kept _ _ => within.kept kept

/-- A state and a reason that says something, or a state that needs none. -/
theorem returns_settle {state : SourceState} {reason : String}
    (stated : settledState state = true ∨ state = .hold ∧ strip reason ≠ "") :
    Returns (Keeps []) (fun _ w => Within [] claimed w) (Within [] (key :: claimed)) (settle key state reason) := by
  rcases stated with settled | ⟨rfl, given⟩
  · refine returns_bind ((returns_settled settled).narrow fun w => Within.take) fun _ => ?_
    refine returns_setReason (stable_within _ _) fun w w' here kept rows => ?_
    refine (here.1.kept kept).leave fun row' found => ?_
    obtain ⟨row, before, state, retryAt, _⟩ := rows row' found
    refine reached_of_firm ?_
    have was := here.2 row before
    unfold firm at was ⊢
    rw [state, retryAt]
    exact was
  · refine returns_bind (returns_held.narrow fun w => Within.take) fun _ => ?_
    refine returns_setReason (stable_within _ _) fun w w' here kept rows => ?_
    refine (here.1.kept kept).leave fun row' found => ?_
    obtain ⟨row, before, state, _, reason⟩ := rows row' found
    refine reached_of_calm ?_ ?_
    · have was := here.2 row before
      unfold calm at was ⊢
      rw [state]
      exact was
    · simp [States, reason, given]

/-- `_retry_failed_scout` and the recovery put their source back. -/
theorem returns_retryScout (cfg : Settings) (reason : String) :
    Returns (Keeps []) (fun _ => Within [] claimed) (Within [] (key :: claimed)) (retryScout cfg key reason) := by
  refine returns_bind ((returns_moved .hold).narrow fun w => Within.take) fun _ => ?_
  refine returns_bind (returns_suppressed reason _) fun _ => ?_
  have ready : Returns (Keeps []) (fun _ w => Within [key] claimed w ∧ At (fun _ => firm) w key) (Within [key] claimed)
      (moveTo key .scoutReady) := returns_settled rfl
  exact returns_bind ready fun _ => returns_pure fun w here => here.1.leave (here.2.imp fun _ => reached_of_firm)

theorem returns_forAll {body : String → Call World SourceError Unit}
    (each : ∀ key claimed, Returns (Keeps []) (fun _ => Within [] claimed) (Within [] (key :: claimed)) (body key)) (keys : List String) :
    Returns (Keeps []) (fun _ => Within [] []) (Within [] keys) (forAll body keys) := by
  induction keys with
  | nil => exact returns_pure fun _ here => here
  | cons first rest ih => exact returns_bind (each first rest) fun _ => ih

/-- A source of `_commit_triage` that is not put on HOLD. -/
theorem returns_commitTriage (cfg : Settings) {outcome : Outcome TriageResult}
    (decided : ∀ result, outcome = .value result → result.disposition ≠ .hold) :
    Returns (Keeps []) (fun _ => Within [] claimed) (Within [] claimed) (commitTriage cfg key outcome) := by
  have read : Returns (Keeps []) (fun current w => Within [] claimed w ∧
      (current.any (·.state = .discovered) = true → At (fun _ => firm) w key)) (Within [] claimed) (getCandidate key) := by
    refine returns_call (fun _ => (stable_within _ _).and fun w w' here kept fresh => stable_firm key w w' (here fresh) kept)
      fun w current within returned => ⟨within, fun fresh row found => ?_⟩
    cases returned
    rw [found, Option.any_some, decide_eq_true_eq] at fresh
    exact firm_of_state (by rw [fresh]; rfl)
  refine returns_bind read fun current => ?_
  by_cases fresh : current.any (·.state = .discovered) = true
  · rw [if_pos fresh]
    cases outcome with
    | error err =>
      refine returns_suppress (stable_within _ _) fun w w' here kept same _ => ?_
      have taken : Within [key] claimed w := (here.1.mono fun _ => List.mem_cons_of_mem key).take
      refine (taken.kept kept).leave fun row found => reached_of_firm ?_
      rw [same] at found
      exact here.2 fresh row found
    | value result =>
      have observed := harmless_call (mild_triageObservation key) (Within [] claimed) (stable_within _ _)
      refine returns_bind (observed.narrow fun w here => here.1) fun _ => ?_
      refine returns_bind ((returns_moved .triaged).narrow fun w here => (here.mono fun _ => List.mem_cons_of_mem key).take) fun _ => ?_
      have settled : settledState result.disposition.target = true := by
        have notHeld := decided result rfl
        cases disposition : result.disposition
        · rfl
        · exact absurd disposition notHeld
        · rfl
      exact returns_bind (returns_settled settled) fun _ => returns_pure fun w here =>
        here.1.leave (here.2.imp fun _ => reached_of_firm)
  · rw [if_neg fresh]
    exact returns_pure fun w here => here.1

end

/-! ## Scouting -/

section
variable (cfg : Settings)

theorem harmless_register (proposal : Proposal) :
    Harmless (do
      let _inserted ← call (register proposal)
      pure ()) :=
  harmless_bind (harmless_call (mild_register proposal)) fun _ => harmless_pure ()

theorem harmless_attach (parent relation child : String) (inserted : Bool) : Harmless (attach cfg parent relation child inserted) := by
  refine harmless_bind (harmless_attempt caught (mild_link cfg parent child relation)) fun _ => harmless_ite ?_ (harmless_pure ())
  exact harmless_bind (harmless_moveTo child rfl) fun _ => harmless_pure ()

theorem harmless_commitChild (checksProvenance : Bool) (parent relation : String) (proposed : Proposal) :
    Harmless (commitChild cfg checksProvenance parent relation proposed) := by
  refine harmless_bind (harmless_getCandidate _) fun _ => harmless_bind (harmless_call (mild_reason cfg _)) fun _ => ?_
  refine harmless_ite (harmless_pure ()) (harmless_ite (harmless_attach cfg parent relation _ false) ?_)
  refine harmless_ite (harmless_pure ()) ?_
  exact harmless_bind (harmless_call (mild_register proposed)) fun inserted => harmless_attach cfg parent relation _ inserted

theorem harmless_scoutChildren (parent relation : String) (seen : List String) (proposals : List Proposal) :
    Harmless (commitScoutChildren cfg parent relation seen proposals) := by
  induction proposals generalizing seen with
  | nil => exact harmless_pure ()
  | cons proposed rest ih =>
    exact harmless_ite (ih seen) (harmless_bind (harmless_commitChild cfg true parent relation proposed) fun _ => ih _)

theorem harmless_observe {Observation : Type} (what : String) {record : Observation → World → Answer Bool}
    (mild : ∀ observation, Mild (record observation)) (observation : Option Observation) :
    Harmless (observe what record observation) := by
  cases observation with
  | none => exact harmless_pure none
  | some observation => exact harmless_bind (harmless_attempt caught (mild observation)) fun _ => harmless_pure _

theorem harmless_observeAll (sourceKey : String) (result : ScoutResult) : Harmless (observeAll sourceKey result) := by
  refine harmless_bind (harmless_observe _ (fun _ => mild_observation _ _ _ _ _ _) _) fun _ => harmless_ite (harmless_pure _) ?_
  refine harmless_bind (harmless_observe _ (fun _ => mild_observation _ _ _ _ _ _) _) fun _ => harmless_ite (harmless_pure _) ?_
  exact harmless_observe _ (fun _ => mild_observation _ _ _ _ _ _) _

end

section
variable {key : String} {claimed : List String}

theorem returns_decideScout (cfg : Settings) (siblings : List Proposal) {result : ScoutResult} (measurementCurrent : Bool)
    (stated : result.disposition = .hold → strip result.reason ≠ "") :
    Returns (Keeps []) (fun _ => Within [] claimed) (Within [] (key :: claimed))
      (decideScout cfg key siblings result measurementCurrent) := by
  unfold decideScout
  cases disposition : result.disposition with
  | warm =>
    by_cases current : measurementCurrent = true
    · rw [if_pos current]
      refine returns_bind (returns_settle (.inl rfl)) fun _ => ?_
      exact harmless_forAll (fun proposed => harmless_commitChild cfg false key "year_sibling_of" proposed) siblings _ (stable_within _ _)
    · rw [if_neg current]
      exact returns_settle (.inr ⟨rfl, by decide⟩)
  | hold => exact returns_settle (.inr ⟨rfl, stated disposition⟩)
  | reject => exact returns_settle (.inl rfl)

/-- A claimed source of `_commit_scouts`, put on HOLD with a reason if at all, is claimed no more. -/
theorem returns_commitScout (cfg : Settings) (siblings : List Proposal) {outcome : Outcome ScoutResult}
    (stated : ∀ result, outcome = .value result → result.disposition = .hold → strip result.reason ≠ "") :
    Returns (Keeps []) (fun _ => Within [] claimed) (Within [] (key :: claimed)) (commitScout cfg key siblings outcome) := by
  have read : Returns (Keeps []) (fun current w => Within [] (key :: claimed) w ∧
      (current.any (·.state = .scouting) = false → At Reached w key)) (Within [] (key :: claimed)) (getCandidate key) := by
    refine returns_call (fun _ => (stable_within _ _).and fun w w' here kept gone => kept.reached key List.not_mem_nil (here gone))
      fun w current within returned => ⟨within, fun gone row found => ?_⟩
    cases returned
    rw [found, Option.any_some, decide_eq_false_iff_not] at gone
    have waits := within.waits key List.not_mem_nil row found
    simpa [waiting, gone] using waits
  refine returns_bind read fun current => ?_
  cases scouting : current.any (·.state = .scouting) with
  | false =>
    rw [if_neg (by simp)]
    exact returns_pure fun w here => here.1.take.leave (here.2 rfl)
  | true =>
    rw [if_pos rfl]
    cases outcome with
    | error err => exact (returns_retryScout cfg _).narrow fun w here => here.1
    | value result =>
      have observed := harmless_observeAll key result (Within [] (key :: claimed)) (stable_within _ _)
      refine returns_bind (observed.narrow fun w here => here.1) fun refused => ?_
      cases refused with
      | some reason =>
        have closes : Returns (Keeps []) (fun _ w => Within [key] claimed w ∧ Closed w key = true) (Within [] (key :: claimed))
            (suppressCandidate key reason none) :=
          returns_suppress ((stable_within _ _).and (stable_closed key)) fun w w' here kept _ closed =>
            ⟨here.take.kept kept, closed rfl⟩
        have held : Returns (Keeps []) (fun _ => Within [] claimed) (fun w => Within [key] claimed w ∧ Closed w key = true)
            (moveTo key .hold) :=
          returns_moveTo .hold (stable_within _ _) fun w w' here kept same lands =>
            (here.1.kept kept).leave fun row found => by
              have name : row.sourceKey = key := Table.get?_key found
              have closed : Closed w' row.sourceKey = true := by
                rw [name, Closed, same]
                exact here.2
              simp [Reached, lands row found, States, closed]
        exact returns_bind closes fun _ => returns_bind held fun _ => returns_pure fun _ here => here
      | none =>
        have measured : Returns (Keeps []) (fun _ => Within [] (key :: claimed)) (Within [] (key :: claimed))
            (recordMeasurement cfg key result) :=
          harmless_ite (harmless_call (mild_measurement cfg.scoutAuthority key)) (harmless_pure true) _ (stable_within _ _)
        refine returns_bind measured fun measurementCurrent => ?_
        refine returns_bind (harmless_scoutChildren cfg key result.edgeRelation [] result.discovered _ (stable_within _ _)) fun _ => ?_
        exact returns_decideScout cfg siblings measurementCurrent (stated result rfl)

/-- `_claim_scouts` takes what it returns in claim. -/
theorem returns_claimScouts (cfg : Settings) (keys claimed : List String) :
    Returns (Keeps []) (fun more w => Within [] (more ++ claimed) w) (Within [] claimed) (claimScouts cfg keys) := by
  induction keys generalizing claimed with
  | nil => exact returns_pure fun _ here => here
  | cons key rest ih =>
    refine returns_bind (harmless_getCandidate key _ (stable_within _ _)) fun current => ?_
    by_cases ready : current.any (·.state = .scoutReady) = true
    · rw [if_pos ready]
      refine returns_bind (harmless_call (mild_reason cfg key) _ (stable_within _ _)) fun reason => ?_
      by_cases suppressed : reason.isSome = true
      · rw [if_pos suppressed]
        exact ih claimed
      · rw [if_neg suppressed]
        have claims : Returns (Keeps []) (fun _ => Within [] (key :: claimed)) (Within [] claimed) (moveTo key .scouting) :=
          returns_moveTo .scouting (stable_within _ _) fun w w' within kept _ lands => by
            have taken : Within [key] claimed w := (within.mono fun _ => List.mem_cons_of_mem key).take
            exact (taken.kept kept).claim fun row found => by simp [waiting, lands row found]
        refine returns_bind claims fun _ => returns_bind (ih (key :: claimed)) fun more => ?_
        refine returns_pure fun w here => here.mono fun other member => ?_
        simp only [List.mem_append, List.mem_cons] at member ⊢
        tauto
    · rw [if_neg ready]
      exact ih claimed

end

/-! ## Stages -/

section
variable (cfg : Settings)

/-- Every source is reached, or claimed by a process that is gone. -/
def Stranded (w : World) : Prop := ∀ key, At waiting w key

theorem stable_stranded : Stable Stranded := fun _ _ here kept key => kept.waits key List.not_mem_nil (here key)

theorem Within.stranded {claimed : List String} {w : World} (within : Within [] claimed w) : Stranded w :=
  fun key => within.waits key List.not_mem_nil

/-- Only the sources that are SCOUTING are not reached. -/
theorem Stranded.within {w : World} (stranded : Stranded w) :
    Within [] ((w.registry.candidates.rows.filter (·.state = .scouting)).map (·.sourceKey)) w := by
  refine ⟨fun key _ => stranded key, fun key _ out row found => ?_⟩
  have waits := stranded key row found
  by_cases scouting : row.state = .scouting
  · refine absurd (List.mem_map.mpr ⟨row, List.mem_filter.mpr ⟨Table.mem_of_get? found, ?_⟩, Table.get?_key found⟩) out
    exact decide_eq_true scouting
  · simpa [waiting, scouting] using waits

/-- `_recover_stranded_scouts` takes up every source that an earlier process claimed. -/
theorem returns_recoverScouts : Returns (Keeps []) (fun _ => Within [] []) Stranded (recoverStrandedScouts cfg) := by
  have listed : Returns (Keeps []) (fun keys => Within [] keys) Stranded (call fun w =>
      (.ok ((w.registry.candidates.rows.filter (·.state = .scouting)).map (·.sourceKey)), w)) := by
    refine returns_call (fun keys => stable_within [] keys) fun w keys stranded returned => ?_
    cases returned
    exact stranded.within
  refine returns_bind listed fun keys => returns_forAll (fun key claimed => ?_) keys
  exact returns_retryScout cfg strandedScoutReason

theorem harmless_recoverActivations : Harmless recoverActivations := by
  refine harmless_bind (harmless_call (mild_read _)) fun keys => harmless_forAll (fun key => ?_) keys
  refine harmless_bind (harmless_call (mild_onRegistry key fun s clock => ?_)) fun _ => harmless_pure ()
  exact rewrites_failure key clock strandedReason false (.fin defaultRetrySeconds)

theorem harmless_reconcile : Harmless reconcileExhausted := by
  refine harmless_bind (harmless_call (mild_read _)) fun keys => harmless_forAll (fun key => ?_) keys
  exact harmless_bind (harmless_moveTo key rfl) fun _ => harmless_pure ()

theorem harmless_beginActivations (keys : List String) : Harmless (beginActivations keys) := by
  refine harmless_forAll (fun key => ?_) keys
  refine harmless_bind (harmless_getCandidate key) fun _ => harmless_ite ?_ (harmless_pure ())
  exact harmless_bind (harmless_call (mild_onRegistry key fun s clock => rewrites_begin key clock)) fun _ => harmless_pure ()

theorem harmless_triageCandidates (keys : List String) : Harmless (triageCandidates cfg keys) := by
  induction keys with
  | nil => exact harmless_pure []
  | cons key rest ih =>
    refine harmless_bind (harmless_getCandidate key) fun _ => harmless_ite ?_ ih
    exact harmless_bind (harmless_call (mild_reason cfg key)) fun _ => harmless_bind ih fun _ => harmless_pure _

theorem harmless_commitSearch (action : SearchAction) : Harmless (commitSearch action) := by
  cases action with
  | proposed proposal => exact harmless_register proposal
  | adapter key format layout schema =>
    refine harmless_bind (harmless_getCandidate key) fun current => ?_
    cases current with
    | none => exact harmless_pure ()
    | some row =>
      refine harmless_bind (harmless_attempt caughtOrMissing (mild_onRegistry key fun s clock => ?_)) fun _ => harmless_pure ()
      exact rewrites_bind key clock format layout schema row.stateReason

theorem harmless_startup (seeds : List Proposal) : Harmless (startup cfg seeds) := by
  refine harmless_bind (harmless_forAll harmless_register seeds) fun _ => harmless_bind (harmless_call (mild_read _)) fun held => ?_
  refine harmless_forAll (fun key => harmless_ite ?_ (harmless_pure ())) held
  refine harmless_bind (harmless_call (mild_reason cfg key)) fun _ => harmless_ite (harmless_pure ()) ?_
  refine harmless_bind (harmless_call (mild_read _)) fun _ => harmless_ite (harmless_pure ()) ?_
  exact harmless_bind (harmless_moveTo key rfl) fun _ => harmless_pure ()

theorem harmless_reconciliation (found : Findings) :
    Harmless (do
      reconcileExhausted
      call pruneExpiredSuppressions
      forAll (fun (origin, reason, ttl) => call (suppress .origin origin reason ttl)) found.saturated
      forAll (fun proposal => do
        let _inserted ← call (register proposal)
        pure ()) found.drained) := by
  refine harmless_bind harmless_reconcile fun _ => harmless_bind (harmless_call mild_prune) fun _ => ?_
  refine harmless_bind (harmless_forAll (fun entry => harmless_call (mild_suppress (by decide) _ _ _)) _) fun _ => ?_
  exact harmless_forAll harmless_register found.drained

/-- When the coordinator comes to its plan, every source is reached. -/
theorem returns_prepare (recovered : Bool) (found : Findings) :
    Returns (Keeps []) (fun _ => Within [] []) (fun w => Stranded w ∧ (recovered = true → Within [] [] w))
      (prepare cfg recovered found) := by
  have behind := harmless_reconciliation found (Within [] []) (stable_within _ _)
  cases recovered with
  | true => exact Returns.narrow behind fun w here => here.2 rfl
  | false =>
    have noted : Mild fun w => (Except.ok (), { w with startupRecovered := true }) := fun _ => Keeps.of_same rfl rfl
    refine returns_bind ((returns_recoverScouts cfg).narrow fun w here => here.1) fun _ => ?_
    refine returns_bind (harmless_recoverActivations _ (stable_within _ _)) fun _ => ?_
    exact returns_bind (harmless_atomic noted _ (stable_within _ _)) fun _ => behind

theorem returns_backgroundStep (planned : ReservoirPlan) (busy : Bool) (claimed : List String) :
    Returns (Keeps []) (fun more w => Within [] (more.2 ++ claimed) w) (Within [] claimed) (backgroundStep cfg planned busy) := by
  unfold backgroundStep
  cases busy with
  | true => exact returns_pure fun _ here => here
  | false =>
    rw [if_neg (by simp)]
    by_cases activates : planned.backgroundActivate ≠ []
    · rw [if_pos activates]
      exact returns_bind (harmless_beginActivations _ _ (stable_within _ _)) fun _ => returns_pure fun _ here => here
    · rw [if_neg activates]
      by_cases scouts : planned.backgroundScout ≠ []
      · rw [if_pos scouts]
        exact returns_bind (returns_claimScouts cfg _ claimed) fun _ => returns_pure fun _ here => here
      · rw [if_neg scouts]
        exact returns_bind (harmless_triageCandidates cfg _ _ (stable_within _ _)) fun _ => returns_pure fun _ here => here

/-- HOLD always comes with a reason. -/
structure Stated (found : Work) : Prop where
  /-- `_commit_triage` has no reason to give. -/
  triage : ∀ key result, found.triage key = .value result → result.disposition ≠ .hold
  scout : ∀ key result, found.scout key = .value result → result.disposition = .hold → strip result.reason ≠ ""

theorem returns_work (planned : ReservoirPlan) {found : Work} (stated : Stated found) :
    Returns (Keeps []) (fun _ => Within [] []) (Within [] []) (work cfg planned found) := by
  refine returns_bind (harmless_beginActivations _ _ (stable_within _ _)) fun _ => ?_
  refine returns_bind (harmless_triageCandidates cfg _ _ (stable_within _ _)) fun triaged => ?_
  refine returns_bind (returns_claimScouts cfg _ []) fun claimed => ?_
  refine returns_bind (returns_backgroundStep cfg planned _ (claimed ++ [])) fun more => ?_
  have triages : ∀ keys, Returns (Keeps []) (fun _ => Within [] (more.2 ++ (claimed ++ []))) (Within [] (more.2 ++ (claimed ++ [])))
      (forAll (fun key => commitTriage cfg key (found.triage key)) keys) := by
    intro keys
    induction keys with
    | nil => exact returns_pure fun _ here => here
    | cons key rest ih => exact returns_bind (returns_commitTriage cfg (stated.triage key)) fun _ => ih
  refine returns_bind (triages _) fun _ => ?_
  have scouts : ∀ key claimed, Returns (Keeps []) (fun _ => Within [] claimed) (Within [] (key :: claimed))
      (commitScout cfg key (found.siblings key) (found.scout key)) :=
    fun key claimed => returns_commitScout cfg _ (stated.scout key)
  refine returns_bind ((returns_forAll scouts (claimed ++ more.2)).narrow fun w here => here.mono fun key member => ?_) fun _ => ?_
  · simp only [List.mem_append, List.not_mem_nil, or_false] at member ⊢
    exact member.symm
  · exact harmless_forAll harmless_commitSearch _ _ (stable_within _ _)

end

/-! ## Runs -/

/-- A source is between the commits of its triage, or on HOLD before its reason or its way back. -/
def exposed (w : World) : Bool :=
  w.registry.candidates.rows.any fun row => row.state = .triaged || row.state = .hold && !States w row

/-- The process is about to plan. -/
def plans (s : System) : Bool :=
  match s.process with
  | some .planning => true
  | _ => false

/-- The process is between two cycles. -/
def rests (s : System) : Bool :=
  match s.process with
  | some .idle => true
  | _ => false

/-- No process dies and no stage raises while a source is exposed; a process whose cycle raised while sources
    were claimed runs no further cycle; HOLD comes with a reason. -/
structure Careful (taken : Step System Event (Option (Except SourceError Unit))) : Prop where
  dies : taken.event = .die → exposed taken.before.world = false
  raises : ∀ err, taken.outcome = some (.error err) → exposed taken.before.world = false
  cycles : ∀ found, taken.event = .cycle found → rests taken.before = true → taken.before.world.startupRecovered = true →
    ∀ row ∈ taken.before.world.registry.candidates.rows, row.state ≠ .scouting
  stated : ∀ found, taken.event = .plan found → plans taken.before = true → Stated found

/-- What a stage that returns brings about. -/
def Stage.Promises : Stage → World → Prop
  | .startup => Stranded
  | .prepare => Within [] []
  | .work => Within [] []

/-- What is so between two steps. -/
def Sound (s : System) : Prop :=
  match s.process with
  | none | some .idle => Stranded s.world
  | some .planning => Within [] [] s.world
  | some (.running stage rest) =>
    Leads (Keeps []) (fun result w => ∀ answer, result = .ok answer → Stage.Promises stage w) (Keeps [] s.world) rest

/-- Where no source is exposed, those that are not reached are SCOUTING. -/
theorem stranded_of_unexposed {w : World} (unexposed : exposed w = false) : Stranded w := by
  intro key row found
  have clear := List.any_eq_false.mp unexposed row (Table.mem_of_get? found)
  unfold waiting Reached
  cases state : row.state <;> simp_all

theorem Keeps.elsewhere (other : Elsewhere) (w : World) : Keeps [] w (other.write w) := by
  cases other with
  | register proposal => exact mild_register proposal w
  | promote key => exact mild_transition key rfl w
  | fail key reason permanent retrySeconds =>
    exact mild_onRegistry key (fun s clock => rewrites_failure key clock reason permanent retrySeconds) w
  | beside around edges => exact Keeps.of_same rfl rfl
  | tick clock => exact Keeps.of_same rfl rfl

/-- What the others write does not disturb the process. -/
theorem Sound.later {s : System} {w : World} (sound : Sound s) (kept : Keeps [] s.world w) : Sound ⟨w, s.process⟩ := by
  unfold Sound at sound ⊢
  cases process : s.process with
  | none =>
    rw [process] at sound
    exact stable_stranded _ _ sound kept
  | some phase =>
    rw [process] at sound
    cases phase with
    | idle => exact stable_stranded _ _ sound kept
    | planning => exact stable_within _ _ _ _ sound kept
    | running stage rest => exact Leads.narrow sound fun _ after => kept.trans after

variable (cfg : Settings)

theorem sound_start {s : System} (sound : Sound s) (seeds : List Proposal) : Sound (step cfg s (.start seeds)).2 := by
  simp only [step]
  cases process : s.process with
  | some phase => exact sound
  | none =>
    have stranded : Stranded s.world := by
      simpa only [Sound, process] using sound
    have started := harmless_startup cfg seeds Stranded stable_stranded
    have same : Keeps [] s.world { s.world with startupRecovered := false } := Keeps.of_same rfl rfl
    exact Leads.narrow (started : Returns _ _ _ _) fun w after => stable_stranded _ _ (stable_stranded _ _ stranded same) after

theorem sound_cycle {s : System} (sound : Sound s) (found : Findings)
    (careful : Careful ((coordinator cfg).take s (.cycle found))) : Sound (step cfg s (.cycle found)).2 := by
  simp only [step]
  cases process : s.process with
  | none => simpa only [process] using sound
  | some phase =>
    cases phase with
    | planning => exact sound
    | running stage rest => exact sound
    | idle =>
      have stranded : Stranded s.world := by
        simpa only [Sound, process] using sound
      have recovered : s.world.startupRecovered = true → Within [] [] s.world := by
        intro earlier
        have none_ := careful.cycles found rfl (by simp only [Machine.take_before, rests, process]) earlier
        refine ⟨fun key _ => stranded key, fun key _ _ row here => ?_⟩
        have waits := stranded key row here
        have claimed := none_ row (Table.mem_of_get? here)
        simpa [waiting, claimed] using waits
      refine Leads.narrow (returns_prepare cfg s.world.startupRecovered found : Returns _ _ _ _) fun w after => ?_
      exact ⟨stable_stranded _ _ stranded after, fun earlier => stable_within _ _ _ _ (recovered earlier) after⟩

theorem sound_plan {s : System} (sound : Sound s) (found : Work)
    (careful : Careful ((coordinator cfg).take s (.plan found))) : Sound (step cfg s (.plan found)).2 := by
  simp only [step]
  cases process : s.process with
  | none => simpa only [process] using sound
  | some phase =>
    cases phase with
    | idle => exact sound
    | running stage rest => exact sound
    | planning =>
      have within : Within [] [] s.world := by
        simpa only [Sound, process] using sound
      have between : plans s = true := by
        simp only [plans, process]
      have kept := mild_answer (mild_plan cfg) s.world
      have after := stable_within _ _ _ _ within kept
      dsimp only
      split
      · rename_i err w answered
        rw [answered] at after
        exact after.stranded
      · rename_i planned w answered
        rw [answered] at after
        refine Leads.narrow (returns_work cfg planned (careful.stated found rfl between) : Returns _ _ _ _) fun w later => ?_
        exact stable_within _ _ _ _ after later

theorem sound_advance {s : System} (sound : Sound s) (careful : Careful ((coordinator cfg).take s .advance)) :
    Sound (step cfg s .advance).2 := by
  simp only [step]
  cases process : s.process with
  | none => simpa only [process] using sound
  | some phase =>
    cases phase with
    | idle => exact sound
    | planning => exact sound
    | running stage rest =>
      have inside := sound
      simp only [Sound, process] at inside
      cases rest with
      | txn write next => exact inside s.world (Keeps.refl [] s.world)
      | done result =>
        cases result with
        | ok answer =>
          have promised := inside s.world (Keeps.refl [] s.world) answer rfl
          cases stage with
          | startup => exact promised
          | prepare => exact promised
          | work => exact promised.stranded
        | error err =>
          have unexposed : exposed s.world = false := careful.raises err (by simp only [Machine.take_outcome, coordinator, step, process])
          have stranded := stranded_of_unexposed unexposed
          cases stage with
          | startup => exact stranded
          | prepare => exact stranded
          | work => exact stranded

theorem sound_step {s : System} (sound : Sound s) (e : Event) (careful : Careful ((coordinator cfg).take s e)) :
    Sound (step cfg s e).2 := by
  cases e with
  | start seeds => exact sound_start cfg sound seeds
  | cycle found => exact sound_cycle cfg sound found careful
  | plan found => exact sound_plan cfg sound found careful
  | advance => exact sound_advance cfg sound careful
  | die => exact stable_stranded s.world _ (stranded_of_unexposed (careful.dies rfl)) (Keeps.of_same rfl rfl)
  | fault err => exact sound.later (Keeps.of_same rfl rfl)
  | elsewhere other => exact sound.later (Keeps.elsewhere other s.world)

theorem sound_run (es : List Event) (careful : ∀ taken ∈ (coordinator cfg).trace es, Careful taken) :
    Sound ((coordinator cfg).final es) := by
  induction es using List.reverseRecOn with
  | nil => exact fun key row found => nomatch found
  | append_singleton es e ih =>
    rw [Machine.final_snoc]
    rw [Machine.trace_snoc] at careful
    refine sound_step cfg (ih fun taken member => careful taken (List.mem_append_left _ member)) e ?_
    exact careful _ (List.mem_append_right _ (List.mem_singleton_self _))

/-- Whenever the coordinator plans, every source it knows is one that planning looks at, or decided. -/
theorem planning_reaches (es : List Event) (careful : ∀ taken ∈ (coordinator cfg).trace es, Careful taken)
    (planning : plans ((coordinator cfg).final es) = true) :
    ∀ row ∈ ((coordinator cfg).final es).world.registry.candidates.rows,
      Reached ((coordinator cfg).final es).world row = true := by
  intro row member
  have sound := sound_run cfg es careful
  have process : ((coordinator cfg).final es).process = some .planning := by
    unfold plans at planning
    split at planning
    · assumption
    · cases planning
  simp only [Sound, process] at sound
  exact sound.reached row.sourceKey List.not_mem_nil List.not_mem_nil row (Table.get?_mem member)

/-! ### Runs that are cut short -/

def smallSettings : Settings where
  family _ := "family"
  origin _ := "origin"
  background _ := false
  audited _ := false
  candidateValue _ _ _ := 0
  maxGraphHops := 4
  triageBatch := 8
  activeTarget := 1
  scoutTarget := 4
  scoutParallelism := 4
  failureRetrySeconds := 30
  scoutAuthority := none

def seed (sourceKey : String) : Proposal := ⟨⟨sourceKey, .discovered, "", none, 0, 0⟩, rfl, false⟩

/-- Triage sends every source on; every scout fails. -/
def failingScouts : Work where
  triage _ := .value ⟨.scout⟩
  scout _ := .error ⟨"RuntimeError", "temporary provider failure"⟩
  siblings _ := []
  searching := false
  searches := []

theorem stated_failingScouts : Stated failingScouts :=
  ⟨fun _ _ same => by cases same; decide, fun _ _ same => nomatch same⟩

/-- As many transactions as a stage has, and more. -/
def throughout : List Event := List.replicate 24 .advance

/-- A new process, up to its first plan. -/
def restarted (seeds : List Proposal) : List Event := .start seeds :: throughout ++ .cycle ⟨[], []⟩ :: throughout

/-- A cycle of a process that planned, up to its next plan. -/
def nextCycle : List Event := .plan failingScouts :: throughout ++ .cycle ⟨[], []⟩ :: throughout

/-- The process dies between the two commits of a triage. -/
def diesInTriage : List Event :=
  restarted [seed "a"] ++ .plan failingScouts :: List.replicate 5 .advance ++ .die :: restarted []

/-- The process dies when a failed scout is on HOLD on its way back. -/
def diesInRetry : List Event :=
  restarted [seed "a"] ++ nextCycle ++ .plan failingScouts :: List.replicate 5 .advance ++ .die :: restarted []

/-- The first of two failed scouts meets a database error, and the process goes on. -/
def raisesInBatch : List Event :=
  restarted [seed "a", seed "b"] ++ nextCycle ++ .plan failingScouts :: List.replicate 7 .advance ++
    .fault (.other (.runtimeError "database is locked")) :: throughout ++ .cycle ⟨[], []⟩ :: throughout

/-- The sources that the coordinator does not reach when it plans. -/
def unreached (es : List Event) : List (String × SourceState × String) :=
  let s := (coordinator smallSettings).final es
  if plans s then
    (s.world.registry.candidates.rows.filter fun row => !Reached s.world row).map fun row => (row.sourceKey, row.state, row.stateReason)
  else []

theorem sources_left_behind :
    unreached diesInTriage = [("a", .triaged, "")] ∧ unreached diesInRetry = [("a", .hold, "")] ∧
      unreached raisesInBatch = [("a", .scouting, ""), ("b", .scouting, "")] := by
  decide +kernel

/-- A process that dies while it scouts leaves what the next one takes up. -/
def diesScouting : List Event :=
  restarted [seed "a"] ++ nextCycle ++ .plan failingScouts :: List.replicate 4 .advance ++ .die :: restarted []

/-- The part of the condition that evaluates. -/
def quiet (taken : Step System Event (Option (Except SourceError Unit))) : Bool :=
  (match taken.event with
    | .die => !exposed taken.before.world
    | .cycle _ => !taken.before.world.startupRecovered || taken.before.world.registry.candidates.rows.all (·.state ≠ .scouting)
    | _ => true) &&
  (match taken.outcome with
    | some (.error _) => !exposed taken.before.world
    | _ => true)

theorem careful_of_quiet {taken : Step System Event (Option (Except SourceError Unit))} (calm : quiet taken = true)
    (stated : ∀ found, taken.event = .plan found → Stated found) : Careful taken := by
  obtain ⟨events, outcomes⟩ := Bool.and_eq_true_iff.mp calm
  refine ⟨fun dies => ?_, fun err raised => ?_, fun found cycle _ recovered row member => ?_, fun found plan _ => stated found plan⟩
  · rw [dies] at events
    simpa using events
  · rw [raised] at outcomes
    simpa using outcomes
  · rw [cycle] at events
    simp only [recovered, Bool.not_true, Bool.false_or, List.all_eq_true, decide_eq_true_eq] at events
    exact events row member

theorem claimed_taken_up :
    ((coordinator smallSettings).final diesScouting).world.registry.candidates.rows.all
      (Reached ((coordinator smallSettings).final diesScouting).world) = true := by
  refine List.all_eq_true.mpr (planning_reaches smallSettings diesScouting (fun taken member => ?_) (by decide +kernel))
  have calm : ((coordinator smallSettings).trace diesScouting).all quiet = true := by decide +kernel
  refine careful_of_quiet (List.all_eq_true.mp calm taken member) fun found same => ?_
  have listed : taken.event ∈ diesScouting := by
    rw [← Machine.traceFrom_events (coordinator smallSettings) (coordinator smallSettings).initial diesScouting]
    exact List.mem_map_of_mem member
  rw [same] at listed
  have given : found = failingScouts := by
    simpa [diesScouting, restarted, nextCycle, throughout, List.mem_replicate] using listed
  rw [given]
  exact stated_failingScouts

end Creeper.CoordinatorRecovery
