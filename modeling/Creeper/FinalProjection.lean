import Creeper.CreditAuthority

/-!
# The FINAL projection of closed runs

The rows of `source_final_rewards` under authorities that come and go, with the readiness
process that resets them. A row always is the fold of closed runs of its own signatures, but
it is written only when a run closes.
-/

namespace Creeper.FinalProjection
open Creeper.Runs Creeper.Tables Creeper.SourceRuns Creeper.SearchCredit
open Creeper.FabricModels (PyError blank)
open Creeper.CreditAuthority (closeRun_eq stored published attributeSearchReward_apart mem_storeFinal storeFinal_mem)

/-! ## Readiness beside the registry -/

/-- The readiness process. -/
structure Runtime where
  signatures : Authority
  /-- The signatures have changed and the old rewards are still there. -/
  changed : Bool
  deriving DecidableEq

structure System where
  registry : Registry
  /-- The signatures and the cursor of `readiness_state`. -/
  ledger : Option Authority
  evidenceCursor : Nat
  latestEvidenceSequence : Nat
  readiness : Option Runtime

inductive Event
  | enter (entry : Entry)
  | closeSourceRun (key : RunKey) (exposure : Except PyError Bool)
  /-- By a service other than readiness. -/
  | setScoutAuthority (authority : Authority)
  /-- The constructor of the readiness runtime. -/
  | start (found : Authority)
  /-- `_refresh_authority`, at the start of `sync_once`. -/
  | refresh (found : Authority)
  /-- `_invalidate_learning_rewards`. -/
  | invalidate
  /-- `apply_batch`, up to a sequence number. -/
  | apply (sequence : Nat)
  /-- An error ends the `sync_once`. -/
  | fail
  | stop
  /-- New evidence. -/
  | evidence (count : Nat)

/-- `ensure_authority` and `set_scout_authority` for new signatures. -/
def System.adopt (s : System) (found : Authority) (changed : Bool) : System := { s with
  registry := (setScoutAuthority maxZero s.registry found).2
  ledger := some found
  evidenceCursor := if s.ledger = some found then s.evidenceCursor else 0
  readiness := some ⟨found, changed⟩ }

def step (s : System) : Event → Outcome × System
  | .enter entry => ((enter s.registry entry).1, { s with registry := (enter s.registry entry).2 })
  | .closeSourceRun key exposure =>
    ((closeSourceRun maxZero s.registry key exposure).1.map fun _ => (),
      { s with registry := (closeSourceRun maxZero s.registry key exposure).2 })
  | .setScoutAuthority authority =>
    ((setScoutAuthority maxZero s.registry authority).1.map fun _ => (),
      { s with registry := (setScoutAuthority maxZero s.registry authority).2 })
  | .start found =>
    match s.readiness with
    | some _ => (.ok (), s)
    | none => (.ok (), s.adopt found false)
  | .refresh found =>
    match s.readiness with
    | some ⟨held, false⟩ => if held = found then (.ok (), s) else (.ok (), s.adopt found true)
    | _ => (.ok (), s)
  | .invalidate =>
    match s.readiness with
    | some ⟨held, true⟩ => (.ok (), { s with registry := (resetFinalRewards maxZero s.registry).2, readiness := some ⟨held, false⟩ })
    | _ => (.ok (), s)
  | .apply sequence =>
    match s.readiness with
    | some ⟨_, false⟩ => (.ok (), { s with evidenceCursor := max s.evidenceCursor (min sequence s.latestEvidenceSequence) })
    | _ => (.ok (), s)
  | .fail => (.ok (), { s with readiness := s.readiness.map fun r => { r with changed := false } })
  | .stop => (.ok (), { s with readiness := none })
  | .evidence count => (.ok (), { s with latestEvidenceSequence := s.latestEvidenceSequence + count })

def machine : Machine System Event Outcome where
  initial := ⟨.empty, none, 0, 0, none⟩
  step := step

/-! ## The projection -/

/-- The closed runs of a source under an authority that were not aborted. -/
def finalRuns (t : Runs) (sourceKey : String) (authority : Authority) : List RunRow :=
  (closedRuns t sourceKey authority).filter fun r => !r.terminalState.any (· ≠ .finalClosed)

structure FoldOf (runs : List RunRow) (authority : Authority) (f : FinalRow) : Prop where
  signed : f.baselineSignature = some authority.1 ∧ f.modelSignature = some authority.2
  count : f.closedRuns = runs.length
  zeros : f.zeroRuns = runs.countP (·.validation.finalAcceptedEed = 0)
  reward : f.finalAcceptedEed = (runs.map (·.validation.finalAcceptedEed)).sum
  cost : f.costSeconds = (runs.map fun r => r.validation.providerElapsedSeconds + readSeconds r).sum

/-- The final rewards under an authority are the folds of its closed runs. -/
structure Projects (s : Registry) (authority : Authority) : Prop where
  present : ∀ sourceKey, finalRuns s.runs sourceKey authority ≠ [] →
    ∃ f, s.finals.get? sourceKey = some f ∧ FoldOf (finalRuns s.runs sourceKey authority) authority f
  absent : ∀ f ∈ s.finals.rows, f.signedBy authority = true → finalRuns s.runs f.sourceKey authority ≠ []

/-- Readiness has caught up under an authority. -/
structure Current (s : System) (authority : Authority) : Prop where
  runtime : s.readiness = some ⟨authority, false⟩
  ledger : s.ledger = some authority
  installed : s.registry.authority = some authority
  caughtUp : s.latestEvidenceSequence ≤ s.evidenceCursor

def installs (s : System) : Event → Option Authority
  | .setScoutAuthority authority => some authority
  | .start found => if s.readiness.isNone then some found else none
  | .refresh found => if s.readiness.any fun r => !r.changed && r.signatures ≠ found then some found else none
  | _ => none

/-- Sources with a run closed under an authority still have a final reward that it signed. -/
def Restored (s : Registry) (authority : Authority) : Prop :=
  ∀ r ∈ s.runs.rows, r.closed = true → r.key.authority = authority → (s.finals.get? r.key.sourceKey).any (·.signedBy authority) = true

/-- A step that resets the final rewards. -/
def resets (s : System) : Event → Bool
  | .invalidate => s.readiness.any (·.changed)
  | _ => false

/-- A step leaves no closed run without its final reward: an authority that comes back finds them,
    and a reset comes before the first run is closed under the authority that is installed. -/
def Keeps (s : System) (e : Event) : Prop :=
  (∀ authority ∈ installs s e, s.registry.authority ≠ some authority → Restored s.registry authority) ∧
    (resets s e = true → ∀ authority ∈ s.registry.authority, ∀ r ∈ s.registry.runs.rows, r.closed = true → r.key.authority ≠ authority)

instance (s : Registry) (authority : Authority) : Decidable (Restored s authority) := by
  unfold Restored
  infer_instance

instance (s : System) (e : Event) : Decidable (Keeps s e) := by
  unfold Keeps
  infer_instance

def Legal (es : List Event) : Prop := ∀ r ∈ machine.trace es, Keeps r.before r.event

/-! ## Rows are folds -/

/-- Every final reward is the fold of the closed runs of its signatures, of which there are some. -/
structure Folded (s : Registry) : Prop where
  rows : ∀ f ∈ s.finals.rows, ∃ authority, closedRuns s.runs f.sourceKey authority ≠ [] ∧
    f = aggregate (closedRuns s.runs f.sourceKey authority) f.sourceKey authority
  ends : ∀ r ∈ s.runs.rows, r.closed = true → r.terminalState.any (· ≠ .finalClosed) = false
  exposed : ∀ r ∈ s.runs.rows, r.exposureId.isNone = false

theorem aggregate_signedBy (runs : List RunRow) (sourceKey : String) (authority authority' : Authority) :
    (aggregate runs sourceKey authority).signedBy authority' = true ↔ authority = authority' := by
  simp [FinalRow.signedBy, aggregate, Prod.ext_iff]

section
variable {s : Registry} {authority : Authority}

theorem finalRuns_eq (folded : Folded s) (sourceKey : String) :
    finalRuns s.runs sourceKey authority = closedRuns s.runs sourceKey authority := by
  refine List.filter_eq_self.mpr fun r member => ?_
  obtain ⟨inside, selected⟩ := List.mem_filter.mp member
  simp only [Bool.and_eq_true] at selected
  simpa using folded.ends r inside selected.2

theorem foldOf_aggregate (runs : List RunRow) (sourceKey : String) (authority : Authority) :
    FoldOf runs authority (aggregate runs sourceKey authority) :=
  ⟨⟨rfl, rfl⟩, rfl, List.countP_eq_length_filter.symm, rfl, rfl⟩

theorem restored_iff : Restored s authority ↔
    ∀ sourceKey, closedRuns s.runs sourceKey authority ≠ [] → ∃ f, s.finals.get? sourceKey = some f ∧ f.signedBy authority = true := by
  constructor
  · intro restored sourceKey some_
    obtain ⟨r, member⟩ := List.exists_mem_of_ne_nil _ some_
    obtain ⟨stored, selected⟩ := List.mem_filter.mp member
    simp only [Bool.and_eq_true, decide_eq_true_eq] at selected
    have signed := restored r stored selected.2 selected.1.2
    rw [selected.1.1] at signed
    exact (Option.any_eq_true _ _).mp signed
  · intro restored r stored closed own
    have some_ : closedRuns s.runs r.key.sourceKey authority ≠ [] :=
      List.ne_nil_of_mem (List.mem_filter.mpr ⟨stored, by simp [closed, own]⟩)
    exact (Option.any_eq_true _ _).mpr (restored r.key.sourceKey some_)

theorem projects_iff (folded : Folded s) : Projects s authority ↔ Restored s authority := by
  rw [restored_iff]
  constructor
  · intro projects sourceKey some_
    rw [← finalRuns_eq folded] at some_
    obtain ⟨f, found, fold⟩ := projects.present sourceKey some_
    exact ⟨f, found, by simp [FinalRow.signedBy, fold.signed]⟩
  · intro restored
    refine ⟨fun sourceKey some_ => ?_, fun f stored signed => ?_⟩
    · rw [finalRuns_eq folded] at some_ ⊢
      obtain ⟨f, found, signed⟩ := restored sourceKey some_
      obtain ⟨by_, -, same⟩ := folded.rows f (Table.mem_of_get? found)
      rw [same, aggregate_signedBy] at signed
      obtain ⟨rfl, name⟩ := And.intro signed (Table.get?_key found)
      refine ⟨f, found, ?_⟩
      rw [same, name]
      exact foldOf_aggregate _ _ _
    · obtain ⟨by_, some_, same⟩ := folded.rows f stored
      rw [same, aggregate_signedBy] at signed
      obtain rfl := signed
      rwa [finalRuns_eq folded]

end

/-! ## Runs that are not closed -/

section
variable {t : Runs}

/-- Rewriting rows that are not selected, before or after, leaves the selection. -/
theorem closedRuns_update {where_ : RunRow → Bool} {set : RunRow → RunRow} (keeps : ∀ r, (set r).key = r.key)
    {sourceKey : String} {authority : Authority}
    (apart : ∀ r ∈ t.rows, where_ r = true → (r.closed = false ∧ (set r).closed = false) ∨ r.key.sourceKey ≠ sourceKey) :
    closedRuns (t.update where_ set keeps) sourceKey authority = closedRuns t sourceKey authority := by
  unfold closedRuns
  rw [Table.rows_update]
  generalize t.rows = rows at apart
  induction rows with
  | nil => rfl
  | cons r rest ih =>
    have others := ih fun u member => apart u (List.mem_cons_of_mem _ member)
    rw [List.map_cons, List.filter_cons, List.filter_cons, others]
    by_cases hit : where_ r = true
    · rw [if_pos hit, keeps r]
      rcases apart r List.mem_cons_self hit with ⟨before, after⟩ | elsewhere
      · simp [before, after]
      · simp [elsewhere]
    · rw [if_neg hit]

theorem closedRuns_insert (r : RunRow) (fresh : r.closed = false) (sourceKey : String) (authority : Authority) :
    closedRuns (t.insert r) sourceKey authority = closedRuns t sourceKey authority := by
  unfold Table.insert
  split
  · rfl
  · unfold closedRuns
    simp [fresh]

/-- Writing a row that is not closed keeps what was closed, and where it ended. -/
structure Apart (t u : Runs) : Prop where
  closed : ∀ sourceKey authority, closedRuns u sourceKey authority = closedRuns t sourceKey authority
  ends : (∀ r ∈ t.rows, r.closed = true → r.terminalState.any (· ≠ .finalClosed) = false) →
    ∀ r ∈ u.rows, r.closed = true → r.terminalState.any (· ≠ .finalClosed) = false
  exposed : (∀ r ∈ t.rows, r.exposureId.isNone = false) → ∀ r ∈ u.rows, r.exposureId.isNone = false

theorem Apart.refl (t : Runs) : Apart t t := ⟨fun _ _ => rfl, id, id⟩

/-- Rows that are open before and after. -/
theorem apart_update {where_ : RunRow → Bool} {set : RunRow → RunRow} (keeps : ∀ r, (set r).key = r.key)
    (open_ : ∀ r ∈ t.rows, where_ r = true → r.closed = false) (stays : ∀ r, (set r).closed = r.closed)
    (exposed : ∀ r, (set r).exposureId = r.exposureId) : Apart t (t.update where_ set keeps) := by
  refine ⟨fun _ _ => closedRuns_update keeps fun r member hit => .inl ?_, fun ends r member closed => ?_, fun all r member => ?_⟩
  · exact ⟨open_ r member hit, (stays r).trans (open_ r member hit)⟩
  · obtain ⟨old, stored, ⟨hit, rfl⟩ | ⟨-, rfl⟩⟩ := mem_update member
    · rw [stays, open_ old stored hit] at closed
      cases closed
    · exact ends r stored closed
  · obtain ⟨old, stored, ⟨-, rfl⟩ | ⟨-, rfl⟩⟩ := mem_update member
    · rw [exposed]
      exact all old stored
    · exact all r stored

theorem apart_begin (exposed : ∀ r ∈ t.rows, r.exposureId.isNone = false) (key : RunKey) (exposureId : String)
    (readStarted : Option ℚ) : Apart t (beginRun t key exposureId readStarted) := by
  have all : ∀ r ∈ (t.insert (.registered key (some exposureId) readStarted)).rows, r.exposureId.isNone = false := by
    intro r member
    rcases mem_insert member with rfl | stored
    · rfl
    · exact exposed r stored
  have same : beginRun t key exposureId readStarted = t.insert (.registered key (some exposureId) readStarted) := by
    refine Table.update_eq_self _ (by intro _; rfl) fun r member => ?_
    rw [all r member, Bool.and_false]
  rw [same]
  refine ⟨fun _ _ => closedRuns_insert _ rfl _ _, fun ends r member closed => ?_, fun _ => all⟩
  rcases mem_insert member with rfl | stored
  · cases closed
  · exact ends r stored closed

theorem open_of_found {key : RunKey} {found : RunRow} (open_ : (t.get? key).filter (!·.closed) = some found) :
    ∀ r ∈ t.rows, decide (r.key = key) = true → r.closed = false := by
  intro r member here
  obtain ⟨stored, not_⟩ := Option.filter_eq_some_iff.mp open_
  have same : r = found := Table.row_unique member (Table.mem_of_get? stored)
    ((of_decide_eq_true here).trans (Table.get?_key stored).symm)
  rw [same]
  simpa using not_

theorem apart_read (now : ℚ) (key : RunKey) (counters : ReadCounters) (readFinished : Option ℚ) (readComplete : Bool) :
    Apart t (recordRead t now key counters readFinished readComplete).2 := by
  unfold recordRead
  split
  · exact .refl t
  · split
    · exact .refl t
    · rename_i found
      split
      · exact .refl t
      · exact apart_update (by intro _; rfl) (open_of_found found) (fun _ => rfl) fun _ => rfl

theorem apart_validation (key : RunKey) (v : Validation) : Apart t (recordValidation t key v).2 := by
  unfold recordValidation
  split
  · exact .refl t
  · split
    · exact .refl t
    · rename_i found
      split
      · exact .refl t
      · exact apart_update (by intro _; rfl) (open_of_found found) (fun _ => rfl) fun _ => rfl

theorem apart_terminal (key : RunKey) (state : ProductionExposures.ExposureState) (reason : String) :
    Apart t (markTerminal t key state reason).2 := by
  refine apart_update (by intro _; rfl) (fun r _ hit => ?_) (fun _ => rfl) fun _ => rfl
  simp only [Bool.and_eq_true, Bool.not_eq_true'] at hit
  exact hit.2.2

end

/-- An entry keeps the closed runs of a registry. -/
theorem apart_enter {s : Registry} (exposed : ∀ r ∈ s.runs.rows, r.exposureId.isNone = false) (entry : Entry) :
    Apart s.runs (enter s entry).2.runs := by
  obtain ⟨op, rfl⟩ | same := enter_runs s entry
  · cases op with
    | begin key exposureId readStarted =>
      simp only [enter, writeRun]
      split
      · exact .refl _
      · exact apart_begin exposed key exposureId readStarted
    | read now key counters readFinished readComplete => exact apart_read now key counters readFinished readComplete
    | validation key v => exact apart_validation key v
    | terminal key state reason => exact apart_terminal key state reason
  · rw [same]
    exact .refl _

/-! ## Operations -/

section
variable {s : Registry}

theorem folded_of_apart {u : Registry} (folded : Folded s) (apart : Apart s.runs u.runs) (finals : u.finals = s.finals) : Folded u := by
  refine ⟨fun f stored => ?_, apart.ends folded.ends, apart.exposed folded.exposed⟩
  rw [finals] at stored
  obtain ⟨authority, some_, same⟩ := folded.rows f stored
  refine ⟨authority, ?_, ?_⟩
  · rwa [apart.closed]
  · rwa [apart.closed]

theorem restored_of_apart {u : Registry} {authority : Authority} (restored : Restored s authority) (apart : Apart s.runs u.runs)
    (finals : u.finals = s.finals) : Restored u authority := by
  rw [restored_iff] at restored ⊢
  intro sourceKey some_
  rw [apart.closed] at some_
  rw [finals]
  exact restored sourceKey some_

/-- A call of `close_source_run` changes nothing, or closes a run that was not aborted. -/
theorem closeSourceRun_cases (s : Registry) (key : RunKey) (exposure : Except PyError Bool) :
    (closeSourceRun maxZero s key exposure).2 = s ∨ ∃ run, s.otherAuthority key = false ∧ s.runs.get? key = some run ∧
      run.terminalState.any (· ≠ .finalClosed) = false ∧
      (closeSourceRun maxZero s key exposure).2 = attributeSearchReward maxZero (stored s key) key.sourceKey (published s key).offer := by
  unfold closeSourceRun
  split
  · exact .inl rfl
  · rename_i same
    split
    · exact .inl rfl
    · exact .inl rfl
    · rename_i admitted
      cases found : s.runs.get? key with
      | none =>
        simp only [closeRun, found]
        exact .inl trivial
      | some run =>
        cases closable : run.closable with
        | false =>
          simp only [closeRun, found, closable, Bool.not_false, if_true]
          exact .inl trivial
        | true =>
          refine .inr ⟨run, by simpa using same, rfl, ?_, closeRun_eq found closable⟩
          simp only [runAdmitted, found] at admitted
          split at admitted
          · cases admitted
          · rename_i fine
            simpa using fine

variable {key : RunKey} {run : RunRow}

theorem closedRuns_elsewhere {sourceKey : String} (apart : key.sourceKey ≠ sourceKey) (authority : Authority) :
    closedRuns (markClosed s.runs key) sourceKey authority = closedRuns s.runs sourceKey authority := by
  refine closedRuns_update (by intro _; rfl) fun r _ hit => .inr ?_
  rw [of_decide_eq_true hit]
  exact apart

theorem closedRuns_here (found : s.runs.get? key = some run) :
    closedRuns (markClosed s.runs key) key.sourceKey key.authority ≠ [] := by
  obtain ⟨member, name⟩ := Table.get?_eq_some.mp found
  refine List.ne_nil_of_mem (a := { run with closed := true }) (List.mem_filter.mpr ⟨List.mem_map.mpr ⟨run, member, ?_⟩, ?_⟩)
  · exact if_pos (decide_eq_true name)
  · simp [name]

theorem folded_close (folded : Folded s) (found : s.runs.get? key = some run)
    (fine : run.terminalState.any (· ≠ .finalClosed) = false) :
    Folded (attributeSearchReward maxZero (stored s key) key.sourceKey (published s key).offer) := by
  obtain ⟨sameFinals, -, sameRuns⟩ := attributeSearchReward_apart (stored s key) key.sourceKey (published s key).offer
  refine ⟨fun f member => ?_, fun r member closed => ?_, fun r member => ?_⟩
  · rw [sameFinals] at member
    rw [sameRuns]
    rcases mem_storeFinal member with rfl | ⟨before, apart⟩
    · exact ⟨key.authority, closedRuns_here found, rfl⟩
    · obtain ⟨authority, some_, same⟩ := folded.rows f before
      have kept : closedRuns (stored s key).runs f.sourceKey authority = closedRuns s.runs f.sourceKey authority :=
        closedRuns_elsewhere (Ne.symm apart) authority
      refine ⟨authority, ?_, ?_⟩
      · rwa [kept]
      · rwa [kept]
  · rw [sameRuns] at member
    obtain ⟨old, stored, ⟨here, rfl⟩ | ⟨-, rfl⟩⟩ := mem_update member
    · have same : old = run := Table.row_unique stored (Table.mem_of_get? found)
        ((of_decide_eq_true here).trans (Table.get?_key found).symm)
      rw [same]
      exact fine
    · exact folded.ends r stored closed
  · rw [sameRuns] at member
    obtain ⟨old, stored, ⟨-, rfl⟩ | ⟨-, rfl⟩⟩ := mem_update member
    · exact folded.exposed old stored
    · exact folded.exposed r stored

theorem restored_close (restored : Restored s key.authority) :
    Restored (attributeSearchReward maxZero (stored s key) key.sourceKey (published s key).offer) key.authority := by
  obtain ⟨sameFinals, -, sameRuns⟩ := attributeSearchReward_apart (stored s key) key.sourceKey (published s key).offer
  rw [restored_iff] at restored ⊢
  intro sourceKey some_
  rw [sameFinals]
  rw [sameRuns] at some_
  by_cases here : key.sourceKey = sourceKey
  · subst here
    have member : published s key ∈ (stored s key).finals.rows := storeFinal_mem _ _
    refine ⟨published s key, Table.get?_mem member, ?_⟩
    rw [published, aggregate_signedBy]
  · have kept : closedRuns (stored s key).runs sourceKey key.authority = closedRuns s.runs sourceKey key.authority :=
      closedRuns_elsewhere here _
    rw [kept] at some_
    obtain ⟨f, found, signed⟩ := restored sourceKey some_
    have apart : sourceKey ≠ (published s key).sourceKey := Ne.symm here
    refine ⟨f, ?_, signed⟩
    show (Table.upsert s.finals (published s key) _ _).get? sourceKey = some f
    rw [Table.get?_upsert, if_neg apart]
    exact found

end

/-! ## Runs of the system -/

theorem setScoutAuthority_apart (s : Registry) (authority : Authority) :
    (setScoutAuthority maxZero s authority).2.runs = s.runs ∧ (setScoutAuthority maxZero s authority).2.finals = s.finals ∧
      ((setScoutAuthority maxZero s authority).2.authority = s.authority ∨
        (setScoutAuthority maxZero s authority).2.authority = some authority) := by
  unfold setScoutAuthority
  split
  · exact ⟨rfl, rfl, .inl rfl⟩
  · split
    · exact ⟨rfl, rfl, .inl rfl⟩
    · exact ⟨rfl, rfl, .inr rfl⟩

section
variable {s : System}

theorem folded_set {s : Registry} (folded : Folded s) (authority : Authority) : Folded (setScoutAuthority maxZero s authority).2 := by
  obtain ⟨runs, finals, -⟩ := setScoutAuthority_apart s authority
  exact folded_of_apart folded (runs ▸ .refl _) finals

theorem folded_step (folded : Folded s.registry) (e : Event) : Folded (step s e).2.registry := by
  cases e with
  | enter entry => exact folded_of_apart folded (apart_enter folded.exposed entry) (enter_apart _ _).2.1
  | closeSourceRun key exposure =>
    rcases closeSourceRun_cases s.registry key exposure with same | ⟨run, -, found, fine, same⟩
    · simpa only [step, same] using folded
    · simpa only [step, same] using folded_close folded found fine
  | setScoutAuthority authority => exact folded_set folded authority
  | start found =>
    simp only [step]
    split
    · exact folded
    · exact folded_set folded found
  | refresh found =>
    simp only [step]
    split
    · split
      · exact folded
      · exact folded_set folded found
    · exact folded
  | invalidate =>
    simp only [step]
    split
    · exact ⟨fun _ stored => (nomatch stored), folded.ends, folded.exposed⟩
    · exact folded
  | apply sequence =>
    simp only [step]
    split <;> exact folded
  | fail => exact folded
  | stop => exact folded
  | evidence count => exact folded

/-- Whatever authority is installed finds its final rewards. -/
def Safe (s : Registry) : Prop := ∀ authority, s.authority = some authority → Restored s authority

theorem safe_set {s : Registry} (safe : Safe s) {authority : Authority} (comes : s.authority ≠ some authority → Restored s authority) :
    Safe (setScoutAuthority maxZero s authority).2 := by
  obtain ⟨runs, finals, held | new⟩ := setScoutAuthority_apart s authority
  · intro a installed
    rw [held] at installed
    exact restored_of_apart (safe a installed) (runs ▸ .refl _) finals
  · intro a installed
    obtain rfl : authority = a := Option.some.inj (new.symm.trans installed)
    by_cases before : s.authority = some authority
    · exact restored_of_apart (safe authority before) (runs ▸ .refl _) finals
    · exact restored_of_apart (comes before) (runs ▸ .refl _) finals

theorem safe_step (folded : Folded s.registry) (safe : Safe s.registry) {e : Event} (keeps : Keeps s e) : Safe (step s e).2.registry := by
  cases e with
  | enter entry =>
    obtain ⟨-, finals, authority⟩ := enter_apart s.registry entry
    intro a installed
    exact restored_of_apart (safe a (authority.symm.trans installed)) (apart_enter folded.exposed entry) finals
  | closeSourceRun key exposure =>
    rcases closeSourceRun_cases s.registry key exposure with same | ⟨run, current, -, -, same⟩
    · simpa only [step, same] using safe
    · simp only [step, same]
      intro a installed
      rw [(attributeSearchReward_apart _ _ _).2.1] at installed
      have held : s.registry.authority = some a := installed
      have own : a = key.authority := by simpa [Registry.otherAuthority, held] using current
      rw [own]
      exact restored_close (own ▸ safe a held)
  | setScoutAuthority authority => exact safe_set safe (keeps.1 authority rfl)
  | start found =>
    simp only [step]
    split
    · exact safe
    · rename_i down
      exact safe_set safe (keeps.1 found (by simp [installs, down]))
  | refresh found =>
    simp only [step]
    split
    · rename_i held up
      split
      · exact safe
      · rename_i other
        exact safe_set safe (keeps.1 found (by simp [installs, up, other]))
    · exact safe
  | invalidate =>
    simp only [step]
    split
    · rename_i held up
      intro a installed r stored closed own
      exact absurd own (keeps.2 (by simp [resets, up]) a installed r stored closed)
    · exact safe
  | apply sequence =>
    simp only [step]
    split <;> exact safe
  | fail => exact safe
  | stop => exact safe
  | evidence count => exact safe

end

theorem run_folded (es : List Event) : Folded (machine.final es).registry :=
  machine.invariant (I := fun s => Folded s.registry)
    ⟨fun _ stored => (nomatch stored), fun _ member => (nomatch member), fun _ member => (nomatch member)⟩
    (fun _ e folded => folded_step folded e) es

theorem run_safe {es : List Event} (legal : Legal es) : Safe (machine.final es).registry := by
  induction es using List.reverseRecOn with
  | nil => exact fun _ installed => nomatch installed
  | append_singleton es e ih =>
    unfold Legal at legal
    rw [Machine.trace_snoc] at legal
    have before := ih fun r member => legal r (List.mem_append_left _ member)
    rw [Machine.final_snoc]
    exact safe_step (run_folded es) before (legal _ (List.mem_append_right _ List.mem_cons_self))

def sampleRun (leaseId baseline : String) : RunKey := ⟨"source", "reservoir", leaseId, baseline, "model"⟩

/-- It is read, validated with a reward and closed. -/
def closing (key : RunKey) (reward : ℚ) : List Event :=
  [.enter (.writeRun (.begin key "exposure" none)), .enter (.writeRun (.read 3 key ⟨0, 0, 0, 0, 0⟩ none true)),
    .enter (.writeRun (.validation key ⟨0, 0, 0, 0, 0, 0, reward, 0, true⟩)), .closeSourceRun key (.ok true)]

/-- Readiness under a baseline, where a run closes. -/
def firstClosed : List Event :=
  [.enter (.registerProposal 2 "source" none "proposal"), .start ("baseline A", "model")] ++ closing (sampleRun "lease" "baseline A") 5

/-- The baseline changes while readiness is up, and changes back. -/
def returning : List Event := firstClosed ++
  [.refresh ("baseline B", "model"), .invalidate, .refresh ("baseline A", "model"), .invalidate]

/-- The baseline changes over restarts, and another run of the source closes in between. -/
def restarted : List Event := firstClosed ++ [.stop, .start ("baseline B", "model")] ++ closing (sampleRun "lease'" "baseline B") 7 ++
  [.stop, .start ("baseline A", "model")]

/-- A history that ends with a closed run and without its final reward. -/
def Lost (es : List Event) : Prop :=
  Current (machine.final es) ("baseline A", "model") ∧ ¬Projects (machine.final es).registry ("baseline A", "model")

end Creeper.FinalProjection
