import Creeper.Readiness

/-!
# Rewards of evidence actions

`_publish_evidence_action_rewards` and `_invalidate_learning_rewards` of `runtime/readiness.py`
with the two reward tables of `ControlStore`. The rewards that schedulers read are those of a
snapshot that had caught up under the authority of the ledger, as long as no ledger is reset
beside rewards that stay.
-/

namespace Creeper.ActionRewards
open Creeper.Runs Creeper.Tables Creeper.EvidenceStore Creeper.ReadinessLedger
open Creeper.FabricModels (PyError)
open Creeper.EvidenceTasks (ActionKind)
open Creeper.Readiness (Insertion Phase Sole)

/-! ## Calls -/

/-- A row of `evidence_action_final_rewards`. -/
structure RewardRow where
  taskKind : String
  finalNovelHostYears : Nat
  finalNovelEed : ℚ
  deriving DecidableEq

/-- The row of `evidence_action_reward_authority`, if any, with the rewards. -/
structure Control where
  authority : Option Signatures
  rewards : Table RewardRow String (·.taskKind)

/-- `EvidenceActionKind(raw_kind)` succeeds. -/
def isActionKind (rawKind : String) : Bool := [ActionKind.exact, .range, .domain, .rdap].any (·.value = rawKind)

def RewardRow.of (row : CountRow String) : RewardRow := ⟨row.key, row.novelHostYears, row.novelEed⟩

/-- `ON CONFLICT(task_kind) DO UPDATE`. -/
def RewardRow.replace (old new : RewardRow) : RewardRow := { old with
  finalNovelHostYears := new.finalNovelHostYears
  finalNovelEed := new.finalNovelEed }

/-- `normalized`: the rewards of action kinds. -/
def normalized (attribution : List (CountRow String)) : Except PyError (List RewardRow) :=
  if (attribution.filter (isActionKind ·.key)).any (·.novelEed < 0) then
    .error (.valueError "final evidence action rewards must be non-negative")
  else .ok ((attribution.filter (isActionKind ·.key)).map .of)

/-- `invalidate_evidence_action_final_rewards`. -/
def Control.invalidate (_ : Control) : Control := ⟨none, .empty⟩

/-- The rows that a publication starts from. -/
def Control.base (c : Control) (held : Signatures) : Table RewardRow String (·.taskKind) :=
  if c.authority = some held then c.rewards else .empty

/-- `publish_evidence_action_final_rewards`. -/
def Control.publish (c : Control) (attribution : List (CountRow String)) (held : Signatures) : Except PyError Bool × Control :=
  if held.baseline = "" || held.model = "" then
    (.error (.valueError "action reward authority signatures are required"), c)
  else
    match normalized attribution with
    | .error err => (.error err, c)
    | .ok rows =>
      (.ok (c.authority ≠ some held), ⟨some held, rows.foldl (Table.add RewardRow.replace (fun _ _ => rfl)) (c.base held)⟩)

/-- `max_host_year_sequence`. -/
def maxHostYearSequence (h : HostYears) : Nat := h.table.rows.foldr (fun row last => max row.sequence last) 0

/-- What the rewards need of an `IncrementalReadinessReport`. -/
structure Report where
  signatures : Signatures
  evidenceCursor : Nat
  latestEvidenceSequence : Nat
  taskKindAttribution : List (CountRow String)
  deriving DecidableEq

/-- `report`. -/
def report (l : Ledger) (latestEvidenceSequence : Nat) : Except PyError Report :=
  match l.state with
  | none => .error (.runtimeError "readiness authority has not been initialized")
  | some state => .ok ⟨state.signatures, state.evidenceCursor, latestEvidenceSequence, l.taskKind.sorted.rows⟩

/-! ## Steps -/

/-- How far a `sync_once` has come beside its work on the ledger. -/
inductive Stage
  | ready
  /-- The authority has changed, and the old rewards are still there. -/
  | changed
  | applied
  | reported (r : Report)
  deriving DecidableEq

structure Service where
  readiness : Readiness.System Unit
  stage : Stage
  /-- `control.sqlite3`, once some process has created it. -/
  control : Option Control

/-- The atomic steps of one readiness process, which a lock keeps alone, and of its surroundings. -/
inductive Action
  | insert (insertion : Insertion)
  | createControl
  | start (found : Signatures)
  | refresh (found : Signatures)
  | invalidate
  | fetch (batchSize : Int)
  | apply (attribution : HostYear → Attribution)
  | report
  | publish
  /-- An error ends the `sync_once`; the process stays. -/
  | fail
  | stop

abbrev Outcome := Except PyError Unit

def start (s : Service) (found : Signatures) : Outcome × Service :=
  (.ok (), { s with readiness := (Readiness.start s.readiness () found).2 })

/-- `_refresh_authority`, at the start of `sync_once`. -/
def refresh (s : Service) (found : Signatures) : Outcome × Service :=
  match s.stage, s.readiness.phase () with
  | .ready, .idle held =>
    (.ok (), { s with
      readiness := (Readiness.refresh s.readiness () found).2
      stage := if found = held then .ready else .changed })
  | _, _ => (.ok (), s)

/-- `_invalidate_learning_rewards`. -/
def invalidate (s : Service) : Outcome × Service :=
  match s.stage with
  | .changed => (.ok (), { s with control := s.control.map (·.invalidate), stage := .ready })
  | _ => (.ok (), s)

def fetch (s : Service) (batchSize : Int) : Outcome × Service :=
  match s.stage with
  | .ready => ((Readiness.fetch s.readiness () batchSize).1.map fun _ => (),
    { s with readiness := (Readiness.fetch s.readiness () batchSize).2 })
  | _ => (.ok (), s)

def apply (a : Authorities) (s : Service) (attribution : HostYear → Attribution) : Outcome × Service :=
  match s.stage, s.readiness.phase () with
  | .ready, .fetched _ _ _ =>
    match (Readiness.apply a s.readiness () attribution).1 with
    | .error err => (.error err, { s with readiness := (Readiness.apply a s.readiness () attribution).2 })
    | .ok _ => (.ok (), { s with readiness := (Readiness.apply a s.readiness () attribution).2, stage := .applied })
  | _, _ => (.ok (), s)

/-- `report`, beside the largest number of the evidence store. -/
def readReport (s : Service) : Outcome × Service :=
  match s.stage with
  | .applied =>
    match report s.readiness.ledger (maxHostYearSequence s.readiness.store.hostYears) with
    | .error err => (.error err, { s with stage := .ready })
    | .ok r => (.ok (), { s with stage := .reported r })
  | _ => (.ok (), s)

/-- `_publish_evidence_action_rewards`, for a report that has caught up. -/
def publish (s : Service) : Outcome × Service :=
  match s.stage with
  | .reported r =>
    match s.control with
    | none => (.ok (), { s with stage := .ready })
    | some c =>
      if r.latestEvidenceSequence ≤ r.evidenceCursor then
        ((c.publish r.taskKindAttribution r.signatures).1.map fun _ => (),
          { s with control := some (c.publish r.taskKindAttribution r.signatures).2, stage := .ready })
      else (.ok (), { s with stage := .ready })
  | _ => (.ok (), s)

/-- An error in a `sync_once`. -/
def fail (s : Service) : Outcome × Service :=
  match (s.readiness.phase ()).held with
  | none => (.ok (), s)
  | some held => (.ok (), { s with readiness := s.readiness.move () (.idle held), stage := .ready })

def stop (s : Service) : Outcome × Service :=
  (.ok (), { s with readiness := s.readiness.move () .down, stage := .ready })

def step (a : Authorities) (burns : Bool) (s : Service) : Action → Outcome × Service
  | .insert insertion =>
    ((Readiness.step a burns s.readiness (.insert insertion)).1.map fun _ => (),
      { s with readiness := (Readiness.step a burns s.readiness (.insert insertion)).2 })
  | .createControl => (.ok (), { s with control := some (s.control.getD ⟨none, .empty⟩) })
  | .start found => start s found
  | .refresh found => refresh s found
  | .invalidate => invalidate s
  | .fetch batchSize => fetch s batchSize
  | .apply attribution => apply a s attribution
  | .report => readReport s
  | .publish => publish s
  | .fail => fail s
  | .stop => stop s

def service (a : Authorities) (burns : Bool) : Machine Service Action Outcome where
  initial := ⟨(Readiness.runtimes Unit a burns).initial, .ready, none⟩
  step := step a burns

/-- One `sync_once`, which finds no other authority. -/
def syncOnce (found : Signatures) (batchSize : Int) (attribution : HostYear → Attribution) : List Action :=
  [.refresh found, .fetch batchSize, .apply attribution, .report, .publish]

/-! ## No stale reward -/

def Service.authority (s : Service) : Option Signatures := s.readiness.ledger.state.map (·.signatures)

/-- The signatures of the stored rewards; schedulers use no rewards without them. -/
def Service.rewarded (s : Service) : Option Signatures := s.control.bind (·.authority)

/-- The rewards are those of every action kind in a ledger that has caught up under some signatures. -/
structure Snapshot (s : Service) (held : Signatures) (rewards : Table RewardRow String (·.taskKind)) : Prop where
  current : ∃ state, s.readiness.ledger.state = some state ∧ state.signatures = held ∧
    maxHostYearSequence s.readiness.store.hostYears ≤ state.evidenceCursor
  rewards : ∀ kind, rewards.get? kind = if isActionKind kind then (s.readiness.ledger.taskKind.get? kind).map .of else none

/-- A process is up, and not about to invalidate the rewards of another authority. -/
def Settled (s : Service) : Prop := s.readiness.phase () ≠ .down ∧ s.stage ≠ .changed

/-- Rewards that schedulers may use carry the authority of the ledger and are those of a
    snapshot of the run that had caught up under it. -/
def NoStaleReward (a : Authorities) (burns : Bool) (es : List Action) : Prop :=
  Settled ((service a burns).final es) → ∀ c held, ((service a burns).final es).control = some c → c.authority = some held →
    ((service a burns).final es).authority = some held ∧
      ∃ earlier later, es = earlier ++ later ∧ Snapshot ((service a burns).final earlier) held c.rewards

/-- No stored rewards outlive a reset: none are there when a process starts under another
    authority than the ledger's, or leaves a `sync_once` before it invalidates them. -/
def Cold (s : Service) : Action → Prop
  | .start found => s.readiness.phase () = .down → s.authority ≠ some found → s.rewarded = none
  | .fail | .stop => s.stage = .changed → s.rewarded = none
  | _ => True

instance (s : Service) (e : Action) : Decidable (Cold s e) := by
  cases e <;> unfold Cold
  case start found =>
    cases here : s.readiness.phase () with
    | down =>
      exact decidable_of_iff (s.authority ≠ some found → s.rewarded = none) ⟨fun h _ => h, fun h => h rfl⟩
    | idle | refreshed | fetched => exact .isTrue nofun
  all_goals infer_instance

/-! ## Publication -/

theorem find_actions (rows : List (CountRow String)) (kind : String) :
    ((rows.filter (isActionKind ·.key)).map RewardRow.of).find? (fun row => row.taskKind = kind) =
      if isActionKind kind then (rows.find? (fun row => row.key = kind)).map .of else none := by
  rw [List.find?_map, List.find?_filter]
  have named : (fun row : CountRow String => isActionKind row.key && decide ((RewardRow.of row).taskKind = kind)) =
      fun row => decide (row.key = kind) && isActionKind kind := by
    funext row
    by_cases same : row.key = kind <;> simp [RewardRow.of, same]
  by_cases action : isActionKind kind = true
  · simp [named, action]
  · simp [named, action]

theorem publish_rewards (c : Control) (t : Counts String) (held : Signatures)
    (kinds : c.authority = some held → ∀ kind, c.rewards.get? kind ≠ none → isActionKind kind = true ∧ t.get? kind ≠ none) :
    (c.publish t.sorted.rows held).2 = c ∨
      ((c.publish t.sorted.rows held).2.authority = some held ∧ ∀ kind, (c.publish t.sorted.rows held).2.rewards.get? kind =
        if isActionKind kind then (t.get? kind).map .of else none) := by
  unfold Control.publish normalized
  split
  · exact .inl rfl
  · split
    · exact .inl rfl
    · rename_i rows given
      split at given
      · cases given
      · cases given
        refine .inr ⟨rfl, fun kind => ?_⟩
        have distinct : (((t.sorted.rows.filter (isActionKind ·.key)).map RewardRow.of).map (·.taskKind)).Nodup := by
          rw [List.map_map]
          exact t.sorted.keyed.sublist (List.filter_sublist.map _)
        refine (Table.get?_foldl_add _ _ _ distinct (c.base held) kind).trans ?_
        rw [find_actions, show t.sorted.rows.find? (fun row => row.key = kind) = t.get? kind from Table.get?_sorted t kind]
        cases old : (c.base held).get? kind with
        | none => simp
        | some row =>
          have name := Table.get?_key old
          unfold Control.base at old
          split at old
          · rename_i same
            obtain ⟨action, stored⟩ := kinds same kind (by simp [old])
            obtain ⟨new, found⟩ := Option.ne_none_iff_exists'.mp stored
            have newName : new.key = row.taskKind := (Table.get?_key found).trans name.symm
            simp [action, found, RewardRow.replace, RewardRow.of, newName]
          · cases old

/-! ## The invariant -/

section
variable (a : Authorities) (burns : Bool)

/-- A state of the run so far had a property. -/
def Past (es : List Action) (P : Service → Prop) : Prop :=
  ∃ earlier later, es = earlier ++ later ∧ P ((service a burns).final earlier)

/-- The rewards of a control store are backed by the ledger and a snapshot of the run. -/
structure Backed (es : List Action) (s : Service) (c : Control) (held : Signatures) : Prop where
  current : s.authority = some held
  snapshot : Past a burns es fun t => Snapshot t held c.rewards
  kinds : ∀ kind, c.rewards.get? kind ≠ none → isActionKind kind = true ∧ s.readiness.ledger.taskKind.get? kind ≠ none

structure Inv (es : List Action) (s : Service) : Prop where
  sole : Sole s.readiness
  down : s.readiness.phase () = .down → s.stage = .ready
  rewards : ∀ c held, s.control = some c → c.authority = some held → s.stage = .changed ∨ Backed a burns es s c held
  reported : ∀ r, s.stage = .reported r → Past a burns es fun t => t.readiness.ledger = s.readiness.ledger ∧
    report t.readiness.ledger (maxHostYearSequence t.readiness.store.hostYears) = .ok r

end

section
variable {a : Authorities} {burns : Bool} {es : List Action} {e : Action} {s s' : Service}

theorem Past.extend {P : Service → Prop} (past : Past a burns es P) (e : Action) : Past a burns (es ++ [e]) P := by
  obtain ⟨earlier, later, rfl, holds⟩ := past
  exact ⟨earlier, later ++ [e], by simp, holds⟩

theorem Past.now {P : Service → Prop} (holds : P ((service a burns).final es)) : Past a burns es P := ⟨es, [], by simp, holds⟩

/-- Steps that keep the signatures and the kinds of the ledger and touch no rewards. -/
theorem Inv.carry (inv : Inv a burns es s) (sole : Sole s'.readiness)
    (down : s'.readiness.phase () = .down → s'.stage = .ready)
    (control : ∀ c held, s'.control = some c → c.authority = some held → s.control = some c)
    (authority : s'.authority = s.authority)
    (kinds : ∀ kind, s.readiness.ledger.taskKind.get? kind ≠ none → s'.readiness.ledger.taskKind.get? kind ≠ none)
    (left : s.stage = .changed → s'.stage = .changed ∨ s.rewarded = none)
    (told : ∀ r, s'.stage = .reported r → s.stage = .reported r ∧ s'.readiness.ledger = s.readiness.ledger) :
    Inv a burns (es ++ [e]) s' where
  sole := sole
  down := down
  rewards c held stored given := by
    have before := control c held stored given
    rcases inv.rewards c held before given with changed | backed
    · rcases left changed with still | none_
      · exact .inl still
      · rw [Service.rewarded, before] at none_
        exact absurd (none_.symm.trans given) nofun
    · refine .inr ⟨authority.trans backed.current, backed.snapshot.extend e, fun kind has => ?_⟩
      obtain ⟨action, stored⟩ := backed.kinds kind has
      exact ⟨action, kinds kind stored⟩
  reported r here := by
    obtain ⟨before, ledger⟩ := told r here
    rw [ledger]
    exact (inv.reported r before).extend e

/-- Steps that leave no rewards. -/
theorem Inv.bare (sole : Sole s'.readiness) (down : s'.readiness.phase () = .down → s'.stage = .ready)
    (none_ : s'.rewarded = none) (told : ∀ r, s'.stage ≠ .reported r) :
    Inv a burns es s' where
  sole := sole
  down := down
  rewards c held stored given := by
    rw [Service.rewarded, stored] at none_
    exact absurd (none_.symm.trans given) nofun
  reported r here := absurd here (told r)

theorem fetch_ledger (s : Readiness.System Unit) (batchSize : Int) : (Readiness.fetch s () batchSize).2.ledger = s.ledger := by
  unfold Readiness.fetch
  split
  · split
    · rfl
    · split <;> rfl
  · rfl

theorem kinds_addAll {t : Counts String} (u : Counts String) {kind : String} (has : t.get? kind ≠ none) :
    (t.addAll u).get? kind ≠ none := by
  obtain ⟨row, found⟩ := Option.ne_none_iff_exists'.mp has
  rw [show (t.addAll u).get? kind = _ from Table.get?_addAll _ _ t u kind, found]
  cases u.get? kind <;> simp

theorem apply_ledger (a : Authorities) (s : Readiness.System Unit) (attribution : HostYear → Attribution) :
    (Readiness.apply a s () attribution).2.ledger.state.map (·.signatures) = s.ledger.state.map (·.signatures) ∧
      ∀ kind, s.ledger.taskKind.get? kind ≠ none → (Readiness.apply a s () attribution).2.ledger.taskKind.get? kind ≠ none := by
  unfold Readiness.apply
  cases here : s.phase () with
  | down => exact ⟨rfl, fun _ stored => stored⟩
  | idle held => exact ⟨rfl, fun _ stored => stored⟩
  | refreshed held => exact ⟨rfl, fun _ stored => stored⟩
  | fetched held cursor rows =>
    have answer := applyBatch_cases a s.ledger held rows attribution
    dsimp only
    generalize applyBatch a s.ledger held rows attribution = result at answer
    cases answer with
    | empty none_ => exact ⟨rfl, fun _ stored => stored⟩
    | refused err => exact ⟨rfl, fun _ stored => stored⟩
    | advanced state first last stored isFirst isLast beyond =>
      exact ⟨by rw [stored]; rfl, fun kind has => kinds_addAll _ has⟩

/-- Applying a batch ends in the phase before the next `sync_once`. -/
theorem apply_phase (s : Readiness.System Unit) {held : Signatures} {cursor : Nat} {rows : List HostYearRow}
    (here : s.phase () = .fetched held cursor rows) (attribution : HostYear → Attribution) :
    (Readiness.apply a s () attribution).2.phase () = .idle held := by
  unfold Readiness.apply
  rw [here]
  dsimp only
  split <;> exact Readiness.moved _ _

/-! ### One step -/

/-- A step that changes nothing. -/
theorem Inv.stay (inv : Inv a burns es s) : Inv a burns (es ++ [e]) s :=
  inv.carry inv.sole inv.down (fun _ _ stored _ => stored) rfl (fun _ stored => stored) .inl (fun _ told => ⟨told, rfl⟩)

/-- A step of the process that leaves the ledger, the stage and the rewards. -/
theorem Inv.advance (inv : Inv a burns es s) {readiness : Readiness.System Unit} (sole : Sole readiness)
    (down : readiness.phase () = .down → s.stage = .ready) (ledger : readiness.ledger = s.readiness.ledger) :
    Inv a burns (es ++ [e]) { s with readiness } := by
  refine inv.carry sole down (fun _ _ stored _ => stored) ?_ ?_ .inl (fun _ told => ⟨told, ledger⟩)
  · exact congrArg (fun l : Ledger => l.state.map (·.signatures)) ledger
  · intro kind stored
    show readiness.ledger.taskKind.get? kind ≠ none
    rw [ledger]
    exact stored

theorem Inv.start (inv : Inv a burns es s) (found : Signatures) (cold : Cold s (.start found)) :
    Inv a burns (es ++ [.start found]) (start s found).2 := by
  have sole : Sole (Readiness.start s.readiness () found).2 :=
    show Sole (Readiness.step a burns s.readiness (.start () found)).2 from inv.sole.step _
  by_cases here : s.readiness.phase () = .down
  · have started : (Readiness.start s.readiness () found).2 = (Readiness.ensure s.readiness () found (.idle found)).2 := by
      unfold Readiness.start
      rw [here]
    have ready := inv.down here
    have ledger : (Readiness.start s.readiness () found).2.ledger = (ensureAuthority s.readiness.ledger found).2 := by
      rw [started]
      rfl
    by_cases same : s.authority = some found
    · have kept : (ensureAuthority s.readiness.ledger found).2 = s.readiness.ledger := by
        obtain ⟨state, stored, signatures⟩ := Option.map_eq_some_iff.mp same
        simp [ensureAuthority, stored, signatures]
      exact inv.advance sole (fun _ => ready) (ledger.trans kept)
    · refine Inv.bare sole (fun _ => ready) (cold here same) fun r told => ?_
      cases ready.symm.trans told
  · have started : (Readiness.start s.readiness () found).2 = s.readiness := by
      unfold Readiness.start
      split
      · rename_i isDown
        exact absurd isDown here
      · rfl
    unfold ActionRewards.start
    rw [started]
    exact inv.stay

theorem Inv.refresh (inv : Inv a burns es s) (found : Signatures) :
    Inv a burns (es ++ [.refresh found]) (refresh s found).2 := by
  have sole := inv.sole.refresh found
  unfold ActionRewards.refresh
  split
  · rename_i held stage idle
    by_cases same : found = held
    · subst same
      have kept : (Readiness.refresh s.readiness () found).2.ledger = s.readiness.ledger := by
        unfold Readiness.refresh
        rw [idle]
        dsimp only
        rw [if_pos rfl]
        rfl
      rw [if_pos rfl, ← stage]
      exact inv.advance sole (fun _ => stage) kept
    · have phase := (Readiness.refresh_effect [] inv.sole idle found).1
      rw [if_neg same]
      refine ⟨sole, fun isDown => ?_, fun _ _ _ _ => .inl rfl, fun _ told => nomatch told⟩
      exact absurd (phase.symm.trans isDown) nofun
  · exact inv.stay

theorem Inv.invalidate (inv : Inv a burns es s) : Inv a burns (es ++ [.invalidate]) (invalidate s).2 := by
  unfold ActionRewards.invalidate
  split
  · refine Inv.bare inv.sole (fun _ => rfl) ?_ (fun _ => nofun)
    cases stored : s.control <;> simp [Service.rewarded, Control.invalidate]
  · exact inv.stay

theorem Inv.fetch (inv : Inv a burns es s) (batchSize : Int) :
    Inv a burns (es ++ [.fetch batchSize]) (fetch s batchSize).2 := by
  unfold ActionRewards.fetch
  split
  · rename_i stage
    exact inv.advance (inv.sole.fetch batchSize) (fun _ => stage) (fetch_ledger s.readiness batchSize)
  · exact inv.stay

theorem Inv.apply (inv : Inv a burns es s) (attribution : HostYear → Attribution) :
    Inv a burns (es ++ [.apply attribution]) (apply a s attribution).2 := by
  obtain ⟨authority, kinds⟩ := apply_ledger a s.readiness attribution
  have sole := inv.sole.apply (a := a) attribution
  unfold ActionRewards.apply
  split
  · rename_i held cursor rows stage here
    have up : ¬(Readiness.apply a s.readiness () attribution).2.phase () = .down := by
      rw [apply_phase s.readiness here]
      nofun
    have unchanged : ¬s.stage = .changed := by
      rw [stage]
      nofun
    split
    · refine inv.carry sole (fun isDown => absurd isDown up) (fun _ _ stored _ => stored) authority kinds .inl (fun r told => ?_)
      exact absurd (stage.symm.trans told) nofun
    · exact inv.carry sole (fun isDown => absurd isDown up) (fun _ _ stored _ => stored) authority kinds
        (fun changed => absurd changed unchanged) (fun _ told => nomatch told)
  · exact inv.stay

/-- A `sync_once` that is past its invalidation ends. -/
theorem Inv.finish (inv : Inv a burns es s) (unchanged : ¬s.stage = .changed) :
    Inv a burns (es ++ [e]) { s with stage := .ready } :=
  inv.carry inv.sole (fun _ => rfl) (fun _ _ stored _ => stored) rfl (fun _ stored => stored)
    (fun changed => absurd changed unchanged) (fun _ told => nomatch told)

theorem Inv.report (inv : Inv a burns es s) (now : s = (service a burns).final es) :
    Inv a burns (es ++ [.report]) (readReport s).2 := by
  unfold readReport
  split
  · rename_i stage
    have unchanged : ¬s.stage = .changed := by
      rw [stage]
      nofun
    split
    · exact inv.finish unchanged
    · rename_i r told
      refine ⟨inv.sole, fun isDown => ?_, fun c held stored given => ?_, fun r' same => ?_⟩
      · exact absurd (stage.symm.trans (inv.down isDown)) nofun
      · rcases inv.rewards c held stored given with changed | backed
        · exact absurd changed unchanged
        · exact .inr ⟨backed.current, backed.snapshot.extend _, backed.kinds⟩
      · cases same
        refine Past.extend (Past.now ?_) _
        rw [← now]
        exact ⟨rfl, told⟩
  · exact inv.stay

theorem Inv.published (inv : Inv a burns es s) {c : Control} (here : s.control = some c) {r : Report}
    (stage : s.stage = .reported r) (caughtUp : r.latestEvidenceSequence ≤ r.evidenceCursor) :
    Inv a burns (es ++ [e])
      { s with control := some (c.publish r.taskKindAttribution r.signatures).2, stage := .ready } := by
  have unchanged : ¬s.stage = .changed := by
    rw [stage]
    nofun
  obtain ⟨earlier, later, split, ledger, told⟩ := inv.reported r stage
  unfold ActionRewards.report at told
  cases stored : ((service a burns).final earlier).readiness.ledger.state with
  | none =>
    rw [stored] at told
    cases told
  | some state =>
    rw [stored] at told
    cases told
    have current : s.authority = some state.signatures := by
      rw [Service.authority, ← ledger, stored]
      rfl
    rw [ledger]
    have kinds : c.authority = some state.signatures → ∀ kind, c.rewards.get? kind ≠ none →
        isActionKind kind = true ∧ s.readiness.ledger.taskKind.get? kind ≠ none := by
      intro same kind has
      rcases inv.rewards c state.signatures here same with changed | backed
      · exact absurd changed unchanged
      · exact backed.kinds kind has
    rcases publish_rewards c s.readiness.ledger.taskKind state.signatures kinds with refused | ⟨authority, rewards⟩
    · rw [refused, ← here]
      exact inv.finish unchanged
    · refine ⟨inv.sole, fun _ => rfl, ?_, fun _ told => nomatch told⟩
      rintro _ held ⟨⟩ given
      rw [authority] at given
      cases given
      refine .inr ⟨current, ?_, fun kind has => ?_⟩
      · refine Past.extend ⟨earlier, later, split, ⟨state, stored, rfl, caughtUp⟩, fun kind => ?_⟩ _
        rw [ledger]
        exact rewards kind
      · rw [rewards kind] at has
        split at has
        · rename_i action
          refine ⟨action, fun none_ => has ?_⟩
          rw [none_]
          rfl
        · exact absurd rfl has

theorem Inv.publish (inv : Inv a burns es s) : Inv a burns (es ++ [.publish]) (publish s).2 := by
  unfold ActionRewards.publish
  split
  · rename_i r stage
    have unchanged : ¬s.stage = .changed := by
      rw [stage]
      nofun
    split
    · exact inv.finish unchanged
    · rename_i c here
      split
      · rename_i caughtUp
        exact inv.published here stage caughtUp
      · exact inv.finish unchanged
  · exact inv.stay

/-- Leaving a `sync_once` from anywhere. -/
theorem Inv.leave (inv : Inv a burns es s) {phase : Phase} (sole : Sole (s.readiness.move () phase))
    (cold : s.stage = .changed → s.rewarded = none) :
    Inv a burns (es ++ [e]) { s with readiness := s.readiness.move () phase, stage := .ready } :=
  inv.carry sole (fun _ => rfl) (fun _ _ stored _ => stored) rfl (fun _ stored => stored)
    (fun changed => .inr (cold changed)) (fun _ told => nomatch told)

theorem Inv.createControl (inv : Inv a burns es s) :
    Inv a burns (es ++ [e]) { s with control := some (s.control.getD ⟨none, .empty⟩) } := by
  refine inv.carry inv.sole inv.down ?_ rfl (fun _ stored => stored) .inl (fun _ told => ⟨told, rfl⟩)
  rintro c held ⟨⟩ given
  cases before : s.control with
  | some old => rfl
  | none =>
    rw [before] at given
    cases given

theorem Inv.step (inv : Inv a burns es s) (now : s = (service a burns).final es) (e : Action) (cold : Cold s e) :
    Inv a burns (es ++ [e]) (step a burns s e).2 := by
  cases e with
  | insert insertion => exact inv.advance (inv.sole.step (.insert insertion)) inv.down rfl
  | createControl => exact inv.createControl
  | start found => exact inv.start found cold
  | refresh found => exact inv.refresh found
  | invalidate => exact inv.invalidate
  | fetch batchSize => exact inv.fetch batchSize
  | apply attribution => exact inv.apply attribution
  | report => exact inv.report now
  | publish => exact inv.publish
  | fail =>
    show Inv a burns _ (ActionRewards.fail s).2
    unfold ActionRewards.fail
    split
    · exact inv.stay
    · rename_i held isHeld
      exact inv.leave (inv.sole.keep isHeld.symm nofun) cold
  | stop => exact inv.leave (Sole.move s.readiness nofun nofun) cold

end

/-! ## Runs -/

/-- The invariant of runs in which no rewards outlive a reset. -/
theorem inv_run (a : Authorities) (burns : Bool) (es : List Action)
    (cold : ∀ r ∈ (service a burns).trace es, Cold r.before r.event) : Inv a burns es ((service a burns).final es) := by
  induction es using List.reverseRecOn with
  | nil => exact ⟨⟨nofun, nofun⟩, fun _ => rfl, nofun, nofun⟩
  | append_singleton es e ih =>
    rw [Machine.trace_snoc] at cold
    have before := ih fun r member => cold r (List.mem_append_left _ member)
    rw [Machine.final_snoc]
    exact before.step rfl e (cold _ (List.mem_append_right _ List.mem_cons_self))

theorem rewards_current (a : Authorities) (burns : Bool) (es : List Action)
    (cold : ∀ r ∈ (service a burns).trace es, Cold r.before r.event) (before after : List Action)
    (split : es = before ++ after) : NoStaleReward a burns before := by
  subst split
  have inv := inv_run a burns before fun r member => cold r (by
    rw [Machine.trace_append]
    exact List.mem_append_left _ member)
  rintro ⟨-, unchanged⟩ c held stored given
  rcases inv.rewards c held stored given with changed | backed
  · exact absurd changed unchanged
  · exact ⟨backed.current, backed.snapshot⟩

/-! ## A start under another authority -/

open Creeper.Readiness (twoBaselines capsuleA capsuleOf)

def capsuleB : EvidenceCapsule := ⟨capsuleOf "b.com", by decide +kernel, by decide +kernel⟩

/-- Every host-year comes from an exact query. -/
def exactly : HostYear → Attribution := fun _ => ⟨none, some "exact", none⟩

/-- Two host-years are judged under the baseline `x`, and their rewards published. -/
def rewardedUnderX : List Action :=
  [.createControl, .insert (.putMany [capsuleA, capsuleB] none), .start ⟨"x", "m"⟩] ++ syncOnce ⟨"x", "m"⟩ 10 exactly

/-- The baseline changes while the process runs. -/
def changedWhileUp : List Action :=
  rewardedUnderX ++ [.refresh ⟨"y", "m"⟩, .invalidate, .fetch 10, .apply exactly, .report, .publish]

theorem changedWhileUp_current : NoStaleReward twoBaselines false changedWhileUp ∧
    ((service twoBaselines false).final changedWhileUp).rewarded = some ⟨"y", "m"⟩ := by
  have cold : ∀ r ∈ (service twoBaselines false).trace changedWhileUp, Cold r.before r.event := by decide +kernel
  exact ⟨rewards_current twoBaselines false changedWhileUp cold changedWhileUp [] (List.append_nil _).symm, by decide +kernel⟩

/-- The process is restarted under the baseline `y`, and has judged one of the two host-years. -/
def restartedUnderY : List Action :=
  rewardedUnderX ++ [.stop, .start ⟨"y", "m"⟩] ++ syncOnce ⟨"y", "m"⟩ 1 exactly

theorem restart_keeps_rewards : ¬∀ es, NoStaleReward twoBaselines false es := by
  intro noStale
  have settled : (((service twoBaselines false).final restartedUnderY).readiness.phase ()).held = some ⟨"y", "m"⟩ ∧
      ((service twoBaselines false).final restartedUnderY).stage = .ready := by decide +kernel
  have old : ((service twoBaselines false).final restartedUnderY).rewarded = some ⟨"x", "m"⟩ := by decide +kernel
  have now : ((service twoBaselines false).final restartedUnderY).authority = some ⟨"y", "m"⟩ := by decide +kernel
  obtain ⟨c, stored, given⟩ := Option.bind_eq_some_iff.mp old
  have up : Settled ((service twoBaselines false).final restartedUnderY) := by
    refine ⟨?_, ?_⟩
    · intro down
      rw [down] at settled
      exact absurd settled.1 nofun
    · rw [settled.2]
      nofun
  have current := (noStale restartedUnderY up c _ stored given).1
  rw [now] at current
  exact absurd current (by decide +kernel)

end Creeper.ActionRewards
