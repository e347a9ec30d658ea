import Creeper.Checkpoints
import Creeper.EvidenceBridge
import Creeper.Runs

/-!
# The baseline index

`BaselineIndex.build` imports the yearly hostname files and the candidate pool in batches, each
committed with its line offset. However often a build was interrupted, and whatever the batch
sizes were, a build that completes leaves the sets of the files, and the batched lookups answer as
the single ones do.
-/

namespace Creeper.BaselineIndex
open Creeper.Tables Creeper.Transactions Creeper.Checkpoints
open Creeper.EvidenceBridge (Python)
open Creeper.FabricModels (PyError)

/-! ## The index -/

/-- A stage of a build: `year:{year}` or `candidate_pool`. -/
inductive Stage
  | year (year : Nat)
  | candidatePool
  deriving DecidableEq

/-- A row of `import_state`. -/
structure StageRow where
  stage : Stage
  lineOffset : Nat
  completed : Bool

structure Index where
  annualHostnames : Table (String × Nat) String (·.1)
  candidateHostnames : Table String String fun h => h
  importState : Table StageRow Stage (·.stage)

def Index.empty : Index := ⟨.empty, .empty, .empty⟩

/-- The years of `YEAR_BITS`. -/
def years : List Nat := [1996, 1997, 1998, 1999, 2000, 2001]

/-- `YEAR_BITS`. -/
def yearBit (year : Nat) : Nat := 1 <<< (year - 1996)

/-- `get_state`. -/
def getState (s : Index) (stage : Stage) : Nat × Bool := ((s.importState.get? stage).map fun r => (r.lineOffset, r.completed)).getD (0, false)

/-- The upsert of `annual_sql`. -/
def putAnnual (year : Nat) (t : Table (String × Nat) String (·.1)) (hostname : String) : Table (String × Nat) String (·.1) :=
  t.upsert (hostname, yearBit year) fun row => (row.1, row.2 ||| yearBit year)

/-- The statement of a stage, executed for every hostname of a batch. -/
def insertAll (stage : Stage) (batch : List String) (s : Index) : Index :=
  match stage with
  | .year year => { s with annualHostnames := batch.foldl (putAnnual year) s.annualHostnames }
  | .candidatePool => { s with candidateHostnames := batch.foldl (fun t h => t.insert h) s.candidateHostnames }

/-- The transaction of a batch, with `save_state`. -/
def commitBatch (stage : Stage) (batch : List String) (offset : Nat) (completed : Bool) (s : Index) : Index :=
  { insertAll stage batch s with
    importState := s.importState.upsert ⟨stage, offset, completed⟩ fun row => { row with lineOffset := offset, completed } }

/-! ## Builds -/

/-- The lines of the files of a baseline. -/
abbrev Files := Stage → List String

section
variable (p : Python) (files : Files)

/-- `import_file`. -/
def importFile (batchSize : Nat) (stage : Stage) : Script Index Unit :=
  .txn id fun s =>
    if (getState s stage).2 then .done ()
    else importLines p.normalizeOfficial (commitBatch stage) batchSize (getState s stage).1 [] ((files stage).drop (getState s stage).1)

/-- The files of a build, one after the other. -/
def importAll (batchSize : Nat) : List Stage → Script Index Unit
  | [] => .done ()
  | stage :: rest => (importFile p files batchSize stage).bind fun _ => importAll batchSize rest

def stages : List Stage := years.map Stage.year ++ [.candidatePool]

/-- A run of `build`: it is interrupted after some transactions, or runs to its end. -/
structure BuildRun where
  batchSize : Int
  cut : Option Nat

/-- `build`; an interrupted run has no answer. -/
def build (s : Index) (run : BuildRun) : Option (Except PyError Unit) × Index :=
  if run.batchSize < 1 then (some (.error (.valueError "batch_size must be positive")), s)
  else
    match run.cut with
    | none => (some (.ok ()), ((importAll p files run.batchSize.toNat stages).run s).2)
    | some n => (none, Script.stopped n (importAll p files run.batchSize.toNat stages) s)

def builds : Runs.Machine Index BuildRun (Option (Except PyError Unit)) := ⟨.empty, build p files⟩

/-! ## Lookups -/

variable (s : Index)

def maskIn (row : Option (String × Nat)) : Nat := (row.map (·.2)).getD 0

/-- `year_mask`. -/
def yearMask (hostname : String) : Nat :=
  match p.normalizeOfficial hostname with
  | none => 0
  | some value => maskIn (s.annualHostnames.get? value)

/-- `is_official_candidate`. -/
def isOfficialCandidate (hostname : String) : Bool :=
  match p.normalizeOfficial hostname with
  | none => false
  | some value => (s.candidateHostnames.get? value).isSome

def slices {α : Type} (size : Nat) : Nat → List α → List (List α)
  | 0, _ | _, [] => []
  | n + 1, x :: rest => (x :: rest).take size :: slices size n ((x :: rest).drop size)

/-- The answers for a chunk of normalized hostnames. -/
def resolveChunk (batch : List String) : List (String × (Nat × Bool)) :=
  let annual := s.annualHostnames.rows.filter fun row => batch.contains row.1
  let candidates := s.candidateHostnames.rows.filter batch.contains
  batch.map fun hostname => (hostname, maskIn (annual.find? (·.1 = hostname)), candidates.contains hostname)

/-- The valid hostnames of a batch, normalized and each once. -/
def normalized (hostnames : List String) : List String := (hostnames.filterMap p.normalizeOfficial).eraseDups

/-- `resolve_batch`, as the items of its dict. -/
def resolveBatch (hostnames : List String) (chunkSize : Int) : Except PyError (List (String × (Nat × Bool))) :=
  if chunkSize < 1 || 900 < chunkSize then .error (.valueError "chunk_size must be between 1 and 900")
  else .ok ((slices chunkSize.toNat (normalized p hostnames).length (normalized p hostnames)).flatMap (resolveChunk s))

/-- `iter_resolve_batches`: the dicts that it yields. -/
def iterResolveBatches (hostnames : List String) (inputBatchSize chunkSize : Int) : Except PyError (List (List (String × (Nat × Bool)))) :=
  if inputBatchSize < 1 then .error (.valueError "input_batch_size must be positive")
  else do
    let resolved ← (slices inputBatchSize.toNat hostnames.length hostnames).mapM fun batch => resolveBatch p s batch chunkSize
    return resolved.filter (· ≠ [])

end

/-! ## What an index holds -/

section
variable (p : Python) (files : Files)

def hosts (lines : List String) : List String := lines.filterMap p.normalizeOfficial

def mask (s : Index) (hostname : String) : Nat := maskIn (s.annualHostnames.get? hostname)

def imported (s : Index) (stage : Stage) : List String := (files stage).take (getState s stage).1

/-- An index holds the lines before its offsets, and a completed stage is behind its last line. -/
structure Holds (s : Index) : Prop where
  inside : ∀ stage, (getState s stage).1 ≤ (files stage).length
  completed : ∀ stage, (getState s stage).2 = true → (getState s stage).1 = (files stage).length
  masks : ∀ hostname i, (mask s hostname).testBit i ↔ ∃ year ∈ years, i = year - 1996 ∧ hostname ∈ hosts p (imported files s (.year year))
  pool : ∀ hostname, (s.candidateHostnames.get? hostname).isSome ↔ hostname ∈ hosts p (imported files s .candidatePool)

/-- The index holds what was imported, and some stages are completed. -/
structure Keeps (done : List Stage) (s : Index) : Prop extends Holds p files s where
  done : ∀ stage ∈ done, getState s stage = ((files stage).length, true)

/-- A stage has a position in such an index. -/
def Stands (done : List Stage) (stage : Stage) (offset : Nat) (completed : Bool) (s : Index) : Prop :=
  Keeps p files done s ∧ getState s stage = (offset, completed)

theorem mask_putAnnual (year : Nat) (batch : List String) (t : Table (String × Nat) String (·.1)) (hostname : String) (i : Nat) :
    (maskIn ((batch.foldl (putAnnual year) t).get? hostname)).testBit i ↔
      (maskIn (t.get? hostname)).testBit i ∨ hostname ∈ batch ∧ i = year - 1996 := by
  induction batch generalizing t with
  | nil => simp
  | cons h rest ih =>
    have bit (i : Nat) : (yearBit year).testBit i ↔ i = year - 1996 := by
      unfold yearBit
      generalize year - 1996 = n
      rw [Nat.one_shiftLeft, Nat.testBit_two_pow, decide_eq_true_eq, eq_comm]
    have first : (maskIn ((putAnnual year t h).get? hostname)).testBit i ↔
        (maskIn (t.get? hostname)).testBit i ∨ hostname = h ∧ i = year - 1996 := by
      unfold putAnnual
      rw [Table.get?_upsert]
      by_cases here : hostname = h
      · subst here
        rw [if_pos rfl]
        cases t.get? hostname with
        | none => simp [maskIn, bit]
        | some row => simp [maskIn, bit]
      · rw [if_neg here]
        simp [here]
    rw [List.foldl_cons, ih, List.mem_cons, or_and_right, ← or_assoc, first]

theorem getState_commit (stage : Stage) (batch : List String) (offset : Nat) (completed : Bool) (s : Index) (other : Stage) :
    getState (commitBatch stage batch offset completed s) other = if other = stage then (offset, completed) else getState s other := by
  unfold commitBatch getState
  dsimp only
  rw [Table.get?_upsert]
  by_cases same : other = stage
  · subst same
    rw [if_pos rfl, if_pos rfl]
    cases s.importState.get? other <;> rfl
  · rw [if_neg same, if_neg same]

theorem imported_commit (stage : Stage) (batch : List String) (offset : Nat) (completed : Bool) (s : Index) (other : Stage) :
    imported files (commitBatch stage batch offset completed s) other =
      if other = stage then (files stage).take offset else imported files s other := by
  unfold imported
  rw [getState_commit]
  by_cases same : other = stage
  · rw [if_pos same, if_pos same, same]
  · rw [if_neg same, if_neg same]

theorem mem_hosts_take (lines : List String) {offset current : Nat} (ahead : offset ≤ current) (hostname : String) :
    hostname ∈ hosts p (lines.take current) ↔
      hostname ∈ hosts p (lines.take offset) ∨ hostname ∈ ((lines.take current).drop offset).filterMap p.normalizeOfficial := by
  have split : lines.take current = lines.take offset ++ (lines.take current).drop offset := by
    have cut := List.take_append_drop offset (lines.take current)
    rw [List.take_take, min_eq_left ahead] at cut
    exact cut.symm
  rw [hosts, hosts, ← List.mem_append, ← List.filterMap_append, ← split]

theorem commit_stands (done : List Stage) {stage : Stage} (known : stage ∈ stages) :
    Commits p.normalizeOfficial (commitBatch stage) (files stage) (Stands p files done stage) := by
  refine ⟨fun offset current finished s ahead inside whole ⟨⟨holds, ended⟩, state⟩ => ⟨⟨?_, ?_⟩, by rw [getState_commit, if_pos rfl]⟩⟩
  swap
  · intro other member
    have completed_ := ended other member
    rw [getState_commit]
    by_cases same : other = stage
    · rw [same, state] at completed_
      cases completed_
    · rw [if_neg same]
      exact completed_
  have before : imported files s stage = (files stage).take offset := by rw [imported, state]
  have more := mem_hosts_take p (files stage) ahead
  generalize (((files stage).take current).drop offset).filterMap p.normalizeOfficial = batch at more
  have state' := getState_commit stage batch current finished s
  have lines' := imported_commit files stage batch current finished s
  refine ⟨fun other => ?_, fun other done => ?_, fun hostname i => ?_, fun hostname => ?_⟩
  · rw [state']
    by_cases same : other = stage
    · rw [if_pos same, same]
      exact inside
    · rw [if_neg same]
      exact holds.inside other
  · rw [state'] at done ⊢
    by_cases same : other = stage
    · rw [if_pos same] at done ⊢
      rw [same]
      exact whole done
    · rw [if_neg same] at done ⊢
      exact holds.completed other done
  · have old := holds.masks hostname i
    cases stage with
    | candidatePool =>
      refine old.trans (exists_congr fun year => and_congr_right fun _ => and_congr_right fun _ => ?_)
      rw [lines', if_neg nofun]
    | year new =>
      refine (mask_putAnnual new batch s.annualHostnames hostname i).trans ?_
      rw [show (maskIn (s.annualHostnames.get? hostname)).testBit i ↔ _ from old]
      have here : new ∈ years := by simpa [stages] using known
      constructor
      · rintro (⟨year, listed, bit, member⟩ | ⟨member, bit⟩)
        · refine ⟨year, listed, bit, ?_⟩
          rw [lines']
          by_cases same : Stage.year year = .year new
          · rw [if_pos same]
            rw [same, before] at member
            exact (more hostname).mpr (.inl member)
          · rw [if_neg same]
            exact member
        · exact ⟨new, here, bit, by rw [lines', if_pos rfl]; exact (more hostname).mpr (.inr member)⟩
      · rintro ⟨year, listed, bit, member⟩
        rw [lines'] at member
        by_cases same : Stage.year year = .year new
        · rw [if_pos same] at member
          cases same
          rcases (more hostname).mp member with member | member
          · exact .inl ⟨new, listed, bit, by rw [before]; exact member⟩
          · exact .inr ⟨member, bit⟩
        · rw [if_neg same] at member
          exact .inl ⟨year, listed, bit, member⟩
  · cases stage with
    | year new =>
      rw [lines', if_neg nofun]
      exact holds.pool hostname
    | candidatePool =>
      rw [lines', if_pos rfl, more, ← before, ← holds.pool]
      change ((batch.foldl (fun t h => t.insert h) s.candidateHostnames).get? hostname).isSome ↔ _
      rw [Table.get?_foldl_insert batch (fun h => h)]
      by_cases stored : (s.candidateHostnames.get? hostname).isSome
      · rw [Option.isSome_or, stored]
        simp
      · have absent : s.candidateHostnames.get? hostname = none := by simpa using stored
        rw [absent]
        simp

theorem importFile_keeps (batchSize : Nat) {done : List Stage} {stage : Stage} (known : stage ∈ stages) {s : Index} (keeps : Keeps p files done s) :
    Survives (Keeps p files done) (importFile p files batchSize stage) s ∧
      Keeps p files (stage :: done) ((importFile p files batchSize stage).run s).2 := by
  have state : getState s stage = ((getState s stage).1, (getState s stage).2) := rfl
  unfold importFile
  rw [Script.run]
  cases completed : (getState s stage).2 with
  | true =>
    refine ⟨survives_txn keeps ?_, ?_⟩
    · rw [completed, if_pos rfl]
      exact survives_done keeps ()
    · rw [if_pos rfl]
      have ended : getState s stage = ((files stage).length, true) := by rw [state, completed, keeps.completed stage completed]
      exact ⟨keeps.toHolds, List.forall_mem_cons.mpr ⟨ended, keeps.done⟩⟩
  | false =>
    rw [completed] at state
    obtain ⟨survives, stands⟩ := import_holds (commit_stands p files done known) batchSize _ (keeps.inside stage) ⟨keeps, state⟩
    refine ⟨survives_txn keeps ?_, ?_⟩
    · rw [completed, if_neg Bool.false_ne_true]
      intro n
      obtain ⟨_, _, stands⟩ := survives n
      exact stands.1
    · rw [if_neg Bool.false_ne_true]
      exact ⟨stands.1.toHolds, List.forall_mem_cons.mpr ⟨stands.2, stands.1.done⟩⟩

theorem Keeps.of_perm {done done' : List Stage} {s : Index} (keeps : Keeps p files done s) (fewer : ∀ stage ∈ done', stage ∈ done) :
    Keeps p files done' s :=
  ⟨keeps.toHolds, fun stage member => keeps.done stage (fewer stage member)⟩

theorem importAll_keeps (batchSize : Nat) (line : List Stage) (known : ∀ stage ∈ line, stage ∈ stages) {done : List Stage} {s : Index}
    (keeps : Keeps p files done s) : Survives (Keeps p files done) (importAll p files batchSize line) s ∧
      Keeps p files (line ++ done) ((importAll p files batchSize line).run s).2 := by
  induction line generalizing done s with
  | nil => exact ⟨survives_done keeps (), keeps⟩
  | cons stage rest ih =>
    obtain ⟨here, there⟩ := List.forall_mem_cons.mp known
    obtain ⟨first, after⟩ := importFile_keeps p files batchSize here keeps
    obtain ⟨later, ended⟩ := ih there after
    unfold importAll
    refine ⟨survives_bind first fun n => ?_, ?_⟩
    · exact (later n).of_perm p files fun other member => List.mem_cons_of_mem _ member
    · rw [Script.run_bind]
      refine ended.of_perm p files fun other member => ?_
      simp only [List.cons_append, List.mem_cons, List.mem_append] at member ⊢
      tauto

/-! ## Builds and lookups -/

theorem build_holds {s : Index} (holds : Holds p files s) (run : BuildRun) : Holds p files (build p files s run).2 := by
  obtain ⟨survives, ended⟩ := importAll_keeps p files run.batchSize.toNat stages (fun _ member => member) (⟨holds, nofun⟩ : Keeps p files [] s)
  unfold build
  split
  · exact holds
  split
  · exact ended.toHolds
  · exact (survives _).toHolds

theorem empty_holds : Holds p files .empty := by
  have start (stage : Stage) : getState .empty stage = (0, false) := rfl
  refine ⟨fun stage => ?_, fun stage done => ?_, fun hostname i => ?_, fun hostname => ?_⟩
  · rw [start]
    exact Nat.zero_le _
  · rw [start] at done
    cases done
  · refine iff_of_false (by simp [mask, maskIn, Index.empty]) ?_
    rintro ⟨year, -, -, member⟩
    simp [imported, start, hosts] at member
  · refine iff_of_false (by simp [Index.empty]) ?_
    simp [imported, start, hosts]

theorem builds_hold (runs : List BuildRun) : Holds p files ((builds p files).final runs) := by
  induction runs using List.reverseRecOn with
  | nil => exact empty_holds p files
  | append_singleton runs run ih =>
    rw [Runs.Machine.final_snoc]
    exact build_holds p files ih run

/-- The index says what the files say. -/
structure Complete (s : Index) : Prop where
  masks : ∀ hostname i, (mask s hostname).testBit i ↔
    ∃ year ∈ years, i = year - 1996 ∧ ∃ line ∈ files (.year year), p.normalizeOfficial line = some hostname
  pool : ∀ hostname, (s.candidateHostnames.get? hostname).isSome ↔ ∃ line ∈ files .candidatePool, p.normalizeOfficial line = some hostname

theorem build_completes {s : Index} (holds : Holds p files s) {run : BuildRun} (whole : run.cut = none) (positive : 1 ≤ run.batchSize) :
    Complete p files (build p files s run).2 := by
  obtain ⟨-, ended⟩ := importAll_keeps p files run.batchSize.toNat stages (fun _ member => member) (⟨holds, nofun⟩ : Keeps p files [] s)
  unfold build
  rw [if_neg (by omega), whole]
  dsimp only
  generalize ((importAll p files run.batchSize.toNat stages).run s).2 = s' at ended
  have all {stage : Stage} (member : stage ∈ stages) : imported files s' stage = files stage := by
    unfold imported
    rw [ended.done stage (List.mem_append_left _ member)]
    exact List.take_length
  refine ⟨fun hostname i => ?_, fun hostname => ?_⟩
  · rw [ended.masks]
    refine exists_congr fun year => and_congr_right fun listed => and_congr_right fun _ => ?_
    rw [all (List.mem_append_left _ (List.mem_map_of_mem listed)), hosts, List.mem_filterMap]
  · rw [ended.pool, all (List.mem_append_right _ (List.mem_singleton_self _)), hosts, List.mem_filterMap]

end

/-! ## Lookups in batches -/

theorem flatten_slices {α : Type} {size : Nat} (positive : 1 ≤ size) (n : Nat) (items : List α) (enough : items.length ≤ n) :
    (slices size n items).flatten = items := by
  induction n generalizing items with
  | zero => rw [List.length_eq_zero_iff.mp (Nat.le_zero.mp enough), slices, List.flatten_nil]
  | succ n ih =>
    cases items with
    | nil => rfl
    | cons x rest =>
      have shorter : ((x :: rest).drop size).length ≤ n := by
        rw [List.length_drop, List.length_cons] at *
        omega
      rw [slices, List.flatten_cons, ih _ shorter, List.take_append_drop]

section
variable (p : Python) (s : Index)

/-- The answer of the single lookups. -/
def answer (hostname : String) : Nat × Bool := (mask s hostname, (s.candidateHostnames.get? hostname).isSome)

theorem single_answer {raw value : String} (official : p.normalizeOfficial raw = some value) :
    (yearMask p s raw, isOfficialCandidate p s raw) = answer s value := by
  rw [yearMask, isOfficialCandidate, official]
  rfl

theorem resolveChunk_eq (batch : List String) : resolveChunk s batch = batch.map fun hostname => (hostname, answer s hostname) := by
  refine List.map_congr_left fun hostname member => ?_
  have annual : (s.annualHostnames.rows.filter fun row => batch.contains row.1).find? (·.1 = hostname) = s.annualHostnames.get? hostname := by
    rw [List.find?_filter]
    refine List.find?_congr fun row _ => ?_
    by_cases same : row.1 = hostname
    · simp [same, member]
    · simp [same]
  have pool : (s.candidateHostnames.rows.filter batch.contains).contains hostname = (s.candidateHostnames.get? hostname).isSome := by
    rw [Bool.eq_iff_iff, List.contains_iff_mem, List.mem_filter, Table.get?, List.find?_isSome]
    simp [member]
  rw [annual, pool]
  rfl

theorem resolveBatch_eq (hostnames : List String) {chunkSize : Int} (positive : 1 ≤ chunkSize) (small : chunkSize ≤ 900) :
    resolveBatch p s hostnames chunkSize = .ok ((normalized p hostnames).map fun hostname => (hostname, answer s hostname)) := by
  have valid : ¬(decide (chunkSize < 1) || decide (900 < chunkSize)) = true := by simp; omega
  have chunks : (slices chunkSize.toNat (normalized p hostnames).length (normalized p hostnames)).flatten = normalized p hostnames :=
    flatten_slices (by omega) _ _ le_rfl
  unfold resolveBatch
  rw [if_neg valid, show resolveChunk s = fun batch => _ from funext (resolveChunk_eq s), List.flatMap_def, ← List.map_flatten, chunks]

/-- The dicts answer for the hostnames of a list as the single lookups do, and for no others. -/
structure Agrees (hostnames : List String) (dicts : List (List (String × (Nat × Bool)))) : Prop where
  keyed : ∀ dict ∈ dicts, (dict.map (·.1)).Nodup
  answered : ∀ raw ∈ hostnames, ∀ value, p.normalizeOfficial raw = some value →
    ∃ dict ∈ dicts, (value, yearMask p s raw, isOfficialCandidate p s raw) ∈ dict
  asked : ∀ dict ∈ dicts, ∀ item ∈ dict, ∃ raw ∈ hostnames, p.normalizeOfficial raw = some item.1 ∧
    item.2 = (yearMask p s raw, isOfficialCandidate p s raw)

/-- The dicts of slices answer for their hostnames. -/
theorem resolve_agrees (batches : List (List String)) : Agrees p s batches.flatten
    (batches.map fun batch => (normalized p batch).map fun hostname => (hostname, answer s hostname)) := by
  refine ⟨fun dict member => ?_, fun raw given value official => ?_, fun dict member item inside => ?_⟩
  · obtain ⟨batch, -, rfl⟩ := List.mem_map.mp member
    rw [List.map_map]
    exact (EvidenceQueue.nodup_eraseDups _).map fun _ _ same => same
  · obtain ⟨batch, there, inBatch⟩ := List.mem_flatten.mp given
    have known : value ∈ normalized p batch := List.mem_eraseDups.mpr (List.mem_filterMap.mpr ⟨raw, inBatch, official⟩)
    refine ⟨_, List.mem_map_of_mem there, List.mem_map.mpr ⟨value, known, ?_⟩⟩
    rw [← single_answer p s official]
  · obtain ⟨batch, there, rfl⟩ := List.mem_map.mp member
    obtain ⟨value, known, rfl⟩ := List.mem_map.mp inside
    obtain ⟨raw, inBatch, official⟩ := List.mem_filterMap.mp (List.mem_eraseDups.mp known)
    exact ⟨raw, List.mem_flatten.mpr ⟨batch, there, inBatch⟩, official, (single_answer p s official).symm⟩

variable {p s} in
theorem Agrees.without_empty {hostnames : List String} {dicts : List (List (String × (Nat × Bool)))} (agrees : Agrees p s hostnames dicts) :
    Agrees p s hostnames (dicts.filter (· ≠ [])) := by
  refine ⟨fun dict member => agrees.keyed dict (List.mem_of_mem_filter member), fun raw given value official => ?_,
    fun dict member => agrees.asked dict (List.mem_of_mem_filter member)⟩
  obtain ⟨dict, there, inside⟩ := agrees.answered raw given value official
  exact ⟨dict, List.mem_filter.mpr ⟨there, decide_eq_true (List.ne_nil_of_mem inside)⟩, inside⟩

theorem iterResolve_eq (hostnames : List String) {inputBatchSize chunkSize : Int} (batched : 1 ≤ inputBatchSize) (positive : 1 ≤ chunkSize)
    (small : chunkSize ≤ 900) : iterResolveBatches p s hostnames inputBatchSize chunkSize =
      .ok (((slices inputBatchSize.toNat hostnames.length hostnames).map fun batch =>
        (normalized p batch).map fun hostname => (hostname, answer s hostname)).filter (· ≠ [])) := by
  have all (batches : List (List String)) : (batches.mapM fun batch => resolveBatch p s batch chunkSize) =
      .ok (batches.map fun batch => (normalized p batch).map fun hostname => (hostname, answer s hostname)) := by
    induction batches with
    | nil => rfl
    | cons batch rest ih =>
      rw [List.mapM_cons, resolveBatch_eq p s batch positive small, ih]
      rfl
  unfold iterResolveBatches
  rw [if_neg (by omega), all]
  rfl

end

/-- However often builds were interrupted, one that completes leaves the sets of the files, and the lookups agree. -/
theorem baseline_index_faithful (p : Python) (files : Files) (runs : List BuildRun) (last : BuildRun) (whole : last.cut = none)
    (positive : 1 ≤ last.batchSize) :
    Complete p files ((builds p files).final (runs ++ [last])) ∧ ∀ (s : Index) (hostnames : List String) (chunkSize : Int), 1 ≤ chunkSize →
      chunkSize ≤ 900 → (∃ dict, resolveBatch p s hostnames chunkSize = .ok dict ∧ Agrees p s hostnames [dict]) ∧
        ∀ inputBatchSize, 1 ≤ inputBatchSize → ∃ dicts, iterResolveBatches p s hostnames inputBatchSize chunkSize = .ok dicts ∧
          Agrees p s hostnames dicts := by
  refine ⟨?_, fun s hostnames chunkSize sized small => ⟨⟨_, resolveBatch_eq p s hostnames sized small, ?_⟩, fun inputBatchSize batched => ?_⟩⟩
  · rw [Runs.Machine.final_snoc]
    exact build_completes p files (builds_hold p files runs) whole positive
  · have agrees := resolve_agrees p s [hostnames]
    rw [List.flatten_singleton] at agrees
    exact agrees
  · refine ⟨_, iterResolve_eq p s hostnames batched sized small, ?_⟩
    have agrees := resolve_agrees p s (slices inputBatchSize.toNat hostnames.length hostnames)
    rw [flatten_slices (by omega) _ _ le_rfl] at agrees
    exact agrees.without_empty

/-- A baseline with one hostname in 1996, in 2001 and among the candidates. -/
def smallFiles : Files
  | .year 1996 => ["A.com\n", "no hostname\n", "b.com\n"]
  | .year 2001 => ["a.com\n"]
  | .year _ => []
  | .candidatePool => ["a.com"]

/-- A build that dies after two transactions, and one with another batch size. -/
theorem rebuilt_complete : Complete ⟨String.toLower, fun _ => ""⟩ smallFiles
    ((builds ⟨String.toLower, fun _ => ""⟩ smallFiles).final ([⟨1, some 2⟩] ++ [⟨2, none⟩])) :=
  (baseline_index_faithful ⟨String.toLower, fun _ => ""⟩ smallFiles [⟨1, some 2⟩] ⟨2, none⟩ rfl (by decide)).1

end Creeper.BaselineIndex
