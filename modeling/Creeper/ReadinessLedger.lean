import Creeper.EvidenceStore

/-!
# The readiness ledger

`IncrementalReadinessLedger` of `runtime/readiness.py`: running counts of novel host-years
and their equivalent English domains, by year, source, task kind and source run, under the
signatures of one baseline and one model. A batch advances all of them with the cursor.
-/

namespace Creeper.ReadinessLedger
open Creeper.Tables Creeper.EvidenceTasks Creeper.EvidenceStore
open Creeper.FabricModels (PyError)

/-! ## Authorities -/

/-- The signatures of a baseline and of a model. -/
structure Signatures where
  baseline : String
  model : String
  deriving DecidableEq

/-- What signatures stand for: the year masks of a baseline and the weights of a model. -/
structure Authorities where
  masks : String → String → Nat
  weights : String → String → Option ℚ

/-- The years of `YEAR_BITS`. -/
def judgedYears : List Int := [1996, 1997, 1998, 1999, 2000, 2001]

/-- `YEAR_BITS.get(year)`. -/
def yearBit (year : Int) : Option Nat := if year ∈ judgedYears then some (1 <<< (year - 1996).toNat) else none

/-- `(source_key, reservoir_id, lease_id)`. -/
abbrev RunKey := String ×ₗ String ×ₗ String

/-- What is resolved for a host-year before it is applied. -/
structure Attribution where
  source : Option String
  taskKind : Option String
  run : Option RunKey

/-- A host-year with its attribution. -/
structure Entry where
  row : HostYearRow
  attribution : Attribution

/-- The text after the last dot. -/
def lastLabel (hostname : String) : String := String.ofList ((labels hostname).getLast?.getD [])

def contribution (a : Authorities) (held : Signatures) (row : HostYearRow) : ℚ :=
  (a.weights held.model (lastLabel row.hostname)).getD 0

/-- A host-year of a judged year that the baseline does not have. -/
def novel (a : Authorities) (held : Signatures) (row : HostYearRow) : Bool :=
  (yearBit row.year).any fun bit => a.masks held.baseline row.hostname &&& bit = 0

/-! ## Rows -/

structure CountRow (Key : Type) where
  key : Key
  novelHostYears : Nat
  novelEed : ℚ
  deriving DecidableEq

structure RunRow where
  key : RunKey
  novelHostYears : Nat
  novelEed : ℚ
  maxEvidenceSequence : Nat
  deriving DecidableEq

abbrev Counts (Key : Type) := Table (CountRow Key) Key (·.key)
abbrev RunCounts := Table RunRow RunKey (·.key)

def CountRow.merge {Key : Type} (old new : CountRow Key) : CountRow Key :=
  { old with novelHostYears := old.novelHostYears + new.novelHostYears, novelEed := old.novelEed + new.novelEed }

def RunRow.merge (old new : RunRow) : RunRow := { old with
  novelHostYears := old.novelHostYears + new.novelHostYears
  novelEed := old.novelEed + new.novelEed
  maxEvidenceSequence := max old.maxEvidenceSequence new.maxEvidenceSequence }

section
variable {Key : Type} [DecidableEq Key]

def Counts.add (t : Counts Key) (row : CountRow Key) : Counts Key := Table.add CountRow.merge (fun _ _ => rfl) t row
def Counts.addAll (t u : Counts Key) : Counts Key := Table.addAll CountRow.merge (fun _ _ => rfl) t u

/-- One more host-year under a key, when there is one. -/
def Counts.credit (t : Counts Key) (key : Option Key) (eed : ℚ) : Counts Key := key.elim t fun k => t.add ⟨k, 1, eed⟩

end

def RunCounts.add (t : RunCounts) (row : RunRow) : RunCounts := Table.add RunRow.merge (fun _ _ => rfl) t row
def RunCounts.addAll (t u : RunCounts) : RunCounts := Table.addAll RunRow.merge (fun _ _ => rfl) t u

/-- The six years, without host-years. -/
def zeroYears : Counts Int := ⟨judgedYears.map (⟨·, 0, 0⟩), by decide⟩

structure StateRow where
  signatures : Signatures
  evidenceCursor : Nat
  processedHostYears : Nat
  novelHostYears : Nat
  novelEed : ℚ

/-- The five tables of the ledger. -/
structure Ledger where
  state : Option StateRow
  annual : Counts Int
  source : Counts String
  taskKind : Counts String
  sourceRun : RunCounts

def Ledger.empty : Ledger := ⟨none, .empty, .empty, .empty, .empty⟩

def Ledger.reset (held : Signatures) : Ledger := ⟨some ⟨held, 0, 0, 0, 0⟩, zeroYears, .empty, .empty, .empty⟩

/-! ## Calls -/

/-- `ensure_authority`. -/
def ensureAuthority (l : Ledger) (held : Signatures) : Bool × Ledger :=
  if l.state.any (fun state => state.signatures = held) then (false, l) else (true, .reset held)

/-- `cursor`. -/
def Ledger.cursor (l : Ledger) : Except PyError Nat :=
  match l.state with
  | none => .error (.runtimeError "readiness authority has not been initialized")
  | some state => .ok state.evidenceCursor

/-- The accumulators of `apply_batch`. -/
structure Tally where
  novelHostYears : Nat
  novelEed : ℚ
  annual : Counts Int
  source : Counts String
  taskKind : Counts String
  run : RunCounts

def Tally.zero : Tally := ⟨0, 0, zeroYears, .empty, .empty, .empty⟩

/-- The largest number of a run, whether or not the host-year is novel. -/
def Tally.reach (t : Tally) (e : Entry) : Tally :=
  { t with run := e.attribution.run.elim t.run fun run => t.run.add ⟨run, 0, 0, e.row.sequence⟩ }

/-- A novel host-year. -/
def Tally.count (t : Tally) (e : Entry) (eed : ℚ) : Tally where
  novelHostYears := t.novelHostYears + 1
  novelEed := t.novelEed + eed
  annual := t.annual.add ⟨e.row.year, 1, eed⟩
  source := t.source.credit e.attribution.source eed
  taskKind := t.taskKind.credit e.attribution.taskKind eed
  run := e.attribution.run.elim t.run fun run => t.run.add ⟨run, 1, eed, e.row.sequence⟩

/-- One pass of the loop of `apply_batch`. -/
def Tally.read (a : Authorities) (held : Signatures) (t : Tally) (e : Entry) : Tally :=
  match yearBit e.row.year with
  | none => t.reach e
  | some bit =>
    if a.masks held.baseline e.row.hostname &&& bit ≠ 0 then t.reach e
    else (t.reach e).count e (contribution a held e.row)

def tally (a : Authorities) (held : Signatures) (entries : List Entry) : Tally := entries.foldl (Tally.read a held) .zero

/-- The transaction of `apply_batch`. -/
def Ledger.commit (l : Ledger) (expectedCursor newCursor processed : Nat) (t : Tally) : Except PyError Ledger :=
  match l.state with
  | none => .error (.runtimeError "readiness authority disappeared")
  | some state =>
    if state.evidenceCursor ≠ expectedCursor then .error (.runtimeError "readiness cursor changed concurrently")
    else if judgedYears.any (fun year => (l.annual.get? year).isNone) then .error .assertionError
    else .ok {
      state := some { state with
        evidenceCursor := newCursor
        processedHostYears := state.processedHostYears + processed
        novelHostYears := state.novelHostYears + t.novelHostYears
        novelEed := state.novelEed + t.novelEed }
      annual := l.annual.addAll t.annual
      source := l.source.addAll t.source.sorted
      taskKind := l.taskKind.addAll t.taskKind.sorted
      sourceRun := l.sourceRun.addAll t.run.sorted }

/-- The rows of a batch with what was resolved for them. -/
def entries (attribution : HostYear → Attribution) (rows : List HostYearRow) : List Entry :=
  rows.map fun row => ⟨row, attribution row.pair⟩

/-- `apply_batch`, with the signatures of the baseline and weights that it is given. -/
def applyBatch (a : Authorities) (l : Ledger) (held : Signatures) (rows : List HostYearRow)
    (attribution : HostYear → Attribution) : Except PyError (Nat × Ledger) :=
  match rows with
  | [] => .ok (0, l)
  | first :: rest =>
    match l.cursor with
    | .error err => .error err
    | .ok expectedCursor =>
      if first.sequence ≤ expectedCursor then .error (.runtimeError "readiness batch does not advance current cursor")
      else (l.commit expectedCursor ((first :: rest).getLastD first).sequence (first :: rest).length
        (tally a held (entries attribution (first :: rest)))).map fun after => ((first :: rest).length, after)

/-! ## A pass from scratch -/

section
variable (a : Authorities) (held : Signatures)

/-- The EED of some host-years. -/
def eedOf (es : List Entry) : ℚ := (es.map fun e => contribution a held e.row).sum

/-- The novel ones of some host-years. -/
def novelOnes (es : List Entry) : List Entry := es.filter fun e => novel a held e.row

/-- The row of a key with some host-years; no row without any. -/
def counted {Key : Type} (key : Key) (es : List Entry) : Option (CountRow Key) :=
  if es.isEmpty then none else some ⟨key, es.length, eedOf a held es⟩

/-- The largest number of some host-years. -/
def lastSequence (es : List Entry) : Nat := es.foldr (fun e last => max e.row.sequence last) 0

/-- The row of a run with some host-years, novel or not. -/
def ran (run : RunKey) (es : List Entry) : Option RunRow :=
  if es.isEmpty then none
  else some ⟨run, (novelOnes a held es).length, eedOf a held (novelOnes a held es), lastSequence es⟩

/-- Totals, years, sources, task kinds and runs are those of one pass over some host-years. -/
structure Recounts (t : Tally) (es : List Entry) : Prop where
  novelHostYears : t.novelHostYears = (novelOnes a held es).length
  novelEed : t.novelEed = eedOf a held (novelOnes a held es)
  annual : ∀ year, t.annual.get? year = if year ∈ judgedYears then
    some ⟨year, ((novelOnes a held es).filter (fun e => e.row.year = year)).length,
      eedOf a held ((novelOnes a held es).filter (fun e => e.row.year = year))⟩ else none
  source : ∀ key, t.source.get? key =
    counted a held key ((novelOnes a held es).filter (fun e => e.attribution.source = some key))
  taskKind : ∀ key, t.taskKind.get? key =
    counted a held key ((novelOnes a held es).filter (fun e => e.attribution.taskKind = some key))
  run : ∀ run, t.run.get? run = ran a held run (es.filter (fun e => e.attribution.run = some run))
  years : (t.annual.rows.map (·.novelHostYears)).sum = t.novelHostYears
  yearsEed : (t.annual.rows.map (·.novelEed)).sum = t.novelEed

theorem eedOf_append (es more : List Entry) : eedOf a held (es ++ more) = eedOf a held es + eedOf a held more := by
  simp [eedOf]

theorem novelOnes_append (es more : List Entry) :
    novelOnes a held (es ++ more) = novelOnes a held es ++ novelOnes a held more := List.filter_append ..

theorem lastSequence_append (es more : List Entry) :
    lastSequence (es ++ more) = max (lastSequence es) (lastSequence more) := by
  induction es with
  | nil => simp [lastSequence]
  | cons e es ih =>
    rw [List.cons_append, lastSequence, List.foldr_cons, ← lastSequence, ih, ← max_assoc]
    rfl

theorem counted_append {Key : Type} (key : Key) (es more : List Entry) :
    counted a held key (es ++ more) = Option.merge CountRow.merge (counted a held key es) (counted a held key more) := by
  cases es with
  | nil => simp [counted]
  | cons e es =>
    cases more with
    | nil => simp [counted]
    | cons m more => simp [counted, CountRow.merge, eedOf, add_assoc, add_comm, add_left_comm]

theorem ran_append (run : RunKey) (es more : List Entry) :
    ran a held run (es ++ more) = Option.merge RunRow.merge (ran a held run es) (ran a held run more) := by
  cases es with
  | nil => simp [ran]
  | cons e es =>
    cases more with
    | nil => simp [ran]
    | cons m more =>
      simp only [ran, List.cons_append, List.isEmpty_cons, Bool.false_eq_true, if_false, Option.merge_some_some, RunRow.merge]
      rw [← List.cons_append, novelOnes_append, lastSequence_append, eedOf_append, List.length_append]

end

/-! ## The accumulators -/

section
variable {Key : Type} [DecidableEq Key]

theorem get?_credit (t : Counts Key) (key : Option Key) (eed : ℚ) (k : Key) :
    (t.credit key eed).get? k = Option.merge CountRow.merge (t.get? k) (if key = some k then some ⟨k, 1, eed⟩ else none) := by
  cases key with
  | none => simp [Counts.credit]
  | some key =>
    refine (Table.get?_add _ _ t _ k).trans ?_
    by_cases same : key = k
    · subst same
      simp
    · simp [same]

theorem get?_touch (t : RunCounts) (key : Option RunKey) (row : RunKey → RunRow) (named : ∀ run, (row run).key = run) (k : RunKey) :
    (key.elim t (fun run => t.add (row run))).get? k =
      Option.merge RunRow.merge (t.get? k) (if key = some k then some (row k) else none) := by
  cases key with
  | none => simp
  | some key =>
    refine (Table.get?_add _ _ t _ k).trans ?_
    rw [named]
    by_cases same : key = k
    · subst same
      simp
    · simp [same]

end

section
variable {a : Authorities} {held : Signatures} {t : Tally} {es : List Entry} {e : Entry}

theorem novel_year {row : HostYearRow} (isNovel : novel a held row) : row.year ∈ judgedYears := by
  unfold novel yearBit at isNovel
  split at isNovel
  · rename_i judged
    exact judged
  · cases isNovel

/-- One pass of the loop, by whether the host-year is novel. -/
theorem read_eq (t : Tally) (e : Entry) :
    t.read a held e = if novel a held e.row then (t.reach e).count e (contribution a held e.row) else t.reach e := by
  unfold Tally.read novel
  cases yearBit e.row.year with
  | none => rfl
  | some bit =>
    by_cases old : a.masks held.baseline e.row.hostname &&& bit = 0 <;> simp [old]

theorem recounts_zero : Recounts a held .zero [] where
  novelHostYears := rfl
  novelEed := rfl
  annual year := by
    by_cases judged : year ∈ judgedYears
    · have shape : (zeroYears.get? year) = some ⟨year, 0, 0⟩ := by
        refine Table.get?_eq_some.mpr ⟨?_, rfl⟩
        exact List.mem_map.mpr ⟨year, judged, rfl⟩
      rw [if_pos judged]
      exact shape
    · rw [if_neg judged]
      refine Table.get?_eq_none.mpr fun row member name => judged ?_
      obtain ⟨other, isJudged, rfl⟩ := List.mem_map.mp member
      exact name ▸ isJudged
  source _ := rfl
  taskKind _ := rfl
  run _ := rfl
  years := rfl
  yearsEed := by decide +kernel

theorem novelOnes_snoc (isNovel : novel a held e.row) : novelOnes a held (es ++ [e]) = novelOnes a held es ++ [e] := by
  simp [novelOnes, isNovel]

theorem novelOnes_skip (old : ¬novel a held e.row) : novelOnes a held (es ++ [e]) = novelOnes a held es := by
  simp [novelOnes, old]

/-- The row that one host-year adds under a key. -/
theorem counted_single {Key : Type} (key : Key) (p : Entry → Bool) :
    counted a held key ([e].filter p) = if p e then some ⟨key, 1, contribution a held e.row⟩ else none := by
  by_cases here : p e <;> simp [counted, eedOf, here]

theorem ran_single (run : RunKey) (p : Entry → Bool) :
    ran a held run ([e].filter p) = if p e then some ⟨run, if novel a held e.row then 1 else 0,
      if novel a held e.row then contribution a held e.row else 0, e.row.sequence⟩ else none := by
  by_cases here : p e
  · by_cases isNovel : novel a held e.row <;> simp [ran, eedOf, novelOnes, lastSequence, here, isNovel]
  · simp [ran, here]

theorem recounts_reach (exact_ : Recounts a held t es) (old : ¬novel a held e.row) : Recounts a held (t.reach e) (es ++ [e]) where
  novelHostYears := by rw [novelOnes_skip old]; exact exact_.novelHostYears
  novelEed := by rw [novelOnes_skip old]; exact exact_.novelEed
  annual := by rw [novelOnes_skip old]; exact exact_.annual
  source := by rw [novelOnes_skip old]; exact exact_.source
  taskKind := by rw [novelOnes_skip old]; exact exact_.taskKind
  run run := by
    rw [List.filter_append, ran_append, ran_single]
    refine (get?_touch t.run _ _ (fun _ => rfl) run).trans ?_
    rw [exact_.run]
    simp [old]
  years := exact_.years
  yearsEed := exact_.yearsEed

theorem recounts_count (exact_ : Recounts a held t es) (isNovel : novel a held e.row) :
    Recounts a held ((t.reach e).count e (contribution a held e.row)) (es ++ [e]) where
  novelHostYears := by
    rw [novelOnes_snoc isNovel, List.length_append, ← exact_.novelHostYears]
    rfl
  novelEed := by
    rw [novelOnes_snoc isNovel, eedOf_append, ← exact_.novelEed]
    show t.novelEed + contribution a held e.row = _
    simp [eedOf]
  annual year := by
    rw [novelOnes_snoc isNovel, List.filter_append, eedOf_append, List.length_append]
    refine (Table.get?_add _ _ t.annual _ year).trans ?_
    rw [exact_.annual]
    by_cases here : e.row.year = year
    · subst here
      rw [if_pos (novel_year isNovel), if_pos (novel_year isNovel)]
      simp [CountRow.merge, eedOf]
    · simp [here, eedOf]
  source key := by
    rw [novelOnes_snoc isNovel, List.filter_append, counted_append, counted_single]
    refine (get?_credit t.source _ _ key).trans ?_
    rw [exact_.source]
    simp
  taskKind key := by
    rw [novelOnes_snoc isNovel, List.filter_append, counted_append, counted_single]
    refine (get?_credit t.taskKind _ _ key).trans ?_
    rw [exact_.taskKind]
    simp
  run run := by
    rw [List.filter_append, ran_append, ran_single]
    refine (get?_touch (t.reach e).run _ _ (fun _ => rfl) run).trans ?_
    rw [show (t.reach e).run.get? run = _ from get?_touch t.run _ _ (fun _ => rfl) run, exact_.run]
    by_cases here : e.attribution.run = some run
    · cases ran a held run (es.filter (fun e => e.attribution.run = some run)) <;> simp [here, isNovel, RunRow.merge]
    · simp [here]
  years := by
    refine (Table.sum_add _ _ (fun _ _ => rfl) t.annual _).trans ?_
    rw [exact_.years]
    rfl
  yearsEed := by
    refine (Table.sum_add _ _ (fun _ _ => rfl) t.annual _).trans ?_
    rw [exact_.yearsEed]
    rfl

/-- The loop of `apply_batch` is a pass from scratch. -/
theorem recounts_tally (a : Authorities) (held : Signatures) (es : List Entry) : Recounts a held (tally a held es) es := by
  induction es using List.reverseRecOn with
  | nil => exact recounts_zero
  | append_singleton es e ih =>
    rw [tally, List.foldl_append, ← tally, List.foldl_cons, List.foldl_nil, read_eq]
    split
    · rename_i isNovel
      exact recounts_count ih isNovel
    · rename_i old
      exact recounts_reach ih old

end

/-! ## The ledger -/

/-- The totals of the state row, with the other tables. -/
def Ledger.tally (l : Ledger) (state : StateRow) : Tally :=
  ⟨state.novelHostYears, state.novelEed, l.annual, l.source, l.taskKind, l.sourceRun⟩

/-- The ledger holds what a pass over some host-years gives under its own signatures. -/
structure Ledger.Recounts (a : Authorities) (l : Ledger) (state : StateRow) (es : List Entry) : Prop where
  stored : l.state = some state
  processed : state.processedHostYears = es.length
  totals : ReadinessLedger.Recounts a state.signatures (l.tally state) es

theorem reset_recounts (a : Authorities) (held : Signatures) :
    (Ledger.reset held).Recounts a ⟨held, 0, 0, 0, 0⟩ [] where
  stored := rfl
  processed := rfl
  totals := recounts_zero

def StateRow.advance (state : StateRow) (newCursor processed : Nat) (t : Tally) : StateRow := { state with
  evidenceCursor := newCursor
  processedHostYears := state.processedHostYears + processed
  novelHostYears := state.novelHostYears + t.novelHostYears
  novelEed := state.novelEed + t.novelEed }

def Ledger.advance (l : Ledger) (state : StateRow) (newCursor processed : Nat) (t : Tally) : Ledger where
  state := some (state.advance newCursor processed t)
  annual := l.annual.addAll t.annual
  source := l.source.addAll t.source.sorted
  taskKind := l.taskKind.addAll t.taskKind.sorted
  sourceRun := l.sourceRun.addAll t.run.sorted

section
variable {a : Authorities} {l : Ledger} {state : StateRow} {es more : List Entry}

theorem advance_recounts (exact_ : l.Recounts a state es) (newCursor : Nat) :
    (l.advance state newCursor more.length (tally a state.signatures more)).Recounts a
      (state.advance newCursor more.length (tally a state.signatures more)) (es ++ more) := by
  obtain ⟨-, processed, totals⟩ := exact_
  have batch := recounts_tally a state.signatures more
  refine ⟨rfl, ?_, ?_⟩
  · rw [List.length_append, ← processed]
    rfl
  constructor
  · exact (congrArg₂ (· + ·) totals.novelHostYears batch.novelHostYears).trans (by rw [novelOnes_append, List.length_append]; rfl)
  · exact (congrArg₂ (· + ·) totals.novelEed batch.novelEed).trans (by rw [novelOnes_append, eedOf_append]; rfl)
  · intro year
    refine (Table.get?_addAll _ _ l.annual _ year).trans ?_
    rw [batch.annual, show l.annual.get? year = _ from totals.annual year]
    split
    · rename_i judged
      simp [CountRow.merge, novelOnes_append, eedOf_append, StateRow.advance, judged]
    · rename_i other
      simp [other]
  · intro key
    refine (Table.get?_addAll _ _ l.source _ key).trans ?_
    rw [Table.get?_sorted, batch.source, show l.source.get? key = _ from totals.source key, ← counted_append,
      ← List.filter_append, ← novelOnes_append]
    rfl
  · intro key
    refine (Table.get?_addAll _ _ l.taskKind _ key).trans ?_
    rw [Table.get?_sorted, batch.taskKind, show l.taskKind.get? key = _ from totals.taskKind key, ← counted_append,
      ← List.filter_append, ← novelOnes_append]
    rfl
  · intro run
    refine (Table.get?_addAll _ _ l.sourceRun _ run).trans ?_
    rw [Table.get?_sorted, batch.run, show l.sourceRun.get? run = _ from totals.run run, ← ran_append, ← List.filter_append]
    rfl
  · refine (Table.sum_addAll _ _ (fun _ _ => rfl) l.annual _).trans ?_
    rw [batch.years, show (l.annual.rows.map _).sum = _ from totals.years]
    rfl
  · refine (Table.sum_addAll _ _ (fun _ _ => rfl) l.annual _).trans ?_
    rw [batch.yearsEed, show (l.annual.rows.map _).sum = _ from totals.yearsEed]
    rfl

/-- What `apply_batch` does to a ledger with a row for every year. -/
inductive Applied (a : Authorities) (l : Ledger) (held : Signatures) (rows : List HostYearRow)
    (attribution : HostYear → Attribution) : Except PyError (Nat × Ledger) → Prop
  | empty (none_ : rows = []) : Applied a l held rows attribution (.ok (0, l))
  | refused (err : PyError) : Applied a l held rows attribution (.error err)
  | advanced (state : StateRow) (first last : HostYearRow) (stored : l.state = some state) (isFirst : rows.head? = some first)
      (isLast : rows.getLast? = some last) (beyond : state.evidenceCursor < first.sequence) :
      Applied a l held rows attribution (.ok (rows.length, l.advance state last.sequence (entries attribution rows).length
        (ReadinessLedger.tally a held (entries attribution rows))))

theorem applyBatch_cases (a : Authorities) (l : Ledger) (held : Signatures) (rows : List HostYearRow)
    (attribution : HostYear → Attribution) : Applied a l held rows attribution (applyBatch a l held rows attribution) := by
  unfold applyBatch
  split
  · exact .empty rfl
  rename_i first rest
  unfold Ledger.cursor
  cases stored : l.state with
  | none => exact .refused _
  | some state =>
    dsimp only
    split
    · exact .refused _
    rename_i beyond
    unfold Ledger.commit
    rw [stored]
    dsimp only
    rw [if_neg (not_not.mpr rfl)]
    split
    · exact .refused _
    have isLast : (first :: rest).getLast? = some ((first :: rest).getLastD first) := by
      rw [List.getLast?_eq_some_getLast (List.cons_ne_nil _ _), List.getLastD_eq_getLast?,
        List.getLast?_eq_some_getLast (List.cons_ne_nil _ _)]
      rfl
    have size : (first :: rest).length = (entries attribution (first :: rest)).length := by simp [entries]
    have answer : Applied a l held (first :: rest) attribution _ :=
      .advanced state first _ stored rfl isLast (not_le.mp beyond)
    rw [← size] at answer
    exact answer

/-- With a row for every year nothing but the cursor can refuse a batch. -/
theorem applyBatch_accepts {held : Signatures} {rows : List HostYearRow} {attribution : HostYear → Attribution}
    (exact_ : l.Recounts a state es) {first last : HostYearRow} (isFirst : rows.head? = some first)
    (isLast : rows.getLast? = some last) (beyond : state.evidenceCursor < first.sequence) :
    applyBatch a l held rows attribution = .ok (rows.length, l.advance state last.sequence rows.length
      (ReadinessLedger.tally a held (entries attribution rows))) := by
  obtain ⟨stored, -, totals⟩ := exact_
  have years : judgedYears.any (fun year => (l.annual.get? year).isNone) = false := by
    rw [List.any_eq_false]
    intro year judged
    rw [show l.annual.get? year = _ from totals.annual year, if_pos judged]
    simp
  cases rows with
  | nil => cases isFirst
  | cons head rest =>
    cases isFirst
    have theLast : (first :: rest).getLastD first = last := by
      rw [List.getLastD_eq_getLast?, isLast]
      rfl
    unfold applyBatch Ledger.cursor
    rw [stored]
    dsimp only
    rw [if_neg (not_le.mpr beyond)]
    unfold Ledger.commit
    rw [stored]
    dsimp only
    rw [if_neg (not_not.mpr rfl), years, if_neg Bool.false_ne_true, theLast]
    rfl

end

end Creeper.ReadinessLedger
