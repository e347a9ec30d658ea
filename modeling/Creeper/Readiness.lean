import Creeper.Runs
import Creeper.ReadinessLedger

/-!
# Readiness runtimes

`IncrementalReadinessRuntime` of `runtime/readiness.py`: `sync_once` refreshes the authority,
reads the cursor with the host-years after it, and applies them. The runtimes of several
processes share a ledger and an evidence store, and any of them may stop between two steps.
-/

namespace Creeper.Readiness
open Creeper.Runs Creeper.EvidenceStore Creeper.ReadinessLedger
open Creeper.FabricModels (PyError)

/-! ## Steps -/

/-- Where a process is, with the signatures of the baseline and the weights that it holds. -/
inductive Phase
  | down
  | idle (held : Signatures)
  | refreshed (held : Signatures)
  | fetched (held : Signatures) (cursor : Nat) (rows : List HostYearRow)

def Phase.held : Phase → Option Signatures
  | .down => none
  | .idle held => some held
  | .refreshed held => some held
  | .fetched held _ _ => some held

/-- An insertion into the evidence store. -/
inductive Insertion
  | putMany (capsules : List EvidenceCapsule) (fault : Option PyError)
  | putManyWithTaskProvenance (items : List Item) (fault : Option PyError)

def Insertion.answer (burns : Bool) (s : Store) : Insertion → Answer Nat
  | .putMany capsules fault => EvidenceStore.putMany burns s capsules fault
  | .putManyWithTaskProvenance items fault => EvidenceStore.putManyWithTaskProvenance burns s items fault

structure System (Process : Type) where
  store : Store
  ledger : Ledger
  phase : Process → Phase

/-- The atomic steps, with what a process finds on disk or resolves. -/
inductive Action (Process : Type)
  | insert (insertion : Insertion)
  | start (p : Process) (found : Signatures)
  | refresh (p : Process) (found : Signatures)
  | fetch (p : Process) (batchSize : Int)
  | apply (p : Process) (attribution : HostYear → Attribution)
  | stop (p : Process)

/-- What a step did to the ledger. -/
inductive Effect
  | kept
  | reset
  | applied (entries : List Entry)

abbrev Outcome := Except PyError Effect

section
variable {Process : Type} [DecidableEq Process]

def System.move (s : System Process) (p : Process) (phase : Phase) : System Process :=
  { s with phase := Function.update s.phase p phase }

/-- `ensure_authority`, for a process that goes on in a phase. -/
def ensure (s : System Process) (p : Process) (found : Signatures) (phase : Phase) : Outcome × System Process :=
  let (reset, ledger) := ensureAuthority s.ledger found
  (.ok (if reset then .reset else .kept), { s with ledger }.move p phase)

/-- The constructor, which forces a refresh. -/
def start (s : System Process) (p : Process) (found : Signatures) : Outcome × System Process :=
  match s.phase p with
  | .down => ensure s p found (.idle found)
  | _ => (.ok .kept, s)

/-- `_refresh_authority`, at the start of `sync_once`. -/
def refresh (s : System Process) (p : Process) (found : Signatures) : Outcome × System Process :=
  match s.phase p with
  | .idle held => if found = held then (.ok .kept, s.move p (.refreshed held)) else ensure s p found (.refreshed found)
  | _ => (.ok .kept, s)

/-- The cursor of the ledger and the host-years after it. -/
def fetch (s : System Process) (p : Process) (batchSize : Int) : Outcome × System Process :=
  match s.phase p with
  | .refreshed held =>
    match s.ledger.cursor with
    | .error err => (.error err, s.move p (.idle held))
    | .ok cursor =>
      match hostYearsAfter s.store cursor batchSize with
      | .error err => (.error err, s.move p (.idle held))
      | .ok rows => (.ok .kept, s.move p (.fetched held cursor rows))
  | _ => (.ok .kept, s)

/-- `apply_batch`, at the end of `sync_once`. -/
def apply (a : Authorities) (s : System Process) (p : Process) (attribution : HostYear → Attribution) :
    Outcome × System Process :=
  match s.phase p with
  | .fetched held _ rows =>
    match applyBatch a s.ledger held rows attribution with
    | .error err => (.error err, s.move p (.idle held))
    | .ok (_, ledger) => (.ok (.applied (entries attribution rows)), { s with ledger }.move p (.idle held))
  | _ => (.ok .kept, s)

def step (a : Authorities) (burns : Bool) (s : System Process) : Action Process → Outcome × System Process
  | .insert insertion =>
    ((insertion.answer burns s.store).1.map fun _ => .kept, { s with store := (insertion.answer burns s.store).2 })
  | .start p found => start s p found
  | .refresh p found => refresh s p found
  | .fetch p batchSize => fetch s p batchSize
  | .apply p attribution => apply a s p attribution
  | .stop p => (.ok .kept, s.move p .down)

/-- Processes that are down, before an empty store and an empty ledger. -/
def runtimes (Process : Type) [DecidableEq Process] (a : Authorities) (burns : Bool) :
    Machine (System Process) (Action Process) Outcome where
  initial := ⟨⟨.empty, .empty, .empty⟩, .empty, fun _ => .down⟩
  step := step a burns

/-- One `sync_once`. -/
def syncOnce (p : Process) (found : Signatures) (batchSize : Int) (attribution : HostYear → Attribution) :
    List (Action Process) :=
  [.refresh p found, .fetch p batchSize, .apply p attribution]

/-! ## Recomputation -/

/-- The host-years of the ledger after a step, each with what was resolved when it was applied. -/
def Effect.after (es : List Entry) : Outcome → List Entry
  | .ok .reset => []
  | .ok (.applied more) => es ++ more
  | _ => es

/-- The host-years that were applied since the last reset. -/
def ledgered (trace : List (Step (System Process) (Action Process) Outcome)) : List Entry :=
  trace.foldl (fun es r => Effect.after es r.outcome) []

/-- The ledger is a pass over the host-years up to its cursor, under its own signatures. -/
structure Recomputed (a : Authorities) (s : System Process) (es : List Entry) : Prop where
  recounts : ∀ state, s.ledger.state = some state → s.ledger.Recounts a state es
  rows : ∀ state, s.ledger.state = some state →
    es.map (·.row) = s.store.hostYears.table.rows.filter (·.sequence ≤ state.evidenceCursor)

/-- A batch that passes the guard of `apply_batch` was read from the cursor that is still stored,
    by a process that holds the stored signatures. -/
def fresh (r : Step (System Process) (Action Process) Outcome) : Bool :=
  match r.event with
  | .apply p _ =>
    match r.before.phase p, r.before.ledger.state with
    | .fetched held cursor (first :: _), some state =>
      first.sequence ≤ state.evidenceCursor || (state.signatures = held && state.evidenceCursor = cursor)
    | _, _ => true
  | _ => true

/-! ## The invariant -/

def ReadAfter (h : HostYears) (cursor : Nat) (rows : List HostYearRow) : Prop :=
  rows <+: h.table.rows.filter (cursor < ·.sequence)

theorem ReadAfter.grows {h h' : HostYears} {cursor : Nat} {rows : List HostYearRow} (read : ReadAfter h cursor rows)
    (grows : Grows h h') : ReadAfter h' cursor rows := by
  obtain ⟨⟨new, same, -⟩, -⟩ := grows
  refine read.trans ?_
  rw [same, List.filter_append]
  exact List.prefix_append _ _

theorem readAfter_answer {s : Store} {cursor : Nat} {limit : Int} {rows : List HostYearRow}
    (answer : hostYearsAfter s cursor limit = .ok rows) : ReadAfter s.hostYears cursor rows := by
  have sorted : (s.hostYears.table.rows.filter ((cursor : Int) < ·.sequence)).Pairwise (fun a b => a.sequence ≤ b.sequence) :=
    (s.hostYears.increasing.imp Nat.le_of_lt).sublist List.filter_sublist
  unfold hostYearsAfter at answer
  split at answer
  · cases answer
  split at answer
  · cases answer
  split at answer
  · cases answer
  cases answer
  rw [sorted.insertionSort_eq]
  refine (List.take_prefix _ _).trans ?_
  simp

theorem reads_on {reader : Reader} {h : HostYears} {rows : List HostYearRow} (reads : Reads reader h)
    (read : ReadAfter h reader.cursor rows) : Reads (reader.read rows) h := by
  have all := reads
  obtain ⟨rest, whole, seen, unread, -⟩ := reads
  have later : h.table.rows.filter (reader.cursor < ·.sequence) = rest := by
    have none_ : reader.seen.filter (reader.cursor < ·.sequence) = [] := by
      rw [List.filter_eq_nil_iff]
      intro row member
      simpa using seen row member
    have every : rest.filter (reader.cursor < ·.sequence) = rest := by
      rw [List.filter_eq_self]
      intro row member
      simpa using unread row member
    rw [whole, List.filter_append, none_, every, List.nil_append]
  obtain ⟨later_, split⟩ := read
  rw [later] at split
  exact reads_page later_ (by rw [whole, split]) all

theorem seen_eq {reader : Reader} {h : HostYears} (reads : Reads reader h) :
    reader.seen = h.table.rows.filter (·.sequence ≤ reader.cursor) := by
  obtain ⟨rest, whole, seen, unread, -⟩ := reads
  have every : reader.seen.filter (·.sequence ≤ reader.cursor) = reader.seen := by
    rw [List.filter_eq_self]
    intro row member
    simpa using seen row member
  have none_ : rest.filter (·.sequence ≤ reader.cursor) = [] := by
    rw [List.filter_eq_nil_iff]
    intro row member
    simpa using unread row member
  rw [whole, List.filter_append, every, none_, List.append_nil]

/-- The ledger is exact up to its cursor, and every process has rows after the cursor that it read. -/
structure Inv (a : Authorities) (s : System Process) (es : List Entry) : Prop where
  bare : s.ledger.state = none → es = []
  recounts : ∀ state, s.ledger.state = some state →
    s.ledger.Recounts a state es ∧ Reads ⟨state.evidenceCursor, es.map (·.row)⟩ s.store.hostYears
  fetched : ∀ p held cursor rows, s.phase p = .fetched held cursor rows → ReadAfter s.store.hostYears cursor rows

omit [DecidableEq Process] in
theorem Inv.recomputed {a : Authorities} {s : System Process} {es : List Entry} (inv : Inv a s es) : Recomputed a s es where
  recounts state stored := (inv.recounts state stored).1
  rows state stored := seen_eq (inv.recounts state stored).2

/-! ### One step -/

section
variable {a : Authorities} {burns : Bool} {s : System Process} {es : List Entry} {p : Process}

theorem insertion_grows (burns : Bool) (s : Store) (insertion : Insertion) :
    Grows s.hostYears (insertion.answer burns s).2.hostYears := by
  cases insertion with
  | putMany capsules fault => exact grows_put (putMany_cases burns s capsules fault)
  | putManyWithTaskProvenance items fault => exact grows_put (putItems_cases burns s items fault)

omit [DecidableEq Process] in
theorem Inv.insert (inv : Inv a s es) {store : Store} (grows : Grows s.store.hostYears store.hostYears) :
    Inv a { s with store } es where
  bare := inv.bare
  recounts state stored := ⟨(inv.recounts state stored).1, (inv.recounts state stored).2.grows grows⟩
  fetched p held cursor rows here := (inv.fetched p held cursor rows here).grows grows

theorem Inv.move (inv : Inv a s es) (p : Process) {phase : Phase}
    (reads : ∀ held cursor rows, phase = .fetched held cursor rows → ReadAfter s.store.hostYears cursor rows) :
    Inv a (s.move p phase) es where
  bare := inv.bare
  recounts := inv.recounts
  fetched q held cursor rows here := by
    have moved : Function.update s.phase p phase q = .fetched held cursor rows := here
    rw [Function.update_apply] at moved
    split at moved
    · exact reads held cursor rows moved
    · exact inv.fetched q held cursor rows moved

theorem Inv.ensure (inv : Inv a s es) (p : Process) (found : Signatures) {phase : Phase}
    (apart : ∀ held cursor rows, phase ≠ .fetched held cursor rows) :
    Inv a (ensure s p found phase).2 (Effect.after es (ensure s p found phase).1) := by
  have moves : ∀ {s : System Process} {es : List Entry}, Inv a s es → Inv a (s.move p phase) es := fun inv =>
    inv.move p fun held cursor rows here => absurd here (apart held cursor rows)
  unfold Readiness.ensure ensureAuthority
  by_cases same : s.ledger.state.any (fun state => state.signatures = found) = true
  · rw [if_pos same]
    exact moves inv
  · rw [if_neg same]
    refine moves ⟨nofun, ?_, inv.fetched⟩
    rintro _ ⟨⟩
    refine ⟨reset_recounts a found, s.store.hostYears.table.rows, rfl, nofun, ?_, Nat.zero_le _⟩
    intro row member
    exact (s.store.hostYears.numbered row member).1

theorem Inv.start (inv : Inv a s es) (p : Process) (found : Signatures) :
    Inv a (start s p found).2 (Effect.after es (start s p found).1) := by
  unfold Readiness.start
  split
  · exact inv.ensure p found nofun
  · exact inv

theorem Inv.refresh (inv : Inv a s es) (p : Process) (found : Signatures) :
    Inv a (refresh s p found).2 (Effect.after es (refresh s p found).1) := by
  unfold Readiness.refresh
  split
  · split
    · exact inv.move p nofun
    · exact inv.ensure p found nofun
  · exact inv

theorem Inv.fetch (inv : Inv a s es) (p : Process) (batchSize : Int) :
    Inv a (fetch s p batchSize).2 (Effect.after es (fetch s p batchSize).1) := by
  unfold Readiness.fetch
  split
  · split
    · exact inv.move p nofun
    · split
      · exact inv.move p nofun
      · rename_i rows answer
        refine inv.move p ?_
        rintro _ _ _ ⟨⟩
        exact readAfter_answer answer
  · exact inv

theorem entries_rows (attribution : HostYear → Attribution) (rows : List HostYearRow) :
    (entries attribution rows).map (·.row) = rows := by
  rw [entries, List.map_map]
  exact List.map_id rows

theorem fresh_apply {r : Step (System Process) (Action Process) Outcome} (isFresh : fresh r) {p : Process}
    {attribution : HostYear → Attribution} (event : r.event = .apply p attribution) {held : Signatures} {cursor : Nat}
    {rows : List HostYearRow} (here : r.before.phase p = .fetched held cursor rows) {state : StateRow}
    (stored : r.before.ledger.state = some state) {first : HostYearRow} (isFirst : rows.head? = some first)
    (beyond : state.evidenceCursor < first.sequence) : state.signatures = held ∧ state.evidenceCursor = cursor := by
  cases rows with
  | nil => cases isFirst
  | cons head rest =>
    cases isFirst
    simp only [fresh, event, here, stored] at isFresh
    simpa [not_le.mpr beyond] using isFresh

/-- A fresh batch advances the recount; others change nothing. -/
theorem Inv.apply (inv : Inv a s es) (p : Process) (attribution : HostYear → Attribution)
    (fresh : ∀ held cursor rows, s.phase p = .fetched held cursor rows → ∀ state, s.ledger.state = some state →
      ∀ first, rows.head? = some first → state.evidenceCursor < first.sequence →
        state.signatures = held ∧ state.evidenceCursor = cursor) :
    Inv a (apply a s p attribution).2 (Effect.after es (apply a s p attribution).1) := by
  unfold Readiness.apply
  cases here : s.phase p with
  | down => exact inv
  | idle held => exact inv
  | refreshed held => exact inv
  | fetched held cursor rows =>
    have answer := applyBatch_cases a s.ledger held rows attribution
    dsimp only
    generalize applyBatch a s.ledger held rows attribution = result at answer
    cases answer with
    | refused err => exact inv.move p nofun
    | empty none_ =>
      subst none_
      show Inv a (s.move p (.idle held)) (es ++ [])
      rw [List.append_nil]
      exact inv.move p nofun
    | advanced state first last stored isFirst isLast beyond =>
      obtain ⟨rfl, rfl⟩ := fresh held cursor rows here state stored first isFirst beyond
      obtain ⟨recounts, reads⟩ := inv.recounts state stored
      have on := reads_on reads (inv.fetched p _ _ rows here)
      let more := entries attribution rows
      let ledger := s.ledger.advance state last.sequence more.length (tally a state.signatures more)
      show Inv a (({ s with ledger } : System Process).move p (.idle state.signatures)) (es ++ more)
      suffices next : Inv a ({ s with ledger } : System Process) (es ++ more) from next.move p nofun
      refine ⟨nofun, ?_, inv.fetched⟩
      rintro _ ⟨⟩
      refine ⟨advance_recounts recounts last.sequence, ?_⟩
      rw [List.map_append, entries_rows]
      have at_ : (Reader.read ⟨state.evidenceCursor, es.map (·.row)⟩ rows).cursor = last.sequence := by
        simp [Reader.read, isLast]
      rw [← at_]
      exact on

theorem inv_step (inv : Inv a s es) (e : Action Process) (isFresh : fresh ((runtimes Process a burns).take s e)) :
    Inv a (step a burns s e).2 (Effect.after es (step a burns s e).1) := by
  cases e with
  | insert insertion =>
    have kept : Effect.after es (step a burns s (.insert insertion)).1 = es := by
      show Effect.after es (Except.map _ _) = es
      cases (insertion.answer burns s.store).1 <;> rfl
    rw [kept]
    exact inv.insert (insertion_grows burns s.store insertion)
  | start p found => exact inv.start p found
  | refresh p found => exact inv.refresh p found
  | fetch p batchSize => exact inv.fetch p batchSize
  | apply p attribution =>
    exact inv.apply p attribution fun held cursor rows here state stored first isFirst beyond =>
      fresh_apply isFresh rfl here stored isFirst beyond
  | stop p => exact inv.move p nofun

theorem inv_initial : Inv a (runtimes Process a burns).initial [] where
  bare _ := rfl
  recounts _ stored := nomatch stored
  fetched _ _ _ _ here := nomatch here

end

omit [DecidableEq Process] in
theorem ledgered_snoc (trace : List (Step (System Process) (Action Process) Outcome)) (r : Step (System Process) (Action Process) Outcome) :
    ledgered (trace ++ [r]) = Effect.after (ledgered trace) r.outcome := by
  simp [ledgered]

/-- Runs in which every batch is fresh keep the invariant. -/
theorem inv_run (a : Authorities) (burns : Bool) (es : List (Action Process))
    (allFresh : ∀ r ∈ (runtimes Process a burns).trace es, fresh r) :
    Inv a ((runtimes Process a burns).final es) (ledgered ((runtimes Process a burns).trace es)) := by
  induction es using List.reverseRecOn with
  | nil => exact inv_initial
  | append_singleton es e ih =>
    rw [Machine.trace_snoc] at allFresh
    have before := ih fun r member => allFresh r (List.mem_append_left _ member)
    have now := allFresh _ (List.mem_append_right _ List.mem_cons_self)
    rw [Machine.final_snoc, Machine.trace_snoc, ledgered_snoc]
    exact inv_step before e now

end

/-! ## One process -/

/-- The ledger stands where the one process that writes it left it. -/
structure Sole (s : System Unit) : Prop where
  current : ∀ held, (s.phase ()).held = some held → ∃ state, s.ledger.state = some state ∧ state.signatures = held
  fetched : ∀ held cursor rows, s.phase () = .fetched held cursor rows →
    ∃ state, s.ledger.state = some state ∧ state.evidenceCursor = cursor

/-- What holds of the ledger of one process after a run. -/
structure Incremental (a : Authorities) (burns : Bool) (es : List (Action Unit)) : Prop where
  recomputed : Recomputed a ((runtimes Unit a burns).final es) (ledgered ((runtimes Unit a burns).trace es))
  /-- A process that is up holds the authority of the ledger. -/
  current : ∀ held, (((runtimes Unit a burns).final es).phase ()).held = some held →
    ∃ state, ((runtimes Unit a burns).final es).ledger.state = some state ∧ state.signatures = held
  once : ((ledgered ((runtimes Unit a burns).trace es)).map (·.row)).Nodup
  /-- One more `sync_once` reads on, from the start under a new authority. -/
  synced : ∀ held, ((runtimes Unit a burns).final es).phase () = .idle held →
    ∀ found batchSize attribution, 1 ≤ batchSize → tooLarge batchSize = false →
      (ledgered ((runtimes Unit a burns).trace (es ++ syncOnce () found batchSize attribution))).map (·.row) =
        ((runtimes Unit a burns).final es).store.hostYears.table.rows.take
          ((if found = held then (ledgered ((runtimes Unit a burns).trace es)).length else 0) + batchSize.toNat)

section
variable {a : Authorities} {burns : Bool} {s : System Unit} {es : List Entry}

theorem Sole.fresh (sole : Sole s) (e : Action Unit) : fresh ((runtimes Unit a burns).take s e) := by
  unfold Readiness.fresh
  split
  · split
    · rename_i p attribution _ held cursor first rest state phase stored
      obtain ⟨state', stored', signatures⟩ := sole.current held (by rw [show s.phase () = _ from phase]; rfl)
      obtain ⟨state'', stored'', at_⟩ := sole.fetched held cursor (first :: rest) phase
      cases stored'.symm.trans stored
      cases stored''.symm.trans stored
      simp [signatures, at_]
    · rfl
  · rfl

theorem moved (s : System Unit) (phase : Phase) : (s.move () phase).phase () = phase := by
  simp [System.move]

theorem Sole.move (s : System Unit) {phase : Phase}
    (current : ∀ held, phase.held = some held → ∃ state, s.ledger.state = some state ∧ state.signatures = held)
    (fetched : ∀ held cursor rows, phase = .fetched held cursor rows →
      ∃ state, s.ledger.state = some state ∧ state.evidenceCursor = cursor) : Sole (s.move () phase) where
  current held here := current held (by rwa [moved] at here)
  fetched held cursor rows here := fetched held cursor rows (by rwa [moved] at here)

theorem ensured (l : Ledger) (found : Signatures) :
    ∃ state, (ensureAuthority l found).2.state = some state ∧ state.signatures = found := by
  unfold ensureAuthority
  cases stored : l.state with
  | none => exact ⟨_, rfl, rfl⟩
  | some state =>
    by_cases same : state.signatures = found
    · exact ⟨state, by simp [same, stored], same⟩
    · exact ⟨⟨found, 0, 0, 0, 0⟩, by simp [same, Ledger.reset], rfl⟩

theorem Sole.ensure (s : System Unit) (found : Signatures) {phase : Phase} (held : phase.held = some found)
    (apart : ∀ held cursor rows, phase ≠ .fetched held cursor rows) : Sole (ensure s () found phase).2 := by
  refine Sole.move { s with ledger := (ensureAuthority s.ledger found).2 } ?_ fun h c r same => absurd same (apart h c r)
  intro other isHeld
  rw [held] at isHeld
  cases isHeld
  exact ensured s.ledger found

/-- Moving on with the same signatures and no rows. -/
theorem Sole.keep (sole : Sole s) {phase : Phase} (held : phase.held = (s.phase ()).held)
    (apart : ∀ held cursor rows, phase ≠ .fetched held cursor rows) : Sole (s.move () phase) :=
  Sole.move s (fun other isHeld => sole.current other (held ▸ isHeld)) fun h c r same => absurd same (apart h c r)

theorem Sole.refresh (sole : Sole s) (found : Signatures) : Sole (refresh s () found).2 := by
  unfold Readiness.refresh
  split
  · rename_i held here
    split
    · exact sole.keep (by rw [here]; rfl) nofun
    · exact Sole.ensure s found rfl nofun
  · exact sole

theorem Sole.fetch (sole : Sole s) (batchSize : Int) : Sole (fetch s () batchSize).2 := by
  unfold Readiness.fetch
  split
  · rename_i held here
    obtain ⟨state, stored, signatures⟩ := sole.current held (by rw [here]; rfl)
    unfold Ledger.cursor
    rw [stored]
    dsimp only
    split
    · exact sole.keep (by rw [here]; rfl) nofun
    · refine Sole.move s ?_ ?_
      · rintro _ ⟨⟩
        exact ⟨state, stored, signatures⟩
      · rintro _ _ _ ⟨⟩
        exact ⟨state, stored, rfl⟩
  · exact sole

theorem Sole.apply (sole : Sole s) (attribution : HostYear → Attribution) : Sole (apply a s () attribution).2 := by
  unfold Readiness.apply
  cases here : s.phase () with
  | down => exact sole
  | idle held => exact sole
  | refreshed held => exact sole
  | fetched held cursor rows =>
    have answer := applyBatch_cases a s.ledger held rows attribution
    dsimp only
    generalize applyBatch a s.ledger held rows attribution = result at answer
    cases answer with
    | refused err => exact sole.keep (by rw [here]; rfl) nofun
    | empty none_ => exact sole.keep (by rw [here]; rfl) nofun
    | advanced state first last stored isFirst isLast beyond =>
      obtain ⟨state', stored', signatures⟩ := sole.current held (by rw [here]; rfl)
      cases stored'.symm.trans stored
      refine Sole.move { s with ledger := _ } ?_ nofun
      rintro _ ⟨⟩
      exact ⟨_, rfl, signatures⟩

theorem Sole.step (sole : Sole s) (e : Action Unit) : Sole (step a burns s e).2 := by
  cases e with
  | insert insertion => exact ⟨sole.current, sole.fetched⟩
  | start p found =>
    show Sole (start s () found).2
    unfold Readiness.start
    split
    · exact Sole.ensure s found rfl nofun
    · exact sole
  | refresh p found => exact sole.refresh found
  | fetch p batchSize => exact sole.fetch batchSize
  | apply p attribution => exact sole.apply attribution
  | stop p => exact Sole.move s nofun nofun

theorem sole_final (a : Authorities) (burns : Bool) (es : List (Action Unit)) : Sole ((runtimes Unit a burns).final es) :=
  (runtimes Unit a burns).invariant ⟨nofun, nofun⟩ (fun _ e sole => sole.step e) es

theorem sole_inv (a : Authorities) (burns : Bool) (es : List (Action Unit)) :
    Inv a ((runtimes Unit a burns).final es) (ledgered ((runtimes Unit a burns).trace es)) := by
  refine inv_run a burns es fun r member => ?_
  obtain ⟨before, after, -, isStep⟩ := Machine.mem_trace _ member
  rw [isStep]
  exact (sole_final a burns before).fresh r.event

variable (es) in
theorem refresh_effect (sole : Sole s) {held : Signatures} (idle : s.phase () = .idle held) (found : Signatures) :
    (refresh s () found).2.phase () = .refreshed found ∧ (refresh s () found).2.store = s.store ∧
      Effect.after es (refresh s () found).1 = if found = held then es else [] := by
  unfold Readiness.refresh
  rw [idle]
  dsimp only
  by_cases same : found = held
  · subst same
    rw [if_pos rfl, if_pos rfl]
    exact ⟨moved s _, rfl, rfl⟩
  · obtain ⟨state, stored, signatures⟩ := sole.current held (by rw [idle]; rfl)
    have other : ¬state.signatures = found := fun eq => same (eq.symm.trans signatures)
    rw [if_neg same, if_neg same]
    simp [ensure, ensureAuthority, stored, other, System.move, Effect.after]

/-- A fetch and an application read on. -/
theorem batch_rows (inv : Inv a s es) (sole : Sole s) {held : Signatures} (refreshed : s.phase () = .refreshed held)
    {batchSize : Int} (positive : 1 ≤ batchSize) (fits : tooLarge batchSize = false) (attribution : HostYear → Attribution) :
    (Effect.after (Effect.after es (fetch s () batchSize).1) (apply a (fetch s () batchSize).2 () attribution).1).map (·.row) =
      s.store.hostYears.table.rows.take (es.length + batchSize.toNat) := by
  obtain ⟨state, stored, signatures⟩ := sole.current held (by rw [refreshed]; rfl)
  obtain ⟨recounts, reads⟩ := inv.recounts state stored
  obtain ⟨page, answer, seen, -⟩ := reads.page positive fits
  have fetched : fetch s () batchSize = (.ok .kept, s.move () (.fetched held state.evidenceCursor page)) := by
    unfold Readiness.fetch Ledger.cursor
    rw [refreshed, stored]
    dsimp only
    rw [answer]
  have applied : (apply a (s.move () (.fetched held state.evidenceCursor page)) () attribution).1 =
      .ok (.applied (entries attribution page)) := by
    unfold Readiness.apply
    rw [moved]
    dsimp only
    rcases List.eq_nil_or_concat' page with rfl | ⟨most, last, isPage⟩
    · rfl
    · obtain ⟨first, isFirst⟩ : ∃ first, page.head? = some first := by
        rw [isPage]
        cases most <;> simp
      have isLast : page.getLast? = some last := by simp [isPage]
      have beyond : state.evidenceCursor < first.sequence := by
        have read := (readAfter_answer answer).subset (List.mem_of_mem_head? isFirst)
        simpa using (List.mem_filter.mp read).2
      rw [show (s.move () (.fetched held state.evidenceCursor page)).ledger = s.ledger from rfl,
        applyBatch_accepts recounts isFirst isLast beyond]
  rw [fetched, applied]
  show (es ++ entries attribution page).map (·.row) = _
  rw [List.map_append, entries_rows]
  rw [List.length_map] at seen
  exact seen

theorem sync_rows (inv : Inv a s es) (sole : Sole s) {held : Signatures} (idle : s.phase () = .idle held) (found : Signatures)
    {batchSize : Int} (positive : 1 ≤ batchSize) (fits : tooLarge batchSize = false) (attribution : HostYear → Attribution) :
    (Effect.after (Effect.after (Effect.after es (refresh s () found).1) (fetch (refresh s () found).2 () batchSize).1)
      (apply a (fetch (refresh s () found).2 () batchSize).2 () attribution).1).map (·.row) =
      s.store.hostYears.table.rows.take ((if found = held then es.length else 0) + batchSize.toNat) := by
  obtain ⟨refreshed, store, effect⟩ := refresh_effect es sole idle found
  rw [batch_rows (inv.refresh () found) (sole.refresh found) refreshed positive fits attribution, effect, store]
  congr 2
  split <;> rfl

end

theorem incremental_recomputed (a : Authorities) (burns : Bool) (es : List (Action Unit)) : Incremental a burns es where
  recomputed := (sole_inv a burns es).recomputed
  current := (sole_final a burns es).current
  once := by
    cases stored : ((runtimes Unit a burns).final es).ledger.state with
    | some state =>
      rw [(sole_inv a burns es).recomputed.rows state stored]
      refine List.Nodup.filter _ ?_
      exact ((((runtimes Unit a burns).final es).store.hostYears.increasing).imp fun less same => by
        rw [same] at less
        exact less.ne rfl)
    | none =>
      rw [(sole_inv a burns es).bare stored]
      exact List.nodup_nil
  synced held idle found batchSize attribution positive fits := by
    have rows := sync_rows (sole_inv a burns es) (sole_final a burns es) idle found positive fits attribution
    rw [← rows, Machine.trace_append]
    simp only [ledgered, List.foldl_append]
    rfl

/-! ## Several processes -/

/-- Every state of a run whose batches are fresh is recomputed. -/
theorem shared_recomputed {Process : Type} [DecidableEq Process] (a : Authorities) (burns : Bool) (es : List (Action Process))
    (allFresh : ∀ r ∈ (runtimes Process a burns).trace es, fresh r) (before after : List (Action Process))
    (split : es = before ++ after) :
    Recomputed a ((runtimes Process a burns).final before) (ledgered ((runtimes Process a burns).trace before)) := by
  subst split
  refine (inv_run a burns before fun r member => allFresh r ?_).recomputed
  rw [Machine.trace_append]
  exact List.mem_append_left _ member

def capsuleOf (hostname : String) : CapsuleFields where
  hostname := hostname
  year := 1996
  provider := "cdx"
  temporalSemantics := "capture"
  evidenceTimestamp := "1996"
  sourceLocator := "l"
  payloadHash := "h"
  policyVersion := "v1"
  evidenceType := "archive_capture"
  sourceId := "cdx"
  originalUrl := "l"
  recordLocator := "l"
  extractionMethod := "provider_record"

def capsuleA : EvidenceCapsule := ⟨capsuleOf "a.com", by decide +kernel, by decide +kernel⟩

/-- The baseline `y` has every host in 1996; no other baseline has any. -/
def twoBaselines : Authorities where
  masks baseline _ := if baseline = "y" then 1 else 0
  weights _ _ := some 1

/-- Two processes with different baselines, one after the other. -/
def inTurn : List (Action Bool) :=
  [.insert (.putMany [capsuleA] none), .start false ⟨"x", "m"⟩] ++ syncOnce false ⟨"x", "m"⟩ 10 (fun _ => ⟨none, none, none⟩) ++
    .start true ⟨"y", "m"⟩ :: syncOnce true ⟨"y", "m"⟩ 10 (fun _ => ⟨none, none, none⟩)

theorem inTurn_recomputed : (∀ r ∈ (runtimes Bool twoBaselines false).trace inTurn, fresh r) ∧
    Recomputed twoBaselines ((runtimes Bool twoBaselines false).final inTurn)
      (ledgered ((runtimes Bool twoBaselines false).trace inTurn)) := by
  have allFresh : ∀ r ∈ (runtimes Bool twoBaselines false).trace inTurn, fresh r := by decide +kernel
  exact ⟨allFresh, shared_recomputed twoBaselines false inTurn allFresh inTurn [] (List.append_nil _).symm⟩

/-- One process reads a batch, the other resets the ledger to its baseline, the batch is applied. -/
def resetBetween : List (Action Bool) :=
  [.insert (.putMany [capsuleA] none), .start false ⟨"x", "m"⟩, .refresh false ⟨"x", "m"⟩, .fetch false 10, .start true ⟨"y", "m"⟩,
    .apply false fun _ => ⟨none, none, none⟩]

theorem foreign_batch_applied : ¬∀ es : List (Action Bool),
    Recomputed twoBaselines ((runtimes Bool twoBaselines false).final es) (ledgered ((runtimes Bool twoBaselines false).trace es)) := by
  intro recomputed
  have counted : (((runtimes Bool twoBaselines false).final resetBetween).ledger.state.map
      fun state => (state.signatures, state.novelHostYears)) = some (⟨"y", "m"⟩, 1) := by decide +kernel
  have old : (novelOnes twoBaselines ⟨"y", "m"⟩ (ledgered ((runtimes Bool twoBaselines false).trace resetBetween))).length = 0 := by
    decide +kernel
  obtain ⟨state, stored, named⟩ := Option.map_eq_some_iff.mp counted
  obtain ⟨signatures, one⟩ := Prod.mk.inj named
  have none_ : state.novelHostYears = _ := ((recomputed resetBetween).recounts state stored).totals.novelHostYears
  rw [signatures, old, one] at none_
  cases none_

end Creeper.Readiness
