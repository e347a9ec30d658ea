import Creeper.Runs
import Creeper.Tables
import Creeper.FabricModels

/-!
# Work leases on reservoirs

`reservoirs` and `work_leases` of the control store: granting, saving, renewing,
finalizing, aborting and recovering leases. `save_lease` looks at the lease and writes
it in two steps, between which other processes may run.
-/

namespace Creeper.WorkLeases
open Creeper.Runs Creeper.Tables Creeper.PyNumbers
open Creeper.FabricModels (PyError blank)

/-! ## Leases and reservoirs -/

inductive LeaseState
  | created
  | granted
  | running
  | succeeded
  | paused
  | preempted
  | aborted
  | expired
  deriving DecidableEq, Repr

inductive ReservoirState
  | discovered
  | qualifying
  | ready
  | leased
  | running
  | paused
  | preempted
  | aborted
  | exhausted
  deriving DecidableEq, Repr

structure ReservoirRow where
  reservoirId : String
  cursor : Option String
  state : ReservoirState
  deriving DecidableEq

/-- The fields of a `WorkLease`, and the columns of `work_leases`. -/
structure LeaseFields where
  leaseId : String
  reservoirId : String
  cursorStart : Option String
  cursorEnd : Option String
  maxRecords : Int
  maxRequests : Int
  maxBytes : Int
  maxSeconds : PyFloat
  resourceClass : String
  expectedEvidenceTasks : Int
  expectedNovelEed : PyFloat
  owner : Option String
  expiresAt : Option PyFloat
  state : LeaseState
  deriving DecidableEq

/-- `math.isfinite(x) and x >= 0`. -/
def finiteNonneg (x : PyFloat) : Bool := x.isFinite && !x.lt (.fin 0)

/-- `__post_init__`. -/
def LeaseFields.postInit (l : LeaseFields) : Option String :=
  if blank l.leaseId then some "lease_id is required"
  else if blank l.reservoirId then some "reservoir_id is required"
  else if blank l.resourceClass then some "resource_class is required"
  else if l.maxRecords < 0 then some "max_records must be a non-negative integer"
  else if l.maxRequests < 0 then some "max_requests must be a non-negative integer"
  else if l.maxBytes < 0 then some "max_bytes must be a non-negative integer"
  else if l.expectedEvidenceTasks < 0 then some "expected_evidence_tasks must be a non-negative integer"
  else if !finiteNonneg l.maxSeconds then some "max_seconds must be finite and non-negative"
  else if !finiteNonneg l.expectedNovelEed then some "expected_novel_eed must be finite and non-negative"
  else if l.expiresAt.any (!finiteNonneg ·) then some "expires_at must be finite and non-negative"
  else if l.owner.any blank then some "owner must be non-empty when provided"
  else none

/-- A lease that passed its constructor. -/
structure WorkLease extends LeaseFields where
  valid : toLeaseFields.postInit = none

def WorkLease.make (l : LeaseFields) : Except PyError WorkLease :=
  match valid : l.postInit with
  | some problem => .error (.valueError problem)
  | none => .ok ⟨l, valid⟩

/-- `WorkLease.create(...).grant(owner=owner)`. -/
def WorkLease.granted (l : LeaseFields) (owner : String) : Except PyError WorkLease :=
  match WorkLease.make { l with owner := none, state := .created } with
  | .error e => .error e
  | .ok _ =>
    if blank owner then .error (.valueError "owner is required")
    else WorkLease.make { l with owner := some owner, state := .granted }

structure Store where
  reservoirs : Table ReservoirRow String (·.reservoirId)
  leases : Table LeaseFields String (·.leaseId)

abbrev Answer (α : Type) := Except PyError α × Store

/-! ## Calls -/

/-- `exhaust_ready_reservoir`. -/
def exhaustReadyReservoir (s : Store) (reservoirId : String) : Answer Bool :=
  (.ok ((s.reservoirs.get? reservoirId).any (·.state = .ready)), { s with
    reservoirs := s.reservoirs.update (fun r => r.reservoirId = reservoirId && r.state = .ready)
      ({ · with state := .exhausted, cursor := none }) })

/-- The bounds of a lease that `grant_fresh_lease` is called with. -/
structure LeaseBounds where
  maxRecords : Int
  maxRequests : Int
  maxBytes : Int
  maxSeconds : PyFloat
  resourceClass : String
  expectedEvidenceTasks : Int
  expectedNovelEed : PyFloat

/-- `grant_fresh_lease`; `leaseId` is the drawn identifier. -/
def grantFreshLease (s : Store) (leaseId reservoirId owner : String) (bounds : LeaseBounds) (now : PyFloat)
    (leaseTtlSeconds : Option PyFloat) (initialCursor : Option String) : Answer (Option WorkLease) :=
  if !finiteNonneg now then (.error (.valueError "lease grant time must be finite and non-negative"), s)
  else if leaseTtlSeconds.any (fun ttl => !ttl.isFinite || ttl.le (.fin 0)) then
    (.error (.valueError "lease_ttl_seconds must be finite and positive"), s)
  else
    match (s.reservoirs.get? reservoirId).filter (·.state = .ready) with
    | none => (.ok none, s)
    | some reservoir =>
      let durableCursor := reservoir.cursor.or initialCursor
      match WorkLease.granted {
          leaseId, reservoirId, cursorStart := durableCursor, cursorEnd := none, maxRecords := bounds.maxRecords,
          maxRequests := bounds.maxRequests, maxBytes := bounds.maxBytes, maxSeconds := bounds.maxSeconds,
          resourceClass := bounds.resourceClass, expectedEvidenceTasks := bounds.expectedEvidenceTasks,
          expectedNovelEed := bounds.expectedNovelEed, owner := none,
          expiresAt := some (now.add (leaseTtlSeconds.getD bounds.maxSeconds)), state := .created } owner with
      | .error e => (.error e, s)
      | .ok lease =>
        if (s.leases.get? leaseId).isSome then (.error .integrityError, s)
        else (.ok (some lease), {
          reservoirs := s.reservoirs.update (fun r => r.reservoirId = reservoirId && r.state = .ready)
            ({ · with state := .leased, cursor := durableCursor })
          leases := s.leases.insert lease.toLeaseFields })

/-- `save_lease` up to its transaction. -/
def checkLease (s : Store) (l : LeaseFields) : Except PyError WorkLease :=
  match WorkLease.make l with
  | .error e => .error e
  | .ok lease =>
    if lease.state = .running && !(s.leases.get? lease.leaseId).any (·.state = .granted) then
      .error (.valueError "a lease must be persisted as GRANTED before RUNNING")
    else .ok lease

/-- The transaction of `save_lease`. -/
def upsertLease (s : Store) (lease : WorkLease) : Answer Unit :=
  if lease.expiresAt.isNone || (s.reservoirs.get? lease.reservoirId).isNone then (.error .integrityError, s)
  else (.ok (), { s with
    leases := s.leases.upsert lease.toLeaseFields (fun old => { lease.toLeaseFields with leaseId := old.leaseId }) })

/-- `renew_lease` of a lease with an identifier and an owner. -/
def renewLease (s : Store) (clock : PyFloat) (leaseId owner : String) (ttlSeconds : PyFloat) (now : Option PyFloat) :
    Answer PyFloat :=
  if !ttlSeconds.isFinite || ttlSeconds.le (.fin 0) then (.error (.valueError "ttl_seconds must be finite and positive"), s)
  else if leaseId = "" || owner = "" then (.error (.valueError "an owned lease is required"), s)
  else if now.any (!finiteNonneg ·) || !finiteNonneg clock then
    (.error (.valueError "lease renewal time must be finite and non-negative"), s)
  else
    let current := (now.map clock.max).getD clock
    match (s.leases.get? leaseId).filter (fun l => l.owner = some owner && (l.state = .granted || l.state = .running)) with
    | none => (.error (.valueError "lease is not live or is not owned by caller"), s)
    | some row =>
      if row.expiresAt.any (·.le current) then (.error (.runtimeError "source lease expired before renewal"), s)
      else
        let expires := (current.add ttlSeconds).max (row.expiresAt.getD (.fin 0))
        (.ok expires, { s with leases := s.leases.update (·.leaseId = leaseId) ({ · with expiresAt := some expires }) })

/-- Ending a lease, and its reservoir with it if that is in one of some states. -/
def endLease (s : Store) (leaseId : String) (state : LeaseState) (reservoirId : String) (held : List ReservoirState)
    (target : ReservoirState) (cursor : Option String) : Store where
  reservoirs := s.reservoirs.update (fun r => r.reservoirId = reservoirId && held.contains r.state)
    ({ · with state := target, cursor })
  leases := s.leases.update (·.leaseId = leaseId) ({ · with state })

/-- `finalize_lease`. -/
def finalizeLease (s : Store) (clock : PyFloat) (leaseId reservoirId owner : String) (nextCursor : Option String)
    (exhausted : Bool) : Answer Unit :=
  if leaseId = "" || reservoirId = "" || owner = "" then
    (.error (.valueError "a running lease with an owner is required"), s)
  else if exhausted && nextCursor.isSome then (.error (.valueError "an exhausted lease cannot retain next_cursor"), s)
  else if !exhausted && nextCursor.isNone then (.error (.valueError "a non-exhausted lease must provide next_cursor"), s)
  else if !finiteNonneg clock then (.error (.valueError "lease finalize time must be finite and non-negative"), s)
  else
    match (s.leases.get? leaseId).filter
        (fun l => l.state = .running && l.owner = some owner && l.reservoirId = reservoirId) with
    | none => (.error (.valueError "lease is not running or is not owned by caller"), s)
    | some row =>
      if row.expiresAt.all (·.le clock) then (.error (.runtimeError "source lease expired before final commit"), s)
      else if !(s.reservoirs.get? reservoirId).any (fun r => [.leased, .running].contains r.state) then
        (.error (.valueError "reservoir is not owned by running lease"), s)
      else (.ok (), endLease s leaseId .succeeded reservoirId [.leased, .running]
        (if exhausted then .exhausted else .ready) nextCursor)

/-- The states from which an abort or a recovery gives a reservoir back. -/
def heldStates : List ReservoirState := [.leased, .running, .paused, .preempted]

/-- `abort_lease`. -/
def abortLease (s : Store) (leaseId reservoirId owner : String) : Answer Unit :=
  if leaseId = "" || reservoirId = "" || owner = "" then (.error (.valueError "an owned lease is required"), s)
  else
    match s.leases.get? leaseId with
    | none => (.error (.keyError ("unknown lease: " ++ leaseId)), s)
    | some row =>
      if row.owner ≠ some owner || row.reservoirId ≠ reservoirId then
        (.error (.valueError "lease is not owned by caller"), s)
      else if !([.granted, .running, .paused, .preempted] : List LeaseState).contains row.state then
        (.error (.valueError "lease is not active"), s)
      else if !(s.reservoirs.get? reservoirId).any (fun r => heldStates.contains r.state) then
        (.error (.valueError "reservoir is not owned by active lease"), s)
      else (.ok (), endLease s leaseId .aborted reservoirId heldStates .ready row.cursorStart)

/-- `recover_expired_leases`. -/
def recoverExpiredLeases (s : Store) (clock : PyFloat) (now : Option PyFloat) : Answer Nat :=
  let current := now.getD clock
  if !finiteNonneg current then (.error (.valueError "lease recovery time must be finite and non-negative"), s)
  else
    let rows := s.leases.rows.filter (fun l => l.expiresAt.any (·.le current) && (l.state = .granted || l.state = .running))
    (.ok rows.length, rows.foldl
      (fun s row => endLease s row.leaseId .expired row.reservoirId heldStates .ready row.cursorStart) s)

/-! ## Processes -/

/-- What a process does next. -/
inductive LeaseOp
  | grant (leaseId reservoirId owner : String) (bounds : LeaseBounds) (now : PyFloat) (leaseTtlSeconds : Option PyFloat)
      (initialCursor : Option String)
  /-- `save_lease` up to its transaction. -/
  | check (lease : LeaseFields)
  /-- The transaction of `save_lease`. -/
  | upsert
  | renew (leaseId owner : String) (ttlSeconds : PyFloat) (now : Option PyFloat)
  | finalize (leaseId reservoirId owner : String) (nextCursor : Option String) (exhausted : Bool)
  | abort (leaseId reservoirId owner : String)
  | recover (now : Option PyFloat)
  | exhaust (reservoirId : String)
  /-- The process dies, and forgets what it was saving. -/
  | stop

/-- A step of a process, at a reading of the clock. -/
structure LeaseEvent where
  clock : PyFloat
  process : String
  op : LeaseOp

/-- The tables, and the lease that every process is saving. -/
structure System where
  store : Store
  saving : String → Option WorkLease

/-- Whether a step raised. -/
abbrev Outcome := Except PyError Unit

def System.wrote {α : Type} (s : System) (answer : Answer α) : Outcome × System :=
  ((fun _ => ()) <$> answer.1, { s with store := answer.2 })

/-- One step. A process that is saving a lease does nothing else before it has written it. -/
def step (s : System) (e : LeaseEvent) : Outcome × System :=
  match e.op, s.saving e.process with
  | .stop, _ => (.ok (), { s with saving := Function.update s.saving e.process none })
  | .upsert, some lease => { s with saving := Function.update s.saving e.process none }.wrote (upsertLease s.store lease)
  | .grant id r owner bounds now ttl initial, none => s.wrote (grantFreshLease s.store id r owner bounds now ttl initial)
  | .check l, none =>
    match checkLease s.store l with
    | .error e => (.error e, s)
    | .ok lease => (.ok (), { s with saving := Function.update s.saving e.process (some lease) })
  | .renew id owner ttl now, none => s.wrote (renewLease s.store e.clock id owner ttl now)
  | .finalize id r owner next exhausted, none => s.wrote (finalizeLease s.store e.clock id r owner next exhausted)
  | .abort id r owner, none => s.wrote (abortLease s.store id r owner)
  | .recover now, none => s.wrote (recoverExpiredLeases s.store e.clock now)
  | .exhaust r, none => s.wrote (exhaustReadyReservoir s.store r)
  | _, _ => (.ok (), s)

/-- The processes over reservoirs without leases. -/
def processes (reservoirs : Table ReservoirRow String (·.reservoirId)) : Machine System LeaseEvent Outcome where
  initial := ⟨⟨reservoirs, .empty⟩, fun _ => none⟩
  step := step

/-! ## Safety -/

def LeaseFields.Live (l : LeaseFields) : Prop := l.state = .granted ∨ l.state = .running

def ReservoirRow.Taken (r : ReservoirRow) : Prop := r.state = .leased ∨ r.state = .running

instance (l : LeaseFields) : Decidable l.Live := by unfold LeaseFields.Live; infer_instance
instance (r : ReservoirRow) : Decidable r.Taken := by unfold ReservoirRow.Taken; infer_instance

/-- Where a successful finalization started and what it left. -/
structure Finalized where
  cursorStart : Option String
  nextCursor : Option String
  deriving DecidableEq

def finalized (reservoirId : String) (r : Step System LeaseEvent Outcome) : Option Finalized :=
  match r.event.op, r.before.saving r.event.process, r.outcome with
  | .finalize id reservoir _ next _, none, .ok _ =>
    if reservoir = reservoirId then (r.before.store.leases.get? id).map (fun l => ⟨l.cursorStart, next⟩) else none
  | _, _, _ => none

/-- The calls that move a cursor on. -/
def Moves (op : LeaseOp) : Prop :=
  match op with
  | .grant .. | .finalize .. | .exhaust .. => True
  | _ => False

/-- A write of `save_lease` that is accepted finds the lease as alive as it leaves it: a live lease
    replaces the live lease with its identifier, on the same reservoir from the same cursor, and a
    lease that has ended replaces no live one. -/
def Upholds (s : System) (e : LeaseEvent) : Prop :=
  match e.op, s.saving e.process with
  | .upsert, some lease => lease.expiresAt.isSome → (s.store.reservoirs.get? lease.reservoirId).isSome →
    match lease.state with
    | .granted | .running => ∃ row, s.store.leases.get? lease.leaseId = some row ∧ row.Live ∧
        row.reservoirId = lease.reservoirId ∧ row.cursorStart = lease.cursorStart
    | .paused | .preempted => False
    | _ => ∀ row, s.store.leases.get? lease.leaseId = some row → ¬row.Live
  | _, _ => True

structure LeaseSafe (reservoirs : Table ReservoirRow String (·.reservoirId)) (es : List LeaseEvent) : Prop where
  /-- A reservoir has at most one live lease. -/
  single : ∀ before after, es = before ++ after → ∀ l ∈ ((processes reservoirs).final before).store.leases.rows,
    ∀ l' ∈ ((processes reservoirs).final before).store.leases.rows, l.Live → l'.Live → l.reservoirId = l'.reservoirId → l = l'
  /-- It has one exactly when it is taken. -/
  exact_ : ∀ before after, es = before ++ after → ∀ r ∈ ((processes reservoirs).final before).store.reservoirs.rows,
    r.Taken ↔ ∃ l ∈ ((processes reservoirs).final before).store.leases.rows, l.Live ∧ l.reservoirId = r.reservoirId
  /-- Every finalized lease starts where the one before it ended. -/
  chain : ∀ reservoirId, (((processes reservoirs).trace es).filterMap (finalized reservoirId)).IsChain
    (fun first second => second.cursorStart = first.nextCursor)
  /-- Every other call leaves the cursors, and so does a call that raises. -/
  steady : ∀ r ∈ (processes reservoirs).trace es, (Moves r.event.op → ∃ err, r.outcome = .error err) →
    ∀ id row, r.before.store.reservoirs.get? id = some row →
      ∃ row', r.after.store.reservoirs.get? id = some row' ∧ row'.cursor = row.cursor

/-! ## The invariant -/

/-- Live leases and taken reservoirs name each other, and agree on the cursor. -/
structure Inv (s : Store) : Prop where
  single : ∀ l ∈ s.leases.rows, ∀ l' ∈ s.leases.rows, l.Live → l'.Live → l.reservoirId = l'.reservoirId → l = l'
  taken : ∀ l ∈ s.leases.rows, l.Live → ∃ r, s.reservoirs.get? l.reservoirId = some r ∧ r.Taken ∧ r.cursor = l.cursorStart
  holder : ∀ r ∈ s.reservoirs.rows, r.Taken → ∃ l ∈ s.leases.rows, l.Live ∧ l.reservoirId = r.reservoirId
  unpaused : ∀ l ∈ s.leases.rows, l.state ≠ .paused ∧ l.state ≠ .preempted

theorem taken_held {r : ReservoirRow} {held : List ReservoirState} (leased : .leased ∈ held) (running : .running ∈ held)
    (taken : r.Taken) : r.state ∈ held := by
  rcases taken with state | state <;> rw [state] <;> assumption

/-- Rewriting leases so that the live ones stay live, on their reservoir from their cursor. -/
theorem inv_update {s : Store} (inv : Inv s) {where_ : LeaseFields → Bool} {set : LeaseFields → LeaseFields}
    {keeps : ∀ l, (set l).leaseId = l.leaseId}
    (same : ∀ l ∈ s.leases.rows, where_ l → ((set l).Live ↔ l.Live) ∧
      (l.Live → (set l).reservoirId = l.reservoirId ∧ (set l).cursorStart = l.cursorStart) ∧
      (set l).state ≠ .paused ∧ (set l).state ≠ .preempted) :
    Inv { s with leases := s.leases.update where_ set keeps } := by
  have old : ∀ l' ∈ (s.leases.update where_ set keeps).rows, ∃ l ∈ s.leases.rows,
      l' = (if where_ l then set l else l) ∧ (l'.Live ↔ l.Live) ∧
      (l.Live → l'.reservoirId = l.reservoirId ∧ l'.cursorStart = l.cursorStart) ∧
      l'.state ≠ .paused ∧ l'.state ≠ .preempted := by
    intro l' member
    obtain ⟨l, stored, rfl⟩ := List.mem_map.mp member
    refine ⟨l, stored, rfl, ?_⟩
    split
    · rename_i hit
      exact same l stored hit
    · exact ⟨Iff.rfl, fun _ => ⟨rfl, rfl⟩, inv.unpaused l stored⟩
  refine ⟨?_, ?_, ?_, ?_⟩
  · intro l' first m' second live live' reservoir
    obtain ⟨l, stored, isImage, alive, view, -⟩ := old l' first
    obtain ⟨m, stored', isImage', alive', view', -⟩ := old m' second
    have one := inv.single l stored m stored' (alive.mp live) (alive'.mp live')
      ((view (alive.mp live)).1.symm.trans (reservoir.trans (view' (alive'.mp live')).1))
    rw [isImage, isImage', one]
  · intro l' member live
    obtain ⟨l, stored, -, alive, view, -⟩ := old l' member
    obtain ⟨r, found, taken, cursor⟩ := inv.taken l stored (alive.mp live)
    obtain ⟨reservoir, start⟩ := view (alive.mp live)
    exact ⟨r, by rw [reservoir, found], taken, cursor.trans start.symm⟩
  · intro r member taken
    obtain ⟨l, stored, live, reservoir⟩ := inv.holder r member taken
    have image : (if where_ l then set l else l) ∈ (s.leases.update where_ set keeps).rows := List.mem_map.mpr ⟨l, stored, rfl⟩
    refine ⟨_, image, ?_⟩
    split
    · rename_i hit
      obtain ⟨alive, view, -⟩ := same l stored hit
      exact ⟨alive.mpr live, (view live).1.trans reservoir⟩
    · exact ⟨live, reservoir⟩
  · intro l' member
    exact (old l' member).choose_spec.2.2.2.2

/-- Ending a live lease together with its reservoir. -/
theorem inv_end {s : Store} (inv : Inv s) {l : LeaseFields} (stored : l ∈ s.leases.rows) (live : l.Live) (state : LeaseState)
    (dead : state ≠ .granted ∧ state ≠ .running ∧ state ≠ .paused ∧ state ≠ .preempted) (held : List ReservoirState)
    (leased : .leased ∈ held) (running : .running ∈ held) (target : ReservoirState)
    (free : target ≠ .leased ∧ target ≠ .running) (cursor : Option String) :
    Inv (endLease s l.leaseId state l.reservoirId held target cursor) := by
  have old : ∀ l' ∈ (endLease s l.leaseId state l.reservoirId held target cursor).leases.rows, l'.Live →
      l' ∈ s.leases.rows ∧ l'.reservoirId ≠ l.reservoirId := by
    intro l' member live'
    obtain ⟨m, stored', ⟨-, rfl⟩ | ⟨other, rfl⟩⟩ := mem_update member
    · rcases live' with bad | bad
      · exact absurd bad dead.1
      · exact absurd bad dead.2.1
    · refine ⟨stored', fun same => ?_⟩
      rw [inv.single l' stored' l stored live' live same] at other
      simp at other
  refine ⟨?_, ?_, ?_, ?_⟩
  · intro l' first m' second live' live'' reservoir
    exact inv.single l' (old l' first live').1 m' (old m' second live'').1 live' live'' reservoir
  · intro l' member live'
    obtain ⟨stored', other⟩ := old l' member live'
    obtain ⟨r, found, taken, start⟩ := inv.taken l' stored' live'
    refine ⟨r, ?_, taken, start⟩
    have name : r.reservoirId = l'.reservoirId := Table.get?_key found
    simp only [endLease, Table.get?_update, found, Option.map_some, name, other, decide_false, Bool.false_and]
    rfl
  · intro r' member taken
    obtain ⟨r, stored', ⟨-, rfl⟩ | ⟨miss, rfl⟩⟩ := mem_update member
    · rcases taken with bad | bad
      · exact absurd bad free.1
      · exact absurd bad free.2
    · obtain ⟨m, isLease, live', reservoir⟩ := inv.holder r' stored' taken
      refine ⟨m, List.mem_map.mpr ⟨m, isLease, ?_⟩, live', reservoir⟩
      rw [if_neg]
      intro same
      have one := Table.row_unique isLease stored (of_decide_eq_true same)
      rw [one] at reservoir
      simp [← reservoir, taken_held leased running taken] at miss
  · intro l' member
    obtain ⟨m, stored', ⟨-, rfl⟩ | ⟨-, rfl⟩⟩ := mem_update member
    · exact dead.2.2
    · exact inv.unpaused l' stored'

/-- Every reservoir keeps its cursor, and an exhausted one stays so. -/
def Rests (s s' : Store) : Prop :=
  ∀ id row, s.reservoirs.get? id = some row → ∃ row', s'.reservoirs.get? id = some row' ∧ row'.cursor = row.cursor ∧
    (row.state = .exhausted → row'.state = .exhausted)

theorem rests_same {s s' : Store} (same : s'.reservoirs = s.reservoirs) : Rests s s' :=
  fun _ row found => ⟨row, by rw [same, found], rfl, id⟩

theorem Rests.trans {s s' s'' : Store} (first : Rests s s') (second : Rests s' s'') : Rests s s'' := by
  intro id row found
  obtain ⟨row', found', cursor, done⟩ := first id row found
  obtain ⟨row'', found'', cursor', done'⟩ := second id row' found'
  exact ⟨row'', found'', cursor'.trans cursor, done' ∘ done⟩

/-- Ending a live lease at its own cursor leaves every cursor as it is. -/
theorem rests_end {s : Store} (inv : Inv s) {l : LeaseFields} (stored : l ∈ s.leases.rows) (live : l.Live) {state : LeaseState}
    {held : List ReservoirState} (open_ : .exhausted ∉ held) {target : ReservoirState} :
    Rests s (endLease s l.leaseId state l.reservoirId held target l.cursorStart) := by
  intro id row found
  obtain ⟨r, isReservoir, -, start⟩ := inv.taken l stored live
  have after : (endLease s l.leaseId state l.reservoirId held target l.cursorStart).reservoirs.get? id = some
      (if (row.reservoirId = l.reservoirId && held.contains row.state) = true then
        { row with state := target, cursor := l.cursorStart } else row) := by
    simp only [endLease, Table.get?_update, found, Option.map_some]
  refine ⟨_, after, ?_⟩
  split
  · rename_i hit
    simp only [Bool.and_eq_true, decide_eq_true_eq, List.contains_eq_mem] at hit
    have name := Table.get?_key found
    rw [← hit.1, name, found] at isReservoir
    cases isReservoir
    exact ⟨start.symm, fun done => absurd (done ▸ hit.2) open_⟩
  · exact ⟨rfl, fun done => done⟩

theorem inv_recover {rows : List LeaseFields} (distinct : (rows.map (·.leaseId)).Nodup) {s : Store} (inv : Inv s)
    (live : ∀ l ∈ rows, l ∈ s.leases.rows ∧ l.Live) :
    Inv (rows.foldl (fun s l => endLease s l.leaseId .expired l.reservoirId heldStates .ready l.cursorStart) s) ∧
      Rests s (rows.foldl (fun s l => endLease s l.leaseId .expired l.reservoirId heldStates .ready l.cursorStart) s) := by
  induction rows generalizing s with
  | nil => exact ⟨inv, rests_same rfl⟩
  | cons l rest ih =>
    obtain ⟨apart, distinct⟩ := List.nodup_cons.mp distinct
    obtain ⟨stored, alive⟩ := live l List.mem_cons_self
    have ended := inv_end inv stored alive .expired (by decide) heldStates (by decide) (by decide)
      .ready (by decide) l.cursorStart
    have others : ∀ m ∈ rest, m ∈ (endLease s l.leaseId .expired l.reservoirId heldStates .ready l.cursorStart).leases.rows ∧
        m.Live := by
      intro m member
      obtain ⟨stored', alive'⟩ := live m (List.mem_cons_of_mem _ member)
      refine ⟨List.mem_map.mpr ⟨m, stored', if_neg ?_⟩, alive'⟩
      intro same
      exact apart (List.mem_map.mpr ⟨m, member, of_decide_eq_true same⟩)
    obtain ⟨after, rests⟩ := ih distinct ended others
    exact ⟨after, (rests_end inv stored alive (by decide)).trans rests⟩

/-! ## One call -/

theorem make_ok {l : LeaseFields} {lease : WorkLease} (made : WorkLease.make l = .ok lease) : lease.toLeaseFields = l := by
  unfold WorkLease.make at made
  split at made
  · cases made
  · cases made
    rfl

theorem granted_ok {l : LeaseFields} {owner : String} {lease : WorkLease} (made : WorkLease.granted l owner = .ok lease) :
    lease.toLeaseFields = { l with owner := some owner, state := .granted } := by
  unfold WorkLease.granted at made
  split at made
  · cases made
  · split at made
    · cases made
    · exact make_ok made

section
variable (s : Store)

/-- The answers of `grant_fresh_lease`. -/
inductive GrantAnswer (leaseId reservoirId : String) (initialCursor : Option String) : Answer (Option WorkLease) → Prop
  | refused (err : PyError) : GrantAnswer leaseId reservoirId initialCursor (.error err, s)
  | idle : GrantAnswer leaseId reservoirId initialCursor (.ok none, s)
  | granted (row : ReservoirRow) (found : s.reservoirs.get? reservoirId = some row) (ready : row.state = .ready)
      (lease : WorkLease) (fresh : s.leases.get? leaseId = none) (name : lease.leaseId = leaseId) (live : lease.state = .granted)
      (reservoir : lease.reservoirId = reservoirId) (start : lease.cursorStart = row.cursor.or initialCursor) :
      GrantAnswer leaseId reservoirId initialCursor (.ok (some lease), {
        reservoirs := s.reservoirs.update (fun r => r.reservoirId = reservoirId && r.state = .ready)
          ({ · with state := .leased, cursor := row.cursor.or initialCursor })
        leases := s.leases.insert lease.toLeaseFields })

theorem grant_cases (leaseId reservoirId owner : String) (bounds : LeaseBounds) (now : PyFloat) (ttl : Option PyFloat)
    (initialCursor : Option String) : GrantAnswer s leaseId reservoirId initialCursor
      (grantFreshLease s leaseId reservoirId owner bounds now ttl initialCursor) := by
  unfold grantFreshLease
  split
  · exact .refused _
  split
  · exact .refused _
  split
  · exact .idle
  rename_i row isRow
  obtain ⟨found, ready⟩ := Option.filter_eq_some_iff.mp isRow
  dsimp only
  split
  · exact .refused _
  rename_i lease made
  split
  · exact .refused _
  · rename_i fresh
    have fields := granted_ok made
    refine .granted row found (of_decide_eq_true ready) lease (Option.not_isSome_iff_eq_none.mp fresh) ?_ ?_ ?_ ?_ <;> rw [fields]

/-- The answers of `finalize_lease`. -/
theorem finalize_cases (clock : PyFloat) (leaseId reservoirId owner : String) (next : Option String) (exhausted : Bool) :
    (∃ err, finalizeLease s clock leaseId reservoirId owner next exhausted = (.error err, s)) ∨
      ∃ l, s.leases.get? leaseId = some l ∧ l.state = .running ∧ l.reservoirId = reservoirId ∧ next.isNone = exhausted ∧
        finalizeLease s clock leaseId reservoirId owner next exhausted = (.ok (),
          endLease s leaseId .succeeded reservoirId [.leased, .running] (if exhausted then .exhausted else .ready) next) := by
  unfold finalizeLease
  split
  · exact .inl ⟨_, rfl⟩
  split
  · exact .inl ⟨_, rfl⟩
  rename_i retained
  split
  · exact .inl ⟨_, rfl⟩
  rename_i provided
  split
  · exact .inl ⟨_, rfl⟩
  split
  · exact .inl ⟨_, rfl⟩
  rename_i l isLease
  obtain ⟨found, owned⟩ := Option.filter_eq_some_iff.mp isLease
  simp only [Bool.and_eq_true, decide_eq_true_eq] at owned
  split
  · exact .inl ⟨_, rfl⟩
  split
  · exact .inl ⟨_, rfl⟩
  · refine .inr ⟨l, found, owned.1.1, owned.2, ?_, rfl⟩
    cases exhausted <;> cases next <;> simp_all

/-- The answers of `abort_lease`. -/
theorem abort_cases (leaseId reservoirId owner : String) :
    (∃ err, abortLease s leaseId reservoirId owner = (.error err, s)) ∨
      ∃ l, s.leases.get? leaseId = some l ∧ (l.Live ∨ l.state = .paused ∨ l.state = .preempted) ∧ l.reservoirId = reservoirId ∧
        abortLease s leaseId reservoirId owner =
          (.ok (), endLease s leaseId .aborted reservoirId heldStates .ready l.cursorStart) := by
  unfold abortLease
  split
  · exact .inl ⟨_, rfl⟩
  split
  · exact .inl ⟨_, rfl⟩
  rename_i l found
  split
  · exact .inl ⟨_, rfl⟩
  rename_i owned
  split
  · exact .inl ⟨_, rfl⟩
  rename_i active
  split
  · exact .inl ⟨_, rfl⟩
  · refine .inr ⟨l, found, ?_, ?_, rfl⟩
    · simp only [Bool.not_eq_true', Bool.not_eq_false, List.contains_eq_mem, decide_eq_true_eq, List.mem_cons,
        List.not_mem_nil, or_false] at active
      rcases active with state | state | state | state
      · exact .inl (.inl state)
      · exact .inl (.inr state)
      · exact .inr (.inl state)
      · exact .inr (.inr state)
    · simp only [Bool.or_eq_true, decide_eq_true_eq, not_or, not_not] at owned
      exact owned.2

/-- The answers of `renew_lease`. -/
theorem renew_cases (clock : PyFloat) (leaseId owner : String) (ttl : PyFloat) (now : Option PyFloat) :
    (∃ err, renewLease s clock leaseId owner ttl now = (.error err, s)) ∨ ∃ expires,
      renewLease s clock leaseId owner ttl now =
        (.ok expires, { s with leases := s.leases.update (·.leaseId = leaseId) ({ · with expiresAt := some expires }) }) := by
  unfold renewLease
  split
  · exact .inl ⟨_, rfl⟩
  split
  · exact .inl ⟨_, rfl⟩
  split
  · exact .inl ⟨_, rfl⟩
  dsimp only
  split
  · exact .inl ⟨_, rfl⟩
  split
  · exact .inl ⟨_, rfl⟩
  · exact .inr ⟨_, rfl⟩

/-- The answers of the transaction of `save_lease`. -/
theorem upsert_cases (lease : WorkLease) :
    (∃ err, upsertLease s lease = (.error err, s)) ∨
      lease.expiresAt.isSome ∧ (s.reservoirs.get? lease.reservoirId).isSome ∧ upsertLease s lease = (.ok (), { s with
        leases := s.leases.upsert lease.toLeaseFields (fun old => { lease.toLeaseFields with leaseId := old.leaseId }) }) := by
  unfold upsertLease
  split
  · exact .inl ⟨_, rfl⟩
  · rename_i stored
    simp only [Bool.or_eq_true, not_or, Option.isNone_iff_eq_none, ← Option.isSome_iff_ne_none] at stored
    exact .inr ⟨stored.1, stored.2, rfl⟩

/-- The answers of `recover_expired_leases`. -/
theorem recover_cases (clock : PyFloat) (now : Option PyFloat) :
    (∃ err, recoverExpiredLeases s clock now = (.error err, s)) ∨ ∃ rows : List LeaseFields, (rows.map (·.leaseId)).Nodup ∧
      (∀ l ∈ rows, l ∈ s.leases.rows ∧ l.Live) ∧ recoverExpiredLeases s clock now = (.ok rows.length, rows.foldl
        (fun s l => endLease s l.leaseId .expired l.reservoirId heldStates .ready l.cursorStart) s) := by
  unfold recoverExpiredLeases
  dsimp only
  split
  · exact .inl ⟨_, rfl⟩
  · refine .inr ⟨_, s.leases.keyed.sublist (List.filter_sublist.map _), ?_, rfl⟩
    intro l member
    obtain ⟨stored, expired⟩ := List.mem_filter.mp member
    simp only [Bool.and_eq_true, Bool.or_eq_true, decide_eq_true_eq] at expired
    exact ⟨stored, expired.2⟩

theorem ended_leases (rows : List LeaseFields) {id : String} {l' : LeaseFields}
    (found : (rows.foldl (fun s l => endLease s l.leaseId .expired l.reservoirId heldStates .ready l.cursorStart)
      s).leases.get? id = some l') :
    ∃ l, s.leases.get? id = some l ∧ (l' = l ∨ (∃ r ∈ rows, r.leaseId = id) ∧ l' = { l with state := .expired }) := by
  induction rows generalizing s with
  | nil => exact ⟨l', found, .inl rfl⟩
  | cons first rest ih =>
    obtain ⟨m, isM, after⟩ := ih _ found
    simp only [endLease, Table.get?_update, Option.map_eq_some_iff] at isM
    obtain ⟨l, isL, rfl⟩ := isM
    refine ⟨l, isL, ?_⟩
    by_cases here : l.leaseId = first.leaseId
    · refine .inr ⟨⟨first, List.mem_cons_self, here.symm.trans (Table.get?_key isL)⟩, ?_⟩
      simp only [here, decide_true, if_true] at after
      rcases after with same | ⟨-, same⟩ <;> rw [same, here]
    · simp only [here, decide_false, Bool.false_eq_true, if_false] at after
      rcases after with rfl | ⟨⟨r, member, name⟩, same⟩
      · exact .inl rfl
      · exact .inr ⟨⟨r, List.mem_cons_of_mem _ member, name⟩, same⟩

/-- What `recover_expired_leases` makes of a lease. -/
theorem recover_leases (clock : PyFloat) {id : String} {l' : LeaseFields}
    (found : (recoverExpiredLeases s clock (some clock)).2.leases.get? id = some l') :
    ∃ l, s.leases.get? id = some l ∧ (l' = l ∨ l.Live ∧ l.expiresAt.any (·.le clock) ∧ l' = { l with state := .expired }) := by
  unfold recoverExpiredLeases at found
  dsimp only [Option.getD_some] at found
  split at found
  · exact ⟨l', found, .inl rfl⟩
  · obtain ⟨l, isL, same | ⟨⟨r, member, name⟩, same⟩⟩ := ended_leases s _ found
    · exact ⟨l, isL, .inl same⟩
    · obtain ⟨stored, expired⟩ := List.mem_filter.mp member
      have one : r = l := Table.row_unique stored (Table.mem_of_get? isL) (name.trans (Table.get?_key isL).symm)
      subst one
      simp only [Bool.and_eq_true, Bool.or_eq_true, decide_eq_true_eq] at expired
      exact ⟨r, isL, .inr ⟨expired.2, expired.1, same⟩⟩

end

/-! ## Steps -/

section
variable {s : Store}

theorem inv_granted (inv : Inv s) {row : ReservoirRow} {reservoirId : String}
    (found : s.reservoirs.get? reservoirId = some row) (ready : row.state = .ready) {lease : LeaseFields}
    (fresh : s.leases.get? lease.leaseId = none) (live : lease.state = .granted) (reservoir : lease.reservoirId = reservoirId) :
    Inv { reservoirs := s.reservoirs.update (fun r => r.reservoirId = reservoirId && r.state = .ready)
            ({ · with state := .leased, cursor := lease.cursorStart })
          leases := s.leases.insert lease } := by
  have stored : ∀ l, l ∈ (s.leases.insert lease).rows ↔ l ∈ s.leases.rows ∨ l = lease := by
    intro l
    rw [Table.rows_insert fresh, List.mem_append, List.mem_singleton]
  -- No live lease names the reservoir, since that is not taken.
  have other : ∀ l ∈ s.leases.rows, l.Live → l.reservoirId ≠ reservoirId := by
    intro l member alive same
    obtain ⟨r, isReservoir, taken, -⟩ := inv.taken l member alive
    rw [same, found] at isReservoir
    cases isReservoir
    rcases taken with state | state <;> rw [ready] at state <;> cases state
  refine ⟨?_, ?_, ?_, ?_⟩
  · intro l first l' second alive alive' same
    rcases (stored l).mp first with old | rfl <;> rcases (stored l').mp second with old' | rfl
    · exact inv.single l old l' old' alive alive' same
    · exact absurd (same.trans reservoir) (other l old alive)
    · exact absurd (same.symm.trans reservoir) (other l' old' alive')
    · rfl
  · intro l member alive
    rcases (stored l).mp member with old | rfl
    · obtain ⟨r, isReservoir, taken, start⟩ := inv.taken l old alive
      refine ⟨r, ?_, taken, start⟩
      have name : r.reservoirId = l.reservoirId := Table.get?_key isReservoir
      simp only [Table.get?_update, isReservoir, Option.map_some, name, other l old alive, decide_false, Bool.false_and]
      rfl
    · refine ⟨{ row with state := .leased, cursor := l.cursorStart }, ?_, .inl rfl, rfl⟩
      have name : row.reservoirId = reservoirId := Table.get?_key found
      simp [reservoir, Table.get?_update, found, name, ready]
  · intro r' member taken
    obtain ⟨r, isReservoir, ⟨hit, rfl⟩ | ⟨miss, rfl⟩⟩ := mem_update member
    · simp only [Bool.and_eq_true, decide_eq_true_eq] at hit
      exact ⟨lease, (stored lease).mpr (.inr rfl), .inl live, reservoir.trans hit.1.symm⟩
    · obtain ⟨l, old, alive, same⟩ := inv.holder r' isReservoir taken
      exact ⟨l, (stored l).mpr (.inl old), alive, same⟩
  · intro l member
    rcases (stored l).mp member with old | rfl
    · exact inv.unpaused l old
    · rw [live]
      decide

theorem inv_exhausted (inv : Inv s) (reservoirId : String) : Inv (exhaustReadyReservoir s reservoirId).2 := by
  refine ⟨inv.single, ?_, ?_, inv.unpaused⟩
  · intro l member alive
    obtain ⟨r, isReservoir, taken, start⟩ := inv.taken l member alive
    refine ⟨r, ?_, taken, start⟩
    have notReady : r.state ≠ .ready := by
      rcases taken with state | state <;> rw [state] <;> decide
    simp [exhaustReadyReservoir, Table.get?_update, isReservoir, notReady]
  · intro r' member taken
    obtain ⟨r, isReservoir, ⟨hit, rfl⟩ | ⟨miss, rfl⟩⟩ := mem_update member
    · rcases taken with bad | bad <;> cases bad
    · exact inv.holder r' isReservoir taken

theorem inv_inserted (inv : Inv s) {lease : LeaseFields} (dead : ¬lease.Live)
    (unpaused : lease.state ≠ .paused ∧ lease.state ≠ .preempted) : Inv { s with leases := s.leases.insert lease } := by
  have old : ∀ l ∈ (s.leases.insert lease).rows, l.Live → l ∈ s.leases.rows := by
    intro l member live
    rcases mem_insert member with rfl | stored
    · exact absurd live dead
    · exact stored
  refine ⟨?_, ?_, ?_, ?_⟩
  · intro l first l' second live live'
    exact inv.single l (old l first live) l' (old l' second live') live live'
  · intro l member live
    exact inv.taken l (old l member live) live
  · intro r member taken
    obtain ⟨l, stored, live⟩ := inv.holder r member taken
    exact ⟨l, Table.mem_insert_of_mem stored, live⟩
  · intro l member
    rcases mem_insert member with rfl | stored
    · exact unpaused
    · exact inv.unpaused l stored

/-- A write that upholds the live leases keeps the invariant. -/
theorem inv_upserted (inv : Inv s) {lease : WorkLease}
    (upholds : match lease.state with
      | .granted | .running => ∃ row, s.leases.get? lease.leaseId = some row ∧ row.Live ∧
          row.reservoirId = lease.reservoirId ∧ row.cursorStart = lease.cursorStart
      | .paused | .preempted => False
      | _ => ∀ row, s.leases.get? lease.leaseId = some row → ¬row.Live) :
    Inv { s with
      leases := s.leases.upsert lease.toLeaseFields (fun old => { lease.toLeaseFields with leaseId := old.leaseId }) } := by
  have replaced : ∀ row, s.leases.get? lease.leaseId = some row → (lease.Live ↔ row.Live) →
      (row.Live → lease.reservoirId = row.reservoirId ∧ lease.cursorStart = row.cursorStart) →
      lease.state ≠ .paused ∧ lease.state ≠ .preempted → Inv { s with
        leases := s.leases.upsert lease.toLeaseFields (fun old => { lease.toLeaseFields with leaseId := old.leaseId }) } := by
    intro row found alive view unpaused
    rw [Table.upsert_stored found]
    refine inv_update inv fun l member hit => ?_
    have one : l = row := Table.row_unique member (Table.mem_of_get? found)
      ((of_decide_eq_true hit).trans (Table.get?_key found).symm)
    subst one
    exact ⟨alive, view, unpaused⟩
  have ended : (∀ row, s.leases.get? lease.leaseId = some row → ¬row.Live) → ¬lease.Live →
      lease.state ≠ .paused ∧ lease.state ≠ .preempted → Inv { s with
        leases := s.leases.upsert lease.toLeaseFields (fun old => { lease.toLeaseFields with leaseId := old.leaseId }) } := by
    intro over_ dead unpaused
    cases found : s.leases.get? lease.leaseId with
    | some row =>
      exact replaced row found (iff_of_false dead (over_ row found)) (fun live => absurd live (over_ row found)) unpaused
    | none =>
      rw [Table.upsert_fresh found]
      exact inv_inserted inv dead unpaused
  cases state : lease.state <;> simp only [state] at upholds
  case granted =>
    obtain ⟨row, found, live, reservoir, start⟩ := upholds
    exact replaced row found (iff_of_true (.inl state) live) (fun _ => ⟨reservoir.symm, start.symm⟩) (by simp [state])
  case running =>
    obtain ⟨row, found, live, reservoir, start⟩ := upholds
    exact replaced row found (iff_of_true (.inr state) live) (fun _ => ⟨reservoir.symm, start.symm⟩) (by simp [state])
  all_goals exact ended upholds (by simp [LeaseFields.Live, state]) (by simp [state])

end

/-- Where a finalized lease leaves its reservoir, until the next one. -/
def Finalized.Left (f : Finalized) (row : ReservoirRow) : Prop :=
  row.state = .exhausted ∨ f.nextCursor.isSome ∧ row.cursor = f.nextCursor

/-- What a step can do to a reservoir, and the finalization it makes there. -/
inductive RowStep (row row' : ReservoirRow) : Option Finalized → Prop
  | rests (cursor : row'.cursor = row.cursor) (done : row.state = .exhausted → row'.state = .exhausted) : RowStep row row' none
  | starts (ready : row.state = .ready) (unset : row.cursor = none) : RowStep row row' none
  | closes (done : row'.state = .exhausted) : RowStep row row' none
  | ends (f : Finalized) (taken : row.Taken) (start : row.cursor = f.cursorStart) (left : f.Left row') : RowStep row row' (some f)

theorem left_step {f : Finalized} {row row' : ReservoirRow} (stays : f.Left row) (moved : RowStep row row' none) :
    f.Left row' := by
  cases moved with
  | rests cursor done =>
    rcases stays with gone | ⟨set, here⟩
    · exact .inl (done gone)
    · exact .inr ⟨set, cursor.trans here⟩
  | starts ready unset =>
    rcases stays with gone | ⟨set, here⟩
    · rw [gone] at ready
      cases ready
    · rw [← here, unset] at set
      cases set
  | closes done => exact .inl done

theorem left_taken {f : Finalized} {row : ReservoirRow} (stays : f.Left row) (taken : row.Taken) : row.cursor = f.nextCursor := by
  rcases stays with gone | ⟨-, here⟩
  · rcases taken with state | state <;> rw [gone] at state <;> cases state
  · exact here

def Progress (r : Step System LeaseEvent Outcome) : Prop :=
  ∀ id row, r.before.store.reservoirs.get? id = some row → ∃ row', r.after.store.reservoirs.get? id = some row' ∧
    RowStep row row' (finalized id r) ∧ ((Moves r.event.op → ∃ err, r.outcome = .error err) → row'.cursor = row.cursor)

theorem progress_rests {r : Step System LeaseEvent Outcome} (rests : Rests r.before.store r.after.store)
    (none_ : ∀ id, finalized id r = none) : Progress r := by
  intro id row found
  obtain ⟨row', found', cursor, done⟩ := rests id row found
  exact ⟨row', found', by rw [none_]; exact .rests cursor done, fun _ => cursor⟩

abbrev System.called {α : Type} (s : System) (e : LeaseEvent) (answer : Answer α) : Step System LeaseEvent Outcome :=
  ⟨s, e, (s.wrote answer).1, (s.wrote answer).2⟩

/-- A call that moves some reservoirs on. -/
theorem progress_update {r : Step System LeaseEvent Outcome} {where_ : ReservoirRow → Bool} {set : ReservoirRow → ReservoirRow}
    (after : ∀ id, r.after.store.reservoirs.get? id =
      (r.before.store.reservoirs.get? id).map (fun row => if where_ row then set row else row)) (moves : Moves r.event.op)
    (accepted : r.outcome = .ok ())
    (hit : ∀ row ∈ r.before.store.reservoirs.rows, where_ row → RowStep row (set row) (finalized row.reservoirId r))
    (miss : ∀ row ∈ r.before.store.reservoirs.rows, ¬where_ row → finalized row.reservoirId r = none) : Progress r := by
  intro id row found
  have moved : r.after.store.reservoirs.get? id = some (if where_ row then set row else row) := by
    rw [after, found, Option.map_some]
  have stored := Table.mem_of_get? found
  have name : row.reservoirId = id := Table.get?_key found
  refine ⟨_, moved, ?_, ?_⟩
  · rw [← name]
    split
    · rename_i here
      exact hit row stored here
    · rename_i elsewhere
      rw [miss row stored elsewhere]
      exact .rests rfl (fun done => done)
  · intro raised
    obtain ⟨err, bad⟩ := raised moves
    rw [accepted] at bad
    cases bad

section
variable {s : System} {e : LeaseEvent} {reservoirs : Table ReservoirRow String (·.reservoirId)} (inv : Inv s.store)
  (idle : s.saving e.process = none)
include inv idle

theorem step_grant {id r owner : String} {bounds : LeaseBounds} {now : PyFloat} {ttl : Option PyFloat} {initial : Option String}
    (op : e.op = .grant id r owner bounds now ttl initial) :
    Inv ((processes reservoirs).take s e).after.store ∧ Progress ((processes reservoirs).take s e) := by
  have none_ : ∀ id, finalized id ((processes reservoirs).take s e) = none := by
    intro id
    simp [finalized, op]
  have answer := grant_cases s.store id r owner bounds now ttl initial
  have taken : (processes reservoirs).take s e = s.called e (grantFreshLease s.store id r owner bounds now ttl initial) := by
    simp [processes, step, op, idle, Machine.take]
  generalize grantFreshLease s.store id r owner bounds now ttl initial = result at answer taken
  rw [taken] at none_ ⊢
  cases answer with
  | refused err => exact ⟨inv, progress_rests (rests_same rfl) none_⟩
  | idle => exact ⟨inv, progress_rests (rests_same rfl) none_⟩
  | granted row found ready lease fresh name live reservoir start =>
    refine ⟨?_, progress_update (Table.get?_update _ _ _ (by intro _; rfl)) (by simp [Moves, op]) rfl ?_ (fun row _ _ => none_ _)⟩
    · have after := inv_granted inv found ready (name ▸ fresh) live reservoir
      rw [start] at after
      exact after
    · intro row' member hit
      rw [none_]
      simp only [Bool.and_eq_true, decide_eq_true_eq] at hit
      have same := Table.get?_mem member
      rw [hit.1, found] at same
      cases same
      cases cursor : row.cursor with
      | none => exact .starts hit.2 cursor
      | some c => exact .rests (by simp [cursor]) (by simp [hit.2])

theorem step_exhaust {r : String} (op : e.op = .exhaust r) :
    Inv ((processes reservoirs).take s e).after.store ∧ Progress ((processes reservoirs).take s e) := by
  have none_ : ∀ id, finalized id ((processes reservoirs).take s e) = none := by
    intro id
    simp [finalized, op]
  have taken : (processes reservoirs).take s e = s.called e (exhaustReadyReservoir s.store r) := by
    simp [processes, step, op, idle, Machine.take]
  rw [taken] at none_ ⊢
  refine ⟨inv_exhausted inv r, progress_update (Table.get?_update _ _ _ (by intro _; rfl)) (by simp [Moves, op]) rfl ?_ (fun row _ _ => none_ _)⟩
  intro row member hit
  rw [none_]
  exact .closes rfl

theorem step_finalize {id r owner : String} {next : Option String} {exhausted : Bool}
    (op : e.op = .finalize id r owner next exhausted) :
    Inv ((processes reservoirs).take s e).after.store ∧ Progress ((processes reservoirs).take s e) := by
  have taken : (processes reservoirs).take s e =
      s.called e (finalizeLease s.store e.clock id r owner next exhausted) := by
    simp [processes, step, op, idle, Machine.take]
  rcases finalize_cases s.store e.clock id r owner next exhausted with
    ⟨err, answer⟩ | ⟨l, found, running, reservoir, left, answer⟩
  · rw [taken, answer]
    exact ⟨inv, progress_rests (rests_same rfl) (fun id => by simp [finalized, op, System.wrote])⟩
  · have name : l.leaseId = id := Table.get?_key found
    have stored := Table.mem_of_get? found
    have ended := inv_end inv stored (.inr running) .succeeded (by decide) [.leased, .running]
      (by decide) (by decide) (if exhausted then .exhausted else .ready) (by cases exhausted <;> decide) next
    obtain ⟨held, isReservoir, isTaken, start⟩ := inv.taken l stored (.inr running)
    rw [name, reservoir] at ended
    rw [taken, answer]
    refine ⟨ended, progress_update (Table.get?_update _ _ _ (by intro _; rfl)) (by simp [Moves, op]) rfl ?_ ?_⟩
    · intro row member hit
      simp only [Bool.and_eq_true, decide_eq_true_eq] at hit
      have same := Table.get?_mem member
      rw [hit.1, ← reservoir, isReservoir] at same
      cases same
      have made : finalized held.reservoirId (s.called e (.ok (), endLease s.store id .succeeded r [.leased, .running]
          (if exhausted then .exhausted else .ready) next)) = some ⟨l.cursorStart, next⟩ := by
        simp [finalized, op, idle, System.wrote, hit.1, found]
      rw [made]
      refine .ends _ isTaken start ?_
      cases exhausted with
      | true => exact .inl rfl
      | false => exact .inr ⟨by simpa [Option.isSome_iff_ne_none] using left, rfl⟩
    · intro row member miss
      by_cases here : row.reservoirId = r
      · have same := Table.get?_mem member
        rw [here, ← reservoir, isReservoir] at same
        cases same
        refine absurd ?_ miss
        rcases isTaken with state | state <;> simp [here, state]
      · simp [finalized, op, idle, System.wrote, Ne.symm here]

omit idle in
/-- A call that leaves the cursors. -/
theorem step_rests {α : Type} (answer : Answer α) (taken : (processes reservoirs).take s e = s.called e answer)
    (kept : (∃ err, answer = (.error err, s.store)) ∨ Inv answer.2 ∧ Rests s.store answer.2)
    (none_ : ∀ id, finalized id ((processes reservoirs).take s e) = none) :
    Inv ((processes reservoirs).take s e).after.store ∧ Progress ((processes reservoirs).take s e) := by
  rw [taken] at none_ ⊢
  rcases kept with ⟨err, rfl⟩ | ⟨after, rests⟩
  · exact ⟨inv, progress_rests (rests_same rfl) none_⟩
  · exact ⟨after, progress_rests rests none_⟩

theorem step_abort {id r owner : String} (op : e.op = .abort id r owner) :
    Inv ((processes reservoirs).take s e).after.store ∧ Progress ((processes reservoirs).take s e) := by
  refine step_rests inv (abortLease s.store id r owner) (by simp [processes, step, op, idle, Machine.take]) ?_
    (fun id => by simp [finalized, op])
  rcases abort_cases s.store id r owner with ⟨err, answer⟩ | ⟨l, found, active, reservoir, answer⟩
  · exact .inl ⟨err, answer⟩
  · have stored := Table.mem_of_get? found
    have live : l.Live := by
      obtain ⟨paused, preempted⟩ := inv.unpaused l stored
      rcases active with live | bad | bad
      · exact live
      · exact absurd bad paused
      · exact absurd bad preempted
    rw [answer, ← reservoir, ← Table.get?_key found]
    exact .inr ⟨inv_end inv stored live _ (by decide) _ (by decide) (by decide) _ (by decide) _, rests_end inv stored live (by decide)⟩

theorem step_recover {now : Option PyFloat} (op : e.op = .recover now) :
    Inv ((processes reservoirs).take s e).after.store ∧ Progress ((processes reservoirs).take s e) := by
  refine step_rests inv (recoverExpiredLeases s.store e.clock now) (by simp [processes, step, op, idle, Machine.take]) ?_
    (fun id => by simp [finalized, op])
  rcases recover_cases s.store e.clock now with ⟨err, answer⟩ | ⟨rows, distinct, live, answer⟩
  · exact .inl ⟨err, answer⟩
  · rw [answer]
    exact .inr (inv_recover distinct inv live)

theorem step_renew {id owner : String} {ttl : PyFloat} {now : Option PyFloat} (op : e.op = .renew id owner ttl now) :
    Inv ((processes reservoirs).take s e).after.store ∧ Progress ((processes reservoirs).take s e) := by
  refine step_rests inv (renewLease s.store e.clock id owner ttl now) (by simp [processes, step, op, idle, Machine.take]) ?_
    (fun id => by simp [finalized, op])
  rcases renew_cases s.store e.clock id owner ttl now with ⟨err, answer⟩ | ⟨expires, answer⟩
  · exact .inl ⟨err, answer⟩
  · rw [answer]
    refine .inr ⟨inv_update inv fun l stored _ => ?_, rests_same rfl⟩
    exact ⟨Iff.rfl, fun _ => ⟨rfl, rfl⟩, inv.unpaused l stored⟩

omit idle in
theorem step_upsert {lease : WorkLease} (op : e.op = .upsert) (saving : s.saving e.process = some lease) (upholds : Upholds s e) :
    Inv ((processes reservoirs).take s e).after.store ∧ Progress ((processes reservoirs).take s e) := by
  have none_ : ∀ id, finalized id ((processes reservoirs).take s e) = none := by
    intro id
    simp [finalized, op]
  have taken : (processes reservoirs).take s e = ⟨s, e, (System.wrote ⟨s.store, Function.update s.saving e.process none⟩
      (upsertLease s.store lease)).1, (System.wrote ⟨s.store, Function.update s.saving e.process none⟩
      (upsertLease s.store lease)).2⟩ := by
    simp [processes, step, op, saving, Machine.take]
  simp only [Upholds, op, saving] at upholds
  rw [taken] at none_ ⊢
  rcases upsert_cases s.store lease with ⟨err, answer⟩ | ⟨dated, named, answer⟩
  · rw [answer] at none_ ⊢
    exact ⟨inv, progress_rests (rests_same rfl) none_⟩
  · rw [answer] at none_ ⊢
    exact ⟨inv_upserted inv (upholds dated named), progress_rests (rests_same rfl) none_⟩

end

section
variable {reservoirs : Table ReservoirRow String (·.reservoirId)}

theorem step_idle {s : System} {e : LeaseEvent} (inv : Inv s.store) (same : (step s e).2.store = s.store)
    (none_ : ∀ id, finalized id ((processes reservoirs).take s e) = none) :
    Inv ((processes reservoirs).take s e).after.store ∧ Progress ((processes reservoirs).take s e) :=
  ⟨by rw [Machine.take_after]; exact same ▸ inv, progress_rests (rests_same (congrArg Store.reservoirs same)) none_⟩

theorem step_progress {s : System} (inv : Inv s.store) (e : LeaseEvent) (upholds : Upholds s e) :
    Inv ((processes reservoirs).take s e).after.store ∧ Progress ((processes reservoirs).take s e) := by
  cases saving : s.saving e.process with
  | none =>
    cases op : e.op with
    | grant => exact step_grant inv saving op
    | check l =>
      refine step_idle inv ?_ (fun id => by simp [finalized, op])
      simp only [step, op, saving]
      split <;> rfl
    | upsert => exact step_idle inv (by simp [step, op, saving]) (fun id => by simp [finalized, op])
    | renew => exact step_renew inv saving op
    | finalize => exact step_finalize inv saving op
    | abort => exact step_abort inv saving op
    | recover => exact step_recover inv saving op
    | exhaust => exact step_exhaust inv saving op
    | stop => exact step_idle inv (by simp [step, op]) (fun id => by simp [finalized, op])
  | some lease =>
    cases op : e.op with
    | upsert => exact step_upsert inv op saving upholds
    | _ => exact step_idle inv (by simp [step, op, saving]) (fun id => by simp [finalized, op, saving])

end

/-! ## Runs -/

section
variable {reservoirs : Table ReservoirRow String (·.reservoirId)} {es : List LeaseEvent}

theorem inv_run (free : ∀ r ∈ reservoirs.rows, ¬r.Taken) (upholds : ∀ r ∈ (processes reservoirs).trace es, Upholds r.before r.event) :
    Inv ((processes reservoirs).final es).store := by
  induction es using List.reverseRecOn with
  | nil =>
    refine ⟨?_, ?_, ?_, ?_⟩
    · intro l member
      simp [processes] at member
    · intro l member
      simp [processes] at member
    · intro r member taken
      exact absurd taken (free r member)
    · intro l member
      simp [processes] at member
  | append_singleton es e ih =>
    rw [Machine.trace_snoc] at upholds
    have inv := ih fun r member => upholds r (List.mem_append_left _ member)
    rw [Machine.final_snoc]
    exact (step_progress inv e (upholds _ (List.mem_append_right _ (List.mem_singleton_self _)))).1

omit es in
theorem finalized_found {s : System} (inv : Inv s.store) {e : LeaseEvent} {id : String} {f : Finalized}
    (made : finalized id ((processes reservoirs).take s e) = some f) : ∃ row, s.store.reservoirs.get? id = some row := by
  rcases e with ⟨clock, process, op⟩
  cases op with
  | finalize lease reservoir owner next exhausted =>
    cases idle : s.saving process with
    | some _ => simp [finalized, idle] at made
    | none =>
      rcases finalize_cases s.store clock lease reservoir owner next exhausted with
        ⟨err, answer⟩ | ⟨l, found, running, names, -, answer⟩
      · simp [finalized, processes, step, idle, answer, System.wrote] at made
      · by_cases same : reservoir = id
        · obtain ⟨row, isReservoir, -⟩ := inv.taken l (Table.mem_of_get? found) (.inr running)
          exact ⟨row, by rw [← same, ← names, isReservoir]⟩
        · simp [finalized, processes, step, idle, answer, System.wrote, same] at made
  | _ => simp [finalized] at made

theorem chain_run (free : ∀ r ∈ reservoirs.rows, ¬r.Taken) (upholds : ∀ r ∈ (processes reservoirs).trace es, Upholds r.before r.event)
    (id : String) : (((processes reservoirs).trace es).filterMap (finalized id)).IsChain
        (fun first second => second.cursorStart = first.nextCursor) ∧
      ∀ f ∈ (((processes reservoirs).trace es).filterMap (finalized id)).getLast?,
        ∃ row, ((processes reservoirs).final es).store.reservoirs.get? id = some row ∧ f.Left row := by
  induction es using List.reverseRecOn with
  | nil => simp
  | append_singleton es e ih =>
    rw [Machine.trace_snoc] at upholds
    have earlier := fun r member => upholds r (List.mem_append_left _ member)
    obtain ⟨chain, left⟩ := ih earlier
    have inv := inv_run free earlier
    obtain ⟨-, progress⟩ := step_progress inv e (upholds _ (List.mem_append_right _ (List.mem_singleton_self _)))
    rw [Machine.trace_snoc, Machine.final_snoc, List.filterMap_append]
    cases made : finalized id ((processes reservoirs).take ((processes reservoirs).final es) e) with
    | none =>
      simp only [List.filterMap_cons, made, List.filterMap_nil, List.append_nil]
      refine ⟨chain, fun f last => ?_⟩
      obtain ⟨row, found, stays⟩ := left f last
      obtain ⟨row', found', moved, -⟩ := progress id row found
      rw [made] at moved
      exact ⟨row', found', left_step stays moved⟩
    | some f =>
      obtain ⟨row, found⟩ := finalized_found inv made
      obtain ⟨row', found', moved, -⟩ := progress id row found
      rw [made] at moved
      cases moved with
      | ends _ taken start after =>
        simp only [List.filterMap_cons, made, List.filterMap_nil]
        refine ⟨List.isChain_append.mpr ⟨chain, List.isChain_singleton _, ?_⟩, ?_⟩
        · intro first last second next
          obtain ⟨row₀, found₀, stays⟩ := left first last
          rw [found] at found₀
          cases found₀
          cases Option.some.inj next
          rw [← start]
          exact left_taken stays taken
        · intro last isLast
          rw [List.getLast?_append] at isLast
          cases Option.some.inj isLast
          exact ⟨row', found', after⟩

/-- In a run whose saved leases are as alive as the ones they replace, every reservoir has one
    live lease exactly while it is taken, and its finalized leases chain. -/
theorem leases_safe (free : ∀ r ∈ reservoirs.rows, ¬r.Taken)
    (upholds : ∀ r ∈ (processes reservoirs).trace es, Upholds r.before r.event) : LeaseSafe reservoirs es := by
  have inv : ∀ before after, es = before ++ after → Inv ((processes reservoirs).final before).store := by
    rintro before after rfl
    refine inv_run free fun r member => upholds r ?_
    rw [Machine.trace_append]
    exact List.mem_append_left _ member
  refine ⟨?_, ?_, fun id => (chain_run free upholds id).1, ?_⟩
  · intro before after split l stored l' stored' live live' same
    exact (inv before after split).single l stored l' stored' live live' same
  · intro before after split r member
    have now := inv before after split
    constructor
    · exact now.holder r member
    · rintro ⟨l, stored, live, same⟩
      obtain ⟨row, found, taken, -⟩ := now.taken l stored live
      rw [same, Table.get?_mem member] at found
      cases found
      exact taken
  · intro r member quiet id row found
    have upheld := upholds r member
    obtain ⟨before, after, split, isStep⟩ := Machine.mem_trace _ member
    rw [isStep] at found quiet upheld ⊢
    obtain ⟨-, progress⟩ := step_progress (inv before _ split) r.event upheld
    obtain ⟨row', found', -, cursor⟩ := progress id row found
    exact ⟨row', found', cursor quiet⟩

end

/-! ## Two runs -/

instance decidableFound {α : Type} (found : Option α) (P : α → Prop) [DecidablePred P] : Decidable (∃ a, found = some a ∧ P a) :=
  decidable_of_iff (found.any P = true) (by cases found <;> simp)

instance decidableWhenFound {α : Type} (found : Option α) (P : α → Prop) [DecidablePred P] : Decidable (∀ a, found = some a → P a) :=
  decidable_of_iff (found.all P = true) (by cases found <;> simp)

instance (s : System) (e : LeaseEvent) : Decidable (Upholds s e) := by
  unfold Upholds
  split
  · split <;> infer_instance
  · infer_instance

def feedRow : ReservoirRow := ⟨"feed", none, .ready⟩
def feeds : Table ReservoirRow String (·.reservoirId) := ⟨[feedRow], by decide⟩

def feedBounds : LeaseBounds where
  maxRecords := 5
  maxRequests := 5
  maxBytes := 1000
  maxSeconds := .fin 10
  resourceClass := "general"
  expectedEvidenceTasks := 0
  expectedNovelEed := .fin 0

/-- `lease.start()` of the lease that the owner was granted at 0. -/
def startedLease (leaseId owner : String) (expiresAt : PyFloat) : LeaseFields where
  leaseId := leaseId
  reservoirId := "feed"
  cursorStart := none
  cursorEnd := none
  maxRecords := 5
  maxRequests := 5
  maxBytes := 1000
  maxSeconds := .fin 10
  resourceClass := "general"
  expectedEvidenceTasks := 0
  expectedNovelEed := .fin 0
  owner := some owner
  expiresAt := some expiresAt
  state := .running

/-- A lease that runs and is finalized, and the next one of its reservoir. -/
def chainedRun : List LeaseEvent :=
  [⟨.fin 0, "a", .grant "l" "feed" "a" feedBounds (.fin 0) none none⟩,
   ⟨.fin 1, "a", .check (startedLease "l" "a" (.fin 10))⟩,
   ⟨.fin 2, "a", .upsert⟩,
   ⟨.fin 3, "a", .finalize "l" "feed" "a" (some "5") false⟩,
   ⟨.fin 4, "b", .grant "m" "feed" "b" feedBounds (.fin 4) none none⟩]

theorem chainedRun_safe : LeaseSafe feeds chainedRun := leases_safe (by decide +kernel) (by decide +kernel)

/-- A process checks its granted lease, and writes it when that has been recovered and the
    reservoir granted again. -/
def lateRun : List LeaseEvent :=
  [⟨.fin 0, "a", .grant "l" "feed" "a" feedBounds (.fin 0) none none⟩,
   ⟨.fin 1, "a", .check (startedLease "l" "a" (.fin 10))⟩,
   ⟨.fin 11, "b", .recover none⟩,
   ⟨.fin 11, "b", .grant "m" "feed" "b" feedBounds (.fin 11) none none⟩,
   ⟨.fin 12, "a", .upsert⟩]

theorem late_save_doubles : (lateRun.map (·.clock)).Pairwise (fun t u => t.le u = true) ∧ (∀ r ∈ feeds.rows, ¬r.Taken) ∧
    ¬LeaseSafe feeds lateRun := by
  refine ⟨by decide +kernel, by decide +kernel, fun safe => ?_⟩
  have two : ∃ l ∈ ((processes feeds).final lateRun).store.leases.rows, ∃ l' ∈ ((processes feeds).final lateRun).store.leases.rows,
      l.Live ∧ l'.Live ∧ l.reservoirId = l'.reservoirId ∧ l ≠ l' := by
    decide +kernel
  obtain ⟨l, stored, l', stored', live, live', same, apart⟩ := two
  exact apart (safe.single lateRun [] (by simp) l stored l' stored' live live' same)

end Creeper.WorkLeases
