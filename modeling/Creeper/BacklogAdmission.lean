import Creeper.Runs
import Creeper.EvidenceQueue

/-!
# Admission to the evidence backlog

`scheduler/admission.py`: producers reserve slots before they read a source and turn them
into tasks. The tasks that are not finished and the live slots of a provider stay within
its capacity.
-/

namespace Creeper.BacklogAdmission
open Creeper.Runs Creeper.Tables Creeper.PyNumbers Creeper.EvidenceTasks Creeper.EvidenceQueue
open Creeper.FabricModels (PyError blank)

/-! ## Calls -/

/-- A row of `evidence_capacity_reservations`. -/
structure ReservationRow where
  reservationId : String
  provider : String
  amount : Nat
  expiresAt : ℚ
  leaseId : Option String
  deriving DecidableEq

/-- A row of `evidence_task_origins`. -/
structure OriginRow where
  task : EvidenceQueryKey
  sourceKey : String
  reservoirId : String
  leaseId : String
  firstObservedAt : ℚ
  deriving DecidableEq

def OriginRow.key (row : OriginRow) : EvidenceQueryKey × String × String × String :=
  (row.task, row.sourceKey, row.reservoirId, row.leaseId)

structure Backlog where
  store : Store
  origins : Table OriginRow (EvidenceQueryKey × String × String × String) (·.key)
  reservations : Table ReservationRow String (·.reservationId)

abbrev Reply (α : Type) := Except PyError α × Backlog

/-- What the checks of a `CapacityReservation` find. -/
def reservationProblem (reservationId : Option String) (provider : String) (expiresAt : ℚ) : Option PyError :=
  if reservationId.any blank then some (.valueError "reservation_id must be non-empty when provided")
  else if blank provider then some (.valueError "reservation provider is required")
  else if expiresAt < 0 then some (.valueError "reservation expiry must be finite and non-negative")
  else none

structure CapacityReservation where
  reservationId : Option String
  provider : String
  amount : Nat
  expiresAt : ℚ
  valid : reservationProblem reservationId provider expiresAt = none

/-- The constructor of `CapacityReservation`. -/
def CapacityReservation.make (reservationId : Option String) (provider : String) (amount : Nat) (expiresAt : ℚ) :
    Except PyError CapacityReservation :=
  match checked : reservationProblem reservationId provider expiresAt with
  | some err => .error err
  | none => .ok ⟨reservationId, provider, amount, expiresAt, checked⟩

def clockError : PyError := .valueError "capacity reservation clock must be finite and non-negative"

/-- `_NONTERMINAL`. -/
def nonterminal : List QueryState := [.pending, .incomplete, .transientError]

def counts (provider : String) (row : TaskRow) : Bool := row.key.provider = provider && nonterminal.contains row.state

/-- `_durable_backlog_locked`. -/
def Backlog.durable (s : Backlog) (provider : String) : Nat := (s.store.tasks.rows.filter (counts provider)).length

def keptFor (provider : String) (row : ReservationRow) : Nat := if row.provider = provider then row.amount else 0

/-- `_reserved_locked`. -/
def Backlog.reserved (s : Backlog) (provider : String) (now : ℚ) : Nat :=
  ((s.reservations.rows.filter (now < ·.expiresAt)).map (keptFor provider)).sum

/-- `_purge_expired_locked`. -/
def Backlog.purge (s : Backlog) (now : ℚ) : Backlog := { s with reservations := s.reservations.delete (·.expiresAt ≤ now) }

/-- `available_capacity`. -/
def availableCapacity (s : Backlog) (clock : PyFloat) (provider : String) (capacity : Int) : Reply Nat :=
  if provider = "" then (.error (.valueError "provider is required"), s)
  else if capacity < 0 then (.error (.valueError "capacity must be a non-negative integer"), s)
  else
    match finiteReading clock with
    | none => (.error clockError, s)
    | some now =>
      (.ok (capacity - ((s.purge now).durable provider + (s.purge now).reserved provider now : Nat)).toNat, s.purge now)

/-- `try_reserve`, with what its `uuid4` draws. -/
def tryReserve (s : Backlog) (clock : PyFloat) (provider : String) (amount capacity : Int) (ttlSeconds : PyFloat)
    (draw : String) : Reply (Option CapacityReservation) :=
  if provider = "" then (.error (.valueError "provider is required"), s)
  else if amount < 0 then (.error (.valueError "amount must be a non-negative integer"), s)
  else if capacity < 0 then (.error (.valueError "capacity must be a non-negative integer"), s)
  else
    match positive ttlSeconds with
    | none => (.error (.valueError "ttl_seconds must be finite and positive"), s)
    | some ttl =>
      match finiteReading clock with
      | none => (.error clockError, s)
      | some now =>
        if amount = 0 then ((CapacityReservation.make none provider 0 (now + ttl)).map some, s)
        else if capacity < ((s.purge now).durable provider + (s.purge now).reserved provider now : Nat) + amount then
          (.ok none, s.purge now)
        else if 2 ^ 63 ≤ amount then (.error .overflowError, s)
        else if ((s.purge now).reservations.get? ("evidence-capacity-" ++ draw)).isSome then (.error .integrityError, s)
        else
          ((CapacityReservation.make (some ("evidence-capacity-" ++ draw)) provider amount.toNat (now + ttl)).map some,
            { s.purge now with
              reservations := (s.purge now).reservations.insert
                ⟨"evidence-capacity-" ++ draw, provider, amount.toNat, now + ttl, none⟩ })

/-- `bind_lease`. -/
def bindLease (s : Backlog) (reservation : CapacityReservation) (leaseId : String) : Reply Unit :=
  match reservation.reservationId with
  | none => (.ok (), s)
  | some id =>
    if leaseId = "" then (.error (.valueError "lease_id is required"), s)
    else if (s.reservations.get? id).isNone then (.error (.keyError "capacity reservation not found"), s)
    else (.ok (), { s with
      reservations := s.reservations.update (fun r => r.reservationId = id) (fun r => { r with leaseId := some leaseId }) })

def Backlog.live (s : Backlog) (reservation : CapacityReservation) (id : String) (now : ℚ) : Option ReservationRow :=
  (s.reservations.get? id).filter fun row => row.provider = reservation.provider && now < row.expiresAt

/-- `renew`. -/
def renew (s : Backlog) (clock : PyFloat) (reservation : CapacityReservation) (ttlSeconds : PyFloat) : Reply CapacityReservation :=
  match positive ttlSeconds with
  | none => (.error (.valueError "ttl_seconds must be finite and positive"), s)
  | some ttl =>
    match finiteReading clock with
    | none => (.error clockError, s)
    | some now =>
      match reservation.reservationId with
      | none => (CapacityReservation.make none reservation.provider 0 (now + ttl), s)
      | some id =>
        match s.live reservation id now with
        | none => (.error (.runtimeError "capacity reservation expired before renewal"), s)
        | some row =>
          (CapacityReservation.make (some id) reservation.provider row.amount (max row.expiresAt (now + ttl)),
            { s with
              reservations := s.reservations.update (fun r => r.reservationId = id)
                (fun r => { r with expiresAt := max row.expiresAt (now + ttl) }) })

/-- `source_key`, `reservoir_id` and `lease_id`. -/
structure Lineage where
  sourceKey : Option String
  reservoirId : Option String
  leaseId : Option String

/-- None of the three, or all of them. -/
def Lineage.complete (l : Lineage) : Bool :=
  (l.sourceKey.isNone && l.reservoirId.isNone && l.leaseId.isNone) ||
    (l.sourceKey.any (!blank ·) && l.reservoirId.any (!blank ·) && l.leaseId.any (!blank ·))

/-- The origins that an enqueue adds. -/
def withOrigins (s : Backlog) (keys : List EvidenceQueryKey) (l : Lineage) (now : ℚ) : Backlog :=
  match l.sourceKey with
  | none => s
  | some sourceKey => { s with origins := keys.foldl (fun t key =>
      t.insert ⟨key, sourceKey, l.reservoirId.getD "", l.leaseId.getD "", now⟩) s.origins }

def leftOf (t : Table ReservationRow String (·.reservationId)) (id : String) (remaining : Nat) :
    Table ReservationRow String (·.reservationId) :=
  if remaining = 0 then t.delete (·.reservationId = id)
  else t.update (fun r => r.reservationId = id) (fun r => { r with amount := remaining })

/-- `enqueue_reserved`. -/
def enqueueReserved (s : Backlog) (clock : PyFloat) (reservation : CapacityReservation) (keys : List EvidenceQueryKey)
    (l : Lineage) : Reply Nat :=
  if keys = [] then (.ok 0, s)
  else
    match reservation.reservationId with
    | none => (.error (.runtimeError "external evidence work exceeded zero reservation"), s)
    | some id =>
      if keys.any (fun key => key.provider ≠ reservation.provider) then
        (.error (.valueError "all reserved evidence keys must use the reserved provider"), s)
      else if !l.complete then
        (.error (.valueError "source_key, reservoir_id, and lease_id must be provided together"), s)
      else
        match finiteReading clock with
        | none => (.error clockError, s)
        | some now =>
          match s.live reservation id now with
          | none => (.error (.runtimeError "capacity reservation expired before task enqueue"), s)
          | some row =>
            if row.amount < insertedCount s.store keys.eraseDups then
              (.error (.runtimeError "actual evidence work exceeded the SourceLease capacity reservation"), s)
            else
              (.ok (insertedCount s.store keys.eraseDups), { withOrigins s keys.eraseDups l now with
                store := insertTasks s.store keys.eraseDups
                reservations := leftOf s.reservations id (row.amount - insertedCount s.store keys.eraseDups) })

/-- `release`. -/
def release (s : Backlog) (reservation : Option CapacityReservation) : Reply Unit :=
  match reservation.bind (·.reservationId) with
  | none => (.ok (), s)
  | some id => (.ok (), { s with reservations := s.reservations.delete (·.reservationId = id) })

/-- Work on a task that is not finished: it may be retried, or finished. -/
def settle (s : Backlog) (key : EvidenceQueryKey) (state : QueryState) : Backlog :=
  { s with store := { s.store with
      tasks := s.store.tasks.update (fun r => r.key = key && nonterminal.contains r.state) (fun r => { r with state }) } }

/-! ## Runs -/

inductive AdmissionOp
  | availableCapacity (provider : String)
  | tryReserve (provider : String) (amount : Int) (ttlSeconds : PyFloat) (draw : String)
  | bindLease (reservation : CapacityReservation) (leaseId : String)
  | renew (reservation : CapacityReservation) (ttlSeconds : PyFloat)
  | enqueueReserved (reservation : CapacityReservation) (keys : List EvidenceQueryKey) (lineage : Lineage)
  | release (reservation : Option CapacityReservation)
  | settle (key : EvidenceQueryKey) (state : QueryState)

/-- A call, with what it reads from the clock. -/
structure AdmissionEvent where
  op : AdmissionOp
  clock : PyFloat

abbrev Outcome := Except PyError Nat

/-- A step, with the number of tasks that it adds. -/
def step (capacity : String → Nat) (s : Backlog) (e : AdmissionEvent) : Outcome × Backlog :=
  match e.op with
  | .availableCapacity provider =>
    ((availableCapacity s e.clock provider (capacity provider)).1.map fun _ => 0,
      (availableCapacity s e.clock provider (capacity provider)).2)
  | .tryReserve provider amount ttlSeconds draw =>
    ((tryReserve s e.clock provider amount (capacity provider) ttlSeconds draw).1.map fun _ => 0,
      (tryReserve s e.clock provider amount (capacity provider) ttlSeconds draw).2)
  | .bindLease reservation leaseId => ((bindLease s reservation leaseId).1.map fun _ => 0, (bindLease s reservation leaseId).2)
  | .renew reservation ttlSeconds =>
    ((renew s e.clock reservation ttlSeconds).1.map fun _ => 0, (renew s e.clock reservation ttlSeconds).2)
  | .enqueueReserved reservation keys lineage => enqueueReserved s e.clock reservation keys lineage
  | .release reservation => ((release s reservation).1.map fun _ => 0, (release s reservation).2)
  | .settle key state => (.ok 0, settle s key state)

/-- A backlog with no tasks and no reservations, under fixed capacities. -/
def admission (capacity : String → Nat) : Machine Backlog AdmissionEvent Outcome where
  initial := ⟨⟨.empty, .empty, .empty, false, .empty, .fin 300⟩, .empty, .empty⟩
  step := step capacity

/-- The row of a reservation is gone, or expired at a time. -/
def Dead (s : Backlog) (id : String) (t : ℚ) : Prop := ∀ row, s.reservations.get? id = some row → row.expiresAt ≤ t

/-- A reservation with an identifier is granted. -/
def AdmissionEvent.draws (e : AdmissionEvent) (id : String) : Prop :=
  match e.op with
  | .tryReserve _ _ _ draw => "evidence-capacity-" ++ draw = id
  | _ => False

def Backlog.left (s : Backlog) (id : String) : Nat := ((s.reservations.get? id).map (·.amount)).getD 0

structure BacklogSafe (capacity : String → Nat) (es : List AdmissionEvent) : Prop where
  /-- The unfinished tasks and the live slots of a provider stay within its capacity. -/
  bounded : ∀ provider now,
    ((admission capacity).final es).durable provider + ((admission capacity).final es).reserved provider now ≤ capacity provider
  /-- An enqueue that raises changes nothing. -/
  raises : ∀ r ∈ (admission capacity).trace es, ∀ reservation keys lineage, r.event.op = .enqueueReserved reservation keys lineage →
    ∀ err, r.outcome = .error err → r.after = r.before
  /-- An enqueue takes one slot for every key that is new, and none for the others. -/
  slots : ∀ r ∈ (admission capacity).trace es, ∀ reservation keys lineage, r.event.op = .enqueueReserved reservation keys lineage →
    ∀ n, r.outcome = .ok n → ∀ id, reservation.reservationId = some id →
      n = (keys.eraseDups.filter (fun key => (r.before.store.tasks.get? key).isNone)).length ∧
        r.after.left id + n = r.before.left id
  /-- A reservation that was expired or released admits nothing, until its identifier is drawn again. -/
  dead : ∀ before after e reservation keys lineage id t, es = before ++ after ++ [e] → Dead ((admission capacity).final before) id t →
    (∀ later ∈ after ++ [e], ∀ now, finiteReading later.clock = some now → t ≤ now) → (∀ later ∈ after, ¬later.draws id) →
      e.op = .enqueueReserved reservation keys lineage → reservation.reservationId = some id →
        ((admission capacity).final es).store = ((admission capacity).final (before ++ after)).store

/-! ## One call -/

/-- The amounts of all rows of a provider, live or not. -/
def Backlog.kept (s : Backlog) (provider : String) : Nat := (s.reservations.rows.map (keptFor provider)).sum

section
variable {s : Backlog} {clock : PyFloat} {provider : String}

theorem sum_filter_le (rows : List ReservationRow) (q : ReservationRow → Bool) (amount : ReservationRow → Nat) :
    ((rows.filter q).map amount).sum ≤ (rows.map amount).sum := by
  induction rows with
  | nil => exact le_rfl
  | cons row rows ih =>
    by_cases here : q row
    · rw [List.filter_cons_of_pos here, List.map_cons, List.map_cons, List.sum_cons, List.sum_cons]
      exact Nat.add_le_add_left ih _
    · rw [List.filter_cons_of_neg here, List.map_cons, List.sum_cons]
      exact ih.trans (Nat.le_add_left _ _)

theorem reserved_le (s : Backlog) (provider : String) (now : ℚ) : s.reserved provider now ≤ s.kept provider := sum_filter_le _ _ _

theorem kept_purge_le (s : Backlog) (provider : String) (now : ℚ) : (s.purge now).kept provider ≤ s.kept provider :=
  sum_filter_le _ _ _

theorem reserved_purge (s : Backlog) (provider : String) (now : ℚ) :
    (s.purge now).reserved provider now = (s.purge now).kept provider := by
  have live : (s.purge now).reservations.rows.filter (now < ·.expiresAt) = (s.purge now).reservations.rows := by
    rw [List.filter_eq_self]
    intro row member
    have stays := (List.mem_filter.mp member).2
    simpa using stays
  rw [Backlog.reserved, live]
  rfl

theorem durable_purge (s : Backlog) (provider : String) (now : ℚ) : (s.purge now).durable provider = s.durable provider := rfl

theorem kept_leftOf {id : String} {row : ReservationRow} (found : s.reservations.get? id = some row) {n : Nat} (enough : n ≤ row.amount)
    (provider : String) : ((leftOf s.reservations id (row.amount - n)).rows.map (keptFor provider)).sum +
      (if row.provider = provider then n else 0) = s.kept provider := by
  obtain ⟨first, last, split, before, after⟩ := Table.focus found
  have name := Table.get?_key found
  have whole : s.kept provider = (first.map (keptFor provider)).sum + (keptFor provider row + (last.map (keptFor provider)).sum) := by
    rw [Backlog.kept, split, List.map_append, List.map_cons, List.sum_append, List.sum_cons]
  unfold leftOf
  split
  · rename_i used
    rw [Table.rows_delete, split, Table.rows_delete_focus name before after, List.map_append, List.sum_append, whole]
    unfold keptFor
    split <;> omega
  · rw [Table.rows_update, split, Table.rows_update_focus (fun r => { r with amount := row.amount - n }) name before after,
      List.map_append, List.map_cons, List.sum_append, List.sum_cons, whole]
    unfold keptFor
    dsimp only
    split <;> omega

theorem left_leftOf {id : String} {row : ReservationRow} (found : s.reservations.get? id = some row) {n : Nat} (enough : n ≤ row.amount) :
    (((leftOf s.reservations id (row.amount - n)).get? id).map (·.amount)).getD 0 + n = s.left id := by
  have before : s.left id = row.amount := by
    rw [Backlog.left, found]
    rfl
  have name : row.reservationId = id := Table.get?_key found
  rw [before]
  unfold leftOf
  split
  · rename_i used
    rw [Table.get?_delete, found]
    simp only [Option.filter, name, decide_true, Bool.not_true, Bool.false_eq_true, if_false, Option.map_none, Option.getD_none]
    omega
  · rw [Table.get?_update, found]
    simp only [Option.map_some, name, decide_true, if_true, Option.getD_some]
    omega

/-- The tasks that an enqueue adds. -/
theorem inserted_rows (store : Store) (keys : List EvidenceQueryKey) : ∃ new : List TaskRow,
    new.Sublist (keys.map (freshRow store)) ∧ (insertTasks store keys).tasks.rows = store.tasks.rows ++ new ∧
      insertedCount store keys = new.length := by
  obtain ⟨new, sub, rows⟩ := Table.foldl_insert_append keys (freshRow store) store.tasks
  refine ⟨new, sub, rows, ?_⟩
  rw [insertedCount, show (insertTasks store keys).tasks.rows = _ from rows, List.length_append]
  omega

theorem durable_insert (store : Store) {keys : List EvidenceQueryKey} {owner : String} (same : ∀ key ∈ keys, key.provider = owner)
    (provider : String) : ((insertTasks store keys).tasks.rows.filter (counts provider)).length =
      (store.tasks.rows.filter (counts provider)).length + if owner = provider then insertedCount store keys else 0 := by
  obtain ⟨new, sub, rows, size⟩ := inserted_rows store keys
  have counted : new.filter (counts provider) = if owner = provider then new else [] := by
    have each : ∀ row ∈ new, counts provider row = decide (owner = provider) := by
      intro row member
      obtain ⟨key, inside, rfl⟩ := List.mem_map.mp (sub.subset member)
      rw [← same key inside]
      simp only [counts, freshRow, nonterminal, List.contains_cons, beq_self_eq_true, Bool.true_or, Bool.and_true]
      rfl
    split
    · rename_i here
      exact List.filter_eq_self.mpr fun row member => by rw [each row member, decide_eq_true here]
    · rename_i other
      exact List.filter_eq_nil_iff.mpr fun row member => by simp [each row member, other]
  rw [rows, List.filter_append, List.length_append, counted, size]
  split <;> rfl

/-- Of different keys those are inserted that have no task. -/
theorem insertedCount_eq (store : Store) {keys : List EvidenceQueryKey} (distinct : keys.Nodup) :
    insertedCount store keys = (keys.filter (fun key => (store.tasks.get? key).isNone)).length := by
  have inserting : ∀ (t : Table TaskRow EvidenceQueryKey (·.key)), (keys.foldl (fun t key => t.insert (freshRow store key)) t).rows.length =
      t.rows.length + (keys.filter (fun key => (t.get? key).isNone)).length := by
    induction keys with
    | nil => simp
    | cons key rest ih =>
      intro t
      obtain ⟨absent, distinct⟩ := List.nodup_cons.mp distinct
      have later : rest.filter (fun k => ((t.insert (freshRow store key)).get? k).isNone) = rest.filter (fun k => (t.get? k).isNone) := by
        refine List.filter_congr fun k member => ?_
        have other : (freshRow store key).key ≠ k := fun same => absent ((show key = k from same) ▸ member)
        rw [Table.get?_insert_or, if_neg other, Option.or_none]
      rw [List.foldl_cons, ih distinct, later]
      cases found : t.get? key with
      | none =>
        rw [Table.rows_insert (r := freshRow store key) found, List.filter_cons_of_pos (by simp [found])]
        simp only [List.length_append, List.length_cons, List.length_nil]
        omega
      | some old =>
        have taken : (freshRow store key).key ∈ t.rows.map (·.key) := List.mem_map.mpr ⟨old, Table.get?_eq_some.mp found⟩
        rw [Table.insert, dif_pos taken, List.filter_cons_of_neg (by simp [found])]
  rw [insertedCount, insertTasks, inserting]
  omega

/-- What `enqueue_reserved` answers. -/
inductive EnqueueAnswer (s : Backlog) (clock : PyFloat) (reservation : CapacityReservation) (keys : List EvidenceQueryKey)
    (l : Lineage) : Reply Nat → Prop
  | refused (err : PyError) : EnqueueAnswer s clock reservation keys l (.error err, s)
  | nothing (none_ : keys = []) : EnqueueAnswer s clock reservation keys l (.ok 0, s)
  | admitted (id : String) (now : ℚ) (row : ReservationRow) (named : reservation.reservationId = some id)
      (providers : ∀ key ∈ keys.eraseDups, key.provider = reservation.provider) (reads : finiteReading clock = some now)
      (found : s.reservations.get? id = some row) (owner : row.provider = reservation.provider) (live : now < row.expiresAt)
      (enough : insertedCount s.store keys.eraseDups ≤ row.amount) :
      EnqueueAnswer s clock reservation keys l (.ok (insertedCount s.store keys.eraseDups), { withOrigins s keys.eraseDups l now with
        store := insertTasks s.store keys.eraseDups
        reservations := leftOf s.reservations id (row.amount - insertedCount s.store keys.eraseDups) })

theorem live_iff {reservation : CapacityReservation} {id : String} {now : ℚ} {row : ReservationRow} :
    s.live reservation id now = some row ↔ s.reservations.get? id = some row ∧ row.provider = reservation.provider ∧ now < row.expiresAt := by
  simp [Backlog.live, Option.filter_eq_some_iff]

theorem enqueue_cases (s : Backlog) (clock : PyFloat) (reservation : CapacityReservation) (keys : List EvidenceQueryKey) (l : Lineage) :
    EnqueueAnswer s clock reservation keys l (enqueueReserved s clock reservation keys l) := by
  unfold enqueueReserved
  split
  · rename_i none_
    exact .nothing none_
  split
  · exact .refused _
  rename_i id named
  split
  · exact .refused _
  rename_i providers
  split
  · exact .refused _
  split
  · exact .refused _
  rename_i now reads
  split
  · exact .refused _
  rename_i row isLive
  split
  · exact .refused _
  rename_i enough
  obtain ⟨found, owner, live⟩ := live_iff.mp isLive
  refine .admitted id now row named (fun key member => ?_) reads found owner live (not_lt.mp enough)
  have each : ∀ key ∈ keys, key.provider = reservation.provider := by simpa using providers
  exact each key (List.mem_eraseDups.mp member)

theorem enqueue_raises {reservation : CapacityReservation} {keys : List EvidenceQueryKey} {l : Lineage} {err : PyError}
    (raised : (enqueueReserved s clock reservation keys l).1 = .error err) : (enqueueReserved s clock reservation keys l).2 = s := by
  have answer := enqueue_cases s clock reservation keys l
  generalize enqueueReserved s clock reservation keys l = result at answer raised
  cases answer with
  | refused => rfl
  | nothing => rfl
  | admitted => cases raised

theorem enqueue_slots {reservation : CapacityReservation} {keys : List EvidenceQueryKey} {l : Lineage} {n : Nat}
    (succeeded : (enqueueReserved s clock reservation keys l).1 = .ok n) {id : String} (named : reservation.reservationId = some id) :
    n = (keys.eraseDups.filter (fun key => (s.store.tasks.get? key).isNone)).length ∧
      (enqueueReserved s clock reservation keys l).2.left id + n = s.left id := by
  have answer := enqueue_cases s clock reservation keys l
  generalize enqueueReserved s clock reservation keys l = result at answer succeeded
  cases answer with
  | refused => cases succeeded
  | nothing none_ =>
    cases succeeded
    subst none_
    exact ⟨rfl, rfl⟩
  | admitted name now row isNamed providers reads found owner live enough =>
    cases succeeded
    rw [named] at isNamed
    cases isNamed
    exact ⟨insertedCount_eq s.store (nodup_eraseDups keys), left_leftOf found enough⟩

/-! ## One step -/

inductive Moves (capacity : String → Nat) (s : Backlog) (e : AdmissionEvent) : Backlog → Prop
  | same : Moves capacity s e s
  | purged (now : ℚ) : Moves capacity s e (s.purge now)
  | granted (now : ℚ) (row : ReservationRow) (drawn : e.draws row.reservationId)
      (fresh : (s.purge now).reservations.get? row.reservationId = none)
      (fits : (s.purge now).durable row.provider + (s.purge now).kept row.provider + row.amount ≤ capacity row.provider) :
      Moves capacity s e { s.purge now with reservations := (s.purge now).reservations.insert row }
  | bound (id leaseId : String) : Moves capacity s e { s with
      reservations := s.reservations.update (fun r => r.reservationId = id) (fun r => { r with leaseId := some leaseId }) }
  | renewed (id : String) (now expiresAt : ℚ) (row : ReservationRow) (reads : finiteReading e.clock = some now)
      (found : s.reservations.get? id = some row) (live : now < row.expiresAt) : Moves capacity s e { s with
        reservations := s.reservations.update (fun r => r.reservationId = id) (fun r => { r with expiresAt }) }
  | enqueued (reservation : CapacityReservation) (keys : List EvidenceQueryKey) (l : Lineage) (n : Nat) (after : Backlog)
      (op : e.op = .enqueueReserved reservation keys l)
      (answer : EnqueueAnswer s e.clock reservation keys l (.ok n, after)) : Moves capacity s e after
  | released (id : String) : Moves capacity s e { s with reservations := s.reservations.delete (·.reservationId = id) }
  | settled (key : EvidenceQueryKey) (state : QueryState) : Moves capacity s e (settle s key state)

theorem positive_pos {x : PyFloat} {ttl : ℚ} (checked : positive x = some ttl) : 0 < ttl := by
  unfold positive at checked
  split at checked
  · split at checked
    · rename_i above
      cases checked
      exact above
    · cases checked
  · cases checked

theorem tryReserve_moves {capacity : String → Nat} {e : AdmissionEvent} {amount : Int} {ttlSeconds : PyFloat} {draw : String}
    (op : e.op = .tryReserve provider amount ttlSeconds draw) :
    Moves capacity s e (tryReserve s e.clock provider amount (capacity provider) ttlSeconds draw).2 := by
  unfold tryReserve
  split
  · exact .same
  split
  · exact .same
  rename_i nonneg
  split
  · exact .same
  split
  · exact .same
  split
  · exact .same
  rename_i now _
  split
  · exact .same
  split
  · exact .purged now
  rename_i fits
  split
  · exact .same
  split
  · exact .same
  rename_i fresh
  refine .granted now ⟨"evidence-capacity-" ++ draw, provider, amount.toNat, _, none⟩ ?_ (by simpa using fresh) ?_
  · rw [AdmissionEvent.draws, op]
  · rw [reserved_purge] at fits
    dsimp only
    omega

theorem bindLease_moves (capacity : String → Nat) (e : AdmissionEvent) (reservation : CapacityReservation) (leaseId : String) :
    Moves capacity s e (bindLease s reservation leaseId).2 := by
  unfold bindLease
  split
  · exact .same
  rename_i id _
  split
  · exact .same
  split
  · exact .same
  · exact .bound id leaseId

theorem renew_moves (capacity : String → Nat) (e : AdmissionEvent) (reservation : CapacityReservation) (ttlSeconds : PyFloat) :
    Moves capacity s e (renew s e.clock reservation ttlSeconds).2 := by
  unfold renew
  split
  · exact .same
  split
  · exact .same
  rename_i now reads
  split
  · exact .same
  rename_i id _
  split
  · exact .same
  · rename_i row isLive
    obtain ⟨found, -, live⟩ := live_iff.mp isLive
    exact .renewed id now _ row reads found live

theorem step_moves (capacity : String → Nat) (s : Backlog) (e : AdmissionEvent) : Moves capacity s e (step capacity s e).2 := by
  unfold step
  cases op : e.op with
  | availableCapacity provider =>
    unfold availableCapacity
    dsimp only
    split
    · exact .same
    split
    · exact .same
    split
    · exact .same
    · exact .purged _
  | tryReserve provider amount ttlSeconds draw => exact tryReserve_moves op
  | bindLease reservation leaseId => exact bindLease_moves capacity e reservation leaseId
  | renew reservation ttlSeconds => exact renew_moves capacity e reservation ttlSeconds
  | enqueueReserved reservation keys lineage =>
    have answer := enqueue_cases s e.clock reservation keys lineage
    dsimp only
    generalize enqueueReserved s e.clock reservation keys lineage = result at answer
    obtain ⟨outcome, after⟩ := result
    cases outcome with
    | error err =>
      cases answer
      exact .same
    | ok n => exact .enqueued reservation keys lineage n after op answer
  | release reservation =>
    unfold release
    dsimp only
    split
    · exact .same
    · exact .released _
  | settle key state => exact .settled key state

/-! ## The invariant -/

/-- The unfinished tasks and all rows of a provider stay within its capacity. -/
def Bounded (capacity : String → Nat) (s : Backlog) : Prop := ∀ provider, s.durable provider + s.kept provider ≤ capacity provider

/-- Rewriting a row without its provider and amount. -/
theorem kept_update (t : Table ReservationRow String (·.reservationId)) (id provider : String) (set : ReservationRow → ReservationRow)
    (keeps : ∀ r, (set r).reservationId = r.reservationId) (same : ∀ r, keptFor provider (set r) = keptFor provider r) :
    ((t.update (fun r => r.reservationId = id) set keeps).rows.map (keptFor provider)).sum = (t.rows.map (keptFor provider)).sum := by
  rw [Table.rows_update, List.map_map]
  congr 1
  refine List.map_congr_left fun r _ => ?_
  simp only [Function.comp_apply]
  split
  · exact same r
  · rfl

/-- Work on a task never adds one. -/
theorem durable_settle (s : Backlog) (key : EvidenceQueryKey) (state : QueryState) (provider : String) :
    (settle s key state).durable provider ≤ s.durable provider := by
  unfold Backlog.durable settle
  rw [Table.rows_update, List.filter_map, List.length_map]
  refine List.Sublist.length_le (List.monotone_filter_right _ fun row counted => ?_)
  simp only [Function.comp_apply] at counted
  split at counted
  · rename_i hit
    simp only [Bool.and_eq_true, decide_eq_true_eq] at hit
    simp only [counts, Bool.and_eq_true] at counted ⊢
    exact ⟨counted.1, hit.2⟩
  · exact counted

theorem bounded_step {capacity : String → Nat} (bounded : Bounded capacity s) {e : AdmissionEvent} {after : Backlog}
    (moves : Moves capacity s e after) : Bounded capacity after := by
  intro provider
  have before := bounded provider
  cases moves with
  | same => exact before
  | purged now =>
    have := kept_purge_le s provider now
    rw [durable_purge]
    omega
  | granted now row drawn fresh fits =>
    have less := kept_purge_le s provider now
    have rows : ({ s.purge now with reservations := (s.purge now).reservations.insert row } : Backlog).kept provider =
        (s.purge now).kept provider + keptFor provider row := by
      unfold Backlog.kept
      rw [Table.rows_insert fresh]
      simp
    rw [rows]
    show s.durable provider + _ ≤ _
    rw [durable_purge] at fits
    unfold keptFor
    split
    · rename_i here
      subst here
      omega
    · omega
  | bound id leaseId =>
    have same := kept_update s.reservations id provider (fun r => { r with leaseId := some leaseId }) (fun _ => rfl) (fun _ => rfl)
    exact (Nat.add_le_add_left same.le (s.durable provider)).trans before
  | renewed id now expiresAt row reads found live =>
    have same := kept_update s.reservations id provider (fun r => { r with expiresAt }) (fun _ => rfl) (fun _ => rfl)
    exact (Nat.add_le_add_left same.le (s.durable provider)).trans before
  | enqueued reservation keys l n after op answer =>
    cases answer with
    | nothing => exact before
    | admitted id now row named providers reads found owner live enough =>
      have tasks := durable_insert s.store providers provider
      have slots := kept_leftOf found enough provider
      show ((insertTasks s.store keys.eraseDups).tasks.rows.filter (counts provider)).length +
        ((leftOf s.reservations id (row.amount - insertedCount s.store keys.eraseDups)).rows.map (keptFor provider)).sum ≤ capacity provider
      rw [tasks]
      rw [owner] at slots
      have durable : (s.store.tasks.rows.filter (counts provider)).length = s.durable provider := rfl
      omega
  | released id =>
    have : ({ s with reservations := s.reservations.delete (·.reservationId = id) } : Backlog).kept provider ≤ s.kept provider :=
      sum_filter_le _ _ _
    show s.durable provider + _ ≤ _
    omega
  | settled key state =>
    have := durable_settle s key state provider
    show (settle s key state).durable provider + s.kept provider ≤ _
    omega

/-! ## Dead reservations -/

theorem dead_step {capacity : String → Nat} {id : String} {t : ℚ} (dead : Dead s id t) {e : AdmissionEvent} {after : Backlog}
    (moves : Moves capacity s e after) (later : ∀ now, finiteReading e.clock = some now → t ≤ now) (other : ¬e.draws id) :
    Dead after id t := by
  have purged : ∀ now, Dead (s.purge now) id t := by
    intro now row found
    have still : (s.reservations.delete (·.expiresAt ≤ now)).get? id = some row := found
    rw [Table.get?_delete] at still
    exact dead row (Option.filter_eq_some_iff.mp still).1
  cases moves with
  | same => exact dead
  | purged now => exact purged now
  | granted now row drawn fresh fits =>
    have apart : row.reservationId ≠ id := fun same => other (same ▸ drawn)
    intro found isFound
    rw [Table.get?_insert fresh, if_neg apart] at isFound
    exact purged now found isFound
  | bound name leaseId =>
    intro row found
    rw [Table.get?_update_key] at found
    split at found
    · obtain ⟨old, stored, rfl⟩ := Option.map_eq_some_iff.mp found
      exact dead old stored
    · exact dead row found
  | renewed name now expiresAt old reads stored live =>
    have apart : ¬id = name := by
      rintro rfl
      exact absurd live (not_lt.mpr ((dead old stored).trans (later now reads)))
    intro row found
    rw [Table.get?_update_key, if_neg apart] at found
    exact dead row found
  | enqueued reservation keys l n after op answer =>
    cases answer with
    | nothing => exact dead
    | admitted name now old named providers reads stored owner live enough =>
      have apart : ¬id = name := by
        rintro rfl
        exact absurd live (not_lt.mpr ((dead old stored).trans (later now reads)))
      intro row found
      refine dead row ?_
      have still : (leftOf s.reservations name (old.amount - insertedCount s.store keys.eraseDups)).get? id = some row := found
      unfold leftOf at still
      split at still
      · rw [Table.get?_delete] at still
        exact (Option.filter_eq_some_iff.mp still).1
      · rwa [Table.get?_update_key, if_neg apart] at still
  | released name =>
    intro row found
    rw [Table.get?_delete] at found
    exact dead row (Option.filter_eq_some_iff.mp found).1
  | settled key state => exact dead

theorem dead_enqueue {id : String} {t : ℚ} (dead : Dead s id t) {reservation : CapacityReservation} (named : reservation.reservationId = some id)
    (later : ∀ now, finiteReading clock = some now → t ≤ now) (keys : List EvidenceQueryKey) (l : Lineage) :
    (enqueueReserved s clock reservation keys l).2 = s := by
  have answer := enqueue_cases s clock reservation keys l
  generalize enqueueReserved s clock reservation keys l = result at answer
  cases answer with
  | refused => rfl
  | nothing => rfl
  | admitted name now row isNamed providers reads found owner live enough =>
    rw [named] at isNamed
    cases isNamed
    exact absurd live (not_lt.mpr ((dead row found).trans (later now reads)))

end

theorem bounded_final (capacity : String → Nat) (es : List AdmissionEvent) : Bounded capacity ((admission capacity).final es) := by
  refine (admission capacity).invariant (I := Bounded capacity) ?_ (fun s e bounded => bounded_step bounded (step_moves capacity s e)) es
  intro provider
  exact Nat.zero_le _

theorem dead_run (capacity : String → Nat) {s : Backlog} {id : String} {t : ℚ} (dead : Dead s id t) (es : List AdmissionEvent)
    (later : ∀ e ∈ es, ∀ now, finiteReading e.clock = some now → t ≤ now) (other : ∀ e ∈ es, ¬e.draws id) :
    Dead ((admission capacity).finalFrom s es) id t := by
  induction es generalizing s with
  | nil => exact dead
  | cons e es ih =>
    have next := dead_step dead (step_moves capacity s e) (later e List.mem_cons_self) (other e List.mem_cons_self)
    exact ih next (fun e' member => later e' (List.mem_cons_of_mem _ member)) fun e' member => other e' (List.mem_cons_of_mem _ member)

theorem step_enqueue (capacity : String → Nat) (s : Backlog) {e : AdmissionEvent} {reservation : CapacityReservation}
    {keys : List EvidenceQueryKey} {l : Lineage} (op : e.op = .enqueueReserved reservation keys l) :
    step capacity s e = enqueueReserved s e.clock reservation keys l := by
  simp only [step, op]

theorem backlog_safe (capacity : String → Nat) (es : List AdmissionEvent) : BacklogSafe capacity es where
  bounded provider now := (Nat.add_le_add_left (reserved_le _ provider now) _).trans (bounded_final capacity es provider)
  raises r member reservation keys lineage op err raised := by
    obtain ⟨before, after, -, isStep⟩ := Machine.mem_trace _ member
    have same : r.after = _ := congrArg Step.after isStep
    have old : r.before = _ := congrArg Step.before isStep
    have outcome : r.outcome = _ := congrArg Step.outcome isStep
    rw [outcome, show (admission capacity).take _ r.event = ⟨_, _, (step capacity _ r.event).1, _⟩ from rfl,
      step_enqueue capacity _ op] at raised
    rw [same, old]
    show (step capacity _ r.event).2 = _
    rw [step_enqueue capacity _ op]
    exact enqueue_raises raised
  slots r member reservation keys lineage op n succeeded id named := by
    obtain ⟨before, after, -, isStep⟩ := Machine.mem_trace _ member
    have same : r.after = _ := congrArg Step.after isStep
    have old : r.before = _ := congrArg Step.before isStep
    have outcome : r.outcome = _ := congrArg Step.outcome isStep
    rw [outcome, show (admission capacity).take _ r.event = ⟨_, _, (step capacity _ r.event).1, _⟩ from rfl,
      step_enqueue capacity _ op] at succeeded
    rw [same, old, show (admission capacity).take _ r.event = ⟨_, _, _, (step capacity _ r.event).2⟩ from rfl,
      step_enqueue capacity _ op]
    exact enqueue_slots succeeded named
  dead before after e reservation keys lineage id t split dead later other op named := by
    subst split
    rw [Machine.final_snoc, Machine.final_append]
    have still := dead_run capacity dead after (fun e' member => later e' (List.mem_append_left _ member)) other
    show (step capacity _ e).2.store = _
    rw [step_enqueue capacity _ op, dead_enqueue still named (later e (List.mem_append_right _ List.mem_cons_self)) keys lineage]

/-! ## Reservations are honoured -/

/-- The tasks that the enqueues under a reservation add. -/
def taken (capacity : String → Nat) (id : String) : Backlog → List AdmissionEvent → Nat
  | _, [] => 0
  | s, e :: es =>
    (match e.op, (step capacity s e).1 with
      | .enqueueReserved r _ _, .ok n => if r.reservationId = some id then n else 0
      | _, _ => 0) + taken capacity id (step capacity s e).2 es

/-- A call that leaves a reservation alone until a time: it may use, bind or renew it, but neither releases nor draws it. -/
def AdmissionEvent.spares (e : AdmissionEvent) (id : String) (until_ : ℚ) : Prop :=
  ¬e.draws id ∧ (∀ r, e.op = .release (some r) → r.reservationId ≠ some id) ∧ ∀ now, finiteReading e.clock = some now → now < until_

def newKeys (s : Backlog) (keys : List EvidenceQueryKey) : Nat := (keys.eraseDups.filter fun key => (s.store.tasks.get? key).isNone).length

/-- The slots that are left of a reservation; its row is gone with the last of them. -/
structure Promised (r : CapacityReservation) (id : String) (n : Nat) (s : Backlog) : Prop where
  left : s.left id = n
  row : ∀ row, s.reservations.get? id = some row → row.provider = r.provider ∧ r.expiresAt ≤ row.expiresAt ∧ 0 < row.amount

theorem get?_delete_kept {t : Table ReservationRow String (·.reservationId)} {id : String} {gone : ReservationRow → Bool}
    (stays : ∀ row, t.get? id = some row → gone row = false) : (t.delete gone).get? id = t.get? id := by
  rw [Table.get?_delete]
  cases found : t.get? id with
  | none => rfl
  | some row => simp [Option.filter, stays row found]

section
variable {s after : Backlog} {r : CapacityReservation} {id : String} {n : Nat}

theorem Promised.same (promised : Promised r id n s) (same : after.reservations.get? id = s.reservations.get? id) :
    Promised r id n after :=
  ⟨by rw [← promised.left, Backlog.left, same]; rfl, fun row found => promised.row row (same ▸ found)⟩

theorem Promised.purge (promised : Promised r id n s) {now : ℚ} (early : now < r.expiresAt) : Promised r id n (s.purge now) := by
  refine promised.same (get?_delete_kept fun row found => ?_)
  simpa using early.trans_le (promised.row row found).2.1

/-- Rewriting a row without its provider and amount, and with no earlier expiry. -/
theorem Promised.rewrite (promised : Promised r id n s) (name : String) (set : ReservationRow → ReservationRow)
    (keeps : ∀ row, (set row).reservationId = row.reservationId)
    (same : ∀ row, s.reservations.get? name = some row → (set row).provider = row.provider ∧ (set row).amount = row.amount ∧
      row.expiresAt ≤ (set row).expiresAt) :
    Promised r id n { s with reservations := s.reservations.update (fun row => row.reservationId = name) set keeps } := by
  have found := Table.get?_update_key s.reservations name set keeps id
  by_cases here : id = name
  · subst here
    rw [if_pos rfl] at found
    refine ⟨?_, fun row stored => ?_⟩
    · rw [← promised.left, Backlog.left, found, Option.map_map, Backlog.left]
      cases old : s.reservations.get? id with
      | none => rfl
      | some row => simp [(same row old).2.1]
    · rw [found] at stored
      obtain ⟨old, isOld, rfl⟩ := Option.map_eq_some_iff.mp stored
      obtain ⟨owner, later, some_⟩ := promised.row old isOld
      obtain ⟨provider, amount, no⟩ := same old isOld
      exact ⟨provider.trans owner, later.trans no, amount ▸ some_⟩
  · rw [if_neg here] at found
    exact promised.same found

/-- An enqueue takes its new tasks from its own reservation, and none from another. -/
theorem promised_enqueue (promised : Promised r id n s) (clock : PyFloat) (own : CapacityReservation) (keys : List EvidenceQueryKey)
    (l : Lineage) : ∃ m, Promised r id m (enqueueReserved s clock own keys l).2 ∧
      m + (match (enqueueReserved s clock own keys l).1 with
        | .ok n => if own.reservationId = some id then n else 0
        | .error _ => 0) = n := by
  have answer := enqueue_cases s clock own keys l
  generalize enqueueReserved s clock own keys l = result at answer
  cases answer with
  | refused => exact ⟨n, promised, rfl⟩
  | nothing => exact ⟨n, promised, by simp⟩
  | admitted name now row named providers reads found owner live enough =>
    by_cases here : name = id
    · subst here
      have remains := left_leftOf found enough
      rw [promised.left] at remains
      refine ⟨_, ⟨rfl, fun kept isKept => ?_⟩, by simpa [named, Backlog.left] using remains⟩
      obtain ⟨provider, expiry, some_⟩ := promised.row row found
      have still : (leftOf s.reservations name (row.amount - insertedCount s.store keys.eraseDups)).get? name = some kept := isKept
      unfold leftOf at still
      split at still
      · rw [Table.get?_delete, found] at still
        simp [Option.filter, Table.get?_key found] at still
      · rename_i more
        rw [Table.get?_update_key, if_pos rfl, found] at still
        cases still
        exact ⟨provider, expiry, Nat.pos_of_ne_zero more⟩
    · refine ⟨n, promised.same ?_, by simp [named, here]⟩
      show (leftOf s.reservations name (row.amount - insertedCount s.store keys.eraseDups)).get? id = s.reservations.get? id
      unfold leftOf
      split
      · refine get?_delete_kept fun other isOther => ?_
        simpa [Table.get?_key isOther] using Ne.symm here
      · rw [Table.get?_update_key, if_neg (Ne.symm here)]

theorem promised_step {capacity : String → Nat} (promised : Promised r id n s) {e : AdmissionEvent} (spares : e.spares id r.expiresAt)
    (later : List AdmissionEvent) : ∃ m, Promised r id m (step capacity s e).2 ∧
      m + taken capacity id s (e :: later) = n + taken capacity id (step capacity s e).2 later := by
  obtain ⟨op, clock⟩ := e
  obtain ⟨other, held, early⟩ := spares
  have idle (after : Backlog) (promised : Promised r id n after) (is : after = (step capacity s ⟨op, clock⟩).2)
      (not : ∀ own keys l, op ≠ .enqueueReserved own keys l) : ∃ m, Promised r id m (step capacity s ⟨op, clock⟩).2 ∧
      m + taken capacity id s (⟨op, clock⟩ :: later) = n + taken capacity id (step capacity s ⟨op, clock⟩).2 later := by
    refine ⟨n, is ▸ promised, ?_⟩
    rw [taken]
    split
    · rename_i own keys l _ same _
      exact absurd same (not own keys l)
    · rw [Nat.zero_add]
  cases op with
  | availableCapacity provider =>
    refine idle _ ?_ rfl (by simp)
    simp only [step, availableCapacity]
    split
    · exact promised
    split
    · exact promised
    split
    · exact promised
    · exact promised.purge (early _ ‹_›)
  | tryReserve provider amount ttlSeconds draw =>
    refine idle _ ?_ rfl (by simp)
    simp only [step, tryReserve]
    split
    · exact promised
    split
    · exact promised
    split
    · exact promised
    split
    · exact promised
    split
    · exact promised
    rename_i now reads
    have purged := promised.purge (early now reads)
    split
    · exact promised
    split
    · exact purged
    split
    · exact promised
    split
    · exact promised
    · rename_i fresh
      refine purged.same ?_
      rw [Table.get?_insert (by simpa using fresh)]
      exact if_neg other
  | bindLease own leaseId =>
    refine idle _ ?_ rfl (by simp)
    simp only [step, bindLease]
    split
    · exact promised
    split
    · exact promised
    split
    · exact promised
    · exact promised.rewrite _ _ _ fun row _ => ⟨rfl, rfl, le_rfl⟩
  | renew own ttlSeconds =>
    refine idle _ ?_ rfl (by simp)
    simp only [step, renew]
    split
    · exact promised
    split
    · exact promised
    split
    · exact promised
    split
    · exact promised
    · rename_i row isLive
      refine promised.rewrite _ _ _ fun old found => ⟨rfl, rfl, ?_⟩
      rw [(live_iff.mp isLive).1] at found
      cases found
      exact le_max_left _ _
  | enqueueReserved own keys l =>
    obtain ⟨m, kept, sum⟩ := promised_enqueue promised clock own keys l
    refine ⟨m, kept, ?_⟩
    rw [taken, step, ← sum]
    cases (enqueueReserved s clock own keys l).1 <;> dsimp only <;> omega
  | release own =>
    refine idle _ ?_ rfl (by simp)
    simp only [step, release]
    split
    · exact promised
    · rename_i name isOwn
      refine promised.same (get?_delete_kept fun row found => ?_)
      obtain ⟨held', isHeld, isName⟩ := Option.bind_eq_some_iff.mp isOwn
      have apart := held held' (by rw [isHeld])
      rw [isName] at apart
      simpa [Table.get?_key found] using fun same => apart (congrArg some same.symm)
  | settle key state => exact idle (settle s key state) (promised.same rfl) rfl (by simp)

theorem promised_run {capacity : String → Nat} (promised : Promised r id n s) {later : List AdmissionEvent}
    (spares : ∀ e ∈ later, e.spares id r.expiresAt) :
    ∃ m, Promised r id m ((admission capacity).finalFrom s later) ∧ m + taken capacity id s later = n := by
  induction later generalizing s n with
  | nil => exact ⟨n, promised, rfl⟩
  | cons e later ih =>
    obtain ⟨m, kept, sum⟩ := @promised_step s r id n capacity promised e (spares e List.mem_cons_self) later
    obtain ⟨k, still, rest⟩ := ih kept fun e' member => spares e' (List.mem_cons_of_mem _ member)
    exact ⟨k, still, by omega⟩

end

theorem promised_granted {s after : Backlog} {clock : PyFloat} {provider : String} {amount capacity : Int} {ttlSeconds : PyFloat}
    {draw : String} {r : CapacityReservation} {id : String}
    (granted : tryReserve s clock provider amount capacity ttlSeconds draw = (.ok (some r), after))
    (named : r.reservationId = some id) : Promised r id amount.toNat after := by
  have made {name : Option String} {slots : Nat} {expiresAt : ℚ} {b : Backlog}
      (same : ((CapacityReservation.make name provider slots expiresAt).map some, b) = (.ok (some r), after)) :
      r.reservationId = name ∧ r.provider = provider ∧ r.expiresAt = expiresAt ∧ b = after := by
    unfold CapacityReservation.make at same
    split at same
    · cases same
    · cases same
      exact ⟨rfl, rfl, rfl, rfl⟩
  unfold tryReserve at granted
  split at granted
  · cases granted
  split at granted
  · cases granted
  rename_i nonneg
  split at granted
  · cases granted
  split at granted
  · cases granted
  rename_i ttl _
  split at granted
  · cases granted
  rename_i now _
  split at granted
  · rw [named] at made
    cases (made granted).1
  rename_i some_
  split at granted
  · cases granted
  split at granted
  · cases granted
  split at granted
  · cases granted
  rename_i fresh
  obtain ⟨isId, owner, expiry, rfl⟩ := made granted
  cases named.symm.trans isId
  have stored := (Table.get?_insert (r := (⟨"evidence-capacity-" ++ draw, provider, amount.toNat, now + ttl, none⟩ : ReservationRow))
    (Option.not_isSome_iff_eq_none.mp fresh) ("evidence-capacity-" ++ draw)).trans (if_pos rfl)
  refine ⟨by rw [Backlog.left, stored]; rfl, fun row found => ?_⟩
  rw [stored] at found
  cases found
  refine ⟨owner.symm, expiry.le, ?_⟩
  show 0 < amount.toNat
  omega

/-- What a granted reservation is good for until it expires, while nothing releases it. -/
structure Honoured (capacity : String → Nat) (s : Backlog) (r : CapacityReservation) (id : String) (amount : Nat)
    (later : List AdmissionEvent) : Prop where
  /-- Of its slots those are left that no enqueue under it took, whatever other producers did. -/
  left : ((admission capacity).finalFrom s later).left id + taken capacity id s later = amount
  /-- While one is left, an enqueue under it adds its new tasks exactly when they fit in the slots that are left. -/
  admits : ∀ clock now keys l, finiteReading clock = some now → now < r.expiresAt → keys ≠ [] → (∀ key ∈ keys, key.provider = r.provider) →
    l.complete = true → taken capacity id s later < amount →
      ((enqueueReserved ((admission capacity).finalFrom s later) clock r keys l).1 = .ok (newKeys ((admission capacity).finalFrom s later) keys) ↔
        taken capacity id s later + newKeys ((admission capacity).finalFrom s later) keys ≤ amount)

end Creeper.BacklogAdmission
