import Creeper.EvidenceRouting
import Creeper.OldestFirst

/-!
# Lanes of the spillover table

`flush_pending` takes the oldest staged needs of the whole table and looks at lanes and
capacities afterwards. A lane with room is promoted when one of its needs is among them, and
waits while older needs of other lanes fill the selection.
-/

namespace Creeper.SpilloverLanes
open Creeper.OldestFirst Creeper.Tables Creeper.PyNumbers Creeper.Transactions Creeper.EvidenceTasks Creeper.EvidenceRouting
open Creeper.EvidenceQueue (insertTasks)
open Creeper.BacklogAdmission (Backlog CapacityReservation availableCapacity tryReserve bindLease enqueueReserved release leftOf)
open Creeper.FabricModels (blank)

/-- No reservation has the name that `uuid4` draws next. -/
def Fresh (s : Routes) : Prop := s.backlog.reservations.get? ("evidence-capacity-" ++ s.draw) = none

/-- The slots of a provider that tasks and live reservations take. -/
def occupied (s : Routes) (provider : String) : Nat := s.backlog.durable provider + s.backlog.reserved provider s.clock

def granted (b : Backlog) (row : BacklogAdmission.ReservationRow) : Backlog := { b with reservations := b.reservations.insert row }

/-! ## A reservation with room -/

section
variable {s : Routes} {provider : String} {capacity : Nat}

theorem reading (clock : ℚ≥0) : finiteReading (.fin clock) = some (clock : ℚ) := if_neg (not_lt.mpr clock.2)

theorem reserved_purged (b : Backlog) (provider : String) (now : ℚ) : (b.purge now).reserved provider now = b.reserved provider now := by
  unfold Backlog.reserved Backlog.purge
  rw [Table.rows_delete, List.filter_filter]
  congr 2
  refine List.filter_congr fun row _ => ?_
  simp

/-- `available_capacity` of a lane. -/
theorem available_room (named : provider ≠ "") : availableCapacity s.backlog (.fin s.clock) provider capacity =
    (.ok (capacity - occupied s provider), s.backlog.purge s.clock) := by
  unfold availableCapacity
  rw [if_neg named, if_neg (by omega), reading]
  dsimp only
  rw [BacklogAdmission.durable_purge, reserved_purged, occupied]
  congr 2
  omega

theorem key_named (key : EvidenceQueryKey) : blank key.provider = false := by
  have valid := key.valid
  simp only [Bool.and_eq_true, Bool.not_eq_true'] at valid
  exact valid.1.2

theorem named_ne {text : String} (named : blank text = false) : text ≠ "" := by
  rintro rfl
  exact absurd named (by decide)

theorem blank_drawn (draw : String) : blank ("evidence-capacity-" ++ draw) = false := by
  rw [blank, String.toList_append, List.all_append, Bool.and_eq_false_iff]
  exact .inl (by decide)

theorem reserve_room (fresh : Fresh s) (named : blank provider = false) {amount : Nat} (some_ : 0 < amount) (small : amount < 2 ^ 63)
    (fits : occupied s provider + amount ≤ capacity) {ttlSeconds : PyFloat} {ttl : ℚ} (lasts : positive ttlSeconds = some ttl) :
    ∃ reservation : CapacityReservation, reservation.reservationId = some ("evidence-capacity-" ++ s.draw) ∧ reservation.provider = provider ∧
      tryReserve s.backlog (.fin s.clock) provider amount capacity ttlSeconds s.draw =
        (.ok (some reservation),
          granted (s.backlog.purge s.clock) ⟨"evidence-capacity-" ++ s.draw, provider, amount, s.clock + ttl, none⟩) := by
  have above := BacklogAdmission.positive_pos lasts
  have later : (0 : ℚ) ≤ s.clock + ttl := add_nonneg s.clock.2 above.le
  have valid : BacklogAdmission.reservationProblem (some ("evidence-capacity-" ++ s.draw)) provider (s.clock + ttl) = none := by
    unfold BacklogAdmission.reservationProblem
    rw [if_neg (by simp [blank_drawn]), if_neg (by simp [named]), if_neg (not_lt.mpr later)]
  have gone : ((s.backlog.purge s.clock).reservations.get? ("evidence-capacity-" ++ s.draw)).isSome = false := by
    rw [Backlog.purge, Table.get?_delete, show s.backlog.reservations.get? ("evidence-capacity-" ++ s.draw) = none from fresh]
    rfl
  refine ⟨⟨some ("evidence-capacity-" ++ s.draw), provider, amount, s.clock + ttl, valid⟩, rfl, rfl, ?_⟩
  unfold tryReserve
  rw [if_neg (named_ne named), if_neg (by omega), if_neg (by omega), lasts, reading]
  dsimp only
  rw [if_neg (by omega), BacklogAdmission.durable_purge, reserved_purged, if_neg (by rw [occupied] at fits; omega), if_neg (by omega), gone,
    if_neg Bool.false_ne_true, Int.toNat_natCast]
  unfold CapacityReservation.make
  split
  · rename_i err problem
    rw [valid] at problem
    cases problem
  · rfl

end

/-! ## One group -/

section
variable {s : Routes} {r : EvidenceRouter} {ttlSeconds : PyFloat} {ttl : ℚ} {group : List EvidenceNeed}

structure Enqueued (group : List EvidenceNeed) (s s' : Routes) : Prop where
  clock : s'.clock = s.clock
  draw : s'.draw = s.draw
  tasks : s'.backlog.store = insertTasks s.backlog.store (group.map (·.key)).eraseDups
  reservations : s'.backlog.reservations = (s.backlog.purge s.clock).reservations
  staged : s'.staged = s.staged.delete (group.contains ·.need)

theorem delete_insert {Row Key : Type} [DecidableEq Key] {key : Row → Key} {t : Table Row Key key} {row : Row} (fresh : t.get? (key row) = none) :
    (t.insert row).delete (fun r => key r = key row) = t := by
  have others := Table.get?_eq_none.mp fresh
  have kept : t.rows.filter (fun r => !decide (key r = key row)) = t.rows :=
    List.filter_eq_self.mpr fun r member => by simpa using others r member
  apply Table.ext
  rw [Table.rows_delete, Table.rows_insert fresh, List.filter_append, kept, List.filter_cons_of_neg (by simp), List.filter_nil, List.append_nil]

theorem delete_update {Row Key : Type} {key : Row → Key} (t : Table Row Key key) {where_ : Row → Bool} {set : Row → Row}
    (keeps : ∀ r, key (set r) = key r) (same : ∀ r, where_ (set r) = where_ r) : (t.update where_ set keeps).delete where_ = t.delete where_ := by
  apply Table.ext
  rw [Table.rows_delete, Table.rows_delete, Table.rows_update, List.filter_map]
  have each (r : Row) : where_ (if where_ r then set r else r) = where_ r := by
    split
    · exact same r
    · rfl
  simp only [Function.comp_def, each]
  refine (List.map_congr_left fun r member => ?_).trans (List.map_id _)
  have kept := (List.mem_filter.mp member).2
  rw [if_neg (by simpa using kept)]
  rfl

theorem delete_delete {Row Key : Type} {key : Row → Key} (t : Table Row Key key) (where_ : Row → Bool) :
    (t.delete where_).delete where_ = t.delete where_ := by
  apply Table.ext
  rw [Table.rows_delete, Table.rows_delete, List.filter_filter]
  simp only [Bool.and_self]

section
variable {b : Backlog} {row : BacklogAdmission.ReservationRow} {leaseId : String}

theorem granted_get? (fresh : b.reservations.get? row.reservationId = none) : (granted b row).reservations.get? row.reservationId = some row := by
  rw [granted, Table.get?_insert fresh, if_pos rfl]

theorem bind_granted (fresh : b.reservations.get? row.reservationId = none) {reservation : CapacityReservation}
    (name : reservation.reservationId = some row.reservationId) (named : blank leaseId = false) :
    bindLease (granted b row) reservation leaseId = (.ok (), granted b { row with leaseId := some leaseId }) := by
  unfold bindLease
  rw [name]
  dsimp only
  rw [if_neg (named_ne named), granted_get? fresh, if_neg (by simp)]
  have others := Table.get?_eq_none.mp fresh
  congr 2
  apply Table.ext
  have fresh' : b.reservations.get? { row with leaseId := some leaseId }.reservationId = none := fresh
  unfold granted
  rw [Table.rows_update, Table.rows_insert fresh, Table.rows_insert fresh', List.map_append, List.map_singleton, if_pos (by simp)]
  congr 1
  refine (List.map_congr_left fun r member => ?_).trans (List.map_id _)
  rw [if_neg (by simpa using others r member)]
  rfl

theorem release_left (fresh : b.reservations.get? row.reservationId = none) (n : Nat) :
    (leftOf (granted b row).reservations row.reservationId n).delete (fun r => r.reservationId = row.reservationId) = b.reservations := by
  have bound : (granted b row).reservations.delete (fun r => r.reservationId = row.reservationId) = b.reservations := delete_insert fresh
  unfold leftOf
  split
  · rw [delete_delete, bound]
  · refine Eq.trans ?_ bound
    exact delete_update (granted b row).reservations (by exact fun _ => rfl) (by exact fun _ => rfl)

end

theorem group_enqueued (fresh : Fresh s) {first : EvidenceNeed} {rest : List EvidenceNeed} (same : ∀ need ∈ first :: rest, need.group = first.group)
    (small : (first :: rest).length < 2 ^ 63) (fits : occupied s first.key.provider + (first :: rest).length ≤ r.backlogCapacities first.key.provider)
    (lasts : positive ttlSeconds = some ttl) :
    ∃ n s', (r.tryEnqueueGroup (first :: rest) ttlSeconds).perform s = (.ok n, s') ∧ Enqueued (first :: rest) s s' := by
  have unmixed : ¬(first :: rest).any (fun need => need.group ≠ first.group) := by simpa using same
  have open_ : r.backlogCapacities first.key.provider ≠ 0 := by
    rw [List.length_cons] at fits
    omega
  have amount : ((first :: rest).map (reservationAmount ·.key)).sum = (first :: rest).length := by
    simp [reservationAmount, Nat.add_comm]
  have keyed : ¬(first :: rest).map (·.key) = [] := List.cons_ne_nil _ _
  have owned : ¬((first :: rest).map (·.key)).any (fun key => key.provider ≠ first.key.provider) := by
    rw [List.any_map, Bool.not_eq_true, List.any_eq_false]
    intro need member
    have provider : need.key.provider = first.key.provider := congrArg Prod.fst (same need member)
    simpa using provider
  have named := first.named
  simp only [Bool.and_eq_true, Bool.not_eq_true'] at named
  obtain ⟨⟨source, reservoir⟩, lease⟩ := named
  have complete : BacklogAdmission.Lineage.complete ⟨some first.sourceKey, some first.reservoirId, some first.leaseId⟩ = true := by
    simp [BacklogAdmission.Lineage.complete, source, reservoir, lease]
  obtain ⟨reservation, name, owner, reserved⟩ := reserve_room fresh (key_named first.key) (show 0 < (first :: rest).length from Nat.succ_pos _) small fits lasts
  have above := BacklogAdmission.positive_pos lasts
  have gone : (s.backlog.purge s.clock).reservations.get? ("evidence-capacity-" ++ s.draw) = none := by
    rw [Backlog.purge, Table.get?_delete, show s.backlog.reservations.get? ("evidence-capacity-" ++ s.draw) = none from fresh]
    rfl
  unfold EvidenceRouter.tryEnqueueGroup
  dsimp only
  rw [if_neg unmixed, if_neg open_, Call.perform_bind, Call.perform_atomic]
  rw [amount, reserved]
  dsimp only
  rw [Call.perform_andFinally]
  generalize "evidence-capacity-" ++ s.draw = id at name gone ⊢
  have small_ : EvidenceQueue.insertedCount s.backlog.store ((first :: rest).map (·.key)).eraseDups ≤ (first :: rest).length := by
    rw [BacklogAdmission.insertedCount_eq _ (EvidenceQueue.nodup_eraseDups _)]
    refine (List.length_filter_le _ _).trans ?_
    exact ((EvidenceQueue.nodup_eraseDups _).subperm fun key member => List.mem_eraseDups.mp member).length_le.trans (List.length_map _).le
  have live : (granted (s.backlog.purge s.clock) ⟨id, first.key.provider, (first :: rest).length, s.clock + ttl, some first.leaseId⟩).live
      reservation id s.clock = some ⟨id, first.key.provider, (first :: rest).length, s.clock + ttl, some first.leaseId⟩ := by
    exact BacklogAdmission.live_iff.mpr ⟨granted_get? gone, owner.symm, lt_add_of_pos_right _ above⟩
  have enqueued : ∃ after, enqueueReserved (granted (s.backlog.purge s.clock) ⟨id, first.key.provider, (first :: rest).length, s.clock + ttl,
      some first.leaseId⟩) (.fin s.clock) reservation ((first :: rest).map (·.key)) ⟨some first.sourceKey, some first.reservoirId, some first.leaseId⟩ =
      (.ok (EvidenceQueue.insertedCount s.backlog.store ((first :: rest).map (·.key)).eraseDups), after) ∧
      after.store = insertTasks s.backlog.store ((first :: rest).map (·.key)).eraseDups ∧
      after.reservations.delete (fun r => r.reservationId = id) = (s.backlog.purge s.clock).reservations := by
    unfold enqueueReserved
    rw [if_neg keyed, name]
    dsimp only
    rw [owner, if_neg owned, complete, reading]
    dsimp only
    rw [live]
    dsimp only
    rw [if_neg (by simp), show (granted (s.backlog.purge s.clock) ⟨id, first.key.provider, (first :: rest).length, s.clock + ttl,
      some first.leaseId⟩).store = s.backlog.store from rfl, if_neg (not_lt.mpr small_)]
    exact ⟨_, rfl, rfl, release_left gone _⟩
  obtain ⟨after, enqueued, tasks, left⟩ := enqueued
  have bound := @bind_granted _ ⟨id, first.key.provider, (first :: rest).length, s.clock + ttl, none⟩ _ gone _ name lease
  have body : Call.perform (do
      onBacklog fun _ s => bindLease s reservation first.leaseId
      let inserted ← onBacklog fun clock s => enqueueReserved s clock reservation ((first :: rest).map (·.key))
        ⟨some first.sourceKey, some first.reservoirId, some first.leaseId⟩
      deleteStaged (first :: rest)
      return inserted)
      { s with backlog := granted (s.backlog.purge s.clock) ⟨id, first.key.provider, (first :: rest).length, s.clock + ttl, none⟩ } =
      (.ok (EvidenceQueue.insertedCount s.backlog.store ((first :: rest).map (·.key)).eraseDups),
        { s with backlog := after, staged := s.staged.delete ((first :: rest).contains ·.need) }) := by
    unfold onBacklog
    rw [Call.perform_bind, Call.perform_atomic]
    dsimp only
    rw [bound]
    dsimp only
    rw [Call.perform_bind, Call.perform_atomic]
    dsimp only
    rw [enqueued]
    dsimp only
    rw [deleteStaged, if_neg (List.cons_ne_nil _ _), Call.perform_bind, Call.perform_atomic]
    rfl
  have released : release after (some reservation) = (.ok (), { after with reservations := after.reservations.delete (·.reservationId = id) }) := by
    unfold release
    rw [Option.bind_some, name]
  rw [body]
  unfold onBacklog
  rw [Call.perform_atomic]
  dsimp only
  rw [released]
  exact ⟨_, _, rfl, ⟨rfl, rfl, tasks, left, rfl⟩⟩

/-- What a turn of the loop over groups does: it raises nothing, touches no other lane, and takes
    the first need of a lane with room. -/
structure Turn (r : EvidenceRouter) (group : List EvidenceNeed) (s s' : Routes) : Prop where
  clock : s'.clock = s.clock
  fresh : Fresh s'
  others : ∀ need, need ∉ group → s'.staged.get? need = s.staged.get? need
  gone : ∀ need, s.staged.get? need = none → s'.staged.get? need = none
  lanes : ∀ lane, (∀ need ∈ group, need.key.provider ≠ lane) → occupied s' lane = occupied s lane
  takes : ∀ first, group.head? = some first → occupied s first.key.provider < r.backlogCapacities first.key.provider →
    s'.staged.get? first = none

theorem occupied_congr {s' : Routes} {lane : String} (clock : s'.clock = s.clock)
    (tasks : s'.backlog.durable lane = s.backlog.durable lane) (reservations : s'.backlog.reservations = (s.backlog.purge s.clock).reservations) :
    occupied s' lane = occupied s lane := by
  have reserved : s'.backlog.reserved lane s'.clock = s.backlog.reserved lane s.clock := by
    rw [clock, ← reserved_purged s.backlog]
    unfold Backlog.reserved
    rw [reservations]
  rw [occupied, occupied, tasks, reserved]

theorem fresh_purged (fresh : Fresh s) {s' : Routes} (draw : s'.draw = s.draw)
    (reservations : s'.backlog.reservations = (s.backlog.purge s.clock).reservations) : Fresh s' := by
  unfold Fresh at fresh ⊢
  rw [draw, reservations, Backlog.purge, Table.get?_delete, fresh]
  rfl

theorem selectWithin_eq (available required : Nat) (needs : List EvidenceNeed) :
    EvidenceRouter.selectWithin available required needs = needs.take (available - required) := by
  induction needs generalizing required with
  | nil => simp [EvidenceRouter.selectWithin]
  | cons need rest ih =>
    rw [EvidenceRouter.selectWithin, reservationAmount]
    by_cases full : available < required + 1
    · rw [if_pos full, Nat.sub_eq_zero_of_le (by omega), List.take_zero]
    · rw [if_neg full, ih, show available - required = (available - (required + 1)) + 1 by omega, List.take_succ_cons]

theorem occupied_purge (s : Routes) (lane : String) : occupied { s with backlog := s.backlog.purge s.clock } lane = occupied s lane :=
  occupied_congr rfl rfl rfl

theorem turn_purge (fresh : Fresh s) (full : ∀ first, group.head? = some first → r.backlogCapacities first.key.provider ≤ occupied s first.key.provider) :
    Turn r group s { s with backlog := s.backlog.purge s.clock } where
  clock := rfl
  fresh := fresh_purged fresh rfl rfl
  others _ _ := rfl
  gone _ none_ := none_
  lanes lane _ := occupied_purge s lane
  takes first head room := absurd (full first head) (not_le.mpr room)

theorem turn_enqueued (fresh : Fresh s) {s' : Routes} {first : EvidenceNeed} {rest : List EvidenceNeed}
    (same : ∀ need ∈ first :: rest, need.group = first.group) {n : Nat} (enqueued : Enqueued (first :: rest.take n) s s') :
    Turn r (first :: rest) s s' where
  clock := enqueued.clock
  fresh := fresh_purged fresh enqueued.draw enqueued.reservations
  others need outside := by
    have outside' : need ∉ first :: rest.take n := fun member =>
      outside (List.cons_subset_cons first (List.take_subset n rest) member)
    rw [enqueued.staged, deleted_get?, if_neg outside']
  gone need none_ := by
    rw [enqueued.staged, deleted_get?, none_, ite_self]
  lanes lane others := by
    refine occupied_congr enqueued.clock ?_ enqueued.reservations
    have owned : ∀ key ∈ ((first :: rest.take n).map (·.key)).eraseDups, key.provider = first.key.provider := by
      intro key member
      obtain ⟨need, inside, rfl⟩ := List.mem_map.mp (List.mem_eraseDups.mp member)
      exact congrArg Prod.fst (same need (List.cons_subset_cons first (List.take_subset n rest) inside))
    unfold Backlog.durable
    rw [enqueued.tasks, BacklogAdmission.durable_insert _ owned, if_neg (others first List.mem_cons_self), Nat.add_zero]
  takes need head _ := by
    cases head
    rw [enqueued.staged, deleted_get?, if_pos List.mem_cons_self]

theorem Turn.purged {s' : Routes} (turn : Turn r group { s with backlog := s.backlog.purge s.clock } s') : Turn r group s s' where
  clock := turn.clock
  fresh := turn.fresh
  others := turn.others
  gone := turn.gone
  lanes lane others := (turn.lanes lane others).trans (occupied_purge s lane)
  takes first head room := turn.takes first head (by rw [occupied_purge]; exact room)

theorem flushGroup_turn (fresh : Fresh s) (same : ∀ first, group.head? = some first → ∀ need ∈ group, need.group = first.group)
    (small : group.length < 2 ^ 63) (lasts : positive ttlSeconds = some ttl) :
    ∃ n s', (r.flushGroup ttlSeconds group).perform s = (.ok n, s') ∧ Turn r group s s' := by
  have still (closed : ∀ first, group.head? = some first → r.backlogCapacities first.key.provider = 0) : Turn r group s s :=
    ⟨rfl, fresh, fun _ _ => rfl, fun _ none_ => none_, fun _ _ => rfl, fun first head room => by rw [closed first head] at room; omega⟩
  unfold EvidenceRouter.flushGroup
  cases group with
  | nil => exact ⟨0, s, rfl, still nofun⟩
  | cons first rest =>
    dsimp only
    by_cases closed : r.backlogCapacities first.key.provider = 0
    · rw [if_pos closed]
      exact ⟨0, s, rfl, still fun need head => by cases head; exact closed⟩
    rw [if_neg closed]
    unfold onBacklog
    rw [Call.perform_bind, Call.perform_atomic]
    dsimp only
    rw [available_room (named_ne (key_named first.key))]
    dsimp only
    by_cases full : r.backlogCapacities first.key.provider - occupied s first.key.provider = 0
    · rw [if_pos full]
      exact ⟨0, _, rfl, turn_purge fresh fun need head => by cases head; omega⟩
    obtain ⟨room, isRoom⟩ := Nat.exists_eq_succ_of_ne_zero full
    have chosen : EvidenceRouter.selectWithin (r.backlogCapacities first.key.provider - occupied s first.key.provider) 0 (first :: rest) =
        first :: rest.take room := by
      rw [selectWithin_eq, isRoom]
      rfl
    rw [if_neg full, chosen, if_neg (List.cons_ne_nil _ _)]
    have shorter : (rest.take room).length ≤ rest.length := List.length_take_le' _ _
    have shortest : (rest.take room).length ≤ room := List.length_take_le _ _
    have purged : Fresh { s with backlog := s.backlog.purge s.clock } := fresh_purged fresh rfl rfl
    have before := occupied_purge s first.key.provider
    have members : ∀ need ∈ first :: rest, need.group = first.group := same first rfl
    obtain ⟨n, s', done, enqueued⟩ := group_enqueued (r := r) purged
      (fun need member => members need (List.cons_subset_cons first (List.take_subset room rest) member))
      (by rw [List.length_cons] at small ⊢; omega) (by rw [before, List.length_cons]; omega) lasts
    exact ⟨n, s', done, Turn.purged (turn_enqueued purged members enqueued)⟩

/-- What the loop over groups does. -/
structure Pass (r : EvidenceRouter) (groups : List (List EvidenceNeed)) (s s' : Routes) : Prop where
  gone : ∀ need, s.staged.get? need = none → s'.staged.get? need = none
  others : ∀ need, (∀ group ∈ groups, need ∉ group) → s'.staged.get? need = s.staged.get? need
  takes : ∀ lane, occupied s lane < r.backlogCapacities lane → (∃ group ∈ groups, ∃ need ∈ group, need.key.provider = lane) →
    ∃ group ∈ groups, ∃ need ∈ group, need.key.provider = lane ∧ s'.staged.get? need = none

theorem flushGroups_pass (fresh : Fresh s) {groups : List (List EvidenceNeed)}
    (same : ∀ group ∈ groups, ∀ first, group.head? = some first → ∀ need ∈ group, need.group = first.group)
    (small : ∀ group ∈ groups, group.length < 2 ^ 63) (lasts : positive ttlSeconds = some ttl) :
    ∃ n s', (r.flushGroups ttlSeconds groups).perform s = (.ok n, s') ∧ Pass r groups s s' := by
  induction groups generalizing s with
  | nil => exact ⟨0, s, rfl, fun _ none_ => none_, fun _ _ => rfl, fun lane _ ⟨group, member, _⟩ => absurd member List.not_mem_nil⟩
  | cons group rest ih =>
    obtain ⟨same, sameRest⟩ := List.forall_mem_cons.mp same
    obtain ⟨small, smallRest⟩ := List.forall_mem_cons.mp small
    obtain ⟨n, s₁, first, turn⟩ := flushGroup_turn (r := r) fresh same small lasts
    obtain ⟨m, s₂, later, pass⟩ := ih turn.fresh sameRest smallRest
    refine ⟨n + m, s₂, ?_, fun need none_ => pass.gone need (turn.gone need none_), fun need outside => ?_, fun lane room inside => ?_⟩
    · rw [EvidenceRouter.flushGroups, Call.perform_bind_ok first, Call.perform_bind_ok later]
      rfl
    · obtain ⟨here, others⟩ := List.forall_mem_cons.mp outside
      exact (pass.others need others).trans (turn.others need here)
    · by_cases mine : ∃ need ∈ group, need.key.provider = lane
      · obtain ⟨need, member, provider⟩ := mine
        obtain ⟨head, isHead⟩ : ∃ head, group.head? = some head := by
          cases group with
          | nil => cases member
          | cons head tail => exact ⟨head, rfl⟩
        have owner : head.key.provider = lane := (congrArg Prod.fst (same head isHead need member)).symm.trans provider
        refine ⟨group, List.mem_cons_self, head, List.mem_of_head? isHead, owner, pass.gone head (turn.takes head isHead ?_)⟩
        rw [owner]
        exact room
      · have away : ∀ need ∈ group, need.key.provider ≠ lane := fun need member provider => mine ⟨need, member, provider⟩
        obtain ⟨other, member, need, inside, provider⟩ := inside
        have there : other ∈ rest := (List.mem_cons.mp member).resolve_left (by rintro rfl; exact away need inside provider)
        obtain ⟨found, isFound, rest_⟩ := pass.takes lane (by rw [turn.lanes lane away]; exact room) ⟨other, there, need, inside, provider⟩
        exact ⟨found, List.mem_cons_of_mem _ isFound, rest_⟩

end

/-! ## The promotion -/

section
variable {scan : EvidenceNeed → Nat} {s : Routes} {r : EvidenceRouter} {lane : String} {ttlSeconds : PyFloat} {ttl : ℚ}

def inLane (lane : String) (row : StagedRow) : Bool := row.need.key.provider = lane

/-- The staged needs that `flush_pending` reads. -/
def selected (scan : EvidenceNeed → Nat) (s : Routes) (maxNeeds : Nat) : List EvidenceNeed :=
  (oldestFirst (EvidenceRouter.pendingOrder scan) s.staged.rows maxNeeds).map (·.need)

theorem selected_staged {maxNeeds : Nat} {need : EvidenceNeed} (member : need ∈ selected scan s maxNeeds) : Staged s need := by
  obtain ⟨row, chosen, rfl⟩ := List.mem_map.mp member
  have stored := (List.perm_insertionSort _ s.staged.rows).subset (List.mem_of_mem_take chosen)
  rw [Staged, Table.get?_mem stored]
  rfl

theorem selected_lane {maxNeeds : Nat} (waits : ∃ row ∈ s.staged.rows, row.need.key.provider = lane) :
    (∃ need ∈ selected scan s maxNeeds, need.key.provider = lane) ↔
      s.staged.rows.countP (ahead (EvidenceRouter.pendingOrder scan) (inLane lane) s.staged.rows) < maxNeeds := by
  rw [← selected_iff (by simpa [inLane] using waits) fun a _ b _ other here same => ?_]
  · simp [selected, inLane]
  · have provider : a.need.key.provider = b.need.key.provider := congrArg (fun p => (ofLex (ofLex p).2).1) same
    simp only [inLane, decide_eq_false_iff_not, decide_eq_true_eq] at other here
    exact other (provider.trans here)

theorem grouped_same (needs : List EvidenceNeed) : ∀ group ∈ grouped (·.group) needs, ∀ first, group.head? = some first →
    ∀ need ∈ group, need.group = first.group := by
  intro group member first head need inside
  obtain ⟨name, -, rfl⟩ := List.mem_map.mp member
  have each {need : EvidenceNeed} (inside : need ∈ needs.filter (·.group = name)) : need.group = name := by
    simpa using (List.mem_filter.mp inside).2
  rw [each inside, each (List.mem_of_head? head)]

theorem mem_grouped {α : Type} [DecidableEq α] (name : EvidenceNeed → α) {needs : List EvidenceNeed} {need : EvidenceNeed}
    (member : need ∈ needs) : ∃ group ∈ grouped name needs, need ∈ group := by
  refine ⟨needs.filter (name · = name need), List.mem_map.mpr ⟨name need, ?_, rfl⟩, List.mem_filter.mpr ⟨member, by simp⟩⟩
  exact List.mem_eraseDups.mpr (List.mem_map_of_mem member)

/-- `flush_pending` with a limit that SQLite takes. -/
theorem flushPending_pass (scan : EvidenceNeed → Nat) (fresh : Fresh s) (lasts : positive ttlSeconds = some ttl) {maxNeeds : Int}
    (some_ : 1 ≤ maxNeeds) (small : maxNeeds < 2 ^ 63) :
    ∃ s', ((r.flushPending scan ttlSeconds maxNeeds).perform s).2 = s' ∧ Pass r (grouped (·.group) (selected scan s maxNeeds.toNat)) s s' := by
  have few : (selected scan s maxNeeds.toNat).length < 2 ^ 63 := by
    have taken : (selected scan s maxNeeds.toNat).length ≤ maxNeeds.toNat := by
      rw [selected, List.length_map]
      exact List.length_take_le _ _
    omega
  obtain ⟨n, s', done, pass⟩ := flushGroups_pass (r := r) fresh (grouped_same (selected scan s maxNeeds.toNat)) (fun group member => by
    obtain ⟨name, -, rfl⟩ := List.mem_map.mp member
    exact (List.length_filter_le _ _).trans_lt few) lasts
  refine ⟨s', ?_, pass⟩
  unfold EvidenceRouter.flushPending
  rw [lasts]
  dsimp only
  rw [if_neg (not_lt.mpr some_), Call.perform_bind, Call.perform_atomic]
  dsimp only
  have read : ((s.staged.rows.insertionSort fun a b => EvidenceRouter.pendingOrder scan a ≤ EvidenceRouter.pendingOrder scan b).take
      maxNeeds.toNat).map (·.need) = selected scan s maxNeeds.toNat := rfl
  rw [read, done]

end

/-! ## A lane that is hidden -/

def registration : EvidenceNeed :=
  ⟨⟨"a.example", 1996, 2001, "rdap", "rdap-registration-v1", by decide +kernel⟩, "source", "reservoir", "lease", firstNeed.named⟩

def capture : EvidenceNeed := ⟨⟨"b.example", 1997, 1997, "wayback", "cdx-v1", by decide +kernel⟩, "source", "reservoir", "lease", firstNeed.named⟩

/-- An older need of a lane without a capacity waits beside one of a lane with room. -/
def hidden : Routes where
  clock := 1 + 1
  draw := "0"
  backlog := ⟨⟨.empty, .empty, .empty, false, .empty, .fin 300⟩, .empty, .empty⟩
  staged := (Table.empty.insert ⟨registration, 0⟩).insert ⟨capture, 1⟩

def archiveOnly : EvidenceRouter where
  backlogCapacities provider := if provider = "wayback" then 10 else 0
  genericArchiveProvider := "wayback"
  named := archive.named

end Creeper.SpilloverLanes
