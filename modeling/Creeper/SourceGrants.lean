import Creeper.WorkLeases
import Creeper.SpilloverLanes

/-!
# Granting a lease to the producer

`GlobalScheduler.rank` and `SourceProducer._grant_fresh_lease`: candidates are ranked, sorted
into foreground and background and into unseen and seen sources, and tried in that order
against the backlog admission and the reservoirs.
-/

namespace Creeper.SourceGrants
open Creeper.Tables Creeper.PyNumbers Creeper.EvidenceTasks Creeper.BacklogAdmission
open Creeper.FabricModels (PyError blank)
open Creeper.WorkLeases (LeaseBounds LeaseFields WorkLease grantFreshLease recoverExpiredLeases)

/-! ## Ranking -/

structure ResourceCost where
  generalNetwork : ℚ≥0
  evidenceNetwork : ℚ≥0
  cpu : ℚ≥0
  ssd : ℚ≥0

/-- The lease of a candidate, as far as it is read. -/
structure LeaseTemplate where
  cursorStart : Option String
  maxRecords : Int
  maxRequests : Int
  maxBytes : Int
  maxSeconds : ℚ≥0
  resourceClass : String

/-- A `LeaseCandidate`; of its reservoir only the evidence mode is read. -/
structure LeaseCandidate where
  reservoirId : String
  expectedNovelEed : ℚ≥0
  costs : ResourceCost
  reservoir : Option String
  lease : Option LeaseTemplate
  evidenceMode : String
  evidenceProvider : String
  expectedEvidenceTasks : Nat
  reservationEvidenceTasks : Option Nat
  sourceKey : Option String
  productionValueScore : Option ℚ≥0
  named : blank evidenceProvider = false

/-- `_is_direct`. -/
def LeaseCandidate.isDirect (c : LeaseCandidate) : Bool := c.reservoir.getD c.evidenceMode = "direct_year"

/-- `normalized`, for what `capacities.get(name, 1.0)` gives. -/
def ResourceCost.normalized (costs : ResourceCost) (capacities : String → PyFloat) : Except PyError ℚ :=
  let share (name : String) (value : ℚ≥0) : Except PyError ℚ :=
    match positive (capacities name) with
    | none => .error (.valueError "resource capacities must be finite positive numbers")
    | some capacity => .ok (value / capacity)
  do
    let generalNetwork ← share "general_network" costs.generalNetwork
    let evidenceNetwork ← share "evidence_network" costs.evidenceNetwork
    let cpu ← share "cpu" costs.cpu
    let ssd ← share "ssd" costs.ssd
    .ok (max (max generalNetwork evidenceNetwork) (max cpu ssd))

def score (capacities : String → PyFloat) (c : LeaseCandidate) : Except PyError ℚ :=
  match c.productionValueScore with
  | some value => .ok value
  | none => (({ c.costs with evidenceNetwork := if c.isDirect then 0 else c.costs.evidenceNetwork } : ResourceCost).normalized
      capacities).map fun denominator => c.expectedNovelEed / (if denominator = 0 then 1 else denominator)

def scored (capacities : String → PyFloat) : List LeaseCandidate → Except PyError (List (ℚ × LeaseCandidate))
  | [] => .ok []
  | c :: rest => do
    let value ← score capacities c
    let more ← scored capacities rest
    .ok ((value, c) :: more)

/-- The key of `sorted`. -/
def rankKey (pair : ℚ × LeaseCandidate) : ℚᵒᵈ ×ₗ String := toLex (OrderDual.toDual pair.1, pair.2.reservoirId)

def rank (capacities : String → PyFloat) (candidates : List LeaseCandidate) : Except PyError (List LeaseCandidate) :=
  (scored capacities candidates).map fun pairs => (pairs.insertionSort fun a b => rankKey a ≤ rankKey b).map (·.2)

/-! ## Granting -/

structure Control where
  backlog : Backlog
  leases : WorkLeases.Store

/-- What the trial of one candidate reads from the clock and draws. -/
structure Trial where
  reserveClock : PyFloat
  grantClock : PyFloat
  reservationDraw : String
  leaseDraw : String

/-- A `SourceProducer`, as far as it is read; `sourceRunCount` is none without a registry. -/
structure Producer where
  owner : String
  capacities : String → PyFloat
  backlogCapacities : String → Int
  reservationGraceSeconds : ℚ≥0
  sourceRunCount : Option (String → Nat)

variable (p : Producer)

def LeaseCandidate.background (c : LeaseCandidate) : Bool := c.lease.any (·.resourceClass = "background-bulk")

def Producer.unseen (c : LeaseCandidate) : Bool := p.sourceRunCount.any fun count => c.sourceKey.any fun key => count key = 0

def Producer.fair (group : List LeaseCandidate) : List LeaseCandidate := group.filter p.unseen ++ group.filter (!p.unseen ·)

def Producer.ordered (ranked : List LeaseCandidate) : List LeaseCandidate :=
  p.fair (ranked.filter (!·.background)) ++ p.fair (ranked.filter (·.background))

def Producer.ownershipTtl (template : LeaseTemplate) : ℚ :=
  template.maxSeconds + max (max 60 (min 300 template.maxSeconds)) p.reservationGraceSeconds

def LeaseCandidate.amount (c : LeaseCandidate) : Nat := c.reservationEvidenceTasks.getD c.expectedEvidenceTasks

abbrev Answer (α : Type) := Except PyError α × Control

/-- The reservation of a candidate; none passes it over. -/
def reserve (s : Control) (c : LeaseCandidate) (direct : Bool) (template : LeaseTemplate) (t : Trial) :
    Answer (Option (Option CapacityReservation)) :=
  if direct then (.ok (some none), s)
  else if p.backlogCapacities c.evidenceProvider ≤ 0 then (.ok none, s)
  else
    let reserved := tryReserve s.backlog t.reserveClock c.evidenceProvider c.amount (p.backlogCapacities c.evidenceProvider)
      (p.ownershipTtl template) t.reservationDraw
    (reserved.1.map fun reservation => reservation.map some, { s with backlog := reserved.2 })

def LeaseCandidate.bounds (c : LeaseCandidate) (direct : Bool) (template : LeaseTemplate) : LeaseBounds where
  maxRecords := template.maxRecords
  maxRequests := template.maxRequests
  maxBytes := template.maxBytes
  maxSeconds := .fin template.maxSeconds
  resourceClass := template.resourceClass
  expectedEvidenceTasks := if direct then 0 else c.expectedEvidenceTasks
  expectedNovelEed := .fin c.expectedNovelEed

/-- The lease of a candidate, after its reservation; none passes it over. -/
def grantReserved (s : Control) (c : LeaseCandidate) (direct : Bool) (template : LeaseTemplate)
    (reservation : Option CapacityReservation) (t : Trial) : Answer (Option (WorkLease × Option CapacityReservation)) :=
  match grantFreshLease s.leases t.leaseDraw c.reservoirId p.owner (c.bounds direct template) t.grantClock
      (some (p.ownershipTtl template)) template.cursorStart with
  | (.error err, leases) => (.error err, ⟨(release s.backlog reservation).2, leases⟩)
  | (.ok none, leases) => (.ok none, ⟨(release s.backlog reservation).2, leases⟩)
  | (.ok (some lease), leases) =>
    match reservation with
    | none => (.ok (some (lease, none)), ⟨s.backlog, leases⟩)
    | some held =>
      match bindLease s.backlog held lease.leaseId with
      | (.error err, backlog) => (.error err, ⟨(release backlog reservation).2, leases⟩)
      | (.ok _, backlog) => (.ok (some (lease, reservation)), ⟨backlog, leases⟩)

def tryCandidate (s : Control) (c : LeaseCandidate) (t : Trial) : Answer (Option (WorkLease × Option CapacityReservation)) :=
  match c.lease, c.reservoir with
  | none, _ => (.error (.valueError "source candidate requires a lease template"), s)
  | _, none => (.error (.valueError "source candidate requires a reservoir"), s)
  | some template, some mode =>
    match reserve p s c (mode = "direct_year") template t with
    | (.error err, s) => (.error err, s)
    | (.ok none, s) => (.ok none, s)
    | (.ok (some reservation), s) => grantReserved p s c (mode = "direct_year") template reservation t

abbrev Granted := LeaseCandidate × WorkLease × Option CapacityReservation

/-- The loop of `_grant_fresh_lease`. -/
def tryAll (s : Control) (trials : Nat → Trial) : Nat → List LeaseCandidate → Answer (Option Granted)
  | _, [] => (.ok none, s)
  | n, c :: rest =>
    match tryCandidate p s c (trials n) with
    | (.error err, s) => (.error err, s)
    | (.ok none, s) => tryAll s trials (n + 1) rest
    | (.ok (some (lease, reservation)), s) => (.ok (some (c, lease, reservation)), s)

/-- `_grant_fresh_lease`. -/
def grantFresh (s : Control) (clock : PyFloat) (trials : Nat → Trial) (candidates : List LeaseCandidate) : Answer (Option Granted) :=
  match recoverExpiredLeases s.leases clock none with
  | (.error err, leases) => (.error err, { s with leases })
  | (.ok _, leases) =>
    match rank p.capacities candidates with
    | .error err => (.error err, { s with leases })
    | .ok ranked => tryAll p { s with leases } trials 0 (p.ordered ranked)

/-! ## The order of the trials -/

def Outranks (capacities : String → PyFloat) (x c : LeaseCandidate) : Prop :=
  ∃ v w, score capacities x = .ok v ∧ score capacities c = .ok w ∧ (w < v ∨ v = w ∧ x.reservoirId < c.reservoirId)

/-- A candidate comes before another: foreground first, then sources that were never run, then by rank. -/
def Producer.Ahead (x c : LeaseCandidate) : Prop :=
  (x.background = false ∧ c.background = true) ∨ x.background = c.background ∧
    ((p.unseen x = true ∧ p.unseen c = false) ∨ p.unseen x = p.unseen c ∧ Outranks p.capacities x c)

theorem scored_spec {capacities : String → PyFloat} {candidates : List LeaseCandidate} {pairs : List (ℚ × LeaseCandidate)}
    (made : scored capacities candidates = .ok pairs) :
    pairs.map (·.2) = candidates ∧ ∀ pair ∈ pairs, score capacities pair.2 = .ok pair.1 := by
  induction candidates generalizing pairs with
  | nil =>
    cases made
    simp
  | cons c rest ih =>
    cases value : score capacities c with
    | error err => simp [scored, value, bind, Except.bind] at made
    | ok v =>
      cases more : scored capacities rest with
      | error err => simp [scored, value, more, bind, Except.bind] at made
      | ok others =>
        simp only [scored, value, more, bind, Except.bind, Except.ok.injEq] at made
        subst made
        obtain ⟨names, scores⟩ := ih more
        refine ⟨by simp [names], fun pair member => ?_⟩
        rcases List.mem_cons.mp member with rfl | later
        · exact value
        · exact scores pair later

theorem rank_spec {capacities : String → PyFloat} {candidates ranked : List LeaseCandidate}
    (made : rank capacities candidates = .ok ranked) :
    ranked.Perm candidates ∧ ranked.Pairwise fun x y => ¬Outranks capacities y x := by
  cases all : scored capacities candidates with
  | error err => simp [rank, all, Except.map] at made
  | ok pairs =>
    simp only [rank, all, Except.map, Except.ok.injEq] at made
    subst made
    obtain ⟨names, scores⟩ := scored_spec all
    have sorted := List.pairwise_insertionSort (fun a b => rankKey a ≤ rankKey b) pairs
    refine ⟨by simpa [names] using (List.perm_insertionSort (fun a b => rankKey a ≤ rankKey b) pairs).map (·.2), ?_⟩
    rw [List.pairwise_map]
    refine sorted.imp_of_mem fun {a b} isA isB le ⟨v, w, above, below, before⟩ => ?_
    rw [scores b ((List.mem_insertionSort _).mp isB)] at above
    rw [scores a ((List.mem_insertionSort _).mp isA)] at below
    cases above
    cases below
    have key := Prod.Lex.toLex_le_toLex.mp le
    simp only [OrderDual.toDual_lt_toDual, OrderDual.toDual_inj] at key
    rcases key with less | ⟨same, id⟩ <;> rcases before with more | ⟨equal, less'⟩
    · exact lt_asymm less more
    · exact less.ne' equal.symm
    · exact more.ne same
    · exact not_le.mpr less' id

theorem ordered_spec {ranked : List LeaseCandidate} (sorted : ranked.Pairwise fun x y => ¬Outranks p.capacities y x) :
    (∀ x, x ∈ p.ordered ranked ↔ x ∈ ranked) ∧ (p.ordered ranked).Pairwise fun x y => ¬p.Ahead y x := by
  have fair (group : List LeaseCandidate) (bulk : Bool) (one : ∀ x ∈ group, x.background = bulk)
      (sorted : group.Pairwise fun x y => ¬Outranks p.capacities y x) : (p.fair group).Pairwise fun x y => ¬p.Ahead y x := by
    refine List.pairwise_append.mpr ⟨?_, ?_, fun x isX y isY => ?_⟩
    · refine (sorted.filter _).imp_of_mem fun {x y} isX isY not => ?_
      simp only [List.mem_filter] at isX isY
      simp [Producer.Ahead, one x isX.1, one y isY.1, isX.2, isY.2, not]
    · refine (sorted.filter _).imp_of_mem fun {x y} isX isY not => ?_
      simp only [List.mem_filter, Bool.not_eq_true'] at isX isY
      simp [Producer.Ahead, one x isX.1, one y isY.1, isX.2, isY.2, not]
    · simp only [List.mem_filter, Bool.not_eq_true'] at isX isY
      simp [Producer.Ahead, one x isX.1, one y isY.1, isX.2, isY.2]
  have mem_fair (group : List LeaseCandidate) (x : LeaseCandidate) : x ∈ p.fair group ↔ x ∈ group := by
    cases seen : p.unseen x <;> simp [Producer.fair, seen]
  refine ⟨fun x => ?_, List.pairwise_append.mpr ⟨fair _ false (by simp) (sorted.filter _), fair _ true (by simp) (sorted.filter _), ?_⟩⟩
  · cases bulk : x.background <;> simp [Producer.ordered, mem_fair, bulk]
  · intro x isX y isY
    simp only [mem_fair, List.mem_filter, Bool.not_eq_true'] at isX isY
    simp [Producer.Ahead, isX.2, isY.2]

theorem not_ahead_self (c : LeaseCandidate) : ¬p.Ahead c c := by
  rintro (⟨front, back⟩ | ⟨-, ⟨first, second⟩ | ⟨-, v, w, above, below, less | ⟨-, less⟩⟩⟩)
  · simp [front] at back
  · simp [first] at second
  · rw [above] at below
    cases below
    exact lt_irrefl _ less
  · exact lt_irrefl _ less

/-! ## What one trial does -/

/-- The tasks are the same, and no more is reserved for any provider. -/
def NoMore (s b : Backlog) : Prop := b.store = s.store ∧ ∀ provider now, b.reserved provider now ≤ s.reserved provider now

/-- The reservation of a granted lease is stored under it. -/
def Bound (b : Backlog) (c : LeaseCandidate) (reservation : Option CapacityReservation) (leaseId : String) : Prop :=
  ∀ id, reservation.bind (·.reservationId) = some id → ∃ row, b.reservations.get? id = some row ∧
    row.provider = c.evidenceProvider ∧ row.amount = c.amount ∧ row.leaseId = some leaseId

/-- The tasks of a candidate do not fit when the clock is read for a trial. -/
def Producer.Full (trials : Nat → Trial) (s : Backlog) (c : LeaseCandidate) : Prop := c.reservoir ≠ some "direct_year" ∧
  (p.backlogCapacities c.evidenceProvider ≤ 0 ∨ ∃ n now, finiteReading (trials n).reserveClock = some now ∧
    p.backlogCapacities c.evidenceProvider <
      ((s.durable c.evidenceProvider + s.reserved c.evidenceProvider now + c.amount : Nat) : Int))

def Ready (leases : WorkLeases.Store) (c : LeaseCandidate) : Prop := ∃ row, leases.reservoirs.get? c.reservoirId = some row ∧ row.state = .ready

theorem NoMore.full {s b : Backlog} (noMore : NoMore s b) {trials : Nat → Trial} {c : LeaseCandidate} (full : p.Full trials b c) :
    p.Full trials s c := by
  refine full.imp_right fun full => full.imp_right fun ⟨n, now, reads, above⟩ => ⟨n, now, reads, above.trans_le ?_⟩
  have less := noMore.2 c.evidenceProvider now
  rw [show b.durable c.evidenceProvider = s.durable c.evidenceProvider by rw [Backlog.durable, noMore.1]; rfl]
  omega

theorem noMore_sublist {s b : Backlog} (same : b.store = s.store) (kept : b.reservations.rows.Sublist s.reservations.rows) : NoMore s b :=
  ⟨same, fun _ _ => ((kept.filter _).map _).sum_le_sum fun _ _ => Nat.zero_le _⟩

/-- What a reservation that is taken is good for: it can be bound, and its release leaves nothing behind. -/
structure Taken (s b : Backlog) (c : LeaseCandidate) (reservation : CapacityReservation) : Prop where
  released : NoMore s (release b (some reservation)).2
  bound : ∀ leaseId, leaseId ≠ "" → (bindLease b reservation leaseId).1 = .ok () ∧
    Bound (bindLease b reservation leaseId).2 c (some reservation) leaseId

inductive Reserved (s : Backlog) (clock : PyFloat) (c : LeaseCandidate) (capacity : Int) : Reply (Option CapacityReservation) → Prop
  | raised (err : PyError) : Reserved s clock c capacity (.error err, s)
  | full (now : ℚ) (reads : finiteReading clock = some now)
      (above : capacity < ((s.durable c.evidenceProvider + s.reserved c.evidenceProvider now + c.amount : Nat) : Int)) :
      Reserved s clock c capacity (.ok none, s.purge now)
  | taken (b : Backlog) (reservation : CapacityReservation) (holds : Taken s b c reservation) :
      Reserved s clock c capacity (.ok (some reservation), b)

theorem tryReserve_cases (s : Backlog) (c : LeaseCandidate) (capacity : Int) (clock ttlSeconds : PyFloat) (draw : String) :
    Reserved s clock c capacity (tryReserve s clock c.evidenceProvider c.amount capacity ttlSeconds draw) := by
  unfold tryReserve
  split
  · exact .raised _
  split
  · exact .raised _
  split
  · exact .raised _
  split
  · exact .raised _
  rename_i ttl isTtl
  split
  · exact .raised _
  rename_i now reads
  split
  · unfold CapacityReservation.make
    split
    · exact .raised _
    · exact .taken s _ ⟨⟨rfl, fun _ _ => le_rfl⟩, fun _ _ => ⟨rfl, by simp [Bound]⟩⟩
  split
  · rename_i above
    refine .full now reads (above.trans_le ?_)
    have less := (noMore_sublist (s := s) (b := s.purge now) rfl List.filter_sublist).2 c.evidenceProvider now
    rw [durable_purge]
    omega
  split
  · exact .raised _
  split
  · exact .raised _
  rename_i fresh
  have stated := SpilloverLanes.blank_drawn draw
  generalize "evidence-capacity-" ++ draw = id at fresh stated
  have later : ¬(now + ttl < 0) := not_lt.mpr (add_nonneg (finiteReading_nonneg reads).2 (positive_pos isTtl).le)
  have free := Option.not_isSome_iff_eq_none.mp fresh
  let row : ReservationRow := ⟨id, c.evidenceProvider, c.amount, now + ttl, none⟩
  have rows := Table.rows_insert (r := row) free
  have stored := (Table.get?_insert (r := row) free id).trans (if_pos rfl)
  unfold CapacityReservation.make
  split
  · rename_i err problem
    simp [reservationProblem, c.named, stated, later] at problem
  · refine .taken _ _ ⟨noMore_sublist rfl ?_, fun leaseId named => ?_⟩
    · have gone : [row].filter (fun r => !decide (r.reservationId = id)) = [] := by simp [row]
      simp only [release, Option.bind_some, Table.rows_delete, Int.toNat_natCast]
      rw [rows, List.filter_append, gone, List.append_nil]
      exact List.filter_sublist.trans List.filter_sublist
    · simp [bindLease, Bound, named, row, Table.get?_update, stored]

inductive Tried (trials : Nat → Trial) (s : Control) (c : LeaseCandidate) : Answer (Option (WorkLease × Option CapacityReservation)) → Prop
  | raised (err : PyError) (b : Backlog) (noMore : NoMore s.backlog b) : Tried trials s c (.error err, { s with backlog := b })
  | passed (b : Backlog) (noMore : NoMore s.backlog b) (why : ¬Ready s.leases c ∨ p.Full trials s.backlog c) :
      Tried trials s c (.ok none, { s with backlog := b })
  | granted (lease : WorkLease) (reservation : Option CapacityReservation) (after : Control) (ready : Ready s.leases c)
      (stored : after.leases.leases.get? lease.leaseId = some lease.toLeaseFields)
      (live : lease.state = .granted ∧ lease.reservoirId = c.reservoirId) (inv : WorkLeases.Inv s.leases → WorkLeases.Inv after.leases)
      (bound : Bound after.backlog c reservation lease.leaseId) : Tried trials s c (.ok (some (lease, reservation)), after)

/-- A reservoir that is READY is not passed over. -/
theorem grant_ready {leases : WorkLeases.Store} {c : LeaseCandidate} (ready : Ready leases c) (leaseId owner : String) (bounds : LeaseBounds)
    (now : PyFloat) (ttl : Option PyFloat) (cursor : Option String) :
    (grantFreshLease leases leaseId c.reservoirId owner bounds now ttl cursor).1 ≠ .ok none := by
  obtain ⟨row, found, isReady⟩ := ready
  unfold grantFreshLease
  simp only [found, Option.filter, isReady, decide_true, if_true]
  repeat' split
  all_goals simp

theorem grantReserved_cases (s : Control) (b : Backlog) (c : LeaseCandidate) (direct : Bool) (template : LeaseTemplate)
    (reservation : Option CapacityReservation) (trials : Nat → Trial) (t : Trial) (released : NoMore s.backlog (release b reservation).2)
    (bound : ∀ held, reservation = some held → Taken s.backlog b c held) :
    Tried p trials s c (grantReserved p { s with backlog := b } c direct template reservation t) := by
  have answers := WorkLeases.grant_cases s.leases t.leaseDraw c.reservoirId p.owner (c.bounds direct template) t.grantClock
    (some (p.ownershipTtl template)) template.cursorStart
  have serves := fun (ready : Ready s.leases c) => grant_ready ready t.leaseDraw p.owner (c.bounds direct template) t.grantClock
    (some (p.ownershipTtl template)) template.cursorStart
  unfold grantReserved
  dsimp only
  generalize grantFreshLease s.leases _ _ _ _ _ _ _ = answer at answers serves ⊢
  cases answers with
  | refused err => exact .raised err _ released
  | idle => exact .passed _ released (.inl fun ready => serves ready rfl)
  | granted row found ready lease fresh name live reservoir start =>
    have stated : lease.leaseId ≠ "" := by
      intro empty
      have valid := lease.valid
      simp [LeaseFields.postInit, empty, blank] at valid
    rw [← name] at fresh
    rw [← start]
    have inv := fun inv => WorkLeases.inv_granted inv found ready fresh live reservoir
    have stored := (Table.get?_insert fresh lease.leaseId).trans (if_pos rfl)
    cases reservation with
    | none => exact .granted lease none _ ⟨row, found, ready⟩ stored ⟨live, reservoir⟩ inv (by simp [Bound])
    | some held =>
      obtain ⟨works, holds⟩ := (bound held rfl).bound lease.leaseId stated
      dsimp only
      generalize bindLease b held lease.leaseId = reply at works holds ⊢
      obtain ⟨result, after⟩ := reply
      cases works
      exact .granted lease (some held) _ ⟨row, found, ready⟩ stored ⟨live, reservoir⟩ inv holds

theorem tryCandidate_cases (s : Control) (c : LeaseCandidate) (trials : Nat → Trial) (n : Nat) :
    Tried p trials s c (tryCandidate p s c (trials n)) := by
  have self : NoMore s.backlog s.backlog := ⟨rfl, fun _ _ => le_rfl⟩
  unfold tryCandidate
  split
  · exact .raised _ s.backlog self
  · exact .raised _ s.backlog self
  rename_i template mode _ isMode
  unfold reserve
  by_cases direct : mode = "direct_year"
  · simp only [direct, decide_true, if_true]
    exact grantReserved_cases p s s.backlog c true template none trials (trials n) self fun _ none_ => by cases none_
  have external : c.reservoir ≠ some "direct_year" := by simpa [isMode] using direct
  simp only [direct, decide_false, Bool.false_eq_true, if_false]
  by_cases closed : p.backlogCapacities c.evidenceProvider ≤ 0
  · simp only [closed, if_true]
    exact .passed s.backlog self (.inr ⟨external, .inl closed⟩)
  simp only [closed, if_false]
  have reserved := tryReserve_cases s.backlog c (p.backlogCapacities c.evidenceProvider) (trials n).reserveClock
    (p.ownershipTtl template) (trials n).reservationDraw
  generalize tryReserve s.backlog _ _ _ _ _ _ = reply at reserved ⊢
  cases reserved with
  | raised err => exact .raised err _ self
  | full now reads above => exact .passed _ (noMore_sublist rfl List.filter_sublist) (.inr ⟨external, .inr ⟨n, now, reads, above⟩⟩)
  | taken b held holds => exact grantReserved_cases p s b c false template (some held) trials (trials n) holds.released fun _ same => by cases same; exact holds

/-! ## Capacity -/

/-- The capacities of the backlogs; one that is not positive admits nothing. -/
def Producer.limits (provider : String) : Nat := (p.backlogCapacities provider).toNat

theorem bounded_call {capacity : String → Nat} {b : Backlog} (bounded : Bounded capacity b) (op : AdmissionOp) (clock : PyFloat) :
    Bounded capacity (step capacity b ⟨op, clock⟩).2 := bounded_step bounded (step_moves capacity b _)

theorem grantReserved_bounded {s : Control} (bounded : Bounded p.limits s.backlog) (c : LeaseCandidate) (direct : Bool)
    (template : LeaseTemplate) (reservation : Option CapacityReservation) (t : Trial) :
    Bounded p.limits (grantReserved p s c direct template reservation t).2.backlog := by
  have released {b : Backlog} (bounded : Bounded p.limits b) : Bounded p.limits (release b reservation).2 :=
    bounded_call bounded (.release reservation) t.grantClock
  unfold grantReserved
  split
  · exact released bounded
  · exact released bounded
  split
  · exact bounded
  · rename_i lease _ _ _ held
    have after := bounded_call bounded (.bindLease held lease.leaseId) t.grantClock
    simp only [step] at after
    split
    · rename_i same
      rw [same] at after
      exact released after
    · rename_i same
      rwa [same] at after

theorem tryCandidate_bounded {s : Control} (bounded : Bounded p.limits s.backlog) (c : LeaseCandidate) (t : Trial) :
    Bounded p.limits (tryCandidate p s c t).2.backlog := by
  unfold tryCandidate
  split
  · exact bounded
  · exact bounded
  rename_i template mode _ _
  have reserved : Bounded p.limits (reserve p s c (mode = "direct_year") template t).2.backlog := by
    unfold reserve
    split
    · exact bounded
    split
    · exact bounded
    · rename_i open_
      have after := bounded_call bounded (.tryReserve c.evidenceProvider c.amount (p.ownershipTtl template) t.reservationDraw) t.reserveClock
      simpa only [step, Producer.limits, Int.toNat_of_nonneg (not_le.mp open_).le] using after
  split
  · rename_i same
    rwa [same] at reserved
  · rename_i same
    rwa [same] at reserved
  · rename_i same
    rw [same] at reserved
    exact grantReserved_bounded p reserved c _ template _ t

/-! ## The whole call -/

/-- What a granted lease leaves: its reservoir was READY, the lease is stored, and so is its reservation under it. -/
structure Leased (s after : Control) (c : LeaseCandidate) (lease : WorkLease) (reservation : Option CapacityReservation) : Prop where
  ready : Ready s.leases c
  stored : after.leases.leases.get? lease.leaseId = some lease.toLeaseFields
  live : lease.state = .granted ∧ lease.reservoirId = c.reservoirId
  bound : Bound after.backlog c reservation lease.leaseId

def Producer.PassedOver (trials : Nat → Trial) (s : Control) (c : LeaseCandidate) : Prop := ¬Ready s.leases c ∨ p.Full trials s.backlog c

/-- What a call may leave behind, after the leases were recovered. -/
inductive Called (trials : Nat → Trial) (s : Control) (items : List LeaseCandidate) : Answer (Option Granted) → Prop
  | raised (err : PyError) (b : Backlog) (noMore : NoMore s.backlog b) : Called trials s items (.error err, { s with backlog := b })
  | idle (b : Backlog) (noMore : NoMore s.backlog b) (passed : ∀ x ∈ items, p.PassedOver trials s x) : Called trials s items (.ok none, { s with backlog := b })
  | granted (before later : List LeaseCandidate) (c : LeaseCandidate) (lease : WorkLease) (reservation : Option CapacityReservation)
      (after : Control) (split : items = before ++ c :: later) (passed : ∀ x ∈ before, p.PassedOver trials s x)
      (leased : Leased s after c lease reservation) (inv : WorkLeases.Inv s.leases → WorkLeases.Inv after.leases) :
      Called trials s items (.ok (some (c, lease, reservation)), after)

theorem tryAll_cases (s : Control) (trials : Nat → Trial) (n : Nat) (items : List LeaseCandidate) :
    Called p trials s items (tryAll p s trials n items) := by
  induction items generalizing s n with
  | nil => exact .idle s.backlog ⟨rfl, fun _ _ => le_rfl⟩ (by simp)
  | cons c items ih =>
    unfold tryAll
    have tried := tryCandidate_cases p s c trials n
    generalize tryCandidate p s c (trials n) = answer at tried ⊢
    cases tried with
    | raised err b noMore => exact .raised err b noMore
    | granted lease reservation after ready stored live inv bound =>
      exact .granted [] items c lease reservation after rfl (by simp) ⟨ready, stored, live, bound⟩ inv
    | passed b noMore why =>
      have back {x : LeaseCandidate} (passed : p.PassedOver trials { s with backlog := b } x) : p.PassedOver trials s x := passed.imp_right (noMore.full p)
      have rest := ih { s with backlog := b } (n + 1)
      dsimp only
      generalize tryAll p { s with backlog := b } trials (n + 1) items = answer at rest ⊢
      cases rest with
      | raised err b' more => exact .raised err b' ⟨more.1.trans noMore.1, fun provider now => (more.2 provider now).trans (noMore.2 provider now)⟩
      | idle b' more passed =>
        refine .idle b' ⟨more.1.trans noMore.1, fun provider now => (more.2 provider now).trans (noMore.2 provider now)⟩ fun x member => ?_
        rcases List.mem_cons.mp member with rfl | later
        · exact why
        · exact back (passed x later)
      | granted before later c' lease reservation after split passed leased inv =>
        refine .granted (c :: before) later c' lease reservation after (by simp [split]) (fun x member => ?_)
          ⟨leased.ready, leased.stored, leased.live, leased.bound⟩ inv
        rcases List.mem_cons.mp member with rfl | earlier
        · exact why
        · exact back (passed x earlier)

theorem tryAll_bounded {s : Control} (bounded : Bounded p.limits s.backlog) (trials : Nat → Trial) (n : Nat) (items : List LeaseCandidate) :
    Bounded p.limits (tryAll p s trials n items).2.backlog := by
  induction items generalizing s n with
  | nil => exact bounded
  | cons c items ih =>
    have tried := tryCandidate_bounded p bounded c (trials n)
    unfold tryAll
    split
    · rename_i same
      rwa [same] at tried
    · rename_i same
      rw [same] at tried
      exact ih tried (n + 1)
    · rename_i same
      rwa [same] at tried

/-- The control store after `recover_expired_leases`. -/
def recovered (s : Control) (clock : PyFloat) : Control := { s with leases := (recoverExpiredLeases s.leases clock none).2 }

theorem grantFresh_cases (s : Control) (clock : PyFloat) (trials : Nat → Trial) (candidates : List LeaseCandidate) :
    (∃ err, grantFresh p s clock trials candidates = (.error err, recovered s clock)) ∨
    ∃ ranked, rank p.capacities candidates = .ok ranked ∧
      grantFresh p s clock trials candidates = tryAll p (recovered s clock) trials 0 (p.ordered ranked) := by
  unfold grantFresh recovered
  cases recoverExpiredLeases s.leases clock none with
  | mk answer leases =>
    cases answer with
    | error err => exact .inl ⟨err, rfl⟩
    | ok n =>
      cases made : rank p.capacities candidates with
      | error err => exact .inl ⟨err, rfl⟩
      | ok ranked => exact .inr ⟨ranked, rfl, rfl⟩

structure GrantOrder (s : Control) (clock : PyFloat) (trials : Nat → Trial) (candidates : List LeaseCandidate) : Prop where
  /-- A candidate is granted only when every candidate ahead of it was passed over: its reservoir is not READY or its tasks do not fit. -/
  first : ∀ c lease reservation after, grantFresh p s clock trials candidates = (.ok (some (c, lease, reservation)), after) →
    c ∈ candidates ∧ Leased (recovered s clock) after c lease reservation ∧
      ∀ x ∈ candidates, p.Ahead x c → p.PassedOver trials (recovered s clock) x
  /-- Nothing is granted only when every candidate was passed over. -/
  idle : ∀ after, grantFresh p s clock trials candidates = (.ok none, after) → ∀ x ∈ candidates, p.PassedOver trials (recovered s clock) x
  /-- A call that grants nothing or raises leaves no reservation and no lease behind. -/
  clean : ∀ answer after, grantFresh p s clock trials candidates = (answer, after) → (∀ granted, answer ≠ .ok (some granted)) →
    NoMore s.backlog after.backlog ∧ after.leases = (recovered s clock).leases

theorem grant_order (s : Control) (clock : PyFloat) (trials : Nat → Trial) (candidates : List LeaseCandidate) :
    GrantOrder p s clock trials candidates := by
  rcases grantFresh_cases p s clock trials candidates with ⟨err, raised⟩ | ⟨ranked, made, called⟩
  · refine ⟨fun _ _ _ _ same => ?_, fun _ same => ?_, fun _ _ same _ => ?_⟩ <;> rw [raised] at same <;> cases same
    exact ⟨⟨rfl, fun _ _ => le_rfl⟩, rfl⟩
  obtain ⟨perm, sorted⟩ := rank_spec made
  obtain ⟨members, order⟩ := ordered_spec p sorted
  have listed (x : LeaseCandidate) : x ∈ p.ordered ranked ↔ x ∈ candidates := (members x).trans perm.mem_iff
  have answers := tryAll_cases p (recovered s clock) trials 0 (p.ordered ranked)
  rw [← called] at answers
  generalize isAnswer : grantFresh p s clock trials candidates = answer at answers
  cases answers with
  | raised err b noMore =>
    refine ⟨fun _ _ _ _ same => ?_, fun _ same => ?_, fun _ _ same _ => ?_⟩ <;> rw [isAnswer] at same <;> cases same
    exact ⟨noMore, rfl⟩
  | idle b noMore passed =>
    refine ⟨fun _ _ _ _ same => ?_, fun _ same x member => ?_, fun _ _ same _ => ?_⟩ <;> rw [isAnswer] at same <;> cases same
    · exact passed x ((listed x).mpr member)
    · exact ⟨noMore, rfl⟩
  | granted before later c lease reservation after split passed leased inv =>
    refine ⟨fun _ _ _ _ same => ?_, fun _ same => ?_, fun _ _ same other => ?_⟩ <;> rw [isAnswer] at same <;> cases same
    · refine ⟨(listed c).mp (by simp [split]), leased, fun x member ahead => ?_⟩
      rw [split] at order
      have isHere := (listed x).mpr member
      rw [split, List.mem_append, List.mem_cons] at isHere
      rcases isHere with earlier | rfl | behind
      · exact passed x earlier
      · exact absurd ahead (not_ahead_self p x)
      · exact absurd ahead (List.rel_of_pairwise_cons (List.pairwise_append.mp order).2.1 behind)
    · exact absurd rfl (other _)

/-- A call keeps the backlogs within their capacities, and no reservoir gets a second live lease. -/
theorem grant_keeps (s : Control) (clock : PyFloat) (trials : Nat → Trial) (candidates : List LeaseCandidate) :
    (Bounded p.limits s.backlog → Bounded p.limits (grantFresh p s clock trials candidates).2.backlog) ∧
    (WorkLeases.Inv s.leases → WorkLeases.Inv (grantFresh p s clock trials candidates).2.leases) := by
  have again (inv : WorkLeases.Inv s.leases) : WorkLeases.Inv (recovered s clock).leases := by
    rcases WorkLeases.recover_cases s.leases clock none with ⟨err, same⟩ | ⟨rows, distinct, live, same⟩
    · simpa only [recovered, same] using inv
    · simpa only [recovered, same] using (WorkLeases.inv_recover distinct inv live).1
  rcases grantFresh_cases p s clock trials candidates with ⟨err, raised⟩ | ⟨ranked, made, called⟩
  · rw [raised]
    exact ⟨id, again⟩
  · rw [called]
    refine ⟨fun bounded => tryAll_bounded p (s := recovered s clock) bounded trials 0 _, fun inv => ?_⟩
    have answers := tryAll_cases p (recovered s clock) trials 0 (p.ordered ranked)
    generalize tryAll p (recovered s clock) trials 0 (p.ordered ranked) = answer at answers
    cases answers with
    | raised | idle => exact again inv
    | granted _ _ _ _ _ _ _ _ _ keeps => exact keeps (again inv)

end Creeper.SourceGrants
