import Creeper.Runs
import Creeper.EvidenceTasks

/-!
# The evidence store

`EvidenceCapsule` and `storage/evidence_store.py`: capsules, the numbered projection of
their host-years, and the provenance of provider tasks, written by INSERT OR IGNORE in one
transaction. Readers page over the numbers while the store grows, and the canonical
capsules are streamed in batches.
-/

namespace Creeper.EvidenceStore
open Creeper.Runs Creeper.Tables Creeper.EvidenceTasks
open Creeper.FabricModels (PyError blank)

/-! ## The first of every run -/

section
variable {Item Key : Type*} [DecidableEq Key] (key : Item → Key)

/-- The items whose key is not the one before it. -/
def firstOfRuns : Option Key → List Item → List Item
  | _, [] => []
  | last, item :: rest =>
    if some (key item) = last then firstOfRuns last rest else item :: firstOfRuns (some (key item)) rest

/-- The key that some items leave behind. -/
def lastKey (last : Option Key) (items : List Item) : Option Key := items.foldl (fun _ item => some (key item)) last

/-- The same over batches of a size, each with the key that the one before it left. -/
def streamBatches (size : Nat) (last : Option Key) (items : List Item) : List Item :=
  if items = [] ∨ size = 0 then []
  else firstOfRuns key last (items.take size) ++
    streamBatches size (lastKey key last (items.take size)) (items.drop size)
termination_by items.length
decreasing_by
  rename_i more
  rw [not_or] at more
  have := List.length_pos_of_ne_nil more.1
  rw [List.length_drop]
  omega

theorem firstOfRuns_append (last : Option Key) (first second : List Item) :
    firstOfRuns key last (first ++ second) = firstOfRuns key last first ++ firstOfRuns key (lastKey key last first) second := by
  induction first generalizing last with
  | nil => rfl
  | cons item first ih =>
    by_cases repeated : some (key item) = last
    · subst repeated
      simp [firstOfRuns, lastKey, ih]
    · simp [firstOfRuns, lastKey, ih, repeated]

/-- Batches make no difference. -/
theorem streamBatches_eq {size : Nat} (positive : 0 < size) (last : Option Key) (items : List Item) :
    streamBatches key size last items = firstOfRuns key last items := by
  fun_induction streamBatches key size last items with
  | case1 last items stop =>
    rcases stop with rfl | zero
    · rfl
    · omega
  | case2 last items more ih =>
    rw [ih, ← firstOfRuns_append, List.take_append_drop]

theorem firstOfRuns_sublist (last : Option Key) (items : List Item) : (firstOfRuns key last items).Sublist items := by
  induction items generalizing last with
  | nil => exact List.Sublist.slnil
  | cons item rest ih =>
    unfold firstOfRuns
    split
    · exact (ih last).cons item
    · exact (ih _).cons_cons item

theorem mem_firstOfRuns (last : Option Key) {items : List Item} {item : Item} (member : item ∈ items)
    (other : some (key item) ≠ last) : ∃ first ∈ firstOfRuns key last items, key first = key item := by
  induction items generalizing last with
  | nil => cases member
  | cons head rest ih =>
    unfold firstOfRuns
    rcases List.mem_cons.mp member with rfl | later
    · rw [if_neg other]
      exact ⟨item, List.mem_cons_self, rfl⟩
    · split
      · exact ih last later other
      · by_cases same : key item = key head
        · exact ⟨head, List.mem_cons_self, same.symm⟩
        · obtain ⟨first, inside, name⟩ := ih (some (key head)) later (fun eq => same (Option.some.inj eq))
          exact ⟨first, List.mem_cons_of_mem _ inside, name⟩

/-- In a list with rising keys the first items have different keys. -/
theorem firstOfRuns_rise [LinearOrder Key] (last : Option Key) {items : List Item}
    (rising : items.Pairwise (fun a b => key a ≤ key b)) (above : ∀ l, last = some l → ∀ item ∈ items, l ≤ key item) :
    (firstOfRuns key last items).Pairwise (fun a b => key a < key b) ∧
      ∀ l, last = some l → ∀ item ∈ firstOfRuns key last items, l < key item := by
  induction items generalizing last with
  | nil => simp [firstOfRuns]
  | cons head rest ih =>
    obtain ⟨least, rising⟩ := List.pairwise_cons.mp rising
    unfold firstOfRuns
    split
    · exact ih last rising fun l isLast item member => above l isLast item (List.mem_cons_of_mem _ member)
    · rename_i other
      obtain ⟨rise, over_⟩ := ih (some (key head)) rising (by rintro _ ⟨⟩; exact least)
      refine ⟨List.pairwise_cons.mpr ⟨over_ _ rfl, rise⟩, ?_⟩
      rintro l rfl item member
      have less : l < key head := lt_of_le_of_ne (above l rfl head List.mem_cons_self) fun eq => other (congrArg some eq.symm)
      rcases List.mem_cons.mp member with rfl | later
      · exact less
      · exact less.trans (over_ _ rfl item later)

theorem firstOfRuns_least {before : Item → Item → Prop} [LinearOrder Key] (last : Option Key) {items : List Item}
    (ordered : items.Pairwise before) (rising : items.Pairwise (fun a b => key a ≤ key b))
    (above : ∀ l, last = some l → ∀ item ∈ items, l ≤ key item) {first item : Item} (isFirst : first ∈ firstOfRuns key last items)
    (member : item ∈ items) (same : key item = key first) : item = first ∨ before first item := by
  induction items generalizing last with
  | nil => cases member
  | cons head rest ih =>
    obtain ⟨leads, ordered⟩ := List.pairwise_cons.mp ordered
    obtain ⟨least, tail⟩ := List.pairwise_cons.mp rising
    by_cases repeated : some (key head) = last
    · subst repeated
      have inside := isFirst
      rw [firstOfRuns, if_pos rfl] at inside
      have more := (firstOfRuns_rise key _ tail (by rintro _ ⟨⟩; exact least)).2 _ rfl first inside
      rcases List.mem_cons.mp member with rfl | later
      · exact absurd same more.ne
      · exact ih _ ordered tail (by rintro _ ⟨⟩; exact least) inside later
    · rw [firstOfRuns, if_neg repeated] at isFirst
      rcases List.mem_cons.mp isFirst with rfl | inside
      · rcases List.mem_cons.mp member with rfl | later
        · exact .inl rfl
        · exact .inr (leads item later)
      · have more := (firstOfRuns_rise key (some (key head)) tail (by rintro _ ⟨⟩; exact least)).2 _ rfl first inside
        rcases List.mem_cons.mp member with rfl | later
        · exact absurd same more.ne
        · exact ih _ ordered tail (by rintro _ ⟨⟩; exact least) inside later

end

/-! ## Capsules -/

/-- `(hostname, year)`. -/
abbrev HostYear := String ×ₗ ℤ

/-- The primary key of `evidence_capsules`, in the order of its columns. -/
abbrev CapsuleKey := HostYear ×ₗ String ×ₗ String ×ₗ String

/-- The fields of an `EvidenceCapsule`, its hostname stripped and in lower case. -/
structure CapsuleFields where
  hostname : String
  year : Int
  provider : String
  temporalSemantics : String
  evidenceTimestamp : String
  sourceLocator : String
  payloadHash : String
  policyVersion : String
  evidenceType : String
  sourceId : String
  originalUrl : String
  recordLocator : String
  extractionMethod : String
  deriving DecidableEq

def CapsuleFields.pair (c : CapsuleFields) : HostYear := toLex (c.hostname, c.year)
def CapsuleFields.rank (c : CapsuleFields) : String ×ₗ String ×ₗ String := toLex (c.provider, toLex (c.payloadHash, c.policyVersion))
def CapsuleFields.key (c : CapsuleFields) : CapsuleKey := toLex (c.pair, c.rank)

/-- What the checks of `__post_init__` find. -/
def CapsuleFields.postInit (c : CapsuleFields) : Option String :=
  if !officialHost c.hostname then some "evidence capsule contains an invalid hostname"
  else if !(1996 ≤ c.year && c.year ≤ 2001) then some "evidence capsule year must be an integer within 1996-2001"
  else if blank c.provider then some "evidence capsule provider is required"
  else if blank c.policyVersion then some "evidence capsule policy_version is required"
  else if blank c.payloadHash then some "evidence capsule payload_hash is required"
  else none

def orElse (text default : String) : String := if text = "" then default else text

def typeOf (provider : String) : String :=
  if "direct:".toList.isPrefixOf provider.toList then "source_direct_year" else "archive_capture"

/-- The fields that `__post_init__` fills. -/
def CapsuleFields.filled (c : CapsuleFields) : CapsuleFields := { c with
  evidenceType := orElse c.evidenceType (typeOf c.provider)
  sourceId := orElse c.sourceId c.provider
  originalUrl := orElse c.originalUrl c.sourceLocator
  recordLocator := orElse c.recordLocator c.sourceLocator
  extractionMethod := orElse c.extractionMethod "provider_record" }

theorem orElse_orElse (text default : String) : orElse (orElse text default) default = orElse text default := by
  unfold orElse
  split_ifs <;> rfl

theorem CapsuleFields.filled_filled (c : CapsuleFields) : c.filled.filled = c.filled := by
  simp only [CapsuleFields.filled, orElse_orElse]

structure EvidenceCapsule extends CapsuleFields where
  valid : toCapsuleFields.postInit = none
  settled : toCapsuleFields.filled = toCapsuleFields

/-- The constructor of `EvidenceCapsule`. -/
def EvidenceCapsule.make (c : CapsuleFields) : Except PyError EvidenceCapsule :=
  match checked : c.postInit with
  | some message => .error (.valueError message)
  | none => .ok ⟨c.filled, checked, c.filled_filled⟩

theorem EvidenceCapsule.make_stored (c : EvidenceCapsule) : EvidenceCapsule.make c.toCapsuleFields = .ok c := by
  obtain ⟨c, valid, settled⟩ := c
  unfold EvidenceCapsule.make
  split
  · rename_i message checked
    rw [valid] at checked
    cases checked
  · simp only [settled]

/-! ## Provenance -/

/-- `EvidenceTaskProvenance`, after its checks. -/
structure EvidenceTaskProvenance where
  key : EvidenceQueryKey
  sourceKey : String
  reservoirId : String
  leaseId : String
  committedAt : ℚ
  taskKind : String
  valid : 0 ≤ committedAt ∧ taskKind ∈ ["", "exact", "range", "domain", "rdap", "platform_year"]

/-- The columns of the UNIQUE constraint of `evidence_capsule_task_provenance`. -/
structure ProvenanceKey where
  hostname : String
  year : Int
  provider : String
  payloadHash : String
  policyVersion : String
  taskKind : String
  taskHostname : String
  taskYearFrom : Int
  taskYearTo : Int
  taskProvider : String
  taskPolicyVersion : String
  sourceKey : String
  reservoirId : String
  leaseId : String
  deriving DecidableEq

structure ProvenanceRow where
  key : ProvenanceKey
  committedAt : ℚ

/-- The capsule that a provenance row references. -/
def ProvenanceKey.capsule (p : ProvenanceKey) : CapsuleKey :=
  toLex (toLex (p.hostname, p.year), toLex (p.provider, toLex (p.payloadHash, p.policyVersion)))

/-- The kind of a provenance: its own, or that of its task. -/
def EvidenceTaskProvenance.kind (p : EvidenceTaskProvenance) : String := orElse p.taskKind (EvidenceTasks.taskKind p.key)

abbrev Item := EvidenceCapsule × EvidenceTaskProvenance

/-- What `put_many_with_task_provenance` rejects. -/
def itemProblem (item : Item) : Option PyError :=
  let (capsule, provenance) := item
  if !officialHost capsule.hostname then some (.valueError "evidence capsule contains an invalid hostname")
  else if capsule.provider ≠ provenance.key.provider then some (.valueError "capsule provider does not match evidence task")
  else if capsule.policyVersion ≠ provenance.key.policyVersion then
    some (.valueError "capsule policy does not match evidence task")
  else if !(provenance.key.yearFrom ≤ capsule.year && capsule.year ≤ provenance.key.yearTo) then
    some (.valueError "capsule year falls outside evidence task scope")
  else if !(provenance.kind = "domain" || provenance.kind = "platform_year") && capsule.hostname ≠ provenance.key.hostname then
    some (.valueError "non-domain capsule hostname must match evidence task")
  else none

def provenanceRow (item : Item) : ProvenanceRow where
  key := {
    hostname := item.1.hostname
    year := item.1.year
    provider := item.1.provider
    payloadHash := item.1.payloadHash
    policyVersion := item.1.policyVersion
    taskKind := item.2.kind
    taskHostname := item.2.key.hostname
    taskYearFrom := item.2.key.yearFrom
    taskYearTo := item.2.key.yearTo
    taskProvider := item.2.key.provider
    taskPolicyVersion := item.2.key.policyVersion
    sourceKey := item.2.sourceKey
    reservoirId := item.2.reservoirId
    leaseId := item.2.leaseId }
  committedAt := item.2.committedAt

/-! ## Host-years -/

structure HostYearRow where
  sequence : Nat
  hostname : String
  year : Int
  deriving DecidableEq

def HostYearRow.pair (row : HostYearRow) : HostYear := toLex (row.hostname, row.year)

/-- `evidence_host_years`, with its number in `sqlite_sequence`. -/
structure HostYears where
  table : Table HostYearRow HostYear (·.pair)
  sequence : Nat
  increasing : table.rows.Pairwise (fun a b => a.sequence < b.sequence)
  numbered : ∀ row ∈ table.rows, 0 < row.sequence ∧ row.sequence ≤ sequence

def HostYears.empty : HostYears := ⟨.empty, 0, List.Pairwise.nil, nofun⟩

/-- One INSERT OR IGNORE. An insertion that is ignored may use up a number. -/
def HostYears.insert (burns : Bool) (h : HostYears) (pair : HostYear) : HostYears :=
  if fresh : h.table.get? pair = none then
    { table := h.table.insert ⟨h.sequence + 1, (ofLex pair).1, (ofLex pair).2⟩
      sequence := h.sequence + 1
      increasing := by
        rw [Table.rows_insert fresh]
        refine List.pairwise_append.mpr ⟨h.increasing, List.pairwise_singleton _ _, ?_⟩
        intro a stored b last
        rw [List.mem_singleton.mp last]
        exact Nat.lt_succ_of_le (h.numbered a stored).2
      numbered := by
        rw [Table.rows_insert fresh]
        intro row member
        rcases List.mem_append.mp member with stored | last
        · exact ⟨(h.numbered row stored).1, (h.numbered row stored).2.trans (Nat.le_succ _)⟩
        · rw [List.mem_singleton.mp last]
          exact ⟨Nat.succ_pos _, le_rfl⟩ }
  else
    { h with
      sequence := h.sequence + burns.toNat
      numbered := fun row stored => ⟨(h.numbered row stored).1, (h.numbered row stored).2.trans (Nat.le_add_right _ _)⟩ }

/-! ## Calls -/

structure Store where
  capsules : Table CapsuleFields CapsuleKey (·.key)
  hostYears : HostYears
  provenance : Table ProvenanceRow ProvenanceKey (·.key)

abbrev Answer (α : Type) := Except PyError α × Store

/-- The inserts of one transaction; host-years are inserted once each, in the order of their first capsule. -/
def Store.written (burns : Bool) (s : Store) (capsules : List CapsuleFields) (provenance : List ProvenanceRow) : Store where
  capsules := capsules.foldl (fun t row => t.insert row) s.capsules
  hostYears := (capsules.map (·.pair)).eraseDups.foldl (HostYears.insert burns) s.hostYears
  provenance := provenance.foldl (fun t row => t.insert row) s.provenance

/-- A transaction, with the error that the database may fail it with. -/
def commit (burns : Bool) (s : Store) (capsules : List CapsuleFields) (provenance : List ProvenanceRow)
    (fault : Option PyError) : Answer Nat :=
  match fault with
  | some err => (.error err, s)
  | none =>
    let after := s.written burns capsules provenance
    (.ok (after.capsules.rows.length - s.capsules.rows.length), after)

/-- `put_many`. -/
def putMany (burns : Bool) (s : Store) (capsules : List EvidenceCapsule) (fault : Option PyError) : Answer Nat :=
  if capsules.any (fun c => !officialHost c.hostname) then (.error (.valueError "evidence capsule contains an invalid hostname"), s)
  else if capsules = [] then (.ok 0, s)
  else commit burns s (capsules.map (·.toCapsuleFields)) [] fault

/-- `put_many_with_task_provenance`. -/
def putManyWithTaskProvenance (burns : Bool) (s : Store) (items : List Item) (fault : Option PyError) : Answer Nat :=
  match items.findSome? itemProblem with
  | some err => (.error err, s)
  | none =>
    if items = [] then (.ok 0, s)
    else commit burns s (items.map (·.1.toCapsuleFields)) (items.map provenanceRow) fault

/-- An integer that SQLite cannot take. -/
def tooLarge (n : Int) : Bool := 2 ^ 63 ≤ n

/-- `host_years_after`, from the number of a row or 0. -/
def hostYearsAfter (s : Store) (sequence limit : Int) : Except PyError (List HostYearRow) :=
  if sequence < 0 then .error (.valueError "sequence must be non-negative")
  else if limit < 1 then .error (.valueError "limit must be positive")
  else if tooLarge limit then .error .overflowError
  else .ok (((s.hostYears.table.rows.filter (sequence < ·.sequence)).insertionSort (·.sequence ≤ ·.sequence)).take limit.toNat)

/-- The WHERE clause of `iter_canonical_host_year_capsules`. -/
def Store.indexed (s : Store) (maxSequence : Option Int) (c : CapsuleFields) : Bool :=
  maxSequence.all fun max => s.hostYears.table.rows.any (fun row => row.pair = c.pair && (row.sequence : Int) ≤ max)

/-- `iter_canonical_host_year_capsules`, on the snapshot of its SELECT. -/
def iterCanonicalHostYearCapsules (s : Store) (batchSize : Int) (maxSequence : Option Int) :
    Except PyError (List EvidenceCapsule) :=
  if batchSize < 1 then .error (.valueError "batch_size must be positive")
  else if maxSequence.any (· < 0) then .error (.valueError "max_sequence must be non-negative")
  else if maxSequence.any tooLarge || 2 ^ 31 ≤ batchSize then .error .overflowError
  else (streamBatches CapsuleFields.pair batchSize.toNat none
    ((s.capsules.rows.filter (s.indexed maxSequence)).insertionSort (·.key ≤ ·.key))).mapM EvidenceCapsule.make

/-! ## Runs -/

/-- A reader that pages over the host-years from 0. -/
structure Reader where
  cursor : Nat
  seen : List HostYearRow

structure System where
  store : Store
  reader : Reader

inductive StoreEvent
  | putMany (capsules : List EvidenceCapsule) (fault : Option PyError)
  | putManyWithTaskProvenance (items : List Item) (fault : Option PyError)
  | page (limit : Int)

abbrev Outcome := Except PyError Nat

def Reader.read (reader : Reader) (page : List HostYearRow) : Reader where
  cursor := (page.getLast?.map (·.sequence)).getD reader.cursor
  seen := reader.seen ++ page

def step (burns : Bool) (s : System) : StoreEvent → Outcome × System
  | .putMany capsules fault =>
    ((putMany burns s.store capsules fault).1, { s with store := (putMany burns s.store capsules fault).2 })
  | .putManyWithTaskProvenance items fault =>
    ((putManyWithTaskProvenance burns s.store items fault).1,
      { s with store := (putManyWithTaskProvenance burns s.store items fault).2 })
  | .page limit =>
    match hostYearsAfter s.store s.reader.cursor limit with
    | .error err => (.error err, s)
    | .ok page => (.ok page.length, { s with reader := s.reader.read page })

/-- A store that starts empty, with a reader at 0. -/
def storage (burns : Bool) : Machine System StoreEvent Outcome where
  initial := ⟨⟨.empty, .empty, .empty⟩, ⟨0, []⟩⟩
  step := step burns

/-- The host-years of the capsules of a call. -/
def StoreEvent.pairs : StoreEvent → List HostYear
  | .putMany capsules _ => capsules.map (·.pair)
  | .putManyWithTaskProvenance items _ => items.map (·.1.pair)
  | .page _ => []

def stored (r : Step System StoreEvent Outcome) : List HostYear :=
  match r.outcome with
  | .ok _ => r.event.pairs
  | .error _ => []

/-- One capsule of every host-year up to a number: the first in the order of the provider, payload and policy. -/
structure Canonical (s : Store) (max : Int) (capsules : List EvidenceCapsule) : Prop where
  once : (capsules.map (·.pair)).Nodup
  pairs : ∀ pair, pair ∈ capsules.map (·.pair) ↔ ∃ row ∈ s.hostYears.table.rows, row.pair = pair ∧ (row.sequence : Int) ≤ max
  stored : ∀ c ∈ capsules, c.toCapsuleFields ∈ s.capsules.rows
  least : ∀ c ∈ capsules, ∀ other ∈ s.capsules.rows, other.pair = c.pair → c.rank ≤ other.rank

structure StoreSafe (burns : Bool) (es : List StoreEvent) : Prop where
  /-- The host-years are those of the capsules. -/
  projected : ∀ pair, pair ∈ ((storage burns).final es).store.hostYears.table.rows.map (·.pair) ↔
    ∃ c ∈ ((storage burns).final es).store.capsules.rows, c.pair = pair
  /-- They are numbered in the order in which they were first stored, each once. -/
  order : ((storage burns).final es).store.hostYears.table.rows.map (·.pair) = (((storage burns).trace es).flatMap stored).eraseDups
  increasing : ((storage burns).final es).store.hostYears.table.rows.Pairwise (fun a b => a.sequence < b.sequence)
  /-- A number stays with its host-year, and new ones come after. -/
  kept : ∀ before after, es = before ++ after →
    ((storage burns).final before).store.hostYears.table.rows <+: ((storage burns).final es).store.hostYears.table.rows
  /-- A reader has seen every row up to where it is, once and in order. -/
  seen : ((storage burns).final es).reader.seen <+: ((storage burns).final es).store.hostYears.table.rows
  /-- A page of a limit is that many rows more. -/
  paged : ∀ r ∈ (storage burns).trace es, ∀ limit, r.event = .page limit → 1 ≤ limit → tooLarge limit = false →
    r.after.reader.seen = r.after.store.hostYears.table.rows.take (r.before.reader.seen.length + limit.toNat)
  witnessed : ∀ p ∈ ((storage burns).final es).store.provenance.rows,
    ∃ c ∈ ((storage burns).final es).store.capsules.rows, c.key = p.key.capsule
  canonical : ∀ batchSize max, 1 ≤ batchSize → batchSize < 2 ^ 31 → 0 ≤ max → tooLarge max = false →
    ∃ capsules, iterCanonicalHostYearCapsules ((storage burns).final es).store batchSize (some max) = .ok capsules ∧
      Canonical ((storage burns).final es).store max capsules
  refused : ∀ r ∈ (storage burns).trace es, ∀ err, r.outcome = .error err → r.after = r.before

/-! ## One call -/

/-- The rows of a table that only grows at its end, above its number. -/
def Grows (h h' : HostYears) : Prop :=
  (∃ new, h'.table.rows = h.table.rows ++ new ∧ ∀ row ∈ new, h.sequence < row.sequence) ∧ h.sequence ≤ h'.sequence

theorem Grows.refl (h : HostYears) : Grows h h := ⟨⟨[], by simp, nofun⟩, le_rfl⟩

theorem Grows.trans {h h' h'' : HostYears} (first : Grows h h') (second : Grows h' h'') : Grows h h'' := by
  obtain ⟨⟨new, rows, above⟩, le⟩ := first
  obtain ⟨⟨new', rows', above'⟩, le'⟩ := second
  refine ⟨⟨new ++ new', by rw [rows', rows, List.append_assoc], ?_⟩, le.trans le'⟩
  intro row member
  rcases List.mem_append.mp member with earlier | later
  · exact above row earlier
  · exact le.trans_lt (above' row later)

theorem grows_insert (burns : Bool) (h : HostYears) (pair : HostYear) : Grows h (h.insert burns pair) := by
  unfold HostYears.insert
  split
  · rename_i fresh
    refine ⟨⟨[⟨h.sequence + 1, (ofLex pair).1, (ofLex pair).2⟩], Table.rows_insert fresh, ?_⟩, Nat.le_succ _⟩
    intro row member
    rw [List.mem_singleton.mp member]
    exact Nat.lt_succ_self _
  · exact ⟨⟨[], by simp, by simp⟩, Nat.le_add_right _ _⟩

theorem grows_foldl (burns : Bool) (h : HostYears) (pairs : List HostYear) : Grows h (pairs.foldl (HostYears.insert burns) h) := by
  induction pairs generalizing h with
  | nil => exact .refl h
  | cons pair pairs ih => exact (grows_insert burns h pair).trans (ih _)

/-- The largest number of some rows. -/
theorem foldr_max_le (rows : List HostYearRow) {n : Nat} :
    rows.foldr (fun row last => max row.sequence last) 0 ≤ n ↔ ∀ row ∈ rows, row.sequence ≤ n := by
  induction rows with
  | nil => simp
  | cons row rest ih => rw [List.foldr_cons, max_le_iff, ih, List.forall_mem_cons]

/-- The host-years of a table, in the order of their numbers. -/
def HostYears.pairs (h : HostYears) : List HostYear := h.table.rows.map (·.pair)

theorem eraseDups_snoc (pairs : List HostYear) (pair : HostYear) :
    (pairs ++ [pair]).eraseDups = if pair ∈ pairs then pairs.eraseDups else pairs.eraseDups ++ [pair] := by
  rw [List.eraseDups_append]
  by_cases member : pair ∈ pairs <;> simp [List.removeAll, member, List.eraseDups_cons]

theorem eraseDups_append_eraseDups (first second : List HostYear) :
    (first ++ second.eraseDups).eraseDups = (first ++ second).eraseDups := by
  induction second using List.reverseRecOn with
  | nil => simp
  | append_singleton second pair ih =>
    rw [eraseDups_snoc, ← List.append_assoc, eraseDups_snoc]
    by_cases again : pair ∈ second
    · simp [again, ih]
    · rw [if_neg again, ← List.append_assoc, eraseDups_snoc, ih]
      simp

theorem pairs_insert (burns : Bool) (h : HostYears) (pair : HostYear) :
    (h.insert burns pair).pairs = if pair ∈ h.pairs then h.pairs else h.pairs ++ [pair] := by
  unfold HostYears.insert
  split
  · rename_i fresh
    have absent : pair ∉ h.pairs := by
      intro member
      obtain ⟨row, isRow, name⟩ := List.mem_map.mp member
      exact Table.get?_eq_none.mp fresh row isRow name
    rw [if_neg absent, HostYears.pairs, Table.rows_insert fresh, List.map_append]
    rfl
  · rename_i taken
    have present : pair ∈ h.pairs := by
      obtain ⟨row, found⟩ := Option.ne_none_iff_exists'.mp taken
      exact List.mem_map.mpr ⟨row, Table.mem_of_get? found, Table.get?_key found⟩
    rw [if_pos present]
    rfl

/-- The host-years are those that were inserted, in the order of their first insertion. -/
theorem pairs_foldl (burns : Bool) {h : HostYears} {before : List HostYear} (pairs : List HostYear)
    (start : h.pairs = before.eraseDups) : (pairs.foldl (HostYears.insert burns) h).pairs = (before ++ pairs).eraseDups := by
  induction pairs generalizing h before with
  | nil => simpa using start
  | cons pair pairs ih =>
    have next : (h.insert burns pair).pairs = (before ++ [pair]).eraseDups := by
      rw [pairs_insert, eraseDups_snoc, start]
      simp
    rw [List.foldl_cons, ih next, List.append_assoc]
    rfl

/-- The answers of the two puts. -/
inductive PutAnswer (burns : Bool) (s : Store) (capsules : List EvidenceCapsule) (provenance : List ProvenanceRow) :
    Answer Nat → Prop
  | refused (err : PyError) : PutAnswer burns s capsules provenance (.error err, s)
  | written (n : Nat) : PutAnswer burns s capsules provenance (.ok n, s.written burns (capsules.map (·.toCapsuleFields)) provenance)

theorem commit_cases (burns : Bool) (s : Store) (capsules : List EvidenceCapsule) (provenance : List ProvenanceRow)
    (fault : Option PyError) :
    PutAnswer burns s capsules provenance (commit burns s (capsules.map (·.toCapsuleFields)) provenance fault) := by
  cases fault with
  | some err => exact .refused err
  | none => exact .written _

theorem putMany_cases (burns : Bool) (s : Store) (capsules : List EvidenceCapsule) (fault : Option PyError) :
    PutAnswer burns s capsules [] (putMany burns s capsules fault) := by
  unfold putMany
  split
  · exact .refused _
  split
  · rename_i none_
    subst none_
    exact .written 0
  · exact commit_cases burns s capsules [] fault

theorem putItems_cases (burns : Bool) (s : Store) (items : List Item) (fault : Option PyError) :
    PutAnswer burns s (items.map (·.1)) (items.map provenanceRow) (putManyWithTaskProvenance burns s items fault) := by
  unfold putManyWithTaskProvenance
  split
  · exact .refused _
  split
  · rename_i none_
    subst none_
    exact .written 0
  · have answer := commit_cases burns s (items.map (·.1)) (items.map provenanceRow) fault
    rwa [List.map_map] at answer

/-! ## The invariant -/

structure Inv (s : Store) : Prop where
  valid : ∀ c ∈ s.capsules.rows, ∃ capsule : EvidenceCapsule, capsule.toCapsuleFields = c
  projected : ∀ pair, pair ∈ s.hostYears.pairs ↔ ∃ c ∈ s.capsules.rows, c.pair = pair
  witnessed : ∀ p ∈ s.provenance.rows, ∃ c ∈ s.capsules.rows, c.key = p.key.capsule

theorem pair_of_key {c c' : CapsuleFields} (same : c.key = c'.key) : c.pair = c'.pair :=
  congrArg (fun key : CapsuleKey => (ofLex key).1) same

theorem mem_pairs_foldl (burns : Bool) (h : HostYears) (pairs : List HostYear) (pair : HostYear) :
    pair ∈ (pairs.foldl (HostYears.insert burns) h).pairs ↔ pair ∈ h.pairs ∨ pair ∈ pairs := by
  induction pairs generalizing h with
  | nil => simp
  | cons first pairs ih =>
    rw [List.foldl_cons, ih, pairs_insert, List.mem_cons]
    by_cases taken : first ∈ h.pairs
    · rw [if_pos taken]
      by_cases same : pair = first
      · subst same
        simp [taken]
      · simp [same]
    · rw [if_neg taken, List.mem_append, List.mem_singleton, or_assoc]

theorem inv_written (burns : Bool) {s : Store} (inv : Inv s) (capsules : List EvidenceCapsule) {provenance : List ProvenanceRow}
    (covered : ∀ p ∈ provenance, ∃ c ∈ capsules, c.key = p.key.capsule) :
    Inv (s.written burns (capsules.map (·.toCapsuleFields)) provenance) where
  valid c member := by
    rcases mem_foldl_insert member with old | new
    · exact inv.valid c old
    · obtain ⟨capsule, -, same⟩ := List.mem_map.mp new
      exact ⟨capsule, same⟩
  projected pair := by
    refine (mem_pairs_foldl burns _ _ pair).trans ?_
    rw [inv.projected, List.mem_eraseDups]
    constructor
    · rintro (⟨c, old, name⟩ | new)
      · exact ⟨c, foldl_insert_stored old, name⟩
      · obtain ⟨c, member, name⟩ := List.mem_map.mp new
        obtain ⟨row, isRow, key⟩ := foldl_insert_key s.capsules member
        exact ⟨row, isRow, (pair_of_key key).trans name⟩
    · rintro ⟨c, member, name⟩
      rcases mem_foldl_insert member with old | new
      · exact .inl ⟨c, old, name⟩
      · exact .inr (List.mem_map.mpr ⟨c, new, name⟩)
  witnessed p member := by
    rcases mem_foldl_insert member with old | new
    · obtain ⟨c, isRow, key⟩ := inv.witnessed p old
      exact ⟨c, foldl_insert_stored isRow, key⟩
    · obtain ⟨c, inside, key⟩ := covered p new
      obtain ⟨row, isRow, same⟩ := foldl_insert_key s.capsules (List.mem_map.mpr ⟨c, inside, rfl⟩)
      exact ⟨row, isRow, same.trans key⟩

theorem inv_put (burns : Bool) {s : Store} (inv : Inv s) {capsules : List EvidenceCapsule} {provenance : List ProvenanceRow}
    (covered : ∀ p ∈ provenance, ∃ c ∈ capsules, c.key = p.key.capsule) {answer : Answer Nat}
    (cases_ : PutAnswer burns s capsules provenance answer) : Inv answer.2 := by
  cases cases_ with
  | refused => exact inv
  | written => exact inv_written burns inv capsules covered

theorem items_covered (items : List Item) : ∀ p ∈ items.map provenanceRow, ∃ c ∈ items.map (·.1), c.key = p.key.capsule := by
  intro p member
  obtain ⟨item, inside, rfl⟩ := List.mem_map.mp member
  exact ⟨item.1, List.mem_map.mpr ⟨item, inside, rfl⟩, rfl⟩

theorem answer_error {burns : Bool} {s : Store} {capsules : List EvidenceCapsule} {provenance : List ProvenanceRow}
    {answer : Answer Nat} (cases_ : PutAnswer burns s capsules provenance answer) {err : PyError}
    (raised : answer.1 = .error err) : answer.2 = s := by
  cases cases_ with
  | refused => rfl
  | written => cases raised

/-- What a reader has read, against the host-years. -/
def Reads (reader : Reader) (h : HostYears) : Prop :=
  ∃ rest, h.table.rows = reader.seen ++ rest ∧ (∀ row ∈ reader.seen, row.sequence ≤ reader.cursor) ∧
    (∀ row ∈ rest, reader.cursor < row.sequence) ∧ reader.cursor ≤ h.sequence

theorem Reads.grows {reader : Reader} {h h' : HostYears} (reads : Reads reader h) (grows : Grows h h') : Reads reader h' := by
  obtain ⟨rest, rows, read, unread, le⟩ := reads
  obtain ⟨⟨new, rows', above⟩, le'⟩ := grows
  refine ⟨rest ++ new, by rw [rows', rows, List.append_assoc], read, ?_, le.trans le'⟩
  intro row member
  rcases List.mem_append.mp member with old | new
  · exact unread row old
  · exact le.trans_lt (above row new)

theorem page_next {s : Store} {reader : Reader} {rest : List HostYearRow} (rows : s.hostYears.table.rows = reader.seen ++ rest)
    (read : ∀ row ∈ reader.seen, row.sequence ≤ reader.cursor) (unread : ∀ row ∈ rest, reader.cursor < row.sequence) {limit : Int}
    (positive : 1 ≤ limit) (fits : tooLarge limit = false) :
    hostYearsAfter s reader.cursor limit = .ok (rest.take limit.toNat) := by
  have seen : reader.seen.filter ((reader.cursor : Int) < ·.sequence) = [] := by
    rw [List.filter_eq_nil_iff]
    intro row member
    have := read row member
    simpa using this
  have later : rest.filter ((reader.cursor : Int) < ·.sequence) = rest := by
    rw [List.filter_eq_self]
    intro row member
    have := unread row member
    simpa using this
  have sorted : rest.Pairwise (fun a b => a.sequence ≤ b.sequence) := by
    have all := s.hostYears.increasing
    rw [rows] at all
    exact (List.pairwise_append.mp all).2.1.imp Nat.le_of_lt
  have small : ¬(reader.cursor : Int) < 0 := by omega
  have enough : ¬limit < 1 := by omega
  rw [hostYearsAfter, if_neg small, if_neg enough, if_neg (by simp [fits]), rows, List.filter_append, seen, later, List.nil_append,
    sorted.insertionSort_eq]

theorem reads_page {reader : Reader} {h : HostYears} {page : List HostYearRow} (later : List HostYearRow)
    (rows : h.table.rows = reader.seen ++ (page ++ later)) (reads : Reads reader h) : Reads (reader.read page) h := by
  have rising := h.increasing
  have whole : h.table.rows = (reader.read page).seen ++ later := by
    rw [rows, Reader.read, List.append_assoc]
  rcases List.eq_nil_or_concat' page with rfl | ⟨most, last, rfl⟩
  · obtain ⟨rest, rows', read, unread, le⟩ := reads
    refine ⟨later, whole, ?_, ?_, le⟩
    · simpa [Reader.read] using read
    · have same : later = rest := List.append_cancel_left ((rows.symm.trans rows'))
      rw [same]
      exact unread
  · have cursor : (reader.read (most ++ [last])).cursor = last.sequence := by simp [Reader.read]
    have seen : (reader.read (most ++ [last])).seen = (reader.seen ++ most) ++ [last] := by simp [Reader.read]
    have member : last ∈ h.table.rows := by
      rw [whole, seen]
      simp
    rw [whole, seen] at rising
    obtain ⟨first, -, apart⟩ := List.pairwise_append.mp rising
    refine ⟨later, whole, ?_, ?_, ?_⟩
    · rw [cursor, seen]
      intro row inside
      rcases List.mem_append.mp inside with earlier | isLast
      · exact ((List.pairwise_append.mp first).2.2 row earlier last List.mem_cons_self).le
      · rw [List.mem_singleton.mp isLast]
    · rw [cursor]
      intro row inside
      exact apart last (List.mem_append_right _ List.mem_cons_self) row inside
    · rw [cursor]
      exact (h.numbered last member).2

theorem Reads.page {s : Store} {reader : Reader} (reads : Reads reader s.hostYears) {limit : Int} (positive : 1 ≤ limit)
    (fits : tooLarge limit = false) : ∃ page, hostYearsAfter s reader.cursor limit = .ok page ∧
      (reader.read page).seen = s.hostYears.table.rows.take (reader.seen.length + limit.toNat) ∧
      Reads (reader.read page) s.hostYears := by
  have all := reads
  obtain ⟨rest, rows, read, unread, le⟩ := reads
  refine ⟨_, page_next rows read unread positive fits, ?_, reads_page (rest.drop limit.toNat) ?_ all⟩
  · rw [rows, List.take_length_add_append]
    rfl
  · rw [rows, List.take_append_drop]

theorem Reads.answer {s : Store} {reader : Reader} (reads : Reads reader s.hostYears) {limit : Int} {page : List HostYearRow}
    (answer : hostYearsAfter s reader.cursor limit = .ok page) : Reads (reader.read page) s.hostYears := by
  have accepted := answer
  unfold hostYearsAfter at answer
  split at answer
  · cases answer
  split at answer
  · cases answer
  split at answer
  · cases answer
  rename_i positive fits
  obtain ⟨page', same, -, after⟩ := reads.page (not_lt.mp positive) (by simpa using fits)
  rw [accepted] at same
  cases same
  exact after

/-! ## The stream of canonical capsules -/

theorem pair_le {a b : CapsuleFields} (le : a.key ≤ b.key) : a.pair ≤ b.pair := by
  rcases Prod.Lex.le_iff.mp le with less | ⟨same, -⟩
  · exact less.le
  · exact same.le

theorem rank_le {a b : CapsuleFields} (le : a.key ≤ b.key) (same : b.pair = a.pair) : a.rank ≤ b.rank := by
  rcases Prod.Lex.le_iff.mp le with less | ⟨-, le⟩
  · exact absurd same less.ne'
  · exact le

/-- Stored rows are read back as the capsules that they are. -/
theorem mapM_make {rows : List CapsuleFields} (valid : ∀ c ∈ rows, ∃ capsule : EvidenceCapsule, capsule.toCapsuleFields = c) :
    ∃ capsules, rows.mapM EvidenceCapsule.make = .ok capsules ∧ capsules.map (·.toCapsuleFields) = rows := by
  induction rows with
  | nil => exact ⟨[], rfl, rfl⟩
  | cons row rows ih =>
    obtain ⟨capsule, rfl⟩ := valid row List.mem_cons_self
    obtain ⟨capsules, read, same⟩ := ih fun c member => valid c (List.mem_cons_of_mem _ member)
    refine ⟨capsule :: capsules, ?_, by rw [List.map_cons, same]⟩
    rw [List.mapM_cons, EvidenceCapsule.make_stored, read]
    rfl

theorem indexed_iff {s : Store} {max : Int} {c : CapsuleFields} :
    s.indexed (some max) c ↔ ∃ row ∈ s.hostYears.table.rows, row.pair = c.pair ∧ (row.sequence : Int) ≤ max := by
  simp [Store.indexed]

theorem canonical_stream {s : Store} (inv : Inv s) {batchSize max : Int} (positive : 1 ≤ batchSize) (small : batchSize < 2 ^ 31)
    (nonneg : 0 ≤ max) (fits : tooLarge max = false) :
    ∃ capsules, iterCanonicalHostYearCapsules s batchSize (some max) = .ok capsules ∧ Canonical s max capsules := by
  obtain ⟨sorted, isSorted⟩ : ∃ sorted, sorted = (s.capsules.rows.filter (s.indexed (some max))).insertionSort (·.key ≤ ·.key) :=
    ⟨_, rfl⟩
  have inside : ∀ c, c ∈ sorted ↔ c ∈ s.capsules.rows ∧ s.indexed (some max) c := by
    intro c
    rw [isSorted, List.mem_insertionSort, List.mem_filter]
  have ordered : sorted.Pairwise (fun a b => a.key ≤ b.key) := by
    rw [isSorted]
    exact List.pairwise_insertionSort _ _
  have rising : sorted.Pairwise (fun a b => a.pair ≤ b.pair) := ordered.imp pair_le
  have stream : streamBatches CapsuleFields.pair batchSize.toNat none sorted = firstOfRuns CapsuleFields.pair none sorted :=
    streamBatches_eq _ (by omega) _ _
  have part := (firstOfRuns_sublist CapsuleFields.pair none sorted).subset
  obtain ⟨capsules, read, same⟩ := mapM_make fun c member => inv.valid c ((inside c).mp (part member)).1
  have pairs : capsules.map (·.pair) = (firstOfRuns CapsuleFields.pair none sorted).map (·.pair) := by
    rw [← same, List.map_map]
    rfl
  have member : ∀ c ∈ capsules, c.toCapsuleFields ∈ firstOfRuns CapsuleFields.pair none sorted := by
    intro c member
    rw [← same]
    exact List.mem_map.mpr ⟨c, member, rfl⟩
  refine ⟨capsules, ?_, ?_, ?_, ?_, ?_⟩
  · have enough : ¬batchSize < 1 := by omega
    rw [iterCanonicalHostYearCapsules, if_neg enough, if_neg (by simpa using nonneg), if_neg (by simpa [fits] using small),
      ← isSorted, stream]
    exact read
  · rw [pairs]
    have rise := (firstOfRuns_rise CapsuleFields.pair none rising nofun).1
    exact List.pairwise_map.mpr (rise.imp ne_of_lt)
  · intro pair
    rw [pairs]
    constructor
    · intro listed
      obtain ⟨c, first, rfl⟩ := List.mem_map.mp listed
      exact indexed_iff.mp ((inside c).mp (part first)).2
    · rintro ⟨row, isRow, rfl, below⟩
      obtain ⟨c, isCapsule, name⟩ := (inv.projected row.pair).mp (List.mem_map.mpr ⟨row, isRow, rfl⟩)
      have listed : c ∈ sorted := (inside c).mpr ⟨isCapsule, indexed_iff.mpr ⟨row, isRow, name.symm, below⟩⟩
      obtain ⟨first, isFirst, same⟩ := mem_firstOfRuns CapsuleFields.pair none listed nofun
      exact List.mem_map.mpr ⟨first, isFirst, same.trans name⟩
  · intro c isCapsule
    exact ((inside _).mp (part (member c isCapsule))).1
  · intro c isCapsule other stored same
    have isFirst := member c isCapsule
    obtain ⟨row, isRow, name, below⟩ := indexed_iff.mp ((inside _).mp (part isFirst)).2
    have listed : other ∈ sorted := (inside other).mpr ⟨stored, indexed_iff.mpr ⟨row, isRow, name.trans same.symm, below⟩⟩
    rcases firstOfRuns_least CapsuleFields.pair none ordered rising nofun isFirst listed same with rfl | le
    · exact le_rfl
    · exact rank_le le same

/-! ## Every run -/

/-- The store keeps its invariant, and its reader keeps up with it. -/
structure Sound (s : System) (written : List HostYear) : Prop where
  inv : Inv s.store
  reads : Reads s.reader s.store.hostYears
  order : s.store.hostYears.pairs = written.eraseDups

theorem grows_put {burns : Bool} {s : Store} {capsules : List EvidenceCapsule} {provenance : List ProvenanceRow}
    {answer : Answer Nat} (cases_ : PutAnswer burns s capsules provenance answer) : Grows s.hostYears answer.2.hostYears := by
  cases cases_ with
  | refused => exact .refl _
  | written => exact grows_foldl burns s.hostYears _

theorem sound_put (burns : Bool) {s : System} {written : List HostYear} (sound : Sound s written) {capsules : List EvidenceCapsule}
    {provenance : List ProvenanceRow} (covered : ∀ p ∈ provenance, ∃ c ∈ capsules, c.key = p.key.capsule) {answer : Answer Nat}
    (cases_ : PutAnswer burns s.store capsules provenance answer) :
    (∀ err, answer.1 = .error err → Sound { s with store := answer.2 } written) ∧
      (∀ n, answer.1 = .ok n → Sound { s with store := answer.2 } (written ++ capsules.map (·.pair))) ∧
      Grows s.store.hostYears answer.2.hostYears := by
  have inv := inv_put burns sound.inv covered cases_
  cases cases_ with
  | refused => exact ⟨fun _ _ => sound, nofun, .refl _⟩
  | written n =>
    have grows : Grows s.store.hostYears (s.store.written burns (capsules.map (·.toCapsuleFields)) provenance).hostYears :=
      grows_put (.written n)
    refine ⟨nofun, fun _ _ => ⟨inv, sound.reads.grows grows, ?_⟩, grows⟩
    have names : (capsules.map (·.toCapsuleFields)).map (·.pair) = capsules.map (·.pair) := by
      rw [List.map_map]
      rfl
    have pairs := pairs_foldl burns ((capsules.map (·.toCapsuleFields)).map (·.pair)).eraseDups sound.order
    rw [eraseDups_append_eraseDups] at pairs
    exact pairs.trans (by rw [names])

theorem sound_step (burns : Bool) {s : System} {written : List HostYear} (sound : Sound s written) (e : StoreEvent) :
    Sound (step burns s e).2 (written ++ stored ((storage burns).take s e)) ∧
      Grows s.store.hostYears (step burns s e).2.store.hostYears := by
  have taken : stored ((storage burns).take s e) = match (step burns s e).1 with | .ok _ => e.pairs | .error _ => [] := rfl
  rw [taken]
  cases e with
  | putMany capsules fault =>
    have covered : ∀ p ∈ ([] : List ProvenanceRow), ∃ c ∈ capsules, c.key = p.key.capsule := by simp
    obtain ⟨failed, passed, grows⟩ := sound_put burns sound covered (putMany_cases burns s.store capsules fault)
    refine ⟨?_, grows⟩
    cases answer : (step burns s (.putMany capsules fault)).1 with
    | error err =>
      rw [List.append_nil]
      exact failed err answer
    | ok n => exact passed n answer
  | putManyWithTaskProvenance items fault =>
    obtain ⟨failed, passed, grows⟩ := sound_put burns sound (items_covered items) (putItems_cases burns s.store items fault)
    refine ⟨?_, grows⟩
    cases answer : (step burns s (.putManyWithTaskProvenance items fault)).1 with
    | error err =>
      rw [List.append_nil]
      exact failed err answer
    | ok n =>
      have after := passed n answer
      rwa [List.map_map] at after
  | page limit =>
    simp only [step]
    split
    · exact ⟨by simpa using sound, .refl _⟩
    · rename_i page answer
      refine ⟨⟨sound.inv, sound.reads.answer answer, ?_⟩, .refl _⟩
      simpa [StoreEvent.pairs] using sound.order

theorem sound_final (burns : Bool) : ∀ es, Sound ((storage burns).final es) (((storage burns).trace es).flatMap stored) := by
  refine Machine.run_rule ?_ ?_
  · exact ⟨⟨nofun, by simp [storage, HostYears.pairs, HostYears.empty], nofun⟩,
      ⟨[], rfl, nofun, nofun, Nat.zero_le _⟩, by simp [storage, HostYears.pairs, HostYears.empty]⟩
  · intro es e sound
    rw [Machine.trace_snoc, List.flatMap_append, Machine.final_snoc, List.flatMap_singleton]
    exact (sound_step burns sound e).1

theorem grows_run (burns : Bool) (before after : List StoreEvent) :
    Grows ((storage burns).final before).store.hostYears ((storage burns).final (before ++ after)).store.hostYears := by
  induction after using List.reverseRecOn with
  | nil =>
    rw [List.append_nil]
    exact .refl _
  | append_singleton after e ih =>
    rw [← List.append_assoc, Machine.final_snoc]
    exact ih.trans (sound_step burns (sound_final burns _) e).2

theorem step_raises (burns : Bool) (s : System) (e : StoreEvent) {err : PyError} (raised : (step burns s e).1 = .error err) :
    (step burns s e).2 = s := by
  cases e with
  | putMany capsules fault =>
    have same := answer_error (putMany_cases burns s.store capsules fault) raised
    simp only [step, same]
  | putManyWithTaskProvenance items fault =>
    have same := answer_error (putItems_cases burns s.store items fault) raised
    simp only [step, same]
  | page limit =>
    simp only [step] at raised ⊢
    split at raised
    · rfl
    · cases raised

theorem store_safe (burns : Bool) (es : List StoreEvent) : StoreSafe burns es where
  projected := (sound_final burns es).inv.projected
  order := (sound_final burns es).order
  increasing := ((storage burns).final es).store.hostYears.increasing
  kept := by
    rintro before after rfl
    obtain ⟨⟨new, rows, -⟩, -⟩ := grows_run burns before after
    exact ⟨new, rows.symm⟩
  seen := by
    obtain ⟨rest, rows, -⟩ := (sound_final burns es).reads
    exact ⟨rest, rows.symm⟩
  paged r member limit isPage positive fits := by
    obtain ⟨before, after, -, isStep⟩ := Machine.mem_trace _ member
    obtain ⟨page, answer, seen, -⟩ := (sound_final burns before).reads.page positive fits
    have taken : r.after = (step burns ((storage burns).final before) (.page limit)).2 := by
      rw [isStep, isPage]
      rfl
    rw [taken, isStep]
    simp only [step, answer]
    exact seen
  witnessed := (sound_final burns es).inv.witnessed
  canonical batchSize max positive small nonneg fits := canonical_stream (sound_final burns es).inv positive small nonneg fits
  refused r member err raised := by
    obtain ⟨before, after, -, isStep⟩ := Machine.mem_trace _ member
    rw [isStep] at raised ⊢
    exact step_raises burns _ _ raised

end Creeper.EvidenceStore
