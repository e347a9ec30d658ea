import Creeper.BacklogAdmission
import Creeper.EvidenceBridge
import Creeper.ResultCodec
import Creeper.Splices

/-!
# RDAP work from the Wayback queue

`rdap_parent_candidate` and `ControlStore.backfill_rdap_tasks_from_wayback`: while the Wayback
queue is blocked, the domains above its hosts become RDAP tasks. A call reads a bounded
prefix of the queue, so rows that do not move can hide the domains behind them.
-/

namespace Creeper.RdapBackfill
open Creeper.Tables Creeper.EvidenceTasks Creeper.EvidenceQueue Creeper.BacklogAdmission
open Creeper.FabricModels (PyError blank)

/-! ## Parents -/

/-- The hostname without dots around it, in lower case, cut at its dots. -/
def partsOf (hostname : String) : List (List Char) :=
  (((hostname.toList.dropWhile (· = '.')).rdropWhile (· = '.')).map Char.toLower).splitOn '.'

/-- `".".join`. -/
def joined (parts : List (List Char)) : String := String.ofList (['.'].intercalate parts)

/-- `rdap_parent_candidate`, of a hostname in ASCII. -/
def rdapParentCandidate (hostname : String) : Option String :=
  let parts := partsOf hostname
  if parts.length < 2 || parts.any List.isEmpty then none
  else if (parts.getLastD []).length = 2 then
    if parts.length < 3 then none else some (joined (parts.rtake 3))
  else some (joined (parts.rtake 2))

/-! ## The call -/

/-- The ORDER BY clause of the queue; a scan decides between rows that it ties. -/
def queueOrder (scan : TaskRow → ℕ) (row : TaskRow) : ℚ≥0ᵒᵈ ×ₗ ℤ ×ₗ String ×ₗ ℕ :=
  toLex (.toDual row.eedWeight, toLex (row.key.yearFrom, toLex (row.key.hostname, scan row)))

/-- The open Wayback tasks in their order. -/
def queued (scan : TaskRow → ℕ) (s : Backlog) : List TaskRow :=
  (s.store.tasks.rows.filter (counts "wayback")).insertionSort fun a b => queueOrder scan a ≤ queueOrder scan b

def originOrder (o : OriginRow) : ℚ ×ₗ String ×ₗ String ×ₗ String :=
  toLex (o.firstObservedAt, toLex (o.sourceKey, toLex (o.reservoirId, o.leaseId)))

def firstOrigin (s : Backlog) (task : EvidenceQueryKey) : Option OriginRow :=
  (s.origins.rows.filter (·.task = task)).argmin originOrder

/-- A parent, with the origin of the first row that it was found in. -/
abbrev Candidate := String × Option OriginRow

abbrev parentOf (row : TaskRow) : Option String := rdapParentCandidate row.key.hostname

/-- The loop that collects candidates; it breaks when there are enough. -/
def collect (s : Backlog) (limit : Nat) : List Candidate → List TaskRow → List Candidate
  | candidates, [] => candidates
  | candidates, row :: rest =>
    match parentOf row with
    | none => collect s limit candidates rest
    | some parent =>
      if parent ∈ candidates.map Prod.fst then collect s limit candidates rest
      else if limit ≤ candidates.length + 1 then candidates ++ [(parent, firstOrigin s row.key)]
      else collect s limit (candidates ++ [(parent, firstOrigin s row.key)]) rest

def rdapKey (policyVersion parent : String) : Option EvidenceQueryKey := EvidenceBridge.makeKey parent 1996 2001 "rdap" policyVersion

/-- One turn of the loop that inserts. -/
def seed (policyVersion : String) (s : Backlog) (candidate : Candidate) : Except PyError (Nat × Backlog) :=
  match rdapKey policyVersion candidate.1 with
  | none => .error (.valueError "evidence policy_version is required")
  | some key =>
    if (s.store.tasks.get? key).isSome then .ok (0, s)
    else .ok (1, { s with
      store := insertTasks s.store [key]
      origins := match candidate.2 with
        | none => s.origins
        | some origin => s.origins.insert { origin with task := key } })

def seedAll (policyVersion : String) : Backlog → List Candidate → Except PyError (Nat × Backlog)
  | s, [] => .ok (0, s)
  | s, candidate :: rest =>
    match seed policyVersion s candidate with
    | .error err => .error err
    | .ok (inserted, s) => (seedAll policyVersion s rest).map fun (more, s) => (inserted + more, s)

/-- `backfill_rdap_tasks_from_wayback`. -/
def backfillRdapTasksFromWayback (scan : TaskRow → ℕ) (s : Backlog) (limit : Int) (policyVersion : String) : Reply Nat :=
  if limit < 1 then (.error (.valueError "limit must be positive"), s)
  else if 2 ^ 63 ≤ max (limit * 8) limit then (.error .overflowError, s)
  else
    match seedAll policyVersion s (collect s limit.toNat [] ((queued scan s).take (max (limit * 8) limit).toNat)) with
    | .error err => (.error err, s)
    | .ok (inserted, after) => (.ok inserted, after)

/-! ## What a call is for -/

/-- An open Wayback task is below a parent. -/
def Above (s : Backlog) (parent : String) (row : TaskRow) : Prop :=
  row ∈ s.store.tasks.rows ∧ counts "wayback" row = true ∧ parentOf row = some parent

def Sent (s : Backlog) (policyVersion parent : String) : Prop :=
  ∃ row ∈ s.store.tasks.rows, row.key.hostname = parent ∧ row.key.yearFrom = 1996 ∧ row.key.yearTo = 2001 ∧
    row.key.provider = "rdap" ∧ row.key.policyVersion = policyVersion

/-- A parent of an open Wayback task waits for its RDAP task. -/
def Due (s : Backlog) (policyVersion parent : String) : Prop := (∃ row, Above s parent row) ∧ ¬Sent s policyVersion parent

/-- A new row is the pending RDAP task of a parent that was due, with the first origin of a task below it. -/
def Seeded (s after : Backlog) (policyVersion : String) (row : TaskRow) : Prop :=
  row.state = .pending ∧ ∃ parent, Due s policyVersion parent ∧ rdapKey policyVersion parent = some row.key ∧
    ∃ below, Above s parent below ∧ ∀ origin, firstOrigin s below.key = some origin →
      (after.origins.get? { origin with task := row.key }.key).isSome = true

section
variable (scan : TaskRow → ℕ) (s : Backlog) (limit : Int) (policyVersion : String)

/-- When a parent is due, a call adds at least one task and at most `limit`. -/
def Progress : Prop :=
  (∃ parent, Due s policyVersion parent) → ∃ after new, backfillRdapTasksFromWayback scan s limit policyVersion =
    (.ok new.length, after) ∧ 1 ≤ new.length ∧ (new.length : Int) ≤ limit ∧
      after.store.tasks.rows = s.store.tasks.rows ++ new ∧ ∀ row ∈ new, Seeded s after policyVersion row

/-- The backlog after some calls, when nothing else moves. -/
def again (n : ℕ) : Backlog := (fun s => (backfillRdapTasksFromWayback scan s limit policyVersion).2)^[n] s

/-- Repeated calls reach every parent. -/
def Reaches : Prop := ∀ parent, Due s policyVersion parent → ∃ n, Sent (again scan s limit policyVersion n) policyVersion parent

/-- Among the first `8 * limit` rows of the queue is one below a parent, with fewer than `limit` other parents before it. -/
def InReach (parent : String) : Prop :=
  ∃ before row after, (queued scan s).take (limit * 8).toNat = before ++ row :: after ∧
    parentOf row = some parent ∧ ((before.filterMap parentOf).toFinset.card : Int) < limit

/-- The limit and the policy are such that a call does not raise. -/
def Callable : Prop := limit * 8 < 2 ^ 63 ∧ blank policyVersion = false

end

/-! ## Parents of hosts -/

/-- The last labels of a hostname are a hostname. -/
theorem official_rtake {hostname : String} (official : officialHost hostname = true) {n : Nat} (two : 2 ≤ n)
    (enough : n ≤ (labels hostname).length) : officialHost (joined ((labels hostname).rtake n)) = true := by
  obtain ⟨front, split⟩ : ∃ front, labels hostname = front ++ (labels hostname).rtake n := ⟨_, (List.take_append_drop _ _).symm⟩
  have long : ((labels hostname).rtake n).length = n := by
    rw [List.rtake, List.length_drop]
    omega
  generalize (labels hostname).rtake n = last at split long
  have some_ : last ≠ [] := List.ne_nil_of_length_pos (by omega)
  have solid : ∀ part ∈ last, '.' ∉ part := by
    intro part member
    refine Splices.splitOn_solid hostname.toList part ?_
    rw [show hostname.toList.splitOn '.' = labels hostname from rfl, split]
    exact List.mem_append_right _ member
  have cut : labels (joined last) = last := by
    rw [labels, joined, String.toList_ofList]
    exact List.splitOn_intercalate '.' solid some_
  have shorter : (joined last).length ≤ hostname.length := by
    have whole : ['.'].intercalate (labels hostname) = hostname.toList := List.intercalate_splitOn '.'
    rw [split] at whole
    rw [joined, String.length_ofList, ← String.length_toList, ← whole]
    by_cases alone : front = []
    · rw [alone, List.nil_append]
    · rw [Splices.intercalate_append alone some_, List.length_append, List.length_cons]
      omega
  simp only [officialHost, split, Bool.and_eq_true, decide_eq_true_eq] at official
  obtain ⟨⟨⟨size, -⟩, inner⟩, top⟩ := official
  rw [List.dropLast_append_of_ne_nil some_, List.all_append, Bool.and_eq_true] at inner
  rw [List.getLast?_append_of_ne_nil _ some_] at top
  simp only [officialHost, cut, Bool.and_eq_true, decide_eq_true_eq]
  exact ⟨⟨⟨shorter.trans size, by omega⟩, inner.2⟩, top⟩

/-- A hostname has no dots around it, and is in lower case. -/
theorem partsOf_official {hostname : String} (official : officialHost hostname = true) : partsOf hostname = labels hostname := by
  have chars := ResultCodec.official_chars official
  simp only [officialHost, Bool.and_eq_true, decide_eq_true_eq] at official
  obtain ⟨⟨⟨-, two⟩, inner⟩, top⟩ := official
  have first : hostname.toList.dropWhile (· = '.') = hostname.toList := by
    cases text : hostname.toList with
    | nil => rfl
    | cons c rest =>
      refine List.dropWhile_cons_of_neg fun dot => ?_
      have cut : labels hostname = [[]] ++ rest.splitOn '.' := by
        rw [labels, text, of_decide_eq_true dot]
        exact List.splitOnP_append_cons [] rest (by simp)
      rw [cut, List.dropLast_append_of_ne_nil (List.splitOn_ne_nil _ _)] at inner
      cases List.all_eq_true.mp inner [] (by simp)
  have last : hostname.toList.rdropWhile (· = '.') = hostname.toList := by
    rw [List.rdropWhile_eq_self_iff]
    intro some_ dot
    have cut : labels hostname = hostname.toList.dropLast.splitOn '.' ++ [[]] := by
      have whole := List.dropLast_append_getLast some_
      rw [of_decide_eq_true dot] at whole
      conv_lhs => rw [labels, ← whole]
      exact List.splitOnP_append_cons _ [] (by simp)
    rw [cut, List.getLast?_concat] at top
    cases top
  have lower : hostname.toList.map Char.toLower = hostname.toList := by
    refine (List.map_congr_left fun c member => ?_).trans (List.map_id _)
    have small := (ResultCodec.hostChar_ascii (chars c member)).2.1
    exact Char.toLower_eq_of_not_isUpper (by rw [small]; exact Bool.false_ne_true)
  rw [partsOf, first, last, lower, labels]

theorem parent_official {hostname parent : String} (official : officialHost hostname = true)
    (found : rdapParentCandidate hostname = some parent) : officialHost parent = true := by
  unfold rdapParentCandidate at found
  rw [partsOf_official official] at found
  dsimp only at found
  split at found
  · cases found
  rename_i long
  have two : 2 ≤ (labels hostname).length := by
    simp only [Bool.or_eq_true, decide_eq_true_eq, not_or, not_lt] at long
    exact long.1
  split at found
  · split at found
    · cases found
    · obtain rfl := Option.some.inj found
      exact official_rtake official (by omega) (by omega)
  · obtain rfl := Option.some.inj found
    exact official_rtake official le_rfl two

/-! ## Keys -/

section
variable {s : Backlog} {policyVersion parent : String} {key : EvidenceQueryKey}

theorem rdapKey_some (official : officialHost parent = true) (stated : blank policyVersion = false) :
    ∃ key, rdapKey policyVersion parent = some key := by
  rw [rdapKey, EvidenceBridge.makeKey, dif_pos (by rw [official, stated]; decide)]
  exact ⟨_, rfl⟩

theorem rdapKey_blank (unstated : blank policyVersion = true) : rdapKey policyVersion parent = none := by
  rw [rdapKey, EvidenceBridge.makeKey, dif_neg (by rw [unstated]; simp)]

theorem rdapKey_fields (made : rdapKey policyVersion parent = some key) :
    key.hostname = parent ∧ key.yearFrom = 1996 ∧ key.yearTo = 2001 ∧ key.provider = "rdap" ∧ key.policyVersion = policyVersion := by
  unfold rdapKey EvidenceBridge.makeKey at made
  split at made
  · obtain rfl := Option.some.inj made
    exact ⟨rfl, rfl, rfl, rfl, rfl⟩
  · cases made

theorem sent_iff (made : rdapKey policyVersion parent = some key) :
    Sent s policyVersion parent ↔ (s.store.tasks.get? key).isSome = true := by
  obtain ⟨hostname, yearFrom, yearTo, provider, policy⟩ := rdapKey_fields made
  rw [Option.isSome_iff_exists]
  constructor
  · rintro ⟨row, member, sameHost, sameFrom, sameTo, sameProvider, samePolicy⟩
    refine ⟨row, Table.get?_eq_some.mpr ⟨member, ?_⟩⟩
    cases h : row.key
    cases key
    simp_all
  · rintro ⟨row, found⟩
    obtain ⟨member, rfl⟩ := Table.get?_eq_some.mp found
    exact ⟨row, member, hostname, yearFrom, yearTo, provider, policy⟩

end

/-! ## Collecting -/

section
variable {s : Backlog} {limit : Nat} {candidates : List Candidate} {rows : List TaskRow}

theorem mem_collect (short : candidates.length < limit) (distinct : (candidates.map Prod.fst).Nodup) (parent : String) :
    parent ∈ (collect s limit candidates rows).map Prod.fst ↔ parent ∈ candidates.map Prod.fst ∨
      ∃ before row after, rows = before ++ row :: after ∧ parentOf row = some parent ∧
        ((candidates.map Prod.fst).toFinset ∪ (before.filterMap parentOf).toFinset).card < limit := by
  induction rows generalizing candidates with
  | nil => simp [collect]
  | cons row rest ih =>
    have size : (candidates.map Prod.fst).toFinset.card = candidates.length := by
      rw [List.toFinset_card_of_nodup distinct, List.length_map]
    -- a split of the rows is at the first of them, or behind it
    have splits : (∃ before row' after, row :: rest = before ++ row' :: after ∧ parentOf row' = some parent ∧
          ((candidates.map Prod.fst).toFinset ∪ (before.filterMap parentOf).toFinset).card < limit) ↔
        parentOf row = some parent ∨ ∃ before row' after, rest = before ++ row' :: after ∧ parentOf row' = some parent ∧
          ((candidates.map Prod.fst).toFinset ∪ ((row :: before).filterMap parentOf).toFinset).card < limit := by
      constructor
      · rintro ⟨before, row', after, split, here, room⟩
        rcases List.cons_eq_append_iff.mp split with ⟨rfl, same⟩ | ⟨before', rfl, later⟩
        · obtain ⟨rfl, rfl⟩ := List.cons.inj same
          exact .inl here
        · exact .inr ⟨before', row', after, later, here, room⟩
      · rintro (here | ⟨before, row', after, rfl, here, room⟩)
        · exact ⟨[], row, rest, rfl, here, by simpa [size] using short⟩
        · exact ⟨row :: before, row', after, rfl, here, room⟩
    rw [splits]
    unfold collect
    cases found : parentOf row with
    | none =>
      dsimp only
      rw [ih short distinct]
      simp [found]
    | some first =>
      dsimp only
      by_cases known : first ∈ candidates.map Prod.fst
      · have same (before : List TaskRow) : (candidates.map Prod.fst).toFinset ∪ ((row :: before).filterMap parentOf).toFinset =
            (candidates.map Prod.fst).toFinset ∪ (before.filterMap parentOf).toFinset := by
          rw [List.filterMap_cons_some found, List.toFinset_cons, Finset.union_insert, Finset.insert_eq_of_mem]
          exact Finset.mem_union_left _ (List.mem_toFinset.mpr known)
        simp only [same]
        rw [if_pos known, ih short distinct]
        constructor
        · exact Or.imp_right .inr
        · rintro (collected | here | later)
          · exact .inl collected
          · exact .inl (Option.some.inj here ▸ known)
          · exact .inr later
      rw [if_neg known]
      by_cases full : limit ≤ candidates.length + 1
      · -- behind the last parent there is room for no other
        have spent (before : List TaskRow) : ¬((candidates.map Prod.fst).toFinset ∪
            ((row :: before).filterMap parentOf).toFinset).card < limit := by
          have more : insert first (candidates.map Prod.fst).toFinset ⊆
              (candidates.map Prod.fst).toFinset ∪ ((row :: before).filterMap parentOf).toFinset := by
            rw [List.filterMap_cons_some found, List.toFinset_cons, Finset.union_insert]
            exact Finset.insert_subset_insert _ Finset.subset_union_left
          have grown := Finset.card_le_card more
          rw [Finset.card_insert_of_notMem (by simpa using known), size] at grown
          omega
        rw [if_pos full]
        simp only [spent, and_false, exists_false, or_false, List.map_append, List.map_cons, List.map_nil, List.mem_append,
          List.mem_singleton, Option.some.injEq, eq_comm]
      · have distinct' : ((candidates ++ [(first, firstOrigin s row.key)]).map Prod.fst).Nodup := by
          rw [List.map_append]
          exact List.nodup_append.mpr ⟨distinct, List.nodup_singleton _, by
            intro parent member other last same
            rw [same, List.mem_singleton.mp last] at member
            exact known member⟩
        rw [if_neg full, ih (by rw [List.length_append, List.length_singleton]; omega) distinct']
        simp only [List.map_append, List.map_cons, List.map_nil, List.mem_append, List.mem_singleton, List.toFinset_append,
          List.toFinset_cons, List.toFinset_nil, List.filterMap_cons_some found, Finset.union_assoc, Option.some.injEq, or_assoc,
          Finset.insert_union, Finset.empty_union, eq_comm]

theorem collect_below {candidate : Candidate} (member : candidate ∈ collect s limit candidates rows) :
    candidate ∈ candidates ∨ ∃ row ∈ rows, parentOf row = some candidate.1 ∧ candidate.2 = firstOrigin s row.key := by
  induction rows generalizing candidates with
  | nil => exact .inl member
  | cons row rest ih =>
    have later {more : List Candidate} (member : candidate ∈ collect s limit more rest) (known : candidate ∈ more → candidate ∈ candidates ∨
        parentOf row = some candidate.1 ∧ candidate.2 = firstOrigin s row.key) : candidate ∈ candidates ∨
        ∃ row' ∈ row :: rest, parentOf row' = some candidate.1 ∧ candidate.2 = firstOrigin s row'.key := by
      rcases ih member with before | ⟨row', inside, below⟩
      · exact (known before).imp_right fun below => ⟨row, List.mem_cons_self, below⟩
      · exact .inr ⟨row', List.mem_cons_of_mem _ inside, below⟩
    unfold collect at member
    cases found : parentOf row with
    | none =>
      rw [found] at member
      exact later member .inl
    | some first =>
      rw [found] at member
      dsimp only at member
      have new (inside : candidate ∈ candidates ++ [(first, firstOrigin s row.key)]) : candidate ∈ candidates ∨
          parentOf row = some candidate.1 ∧ candidate.2 = firstOrigin s row.key := by
        rcases List.mem_append.mp inside with before | last
        · exact .inl before
        · rw [List.mem_singleton.mp last]
          exact .inr ⟨found, rfl⟩
      split_ifs at member
      · exact later member .inl
      · exact (new member).imp_right fun below => ⟨row, List.mem_cons_self, below⟩
      · exact later member new

theorem collect_length (short : candidates.length < limit) : (collect s limit candidates rows).length ≤ limit := by
  induction rows generalizing candidates with
  | nil => exact short.le
  | cons row rest ih =>
    unfold collect
    cases parentOf row with
    | none => exact ih short
    | some first =>
      dsimp only
      split_ifs with known full
      · exact ih short
      · rw [List.length_append, List.length_singleton]
        exact short
      · exact ih (by rw [List.length_append, List.length_singleton]; omega)

end

/-! ## Inserting -/

/-- The rows that a loop over candidates adds. -/
structure Added (policyVersion : String) (s : Backlog) (candidates : List Candidate) (after : Backlog) (new : List TaskRow) : Prop where
  few : new.length ≤ candidates.length
  rows : after.store.tasks.rows = s.store.tasks.rows ++ new
  origins : ∀ k, (s.origins.get? k).isSome = true → (after.origins.get? k).isSome = true
  sent : ∀ candidate ∈ candidates, Sent after policyVersion candidate.1
  each : ∀ row ∈ new, row.state = .pending ∧ ∃ candidate ∈ candidates, rdapKey policyVersion candidate.1 = some row.key ∧
    ¬Sent s policyVersion candidate.1 ∧ ∀ origin, candidate.2 = some origin →
      (after.origins.get? { origin with task := row.key }.key).isSome = true

section
variable {policyVersion : String} {s after : Backlog} {new : List TaskRow}

theorem Sent.later (rows : after.store.tasks.rows = s.store.tasks.rows ++ new) {parent : String} (sent : Sent s policyVersion parent) :
    Sent after policyVersion parent := by
  obtain ⟨row, member, fields⟩ := sent
  exact ⟨row, rows ▸ List.mem_append_left _ member, fields⟩

/-- One turn of the loop. -/
theorem seed_adds {candidate : Candidate} {key : EvidenceQueryKey} (made : rdapKey policyVersion candidate.1 = some key) (s : Backlog) :
    ∃ new after, seed policyVersion s candidate = .ok (new.length, after) ∧ Added policyVersion s [candidate] after new := by
  unfold seed
  rw [made]
  dsimp only
  cases known : s.store.tasks.get? key with
  | some row =>
    have sent : Sent s policyVersion candidate.1 := (sent_iff made).mpr (by rw [known]; rfl)
    exact ⟨[], s, rfl, Nat.zero_le _, (List.append_nil _).symm, fun _ => id, by simpa using sent,
      fun row none_ => absurd none_ List.not_mem_nil⟩
  | none =>
    have grown : (insertTasks s.store [key]).tasks.rows = s.store.tasks.rows ++ [freshRow s.store key] := Table.rows_insert known
    have unsent : ¬Sent s policyVersion candidate.1 := by simp [sent_iff made, known]
    refine ⟨[freshRow s.store key], _, rfl, le_rfl, grown, fun k before => ?_, ?_, ?_⟩
    · cases candidate.2 with
      | none => exact before
      | some origin =>
        show ((s.origins.insert _).get? k).isSome = true
        rw [Table.get?_insert_or, Option.isSome_or, before]
        rfl
    · intro c member
      rw [List.mem_singleton.mp member, sent_iff made]
      have added : freshRow s.store key ∈ (insertTasks s.store [key]).tasks.rows := by simp [grown]
      exact Option.isSome_of_eq_some (Table.get?_eq_some.mpr ⟨added, rfl⟩)
    · intro row member
      obtain rfl := List.mem_singleton.mp member
      refine ⟨rfl, candidate, List.mem_singleton_self _, made, unsent, fun origin first => ?_⟩
      rw [first]
      show ((s.origins.insert _).get? _).isSome = true
      rw [Table.get?_insert_or, if_pos (by rfl)]
      simp

theorem seedAll_adds {candidates : List Candidate} (keys : ∀ candidate ∈ candidates, ∃ key, rdapKey policyVersion candidate.1 = some key)
    (s : Backlog) : ∃ new after, seedAll policyVersion s candidates = .ok (new.length, after) ∧ Added policyVersion s candidates after new := by
  induction candidates generalizing s with
  | nil =>
    exact ⟨[], s, rfl, le_rfl, (List.append_nil _).symm, fun _ => id, fun c none_ => absurd none_ List.not_mem_nil,
      fun row none_ => absurd none_ List.not_mem_nil⟩
  | cons candidate rest ih =>
    obtain ⟨key, made⟩ := keys candidate List.mem_cons_self
    obtain ⟨first, middle, seeded, a⟩ := seed_adds made s
    obtain ⟨later, after, run, b⟩ := ih (fun c member => keys c (List.mem_cons_of_mem _ member)) middle
    refine ⟨first ++ later, after, ?_, ?_, by rw [b.rows, a.rows, List.append_assoc], fun k before => b.origins k (a.origins k before), ?_, ?_⟩
    · unfold seedAll
      rw [seeded]
      dsimp only
      rw [run, List.length_append]
      rfl
    · have := a.few
      have := b.few
      simp only [List.length_append, List.length_cons, List.length_nil] at *
      omega
    · intro c member
      rcases List.mem_cons.mp member with rfl | member
      · exact (a.sent c (List.mem_singleton_self _)).later b.rows
      · exact b.sent c member
    · intro row member
      rcases List.mem_append.mp member with member | member
      · obtain ⟨state, c, listed, key, unsent, origins⟩ := a.each row member
        obtain rfl := List.mem_singleton.mp listed
        exact ⟨state, c, List.mem_cons_self, key, unsent, fun origin first => b.origins _ (origins origin first)⟩
      · obtain ⟨state, c, listed, key, unsent, origins⟩ := b.each row member
        exact ⟨state, c, List.mem_cons_of_mem _ listed, key, fun sent => unsent (sent.later a.rows), origins⟩

end

/-! ## One call -/

section
variable {scan : TaskRow → ℕ} {s : Backlog} {limit : Int} {policyVersion : String}

def candidates (scan : TaskRow → ℕ) (s : Backlog) (limit : Int) : List Candidate :=
  collect s limit.toNat [] ((queued scan s).take (limit * 8).toNat)

theorem mem_queued {row : TaskRow} : row ∈ queued scan s ↔ row ∈ s.store.tasks.rows ∧ counts "wayback" row = true := by
  rw [queued, List.mem_insertionSort, List.mem_filter]

theorem mem_candidates (positive : 1 ≤ limit) (parent : String) :
    parent ∈ (candidates scan s limit).map Prod.fst ↔ InReach scan s limit parent := by
  have room : ([] : List Candidate).length < limit.toNat := by
    rw [List.length_nil]
    omega
  rw [candidates, mem_collect room List.nodup_nil]
  simp only [List.map_nil, List.not_mem_nil, false_or, List.toFinset_nil, Finset.empty_union, InReach, Int.lt_toNat]

theorem candidate_above {candidate : Candidate} (member : candidate ∈ candidates scan s limit) :
    ∃ row, Above s candidate.1 row ∧ candidate.2 = firstOrigin s row.key := by
  rcases collect_below member with none_ | ⟨row, inside, found, origin⟩
  · cases none_
  · obtain ⟨stored, open_⟩ := mem_queued.mp (List.mem_of_mem_take inside)
    exact ⟨row, ⟨stored, open_, found⟩, origin⟩

theorem above_official {parent : String} {row : TaskRow} (above : Above s parent row) : officialHost parent = true := by
  have valid := row.key.valid
  simp only [Bool.and_eq_true] at valid
  exact parent_official valid.1.1.1 above.2.2

theorem call_adds (positive : 1 ≤ limit) (callable : Callable limit policyVersion) : ∃ new after,
    backfillRdapTasksFromWayback scan s limit policyVersion = (.ok new.length, after) ∧
      Added policyVersion s (candidates scan s limit) after new := by
  obtain ⟨narrow, stated⟩ := callable
  have keys : ∀ candidate ∈ candidates scan s limit, ∃ key, rdapKey policyVersion candidate.1 = some key := by
    intro candidate member
    obtain ⟨row, above, -⟩ := candidate_above member
    exact rdapKey_some (above_official above) stated
  obtain ⟨new, after, run, added⟩ := seedAll_adds keys s
  refine ⟨new, after, ?_, added⟩
  unfold backfillRdapTasksFromWayback
  rw [if_neg (by omega), max_eq_left (by omega), if_neg (by omega)]
  rw [show collect s limit.toNat [] ((queued scan s).take (limit * 8).toNat) = candidates scan s limit from rfl, run]

theorem call_refused (positive : 1 ≤ limit) (refused : ¬Callable limit policyVersion) :
    (backfillRdapTasksFromWayback scan s limit policyVersion).2 = s ∧
      ∀ n after, backfillRdapTasksFromWayback scan s limit policyVersion = (.ok n, after) → n = 0 := by
  unfold backfillRdapTasksFromWayback
  rw [if_neg (by omega), max_eq_left (by omega)]
  by_cases wide : 2 ^ 63 ≤ limit * 8
  · rw [if_pos wide]
    exact ⟨rfl, fun n after run => by cases congrArg Prod.fst run⟩
  rw [if_neg wide]
  have unstated : blank policyVersion = true := by
    by_contra stated
    exact refused ⟨by omega, by simpa using stated⟩
  cases collect s limit.toNat [] ((queued scan s).take (limit * 8).toNat) with
  | nil => exact ⟨rfl, fun n after run => (Except.ok.inj (congrArg Prod.fst run)).symm⟩
  | cons candidate rest =>
    have raises : seedAll policyVersion s (candidate :: rest) = .error (.valueError "evidence policy_version is required") := by
      unfold seedAll seed
      rw [rdapKey_blank unstated]
    rw [raises]
    exact ⟨rfl, fun n after run => by cases congrArg Prod.fst run⟩

theorem queued_after (positive : 1 ≤ limit) : queued scan (backfillRdapTasksFromWayback scan s limit policyVersion).2 = queued scan s := by
  by_cases callable : Callable limit policyVersion
  · obtain ⟨new, after, run, added⟩ := @call_adds scan s limit policyVersion positive callable
    have none_ : new.filter (counts "wayback") = [] := by
      refine List.filter_eq_nil_iff.mpr fun row member => ?_
      obtain ⟨-, candidate, -, made, -⟩ := added.each row member
      simp [counts, (rdapKey_fields made).2.2.2.1]
    rw [run, queued, added.rows, List.filter_append, none_, List.append_nil]
    rfl
  · rw [(call_refused positive callable).1]

/-- A call sends the parents in its reach. -/
theorem sent_after (positive : 1 ≤ limit) (parent : String) :
    Sent (backfillRdapTasksFromWayback scan s limit policyVersion).2 policyVersion parent ↔
      Sent s policyVersion parent ∨ Callable limit policyVersion ∧ InReach scan s limit parent := by
  by_cases callable : Callable limit policyVersion
  · obtain ⟨new, after, run, added⟩ := @call_adds scan s limit policyVersion positive callable
    rw [run]
    constructor
    · rintro ⟨row, member, host, fields⟩
      rcases List.mem_append.mp (added.rows ▸ member) with before | inside
      · exact .inl ⟨row, before, host, fields⟩
      · obtain ⟨-, candidate, listed, made, -⟩ := added.each row inside
        refine .inr ⟨callable, (mem_candidates positive _).mp (List.mem_map.mpr ⟨candidate, listed, ?_⟩)⟩
        rw [← host, (rdapKey_fields made).1]
    · rintro (before | ⟨-, reached⟩)
      · exact before.later added.rows
      · obtain ⟨candidate, listed, rfl⟩ := List.mem_map.mp ((mem_candidates positive _).mpr reached)
        exact added.sent candidate listed
  · simp [(call_refused positive callable).1, callable]

/-! ## All calls -/

theorem again_succ (n : ℕ) : again scan s limit policyVersion (n + 1) =
    (backfillRdapTasksFromWayback scan (again scan s limit policyVersion n) limit policyVersion).2 := Function.iterate_succ_apply' _ _ _

theorem queued_again (positive : 1 ≤ limit) (n : ℕ) : queued scan (again scan s limit policyVersion n) = queued scan s := by
  induction n with
  | zero => rfl
  | succ n ih => rw [again_succ, queued_after positive, ih]

/-- What is out of reach stays out of reach. -/
theorem sent_again (positive : 1 ≤ limit) {n : ℕ} {parent : String} (sent : Sent (again scan s limit policyVersion n) policyVersion parent) :
    Sent s policyVersion parent ∨ Callable limit policyVersion ∧ InReach scan s limit parent := by
  induction n with
  | zero => exact .inl sent
  | succ n ih =>
    rw [again_succ, sent_after positive] at sent
    rcases sent with before | ⟨callable, reached⟩
    · exact ih before
    · rw [InReach, queued_again positive] at reached
      exact .inr ⟨callable, reached⟩

end

/-- A call progresses exactly when some due parent is in reach, and repeated calls reach every parent exactly when all
    due parents are. -/
theorem progress_iff (scan : TaskRow → ℕ) (s : Backlog) {limit : Int} (positive : 1 ≤ limit) (policyVersion : String) :
    (Progress scan s limit policyVersion ↔ ((∃ parent, Due s policyVersion parent) →
        Callable limit policyVersion ∧ ∃ parent, Due s policyVersion parent ∧ InReach scan s limit parent)) ∧
      (Reaches scan s limit policyVersion ↔ ∀ parent, Due s policyVersion parent →
        Callable limit policyVersion ∧ InReach scan s limit parent) := by
  constructor
  · refine forall_congr' fun due => ?_
    constructor
    · rintro ⟨after, new, run, some_, -, rows, each⟩
      have callable : Callable limit policyVersion := by
        by_contra refused
        have := (call_refused positive refused).2 _ _ run
        omega
      obtain ⟨new', after', run', added⟩ := @call_adds scan s limit policyVersion positive callable
      obtain ⟨-, rfl⟩ := Prod.mk.inj (run.symm.trans run')
      obtain rfl : new = new' := List.append_cancel_left (rows.symm.trans added.rows)
      obtain ⟨row, member⟩ := List.exists_mem_of_length_pos some_
      obtain ⟨-, candidate, listed, -, unsent, -⟩ := added.each row member
      obtain ⟨below, above, -⟩ := candidate_above listed
      exact ⟨callable, candidate.1, ⟨⟨below, above⟩, unsent⟩, (mem_candidates positive _).mp (List.mem_map_of_mem listed)⟩
    · rintro ⟨callable, parent, ⟨-, unsent⟩, reached⟩
      obtain ⟨new, after, run, added⟩ := @call_adds scan s limit policyVersion positive callable
      obtain ⟨candidate, listed, rfl⟩ := List.mem_map.mp ((mem_candidates positive _).mpr reached)
      refine ⟨after, new, run, ?_, ?_, added.rows, fun row member => ?_⟩
      · -- the due parent has its task in a new row
        obtain ⟨row, member, fields⟩ := added.sent candidate listed
        rcases List.mem_append.mp (added.rows ▸ member) with before | inside
        · exact absurd ⟨row, before, fields⟩ unsent
        · exact List.length_pos_of_mem inside
      · have few := added.few
        have most : (candidates scan s limit).length ≤ limit.toNat := collect_length (by simp; omega)
        omega
      · obtain ⟨state, candidate, listed, made, unsent, origins⟩ := added.each row member
        obtain ⟨below, above, first⟩ := candidate_above listed
        exact ⟨state, candidate.1, ⟨⟨below, above⟩, unsent⟩, made, below, above, fun origin isFirst => origins origin (first.trans isFirst)⟩
  · refine forall_congr' fun parent => forall_congr' fun due => ?_
    constructor
    · rintro ⟨n, sent⟩
      exact (sent_again positive sent).resolve_left due.2
    · intro reached
      exact ⟨1, (sent_after positive parent).mpr (.inr reached)⟩

/-- Eight rows below a parent that has its task stand before the first row below another parent. -/
def blockedQueue : Backlog where
  store := insertTasks ⟨.empty, .empty, .empty, false, .empty, .fin 300⟩ ((rdapKey "rdap-registration-v1" "used.com").toList ++
    ["a.used.com", "b.used.com", "c.used.com", "d.used.com", "e.used.com", "f.used.com", "g.used.com", "h.used.com",
      "www.fresh.org"].filterMap (EvidenceBridge.makeKey · 1996 1996 "wayback" "cdx-v1"))
  origins := .empty
  reservations := .empty

theorem fresh_due : Due blockedQueue "rdap-registration-v1" "fresh.org" := by
  have listed : ∃ row ∈ blockedQueue.store.tasks.rows, counts "wayback" row = true ∧ parentOf row = some "fresh.org" := by
    decide +kernel
  have unsent : ¬Sent blockedQueue "rdap-registration-v1" "fresh.org" := by
    unfold Sent
    decide +kernel
  generalize blockedQueue = s at listed unsent ⊢
  exact ⟨listed, unsent⟩

theorem two_parents_progress : Progress (fun _ => 0) blockedQueue 2 "rdap-registration-v1" := by
  have ninth : ∃ row ∈ blockedQueue.store.tasks.rows, (queued (fun _ => 0) blockedQueue).take 16 =
      (queued (fun _ => 0) blockedQueue).take 8 ++ row :: [] ∧ parentOf row = some "fresh.org" := by
    decide +kernel
  have alone : (((queued (fun _ => 0) blockedQueue).take 8).filterMap parentOf).toFinset.card < (2 : Int) := by decide +kernel
  have callable : Callable 2 "rdap-registration-v1" := ⟨by decide, by decide +kernel⟩
  have due := fresh_due
  generalize blockedQueue = s at ninth alone due ⊢
  obtain ⟨row, -, split, found⟩ := ninth
  exact (progress_iff (fun _ => 0) s (by decide) "rdap-registration-v1").1.mpr fun _ =>
    ⟨callable, "fresh.org", due, _, row, [], split, found, alone⟩

theorem hidden_parent : ¬Progress (fun _ => 0) blockedQueue 1 "rdap-registration-v1" := by
  have answer : (backfillRdapTasksFromWayback (fun _ => 0) blockedQueue 1 "rdap-registration-v1").1.toOption = some 0 := by
    decide +kernel
  have due := fresh_due
  generalize blockedQueue = s at answer due ⊢
  intro progress
  obtain ⟨after, new, run, some_, -⟩ := progress ⟨"fresh.org", due⟩
  rw [run] at answer
  have none_ : new.length = 0 := Option.some.inj answer
  omega

end Creeper.RdapBackfill
