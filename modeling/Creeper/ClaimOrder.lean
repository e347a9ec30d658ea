import Mathlib.Data.Prod.Lex
import Creeper.LeaseInvariant
import Creeper.DigestNumbers

/-!
# The order of claims

`claim_work` sorts the claimable rows, keeps the first 128 of them, and grants the
first of these that fits the worker. The row that it grants is the first in order
of all that fit. A row that fits is passed over when the first 128 claimable rows
all fit other workers.
-/

namespace Creeper.ClaimOrder
open Creeper.Runs Creeper.Tables Creeper.PyNumbers Creeper.FabricModels Creeper.AuthorityStore Creeper.LeaseInvariant
open Creeper.PyText Creeper.JsonText Creeper.Hashing Creeper.DigestNumbers

/-! ## Sorted lists -/

section
variable {Row : Type*} {r : Row → Row → Prop}

/-- The first row of a kind among the first rows of a sorted list is before every row of that kind. -/
theorem find_take_first {rows : List Row} (sorted : rows.Pairwise r) {kind : Row → Bool} {limit : Nat} {first : Row}
    (found : (rows.take limit).find? kind = some first) {row : Row} (member : row ∈ rows) (isKind : kind row = true) :
    row = first ∨ r first row := by
  obtain ⟨-, before, after, split, others⟩ := List.find?_eq_some_iff_append.mp found
  have parts : rows = before ++ first :: (after ++ rows.drop limit) := by
    conv_lhs => rw [← List.take_append_drop limit rows, split]
    simp
  rw [parts] at member sorted
  rcases List.mem_append.mp member with earlier | later
  · have other := others row earlier
    simp [isKind] at other
  · rcases List.mem_cons.mp later with same | rest
    · exact .inl same
    · exact .inr (List.rel_of_pairwise_cons (List.pairwise_append.mp sorted).2.1 rest)

end

/-! ## The rank of a row -/

/-- The value of a number that is finite. -/
def value : PyFloat → ℚ
  | .fin q => q
  | _ => 0

/-- Rows in the order of claims: priority from high to low, then age, then the order in
    which the database meets them. -/
def rank (scan : String → Nat) (row : WorkRow) : ℚ ×ₗ ℚ ×ₗ ℕ :=
  toLex (-value row.fields.priority, toLex (row.createdAt, scan row.taskId))

/-- One row has a higher priority than another, or the same one and is older. -/
def Preferred (a b : WorkRow) : Prop :=
  b.fields.priority.lt a.fields.priority = true ∨
    a.fields.priority.lt b.fields.priority = false ∧ a.createdAt < b.createdAt

theorem priority_finite {row : WorkRow} (shape : RowShape row) : ∃ q, row.fields.priority = .fin q := by
  have valid := shape.definition (.fin 0) rfl (by simp)
  unfold WorkFields.postInit at valid
  split_ifs at valid with text version capabilities providers attempts priority waits
  revert priority
  cases row.fields.priority <;> simp [PyFloat.isFinite]

theorem inOrder_iff {a b : WorkRow} (aShape : RowShape a) (bShape : RowShape b) (scan : String → Nat) :
    (b.fields.priority.lt a.fields.priority ||
      !a.fields.priority.lt b.fields.priority && thenBy a.createdAt b.createdAt (scan a.taskId ≤ scan b.taskId)) = true ↔
      rank scan a ≤ rank scan b := by
  obtain ⟨p, isP⟩ := priority_finite aShape
  obtain ⟨q, isQ⟩ := priority_finite bShape
  simp only [rank, isP, isQ, value, Prod.Lex.toLex_le_toLex, PyFloat.lt_fin, thenBy, Bool.or_eq_true, Bool.and_eq_true,
    Bool.not_eq_true', decide_eq_true_eq, decide_eq_false_iff_not, not_lt, neg_lt_neg_iff, neg_inj]
  constructor
  · rintro (above | ⟨notBelow, older⟩)
    · exact .inl above
    · rcases notBelow.lt_or_eq with above | same
      · exact .inl above
      · exact .inr ⟨same.symm, older⟩
  · rintro (above | ⟨rfl, older⟩)
    · exact .inl above
    · exact .inr ⟨le_refl _, older⟩

theorem Preferred.rank_lt {a b : WorkRow} (preferred : Preferred a b) (aShape : RowShape a) (bShape : RowShape b)
    (scan : String → Nat) : rank scan a < rank scan b := by
  obtain ⟨p, isP⟩ := priority_finite aShape
  obtain ⟨q, isQ⟩ := priority_finite bShape
  rw [Preferred, isP, isQ] at preferred
  simp only [PyFloat.lt_fin, decide_eq_true_eq, decide_eq_false_iff_not, not_lt] at preferred
  rw [rank, rank, isP, isQ, Prod.Lex.toLex_lt_toLex, Prod.Lex.toLex_lt_toLex]
  simp only [value, neg_lt_neg_iff, neg_inj]
  rcases preferred with above | ⟨notBelow, older⟩
  · exact .inl above
  · rcases notBelow.lt_or_eq with above | same
    · exact .inl above
    · exact .inr ⟨same.symm, .inl older⟩

/-! ## What a claim grants -/

/-- The row can be granted to the worker. -/
def Fits (s : Store) (now : ℚ) (worker : WorkerRow) (row : WorkRow) : Prop :=
  claimable row now = true ∧ eligible row worker = true ∧ regionEligible s row worker now = true

/-- The claim grants a row whenever one fits, and it grants the first in order. -/
structure Conserving (s : Store) (now : ℚ) (scan : String → Nat) (worker : WorkerRow) (w i : String)
    (leaseSeconds : PyFloat) : Prop where
  grants : (∃ row ∈ s.work.rows, Fits s now worker row) →
    ∃ lease, (claimWork s now scan w i leaseSeconds).1 = .ok (some lease)
  first : ∀ lease, (claimWork s now scan w i leaseSeconds).1 = .ok (some lease) →
    ∃ row ∈ s.work.rows, row.taskId = lease.taskId ∧ Fits s now worker row ∧
      ∀ other ∈ s.work.rows, Fits s now worker other → ¬Preferred other row

/-- No row fits, or one of the first 128 claimable rows does. -/
def Uncrowded (s : Store) (now : ℚ) (scan : String → Nat) (worker : WorkerRow) : Prop :=
  (∃ row ∈ s.work.rows, Fits s now worker row) → ∃ row ∈ candidates s now scan, Fits s now worker row

section
variable {s : Store} {now : ℚ} {scan : String → Nat}

/-- The claimable rows, all of them, in the order of their ranks. -/
theorem candidates_eq (shaped : Shaped s) :
    candidates s now scan =
      ((s.work.rows.filter (claimable · now)).insertionSort (fun a b => rank scan a ≤ rank scan b)).take 128 := by
  unfold candidates selectOrdered
  congr 1
  have same := List.map_insertionSort (r := fun a b : WorkRow => (b.fields.priority.lt a.fields.priority ||
      !a.fields.priority.lt b.fields.priority && thenBy a.createdAt b.createdAt (scan a.taskId ≤ scan b.taskId)) = true)
    (s := fun a b => rank scan a ≤ rank scan b) id (s.work.rows.filter (claimable · now)) (fun a first b second =>
      inOrder_iff (shaped a (List.mem_of_mem_filter first)) (shaped b (List.mem_of_mem_filter second)) scan)
  simpa using same

theorem claim_eq {worker : WorkerRow} {w i : String} {leaseSeconds : PyFloat} (positive : leaseSeconds.le (.fin 0) = false)
    (registered : workerRow s w i = .ok worker) (idle : activeLease s w i now = none) :
    (claimWork s now scan w i leaseSeconds).1 =
      match (candidates s now scan).find? (fun row => eligible row worker && regionEligible s row worker now) with
      | none => .ok none
      | some chosen => some <$> leaseOf chosen w i (chosen.leaseGeneration + 1) ((PyFloat.fin now).add leaseSeconds)
          (chosen.attempt + 1) := by
  unfold claimWork
  rw [if_neg (by simp [positive])]
  simp only [registered, idle]
  cases (candidates s now scan).find? (fun row => eligible row worker && regionEligible s row worker now) <;> rfl

theorem lease_built (shaped : Shaped s) {row : WorkRow} (member : row ∈ s.work.rows) (open_ : claimable row now = true)
    (w i : String) (deadline : PyFloat) :
    ∃ lease, leaseOf row w i (row.leaseGeneration + 1) deadline (row.attempt + 1) = .ok lease ∧
      lease.taskId = row.taskId := by
  have shape := shaped row member
  simp only [claimable, Bool.and_eq_true, decide_eq_true_eq] at open_
  exact ⟨_, leaseOf_ok shape (isFinite_of_le open_.1.2 shape.waits.2) ⟨by omega, by omega⟩ w i deadline, rfl⟩

theorem granted_first (shaped : Shaped s) {worker : WorkerRow} {chosen : WorkRow}
    (found : (candidates s now scan).find? (fun row => eligible row worker && regionEligible s row worker now) = some chosen) :
    chosen ∈ s.work.rows ∧ Fits s now worker chosen ∧
      ∀ other ∈ s.work.rows, Fits s now worker other → ¬Preferred other chosen := by
  have fits := List.find?_some found
  rw [Bool.and_eq_true] at fits
  rw [candidates_eq shaped] at found
  have listed := List.mem_of_mem_take (List.mem_of_find?_eq_some found)
  obtain ⟨stored, open_⟩ := List.mem_filter.mp ((List.mem_insertionSort _).mp listed)
  refine ⟨stored, ⟨open_, fits⟩, fun other member fits' preferred => ?_⟩
  have sorted := List.pairwise_insertionSort (fun a b => rank scan a ≤ rank scan b) (s.work.rows.filter (claimable · now))
  have inList : other ∈ (s.work.rows.filter (claimable · now)).insertionSort (fun a b => rank scan a ≤ rank scan b) :=
    (List.mem_insertionSort _).mpr (List.mem_filter.mpr ⟨member, fits'.1⟩)
  have below := preferred.rank_lt (shaped other member) (shaped chosen stored) scan
  rcases find_take_first sorted found inList (by simp [fits'.2.1, fits'.2.2]) with rfl | le
  · exact absurd below (lt_irrefl _)
  · exact absurd below (not_lt.mpr le)

/-- A claim conserves work exactly when the first 128 claimable rows hold one that fits, if any does. -/
theorem conserving_iff_uncrowded (shaped : Shaped s) {worker : WorkerRow} {w i : String} {leaseSeconds : PyFloat}
    (positive : leaseSeconds.le (.fin 0) = false) (registered : workerRow s w i = .ok worker)
    (idle : activeLease s w i now = none) :
    Conserving s now scan worker w i leaseSeconds ↔ Uncrowded s now scan worker := by
  have answer := @claim_eq s now scan worker w i leaseSeconds positive registered idle
  cases found : (candidates s now scan).find? (fun row => eligible row worker && regionEligible s row worker now) with
  | none =>
    have unfit := List.find?_eq_none.mp found
    have nothing : ¬∃ row ∈ candidates s now scan, Fits s now worker row := by
      rintro ⟨row, listed, fits⟩
      exact unfit row listed (by simp [fits.2.1, fits.2.2])
    simp only [found] at answer
    constructor
    · intro conserving exists_
      obtain ⟨lease, granted⟩ := conserving.grants exists_
      rw [answer] at granted
      cases granted
    · intro uncrowded
      refine ⟨fun exists_ => absurd (uncrowded exists_) nothing, fun lease granted => ?_⟩
      rw [answer] at granted
      cases granted
  | some chosen =>
    obtain ⟨stored, fits, best⟩ := granted_first shaped found
    obtain ⟨lease, built, sameTask⟩ := lease_built shaped stored fits.1 w i ((PyFloat.fin now).add leaseSeconds)
    simp only [found, built] at answer
    constructor
    · exact fun _ _ => ⟨chosen, List.mem_of_find?_eq_some found, fits⟩
    · intro _
      refine ⟨fun _ => ⟨lease, answer⟩, fun other granted => ?_⟩
      rw [answer] at granted
      cases granted
      exact ⟨chosen, stored, sameTask.symm, fits, best⟩

end

/-- A row behind 128 claimable rows of a higher preference is no candidate. -/
theorem crowded_out {s : Store} (shaped : Shaped s) {now : ℚ} {scan : String → Nat} {row : WorkRow} {ahead : List WorkRow}
    (distinct : ahead.Nodup) (many : 128 ≤ ahead.length)
    (first : ∀ other ∈ ahead, other ∈ s.work.rows ∧ claimable other now = true ∧ Preferred other row) :
    row ∉ candidates s now scan := by
  intro listed
  rw [candidates_eq shaped] at listed
  have stored := List.mem_filter.mp ((List.mem_insertionSort _).mp (List.mem_of_mem_take listed))
  have sorted := List.pairwise_insertionSort (fun a b => rank scan a ≤ rank scan b) (s.work.rows.filter (claimable · now))
  generalize isSorted : (s.work.rows.filter (claimable · now)).insertionSort (fun a b => rank scan a ≤ rank scan b) = rows
    at listed sorted
  obtain ⟨before, after, split⟩ := List.append_of_mem listed
  -- Every row that is ahead stands before the row in the sorted list.
  have early : ahead ⊆ before := by
    intro other member
    obtain ⟨otherStored, open_, preferred⟩ := first other member
    have below := preferred.rank_lt (shaped other otherStored) (shaped row stored.1) scan
    have inRows : other ∈ rows := by
      rw [← isSorted]
      exact (List.mem_insertionSort _).mpr (List.mem_filter.mpr ⟨otherStored, open_⟩)
    rw [← List.take_append_drop 128 rows, split, List.append_assoc, List.cons_append] at inRows sorted
    rcases List.mem_append.mp inRows with isBefore | later
    · exact isBefore
    · rcases List.mem_cons.mp later with rfl | rest
      · exact absurd below (lt_irrefl _)
      · exact absurd below (not_lt.mpr (List.rel_of_pairwise_cons (List.pairwise_append.mp sorted).2.1 rest))
  have fewer := (distinct.subperm early).length_le
  have length : before.length + (after.length + 1) ≤ 128 := by
    have cut := congrArg List.length split
    rw [List.length_append, List.length_cons] at cut
    rw [← cut]
    exact List.length_take_le _ _
  omega

/-- In every reachable state, a claim of a registered worker without an unexpired lease
    conserves work exactly when the queue is not crowded for it. -/
theorem claim_conserving_iff (es : List Event) (now : ℚ) (scan : String → Nat) (worker : WorkerRow) (w i : String)
    (leaseSeconds : PyFloat) (positive : leaseSeconds.le (.fin 0) = false)
    (registered : workerRow (authority.final es) w i = .ok worker)
    (free : ∀ row ∈ (authority.final es).work.rows, ∀ generation, ¬Holds row now w i generation) :
    Conserving (authority.final es) now scan worker w i leaseSeconds ↔ Uncrowded (authority.final es) now scan worker := by
  refine conserving_iff_uncrowded (shaped_final es) positive registered ?_
  cases active : activeLease (authority.final es) w i now with
  | none => rfl
  | some row =>
    obtain ⟨member, holds⟩ := activeLease_some active
    exact absurd holds (free row member _)

/-- A worker and work that fits it. -/
def quietQueue : List Event := [
  ⟨0, .registerWorker (plainWorker "w" "i" worker_named), zero_sinceEpoch⟩, ⟨0, .admitWork "t" (plainWork 5 five_tries), zero_sinceEpoch⟩]

/-- The row of the worker `w`. -/
def plainRow : WorkerRow := ⟨(plainWorker "w" "i" worker_named).toWorkerFields, 0, false⟩

theorem quiet_conserving : Conserving (authority.final quietQueue) 1 (fun _ => 0) plainRow "w" "i" (.fin 300) ↔
    Uncrowded (authority.final quietQueue) 1 (fun _ => 0) plainRow := by
  refine claim_conserving_iff quietQueue 1 (fun _ => 0) plainRow "w" "i" (.fin 300) (by decide) rfl ?_
  intro row member generation holds
  have waiting : ∀ row ∈ (authority.final quietQueue).work.rows, row.state = .pending := by decide +kernel
  have leased := holds.leased
  rw [waiting row member] at leased
  cases leased

/-! ## A crowded queue -/

/-- A row as `admit_work` writes it. -/
abbrev queuedRow (now : ℚ) (taskId key : String) (work : WorkDefinition) : WorkRow where
  taskId := taskId
  workKey := key
  fields := work.toWorkFields
  state := .pending
  leaseOwner := none
  leaseOwnerInstance := none
  leaseGeneration := 0
  leaseDeadline := none
  attempt := 0
  cursor := none
  nextSequenceNo := 0
  lastError := none
  createdAt := now
  updatedAt := now

theorem admit_fresh {s : Store} {now : ℚ} {taskId key : String} {work : WorkDefinition}
    (isKey : workKey work.toWorkFields = .ok key)
    (fresh : ∀ row ∈ s.work.rows, row.taskId ≠ taskId ∧ row.workKey ≠ key) :
    (admitWork s now taskId work).2.work.rows = s.work.rows ++ [queuedRow now taskId key work] ∧
      (admitWork s now taskId work).2.workers = s.workers := by
  have unknown : s.work.rows.any (fun r => r.taskId = taskId || r.workKey = key) = false := by
    simpa using fresh
  have absent : s.work.get? taskId = none := Table.get?_eq_none.mpr fun row member => (fresh row member).1
  unfold admitWork
  simp only [isKey, unknown, Bool.false_eq_true, if_false]
  refine ⟨?_, trivial⟩
  exact Table.rows_insert (t := s.work) (r := queuedRow now taskId key work) absent

theorem admitted_rows (before : List Event) (nothing : (authority.final before).work.rows = []) {ids keys : Nat → String}
    {works : Nat → WorkDefinition} (n : Nat) (isKey : ∀ i < n, workKey (works i).toWorkFields = .ok (keys i))
    (idsDistinct : ((List.range n).map ids).Nodup) (keysDistinct : ((List.range n).map keys).Nodup) :
    (authority.final (before ++ (List.range n).map (fun i => ⟨0, .admitWork (ids i) (works i), le_refl 0⟩))).work.rows =
        (List.range n).map (fun i => queuedRow 0 (ids i) (keys i) (works i)) ∧
      (authority.final (before ++ (List.range n).map (fun i => ⟨0, .admitWork (ids i) (works i), le_refl 0⟩))).workers =
        (authority.final before).workers := by
  induction n with
  | zero => simp [nothing]
  | succ n ih =>
    rw [List.range_succ, List.map_append, List.nodup_append] at idsDistinct keysDistinct
    obtain ⟨rows, workers⟩ := ih (fun i below => isKey i (by omega)) idsDistinct.1 keysDistinct.1
    rw [List.range_succ, List.map_append, List.map_append, ← List.append_assoc, List.map_singleton, List.map_singleton,
      Machine.final_snoc, ← rows, ← workers]
    generalize authority.final (before ++ (List.range n).map
      (fun i => (⟨0, .admitWork (ids i) (works i), le_refl 0⟩ : Event))) = s at rows
    have fresh : ∀ row ∈ s.work.rows, row.taskId ≠ ids n ∧ row.workKey ≠ keys n := by
      intro row member
      rw [rows] at member
      obtain ⟨i, below, rfl⟩ := List.mem_map.mp member
      exact ⟨idsDistinct.2.2 _ (List.mem_map_of_mem below) _ (by simp),
        keysDistinct.2.2 _ (List.mem_map_of_mem below) _ (by simp)⟩
    obtain ⟨appended, same⟩ := @admit_fresh _ 0 _ _ _ (isKey n (by omega)) fresh
    exact ⟨by simpa [authority, step, Answer.reply] using appended, by simpa [authority, step, Answer.reply] using same⟩

/-- Work that a worker without a GPU cannot do, of a higher priority than `plainWork`. -/
def gpuWork (n : Nat) : WorkDefinition where
  producer := "p"
  taskClass := .sourceShard
  inputIdentity := "x"
  payload := emptyDict
  partition_ := toString n
  algorithmVersion := "1"
  requiredCapabilities := ["GPU"]
  requiredProviders := []
  priority := .fin 1
  maxAttempts := 1
  notBefore := .fin 0
  valid := by
    have texts : blank "p" = false ∧ blank "x" = false ∧ blank "1" = false ∧ distinct ["GPU"] = true ∧ distinct [] = true := by
      decide
    simp [WorkFields.postInit, texts, PyFloat.isFinite]

/-- 128 rows for workers with a GPU, then one for any worker. -/
def crowdWork (n : Nat) : WorkDefinition := if n = 128 then plainWork 5 five_tries else gpuWork n

/-- The bytes whose digest is the work key. -/
def crowdMessage (n : Nat) : List UInt8 :=
  utf8 "work" ++ 0 :: (encodeUtf8 (dumps (.obj [
    (py "algorithm_version", .str (py (strip "1"))), (py "input", .str (py (strip "x"))),
    (py "partition", .str (py (strip (if n = 128 then "" else toString n)))), (py "payload", .obj []),
    (py "producer", .str (py (strip "p")))]))).getD []

theorem crowd_key (n : Nat) : workKey (crowdWork n).toWorkFields = .ok (sha256Hex (crowdMessage n)) := by
  have fields : ∀ partition_ : String, encodable (dumps (.obj [
      (py "algorithm_version", .str (py (strip "1"))), (py "input", .str (py (strip "x"))),
      (py "partition", .str (py (strip partition_))), (py "payload", .obj []),
      (py "producer", .str (py (strip "p")))])) = true := by
    intro partition_
    simp [dumps, encodable_write, Encodes, EncodesMembers]
  have keyed : workKey (crowdWork n).toWorkFields = stableIdentity "work" (.obj [
      (py "algorithm_version", .str (py (strip "1"))), (py "input", .str (py (strip "x"))),
      (py "partition", .str (py (strip (if n = 128 then "" else toString n)))), (py "payload", .obj []),
      (py "producer", .str (py (strip "p")))]) := by
    unfold crowdWork
    split <;> rfl
  have encodes := fields (if n = 128 then "" else toString n)
  rw [← encodeUtf8_isSome] at encodes
  obtain ⟨bytes, isBytes⟩ := Option.isSome_iff_exists.mp encodes
  rw [keyed, stableIdentity, crowdMessage]
  simp only [isBytes, Option.getD_some]

theorem write_number (n : Nat) : writeString (py (strip (toString n))) = .char '"' :: ((Nat.toDigits 10 n).map .char ++ [.char '"']) := by
  have each : ∀ c ∈ Nat.toDigits 10 n, c.isDigit = true := fun c member => Nat.isDigit_of_mem_toDigits (by decide) (by decide) member
  have plain : ∀ c : Char, c.isDigit = true → isSpace c = false ∧ writeCodePoint (.char c) = [.char c] := by
    intro c digit
    have bounds : 48 ≤ c.toNat ∧ c.toNat ≤ 57 := by
      simp only [Char.isDigit, Bool.and_eq_true, decide_eq_true_eq] at digit
      exact digit
    have all : ∀ n ∈ List.range 58, 48 ≤ n → isSpace (Char.ofNat n) = false ∧ writeCodePoint (.char (Char.ofNat n)) = [.char (Char.ofNat n)] := by
      decide +kernel
    have fact := all c.toNat (List.mem_range.mpr (by omega)) bounds.1
    rwa [Char.ofNat_toNat] at fact
  have solid (digits : List Char) (each : ∀ c ∈ digits, c.isDigit = true) : digits.dropWhile isSpace = digits := by
    cases digits with
    | nil => rfl
    | cons c rest => rw [List.dropWhile_cons_of_neg (by simp [(plain c (each c List.mem_cons_self)).1])]
  have text : (toString n).toList = Nat.toDigits 10 n := String.toList_ofList
  have stripped : strip (toString n) = toString n := by
    rw [strip, text, solid _ each, solid _ fun c member => each c (List.mem_reverse.mp member), List.reverse_reverse, ← text, String.ofList_toList]
  rw [stripped, writeString, py, text]
  congr 2
  generalize Nat.toDigits 10 n = digits at each
  induction digits with
  | nil => rfl
  | cons c rest ih =>
    rw [List.map_cons, List.flatMap_cons, (plain c (each c List.mem_cons_self)).2, ih fun d member => each d (List.mem_cons_of_mem _ member)]
    rfl

/-- The partition of a row of the crowd, as bytes. -/
def crowdTag (n : Nat) : List Nat := if n = 128 then [] else digitBytes n

theorem crowd_bytes (n : Nat) : (crowdMessage n).map UInt8.toNat =
    kindBytes "work" "\x7b\"algorithm_version\":\"1\",\"input\":\"x\",\"partition\":\"" ++
      (crowdTag n ++ (utf8 "\",\"payload\":\x7b\x7d,\"producer\":\"p\"\x7d").map UInt8.toNat) := by
  by_cases last : n = 128
  · subst last
    decide +kernel
  rw [crowdMessage, crowdTag, if_neg last, if_neg last]
  refine numbered_bytes _ ?_
  have texts : writeString (py "algorithm_version") = py "\"algorithm_version\"" ∧ writeString (py (strip "1")) = py "\"1\"" ∧
      writeString (py "input") = py "\"input\"" ∧ writeString (py (strip "x")) = py "\"x\"" ∧
      writeString (py "partition") = py "\"partition\"" ∧ writeString (py "payload") = py "\"payload\"" ∧
      writeString (py "producer") = py "\"producer\"" ∧ writeString (py (strip "p")) = py "\"p\"" := by decide +kernel
  have front : py "\x7b\"algorithm_version\":\"1\",\"input\":\"x\",\"partition\":\"" = .char '\x7b' :: (py "\"algorithm_version\"" ++
      .char ':' :: (py "\"1\"" ++ .char ',' :: (py "\"input\"" ++ .char ':' :: (py "\"x\"" ++
        .char ',' :: (py "\"partition\"" ++ [.char ':', .char '"']))))) := by decide +kernel
  have back : py "\",\"payload\":\x7b\x7d,\"producer\":\"p\"\x7d" = .char '"' :: .char ',' :: (py "\"payload\"" ++
      .char ':' :: .char '\x7b' :: .char '\x7d' :: .char ',' :: (py "\"producer\"" ++ .char ':' :: (py "\"p\"" ++ [.char '\x7d']))) := by
    decide +kernel
  simp only [dumps, write, writeMembers, texts, write_number]
  simp [front, back]

theorem crowd_keys_distinct : ((List.range 129).map (fun n => sha256Hex (crowdMessage n))).Nodup :=
  sha256Hex_nodup crowd_bytes (by decide +kernel)

def lonely : List Event := [⟨0, .registerWorker (plainWorker "w" "i" worker_named), zero_sinceEpoch⟩]

/-- The worker, then the first rows of the crowd. -/
def crowdOf (size : Nat) : List Event :=
  lonely ++ (List.range size).map (fun n => ⟨0, .admitWork (toString n) (crowdWork n), le_refl 0⟩)

/-- The worker, then the 129 rows. -/
def crowd : List Event := crowdOf 129

theorem crowd_rows {size : Nat} (distinct : ((List.range size).map (fun n => sha256Hex (crowdMessage n))).Nodup) :
    (authority.final (crowdOf size)).work.rows =
        (List.range size).map (fun n => queuedRow 0 (toString n) (sha256Hex (crowdMessage n)) (crowdWork n)) ∧
      workerRow (authority.final (crowdOf size)) "w" "i" = .ok plainRow := by
  have ids : ((List.range size).map (fun n : Nat => toString n)).Nodup :=
    List.nodup_range.map fun a b same => Nat.repr_injective same
  obtain ⟨rows, workers⟩ := admitted_rows lonely rfl size (fun n _ => crowd_key n) ids distinct
  refine ⟨rows, ?_⟩
  rw [workerRow, show (authority.final (crowdOf size)).workers = _ from workers]
  rfl

theorem crowd_fits (s : Store) (now : ℚ) (notNegative : 0 ≤ now) (n : Nat) (key : String) :
    Fits s now plainRow (queuedRow 0 (toString n) key (crowdWork n)) ↔ n = 128 := by
  unfold crowdWork
  split
  · rename_i last
    simp [Fits, claimable, eligible, regionEligible, plainWork, plainRow, plainWorker, last, notNegative]
  · rename_i other
    simp [Fits, eligible, gpuWork, plainRow, plainWorker, other]

theorem crowd_ahead {n : Nat} (other : n ≠ 128) (key key' : String) :
    claimable (queuedRow 0 (toString n) key (crowdWork n)) 0 = true ∧
      Preferred (queuedRow 0 (toString n) key (crowdWork n)) (queuedRow 0 (toString 128) key' (crowdWork 128)) := by
  simp [claimable, Preferred, crowdWork, other, gpuWork, plainWork]

/-- The row that fits is not granted while the other 128 are claimable. -/
theorem crowd_starves : ¬∀ (es : List Event) (now : ℚ) (scan : String → Nat) (worker : WorkerRow) (w i : String)
    (leaseSeconds : PyFloat), leaseSeconds.le (.fin 0) = false → workerRow (authority.final es) w i = .ok worker →
    (∀ row ∈ (authority.final es).work.rows, ∀ generation, ¬Holds row now w i generation) →
    Conserving (authority.final es) now scan worker w i leaseSeconds := by
  intro conserving
  obtain ⟨rows, registered⟩ := crowd_rows crowd_keys_distinct
  rw [← crowd] at rows registered
  have row_cases : ∀ row ∈ (authority.final crowd).work.rows, ∃ n < 129,
      row = queuedRow 0 (toString n) (sha256Hex (crowdMessage n)) (crowdWork n) := by
    intro row member
    rw [rows] at member
    obtain ⟨n, below, rfl⟩ := List.mem_map.mp member
    exact ⟨n, List.mem_range.mp below, rfl⟩
  have free : ∀ row ∈ (authority.final crowd).work.rows, ∀ generation, ¬Holds row 0 "w" "i" generation := by
    intro row member generation holds
    obtain ⟨n, -, rfl⟩ := row_cases row member
    cases holds.leased
  have conserves := conserving crowd 0 (fun _ => 0) plainRow "w" "i" (.fin 300) (by decide) registered free
  have idle : activeLease (authority.final crowd) "w" "i" 0 = none := by
    cases active : activeLease (authority.final crowd) "w" "i" 0 with
    | none => rfl
    | some row => exact absurd (activeLease_some active).2 (free row (activeLease_some active).1 _)
  have uncrowded := (conserving_iff_uncrowded (shaped_final crowd) (by decide) registered idle).mp conserves
  have stored : ∀ n < 129, queuedRow 0 (toString n) (sha256Hex (crowdMessage n)) (crowdWork n) ∈
      (authority.final crowd).work.rows := by
    intro n below
    rw [rows]
    exact List.mem_map_of_mem (List.mem_range.mpr below)
  obtain ⟨row, listed, fits⟩ := uncrowded ⟨_, stored 128 (by omega), (crowd_fits _ 0 (le_refl 0) 128 _).mpr rfl⟩
  rw [candidates_eq (shaped_final crowd)] at listed
  obtain ⟨n, -, rfl⟩ := row_cases row
    (List.mem_filter.mp ((List.mem_insertionSort _).mp (List.mem_of_mem_take listed))).1
  rw [← candidates_eq (shaped_final crowd)] at listed
  obtain rfl := (crowd_fits _ 0 (le_refl 0) n _).mp fits
  refine @crowded_out _ (shaped_final crowd) _ _ _ ((List.range 128).map (fun n =>
    queuedRow 0 (toString n) (sha256Hex (crowdMessage n)) (crowdWork n))) ?_ (by simp) ?_ listed
  · exact List.nodup_range.map fun a b same => Nat.repr_injective (congrArg WorkRow.taskId same)
  · intro other member
    obtain ⟨n, below, rfl⟩ := List.mem_map.mp member
    have inside := List.mem_range.mp below
    exact ⟨stored n (by omega), crowd_ahead (by omega) _ _⟩

end Creeper.ClaimOrder
