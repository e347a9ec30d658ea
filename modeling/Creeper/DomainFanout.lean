import Creeper.BitSketches
import Creeper.EvidenceBridge
import Creeper.Runs
import Creeper.Splices

/-!
# The fanout of domains

`record_domain_fanout_observations` keeps a bit set of the children of every parent domain, with
the number of its bits. Batches and their order leave no trace in it.
-/

namespace Creeper.DomainFanout
open Creeper.Tables Creeper.Runs Creeper.BitSketches
open Creeper.EvidenceTasks (labels)
open Creeper.EvidenceBridge (Python)

/-- A row of `domain_fanout_state`. -/
structure FanoutRow where
  parentHostname : String
  observedSelf : Bool
  childCount : Nat
  childSketch : Nat
  queryEnqueued : Bool
  rdapEnqueued : Bool
  firstSourceKey : Option String
  updatedAt : ℚ
  deriving DecidableEq

abbrev Fanouts := Table FanoutRow String (·.parentHostname)

/-! ## The calls -/

section
variable (p : Python) (hash : String → Nat)

def normalized (hostnames : List String) : List String := (hostnames.filterMap p.normalizeOfficial).eraseDups

/-- The parent that a hostname counts for: broad suffixes of a country code are none. -/
def parentOf (hostname : String) : Option String :=
  if (labels hostname).length < 3 then none
  else
    let parentLabels := (labels hostname).tail
    if parentLabels.getLast?.any (·.length = 2) && parentLabels.length < 3 then none
    else some (String.ofList (['.'].intercalate parentLabels))

/-- The bit of a hostname, from its digest as a number. -/
def slot (hostname : String) : Nat := hash hostname % 63

/-- `batch_bits`. -/
def batchBits (values : List String) : Table (String × Nat) String (·.1) :=
  values.foldl (fun bits hostname =>
    match parentOf hostname with
    | none => bits
    | some parent => bits.upsert (parent, 1 <<< slot hash hostname) fun old => (old.1, old.2 ||| 1 <<< slot hash hostname)) .empty

def freshRow (now : ℚ) (sourceKey : Option String) (batch : String × Nat) : FanoutRow where
  parentHostname := batch.1
  observedSelf := false
  childCount := bitCount batch.2
  childSketch := batch.2
  queryEnqueued := false
  rdapEnqueued := false
  firstSourceKey := sourceKey
  updatedAt := now

def mergeRow (row fresh : FanoutRow) : FanoutRow := { row with
  childSketch := row.childSketch ||| fresh.childSketch
  childCount := max row.childCount (bitCount (row.childSketch ||| fresh.childSketch))
  firstSourceKey := row.firstSourceKey.or fresh.firstSourceKey
  updatedAt := fresh.updatedAt }

theorem mergeRow_keeps (row fresh : FanoutRow) : (mergeRow row fresh).parentHostname = row.parentHostname := rfl

/-- The loop over the parents of a batch. -/
def addRows (t : Fanouts) (rows : List FanoutRow) : Fanouts := rows.foldl (Table.add mergeRow mergeRow_keeps) t

/-- `record_domain_fanout_observations`. -/
def recordDomainFanoutObservations (now : ℚ) (t : Fanouts) (hostnames : List String) (sourceKey : Option String) : Nat × Fanouts :=
  let batch := (batchBits hash (normalized p hostnames)).rows
  (batch.length, addRows t (batch.map (freshRow now sourceKey)))

/-- The loop of `mark_domain_fanout_enqueued` and `mark_rdap_enqueued` over their parents. -/
def markAll (enqueued : FanoutRow → Bool) (set : FanoutRow → FanoutRow) (keeps : ∀ r, (set r).parentHostname = r.parentHostname)
    (t : Fanouts) (parents : List String) : Nat × Fanouts :=
  ((normalized p parents).countP fun parent => (t.get? parent).any fun r => !enqueued r,
    (normalized p parents).foldl (fun t parent => t.update (fun r => r.parentHostname = parent && !enqueued r) set keeps) t)

/-- `mark_domain_fanout_enqueued`. -/
def markDomainFanoutEnqueued (now : ℚ) (t : Fanouts) (parents : List String) : Nat × Fanouts :=
  markAll p (·.queryEnqueued) (fun r => { r with queryEnqueued := true, updatedAt := now }) (fun _ => rfl) t parents

/-- `mark_rdap_enqueued`. -/
def markRdapEnqueued (now : ℚ) (t : Fanouts) (hostnames : List String) : Nat × Fanouts :=
  markAll p (·.rdapEnqueued) (fun r => { r with rdapEnqueued := true, updatedAt := now }) (fun _ => rfl) t hostnames

/-! ## Runs -/

inductive FanoutOp
  | record (hostnames : List String) (sourceKey : Option String)
  | markQuery (parents : List String)
  | markRdap (hostnames : List String)

structure FanoutEvent where
  now : ℚ
  op : FanoutOp

def step (t : Fanouts) (e : FanoutEvent) : Nat × Fanouts :=
  match e.op with
  | .record hostnames sourceKey => recordDomainFanoutObservations p hash e.now t hostnames sourceKey
  | .markQuery parents => markDomainFanoutEnqueued p e.now t parents
  | .markRdap hostnames => markRdapEnqueued p e.now t hostnames

/-- The table of a new store, under the calls. -/
def fanout : Machine Fanouts FanoutEvent Nat := ⟨.empty, step p hash⟩

/-- The hostnames that a call records. -/
def FanoutEvent.hostnames (e : FanoutEvent) : List String :=
  match e.op with
  | .record hostnames _ => hostnames.filterMap p.normalizeOfficial
  | .markQuery _ | .markRdap _ => []

/-- The hostnames that a run recorded. -/
def observed (es : List FanoutEvent) : List String := es.flatMap (FanoutEvent.hostnames p)

end

/-! ## Children -/

/-- The labels of the parent are those of the child without the first; a parent with a country code has three. -/
def IsChild (hostname parent : String) : Prop :=
  3 ≤ (labels hostname).length ∧ labels parent = (labels hostname).tail ∧
    ¬((labels parent).length = 2 ∧ (labels parent).getLast?.any (·.length = 2))

instance (hostname parent : String) : Decidable (IsChild hostname parent) := inferInstanceAs (Decidable (_ ∧ _ ∧ ¬_))

theorem labels_join {parts : List (List Char)} (some_ : parts ≠ []) (solid : ∀ part ∈ parts, '.' ∉ part) :
    labels (String.ofList (['.'].intercalate parts)) = parts := by
  rw [labels, String.toList_ofList]
  exact List.splitOn_intercalate '.' solid some_

theorem labels_injective {a b : String} (same : labels a = labels b) : a = b := by
  have joined (text : String) : ['.'].intercalate (labels text) = text.toList := List.intercalate_splitOn '.'
  exact String.toList_injective (by rw [← joined a, ← joined b, same])

theorem parentOf_iff {hostname parent : String} : parentOf hostname = some parent ↔ IsChild hostname parent := by
  unfold parentOf IsChild
  by_cases short : (labels hostname).length < 3
  · rw [if_pos short]
    exact iff_of_false nofun fun child => absurd child.1 (not_le.mpr short)
  rw [if_neg short]
  have solid : ∀ part ∈ (labels hostname).tail, '.' ∉ part := fun part member => Splices.splitOn_solid _ part (List.mem_of_mem_tail member)
  have long : 2 ≤ (labels hostname).tail.length := by rw [List.length_tail]; omega
  have joined := labels_join (List.ne_nil_of_length_pos (by omega)) solid
  generalize (labels hostname).tail = parts at long joined
  dsimp only
  by_cases broad : (parts.getLast?.any (·.length = 2) && parts.length < 3) = true
  · rw [if_pos broad]
    simp only [Bool.and_eq_true, decide_eq_true_eq] at broad
    refine iff_of_false nofun fun ⟨_, same, narrow⟩ => narrow ?_
    rw [same]
    exact ⟨by omega, broad.1⟩
  · rw [if_neg broad]
    simp only [Bool.and_eq_true, decide_eq_true_eq] at broad
    constructor
    · intro named
      rw [← Option.some.inj named, joined]
      exact ⟨by omega, rfl, fun ⟨two, country⟩ => broad ⟨country, by omega⟩⟩
    · rintro ⟨-, same, -⟩
      exact congrArg some (labels_injective (joined.trans same.symm))

def childrenOf (hostnames : List String) (parent : String) : List String := hostnames.filter (parentOf · = some parent)

theorem mem_childrenOf {hostnames : List String} {parent hostname : String} :
    hostname ∈ childrenOf hostnames parent ↔ hostname ∈ hostnames ∧ IsChild hostname parent := by
  rw [childrenOf, List.mem_filter, decide_eq_true_eq, parentOf_iff]

/-- What the table should say of a parent. -/
def shown (hash : String → Nat) (hostnames : List String) (parent : String) : Option (Nat × Nat) :=
  if childrenOf hostnames parent = [] then none
  else some (sketch (slot hash) (childrenOf hostnames parent), bitCount (sketch (slot hash) (childrenOf hostnames parent)))

/-- What the table says of a parent. -/
def reading (t : Fanouts) (parent : String) : Option (Nat × Nat) := (t.get? parent).map fun r => (r.childSketch, r.childCount)

theorem childrenOf_congr {hs hs' : List String} (same : ∀ h, h ∈ hs ↔ h ∈ hs') (parent h : String) :
    h ∈ childrenOf hs parent ↔ h ∈ childrenOf hs' parent := by
  rw [mem_childrenOf, mem_childrenOf, same]

theorem shown_congr (hash : String → Nat) {hs hs' : List String} (same : ∀ h, h ∈ hs ↔ h ∈ hs') (parent : String) :
    shown hash hs parent = shown hash hs' parent := by
  have members := childrenOf_congr same parent
  have empty : childrenOf hs parent = [] ↔ childrenOf hs' parent = [] := by
    rw [List.eq_nil_iff_forall_not_mem, List.eq_nil_iff_forall_not_mem]
    exact forall_congr' fun h => not_congr (members h)
  unfold shown
  rw [sketch_congr members, if_congr empty rfl rfl]

/-! ## One call -/

section
variable (p : Python) (hash : String → Nat)

theorem batchBits_get? (values : List String) (parent : String) : (batchBits hash values).get? parent =
    if childrenOf values parent = [] then none else some (parent, sketch (slot hash) (childrenOf values parent)) := by
  induction values using List.reverseRecOn with
  | nil => rfl
  | append_singleton values h ih =>
    have after : batchBits hash (values ++ [h]) = match parentOf h with
        | none => batchBits hash values
        | some parent => (batchBits hash values).upsert (parent, 1 <<< slot hash h) fun old => (old.1, old.2 ||| 1 <<< slot hash h) :=
      List.foldl_append ..
    rw [after, childrenOf, List.filter_append, ← childrenOf]
    cases named : parentOf h with
    | none =>
      rw [List.filter_cons_of_neg (by simp [named]), List.filter_nil, List.append_nil]
      exact ih
    | some own =>
      dsimp only
      rw [Table.get?_upsert]
      by_cases here : parent = own
      · subst here
        have more : childrenOf values parent ++ [h] ≠ [] := by simp
        rw [if_pos rfl, List.filter_cons_of_pos (by simp [named]), List.filter_nil, ih, if_neg more, sketch_append]
        by_cases none_ : childrenOf values parent = []
        · rw [if_pos none_, none_]
          simp [sketch, mark]
        · rw [if_neg none_]
          simp [sketch, mark]
      · rw [if_neg here, List.filter_cons_of_neg (by simp [named, Ne.symm here]), List.filter_nil, List.append_nil]
        exact ih

theorem normalized_mem (hostnames : List String) (h : String) : h ∈ normalized p hostnames ↔ h ∈ hostnames.filterMap p.normalizeOfficial := by
  rw [normalized, List.mem_eraseDups]

theorem addRows_get? (t : Fanouts) (rows : List FanoutRow) (distinct : (rows.map (·.parentHostname)).Nodup) (parent : String) :
    (addRows t rows).get? parent = Option.merge mergeRow (t.get? parent) (rows.find? (·.parentHostname = parent)) :=
  Table.get?_foldl_add mergeRow mergeRow_keeps rows distinct t parent

theorem record_reading {t : Fanouts} {hs : List String} (kept : ∀ parent, reading t parent = shown hash hs parent) (now : ℚ)
    (hostnames : List String) (sourceKey : Option String) (parent : String) :
    reading (recordDomainFanoutObservations p hash now t hostnames sourceKey).2 parent =
      shown hash (hs ++ hostnames.filterMap p.normalizeOfficial) parent := by
  have same : ∀ h, h ∈ hs ++ hostnames.filterMap p.normalizeOfficial ↔ h ∈ hs ++ normalized p hostnames := fun h => by
    rw [List.mem_append, List.mem_append, normalized_mem]
  rw [shown_congr hash same]
  unfold recordDomainFanoutObservations reading
  dsimp only
  have distinct : (((batchBits hash (normalized p hostnames)).rows.map (freshRow now sourceKey)).map (·.parentHostname)).Nodup := by
    rw [List.map_map]
    exact (batchBits hash (normalized p hostnames)).keyed
  rw [addRows_get? _ _ distinct, List.find?_map]
  have found := batchBits_get? hash (normalized p hostnames) parent
  unfold Table.get? at found
  change (Option.merge mergeRow (t.get? parent) (((batchBits hash (normalized p hostnames)).rows.find? fun r => r.1 = parent).map
    (freshRow now sourceKey))).map _ = _
  rw [found]
  have old := kept parent
  unfold reading shown at old
  unfold shown
  rw [show childrenOf (hs ++ normalized p hostnames) parent = childrenOf hs parent ++ childrenOf (normalized p hostnames) parent from
    List.filter_append .., sketch_append]
  by_cases none_ : childrenOf (normalized p hostnames) parent = []
  · rw [none_, if_pos rfl, Option.map_none, Option.merge_none_right, List.append_nil, old]
    simp [sketch, mark]
  rw [if_neg none_, if_neg (by simp [none_]), Option.map_some]
  cases stored : t.get? parent with
  | none =>
    rw [stored, Option.map_none] at old
    have empty : childrenOf hs parent = [] := by
      by_contra some_
      rw [if_neg some_] at old
      cases old
    rw [empty]
    simp [sketch, mark, freshRow]
  | some row =>
    rw [stored, Option.map_some] at old
    have some_ : childrenOf hs parent ≠ [] := by
      intro empty
      rw [if_pos empty] at old
      cases old
    rw [if_neg some_] at old
    obtain ⟨sketched, counted⟩ := Prod.mk.inj (Option.some.inj old)
    have grows : bitCount (sketch (slot hash) (childrenOf hs parent)) ≤
        bitCount (sketch (slot hash) (childrenOf hs parent) ||| sketch (slot hash) (childrenOf (normalized p hostnames) parent)) :=
      bitCount_mono fun i set_ => by rw [Nat.testBit_or, set_, Bool.true_or]
    simp only [Option.merge_some_some, Option.map_some, mergeRow, freshRow, sketched, counted, max_eq_right grows]

/-- The marks of parents leave the bit sets. -/
theorem markAll_reading (enqueued : FanoutRow → Bool) (set : FanoutRow → FanoutRow) (keeps : ∀ r, (set r).parentHostname = r.parentHostname)
    (leaves : ∀ r, ((set r).childSketch, (set r).childCount) = (r.childSketch, r.childCount)) (t : Fanouts) (parents : List String)
    (parent : String) : reading (markAll p enqueued set keeps t parents).2 parent = reading t parent := by
  unfold markAll
  dsimp only
  induction normalized p parents generalizing t with
  | nil => rfl
  | cons name rest ih =>
    rw [List.foldl_cons, ih]
    unfold reading
    rw [Table.get?_update, Option.map_map]
    congr 1
    funext r
    simp only [Function.comp_apply]
    split
    · exact leaves r
    · rfl

/-- A run keeps, for every parent, what its children show. -/
theorem final_reading (es : List FanoutEvent) (parent : String) : reading ((fanout p hash).final es) parent = shown hash (observed p es) parent := by
  induction es using List.reverseRecOn generalizing parent with
  | nil => rfl
  | append_singleton es e ih =>
    rw [Machine.final_snoc]
    have more : observed p (es ++ [e]) = observed p es ++ e.hostnames p := by simp [observed]
    rw [more]
    change reading (step p hash ((fanout p hash).final es) e).2 parent = _
    unfold step FanoutEvent.hostnames
    cases e.op with
    | record hostnames sourceKey => exact record_reading p hash ih e.now hostnames sourceKey parent
    | markQuery parents =>
      rw [List.append_nil, ← ih]
      exact markAll_reading p _ _ _ (by exact fun _ => rfl) _ parents parent
    | markRdap hostnames =>
      rw [List.append_nil, ← ih]
      exact markAll_reading p _ _ _ (by exact fun _ => rfl) _ hostnames parent

/-- The row of a parent: a bit set with its count, at most the number of its observed children. -/
structure Counts (hostnames : List String) (row : FanoutRow) : Prop where
  counted : row.childCount = bitCount row.childSketch
  bounded : row.childCount ≤ (hostnames.dedup.filter fun h => IsChild h row.parentHostname).length
  encoded : row.childSketch < 2 ^ 63

theorem sketch_bounded (hostnames : List String) (parent : String) :
    bitCount (sketch (slot hash) (childrenOf hostnames parent)) ≤ (hostnames.dedup.filter fun h => IsChild h parent).length := by
  refine bitCount_sketch_le.trans ?_
  refine (List.Nodup.subperm (List.nodup_dedup _) fun h member => ?_).length_le
  obtain ⟨recorded, child⟩ := mem_childrenOf.mp (List.mem_dedup.mp member)
  exact List.mem_filter.mpr ⟨List.mem_dedup.mpr recorded, decide_eq_true child⟩

/-- After every run of calls the table has the parents of the observed hostnames, each with a bit set that is an
    under-count of its children, and it depends on which hostnames were observed only. -/
theorem fanout_faithful (es : List FanoutEvent) :
    (∀ parent, (((fanout p hash).final es).get? parent).isSome ↔ ∃ h ∈ observed p es, IsChild h parent) ∧
      (∀ row ∈ ((fanout p hash).final es).rows, Counts (observed p es) row) ∧
      ∀ es', (∀ h, h ∈ observed p es ↔ h ∈ observed p es') →
        ∀ parent, reading ((fanout p hash).final es) parent = reading ((fanout p hash).final es') parent := by
  refine ⟨fun parent => ?_, fun row stored => ?_, fun es' same parent => ?_⟩
  · have read := final_reading p hash es parent
    unfold reading shown at read
    rw [← Option.isSome_map (f := fun r : FanoutRow => (r.childSketch, r.childCount)), read]
    by_cases none_ : childrenOf (observed p es) parent = []
    · rw [if_pos none_]
      refine iff_of_false nofun ?_
      rintro ⟨h, recorded, child⟩
      have member := mem_childrenOf.mpr ⟨recorded, child⟩
      rw [none_] at member
      cases member
    · rw [if_neg none_]
      obtain ⟨h, member⟩ := List.exists_mem_of_ne_nil _ none_
      exact iff_of_true rfl ⟨h, mem_childrenOf.mp member⟩
  · have read := final_reading p hash es row.parentHostname
    unfold reading shown at read
    rw [Table.get?_mem (t := ((fanout p hash).final es)) stored, Option.map_some] at read
    split at read
    · cases read
    obtain ⟨sketched, counted⟩ := Prod.mk.inj (Option.some.inj read)
    refine ⟨counted.trans (congrArg bitCount sketched.symm), ?_, ?_⟩
    · rw [counted]
      exact sketch_bounded hash _ _
    · rw [sketched]
      exact sketch_lt fun h _ => Nat.mod_lt _ (by decide)
  · rw [final_reading, final_reading]
    exact shown_congr hash same parent

end

end Creeper.DomainFanout
