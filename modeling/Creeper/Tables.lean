import Mathlib

/-!
# Tables under a primary key

A table is a list of rows whose keys are distinct. Reading by key, inserting,
updating and deleting by a condition, and what each does to every read.
-/

namespace Creeper.Tables

/-- Rows with distinct keys, in the order they were inserted. -/
structure Table (Row Key : Type*) (key : Row → Key) where
  rows : List Row
  keyed : (rows.map key).Nodup

namespace Table
variable {Row Key : Type*} {key : Row → Key}

@[ext] theorem ext {t u : Table Row Key key} (same : t.rows = u.rows) : t = u := by
  cases t; cases u; simp_all

instance [DecidableEq Row] : DecidableEq (Table Row Key key) := fun t u =>
  decidable_of_iff (t.rows = u.rows) ⟨Table.ext, fun same => same ▸ rfl⟩

/-- The table without rows. -/
def empty : Table Row Key key := ⟨[], List.nodup_nil⟩

/-- The rows that meet a condition, rewritten; keys stay. -/
def update (t : Table Row Key key) (where_ : Row → Bool) (set : Row → Row)
    (keeps : ∀ r, key (set r) = key r := by intro _; rfl) : Table Row Key key :=
  ⟨t.rows.map (fun r => if where_ r then set r else r), by
    have same : (t.rows.map (fun r => if where_ r then set r else r)).map key = t.rows.map key := by
      rw [List.map_map]
      apply List.map_congr_left
      intro r _
      simp only [Function.comp_apply]
      split
      · exact keeps r
      · rfl
    rw [same]
    exact t.keyed⟩

/-- The rows that do not meet a condition. -/
def delete (t : Table Row Key key) (where_ : Row → Bool) : Table Row Key key :=
  ⟨t.rows.filter (fun r => !where_ r), t.keyed.sublist (List.filter_sublist.map key)⟩

@[simp] theorem rows_empty : (empty : Table Row Key key).rows = [] := rfl
@[simp] theorem rows_update (t : Table Row Key key) (where_ : Row → Bool) (set : Row → Row)
    (keeps : ∀ r, key (set r) = key r) :
    (t.update where_ set keeps).rows = t.rows.map (fun r => if where_ r then set r else r) := rfl
@[simp] theorem rows_delete (t : Table Row Key key) (where_ : Row → Bool) :
    (t.delete where_).rows = t.rows.filter (fun r => !where_ r) := rfl

theorem update_congr (t : Table Row Key key) (where_ : Row → Bool) (set set' : Row → Row)
    (keeps : ∀ r, key (set r) = key r) (keeps' : ∀ r, key (set' r) = key r)
    (same : ∀ r ∈ t.rows, where_ r = true → set r = set' r) : t.update where_ set keeps = t.update where_ set' keeps' := by
  apply Table.ext
  refine List.map_congr_left fun r member => ?_
  split
  · rename_i here
    exact same r member here
  · rfl

theorem update_eq_self (t : Table Row Key key) {where_ : Row → Bool} {set : Row → Row}
    (keeps : ∀ r, key (set r) = key r) (none_ : ∀ r ∈ t.rows, where_ r = false) : t.update where_ set keeps = t := by
  apply Table.ext
  refine (List.map_congr_left fun r member => ?_).trans (List.map_id _)
  rw [none_ r member]
  rfl

variable [DecidableEq Key]

def get? (t : Table Row Key key) (k : Key) : Option Row := t.rows.find? (fun r => key r = k)

/-- A new row; a row whose key is taken changes nothing. -/
def insert (t : Table Row Key key) (r : Row) : Table Row Key key :=
  if fresh : key r ∈ t.rows.map key then t
  else ⟨t.rows ++ [r], by
    rw [List.map_append, List.map_singleton]
    exact List.nodup_append.mpr ⟨t.keyed, List.nodup_singleton _, by
      intro a member b last same
      rw [List.mem_singleton.mp last] at same
      exact fresh (same ▸ member)⟩⟩

/-- A new row, or its merge into the row that has its key. -/
def upsert (t : Table Row Key key) (r : Row) (merge : Row → Row)
    (keeps : ∀ old, key (merge old) = key old := by intro _; rfl) : Table Row Key key :=
  match t.get? (key r) with
  | none => t.insert r
  | some _ => t.update (fun old => key old = key r) merge keeps

theorem get?_eq_some {t : Table Row Key key} {k : Key} {r : Row} :
    t.get? k = some r ↔ r ∈ t.rows ∧ key r = k := by
  constructor
  · intro found
    exact ⟨List.mem_of_find?_eq_some found, by simpa using List.find?_some found⟩
  · rintro ⟨member, rfl⟩
    obtain ⟨rows, keyed⟩ := t
    simp only [get?] at member ⊢
    induction rows with
    | nil => simp at member
    | cons first rest ih =>
      obtain ⟨absent, distinct⟩ := List.nodup_cons.mp keyed
      rcases List.mem_cons.mp member with rfl | later
      · simp
      · have apart : key first ≠ key r := fun same => absent (same ▸ List.mem_map_of_mem later)
        simp [apart, ih distinct later]

theorem get?_eq_none {t : Table Row Key key} {k : Key} : t.get? k = none ↔ ∀ r ∈ t.rows, key r ≠ k := by
  simp [get?]

theorem get?_mem {t : Table Row Key key} {r : Row} (member : r ∈ t.rows) : t.get? (key r) = some r :=
  get?_eq_some.mpr ⟨member, rfl⟩

theorem get?_key {t : Table Row Key key} {k : Key} {r : Row} (found : t.get? k = some r) : key r = k :=
  (get?_eq_some.mp found).2

theorem mem_of_get? {t : Table Row Key key} {k : Key} {r : Row} (found : t.get? k = some r) : r ∈ t.rows :=
  (get?_eq_some.mp found).1

@[simp] theorem get?_empty (k : Key) : (empty : Table Row Key key).get? k = none := rfl

theorem rows_insert {t : Table Row Key key} {r : Row} (fresh : t.get? (key r) = none) :
    (t.insert r).rows = t.rows ++ [r] := by
  have absent : key r ∉ t.rows.map key := by
    rw [List.mem_map]
    rintro ⟨old, member, same⟩
    exact get?_eq_none.mp fresh old member same
  rw [insert, dif_neg absent]

theorem get?_insert {t : Table Row Key key} {r : Row} (fresh : t.get? (key r) = none) (k : Key) :
    (t.insert r).get? k = if key r = k then some r else t.get? k := by
  unfold get?
  rw [rows_insert fresh, List.find?_append]
  by_cases same : key r = k
  · have before : t.rows.find? (fun r => key r = k) = none := by
      rw [← same]
      exact fresh
    simp [before, same]
  · cases found : t.rows.find? (fun r => key r = k) <;> simp [same]

theorem get?_update (t : Table Row Key key) (where_ : Row → Bool) (set : Row → Row)
    (keeps : ∀ r, key (set r) = key r) (k : Key) :
    (t.update where_ set keeps).get? k = (t.get? k).map (fun r => if where_ r then set r else r) := by
  unfold get?
  rw [rows_update, List.find?_map]
  congr 2
  funext r
  simp only [Function.comp_apply]
  split
  · rw [keeps]
  · rfl

theorem get?_update_key (t : Table Row Key key) (at_ : Key) (set : Row → Row)
    (keeps : ∀ r, key (set r) = key r) (k : Key) :
    (t.update (fun r => key r = at_) set keeps).get? k =
      if k = at_ then (t.get? k).map set else t.get? k := by
  rw [get?_update]
  cases found : t.get? k with
  | none => simp
  | some r =>
    have same := get?_key found
    by_cases here : k = at_ <;> simp [same, here]

theorem get?_delete (t : Table Row Key key) (where_ : Row → Bool) (k : Key) :
    (t.delete where_).get? k = (t.get? k).filter (fun r => !where_ r) := by
  cases found : t.get? k with
  | none =>
    rw [get?_eq_none] at found
    exact get?_eq_none.mpr (fun r member => found r (List.mem_of_mem_filter member))
  | some r =>
    obtain ⟨member, same⟩ := get?_eq_some.mp found
    by_cases gone : where_ r
    · simp only [Option.filter, gone, Bool.not_true, Bool.false_eq_true, if_false]
      rw [get?_eq_none]
      intro other kept
      obtain ⟨otherMember, stays⟩ := List.mem_filter.mp kept
      intro otherKey
      have equal : some other = some r := by rw [← found, ← otherKey]; exact (get?_mem otherMember).symm
      simp_all
    · simp only [Option.filter, gone, Bool.not_false, if_true]
      exact get?_eq_some.mpr ⟨by simp [member, gone], same⟩

theorem get?_upsert (t : Table Row Key key) (r : Row) (merge : Row → Row)
    (keeps : ∀ old, key (merge old) = key old) (k : Key) :
    (t.upsert r merge keeps).get? k =
      if k = key r then some (((t.get? k).map merge).getD r) else t.get? k := by
  unfold upsert
  cases found : t.get? (key r) with
  | none =>
    rw [get?_insert found]
    by_cases same : k = key r
    · subst same
      simp [found]
    · simp [same, Ne.symm same]
  | some old =>
    rw [get?_update_key]
    by_cases same : k = key r
    · subst same
      simp [found]
    · simp [same]

theorem mem_insert_of_mem {t : Table Row Key key} {fresh r : Row} (stored : r ∈ t.rows) : r ∈ (t.insert fresh).rows := by
  unfold insert
  split
  · exact stored
  · exact List.mem_append_left _ stored

theorem get?_insert_or (t : Table Row Key key) (r : Row) (k : Key) :
    (t.insert r).get? k = (t.get? k).or (if key r = k then some r else none) := by
  cases fresh : t.get? (key r) with
  | none =>
    rw [get?_insert fresh]
    by_cases same : key r = k
    · simp [← same, fresh]
    · simp [same]
  | some old =>
    have taken : key r ∈ t.rows.map key := List.mem_map.mpr ⟨old, get?_eq_some.mp fresh⟩
    rw [insert, dif_pos taken]
    by_cases same : key r = k
    · simp [← same, fresh]
    · simp [same]

/-- Inserting several rows, of which those with a taken key are ignored. -/
theorem get?_foldl_insert {Item : Type*} (items : List Item) (row : Item → Row) (t : Table Row Key key) (k : Key) :
    (items.foldl (fun t a => t.insert (row a)) t).get? k =
      (t.get? k).or ((items.find? (fun a => key (row a) = k)).map row) := by
  induction items generalizing t with
  | nil => simp
  | cons a rest ih =>
    rw [List.foldl_cons, ih, get?_insert_or, Option.or_assoc]
    congr 1
    by_cases same : key (row a) = k <;> simp [same]

/-- Rewriting the rows of several distinct keys, one after the other. -/
theorem get?_foldl_update {Item : Type*} (items : List Item) (name : Item → Key) (distinct : (items.map name).Nodup)
    (where_ : Row → Bool) (set : Item → Row → Row) (keeps : ∀ a r, key (set a r) = key r) (t : Table Row Key key) (k : Key) :
    (items.foldl (fun t a => t.update (fun r => key r = name a && where_ r) (set a) (keeps a)) t).get? k =
      (t.get? k).map (fun r => (items.find? (fun a => name a = k)).elim r (fun a => if where_ r then set a r else r)) := by
  induction items generalizing t with
  | nil => simp
  | cons a rest ih =>
    obtain ⟨absent, distinct⟩ := List.nodup_cons.mp distinct
    rw [List.foldl_cons, ih distinct, get?_update]
    cases found : t.get? k with
    | none => rfl
    | some r =>
      have same := get?_key found
      simp only [Option.map_some, List.find?_cons, same]
      by_cases here : name a = k
      · have later : rest.find? (fun a => name a = k) = none := by
          rw [List.find?_eq_none]
          intro b member
          simp only [decide_eq_true_eq]
          rintro rfl
          exact absent (here ▸ List.mem_map_of_mem member)
        simp [here, later]
      · simp [here, Ne.symm here]

/-- The row of a key between the others. -/
theorem focus {t : Table Row Key key} {k : Key} {r : Row} (found : t.get? k = some r) :
    ∃ first last, t.rows = first ++ r :: last ∧ (∀ o ∈ first, key o ≠ k) ∧ ∀ o ∈ last, key o ≠ k := by
  obtain ⟨member, name⟩ := get?_eq_some.mp found
  obtain ⟨first, last, split⟩ := List.append_of_mem member
  have distinct := t.keyed
  rw [split, List.map_append, List.map_cons] at distinct
  obtain ⟨-, tail, apart⟩ := List.nodup_append.mp distinct
  refine ⟨first, last, split, fun o inside same => ?_, fun o inside same => ?_⟩
  · exact apart _ (List.mem_map_of_mem inside) _ List.mem_cons_self (same.trans name.symm)
  · refine (List.nodup_cons.mp tail).1 ?_
    rw [name, ← same]
    exact List.mem_map_of_mem inside

/-- Rewriting the row of a key, with the others around it. -/
theorem rows_update_focus {first last : List Row} {k : Key} {r : Row} (set : Row → Row) (name : key r = k)
    (before : ∀ o ∈ first, key o ≠ k) (after : ∀ o ∈ last, key o ≠ k) :
    (first ++ r :: last).map (fun o => if decide (key o = k) then set o else o) = first ++ set r :: last := by
  have same : ∀ {rows : List Row}, (∀ o ∈ rows, key o ≠ k) →
      rows.map (fun o => if decide (key o = k) then set o else o) = rows := fun apart =>
    (List.map_congr_left fun o inside => if_neg (by simpa using apart o inside)).trans (List.map_id _)
  rw [List.map_append, List.map_cons, same before, same after, if_pos (decide_eq_true name)]

theorem rows_delete_focus {first last : List Row} {k : Key} {r : Row} (name : key r = k)
    (before : ∀ o ∈ first, key o ≠ k) (after : ∀ o ∈ last, key o ≠ k) :
    (first ++ r :: last).filter (fun o => !decide (key o = k)) = first ++ last := by
  have same : ∀ {rows : List Row}, (∀ o ∈ rows, key o ≠ k) → rows.filter (fun o => !decide (key o = k)) = rows := fun apart =>
    List.filter_eq_self.mpr fun o inside => by simpa using apart o inside
  rw [List.filter_append, List.filter_cons_of_neg (by simp [name]), same before, same after]

theorem foldl_insert_append {Item : Type*} (items : List Item) (row : Item → Row) (t : Table Row Key key) :
    ∃ new, new.Sublist (items.map row) ∧ (items.foldl (fun t a => t.insert (row a)) t).rows = t.rows ++ new := by
  induction items generalizing t with
  | nil => exact ⟨[], List.Sublist.slnil, by simp⟩
  | cons a rest ih =>
    obtain ⟨new, sub, rows⟩ := ih (t.insert (row a))
    rw [List.foldl_cons, rows]
    cases fresh : t.get? (key (row a)) with
    | none =>
      refine ⟨row a :: new, sub.cons_cons _, ?_⟩
      rw [rows_insert fresh, List.append_assoc]
      rfl
    | some old =>
      have taken : key (row a) ∈ t.rows.map key := List.mem_map.mpr ⟨old, get?_eq_some.mp fresh⟩
      refine ⟨new, sub.cons _, ?_⟩
      rw [insert, dif_pos taken]

theorem upsert_fresh {t : Table Row Key key} {r : Row} {merge : Row → Row} {keeps : ∀ old, key (merge old) = key old}
    (fresh : t.get? (key r) = none) : t.upsert r merge keeps = t.insert r := by
  simp only [upsert, fresh]

theorem upsert_stored {t : Table Row Key key} {r old : Row} {merge : Row → Row} {keeps : ∀ old, key (merge old) = key old}
    (stored : t.get? (key r) = some old) : t.upsert r merge keeps = t.update (fun old => key old = key r) merge keeps := by
  simp only [upsert, stored]

theorem isSome_update {table : Table Row Key key} {where_ : Row → Bool} {set : Row → Row}
    {keeps : ∀ r, key (set r) = key r} (k : Key) :
    ((table.update where_ set keeps).get? k).isSome = (table.get? k).isSome := by
  rw [get?_update, Option.isSome_map]

theorem row_unique {t : Table Row Key key} {r u : Row} (first : r ∈ t.rows) (second : u ∈ t.rows)
    (same : key r = key u) : r = u := by
  have := get?_mem first
  rw [same, get?_mem second] at this
  exact (Option.some.inj this).symm

end Table

section
variable {Row Key : Type*} {key : Row → Key}

theorem elim_find {Item α : Type*} (items : List Item) (p : Item → Bool) (yes no : α) :
    (items.find? p).elim no (fun _ => yes) = if items.any p then yes else no := by
  cases found : items.find? p with
  | none =>
    have absent : items.any p = false := by
      simpa [List.find?_eq_none] using found
    rw [absent]
    rfl
  | some item =>
    have present : items.any p = true := List.any_eq_true.mpr ⟨item, List.mem_of_find?_eq_some found, List.find?_some found⟩
    rw [present]
    rfl

theorem mem_update {rows : List Row} {where_ : Row → Bool} {set : Row → Row} {r : Row}
    (member : r ∈ rows.map (fun r => if where_ r then set r else r)) :
    ∃ old ∈ rows, (where_ old = true ∧ r = set old) ∨ (where_ old = false ∧ r = old) := by
  obtain ⟨old, stored, same⟩ := List.mem_map.mp member
  refine ⟨old, stored, ?_⟩
  split at same
  · rename_i hit
    exact .inl ⟨hit, same.symm⟩
  · rename_i miss
    exact .inr ⟨by simpa using miss, same.symm⟩

variable [DecidableEq Key]

theorem mem_insert {table : Table Row Key key} {fresh r : Row} (member : r ∈ (table.insert fresh).rows) :
    r = fresh ∨ r ∈ table.rows := by
  unfold Table.insert at member
  split at member
  · exact .inr member
  · rcases List.mem_append.mp member with old | new
    · exact .inr old
    · exact .inl (List.mem_singleton.mp new)

theorem mem_foldl_insert {items : List Row} {table : Table Row Key key} {r : Row}
    (member : r ∈ (items.foldl (fun t a => t.insert a) table).rows) : r ∈ table.rows ∨ r ∈ items := by
  induction items generalizing table with
  | nil => exact .inl member
  | cons a rest ih =>
    rcases ih member with old | new
    · rcases mem_insert old with rfl | old
      · exact .inr List.mem_cons_self
      · exact .inl old
    · exact .inr (List.mem_cons_of_mem _ new)

theorem foldl_insert_stored {items : List Row} {table : Table Row Key key} {r : Row} (stored : r ∈ table.rows) :
    r ∈ (items.foldl (fun t a => t.insert a) table).rows := by
  induction items generalizing table with
  | nil => exact stored
  | cons a rest ih => exact ih (Table.mem_insert_of_mem stored)

theorem foldl_insert_key {items : List Row} (table : Table Row Key key) {a : Row} (member : a ∈ items) :
    ∃ r ∈ (items.foldl (fun t a => t.insert a) table).rows, key r = key a := by
  have found := Table.get?_foldl_insert items (fun a => a) table (key a)
  cases old : table.get? (key a) with
  | some r =>
    rw [old, Option.some_or] at found
    exact ⟨r, Table.mem_of_get? found, Table.get?_key found⟩
  | none =>
    cases new : items.find? (fun b => key b = key a) with
    | none => exact absurd (decide_eq_true rfl) (List.find?_eq_none.mp new a member)
    | some r =>
      rw [old, Option.none_or, new] at found
      exact ⟨r, Table.mem_of_get? found, Table.get?_key found⟩

theorem mem_upsert {table : Table Row Key key} {fresh : Row} {merge : Row → Row}
    {keeps : ∀ old, key (merge old) = key old} {r : Row} (member : r ∈ (table.upsert fresh merge keeps).rows) :
    r = fresh ∨ ∃ old ∈ table.rows, r = merge old ∨ r = old := by
  unfold Table.upsert at member
  split at member
  · rcases mem_insert member with new | stored
    · exact .inl new
    · exact .inr ⟨r, stored, .inr rfl⟩
  · obtain ⟨old, stored, ⟨-, same⟩ | ⟨-, same⟩⟩ := mem_update member
    · exact .inr ⟨old, stored, .inl same⟩
    · exact .inr ⟨old, stored, .inr same⟩

end

/-! ## Rows that add up -/

namespace Table
variable {Row Key : Type*} {key : Row → Key} [DecidableEq Key] (merge : Row → Row → Row)
  (keeps : ∀ old new, key (merge old new) = key old)

def add (t : Table Row Key key) (r : Row) : Table Row Key key := t.upsert r (merge · r) (keeps · r)

/-- The rows of a table, each merged into another one. -/
def addAll (t u : Table Row Key key) : Table Row Key key := u.rows.foldl (add merge keeps) t

/-- The same rows in the order of their keys. -/
def sorted [LinearOrder Key] (t : Table Row Key key) : Table Row Key key :=
  ⟨t.rows.insertionSort (fun a b => key a ≤ key b), ((List.perm_insertionSort _ t.rows).map key).nodup_iff.mpr t.keyed⟩

theorem get?_perm {t u : Table Row Key key} (same : t.rows.Perm u.rows) (k : Key) : t.get? k = u.get? k := by
  cases found : u.get? k with
  | none => exact get?_eq_none.mpr fun r member => get?_eq_none.mp found r (same.mem_iff.mp member)
  | some r =>
    obtain ⟨member, name⟩ := get?_eq_some.mp found
    exact get?_eq_some.mpr ⟨same.mem_iff.mpr member, name⟩

theorem get?_sorted [LinearOrder Key] (t : Table Row Key key) (k : Key) : t.sorted.get? k = t.get? k :=
  get?_perm (List.perm_insertionSort _ t.rows) k

theorem get?_add (t : Table Row Key key) (r : Row) (k : Key) :
    (t.add merge keeps r).get? k = Option.merge merge (t.get? k) (if key r = k then some r else none) := by
  rw [add, get?_upsert]
  by_cases same : k = key r
  · subst same
    cases t.get? (key r) <;> simp
  · rw [if_neg same, if_neg (Ne.symm same), Option.merge_none_right]

theorem get?_foldl_add (rows : List Row) (distinct : (rows.map key).Nodup) (t : Table Row Key key) (k : Key) :
    (rows.foldl (add merge keeps) t).get? k = Option.merge merge (t.get? k) (rows.find? (fun r => key r = k)) := by
  induction rows generalizing t with
  | nil => simp
  | cons r rest ih =>
    obtain ⟨absent, distinct⟩ := List.nodup_cons.mp distinct
    rw [List.foldl_cons, ih distinct, get?_add, List.find?_cons]
    by_cases same : key r = k
    · have later : rest.find? (fun r => key r = k) = none := by
        rw [List.find?_eq_none]
        intro other member
        rw [decide_eq_true_eq]
        rintro rfl
        exact absent (same ▸ List.mem_map_of_mem member)
      simp [same, later]
    · simp [same]

/-- A merge of tables is the merge of the rows of every key. -/
theorem get?_addAll (t u : Table Row Key key) (k : Key) :
    (t.addAll merge keeps u).get? k = Option.merge merge (t.get? k) (u.get? k) :=
  get?_foldl_add merge keeps u.rows u.keyed t k

section
variable {Amount : Type*} [AddCommMonoid Amount] {amount : Row → Amount}
  (adds : ∀ old new, amount (merge old new) = amount old + amount new)
include adds

theorem sum_add (t : Table Row Key key) (r : Row) :
    ((t.add merge keeps r).rows.map amount).sum = (t.rows.map amount).sum + amount r := by
  unfold add
  cases found : t.get? (key r) with
  | none =>
    rw [upsert_fresh found, rows_insert found]
    simp
  | some old =>
    obtain ⟨first, last, split, before, after⟩ := focus found
    rw [upsert_stored found, rows_update, split, rows_update_focus (merge · r) (get?_key found) before after]
    simp only [List.map_append, List.map_cons, List.sum_append, List.sum_cons, adds]
    abel

theorem sum_addAll (t u : Table Row Key key) :
    ((t.addAll merge keeps u).rows.map amount).sum = (t.rows.map amount).sum + (u.rows.map amount).sum := by
  unfold addAll
  induction u.rows generalizing t with
  | nil => simp
  | cons r rest ih => rw [List.foldl_cons, ih, sum_add merge keeps adds, List.map_cons, List.sum_cons, add_assoc]

end
end Table

end Creeper.Tables
