import Creeper.RegionProbes

/-!
# Windows of a probe

`RegionProbeExecutor._window_ranges` spaces windows evenly over a region. They lie in the region, one
behind the other, and are no longer than the budget together, so that a probe meets every row of the
file at most once. What it counts are rows of the file unless `str.splitlines` breaks one of them.
-/

namespace Creeper.ProbeWindows
open Creeper.PyText Creeper.PyNumbers Creeper.IndexRows Creeper.ArchiveRecords Creeper.ArchiveLines Creeper.RegionProbes
open Creeper.FabricModels (PyError)
open Creeper.IndexRegions (SourceIndexSpec HarvestRegion RegionSynopsis)
open Creeper.RegionHarvest (ByteRange)
open Creeper.RegionTomography (normalizedRegion)
open scoped NNRat

/-! ## Rounding -/

theorem roundHalfEven_near (x : ℚ) : x - 1 / 2 ≤ roundHalfEven x ∧ (roundHalfEven x : ℚ) ≤ x + 1 / 2 := by
  have low := Int.floor_le x
  have high := Int.lt_floor_add_one x
  unfold roundHalfEven
  split_ifs with down
  · have half : x - ⌊x⌋ ≤ 1 / 2 := by
      rcases Bool.or_eq_true_iff.mp down with less | even
      · exact le_of_lt (of_decide_eq_true less)
      · exact le_of_eq (of_decide_eq_true (Bool.and_eq_true_iff.mp even).1)
    constructor <;> linarith
  · have half : 1 / 2 ≤ x - ⌊x⌋ := by
      by_contra less
      exact down (Bool.or_eq_true_iff.mpr (.inl (decide_eq_true (not_le.mp less))))
    push_cast
    constructor <;> linarith

@[simp] theorem roundHalfEven_int (n : ℤ) : roundHalfEven n = n := by
  simp [roundHalfEven]

theorem roundHalfEven_apart {x y : ℚ} {d : ℤ} (apart : x + d < y) : roundHalfEven x + d ≤ roundHalfEven y := by
  have below := (roundHalfEven_near x).2
  have above := (roundHalfEven_near y).1
  have near : (roundHalfEven x : ℚ) + d - 1 < roundHalfEven y := by linarith
  have : roundHalfEven x + d - 1 < roundHalfEven y := by exact_mod_cast near
  omega

theorem roundHalfEven_between {m n : ℤ} {x : ℚ} (above : m ≤ x) (below : x ≤ n) : m ≤ roundHalfEven x ∧ roundHalfEven x ≤ n := by
  obtain ⟨low, high⟩ := roundHalfEven_near x
  have first : (m : ℚ) - 1 < roundHalfEven x := by linarith
  have last : (roundHalfEven x : ℚ) < n + 1 := by linarith
  have : m - 1 < roundHalfEven x := by exact_mod_cast first
  have : roundHalfEven x < n + 1 := by exact_mod_cast last
  omega

/-! ## Windows -/

/-- Windows that lie in a region, one behind the other, and are no longer than a budget together. -/
structure Spaced (start last budget : Nat) (windows : List (Nat × Nat)) : Prop where
  some_ : windows ≠ []
  inside : ∀ w ∈ windows, start ≤ w.1 ∧ w.1 ≤ w.2 ∧ w.2 ≤ last
  apart : windows.Pairwise fun v w => v.2 < w.1
  total : (windows.map fun w => w.2 - w.1 + 1).sum ≤ max budget 1
  whole_ : last - start + 1 ≤ budget → windows = [(start, last)]

/-- Values that are new are appended in order. -/
theorem distinct_foldl {α : Type*} [DecidableEq α] (xs seen : List α) (fresh : (seen ++ xs).Nodup) :
    xs.foldl (fun seen x => if x ∈ seen then seen else seen ++ [x]) seen = seen ++ xs := by
  induction xs generalizing seen with
  | nil => exact (List.append_nil _).symm
  | cons x rest ih =>
    have new : x ∉ seen := fun member => (List.nodup_append.mp fresh).2.2 x member x List.mem_cons_self rfl
    rw [List.foldl_cons, if_neg new, ih _ (by simpa using fresh), List.append_assoc, List.singleton_append]

def spacedAt (start span gaps i : Nat) : Nat := (roundHalfEven (start + (span * i : ℚ) / gaps)).toNat

theorem spacedAt_bounds {start span gaps i : Nat} (within : i ≤ gaps) (positive : 0 < gaps) :
    (spacedAt start span gaps i : ℤ) = roundHalfEven (start + (span * i : ℚ) / gaps) ∧ start ≤ spacedAt start span gaps i ∧
      spacedAt start span gaps i ≤ start + span := by
  have gaps_ : (0 : ℚ) < gaps := by exact_mod_cast positive
  have share : (span * i : ℚ) / gaps ≤ span := by
    rw [div_le_iff₀ gaps_]
    exact mul_le_mul_of_nonneg_left (by exact_mod_cast within) (Nat.cast_nonneg _)
  have least : (0 : ℚ) ≤ (span * i : ℚ) / gaps := by positivity
  obtain ⟨above, below⟩ := @roundHalfEven_between (start : ℤ) ((start + span : ℕ) : ℤ) (start + (span * i : ℚ) / gaps)
    (by push_cast; linarith) (by push_cast; linarith)
  unfold spacedAt
  omega

theorem spacedAt_apart {start span gaps width i j : Nat} (wide : gaps * width < span) (less : i < j) (within : j ≤ gaps) :
    spacedAt start span gaps i + width ≤ spacedAt start span gaps j := by
  have positive : 0 < gaps := by omega
  have gaps_ : (0 : ℚ) < gaps := by exact_mod_cast positive
  obtain ⟨first, -, -⟩ := @spacedAt_bounds start span gaps i (by omega) positive
  obtain ⟨second, -, -⟩ := @spacedAt_bounds start span gaps j within positive
  have step : (width : ℚ) < span / gaps := by
    rw [lt_div_iff₀ gaps_, mul_comm]
    exact_mod_cast wide
  have more : (i : ℚ) + 1 ≤ j := by exact_mod_cast less
  have further : (start + (span * i : ℚ) / gaps) + ((width : ℕ) : ℤ) < start + (span * j : ℚ) / gaps := by
    have share : (span : ℚ) / gaps * (i + 1) ≤ span / gaps * j := mul_le_mul_of_nonneg_left more (by positivity)
    have left : (span * i : ℚ) / gaps = span / gaps * i := by ring
    have right : (span * j : ℚ) / gaps = span / gaps * j := by ring
    rw [left, right]
    push_cast
    linarith
  have := roundHalfEven_apart further
  omega

theorem windowRanges_large {start last budget windows : Nat} (large : budget < last - start + 1) (positive : 1 ≤ budget) (some_ : 1 ≤ windows) :
    ∃ (count width : Nat) (at_ : Nat → Nat), 0 < count ∧ 0 < width ∧ count * width ≤ budget ∧ (∀ i < count, start ≤ at_ i ∧ at_ i + width ≤ last + 1) ∧
      (∀ i j, i < j → j < count → at_ i + width ≤ at_ j) ∧
      windowRanges start last budget windows = (List.range count).map fun i => (at_ i, at_ i + width - 1) := by
  obtain ⟨count, isCount⟩ : ∃ count, count = min windows (min budget (last - start + 1)) := ⟨_, rfl⟩
  have few : count ≤ budget := by omega
  have one : 0 < count := by omega
  obtain ⟨width, isWidth⟩ : ∃ width, width = budget / count := ⟨_, rfl⟩
  have wide : 0 < width := isWidth ▸ Nat.div_pos few one
  have fits : count * width ≤ budget := isWidth ▸ Nat.mul_div_le budget count
  have short : width ≤ budget := isWidth ▸ Nat.div_le_self _ _
  have perWindow : max 1 (budget / count) = width := by omega
  obtain ⟨span, isSpan⟩ : ∃ span, span = max start (last + 1 - width) - start := ⟨_, rfl⟩
  have spaced : (count - 1) * width < span := by
    have : (count - 1) * width + width = count * width := by
      rw [← Nat.succ_mul, Nat.succ_eq_add_one, Nat.sub_add_cancel one]
    omega
  let at_ (i : Nat) : Nat := if count = 1 then start else spacedAt start span (count - 1) i
  have bounds (i : Nat) (less : i < count) : start ≤ at_ i ∧ at_ i + width ≤ last + 1 := by
    by_cases single : count = 1
    · simp only [at_, if_pos single]
      omega
    · have inside := @spacedAt_bounds start span (count - 1) i (by omega) (by omega)
      simp only [at_, if_neg single]
      omega
  have apart (i j : Nat) (less : i < j) (within : j < count) : at_ i + width ≤ at_ j := by
    have single : count ≠ 1 := by omega
    simp only [at_, if_neg single]
    exact spacedAt_apart spaced less (by omega)
  refine ⟨count, width, at_, one, wide, fits, bounds, apart, ?_⟩
  have distinct : ((List.range count).map at_).Nodup := by
    rw [List.nodup_iff_pairwise_ne, List.pairwise_map]
    refine (List.pairwise_lt_range).imp_of_mem fun {i j} _ member less => ?_
    have := apart i j less (List.mem_range.mp member)
    omega
  unfold windowRanges
  dsimp only
  rw [if_neg (not_le.mpr large), ← isCount, perWindow, ← isSpan]
  change (((List.range count).map at_).foldl _ []).map _ = _
  rw [distinct_foldl _ [] (by simpa using distinct), List.nil_append, List.map_map]
  refine List.map_congr_left fun i member => ?_
  have := bounds i (List.mem_range.mp member)
  rw [Function.comp_apply, Prod.mk.injEq]
  omega

/-- The windows of every region lie in it, one behind the other, and are no longer than the budget together. -/
theorem windowRanges_spaced {start last budget windows : Nat} (ordered : start ≤ last) (positive : 1 ≤ budget) (some_ : 1 ≤ windows) :
    Spaced start last budget (windowRanges start last budget windows) := by
  by_cases small : last - start + 1 ≤ budget
  · have whole_ : windowRanges start last budget windows = [(start, last)] := by
      unfold windowRanges
      exact if_pos small
    rw [whole_]
    refine ⟨List.cons_ne_nil _ _, ?_, List.pairwise_singleton _ _, ?_, fun _ => rfl⟩
    · intro w member
      rw [List.mem_singleton.mp member]
      exact ⟨le_rfl, ordered, le_rfl⟩
    · simp only [List.map_cons, List.map_nil, List.sum_singleton]
      omega
  · obtain ⟨count, width, at_, one, wide, fits, bounds, apart, ranges⟩ := windowRanges_large (not_le.mp small) positive some_
    rw [ranges]
    refine ⟨?_, ?_, ?_, ?_, fun whole_ => absurd whole_ small⟩
    · simpa using Nat.pos_iff_ne_zero.mp one
    · intro w member
      obtain ⟨i, inside, rfl⟩ := List.mem_map.mp member
      have := bounds i (List.mem_range.mp inside)
      dsimp only
      omega
    · rw [List.pairwise_map]
      refine List.pairwise_lt_range.imp_of_mem fun {i j} _ member less => ?_
      have := apart i j less (List.mem_range.mp member)
      dsimp only
      omega
    · have lengths : ((List.range count).map fun i => (at_ i, at_ i + width - 1)).map (fun w => w.2 - w.1 + 1) =
          List.replicate count width := by
        rw [List.map_map, List.eq_replicate_iff]
        refine ⟨by simp, fun length member => ?_⟩
        obtain ⟨i, -, rfl⟩ := List.mem_map.mp member
        simp only [Function.comp_apply]
        omega
      rw [lengths, List.sum_replicate, smul_eq_mul]
      omega

/-! ## Rows in windows -/

/-- The rows that some windows hold whole. -/
def windowRows (content : List UInt8) (windows : List (Nat × Nat)) : List (Nat × List UInt8) := windows.flatMap fun w => innerRows content w.1 w.2

theorem located_sorted (offset : Nat) (rs : List (List UInt8)) : (located offset rs).Pairwise fun r s => r.1 ≤ s.1 := by
  induction rs generalizing offset with
  | nil => exact .nil
  | cons row more ih =>
    refine List.pairwise_cons.mpr ⟨fun s member => ?_, ih _⟩
    exact le_trans (Nat.le_add_right _ _) (located_behind member)

theorem sublist_bound {α : Type*} {key : α → Nat} {xs front back : List α} (sorted : xs.Pairwise fun x y => key x ≤ key y) (bound : Nat)
    (first : front.Sublist xs) (low : ∀ x ∈ front, key x ≤ bound) (second : back.Sublist xs) (high : ∀ x ∈ back, bound < key x) :
    (front ++ back).Sublist xs := by
  have parts : xs.filter (fun x => key x ≤ bound) ++ xs.filter (fun x => !decide (key x ≤ bound)) = xs := by
    clear first low second high
    induction xs with
    | nil => rfl
    | cons x rest ih =>
      obtain ⟨behind, others⟩ := List.pairwise_cons.mp sorted
      by_cases here : key x ≤ bound
      · rw [List.filter_cons_of_pos (by simpa using here), List.filter_cons_of_neg (by simpa using here), List.cons_append, ih others]
      · have none_ : rest.filter (fun y => key y ≤ bound) = [] := by
          rw [List.filter_eq_nil_iff]
          intro y member
          have := behind y member
          simp only [decide_eq_true_eq]
          omega
        have all_ : rest.filter (fun y => !decide (key y ≤ bound)) = rest := by
          rw [List.filter_eq_self]
          intro y member
          have := behind y member
          simp only [Bool.not_eq_true', decide_eq_false_iff_not]
          omega
        rw [List.filter_cons_of_neg (by simpa using here), List.filter_cons_of_pos (by simpa using here), none_, all_, List.nil_append]
  rw [← parts]
  refine List.Sublist.append ?_ ?_
  · have kept : front.filter (fun x => key x ≤ bound) = front := List.filter_eq_self.mpr fun x member => decide_eq_true (low x member)
    rw [← kept]
    exact first.filter _
  · have kept : back.filter (fun x => !decide (key x ≤ bound)) = back :=
      List.filter_eq_self.mpr fun x member => by simpa using high x member
    rw [← kept]
    exact second.filter _

/-- Every row of a file is in one window at most. -/
theorem windowRows_sublist (content : List UInt8) {windows : List (Nat × Nat)} (ordered : ∀ w ∈ windows, w.1 ≤ w.2)
    (apart : windows.Pairwise fun v w => v.2 < w.1) : (windowRows content windows).Sublist (located 0 (rows content)) := by
  have bounds (w : Nat × Nat) (row : Nat × List UInt8) (member : row ∈ innerRows content w.1 w.2) : w.1 ≤ row.1 ∧ row.1 ≤ w.2 := by
    simpa using (List.mem_filter.mp (List.mem_filter.mp member).1).2
  induction windows with
  | nil => exact List.nil_sublist _
  | cons w rest ih =>
    obtain ⟨behind, others⟩ := List.pairwise_cons.mp apart
    refine sublist_bound (located_sorted 0 _) w.2 (List.filter_sublist.trans List.filter_sublist) (fun row member => (bounds w row member).2)
      (ih (fun v member => ordered v (List.mem_cons_of_mem _ member)) others) fun row member => ?_
    obtain ⟨v, later, inside⟩ := List.mem_flatMap.mp member
    exact lt_of_lt_of_le (behind v later) (bounds v row inside).1

/-! ## Lines that are counted -/

section
variable (p : Python) (format : String)

/-- A line that proves a host-year. -/
def counts (line : PyStr) : Bool := (p.linePair format line).isSome

def rowText (row : List UInt8) : PyStr := textOf (withoutEnd (decodeFrom none row))

def countedOf (row : List UInt8) : List PyStr := ((splitlines (decodeFrom none row)).map textOf).filter (counts p format)

def countedLines (content : List UInt8) (windows : List (Nat × Nat)) : List PyStr :=
  windows.flatMap fun w => ((splitlines (decodeFrom none (readRange content w.1 w.2))).map textOf).filter (counts p format)

variable {p format}

theorem countedLines_rows {content : List UInt8} {windows : List (Nat × Nat)} (inside : ∀ w ∈ windows, w.1 ≤ w.2 ∧ w.2 < content.length) :
    countedLines p format content windows = (windowRows content windows).flatMap fun row => countedOf p format row.2 := by
  rw [countedLines, windowRows, List.flatMap_assoc]
  refine List.flatMap_congr fun w member => ?_
  obtain ⟨rowed, window⟩ := readRange_rows content (inside w member).1 (inside w member).2
  rw [window, splitlines_rows rowed, List.map_flatMap, List.filter_flatMap, List.flatMap_map]
  rfl

theorem countedOf_plain {row : List UInt8} (plain : Plain row) :
    countedOf p format row = if counts p format (rowText row) then [rowText row] else [] := by
  have lines := @plain_lines row plain PyStr (fun line => if counts p format (textOf line) then some (textOf line) else none)
    (by rw [counts, linePair_nil]; rfl)
  have filtered (texts : List (List Char)) : (texts.map textOf).filter (counts p format) =
      texts.filterMap fun line => if counts p format (textOf line) then some (textOf line) else none := by
    induction texts with
    | nil => rfl
    | cons line rest ih =>
      by_cases here : counts p format (textOf line)
      · rw [List.map_cons, List.filter_cons_of_pos here, ih, List.filterMap_cons, if_pos here]
      · rw [List.map_cons, List.filter_cons_of_neg here, ih, List.filterMap_cons, if_neg here]
  rw [countedOf, filtered, lines, rowText]
  split_ifs <;> rfl

theorem splitlines_unbroken (text : List Char) : ∀ line ∈ splitlines text, ∀ c ∈ line, endsLine c = false := by
  induction text using splitlines.induct with
  | case1 => exact fun line member => absurd member List.not_mem_nil
  | case2 text ih =>
    intro line member
    rcases List.mem_cons.mp member with rfl | later
    · exact fun c inside => absurd inside List.not_mem_nil
    · exact ih line later
  | case3 c text single ends ih =>
    rw [splitlines, if_pos ends]
    · intro line member
      rcases List.mem_cons.mp member with rfl | later
      · exact fun c inside => absurd inside List.not_mem_nil
      · exact ih line later
    · exact single
  | case4 c text single inside empty ih =>
    rw [splitlines_inside (by simpa using inside), empty]
    intro line member
    rw [List.mem_singleton.mp member]
    intro d same
    rw [List.mem_singleton.mp same]
    simpa using inside
  | case5 c text single inside first more lines ih =>
    rw [splitlines_inside (by simpa using inside), lines]
    rw [lines] at ih
    intro line member
    rcases List.mem_cons.mp member with rfl | later
    · intro d same
      rcases List.mem_cons.mp same with rfl | behind
      · simpa using inside
      · exact ih first List.mem_cons_self d behind
    · exact ih line (List.mem_cons_of_mem _ later)

theorem textOf_injective : Function.Injective textOf := fun _ _ same => List.map_injective_iff.mpr (fun _ _ one => CodePoint.char.inj one) same

theorem plain_of_line {row : List UInt8} {other : List UInt8} (member : rowText row ∈ countedOf p format other) : Plain row := by
  obtain ⟨line, inside, same⟩ := List.mem_map.mp (List.mem_filter.mp member).1
  have text : line = withoutEnd (decodeFrom none row) := textOf_injective same
  exact fun c here => splitlines_unbroken _ line inside c (by rw [text]; exact here)

/-- Occurrences of what each element gives at least when it stands for it. -/
theorem count_map_le {α β : Type*} [BEq β] [LawfulBEq β] {xs : List α} {f : α → List β} {g : α → β} {b : β} (least : ∀ x ∈ xs, g x = b → b ∈ f x) :
    (xs.map g).count b ≤ (xs.flatMap f).count b := by
  induction xs with
  | nil => exact le_rfl
  | cons x rest ih =>
    have later := ih fun y member => least y (List.mem_cons_of_mem _ member)
    rw [List.map_cons, List.flatMap_cons, List.count_append, List.count_cons]
    by_cases here : g x = b
    · have := List.count_pos_iff.mpr (least x List.mem_cons_self here)
      rw [if_pos (by simpa using here)]
      omega
    · rw [if_neg (by simpa using here)]
      omega

theorem count_map_lt {α β : Type*} [BEq β] [LawfulBEq β] {xs : List α} {f : α → List β} {g : α → β} {b : β} (least : ∀ x ∈ xs, g x = b → b ∈ f x)
    {x : α} (member : x ∈ xs) (more : b ∈ f x) (other : g x ≠ b) : (xs.map g).count b < (xs.flatMap f).count b := by
  obtain ⟨before, after, rfl⟩ := List.append_of_mem member
  have first := @count_map_le α β _ _ before f g b fun y inside => least y (List.mem_append_left _ inside)
  have last := @count_map_le α β _ _ after f g b fun y inside => least y (List.mem_append_right _ (List.mem_cons_of_mem _ inside))
  have := List.count_pos_iff.mpr more
  rw [List.map_append, List.map_cons, List.flatMap_append, List.flatMap_cons, List.count_append, List.count_append, List.count_append,
    List.count_cons, if_neg (by simpa using other)]
  omega

/-- What is counted are whole rows exactly when no row with a break of a line has a counted line. -/
theorem counts_rows_iff (found : List (Nat × List UInt8)) :
    (∃ counted : List (Nat × List UInt8), counted.Sublist found ∧
      (found.flatMap fun row => countedOf p format row.2) = counted.map fun row => rowText row.2) ↔
    ∀ row ∈ found, Plain row.2 ∨ countedOf p format row.2 = [] := by
  constructor
  · rintro ⟨counted, inside, lines⟩ row member
    by_contra broken
    obtain ⟨breaks, some_⟩ := not_or.mp broken
    obtain ⟨line, more⟩ := List.exists_mem_of_ne_nil _ some_
    have other : rowText row.2 ≠ line := fun same => breaks (plain_of_line (same ▸ more))
    have counted_ : counts p format line = true := (List.mem_filter.mp more).2
    have least : ∀ r ∈ found, rowText r.2 = line → line ∈ countedOf p format r.2 := by
      rintro r _ rfl
      rw [countedOf_plain (plain_of_line more), if_pos counted_]
      exact List.mem_singleton_self _
    have fewer := count_map_lt least member more other
    rw [lines] at fewer
    exact absurd ((inside.map fun row => rowText row.2).count_le line) (not_le.mpr fewer)
  · intro whole_
    refine ⟨found.filter fun row => countedOf p format row.2 ≠ [], List.filter_sublist, ?_⟩
    induction found with
    | nil => rfl
    | cons row rest ih =>
      have later := ih fun r member => whole_ r (List.mem_cons_of_mem _ member)
      rw [List.flatMap_cons, later]
      by_cases none_ : countedOf p format row.2 = []
      · rw [none_, List.filter_cons_of_neg (by simpa using none_), List.nil_append]
      · have plain := (whole_ row List.mem_cons_self).resolve_right none_
        have one : countedOf p format row.2 = [rowText row.2] := by
          rw [countedOf_plain plain] at none_ ⊢
          split_ifs at none_ ⊢
          · rfl
          · exact absurd rfl none_
        rw [List.filter_cons_of_pos (by simpa using none_), List.map_cons, one, List.singleton_append]

end

/-! ## Captures -/

def captures (masks : List HostYearMask) : Nat := (masks.map (·.captureCount)).sum

@[simp] theorem captures_append (first second : List HostYearMask) : captures (first ++ second) = captures first + captures second := by
  simp [captures]

/-- The captures of a reducer that are not emitted yet. -/
def held (r : Reducer) : Nat := captures r.current.toList

def Yeared (r : Reducer) : Prop := ∀ m ∈ r.current, m.yearMask ≠ 0

theorem emit_captures {p : Python} {r : Reducer} (yeared : Yeared r) {emitted : Option HostYearMask} (ok : p.emit r = .ok emitted) :
    captures emitted.toList = held r := by
  unfold Python.emit at ok
  unfold held
  cases current : r.current with
  | none =>
    rw [current] at ok
    cases ok
    rfl
  | some m =>
    rw [current] at ok
    dsimp only at ok
    rw [if_neg (yeared m current)] at ok
    cases checked : p.checkMask m with
    | error e =>
      rw [checked] at ok
      cases ok
    | ok m' =>
      rw [checked, checkMask_ok checked] at ok
      cases ok
      rfl

theorem feed_captures {p : Python} {r r' : Reducer} {record : SourceRecord} {emitted : Option HostYearMask} (yeared : Yeared r)
    (ok : p.feed r record = .ok (r', emitted)) :
    Yeared r' ∧ captures emitted.toList + held r' = held r + if (p.pairOf record).isSome then 1 else 0 := by
  unfold Python.feed at ok
  cases host : p.hostnameFromRecord record with
  | error e =>
    rw [host] at ok
    cases ok
  | ok found =>
    rw [host] at ok
    cases found with
    | none =>
      cases ok
      have pair : p.pairOf record = none := by rw [Python.pairOf, host]
      exact ⟨yeared, by simp [captures, pair]⟩
    | some hostname =>
      dsimp only at ok
      by_cases target : record.sourceYear ∈ targetYears
      · have bit : yearBit record.sourceYear ≠ 0 := mt (yearBit_zero _).mp (not_not.mpr target)
        rw [if_neg bit] at ok
        have pair : p.pairOf record = some (hostname, record.sourceYear) := by
          rw [Python.pairOf, host]
          exact if_pos target
        rw [pair, Option.isSome_some, if_pos rfl]
        have started : Yeared ⟨some ⟨hostname, yearBit record.sourceYear, 1, record.locator, record.locator⟩⟩ := by
          rintro _ ⟨⟩
          exact bit
        cases current : r.current with
        | none =>
          rw [current] at ok
          cases ok
          exact ⟨started, by simp [held, captures, current]⟩
        | some m =>
          rw [current] at ok
          dsimp only at ok
          by_cases same : m.hostname = hostname
          · rw [if_pos same] at ok
            cases ok
            refine ⟨?_, by simp [held, captures, current]⟩
            rintro _ ⟨⟩
            exact fun zero => bit (Nat.or_eq_zero_iff.mp zero).2
          · rw [if_neg same] at ok
            cases last : p.emit r with
            | error e =>
              rw [last] at ok
              cases ok
            | ok emitted' =>
              have before := emit_captures yeared last
              rw [last] at ok
              cases ok
              exact ⟨started, by rw [before]; rfl⟩
      · rw [if_pos ((yearBit_zero _).mpr target)] at ok
        cases ok
        have pair : p.pairOf record = none := by
          rw [Python.pairOf, host]
          exact if_neg target
        exact ⟨yeared, by simp [captures, pair]⟩

/-- The masks of lines count the lines that prove a host-year. -/
theorem reduceLines_captures {p : Python} {format locatorPrefix : String} {n : Nat} {r : Reducer} (yeared : Yeared r) {lines : List PyStr}
    {masks : List HostYearMask} (ok : p.reduceLines format locatorPrefix n r lines = .ok masks) :
    captures masks = held r + (lines.filter (counts p format)).length := by
  induction lines generalizing n r masks with
  | nil =>
    rw [Python.reduceLines] at ok
    cases last : p.emit r with
    | error e =>
      rw [last] at ok
      cases ok
    | ok emitted =>
      have all_ := emit_captures yeared last
      rw [last] at ok
      cases ok
      exact all_
  | cons line rest ih =>
    rw [Python.reduceLines, parseLine_locator] at ok
    cases parsed : p.parseLine format "" line with
    | error e =>
      rw [parsed] at ok
      cases ok
    | ok found =>
      rw [parsed] at ok
      cases found with
      | none =>
        have none_ : counts p format line = false := by
          rw [counts, Python.linePair, parsed]
          rfl
        rw [ih yeared ok, List.filter_cons_of_neg (by simp [none_])]
      | some record =>
        have pair : counts p format line = (p.pairOf record).isSome := by
          rw [counts, Python.linePair, parsed]
        dsimp only [Except.map, Option.map] at ok
        cases fed : p.feed r { record with locator := locatorPrefix ++ ":" ++ toString n } with
        | error e =>
          rw [fed] at ok
          cases ok
        | ok next =>
          rw [fed] at ok
          dsimp only at ok
          cases later : p.reduceLines format locatorPrefix (n + 1) next.1 rest with
          | error e =>
            rw [later] at ok
            cases ok
          | ok more =>
            rw [later] at ok
            cases ok
            obtain ⟨still, here⟩ := feed_captures yeared fed
            have behind := ih still later
            have sameRecord : p.pairOf { record with locator := locatorPrefix ++ ":" ++ toString n } = p.pairOf record := rfl
            rw [sameRecord, ← pair] at here
            rw [captures_append, behind, List.filter_cons]
            split_ifs at here ⊢ with counted
            · rw [List.length_cons]
              omega
            · omega

theorem mergeMask_captures {p : Python} {merged merged' : List HostYearMask} {value : HostYearMask}
    (ok : p.mergeMask merged value = .ok merged') (single : (merged.map (·.hostname)).Nodup) :
    captures merged' = captures merged + value.captureCount := by
  unfold Python.mergeMask at ok
  cases found : merged.find? (·.hostname = value.hostname) with
  | none =>
    rw [found] at ok
    cases ok
    simp [captures]
  | some existing =>
    rw [found] at ok
    dsimp only at ok
    obtain ⟨host, before, after, parts, earlier⟩ := List.find?_eq_some_iff_append.mp found
    have host_ : existing.hostname = value.hostname := by simpa using host
    generalize isUnion : HostYearMask.mk value.hostname (existing.yearMask ||| value.yearMask) (existing.captureCount + value.captureCount)
      existing.firstLocator value.lastLocator = union at ok
    cases checked : p.checkMask union with
    | error e =>
      rw [checked] at ok
      cases ok
    | ok union' =>
      rw [checked, checkMask_ok checked] at ok
      cases ok
      have count : union.captureCount = existing.captureCount + value.captureCount := by rw [← isUnion]
      have first : before.map (fun m => if m.hostname = value.hostname then union else m) = before := by
        refine (List.map_congr_left fun m member => ?_).trans (List.map_id _)
        exact if_neg (by simpa using earlier m member)
      have last : after.map (fun m => if m.hostname = value.hostname then union else m) = after := by
        refine (List.map_congr_left fun m member => ?_).trans (List.map_id _)
        rw [parts, List.map_append, List.map_cons] at single
        have fresh := (List.nodup_cons.mp (List.nodup_append.mp single).2.1).1
        exact if_neg fun same => fresh (List.mem_map.mpr ⟨m, member, same.trans host_.symm⟩)
      rw [parts]
      dsimp only
      rw [List.map_append, List.map_cons, first, last, if_pos host_]
      simp only [captures, List.map_append, List.map_cons, List.sum_append, List.sum_cons, count]
      omega

theorem mergeMasks_captures {p : Python} (values : List HostYearMask) {merged merged' : List HostYearMask}
    (ok : values.foldlM p.mergeMask merged = .ok merged') (single : (merged.map (·.hostname)).Nodup) :
    captures merged' = captures merged + captures values := by
  induction values generalizing merged with
  | nil =>
    cases ok
    rfl
  | cons value rest ih =>
    rw [List.foldlM_cons] at ok
    cases first : p.mergeMask merged value with
    | error e =>
      rw [first] at ok
      cases ok
    | ok next =>
      rw [first] at ok
      rw [ih ok (mergeMask_shows first single).1, mergeMask_captures first single]
      simp only [captures, List.map_cons, List.sum_cons]
      omega

theorem mergeHostMasks_captures {p : Python} {values merged : List HostYearMask} (ok : p.mergeHostMasks values = .ok merged) :
    captures merged = captures values := by
  unfold Python.mergeHostMasks at ok
  cases folded : values.foldlM p.mergeMask [] with
  | error e =>
    rw [folded] at ok
    cases ok
  | ok unsorted =>
    rw [folded] at ok
    cases ok
    have sorted := List.perm_insertionSort (fun a b : HostYearMask => a.hostname ≤ b.hostname) unsorted
    have all_ := mergeMasks_captures values folded List.nodup_nil
    rw [captures, (sorted.map _).sum_eq]
    exact all_.trans (Nat.zero_add _)

theorem windowMasks_captures {p : Python} {index : SourceIndexSpec} {content : List UInt8} {window : Nat × Nat} {masks : List HostYearMask}
    (ok : windowMasks p index content window = .ok masks) :
    captures masks = (countedLines p index.capabilities.format content [window]).length := by
  unfold windowMasks at ok
  rw [countedLines, List.flatMap_cons, List.flatMap_nil, List.append_nil]
  by_cases empty : readRange content window.1 window.2 = []
  · rw [empty, if_pos rfl] at ok
    cases ok
    rw [empty]
    rfl
  · rw [if_neg empty] at ok
    rw [reduceLines_captures (fun m none_ => absurd none_ (by simp)) ok]
    exact Nat.zero_add _

theorem sampledMasks_counts {p : Python} {index : SourceIndexSpec} {content : List UInt8} {windows : List (Nat × Nat)}
    {masks : List HostYearMask} (ok : sampledMasks p index content windows = .ok masks) :
    captures masks = (countedLines p index.capabilities.format content windows).length ∧
      ∀ x, (∃ m ∈ masks, Shows m x) ↔ x ∈ (countedLines p index.capabilities.format content windows).filterMap (p.linePair index.capabilities.format) := by
  induction windows generalizing masks with
  | nil =>
    cases ok
    exact ⟨rfl, fun x => by simp [countedLines]⟩
  | cons window rest ih =>
    rw [sampledMasks] at ok
    cases here : windowMasks p index content window with
    | error e =>
      rw [here] at ok
      cases ok
    | ok first =>
      rw [here] at ok
      dsimp only at ok
      cases later : sampledMasks p index content rest with
      | error e =>
        rw [later] at ok
        cases ok
      | ok others =>
        rw [later] at ok
        cases ok
        obtain ⟨counted, shown⟩ := ih later
        have split : countedLines p index.capabilities.format content (window :: rest) =
            countedLines p index.capabilities.format content [window] ++ countedLines p index.capabilities.format content rest := by
          simp [countedLines]
        have lines (x : String × Nat) : x ∈ (countedLines p index.capabilities.format content [window]).filterMap
            (p.linePair index.capabilities.format) ↔
            x ∈ ((splitlines (decodeFrom none (readRange content window.1 window.2))).map textOf).filterMap
              (p.linePair index.capabilities.format) := by
          simp only [countedLines, List.flatMap_cons, List.flatMap_nil, List.append_nil, List.mem_filterMap, List.mem_filter, counts]
          constructor
          · rintro ⟨line, ⟨inside, -⟩, pair⟩
            exact ⟨line, inside, pair⟩
          · rintro ⟨line, inside, pair⟩
            exact ⟨line, ⟨inside, by rw [pair]; rfl⟩, pair⟩
        constructor
        · rw [captures_append, windowMasks_captures here, counted, split, List.length_append]
        · intro x
          rw [split, List.filterMap_append, List.mem_append, lines, ← windowMasks_shows here, ← shown]
          simp only [List.mem_append, or_and_right, exists_or]

/-! ## Every row once -/

structure SamplesOnce (p : Python) (policy : RegionProbePolicy) (index : SourceIndexSpec) (content : List UInt8) (range : ByteRange)
    (result : RegionProbeResult) : Prop where
  /-- The windows of any region, under any budget. -/
  windows : ∀ start last budget windows, start ≤ last → 1 ≤ budget → 1 ≤ windows → Spaced start last budget (windowRanges start last budget windows)
  spaced : Spaced range.byteStart.toNat range.byteEnd.toNat policy.maxSampleBytes (sampledWindows policy range)
  ranges : result.sampledRanges = (sampledWindows policy range).map fun w => ⟨w.1, w.2, w.2 - w.1 + 1⟩
  bytes : result.synopsis.bytesRead = ((sampledWindows policy range).map fun w => w.2 - w.1 + 1).sum
  /-- Every row is in one window at most. -/
  apart : (windowRows content (sampledWindows policy range)).Sublist (located 0 (rows content))
  /-- The host-years of the synopsis, and the captures behind them, are those of the counted lines. -/
  counted : result.synopsis.observedHostYearPairs =
      ((countedLines p index.capabilities.format content (sampledWindows policy range)).filterMap
        (p.linePair index.capabilities.format)).toFinset.card ∧
    ∃ masks merged, sampledMasks p index content (sampledWindows policy range) = .ok masks ∧ p.mergeHostMasks masks = .ok merged ∧
      captures merged = (countedLines p index.capabilities.format content (sampledWindows policy range)).length
  /-- The counted lines are the texts of rows in the windows, each row once. -/
  rows_ : ∃ found : List (Nat × List UInt8), found.Sublist (windowRows content (sampledWindows policy range)) ∧
    countedLines p index.capabilities.format content (sampledWindows policy range) = found.map fun row => rowText row.2

theorem probe_sampled {p : Python} {policy : RegionProbePolicy} {baseline : String → Nat} {weights : String → ℚ≥0} {index : SourceIndexSpec}
    {content : List UInt8} {remote : Bool} {metadataRequests : Nat} {region : HarvestRegion} {result : RegionProbeResult}
    (ok : probe p policy baseline weights index content remote metadataRequests region = .ok result) :
    ∃ range masks merged, result.region.bytes = some range ∧ range.byteStart.toNat ≤ range.byteEnd.toNat ∧ range.byteEnd.toNat < content.length ∧
      sampledMasks p index content (sampledWindows policy range) = .ok masks ∧ p.mergeHostMasks masks = .ok merged ∧
      result.synopsis.observedHostYearPairs = (merged.map fun m => (yearsOf m.yearMask).length).sum ∧
      result.sampledRanges = ((sampledWindows policy range).map fun w => ⟨w.1, w.2, w.2 - w.1 + 1⟩) ∧
      result.synopsis.bytesRead = ((sampledWindows policy range).map fun w => w.2 - w.1 + 1).sum := by
  unfold probe at ok
  by_cases format : index.capabilities.format ≠ "CDX" ∧ index.capabilities.format ≠ "CDXJ"
  · rw [if_pos format] at ok
    cases ok
  rw [if_neg format] at ok
  by_cases foreign : region.indexKey ≠ index.indexKey
  · rw [if_pos foreign] at ok
    cases ok
  rw [if_neg foreign] at ok
  by_cases empty : content = []
  · rw [if_pos empty] at ok
    cases ok
  rw [if_neg empty] at ok
  cases bounds : (normalizedRegion region content.length).bind fun normal => normal.bytes.map (normal, ·) with
  | none =>
    rw [bounds] at ok
    cases ok
  | some found =>
    obtain ⟨bytes, ordered, inside⟩ := normalized_bounds bounds
    rw [bounds] at ok
    dsimp only at ok
    cases sampled : sampledMasks p index content (sampledWindows policy found.2) with
    | error e =>
      rw [sampled] at ok
      cases ok
    | ok masks =>
      rw [sampled] at ok
      dsimp only at ok
      cases union : p.mergeHostMasks masks with
      | error e =>
        rw [union] at ok
        cases ok
      | ok merged =>
        rw [union] at ok
        cases ok
        refine ⟨found.2, masks, merged, bytes, ordered, inside, sampled, union, rfl, rfl, ?_⟩
        exact congrArg List.sum (List.map_map (g := fun r : SampledByteRange => r.bytesRead))

theorem sampledWindows_spaced (policy : RegionProbePolicy) {range : ByteRange} (ordered : range.byteStart.toNat ≤ range.byteEnd.toNat) :
    Spaced range.byteStart.toNat range.byteEnd.toNat policy.maxSampleBytes (sampledWindows policy range) := by
  have sample := policy.sample_pos
  have spaced := @windowRanges_spaced range.byteStart.toNat range.byteEnd.toNat
    (min policy.maxSampleBytes (range.byteEnd.toNat - range.byteStart.toNat + 1)) policy.sampleWindows ordered (by omega) policy.windows_pos
  have total := spaced.total
  exact ⟨spaced.some_, spaced.inside, spaced.apart, by rw [sampledWindows]; omega, fun small => spaced.whole_ (by omega)⟩

/-- A probe samples every row once, and nothing else, exactly when no row in a window that has a counted line breaks before its end. -/
theorem samples_once_iff (p : Python) (policy : RegionProbePolicy) (baseline : String → Nat) (weights : String → ℚ≥0) (index : SourceIndexSpec)
    (content : List UInt8) (remote : Bool) (metadataRequests : Nat) (region : HarvestRegion) (result : RegionProbeResult)
    (ok : probe p policy baseline weights index content remote metadataRequests region = .ok result) (range : ByteRange)
    (bytes : result.region.bytes = some range) : SamplesOnce p policy index content range result ↔
      ∀ row ∈ windowRows content (sampledWindows policy range),
        (∃ line ∈ splitlines (decodeFrom none row.2), counts p index.capabilities.format (textOf line) = true) → Plain row.2 := by
  obtain ⟨range', masks, merged, bytes', ordered, inside, sampled, union, observed, ranges, read⟩ := probe_sampled ok
  cases Option.some.inj (bytes'.symm.trans bytes)
  have spaced := sampledWindows_spaced policy ordered
  have within : ∀ w ∈ sampledWindows policy range, w.1 ≤ w.2 ∧ w.2 < content.length := fun w member =>
    ⟨(spaced.inside w member).2.1, lt_of_le_of_lt (spaced.inside w member).2.2 inside⟩
  have lines := @countedLines_rows p index.capabilities.format content _ within
  have rowed := @counts_rows_iff p index.capabilities.format (windowRows content (sampledWindows policy range))
  have broken (row : Nat × List UInt8) : (Plain row.2 ∨ countedOf p index.capabilities.format row.2 = []) ↔
      ((∃ line ∈ splitlines (decodeFrom none row.2), counts p index.capabilities.format (textOf line) = true) → Plain row.2) := by
    have none_ : countedOf p index.capabilities.format row.2 = [] ↔
        ¬∃ line ∈ splitlines (decodeFrom none row.2), counts p index.capabilities.format (textOf line) = true := by
      simp [countedOf]
    rw [none_, or_comm, imp_iff_not_or]
  constructor
  · intro once row member
    have found := once.rows_
    rw [lines] at found
    exact (broken row).mp (rowed.mp found row member)
  · intro whole_
    obtain ⟨single, shown⟩ := mergeHostMasks_shows union
    obtain ⟨counted, pairs⟩ := sampledMasks_counts sampled
    refine ⟨fun _ _ _ _ => windowRanges_spaced, spaced, ranges, read, windowRows_sublist content (fun w member => (within w member).1) spaced.apart, ⟨?_, masks, merged, sampled,
      union, (mergeHostMasks_captures union).trans counted⟩, ?_⟩
    · rw [observed, observed_pairs, ← List.toFinset_card_of_nodup single]
      congr 1
      exact Finset.ext fun x => by rw [List.mem_toFinset, List.mem_toFinset, shown, pairs]
    · rw [lines]
      exact rowed.mpr fun row member => (broken row).mpr (whole_ row member)

/-- Two rows in one line of a file, with a vertical tab between them. -/
def tabbedRows : List UInt8 := "a 1996 http://aa.com/\x0bb 1997 http://bb.com/\n".toUTF8.toList

/-- Two host-years are counted of them, and a harvest finds none. -/
theorem fragments_counted : ∃ result range,
    probe plainPython smallProbes (fun _ => 0) (fun _ => 1) cdxIndex tabbedRows false 0 (someRegion ⟨0, 43, by decide, by decide⟩) = .ok result ∧
    result.region.bytes = some range ∧ result.synopsis.observedHostYearPairs = 2 ∧
    ((ownedRows tabbedRows 0 43).filterMap fun row => rowPair plainPython "CDX" row.2) = [] ∧
    ¬SamplesOnce plainPython smallProbes cdxIndex tabbedRows range result := by
  have facts : ((probe plainPython smallProbes (fun _ => 0) (fun _ => 1) cdxIndex tabbedRows false 0
      (someRegion ⟨0, 43, by decide, by decide⟩)).toOption.map fun result =>
        (result.region.bytes.map fun range => (range.byteStart, range.byteEnd), result.synopsis.observedHostYearPairs)) =
      some (some (0, 43), 2) := by decide +kernel
  cases probed : probe plainPython smallProbes (fun _ => 0) (fun _ => 1) cdxIndex tabbedRows false 0
      (someRegion ⟨0, 43, by decide, by decide⟩) with
  | error e =>
    rw [probed] at facts
    cases facts
  | ok result =>
    rw [probed] at facts
    obtain ⟨bounds, two⟩ := Prod.ext_iff.mp (Option.some.inj facts)
    obtain ⟨range, bytes, ends⟩ := Option.map_eq_some_iff.mp bounds
    have start : range.byteStart = 0 := congrArg Prod.fst ends
    have last : range.byteEnd = 43 := congrArg Prod.snd ends
    refine ⟨result, range, rfl, bytes, two, by decide +kernel, fun once => ?_⟩
    obtain ⟨found, inside, lines⟩ := once.rows_
    have windows : sampledWindows smallProbes range = [(0, 43)] := by
      rw [sampledWindows, start, last]
      decide
    rw [windows] at inside lines
    have one : (windowRows tabbedRows [(0, 43)]).length = 1 := by decide +kernel
    have fragments : (countedLines plainPython "CDX" tabbedRows [(0, 43)]).length = 2 := by decide +kernel
    have size := congrArg List.length lines
    rw [List.length_map] at size
    exact absurd (fragments.symm.trans size) (by have := inside.length_le; omega)

/-- Of a file of two plain rows both are sampled. -/
theorem plain_rows_sampled : ∃ result range, smallProbe ⟨0, 43, by decide, by decide⟩ = .ok result ∧ result.region.bytes = some range ∧
    SamplesOnce plainPython smallProbes cdxIndex twoRows range result := by
  have facts : ((smallProbe ⟨0, 43, by decide, by decide⟩).toOption.map fun result =>
      result.region.bytes.map fun range => (range.byteStart, range.byteEnd)) = some (some (0, 43)) := by decide +kernel
  have plain : ∀ row ∈ windowRows twoRows [(0, 43)], Plain row.2 := by
    have all : ((windowRows twoRows [(0, 43)]).all fun row => (withoutEnd (decodeFrom none row.2)).all fun c => !endsLine c) = true := by
      decide +kernel
    simpa [Plain] using all
  cases probed : smallProbe ⟨0, 43, by decide, by decide⟩ with
  | error e =>
    rw [probed] at facts
    cases facts
  | ok result =>
    rw [probed] at facts
    obtain ⟨range, bytes, ends⟩ := Option.map_eq_some_iff.mp (Option.some.inj facts)
    have start : range.byteStart = 0 := congrArg Prod.fst ends
    have last : range.byteEnd = 43 := congrArg Prod.snd ends
    have windows : sampledWindows smallProbes range = [(0, 43)] := by
      rw [sampledWindows, start, last]
      decide
    refine ⟨result, range, rfl, bytes, ?_⟩
    refine (samples_once_iff plainPython smallProbes (fun _ => 0) (fun _ => 1) cdxIndex twoRows false 0
      (someRegion ⟨0, 43, by decide, by decide⟩) result probed range bytes).mpr fun row member _ => ?_
    rw [windows] at member
    exact plain row member

end Creeper.ProbeWindows
