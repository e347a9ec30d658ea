import Creeper.ArchiveLines

/-!
# Rows of an index

The rows of a file with their offsets, the rows that a window of it holds whole, and the lines
that `str.splitlines` makes of decoded rows.
-/

namespace Creeper.IndexRows
open Creeper.ArchiveLines

/-! ## Rows -/

/-- The rows of a file; each ends with a newline, but perhaps the last. -/
def rows : List UInt8 → List (List UInt8)
  | [] => []
  | b :: rest =>
    if b = 10 then [b] :: rows rest
    else
      match rows rest with
      | [] => [[b]]
      | row :: more => (b :: row) :: more

/-- Rows that a file can have. -/
inductive Rowed : List (List UInt8) → Prop
  | nil : Rowed []
  | last {row : List UInt8} (some_ : row ≠ []) (plain : 10 ∉ row) : Rowed [row]
  | cons {line : List UInt8} {more : List (List UInt8)} (plain : 10 ∉ line) (rest : Rowed more) : Rowed ((line ++ [10]) :: more)

theorem rows_flatten (content : List UInt8) : (rows content).flatten = content := by
  induction content with
  | nil => rfl
  | cons b rest ih =>
    rw [rows]
    split_ifs with newline
    · rw [List.flatten_cons, ih]
      rfl
    · cases later : rows rest with
      | nil =>
        rw [later] at ih
        rw [← ih]
        rfl
      | cons row more =>
        rw [later] at ih
        rw [← ih]
        rfl

theorem rows_rowed (content : List UInt8) : Rowed (rows content) := by
  induction content with
  | nil => exact .nil
  | cons b rest ih =>
    rw [rows]
    split_ifs with newline
    · subst newline
      rw [show [10] = [] ++ [(10 : UInt8)] from rfl]
      exact .cons List.not_mem_nil ih
    · have plain (row : List UInt8) (others : 10 ∉ row) : 10 ∉ b :: row := by
        rw [List.mem_cons, not_or]
        exact ⟨fun same => newline same.symm, others⟩
      cases later : rows rest with
      | nil => exact .last (List.cons_ne_nil _ _) (plain [] List.not_mem_nil)
      | cons row more =>
        rw [later] at ih
        cases ih with
        | last some_ others => exact .last (List.cons_ne_nil _ _) (plain _ others)
        | @cons line _ others ends => exact .cons (plain line others) ends

/-- Rows with the offsets of their first bytes. -/
def located : Nat → List (List UInt8) → List (Nat × List UInt8)
  | _, [] => []
  | offset, row :: more => (offset, row) :: located (offset + row.length) more

/-- The rows that begin behind a position. -/
def late : Nat → List (List UInt8) → List (List UInt8)
  | _, [] => []
  | a, row :: more => if a < row.length then more else late (a - row.length) more

/-- The rows that end before a position. -/
def whole : Nat → List (List UInt8) → List (List UInt8)
  | _, [] => []
  | m, row :: more => if row.length ≤ m then row :: whole (m - row.length) more else []

/-! ## Windows -/

/-- What follows the first newline. -/
def afterNewline (bytes : List UInt8) : List UInt8 := (bytes.dropWhile (· ≠ 10)).drop 1

/-- What ends with the last newline. -/
def throughNewline : List UInt8 → List UInt8
  | [] => []
  | b :: rest => if b = 10 || throughNewline rest ≠ [] then b :: throughNewline rest else []

theorem afterNewline_plain {bytes : List UInt8} (plain : 10 ∉ bytes) : afterNewline bytes = [] := by
  have all : bytes.dropWhile (· ≠ 10) = [] := by
    rw [List.dropWhile_eq_nil_iff]
    exact fun b member => decide_eq_true (ne_of_mem_of_not_mem member plain)
  rw [afterNewline, all]
  rfl

theorem afterNewline_append {line : List UInt8} (plain : 10 ∉ line) (rest : List UInt8) : afterNewline (line ++ 10 :: rest) = rest := by
  have skip : (line ++ 10 :: rest).dropWhile (· ≠ 10) = 10 :: rest := by
    rw [List.dropWhile_append_of_pos fun b member => decide_eq_true (ne_of_mem_of_not_mem member plain)]
    rfl
  rw [afterNewline, skip]
  rfl

theorem throughNewline_plain {bytes : List UInt8} (plain : 10 ∉ bytes) : throughNewline bytes = [] := by
  induction bytes with
  | nil => rfl
  | cons b rest ih =>
    obtain ⟨here, others⟩ := not_or.mp (mt List.mem_cons.mpr plain)
    simp [throughNewline, ih others, Ne.symm here]

theorem throughNewline_append (line rest : List UInt8) : throughNewline (line ++ 10 :: rest) = line ++ 10 :: throughNewline rest := by
  induction line with
  | nil => simp [throughNewline]
  | cons b line ih =>
    rw [List.cons_append, throughNewline, ih]
    simp

/-! ## What a window holds -/

/-- A window, without its first line, ends where the window ends. -/
theorem afterNewline_window {rs : List (List UInt8)} (rowed : Rowed rs) (a m : Nat) :
    (late a rs).flatten.length ≤ rs.flatten.length ∧ afterNewline ((rs.flatten.drop a).take m) =
      (late a rs).flatten.take (a + m - (rs.flatten.length - (late a rs).flatten.length)) := by
  induction rowed generalizing a with
  | nil => simp [late, afterNewline]
  | @last row some_ plain =>
    have none_ : (late a [row]).flatten = [] := by
      rw [late]
      split_ifs <;> rfl
    have window : 10 ∉ (row.drop a).take m := fun member => plain (List.mem_of_mem_drop (List.mem_of_mem_take member))
    rw [none_, List.flatten_cons, List.flatten_nil, List.append_nil, afterNewline_plain window]
    simp
  | @cons line more plain rest ih =>
    have size : (line ++ [10]).length = line.length + 1 := List.length_append
    have total : (line ++ [10] ++ more.flatten).length = line.length + 1 + more.flatten.length := by rw [List.length_append, size]
    rw [List.flatten_cons, late, total]
    by_cases inside : a < (line ++ [10]).length
    · rw [if_pos inside]
      rw [size] at inside
      refine ⟨by omega, ?_⟩
      have start : ((line ++ [10]) ++ more.flatten).drop a = line.drop a ++ 10 :: more.flatten := by
        rw [List.append_assoc, List.drop_append_of_le_length (by omega)]
        rfl
      have open_ : 10 ∉ line.drop a := fun member => plain (List.mem_of_mem_drop member)
      rw [start]
      by_cases short : m ≤ (line.drop a).length
      · rw [List.take_append_of_le_length short, afterNewline_plain fun member => open_ (List.mem_of_mem_take member)]
        rw [List.length_drop] at short
        rw [show a + m - (line.length + 1 + more.flatten.length - more.flatten.length) = 0 by omega]
        rfl
      · obtain ⟨k, rfl⟩ : ∃ k, m = (line.drop a).length + (k + 1) := ⟨m - (line.drop a).length - 1, by omega⟩
        rw [List.take_length_add_append, List.take_succ_cons, afterNewline_append open_, List.length_drop]
        rw [show a + (line.length - a + (k + 1)) - (line.length + 1 + more.flatten.length - more.flatten.length) = k by omega]
    · rw [if_neg inside]
      obtain ⟨shorter, window⟩ := ih (a - (line ++ [10]).length)
      refine ⟨by omega, ?_⟩
      rw [List.drop_append, List.drop_of_length_le (by omega), List.nil_append, window]
      congr 1
      omega

/-- A window that starts with a row and ends inside the file. -/
theorem throughNewline_window {rs : List (List UInt8)} (rowed : Rowed rs) {m : Nat} (inside : m < rs.flatten.length) :
    throughNewline (rs.flatten.take m) = (whole m rs).flatten := by
  induction rowed generalizing m with
  | nil => exact absurd inside (Nat.not_lt_zero _)
  | @last row some_ plain =>
    rw [List.flatten_cons, List.flatten_nil, List.append_nil] at inside ⊢
    rw [throughNewline_plain fun member => plain (List.mem_of_mem_take member), whole, if_neg (by omega)]
    rfl
  | @cons line more plain rest ih =>
    rw [List.flatten_cons, whole]
    rw [List.flatten_cons, List.length_append] at inside
    by_cases fits : (line ++ [10]).length ≤ m
    · rw [if_pos fits, List.take_append, List.take_of_length_le fits, List.append_assoc, List.singleton_append, throughNewline_append,
        ih (by omega), List.flatten_cons, List.append_assoc]
      rfl
    · rw [if_neg fits]
      rw [List.length_append, List.length_singleton, not_le] at fits
      have start : ((line ++ [10]) ++ more.flatten).take m = line.take m := by
        rw [List.append_assoc, List.take_append_of_le_length (by omega)]
      rw [start, throughNewline_plain fun member => plain (List.mem_of_mem_take member)]
      rfl

theorem late_rowed {rs : List (List UInt8)} (rowed : Rowed rs) (a : Nat) : Rowed (late a rs) := by
  induction rowed generalizing a with
  | nil => exact .nil
  | last some_ plain =>
    rw [late]
    split_ifs <;> exact .nil
  | cons plain rest ih =>
    rw [late]
    split_ifs
    · exact rest
    · exact ih _

theorem whole_rowed {rs : List (List UInt8)} (rowed : Rowed rs) (m : Nat) : Rowed (whole m rs) := by
  induction rowed generalizing m with
  | nil => exact .nil
  | last some_ plain =>
    rw [whole]
    split_ifs
    · exact .last some_ plain
    · exact .nil
  | cons plain rest ih =>
    rw [whole]
    split_ifs
    · exact .cons plain (ih _)
    · exact .nil

theorem whole_all (rs : List (List UInt8)) {m : Nat} (enough : rs.flatten.length ≤ m) : whole m rs = rs := by
  induction rs generalizing m with
  | nil => rfl
  | cons row more ih =>
    rw [List.flatten_cons, List.length_append] at enough
    rw [whole, if_pos (by omega), ih (by omega)]

/-! ## Offsets -/

theorem located_rows (offset : Nat) (rs : List (List UInt8)) : (located offset rs).map Prod.snd = rs := by
  induction rs generalizing offset with
  | nil => rfl
  | cons row more ih => rw [located, List.map_cons, ih]

theorem located_behind {offset : Nat} {rs : List (List UInt8)} {r : Nat × List UInt8} (member : r ∈ located offset rs) : offset ≤ r.1 := by
  induction rs generalizing offset with
  | nil => exact absurd member List.not_mem_nil
  | cons row more ih =>
    rcases List.mem_cons.mp member with rfl | later
    · exact le_rfl
    · exact le_trans (Nat.le_add_right _ _) (ih later)

/-- The rows behind a position. -/
theorem late_located (offset a : Nat) (rs : List (List UInt8)) :
    (late a rs).flatten.length ≤ rs.flatten.length ∧ (located offset rs).filter (fun r => offset + a < r.1) =
      located (offset + (rs.flatten.length - (late a rs).flatten.length)) (late a rs) := by
  induction rs generalizing offset a with
  | nil => exact ⟨le_rfl, rfl⟩
  | cons row more ih =>
    rw [located, late, List.flatten_cons, List.length_append, List.filter_cons_of_neg (by simp)]
    by_cases inside : a < row.length
    · rw [if_pos inside]
      refine ⟨by omega, ?_⟩
      rw [show offset + (row.length + more.flatten.length - more.flatten.length) = offset + row.length by omega, List.filter_eq_self]
      intro r member
      have := located_behind member
      exact decide_eq_true (by omega)
    · rw [if_neg inside]
      obtain ⟨shorter, same⟩ := ih (offset + row.length) (a - row.length)
      refine ⟨by omega, ?_⟩
      rw [show offset + a = offset + row.length + (a - row.length) by omega, same]
      congr 1
      omega

/-- The rows that end before a position. -/
theorem whole_located (offset m : Nat) (rs : List (List UInt8)) :
    (located offset rs).filter (fun r => r.1 + r.2.length ≤ offset + m) = located offset (whole m rs) := by
  induction rs generalizing offset m with
  | nil => rfl
  | cons row more ih =>
    rw [located, whole]
    by_cases fits : row.length ≤ m
    · rw [if_pos fits, located, List.filter_cons_of_pos (by simp only [decide_eq_true_eq]; omega),
        show offset + m = offset + row.length + (m - row.length) by omega, ih]
    · rw [if_neg fits, List.filter_cons_of_neg (by simp only [decide_eq_true_eq]; omega), located, List.filter_eq_nil_iff]
      intro r member
      have := located_behind member
      simp only [decide_eq_true_eq]
      omega

/-! ## Lines -/

/-- The characters at which `str.splitlines` ends a line. -/
def endsLine (c : Char) : Bool := c ∈ ['\n', '\r', '\x0b', '\x0c', '\x1c', '\x1d', '\x1e', '\u0085', '\u2028', '\u2029']

/-- `text.splitlines()`. -/
def splitlines : List Char → List (List Char)
  | [] => []
  | '\r' :: '\n' :: rest => [] :: splitlines rest
  | c :: rest =>
    if endsLine c then [] :: splitlines rest
    else
      match splitlines rest with
      | [] => [[c]]
      | line :: more => (c :: line) :: more

example : splitlines "a\r\nb\x0b\n\nc".toList = ["a", "b", "", "", "c"].map String.toList := by decide

/-- `text.rstrip("\r\n")`. -/
def withoutEnd (text : List Char) : List Char := (text.reverse.dropWhile fun c => c = '\r' || c = '\n').reverse

/-- A row whose text ends at its end, and nowhere before. -/
def Plain (row : List UInt8) : Prop := ∀ c ∈ withoutEnd (decodeFrom none row), endsLine c = false

theorem lead_waits (b : UInt8) (p : Pending) (waits : (lead b).2 = some p) : 0x80 ≤ p.low := by
  unfold lead at waits
  dsimp only at waits
  split_ifs at waits <;> simp only [Option.some.injEq] at waits <;> rw [← waits] <;> dsimp only <;> omega

theorem decodeFrom_newline (pending : Option Pending) (waits : ∀ p, pending = some p → 0x80 ≤ p.low) (line : List UInt8) :
    ∃ text, ∀ rest, decodeFrom pending (line ++ 10 :: rest) = text ++ '\n' :: decodeFrom none rest := by
  have newline : lead 10 = (['\n'], none) := rfl
  induction line generalizing pending with
  | nil =>
    cases pending with
    | none => exact ⟨[], fun rest => by rw [List.nil_append, decodeFrom, newline]; rfl⟩
    | some p =>
      have low := waits p rfl
      have breaks : ¬(p.low ≤ (10 : UInt8).toNat ∧ (10 : UInt8).toNat ≤ p.high) := fun both => by
        have small : (10 : UInt8).toNat = 10 := by decide
        omega
      exact ⟨['\uFFFD'], fun rest => by rw [List.nil_append, decodeFrom, if_neg breaks, newline]; simp only [List.cons_append, List.nil_append]⟩
  | cons b line ih =>
    cases pending with
    | none =>
      obtain ⟨text, same⟩ := ih (lead b).2 (lead_waits b)
      exact ⟨(lead b).1 ++ text, fun rest => by rw [List.cons_append, decodeFrom, same, List.append_assoc]⟩
    | some p =>
      by_cases continues : p.low ≤ b.toNat ∧ b.toNat ≤ p.high
      · by_cases last : p.left = 1
        · obtain ⟨text, same⟩ := ih none nofun
          exact ⟨Char.ofNat (p.bits * 64 + (b.toNat - 0x80)) :: text, fun rest => by
            rw [List.cons_append, decodeFrom, if_pos continues, List.cons_append]
            dsimp only
            rw [if_pos last, same]⟩
        · obtain ⟨text, same⟩ := ih (some ⟨p.bits * 64 + (b.toNat - 0x80), p.left - 1, 0x80, 0xBF⟩) fun q same => by rw [← Option.some.inj same]
          exact ⟨text, fun rest => by
            rw [List.cons_append, decodeFrom, if_pos continues]
            dsimp only
            rw [if_neg last, same]⟩
      · obtain ⟨text, same⟩ := ih (lead b).2 (lead_waits b)
        exact ⟨'\uFFFD' :: (lead b).1 ++ text, fun rest => by
          rw [List.cons_append, decodeFrom, if_neg continues, same]
          exact (List.append_assoc _ _ _).symm⟩

theorem splitlines_ends {c : Char} (ends : endsLine c) {text : List Char} (single : c = '\r' → text.head? ≠ some '\n') :
    splitlines (c :: text) = [] :: splitlines text := by
  rw [splitlines, if_pos ends]
  rintro rest rfl rfl
  exact absurd rfl (single rfl)

theorem splitlines_inside {c : Char} (inside : endsLine c = false) (text : List Char) :
    splitlines (c :: text) = match splitlines text with | [] => [[c]] | line :: more => (c :: line) :: more := by
  rw [splitlines, if_neg (by rw [inside]; decide)]
  rintro rest rfl
  cases inside

theorem splitlines_ne_nil (c : Char) (rest : List Char) : splitlines (c :: rest) ≠ [] := by
  unfold splitlines
  split
  · cases ‹_ = _›
  · exact List.cons_ne_nil _ _
  · split_ifs
    · exact List.cons_ne_nil _ _
    · split <;> exact List.cons_ne_nil _ _

theorem splitlines_newline (text rest : List Char) :
    splitlines (text ++ '\n' :: rest) = splitlines (text ++ ['\n']) ++ splitlines rest := by
  induction text using splitlines.induct with
  | case1 => rfl
  | case2 text ih => exact congrArg ([] :: ·) ih
  | case3 c text single ends ih =>
    cases text with
    | nil =>
      by_cases return_ : c = '\r'
      · subst return_
        rfl
      · rw [List.cons_append, splitlines_ends ends fun same => absurd same return_, ih, List.cons_append,
          splitlines_ends ends fun same => absurd same return_]
        rfl
    | cons d text =>
      have other (more : List Char) : c = '\r' → (d :: text ++ more).head? ≠ some '\n' := fun return_ same =>
        single text return_ (congrArg (· :: text) (Option.some.inj same))
      show splitlines (c :: (d :: text ++ '\n' :: rest)) = splitlines (c :: (d :: text ++ ['\n'])) ++ splitlines rest
      rw [splitlines_ends ends (other _), ih, splitlines_ends ends (other _)]
      rfl
  | case4 c text single inside empty ih =>
    cases text with
    | nil =>
      rw [List.cons_append, List.cons_append, splitlines_inside (by simpa using inside), splitlines_inside (by simpa using inside), ih]
      rfl
    | cons d text => exact absurd empty (splitlines_ne_nil d text)
  | case5 c text single inside line more lines ih =>
    rw [List.cons_append, List.cons_append, splitlines_inside (by simpa using inside), splitlines_inside (by simpa using inside), ih]
    cases first : splitlines (text ++ ['\n']) with
    | nil =>
      cases text with
      | nil => cases first
      | cons d text => exact absurd first (splitlines_ne_nil d _)
    | cons => rfl

theorem splitlines_rows {rs : List (List UInt8)} (rowed : Rowed rs) :
    splitlines (decodeFrom none rs.flatten) = rs.flatMap fun row => splitlines (decodeFrom none row) := by
  induction rowed with
  | nil => rfl
  | last some_ plain => rw [List.flatten_cons, List.flatten_nil, List.append_nil, List.flatMap_cons, List.flatMap_nil, List.append_nil]
  | @cons line more plain rest ih =>
    obtain ⟨text, decoded⟩ := decodeFrom_newline none nofun line
    have row := decoded []
    rw [List.flatten_cons, List.append_assoc, List.singleton_append, decoded, splitlines_newline, ih, List.flatMap_cons, row]
    rfl

theorem splitlines_ends_all {text : List Char} (ends : ∀ c ∈ text, c = '\r' ∨ c = '\n') : ∀ line ∈ splitlines text, line = [] := by
  induction text using splitlines.induct with
  | case1 => exact fun line member => absurd member List.not_mem_nil
  | case2 text ih =>
    intro line member
    rcases List.mem_cons.mp member with rfl | later
    · rfl
    · exact ih (fun c inside => ends c (List.mem_cons_of_mem _ (List.mem_cons_of_mem _ inside))) line later
  | case3 c text single isEnd ih =>
    intro line member
    rw [splitlines, if_pos isEnd] at member
    · rcases List.mem_cons.mp member with rfl | later
      · rfl
      · exact ih (fun c inside => ends c (List.mem_cons_of_mem _ inside)) line later
    · exact single
  | case4 c text single inside empty ih => exact absurd (by rcases ends c List.mem_cons_self with rfl | rfl <;> rfl) inside
  | case5 c text single inside line more lines ih => exact absurd (by rcases ends c List.mem_cons_self with rfl | rfl <;> rfl) inside

theorem splitlines_plain {body tail : List Char} (plain : ∀ c ∈ body, endsLine c = false) (ends : ∀ c ∈ tail, c = '\r' ∨ c = '\n') :
    body = [] ∧ splitlines (body ++ tail) = [] ∨
      ∃ more, splitlines (body ++ tail) = body :: more ∧ ∀ line ∈ more, line = [] := by
  induction body with
  | nil =>
    cases lines : splitlines tail with
    | nil => exact .inl ⟨rfl, lines⟩
    | cons line more =>
      have empty := splitlines_ends_all ends
      rw [lines] at empty
      refine .inr ⟨more, ?_, fun line member => empty line (List.mem_cons_of_mem _ member)⟩
      rw [List.nil_append, lines, empty line List.mem_cons_self]
  | cons c body ih =>
    have inside := plain c List.mem_cons_self
    rw [List.cons_append, splitlines_inside inside]
    refine .inr ?_
    obtain ⟨rfl, none_⟩ | ⟨more, lines, empty⟩ := ih fun c member => plain c (List.mem_cons_of_mem _ member)
    · rw [none_]
      exact ⟨[], rfl, nofun⟩
    · rw [lines]
      exact ⟨more, rfl, empty⟩

theorem withoutEnd_append (text : List Char) : ∃ tail, text = withoutEnd text ++ tail ∧ ∀ c ∈ tail, c = '\r' ∨ c = '\n' := by
  refine ⟨(text.reverse.takeWhile fun c => c = '\r' || c = '\n').reverse, ?_, ?_⟩
  · rw [withoutEnd, ← List.reverse_append, List.takeWhile_append_dropWhile, List.reverse_reverse]
  · intro c member
    simpa using List.mem_takeWhile_imp (List.mem_reverse.mp member)

theorem plain_lines {row : List UInt8} (plain : Plain row) {α : Type} {f : List Char → Option α} (empty : f [] = none) :
    (splitlines (decodeFrom none row)).filterMap f = (f (withoutEnd (decodeFrom none row))).toList := by
  obtain ⟨tail, whole_, ends⟩ := withoutEnd_append (decodeFrom none row)
  have nothing {more : List (List Char)} (empties : ∀ line ∈ more, line = []) : more.filterMap f = [] := by
    rw [List.filterMap_eq_nil_iff]
    intro line member
    rw [empties line member, empty]
  have lines := splitlines_plain plain ends
  rw [← whole_] at lines
  rcases lines with ⟨blank, none_⟩ | ⟨more, some_, empties⟩
  · rw [none_, blank, empty]
    rfl
  · rw [some_, List.filterMap_cons]
    cases f (withoutEnd (decodeFrom none row)) with
    | none => exact nothing empties
    | some x =>
      dsimp only
      rw [nothing empties]
      rfl

end Creeper.IndexRows
