import Mathlib

/-!
# Lines of an archive entry

`submission/streaming_reader.py`: an entry is read in chunks and split at newlines, and each
line is decoded with replacement characters. How the chunks fall makes no difference.
-/

namespace Creeper.ArchiveLines

/-! ## UTF-8 with replacements -/

/-- A sequence that is not complete yet: its bits, the bytes still to come, and the range of the next. -/
structure Pending where
  bits : Nat
  left : Nat
  low : Nat
  high : Nat

/-- A first byte: a character of its own, the start of a sequence, or neither. -/
def lead (byte : UInt8) : List Char × Option Pending :=
  let b := byte.toNat
  if b < 0x80 then ([Char.ofNat b], none)
  else if b < 0xC2 then (['\uFFFD'], none)
  else if b < 0xE0 then ([], some ⟨b - 0xC0, 1, 0x80, 0xBF⟩)
  else if b < 0xF0 then ([], some ⟨b - 0xE0, 2, if b = 0xE0 then 0xA0 else 0x80, if b = 0xED then 0x9F else 0xBF⟩)
  else if b < 0xF5 then ([], some ⟨b - 0xF0, 3, if b = 0xF0 then 0x90 else 0x80, if b = 0xF4 then 0x8F else 0xBF⟩)
  else (['\uFFFD'], none)

/-- What is broken off becomes one replacement character. -/
def decodeFrom : Option Pending → List UInt8 → List Char
  | none, [] => []
  | some _, [] => ['\uFFFD']
  | none, b :: rest => (lead b).1 ++ decodeFrom (lead b).2 rest
  | some p, b :: rest =>
    if p.low ≤ b.toNat ∧ b.toNat ≤ p.high then
      let bits := p.bits * 64 + (b.toNat - 0x80)
      if p.left = 1 then Char.ofNat bits :: decodeFrom none rest
      else decodeFrom (some ⟨bits, p.left - 1, 0x80, 0xBF⟩) rest
    else '\uFFFD' :: (lead b).1 ++ decodeFrom (lead b).2 rest

/-- `bytes.decode("utf-8", errors="replace")`. -/
def decode (bytes : List UInt8) : String := String.ofList (decodeFrom none bytes)

example : decode [0x61, 0xC3, 0xA9, 0xE2, 0x82, 0xAC, 0xF0, 0x9F, 0x98, 0x80] = "aé€😀" ∧
    decode [0xE2, 0x82, 0x28, 0xC0, 0xF0, 0x80, 0xED, 0xA0, 0x80, 0xE2, 0x82] = "\uFFFD(\uFFFD\uFFFD\uFFFD\uFFFD\uFFFD\uFFFD\uFFFD" := by
  decide +kernel

/-! ## Lines -/

/-- A line without its carriage return, decoded. -/
def decodeLine (line : List UInt8) : String := decode (if line.getLast? = some 13 then line.dropLast else line)

/-- The loop of `iter_archive_lines`: a chunk ends the line that is pending when it has a newline. -/
def linesOfChunks : List UInt8 → List (List UInt8) → List (List UInt8)
  | pending, [] => if pending = [] then [] else [pending]
  | pending, chunk :: rest =>
    let lines := (pending ++ chunk).splitOn 10
    lines.dropLast ++ linesOfChunks (lines.getLastD []) rest

/-- What `read(size)` gives, call after call. -/
def chunks (size : Nat) : Nat → List UInt8 → List (List UInt8)
  | 0, _ | _ + 1, [] => []
  | n + 1, b :: rest => (b :: rest).take size :: chunks size n ((b :: rest).drop size)

/-- `iter_archive_lines`, with its chunk size. -/
def iterArchiveLines (content : List UInt8) : List String := (linesOfChunks [] (chunks (64 * 1024) content.length content)).map decodeLine

/-- The lines of a content; nothing follows the last newline. -/
def linesOf (content : List UInt8) : List (List UInt8) :=
  let lines := content.splitOn 10
  lines.dropLast ++ (if lines.getLastD [] = [] then [] else [lines.getLastD []])

section
variable {α : Type}

theorem getLastD_append (xs : List α) {ys : List α} (some_ : ys ≠ []) (d : α) : (xs ++ ys).getLastD d = ys.getLastD d := by
  rw [List.getLastD_eq_getLast?, List.getLastD_eq_getLast?, List.getLast?_append_of_ne_nil xs some_]

theorem dropLast_append_getLastD {xs : List α} (some_ : xs ≠ []) (d : α) : xs.dropLast ++ [xs.getLastD d] = xs := by
  rw [List.getLastD_eq_getLast?, List.getLast?_eq_some_getLast some_, Option.getD_some, List.dropLast_append_getLast some_]

variable [BEq α]

theorem splitOn_ne_nil (a : α) (xs : List α) : xs.splitOn a ≠ [] := List.splitOnP_ne_nil _ xs

/-- To split a part, and then its last piece with what follows. -/
theorem splitOn_append (a : α) (xs ys : List α) :
    (xs ++ ys).splitOn a = (xs.splitOn a).dropLast ++ ((xs.splitOn a).getLastD [] ++ ys).splitOn a := by
  induction xs with
  | nil => rfl
  | cons x xs ih =>
    have cut (l : List α) : (x :: l).splitOn a = if x == a then [] :: l.splitOn a else (l.splitOn a).modifyHead (x :: ·) :=
      List.splitOnP_cons_eq_if_modifyHead x l
    rw [List.cons_append, cut, cut, ih]
    obtain ⟨head, tail, pieces⟩ := List.exists_cons_of_ne_nil (splitOn_ne_nil a xs)
    rw [pieces]
    by_cases newline : x == a
    · rw [if_pos newline, if_pos newline]
      simp
    · rw [if_neg newline, if_neg newline]
      cases tail with
      | nil =>
        simp only [List.modifyHead_cons, List.dropLast_singleton, List.nil_append, List.getLastD_cons, List.getLastD_nil, List.cons_append]
        rw [cut, if_neg newline]
      | cons second tail => simp

theorem splitOn_last (a : α) (xs : List α) : ((xs.splitOn a).getLastD []).splitOn a = [(xs.splitOn a).getLastD []] := by
  have whole := splitOn_append a xs []
  rw [List.append_nil, List.append_nil] at whole
  exact List.append_cancel_left (whole.symm.trans (dropLast_append_getLastD (splitOn_ne_nil a xs) []).symm)

end

/-- The chunks make no difference. -/
theorem linesOfChunks_eq (pending : List UInt8) (one : pending.splitOn 10 = [pending]) (parts : List (List UInt8)) :
    linesOfChunks pending parts = linesOf (pending ++ parts.flatten) := by
  induction parts generalizing pending with
  | nil =>
    rw [List.flatten_nil, List.append_nil, linesOf, one]
    rfl
  | cons chunk rest ih =>
    rw [linesOfChunks, ih _ (splitOn_last 10 (pending ++ chunk)), List.flatten_cons, ← List.append_assoc]
    have split_ := splitOn_append 10 (pending ++ chunk) rest.flatten
    have some_ := splitOn_ne_nil (10 : UInt8) (((pending ++ chunk).splitOn 10).getLastD [] ++ rest.flatten)
    simp only [linesOf]
    rw [split_, List.dropLast_append_of_ne_nil some_, List.append_assoc]
    rw [getLastD_append _ some_]

theorem chunks_flatten {size : Nat} (positive : 0 < size) (n : Nat) (content : List UInt8) (enough : content.length ≤ n) :
    (chunks size n content).flatten = content := by
  induction n generalizing content with
  | zero => rw [List.eq_nil_of_length_eq_zero (Nat.le_zero.mp enough)]; rfl
  | succ n ih =>
    cases content with
    | nil => rfl
    | cons b rest =>
      have shorter : ((b :: rest).drop size).length ≤ n := by
        rw [List.length_drop]
        omega
      rw [chunks, List.flatten_cons, ih _ shorter, List.take_append_drop]

/-- `iter_archive_lines` gives the lines of the entry. -/
theorem iterArchiveLines_eq (content : List UInt8) : iterArchiveLines content = (linesOf content).map decodeLine := by
  rw [iterArchiveLines, linesOfChunks_eq [] rfl, List.nil_append, chunks_flatten (by norm_num) _ _ le_rfl]

end Creeper.ArchiveLines
