import Mathlib

/-!
# Python text

A Python `str` is a sequence of code points, lone surrogates included. Text that
went through UTF-8 (a header, a column of a database) has no surrogate and is a
`String` here.
-/

namespace Creeper.PyText

/-- A code point: a Unicode scalar value or a lone surrogate. -/
inductive CodePoint
  | char (c : Char)
  | surrogate (offset : Fin 2048)
  deriving DecidableEq, Repr

def CodePoint.toNat : CodePoint → Nat
  | .char c => c.toNat
  | .surrogate offset => 0xD800 + offset.val

/-- The code point with a number; numbers outside Unicode give U+FFFD. -/
def CodePoint.ofNat (n : Nat) : CodePoint :=
  if surrogate : 0xD800 ≤ n ∧ n < 0xE000 then .surrogate ⟨n - 0xD800, by omega⟩
  else if n.isValidChar then .char (Char.ofNat n) else .char '\uFFFD'

/-- Python's `str`. -/
abbrev PyStr := List CodePoint

instance lawfulPyStr : LawfulBEq PyStr := inferInstance

/-- The Python text of a string. -/
def py (s : String) : PyStr := s.toList.map .char

/-- `text.encode("utf-8")` succeeds. -/
def encodable (text : PyStr) : Bool := text.all (fun c => match c with | .char _ => true | .surrogate _ => false)

/-- Comparison of texts code point by code point, as Python orders `str`. -/
def before : PyStr → PyStr → Bool
  | _, [] => false
  | [], _ :: _ => true
  | a :: as, b :: bs => a.toNat < b.toNat || a.toNat == b.toNat && before as bs

theorem py_injective : Function.Injective py := by
  intro s t same
  have chars : s.toList = t.toList := List.map_injective_iff.mpr (fun a b h => CodePoint.char.inj h) same
  exact String.toList_injective chars

@[simp] theorem py_encodable (s : String) : encodable (py s) = true := by
  simp [encodable, py]

theorem CodePoint.toNat_injective : Function.Injective CodePoint.toNat := by
  intro a b same
  cases a with
  | char c =>
    cases b with
    | char d => exact congrArg _ (Char.toNat_inj.mp same)
    | surrogate k =>
      have valid := c.valid
      have := k.isLt
      simp only [CodePoint.toNat, Char.toNat] at same
      simp only [UInt32.isValidChar, Nat.isValidChar] at valid
      omega
  | surrogate k =>
    cases b with
    | char d =>
      have valid := d.valid
      have := k.isLt
      simp only [CodePoint.toNat, Char.toNat] at same
      simp only [UInt32.isValidChar, Nat.isValidChar] at valid
      omega
    | surrogate j =>
      simp only [CodePoint.toNat] at same
      exact congrArg _ (Fin.ext (by omega))

theorem before_irrefl (s : PyStr) : before s s = false := by
  induction s with
  | nil => rfl
  | cons a as ih => simp [before, ih]

theorem before_trans {s t u : PyStr} (first : before s t) (second : before t u) : before s u := by
  induction s generalizing t u with
  | nil =>
    cases t with
    | nil => simp [before] at first
    | cons b bs =>
      cases u with
      | nil => simp [before] at second
      | cons c cs => rfl
  | cons a as ih =>
    cases t with
    | nil => simp [before] at first
    | cons b bs =>
      cases u with
      | nil => simp [before] at second
      | cons c cs =>
        simp only [before, Bool.or_eq_true, decide_eq_true_eq, Bool.and_eq_true, beq_iff_eq] at *
        rcases first with first | ⟨first, later⟩
        · left
          rcases second with second | ⟨second, -⟩ <;> omega
        · rcases second with second | ⟨second, rest⟩
          · left; omega
          · exact .inr ⟨by omega, ih later rest⟩

theorem before_total {s t : PyStr} (first : before s t = false) (second : before t s = false) : s = t := by
  induction s generalizing t with
  | nil =>
    cases t with
    | nil => rfl
    | cons b bs => simp [before] at first
  | cons a as ih =>
    cases t with
    | nil => simp [before] at second
    | cons b bs =>
      simp only [before, Bool.or_eq_false_iff, decide_eq_false_iff_not, Bool.and_eq_false_imp, beq_iff_eq] at first second
      have same : a.toNat = b.toNat := by omega
      rw [CodePoint.toNat_injective same, ih (first.2 same) (second.2 same.symm)]

/-- `str.isspace` of one character. -/
def isSpace (c : Char) : Bool :=
  let n := c.toNat
  9 ≤ n && n ≤ 13 || 28 ≤ n && n ≤ 32 || n == 0x85 || n == 0xA0 || n == 0x1680 || 0x2000 ≤ n && n ≤ 0x200A ||
    n == 0x2028 || n == 0x2029 || n == 0x202F || n == 0x205F || n == 0x3000

/-- `str.strip()`. -/
def strip (s : String) : String :=
  String.ofList ((s.toList.dropWhile isSpace).reverse.dropWhile isSpace).reverse

end Creeper.PyText
