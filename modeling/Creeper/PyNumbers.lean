import Creeper.PyText

/-!
# Python numbers

Finite values are exact rationals; the infinities and the value that compares
with nothing are kept, since guards written with `<=` let them through.
-/

namespace Creeper.PyNumbers
open Creeper.PyText

/-- A Python `float` with exact finite values. -/
inductive PyFloat
  | negInf
  | fin (value : ℚ)
  | posInf
  | nan
  deriving DecidableEq, Repr

namespace PyFloat

instance : Coe ℚ PyFloat := ⟨fin⟩

def isNan : PyFloat → Bool
  | nan => true
  | _ => false

/-- `math.isfinite`. -/
def isFinite : PyFloat → Bool
  | fin _ => true
  | _ => false

/-- `a + b`. -/
def add : PyFloat → PyFloat → PyFloat
  | fin a, fin b => fin (a + b)
  | nan, _ | _, nan => nan
  | negInf, posInf | posInf, negInf => nan
  | posInf, _ | _, posInf => posInf
  | negInf, _ | _, negInf => negInf

/-- `-a`. -/
def neg : PyFloat → PyFloat
  | negInf => posInf
  | fin a => fin (-a)
  | posInf => negInf
  | nan => nan

/-- `a - b`. -/
def sub (a b : PyFloat) : PyFloat := a.add b.neg

/-- `abs(a)`. -/
def abs : PyFloat → PyFloat
  | fin a => fin |a|
  | nan => nan
  | negInf | posInf => posInf

/-- `a < b`. -/
def lt : PyFloat → PyFloat → Bool
  | nan, _ | _, nan => false
  | fin a, fin b => a < b
  | negInf, negInf => false
  | negInf, _ => true
  | fin _, posInf => true
  | _, _ => false

/-- `a <= b`. -/
def le : PyFloat → PyFloat → Bool
  | nan, _ | _, nan => false
  | fin a, fin b => a ≤ b
  | negInf, _ => true
  | _, posInf => true
  | _, _ => false

/-- `max(a, b)`: the first unless the second is greater. -/
def max (a b : PyFloat) : PyFloat := if a.lt b then b else a

/-- What a REAL column of SQLite keeps: NULL for the value that is no number. -/
def column : PyFloat → Option PyFloat
  | nan => none
  | x => some x

@[simp] theorem lt_fin (a b : ℚ) : lt (fin a) (fin b) = decide (a < b) := rfl
@[simp] theorem le_fin (a b : ℚ) : le (fin a) (fin b) = decide (a ≤ b) := rfl
@[simp] theorem add_fin (a b : ℚ) : add (fin a) (fin b) = fin (a + b) := rfl
@[simp] theorem column_nan : column nan = none := rfl
@[simp] theorem column_fin (a : ℚ) : column (fin a) = some (fin a) := rfl

@[simp] theorem lt_self (x : PyFloat) : x.lt x = false := by
  cases x <;> simp [lt]

theorem column_of_ne {x : PyFloat} (number : x ≠ nan) : column x = some x := by
  cases x <;> simp_all [column]

theorem column_ne_nan (x : PyFloat) : column x ≠ some nan := by
  cases x <;> simp [column]

/-- A bound above a later reading of the clock is above an earlier one. -/
theorem lt_of_le_lt {a b : ℚ} {x : PyFloat} (earlier : a ≤ b) (above : lt (fin b) x) : lt (fin a) x := by
  cases x with
  | fin c =>
    simp only [lt_fin, decide_eq_true_eq] at *
    linarith
  | posInf => rfl
  | negInf | nan => simp [lt] at above

/-- A number is above a reading of the clock, or not above it. -/
theorem le_iff_not_lt {a : ℚ} {x : PyFloat} (number : x ≠ nan) : le x (fin a) = !lt (fin a) x := by
  cases x with
  | fin c => simp [lt_fin, le_fin, ← not_lt]
  | posInf | negInf => rfl
  | nan => exact absurd rfl number

theorem add_ne_nan {a : ℚ} {x : PyFloat} (number : x ≠ nan) : add (fin a) x ≠ nan := by
  cases x <;> simp_all [add]

end PyFloat

/-! ## `float` of a text -/

/-- The zeros of the decimal digits of Unicode 15. -/
def digitZeros : List Nat := [
  0x30, 0x660, 0x6f0, 0x7c0, 0x966, 0x9e6, 0xa66, 0xae6, 0xb66, 0xbe6, 0xc66, 0xce6, 0xd66, 0xde6, 0xe50, 0xed0, 0xf20,
  0x1040, 0x1090, 0x17e0, 0x1810, 0x1946, 0x19d0, 0x1a80, 0x1a90, 0x1b50, 0x1bb0, 0x1c40, 0x1c50, 0xa620, 0xa8d0,
  0xa900, 0xa9d0, 0xa9f0, 0xaa50, 0xabf0, 0xff10, 0x104a0, 0x10d30, 0x11066, 0x110f0, 0x11136, 0x111d0, 0x112f0,
  0x11450, 0x114d0, 0x11650, 0x116c0, 0x11730, 0x118e0, 0x11950, 0x11c50, 0x11d50, 0x11da0, 0x11f50, 0x16a60, 0x16ac0,
  0x16b50, 0x1d7ce, 0x1d7d8, 0x1d7e2, 0x1d7ec, 0x1d7f6, 0x1e140, 0x1e2f0, 0x1e4f0, 0x1e950, 0x1fbf0]

/-- Digits and spaces in ASCII; no number holds any other character beyond it. -/
def asciiForm (c : Char) : Char :=
  if c.toNat < 127 then c
  else if isSpace c then ' '
  else
    match digitZeros.find? (fun start => start ≤ c.toNat && c.toNat < start + 10) with
    | some start => Char.ofNat (0x30 + (c.toNat - start))
    | none => '?'

def cSpace (c : Char) : Bool := c == ' ' || 9 ≤ c.toNat && c.toNat ≤ 13

/-- Underscores taken out; each stands between two digits. -/
def withoutUnderscores : Char → List Char → Option (List Char)
  | prev, [] => if prev = '_' then none else some []
  | prev, c :: rest =>
    if c = '_' then (if prev.isDigit then withoutUnderscores c rest else none)
    else if prev = '_' && !c.isDigit then none
    else (withoutUnderscores c rest).map (c :: ·)

/-- The number that a row of decimal digits stands for. -/
def natOfDigits (digits : List Char) : Nat := digits.foldl (fun n c => 10 * n + (c.toNat - 0x30)) 0

/-- The nearest integer, an even one in the middle. -/
def roundHalfEven (x : ℚ) : ℤ :=
  if x - ⌊x⌋ < 1 / 2 || x - ⌊x⌋ = 1 / 2 && ⌊x⌋ % 2 = 0 then ⌊x⌋ else ⌊x⌋ + 1

/-- The double nearest to a number that is not negative. -/
def nearestDouble (q : ℚ) : PyFloat :=
  if q = 0 then .fin 0
  else
    let bits : ℤ := q.num.natAbs.log2 - q.den.log2
    let top := if q < (2 : ℚ) ^ bits then bits - 1 else bits
    let ulp := (2 : ℚ) ^ (Max.max (top - 52) (-1074))
    let rounded := ulp * roundHalfEven (q / ulp)
    if (2 : ℚ) ^ 1024 ≤ rounded then .posInf else .fin rounded

def signOf : List Char → Bool × List Char
  | '+' :: rest => (false, rest)
  | '-' :: rest => (true, rest)
  | chars => (false, chars)

/-- The exponent at the end of a number. -/
def exponentOf : List Char → Option ℤ
  | [] => some 0
  | e :: rest =>
    let (negative, digits) := signOf rest
    if (e = 'e' || e = 'E') && !digits.isEmpty && digits.all Char.isDigit then
      some (if negative then -(natOfDigits digits : ℤ) else natOfDigits digits)
    else none

/-- An unsigned number in decimal notation. -/
def decimalOf (chars : List Char) : Option PyFloat :=
  let whole := chars.takeWhile Char.isDigit
  let afterWhole := chars.dropWhile Char.isDigit
  let (fraction, rest) :=
    match afterWhole with
    | '.' :: more => (more.takeWhile Char.isDigit, more.dropWhile Char.isDigit)
    | _ => ([], afterWhole)
  if whole.isEmpty && fraction.isEmpty then none
  else (exponentOf rest).map fun exponent : ℤ =>
    nearestDouble (natOfDigits (whole ++ fraction) * (10 : ℚ) ^ (exponent - fraction.length))

/-- `float(text)`; no number is a `ValueError`. -/
def floatOf (text : String) : Option PyFloat :=
  let ascii := (((text.toList.map asciiForm).dropWhile cSpace).reverse.dropWhile cSpace).reverse
  match withoutUnderscores '\x00' ascii with
  | none => none
  | some chars =>
    let (negative, unsigned) := signOf chars
    let name := String.ofList (unsigned.map Char.toLower)
    let value :=
      if name = "inf" || name = "infinity" then some PyFloat.posInf
      else if name = "nan" then some PyFloat.nan
      else decimalOf unsigned
    value.map (fun x => if negative then x.neg else x)

example : floatOf " -1_0.5e1\n" = some (.fin (-105)) ∧ floatOf "1e400" = some .posInf ∧ floatOf "١٢" = some (.fin 12) ∧
    floatOf "+NaN" = some .nan ∧ floatOf "1__0" = none ∧ floatOf "1e" = none := by
  decide +kernel

end Creeper.PyNumbers
