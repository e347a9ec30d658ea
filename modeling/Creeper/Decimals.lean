import Mathlib

/-!
# Decimal numbers

A coefficient and an exponent, as a decimal context computes with them: an exact result with
more digits than the precision is rounded to the nearest, an even one in the middle. Signs,
infinities and the bounds of exponents are left out. A sum whose terms lie on one grid, and
which is short enough, is exact.
-/

namespace Creeper.Decimals

/-- A decimal number that is not negative. -/
structure Decimal where
  coefficient : Nat
  exponent : Int
  deriving DecidableEq

namespace Decimal

/-- The number that it stands for. -/
def value (d : Decimal) : ℚ := d.coefficient * (10 : ℚ) ^ d.exponent

/-- `Decimal(n)`. -/
def ofNat (n : Nat) : Decimal := ⟨n, 0⟩

/-- The number of digits of a number that is not zero. -/
def digits (n : Nat) : Nat := Nat.log 10 n + 1

/-- A number without its last digits: the nearest, an even one in the middle. -/
def shorten (n shift : Nat) : Nat :=
  let quotient := n / 10 ^ shift
  let rest := 2 * (n % 10 ^ shift)
  if rest < 10 ^ shift ∨ rest = 10 ^ shift ∧ quotient % 2 = 0 then quotient else quotient + 1

/-- An exact result, rounded to a precision. -/
def fix (precision : Nat) (d : Decimal) : Decimal :=
  if d.coefficient < 10 ^ precision then d
  else
    let shift := digits d.coefficient - precision
    let short := shorten d.coefficient shift
    if short < 10 ^ precision then ⟨short, d.exponent + shift⟩ else ⟨short / 10, d.exponent + shift + 1⟩

/-- The exact sum, at the lower exponent. -/
def plus (a b : Decimal) : Decimal :=
  let exponent := min a.exponent b.exponent
  ⟨a.coefficient * 10 ^ (a.exponent - exponent).toNat + b.coefficient * 10 ^ (b.exponent - exponent).toNat, exponent⟩

/-- The exact product. -/
def times (a b : Decimal) : Decimal := ⟨a.coefficient * b.coefficient, a.exponent + b.exponent⟩

def add (precision : Nat) (a b : Decimal) : Decimal := fix precision (plus a b)

def mul (precision : Nat) (a b : Decimal) : Decimal := fix precision (times a b)

/-- `sum(terms, Decimal("0"))`. -/
def sum (precision : Nat) (terms : List Decimal) : Decimal := terms.foldl (add precision) (ofNat 0)

/-- Zeros at the end go, up to an exponent. -/
def trim : Nat → Nat → Int → Int → Decimal
  | 0, coefficient, exponent, _ => ⟨coefficient, exponent⟩
  | fuel + 1, coefficient, exponent, ideal =>
    if exponent < ideal ∧ coefficient % 10 = 0 then trim fuel (coefficient / 10) (exponent + 1) ideal else ⟨coefficient, exponent⟩

/-- The quotient by a number that is not zero. -/
def div (precision : Nat) (a b : Decimal) : Decimal :=
  if a.coefficient = 0 then fix precision ⟨0, a.exponent - b.exponent⟩
  else
    let shift : Int := (digits b.coefficient : Int) - digits a.coefficient + precision + 1
    let dividend := a.coefficient * 10 ^ shift.toNat
    let divisor := b.coefficient * 10 ^ (-shift).toNat
    let quotient := dividend / divisor
    let exponent := a.exponent - b.exponent - shift
    if dividend % divisor = 0 then fix precision (trim (shift.toNat) quotient exponent (a.exponent - b.exponent))
    -- an inexact quotient must not look like one in the middle
    else fix precision ⟨if quotient % 5 = 0 then quotient + 1 else quotient, exponent⟩

/-- `format(d, "f")`. -/
def format (d : Decimal) : String :=
  if 0 ≤ d.exponent then
    if d.coefficient = 0 then "0" else toString d.coefficient ++ String.ofList (List.replicate d.exponent.toNat '0')
  else
    let places := (-d.exponent).toNat
    let padded := List.leftpad (places + 1) '0' (toString d.coefficient).toList
    String.ofList (padded.take (padded.length - places) ++ '.' :: padded.drop (padded.length - places))

end Decimal

example : (Decimal.add 28 ⟨5555555555555555555555555555, -28⟩ ⟨1111111111111111111111111111, -27⟩) = ⟨1666666666666666666666666666, -27⟩ ∧
    Decimal.div 28 ⟨1, 0⟩ ⟨3, 0⟩ = ⟨3333333333333333333333333333, -28⟩ ∧ Decimal.div 50 ⟨10, 0⟩ ⟨4, 0⟩ = ⟨25, -1⟩ ∧
    (⟨25, -3⟩ : Decimal).format = "0.025" ∧ (⟨25, 2⟩ : Decimal).format = "2500" := by
  decide +kernel

end Creeper.Decimals
