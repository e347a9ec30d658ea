import Creeper.EvidenceSemantics

/-!
# Numbered cursors

A cursor of a lease is a marker before a number in decimal digits. What `isdigit` and `int` make
of the digits, and that a number is read back from the cursor that was written of it.
-/

namespace Creeper.NumberedCursors
open Creeper.PyText Creeper.JsonText Creeper.FabricModels
open Creeper.EvidenceSemantics (decimalDigit isDigitAt)

/-- `int` of a text that `isdigit` accepts; nothing of any other text. -/
def readNumber (raw : PyStr) : Except PyError (Option Nat) :=
  if raw = [] || !raw.all isDigitAt then .ok none
  else
    match raw.mapM decimalDigit with
    | some digits => .ok (some (digits.foldl (fun n d => 10 * n + d) 0))
    | none => .error (.valueError "invalid literal for int() with base 10")

/-- The number behind a marker; nothing of a text without the marker. -/
def readCursor (marker : String) (cursor : PyStr) : Except PyError (Option Nat) :=
  if py marker <+: cursor then readNumber (cursor.drop marker.length) else .ok none

/-- A number behind a marker. -/
def writeCursor (marker : String) (n : Nat) : PyStr := py marker ++ py (toString n)

theorem digit_cases {c : Char} (digit : c.isDigit) :
    c = '0' ∨ c = '1' ∨ c = '2' ∨ c = '3' ∨ c = '4' ∨ c = '5' ∨ c = '6' ∨ c = '7' ∨ c = '8' ∨ c = '9' := by
  have bounds : 48 ≤ c.toNat ∧ c.toNat ≤ 57 := by simpa [Char.isDigit, UInt32.le_iff_toNat_le] using digit
  have cases_ : ∀ n ≤ 57, 48 ≤ n → Char.ofNat n = '0' ∨ Char.ofNat n = '1' ∨ Char.ofNat n = '2' ∨ Char.ofNat n = '3' ∨
      Char.ofNat n = '4' ∨ Char.ofNat n = '5' ∨ Char.ofNat n = '6' ∨ Char.ofNat n = '7' ∨ Char.ofNat n = '8' ∨ Char.ofNat n = '9' := by
    decide
  simpa using cases_ c.toNat bounds.2 bounds.1

theorem decimalDigit_digit {c : Char} (digit : c.isDigit) : decimalDigit (.char c) = some (c.toNat - '0'.toNat) := by
  rcases digit_cases digit with rfl | rfl | rfl | rfl | rfl | rfl | rfl | rfl | rfl | rfl <;> decide +kernel

theorem mapM_digits {digits : List Char} (all : digits.all Char.isDigit) :
    (digits.map CodePoint.char).mapM decimalDigit = some (digits.map fun c => c.toNat - '0'.toNat) := by
  induction digits with
  | nil => rfl
  | cons c rest ih =>
    obtain ⟨first, others⟩ := Bool.and_eq_true_iff.mp all
    rw [List.map_cons, List.mapM_cons, decimalDigit_digit first, ih others]
    rfl

theorem readNumber_digits {digits : List Char} (some_ : digits ≠ []) (all : digits.all Char.isDigit) :
    readNumber (digits.map .char) = .ok (some (Nat.ofDigitChars 10 digits 0)) := by
  have accepted : (digits.map CodePoint.char).all isDigitAt = true := by
    rw [List.all_map, List.all_eq_true]
    intro c member
    simp [isDigitAt, decimalDigit_digit (List.all_eq_true.mp all c member)]
  unfold readNumber
  rw [accepted, mapM_digits all]
  have filled : (digits.map CodePoint.char = []) = False := by simpa using some_
  simp only [filled, decide_false, Bool.not_true, Bool.or_self, Bool.false_eq_true, if_false, List.foldl_map]
  rfl

theorem readNumber_toString (n : Nat) : readNumber (py (toString n)) = .ok (some n) := by
  have digits : py (toString n) = (Nat.toDigits 10 n).map .char := by
    rw [py, Nat.toString_eq_repr, Nat.toList_repr]
  rw [digits, readNumber_digits Nat.toDigits_ne_nil (toDigits_all n), Nat.ofDigitChars_ten_toDigits]

theorem readCursor_writeCursor (marker : String) (n : Nat) : readCursor marker (writeCursor marker n) = .ok (some n) := by
  have marked : py marker <+: writeCursor marker n := List.prefix_append _ _
  have behind : (writeCursor marker n).drop marker.length = py (toString n) :=
    List.drop_left' (by rw [py, List.length_map, String.length_toList])
  rw [readCursor, if_pos marked, behind, readNumber_toString]

end Creeper.NumberedCursors
