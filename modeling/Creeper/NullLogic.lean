import Mathlib

/-!
# Truth with NULL

Conditions of SQL over columns that may be NULL, the rows that a `WHERE` clause
selects, and left joins.
-/

namespace Creeper.NullLogic

/-- TRUE, FALSE, or NULL. -/
abbrev Truth := Option Bool

namespace Truth

/-- `a AND b`. -/
def and : Truth → Truth → Truth
  | some false, _ | _, some false => some false
  | some true, some true => some true
  | _, _ => none

/-- `a OR b`. -/
def or : Truth → Truth → Truth
  | some true, _ | _, some true => some true
  | some false, some false => some false
  | _, _ => none

/-- `NOT a`. -/
def not (a : Truth) : Truth := a.map (!·)

def selects (a : Truth) : Bool := a == some true

def refutes (a : Truth) : Bool := a == some false

@[simp] theorem selects_some (a : Bool) : selects (some a) = a := by cases a <;> rfl
@[simp] theorem refutes_some (a : Bool) : refutes (some a) = !a := by cases a <;> rfl
@[simp] theorem selects_none : selects none = false := rfl
@[simp] theorem refutes_none : refutes none = false := rfl

@[simp] theorem selects_and (a b : Truth) : selects (a.and b) = (selects a && selects b) := by
  rcases a with _ | _ | _ <;> rcases b with _ | _ | _ <;> rfl

@[simp] theorem refutes_and (a b : Truth) : refutes (a.and b) = (refutes a || refutes b) := by
  rcases a with _ | _ | _ <;> rcases b with _ | _ | _ <;> rfl

@[simp] theorem selects_or (a b : Truth) : selects (a.or b) = (selects a || selects b) := by
  rcases a with _ | _ | _ <;> rcases b with _ | _ | _ <;> rfl

@[simp] theorem refutes_or (a b : Truth) : refutes (a.or b) = (refutes a && refutes b) := by
  rcases a with _ | _ | _ <;> rcases b with _ | _ | _ <;> rfl

@[simp] theorem selects_not (a : Truth) : selects a.not = refutes a := by
  rcases a with _ | _ | _ <;> rfl

@[simp] theorem refutes_not (a : Truth) : refutes a.not = selects a := by
  rcases a with _ | _ | _ <;> rfl

end Truth

section
variable {Left Right : Type*}

/-- `LEFT JOIN`: every row of the left with the rows of the right that match it, or with NULL. -/
def leftJoin (left : List Left) (right : List Right) (on : Left → Right → Bool) : List (Left × Option Right) :=
  left.flatMap (fun a =>
    match right.filter (on a) with
    | [] => [(a, none)]
    | matches_ => matches_.map (fun b => (a, some b)))

theorem leftJoin_unique {left : List Left} {right : List Right} {on : Left → Right → Bool} (lookup : Left → Option Right)
    (unique : ∀ a, right.filter (on a) = (lookup a).toList) :
    leftJoin left right on = left.map (fun a => (a, lookup a)) := by
  unfold leftJoin
  induction left with
  | nil => rfl
  | cons a rest ih =>
    rw [List.flatMap_cons, ih, unique, List.map_cons]
    cases lookup a <;> rfl

end

end Creeper.NullLogic
