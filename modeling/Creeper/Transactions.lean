import Mathlib

/-!
# Procedures made of transactions

A procedure over a shared state is a sequence of transactions. Each reads and writes the state
in one step, and what it read decides how the procedure goes on. Between two of them the
process may die or others may write. A call is a procedure that may raise.
-/

namespace Creeper.Transactions

/-- A procedure that ends with an answer. -/
inductive Script (State Answer : Type)
  | done (answer : Answer)
  | txn (write : State → State) (next : State → Script State Answer)

namespace Script
variable {State Outer Answer Result : Type}

/-- One procedure, then another that knows its answer. -/
def bind : Script State Answer → (Answer → Script State Result) → Script State Result
  | done answer, rest => rest answer
  | txn write next, rest => txn write fun s => (next s).bind rest

instance : Monad (Script State) where
  pure := done
  bind := bind

/-- The answer and the state after a run that nothing interrupts. -/
def run : Script State Answer → State → Answer × State
  | done answer, s => (answer, s)
  | txn write next, s => (next s).run (write s)

/-- The state of a procedure that dies after some transactions. -/
def stopped : Nat → Script State Answer → State → State
  | n + 1, txn write next, s => stopped n (next s) (write s)
  | 0, txn _ _, s | _, done _, s => s

def within (part : Outer → State) (put : State → Outer → Outer) : Script State Answer → Script Outer Answer
  | done answer => done answer
  | txn write next => txn (fun t => put (write (part t)) t) fun t => (next (part t)).within part put

theorem run_bind (x : Script State Answer) (f : Answer → Script State Result) (s : State) :
    (x.bind f).run s = (f (x.run s).1).run (x.run s).2 := by
  induction x generalizing s with
  | done answer => rfl
  | txn write next ih => exact ih s (write s)

theorem run_within {part : Outer → State} {put : State → Outer → Outer} (get_put : ∀ s t, part (put s t) = s)
    (put_put : ∀ s s' t, put s' (put s t) = put s' t) (put_get : ∀ t, put (part t) t = t)
    (x : Script State Answer) (t : Outer) :
    (x.within part put).run t = ((x.run (part t)).1, put (x.run (part t)).2 t) := by
  induction x generalizing t with
  | done answer => simp only [within, run, put_get]
  | txn write next ih => simp only [within, run, ih, get_put, put_put]

end Script

/-! ## Calls -/

/-- A procedure that may raise. -/
abbrev Call (State Error : Type) := ExceptT Error (Script State)

namespace Call
variable {State Outer Error Fault Answer Result : Type}

def atomic (f : State → Except Error Answer × State) : Call State Error Answer :=
  ExceptT.mk (.txn (fun s => (f s).2) fun s => .done (f s).1)

def ofExcept (result : Except Error Answer) : Call State Error Answer := ExceptT.mk (.done result)

/-- What a call returns or raises, and the state after it, when nothing interrupts it. -/
def perform (x : Call State Error Answer) (s : State) : Except Error Answer × State := Script.run (ExceptT.run x) s

/-- A call on a part of the state, whose errors become those of the caller. -/
def within (part : Outer → State) (put : State → Outer → Outer) (wrap : Error → Fault) (x : Call State Error Answer) :
    Call Outer Fault Answer :=
  ExceptT.mk ((Script.within part put (ExceptT.run x)).bind fun result => .done (result.mapError wrap))

/-- `try: ... finally: ...`. -/
def andFinally (x : Call State Error Answer) (cleanup : Call State Error Unit) : Call State Error Answer :=
  ExceptT.mk ((ExceptT.run x).bind fun result => (ExceptT.run cleanup).bind fun cleaned => .done (cleaned.bind fun _ => result))

@[simp] theorem perform_atomic (f : State → Except Error Answer × State) (s : State) : perform (atomic f) s = f s := rfl

@[simp] theorem perform_pure (answer : Answer) (s : State) :
    perform (pure answer : Call State Error Answer) s = (.ok answer, s) := rfl

@[simp] theorem perform_throw (err : Error) (s : State) :
    perform (throw err : Call State Error Answer) s = (.error err, s) := rfl

theorem perform_bind (x : Call State Error Answer) (f : Answer → Call State Error Result) (s : State) :
    perform (x >>= f) s = match perform x s with
      | (.ok answer, s') => perform (f answer) s'
      | (.error err, s') => (.error err, s') := by
  refine (Script.run_bind (ExceptT.run x) _ s).trans ?_
  unfold perform
  rcases Script.run (ExceptT.run x) s with ⟨err | answer, s'⟩ <;> rfl

theorem perform_bind_ok {x : Call State Error Answer} {s s' : State} {answer : Answer}
    (returns : perform x s = (.ok answer, s')) (f : Answer → Call State Error Result) :
    perform (x >>= f) s = perform (f answer) s' := by
  rw [perform_bind, returns]

theorem perform_bind_error {x : Call State Error Answer} {s s' : State} {err : Error}
    (raises : perform x s = (.error err, s')) (f : Answer → Call State Error Result) :
    perform (x >>= f) s = (.error err, s') := by
  rw [perform_bind, raises]

theorem perform_tryCatch (x : Call State Error Answer) (handler : Error → Call State Error Answer) (s : State) :
    perform (tryCatch x handler) s = match perform x s with
      | (.ok answer, s') => (.ok answer, s')
      | (.error err, s') => perform (handler err) s' := by
  refine (Script.run_bind (ExceptT.run x) _ s).trans ?_
  unfold perform
  rcases Script.run (ExceptT.run x) s with ⟨err | answer, s'⟩ <;> rfl

theorem perform_andFinally (x : Call State Error Answer) (cleanup : Call State Error Unit) (s : State) :
    perform (x.andFinally cleanup) s =
      ((perform cleanup (perform x s).2).1.bind fun _ => (perform x s).1, (perform cleanup (perform x s).2).2) := by
  refine (Script.run_bind (ExceptT.run x) _ s).trans ?_
  refine (Script.run_bind (ExceptT.run cleanup) _ _).trans ?_
  rfl

theorem perform_within (part : Outer → State) (put : State → Outer → Outer) (get_put : ∀ s t, part (put s t) = s)
    (put_put : ∀ s s' t, put s' (put s t) = put s' t) (put_get : ∀ t, put (part t) t = t) (wrap : Error → Fault)
    (x : Call State Error Answer) (t : Outer) :
    perform (x.within part put wrap) t = ((perform x (part t)).1.mapError wrap, put (perform x (part t)).2 t) := by
  have inner := Script.run_within get_put put_put put_get (ExceptT.run x) t
  refine (Script.run_bind _ _ t).trans ?_
  rw [inner]
  rfl

end Call

end Creeper.Transactions
