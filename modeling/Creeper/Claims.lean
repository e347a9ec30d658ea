import Creeper.Runs
import Creeper.PyNumbers

/-!
# Claims that expire

What owners learn about their claims on keys along a run: that they hold one until a
time, or that it has ended. An owner whose last news is a time that has not passed
believes that it holds the key; the rule below carries such beliefs to the state.
-/

namespace Creeper.Claims
open Creeper.Runs Creeper.PyNumbers

/-- News about a claim. -/
inductive News (Owner Key : Type*)
  | held (owner : Owner) (key : Key) (expires : PyFloat)
  | ended (owner : Owner) (key : Key)

section
variable {Owner Key State Event Outcome : Type*} [DecidableEq Owner] [DecidableEq Key]

/-- What one piece of news makes of the belief of an owner about a key. -/
def believe (w : Owner) (k : Key) (belief : Option PyFloat) : News Owner Key → Option PyFloat
  | .held owner key expires => if owner = w ∧ key = k then some expires else belief
  | .ended owner key => if owner = w ∧ key = k then none else belief

def ticketFrom (belief : Option PyFloat) (news : List (News Owner Key)) (w : Owner) (k : Key) : Option PyFloat :=
  news.foldl (believe w k) belief

def ticket (news : List (News Owner Key)) (w : Owner) (k : Key) : Option PyFloat := ticketFrom none news w k

/-- The owner believes that it holds the key at a time. -/
def Live (news : List (News Owner Key)) (w : Owner) (k : Key) (now : ℚ) : Prop :=
  ∃ expires, ticket news w k = some expires ∧ PyFloat.lt (.fin now) expires

@[simp] theorem ticketFrom_nil (belief : Option PyFloat) (w : Owner) (k : Key) : ticketFrom belief [] w k = belief := rfl

@[simp] theorem ticketFrom_cons (belief : Option PyFloat) (first : News Owner Key) (rest : List (News Owner Key)) (w : Owner)
    (k : Key) : ticketFrom belief (first :: rest) w k = ticketFrom (believe w k belief first) rest w k := rfl

theorem ticket_append (first second : List (News Owner Key)) (w : Owner) (k : Key) :
    ticket (first ++ second) w k = ticketFrom (ticket first w k) second w k := by
  simp [ticket, ticketFrom, List.foldl_append]

theorem ticketFrom_held (belief : Option PyFloat) (owner : Owner) (keys : List Key) (expires : PyFloat) (w : Owner) (k : Key) :
    ticketFrom belief (keys.map (.held owner · expires)) w k = if owner = w ∧ k ∈ keys then some expires else belief := by
  induction keys generalizing belief with
  | nil => simp
  | cons key keys ih =>
    rw [List.map_cons, ticketFrom_cons, ih]
    simp only [believe, List.mem_cons, eq_comm (a := key) (b := k)]
    split_ifs <;> first | rfl | tauto

theorem ticketFrom_ended (belief : Option PyFloat) (owner : Owner) (keys : List Key) (w : Owner) (k : Key) :
    ticketFrom belief (keys.map (.ended owner ·)) w k = if owner = w ∧ k ∈ keys then none else belief := by
  induction keys generalizing belief with
  | nil => simp
  | cons key keys ih =>
    rw [List.map_cons, ticketFrom_cons, ih]
    simp only [believe, List.mem_cons, eq_comm (a := key) (b := k)]
    split_ifs <;> first | rfl | tauto

def learned (m : Machine State Event Outcome) (news : Step State Event Outcome → List (News Owner Key))
    (es : List Event) : List (News Owner Key) := (m.trace es).flatMap news

omit [DecidableEq Owner] [DecidableEq Key] in
theorem learned_snoc (m : Machine State Event Outcome) (news : Step State Event Outcome → List (News Owner Key))
    (es : List Event) (e : Event) :
    learned m news (es ++ [e]) = learned m news es ++ news (m.take (m.final es) e) := by
  simp [learned]

/-- If no step of a run parts a belief from the state, then every belief that has not
    run out is borne out by the state, at every later time. -/
theorem live_holds (m : Machine State Event Outcome) (news : Step State Event Outcome → List (News Owner Key))
    {time : Event → ℚ} (holds : State → Owner → Key → PyFloat → Prop)
    (step : ∀ s e w k belief,
      (∀ expires, belief = some expires → PyFloat.lt (.fin (time e)) expires → holds s w k expires) →
      ∀ expires, ticketFrom belief (news (m.take s e)) w k = some expires → PyFloat.lt (.fin (time e)) expires →
        holds (m.step s e).2 w k expires) :
    ∀ es now, Clocked time es now → ∀ w k expires, ticket (learned m news es) w k = some expires →
      PyFloat.lt (.fin now) expires → holds (m.final es) w k expires := by
  refine Machine.run_rule ?_ ?_
  · intro now _ w k expires nothing
    cases nothing
  · intro es e ih now clocked w k expires believed inside
    obtain ⟨earlier, le⟩ := clocked_snoc.mp clocked
    rw [learned_snoc, ticket_append] at believed
    rw [Machine.final_snoc]
    exact step _ e w k _ (ih _ earlier w k) expires believed (PyFloat.lt_of_le_lt le inside)

end
end Creeper.Claims
