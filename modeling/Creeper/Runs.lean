import Mathlib

/-!
# Deterministic machines and their runs

A machine answers every event with an outcome and a next state. A run is a list
of events; its trace records every step with the states around it. Invariants of
runs are proved from what one step preserves, with or without a clock that never
goes back.
-/

namespace Creeper.Runs

variable {State Event Outcome Time : Type*}

/-- A machine: where it starts, and its answer to every event. -/
structure Machine (State Event Outcome : Type*) where
  initial : State
  step : State → Event → Outcome × State

/-- One step of a run, with the states around it. -/
structure Step (State Event Outcome : Type*) where
  before : State
  event : Event
  outcome : Outcome
  after : State

namespace Machine

def take (m : Machine State Event Outcome) (s : State) (e : Event) : Step State Event Outcome :=
  ⟨s, e, (m.step s e).1, (m.step s e).2⟩

def finalFrom (m : Machine State Event Outcome) (s : State) (es : List Event) : State :=
  es.foldl (fun s e => (m.step s e).2) s

/-- The steps of a run, in order. -/
def traceFrom (m : Machine State Event Outcome) : State → List Event → List (Step State Event Outcome)
  | _, [] => []
  | s, e :: es => m.take s e :: m.traceFrom (m.step s e).2 es

def final (m : Machine State Event Outcome) (es : List Event) : State := m.finalFrom m.initial es
def trace (m : Machine State Event Outcome) (es : List Event) : List (Step State Event Outcome) :=
  m.traceFrom m.initial es

section
variable (m : Machine State Event Outcome)

@[simp] theorem take_before (s : State) (e : Event) : (m.take s e).before = s := rfl
@[simp] theorem take_event (s : State) (e : Event) : (m.take s e).event = e := rfl
@[simp] theorem take_outcome (s : State) (e : Event) : (m.take s e).outcome = (m.step s e).1 := rfl
@[simp] theorem take_after (s : State) (e : Event) : (m.take s e).after = (m.step s e).2 := rfl

@[simp] theorem finalFrom_nil (s : State) : m.finalFrom s [] = s := rfl
@[simp] theorem finalFrom_cons (s : State) (e : Event) (es : List Event) :
    m.finalFrom s (e :: es) = m.finalFrom (m.step s e).2 es := rfl
@[simp] theorem traceFrom_nil (s : State) : m.traceFrom s [] = [] := rfl
@[simp] theorem traceFrom_cons (s : State) (e : Event) (es : List Event) :
    m.traceFrom s (e :: es) = m.take s e :: m.traceFrom (m.step s e).2 es := rfl

theorem finalFrom_append (s : State) (first second : List Event) :
    m.finalFrom s (first ++ second) = m.finalFrom (m.finalFrom s first) second := by
  simp [finalFrom, List.foldl_append]

theorem traceFrom_append (s : State) (first second : List Event) :
    m.traceFrom s (first ++ second) = m.traceFrom s first ++ m.traceFrom (m.finalFrom s first) second := by
  induction first generalizing s with
  | nil => rfl
  | cons e es ih => simp [ih]

@[simp] theorem final_nil : m.final [] = m.initial := rfl
@[simp] theorem trace_nil : m.trace [] = [] := rfl

theorem final_append (first second : List Event) :
    m.final (first ++ second) = m.finalFrom (m.final first) second := m.finalFrom_append _ _ _

theorem trace_append (first second : List Event) :
    m.trace (first ++ second) = m.trace first ++ m.traceFrom (m.final first) second := m.traceFrom_append _ _ _

@[simp] theorem final_snoc (es : List Event) (e : Event) : m.final (es ++ [e]) = (m.step (m.final es) e).2 := by
  simp [final_append]

@[simp] theorem trace_snoc (es : List Event) (e : Event) :
    m.trace (es ++ [e]) = m.trace es ++ [m.take (m.final es) e] := by
  simp [trace_append]

theorem mem_traceFrom {s : State} {es : List Event} {r : Step State Event Outcome} (member : r ∈ m.traceFrom s es) :
    ∃ before after, es = before ++ r.event :: after ∧ r = m.take (m.finalFrom s before) r.event := by
  induction es generalizing s with
  | nil => simp at member
  | cons e es ih =>
    rcases List.mem_cons.mp member with rfl | later
    · exact ⟨[], es, rfl, rfl⟩
    · obtain ⟨before, after, split, taken⟩ := ih later
      refine ⟨e :: before, after, ?_, taken⟩
      rw [split]
      rfl

theorem mem_trace {es : List Event} {r : Step State Event Outcome} (member : r ∈ m.trace es) :
    ∃ before after, es = before ++ r.event :: after ∧ r = m.take (m.final before) r.event :=
  m.mem_traceFrom member

theorem traceFrom_events (s : State) (es : List Event) : (m.traceFrom s es).map (·.event) = es := by
  induction es generalizing s with
  | nil => rfl
  | cons e es ih => simp [ih]

theorem run_rule {P : List Event → Prop} (start : P []) (extend : ∀ es e, P es → P (es ++ [e])) :
    ∀ es, P es := by
  intro es
  induction es using List.reverseRecOn with
  | nil => exact start
  | append_singleton es e ih => exact extend es e ih

theorem nodup_records {Record : Type*} (record : Step State Event Outcome → Option Record) (es : List Event)
    (apart : ∀ before e middle e' after, es = before ++ e :: middle ++ e' :: after →
      ∀ found, record (m.take (m.final before) e) = some found →
        record (m.take (m.final (before ++ e :: middle)) e') ≠ some found) :
    ((m.trace es).filterMap record).Nodup := by
  induction es using List.reverseRecOn with
  | nil => simp
  | append_singleton es e ih =>
    rw [trace_snoc, List.filterMap_append, List.nodup_append]
    refine ⟨ih fun before e' middle last after split => apart before e' middle last (after ++ [e]) ?_, ?_, ?_⟩
    · simp [split]
    · cases recorded : record (m.take (m.final es) e) <;> simp [recorded]
    · intro found earlier other last same
      subst same
      obtain ⟨r, member, recorded⟩ := List.mem_filterMap.mp earlier
      obtain ⟨before, after, split, isStep⟩ := m.mem_trace member
      obtain ⟨r', isLast, recorded'⟩ := List.mem_filterMap.mp last
      rw [List.mem_singleton.mp isLast] at recorded'
      rw [isStep] at recorded
      rw [split] at recorded'
      exact apart before r.event after e [] (by rw [split]) found recorded recorded'

/-- Two machines stay together in a run in which no step parts them. -/
theorem lockstep (m m' : Machine State Event Outcome) (start : m'.initial = m.initial) (es : List Event)
    (same : ∀ before e after, es = before ++ e :: after → m'.final before = m.final before →
      (m'.step (m.final before) e).2 = (m.step (m.final before) e).2) : m'.final es = m.final es := by
  induction es using List.reverseRecOn with
  | nil => exact start
  | append_singleton es e ih =>
    have together : m'.final es = m.final es := by
      refine ih fun before e' after split => same before e' (after ++ [e]) ?_
      simp [split]
    rw [final_snoc, final_snoc, together]
    exact same es e [] rfl together

theorem invariant_from {I : State → Prop} (preserved : ∀ s e, I s → I (m.step s e).2) {s : State} (holds : I s)
    (es : List Event) : I (m.finalFrom s es) := by
  induction es generalizing s with
  | nil => exact holds
  | cons e es ih => exact ih (preserved s e holds)

theorem invariant {I : State → Prop} (start : I m.initial) (preserved : ∀ s e, I s → I (m.step s e).2)
    (es : List Event) : I (m.final es) := m.invariant_from preserved start es

end
end Machine

/-! ## Clocks -/

section
variable [Preorder Time] (time : Event → Time)

/-- The clock readings of the events, then `now`, never decrease. -/
def Clocked (es : List Event) (now : Time) : Prop := (es.map time ++ [now]).Pairwise (· ≤ ·)

instance [DecidableLE Time] (es : List Event) (now : Time) : Decidable (Clocked time es now) := by
  unfold Clocked
  infer_instance

variable {time}

theorem clocked_snoc {es : List Event} {e : Event} {now : Time} :
    Clocked time (es ++ [e]) now ↔ Clocked time es (time e) ∧ time e ≤ now := by
  simp only [Clocked, List.map_append, List.map_cons, List.map_nil, List.append_assoc, List.singleton_append]
  constructor
  · intro ordered
    obtain ⟨first, pair, cross⟩ := List.pairwise_append.mp ordered
    refine ⟨List.pairwise_append.mpr ⟨first, List.pairwise_singleton _ _, ?_⟩, ?_⟩
    · intro a member b last
      rw [List.mem_singleton.mp last]
      exact cross a member (time e) (by simp)
    · exact List.rel_of_pairwise_cons pair (by simp)
  · rintro ⟨ordered, last⟩
    obtain ⟨first, -, cross⟩ := List.pairwise_append.mp ordered
    refine List.pairwise_append.mpr ⟨first, by simpa using last, ?_⟩
    intro a member b pair
    have below := cross a member (time e) (by simp)
    rcases List.mem_cons.mp pair with rfl | later
    · exact below
    · rw [List.mem_singleton.mp later]
      exact below.trans last

namespace Machine
variable (m : Machine State Event Outcome)

/-- An invariant that waiting keeps and that every event keeps at its own time
    holds at every later time of a clocked run. -/
theorem clocked_invariant {I : Time → State → Prop} (start : ∀ now, I now m.initial)
    (later : ∀ t t' s, t ≤ t' → I t s → I t' s)
    (preserved : ∀ s e, I (time e) s → I (time e) (m.step s e).2) :
    ∀ es now, Clocked time es now → I now (m.final es) := by
  refine run_rule ?_ ?_
  · intro now _
    exact start now
  · intro es e ih now clocked
    obtain ⟨earlier, le⟩ := clocked_snoc.mp clocked
    rw [final_snoc]
    exact later _ _ _ le (preserved _ _ (ih _ earlier))

end Machine
end
end Creeper.Runs
