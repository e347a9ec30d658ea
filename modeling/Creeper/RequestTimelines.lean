import Creeper.PyNumbers
import Creeper.Runs

/-!
# Timelines of a paced client

What is seen of a client that paces its requests: when a request starts and the
rate that is in force then, and the ends of the cooldowns that it registers. A
client keeps its pace by a time before which nothing may start, and it heeds its
cooldowns by their latest end; both are kept mark by mark.
-/

namespace Creeper.RequestTimelines
open Creeper.PyNumbers Creeper.Runs

/-- A request that starts, or a cooldown that is registered. -/
inductive Mark
  | start (time rate : ℚ)
  | cooldown (deadline : PyFloat)
  deriving DecidableEq

/-- A later start is as far from an earlier one as the rate in force then asks. -/
def Apart (earlier later : Mark) : Prop :=
  ∀ time rate time' rate', earlier = .start time rate → later = .start time' rate' → time + 1 / rate ≤ time'

/-- A later start waits for the end of an earlier cooldown. -/
def Waits (earlier later : Mark) : Prop :=
  ∀ deadline time rate, earlier = .cooldown deadline → later = .start time rate → deadline.le (.fin time)

/-- Any two starts are apart. -/
def Spaced (marks : List Mark) : Prop := marks.Pairwise Apart
/-- No start is before the end of a cooldown registered earlier. -/
def Heeded (marks : List Mark) : Prop := marks.Pairwise Waits
def Ending (marks : List Mark) : Prop := ∀ deadline, .cooldown deadline ∈ marks → deadline.isFinite

/-- The pace of the starts leaves the time from `next` on free. -/
def Reserved (marks : List Mark) (next : ℚ) : Prop := ∀ time rate, .start time rate ∈ marks → time + 1 / rate ≤ next
/-- No cooldown ends after `latest`. -/
def Within (marks : List Mark) (latest : PyFloat) : Prop := ∀ deadline, .cooldown deadline ∈ marks → deadline.le latest

def timeline {State Event : Type*} (m : Machine State Event (List Mark)) (es : List Event) : List Mark :=
  (m.trace es).flatMap (·.outcome)

@[simp] theorem timeline_nil {State Event : Type*} (m : Machine State Event (List Mark)) : timeline m [] = [] := rfl

@[simp] theorem timeline_snoc {State Event : Type*} (m : Machine State Event (List Mark)) (es : List Event) (e : Event) :
    timeline m (es ++ [e]) = timeline m es ++ (m.step (m.final es) e).1 := by
  simp [timeline]

/-! ## Bounds on times -/

theorem le_trans {a b c : PyFloat} (first : a.le b) (second : b.le c) : a.le c := by
  cases a <;> cases b <;> cases c <;> simp_all [PyFloat.le]
  linarith

theorem le_refl {a : PyFloat} (number : a ≠ .nan) : a.le a := by
  cases a <;> simp_all [PyFloat.le]

/-- A number is below the greater of two. -/
theorem le_max_left {a b : PyFloat} (number : a ≠ .nan) : a.le (a.max b) := by
  unfold PyFloat.max
  split
  · rename_i below
    cases a <;> cases b <;> simp_all [PyFloat.lt, PyFloat.le]
    linarith
  · exact le_refl number

theorem le_max_right {a b : PyFloat} (left : a ≠ .nan) (right : b ≠ .nan) : b.le (a.max b) := by
  unfold PyFloat.max
  split
  · exact le_refl right
  · cases a <;> cases b <;> simp_all [PyFloat.lt, PyFloat.le]

theorem max_le {a b c : PyFloat} (left : a.le c) (right : b.le c) : (a.max b).le c := by
  unfold PyFloat.max
  split <;> assumption

theorem max_ne_nan {a b : PyFloat} (left : a ≠ .nan) (right : b ≠ .nan) : a.max b ≠ .nan := by
  unfold PyFloat.max
  split <;> assumption

/-! ## One more mark -/

variable {marks : List Mark} {time rate next : ℚ} {deadline latest : PyFloat}

theorem Spaced.start (spaced : Spaced marks) (reserved : Reserved marks next) (free : next ≤ time) :
    Spaced (marks ++ [.start time rate]) := by
  refine List.pairwise_append.mpr ⟨spaced, List.pairwise_singleton _ _, ?_⟩
  rintro earlier member later last t r t' r' rfl rfl
  cases List.mem_singleton.mp last
  exact (reserved t r member).trans free

theorem Spaced.cooldown (spaced : Spaced marks) : Spaced (marks ++ [.cooldown deadline]) := by
  refine List.pairwise_append.mpr ⟨spaced, List.pairwise_singleton _ _, ?_⟩
  rintro earlier - later last t r t' r' - rfl
  cases List.mem_singleton.mp last

theorem Heeded.start (heeded : Heeded marks) (within : Within marks latest) (past : latest.le (.fin time)) :
    Heeded (marks ++ [.start time rate]) := by
  refine List.pairwise_append.mpr ⟨heeded, List.pairwise_singleton _ _, ?_⟩
  rintro earlier member later last d t r rfl rfl
  cases List.mem_singleton.mp last
  exact le_trans (within d member) past

theorem Heeded.cooldown (heeded : Heeded marks) : Heeded (marks ++ [.cooldown deadline]) := by
  refine List.pairwise_append.mpr ⟨heeded, List.pairwise_singleton _ _, ?_⟩
  rintro earlier - later last d t r - rfl
  cases List.mem_singleton.mp last

theorem Reserved.mono (reserved : Reserved marks next) {later : ℚ} (le : next ≤ later) : Reserved marks later :=
  fun t r member => (reserved t r member).trans le

theorem Reserved.start (reserved : Reserved marks next) (taken : time + 1 / rate ≤ next) :
    Reserved (marks ++ [.start time rate]) next := by
  intro t r member
  rcases List.mem_append.mp member with before | last
  · exact reserved t r before
  · cases List.mem_singleton.mp last
    exact taken

theorem Reserved.cooldown (reserved : Reserved marks next) : Reserved (marks ++ [.cooldown deadline]) next := by
  intro t r member
  rcases List.mem_append.mp member with before | last
  · exact reserved t r before
  · cases List.mem_singleton.mp last

theorem Within.start (within : Within marks latest) : Within (marks ++ [.start time rate]) latest := by
  intro d member
  rcases List.mem_append.mp member with before | last
  · exact within d before
  · cases List.mem_singleton.mp last

theorem Within.cooldown (within : Within marks latest) (number : latest ≠ .nan) (known : deadline ≠ .nan) :
    Within (marks ++ [.cooldown deadline]) (latest.max deadline) := by
  intro d member
  rcases List.mem_append.mp member with before | last
  · exact le_trans (within d before) (le_max_left number)
  · cases List.mem_singleton.mp last
    exact le_max_right number known

theorem Ending.start (ending : Ending marks) : Ending (marks ++ [.start time rate]) := by
  intro d member
  rcases List.mem_append.mp member with before | last
  · exact ending d before
  · cases List.mem_singleton.mp last

theorem Ending.cooldown (ending : Ending marks) (finite : deadline.isFinite) : Ending (marks ++ [.cooldown deadline]) := by
  intro d member
  rcases List.mem_append.mp member with before | last
  · exact ending d before
  · cases List.mem_singleton.mp last
    exact finite

end Creeper.RequestTimelines
