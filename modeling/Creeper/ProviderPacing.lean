import Creeper.CdxPacing
import Creeper.ProviderPermits
import Creeper.RdapPacing

/-!
# Pacing survives throttling

What the clients of one provider keep to, over every run: the distance of their
starts, the cooldowns, and that every cooldown ends, also where it reaches the
Authority through the gate of a worker.
-/

namespace Creeper.ProviderPacing
open Creeper.PyNumbers Creeper.Runs Creeper.RetryAfter Creeper.RequestTimelines
open Creeper.AuthorityStore (authority BudgetRow)

/-! ## Cooldowns of the Authority -/

/-- A report is the gate's, of a response that asks for a wait that ends. -/
def Gated (parseDate : ParseDate) (e : AuthorityStore.Event) : Prop :=
  ∀ permitId w i code cooldown bytes, e.op = .reportProviderPermit permitId w i code cooldown bytes →
    ∃ floor header utcNow, gateCooldown parseDate floor code header utcNow = some cooldown ∧
      (code.any throttles = true → ¬ Endless header)

theorem isFinite_laterOf {a b : PyFloat} (left : a.isFinite = true) (right : b.isFinite = true) :
    (AuthorityStore.laterOf a b).isFinite = true := by
  unfold AuthorityStore.laterOf
  split <;> assumption

/-- The time that a wait which ends is over. -/
theorem isFinite_add {now : ℚ} {cooldown : PyFloat} : ((PyFloat.fin now).add cooldown).isFinite = cooldown.isFinite := by
  cases cooldown <;> rfl

theorem finite_step {parseDate : ParseDate} {s : AuthorityStore.Store} {e : AuthorityStore.Event} (gated : Gated parseDate e)
    (finite : ∀ b ∈ s.providerBudgets.rows, b.cooldownUntil.isFinite = true) {budgets : ProviderPermits.Budgets}
    {permits : ProviderPermits.Permits} (move : ProviderPermits.PermitMove s e budgets permits) :
    ∀ b ∈ budgets.rows, b.cooldownUntil.isFinite = true := by
  intro b member
  cases move with
  | same => exact finite b member
  | configured fresh merge keeps rate start merges =>
    rcases Tables.mem_upsert member with rfl | ⟨old, stored, rfl | rfl⟩
    · rw [start.2]
      rfl
    · rw [(merges old).2.2]
      exact finite old stored
    · exact finite b stored
  | minted =>
    obtain ⟨old, stored, ⟨-, rfl⟩ | ⟨-, rfl⟩⟩ := Tables.mem_update member
    · exact finite old stored
    · exact finite b stored
  | reported id w i code cooldown bytes isReport =>
    rcases ProviderPermits.mem_reported member with stored | ⟨old, stored, rfl⟩
    · exact finite b stored
    · obtain ⟨floor, header, utcNow, sent, ends⟩ := gated id w i code cooldown bytes isReport
      refine isFinite_laterOf (finite old stored) ?_
      rw [isFinite_add]
      exact (gateCooldown_finite parseDate sent).mpr ends
  | collected => exact finite b member

theorem final_finite (parseDate : ParseDate) (es : List AuthorityStore.Event) (gated : ∀ e ∈ es, Gated parseDate e) :
    ∀ b ∈ (authority.final es).providerBudgets.rows, b.cooldownUntil.isFinite = true := by
  induction es using List.reverseRecOn with
  | nil => simp [authority, AuthorityStore.Store.empty]
  | append_singleton es e ih =>
    rw [Machine.final_snoc]
    exact finite_step (gated e (by simp)) (ih fun e member => gated e (List.mem_append_left _ member))
      (ProviderPermits.permit_moves _ e)

/-! ## Every run -/

section
variable (parseDate : ParseDate) (s : CdxPacing.Settings) (r : RdapPacing.Settings) (opened : ℚ)

/-- The CDX client always heeds its cooldowns, and keeps its distances where no token has to wait; the
    RDAP client always keeps its distances, and heeds the cooldowns that no request sleeps through; and
    cooldowns end where no header asks for a wait without end. -/
theorem pacing_survives (es : List CdxPacing.Event) (es' : List RdapPacing.Event) (calls : List AuthorityStore.Event) :
    (Heeded (timeline (CdxPacing.client parseDate s opened) es) ∧
      ((∀ taken ∈ (CdxPacing.client parseDate s opened).trace es, CdxPacing.Fresh taken.before taken.event = true) →
        0 < s.requestsPerSecond → Spaced (timeline (CdxPacing.client parseDate s opened) es)) ∧
      ((∀ e ∈ es, CdxPacing.Ends e = true) → Ending (timeline (CdxPacing.client parseDate s opened) es))) ∧
    ((0 < r.requestsPerSecond → Spaced (timeline (RdapPacing.client parseDate r opened) es')) ∧
      ((∀ taken ∈ (RdapPacing.client parseDate r opened).trace es', RdapPacing.Awaited parseDate r taken.before taken.event) →
        Heeded (timeline (RdapPacing.client parseDate r opened) es')) ∧
      ((∀ e ∈ es', RdapPacing.Ends e = true) → Ending (timeline (RdapPacing.client parseDate r opened) es'))) ∧
    ((∀ e ∈ calls, Gated parseDate e) → ∀ b ∈ (authority.final calls).providerBudgets.rows, b.cooldownUntil.isFinite = true) := by
  refine ⟨⟨?_, ?_, ?_⟩, ⟨?_, ?_, ?_⟩, final_finite parseDate calls⟩
  · exact (CdxPacing.run_inv parseDate s opened es).heeded
  · intro fresh paced
    exact (CdxPacing.run_even parseDate s opened es paced fresh).spaced
  · exact CdxPacing.run_ending parseDate s opened es
  · intro paced
    exact (RdapPacing.run_even parseDate r opened es' paced).spaced
  · intro awaited
    exact (RdapPacing.run_calm parseDate r opened es' awaited).heeded
  · exact RdapPacing.run_ending parseDate r opened es'

end

/-! ## Throttled while waiting -/

def everySecond : CdxPacing.Settings where
  maxRetries := 3
  backoff := 1 / 2
  maxBackoff := 30
  requestsPerSecond := 1
  throttleFloorSeconds := 2
  circuitFailureThreshold := 3
  circuitCooldownSeconds := 60

def rdapEverySecond : RdapPacing.Settings where
  requestsPerSecond := 1
  minRequestsPerSecond := 1 / 10
  decreaseFactor := 7 / 10
  recoverySuccesses := 20
  recoveryStepFraction := 1 / 10
  throttleFloorSeconds := 2

def noDates : ParseDate := fun _ => none

/-- Two calls wait for their tokens when the first one is throttled. -/
def throttledAtOnce : List CdxPacing.Event :=
  [.call 0, .call 1, .call 2, .grant 0, .answer 0 ⟨429, some "5", 0⟩ 0, .tick 1, .grant 1, .tick 1, .grant 2, .tick 1, .tick 1, .tick 1, .wake 1, .wake 2]

/-- The second call sleeps until its slot when the first one is throttled. -/
def throttledInSleep (retryAfter : String) : List RdapPacing.Event :=
  [.call 0, .call 1, .answer 0 ⟨429, some retryAfter, 0⟩, .tick 1, .wake 1]

def forever : List CdxPacing.Event := [.call 0, .grant 0, .answer 0 ⟨429, some "Infinity", 0⟩ 0]

/-- Both tokens were granted inside the cooldown, and both requests start as it ends; a request of the other
    client starts inside a minute's cooldown; and one header stops a client for good. -/
theorem throttled_timelines :
    timeline (CdxPacing.client noDates everySecond 0) throttledAtOnce = [.start 0 1, .cooldown (.fin 5), .start 5 1, .start 5 1] ∧
    timeline (RdapPacing.client noDates rdapEverySecond 0) (throttledInSleep "60") =
      [.start 0 1, .cooldown (.fin 60), .start 1 (7 / 10)] ∧
    timeline (CdxPacing.client noDates everySecond 0) forever = [.start 0 1, .cooldown .posInf] := by
  decide +kernel

theorem pacing_lost :
    ¬ Spaced (timeline (CdxPacing.client noDates everySecond 0) throttledAtOnce) ∧
    ¬ Heeded (timeline (RdapPacing.client noDates rdapEverySecond 0) (throttledInSleep "60")) ∧
    ¬ Ending (timeline (CdxPacing.client noDates everySecond 0) forever) := by
  obtain ⟨together, inside, endless⟩ := throttled_timelines
  rw [together, inside, endless]
  refine ⟨fun spaced => ?_, fun heeded => ?_, fun ending => ?_⟩
  · have apart := (List.pairwise_cons.mp (List.pairwise_cons.mp (List.pairwise_cons.mp spaced).2).2).1 (.start 5 1) (by simp)
    exact absurd (apart 5 1 5 1 rfl rfl) (by norm_num)
  · have waits := (List.pairwise_cons.mp (List.pairwise_cons.mp heeded).2).1 (.start 1 (7 / 10)) (by simp)
    exact absurd (waits (.fin 60) 1 (7 / 10) rfl rfl) (by decide +kernel)
  · exact absurd (ending .posInf (by simp)) (by decide)

/-- A call that is throttled and tries again. -/
def throttledOnce : List CdxPacing.Event :=
  [.call 0, .grant 0, .answer 0 ⟨429, some "5", 0⟩ 0, .tick 1, .wake 0, .tick 4, .wake 0, .grant 0]

theorem no_floor : (0 : ℚ) ≤ 0 := le_rfl

/-- The RDAP client without a floor under its cooldowns. -/
def withoutFloor : RdapPacing.Settings := { rdapEverySecond with throttleFloorSeconds := 0, throttleFloorSeconds_nonneg := no_floor }

/-- The cooldown ends before the slot that a call sleeps for. -/
theorem throttled_paced :
    Spaced (timeline (CdxPacing.client noDates everySecond 0) throttledOnce) ∧
    Heeded (timeline (RdapPacing.client noDates withoutFloor 0) (throttledInSleep "1")) := by
  obtain ⟨⟨-, spaced, -⟩, ⟨-, heeded, -⟩, -⟩ :=
    pacing_survives noDates everySecond withoutFloor 0 throttledOnce (throttledInSleep "1") []
  refine ⟨spaced (by decide +kernel) (by decide +kernel), heeded fun taken member => ?_⟩
  have even := RdapPacing.run_even noDates withoutFloor 0 [.call 0, .call 1] (by decide +kernel)
  simp only [throttledInSleep, Machine.trace, Machine.traceFrom_cons, Machine.traceFrom_nil, List.mem_cons, List.not_mem_nil,
    or_false] at member
  rcases member with rfl | rfl | rfl | rfl | rfl
  · exact fun unlimited => absurd unlimited (by decide +kernel)
  · exact fun unlimited => absurd unlimited (by decide +kernel)
  · intro throttled cooldown read other wake here
    have second : ((RdapPacing.client noDates withoutFloor 0).final [.call 0, .call 1]).lock = some 1 := by decide +kernel
    obtain rfl : other = 1 := Option.some_inj.mp ((even.sleeps other wake here).1.symm.trans second)
    have later := (even.sleeps 1 wake here).2
    have slot : ((RdapPacing.client noDates withoutFloor 0).final [.call 0, .call 1]).nextRequestStart = 1 := by decide +kernel
    have asked : RdapPacing.cooldownOf noDates withoutFloor ⟨429, some "1", 0⟩ = some (.fin 1) := by decide +kernel
    cases asked.symm.trans read
    rw [slot] at later
    exact le_trans (by decide +kernel) later
  · trivial
  · trivial

end Creeper.ProviderPacing
