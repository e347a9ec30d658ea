import Creeper.Runs

/-!
# Resource governors

`runtime/resource_governor.py`: the state that a sample of the resources asks for, and the governor
that follows it at once to a worse state and only after a streak of samples to a better one.
-/

namespace Creeper.ResourceGovernors
open Creeper.Runs

inductive GovernorState
  | normal
  | throttled
  | drainOnly
  | emergencyStop
  deriving DecidableEq, Repr

/-- `_STATE_SEVERITY`. -/
def severity : GovernorState → Nat
  | .normal => 0
  | .throttled => 1
  | .drainOnly => 2
  | .emergencyStop => 3

structure ResourceSample where
  rssBytes : Nat
  diskFreeBytes : Nat
  cpuPercent : ℚ≥0
  providerPressure : ℚ≥0
  deriving DecidableEq

/-- A policy, with the checks of the constructor. -/
structure ResourceGovernor where
  rssThrottleBytes : Nat
  rssStopBytes : Nat
  diskThrottleBytes : Nat
  diskStopBytes : Nat
  providerDrainPressure : ℚ≥0
  providerThrottlePressure : ℚ≥0
  disk : diskStopBytes ≤ diskThrottleBytes
  rss : rssThrottleBytes ≤ rssStopBytes
  provider : providerThrottlePressure ≤ providerDrainPressure

/-- `evaluate`. -/
def ResourceGovernor.evaluate (g : ResourceGovernor) (sample : ResourceSample) : GovernorState :=
  if g.rssStopBytes ≤ sample.rssBytes || sample.diskFreeBytes ≤ g.diskStopBytes then .emergencyStop
  else if sample.diskFreeBytes ≤ g.diskThrottleBytes || g.providerDrainPressure ≤ sample.providerPressure then .drainOnly
  else if g.rssThrottleBytes ≤ sample.rssBytes || g.providerThrottlePressure ≤ sample.providerPressure then .throttled
  else .normal

/-- What a `StabilizedResourceGovernor` is made of. -/
structure StabilizedResourceGovernor where
  governor : ResourceGovernor
  recoverySamples : Nat
  positive : 1 ≤ recoverySamples

structure Progress where
  state : GovernorState
  recoveryStreak : Nat
  deriving DecidableEq

section
variable (g : StabilizedResourceGovernor)

def rawSeverity (sample : ResourceSample) : Nat := severity (g.governor.evaluate sample)

/-- `update`. -/
def update (s : Progress) (sample : ResourceSample) : Progress :=
  let raw := g.governor.evaluate sample
  if severity s.state < severity raw then ⟨raw, 0⟩
  else if raw = s.state then ⟨s.state, 0⟩
  else if g.recoverySamples ≤ s.recoveryStreak + 1 then ⟨raw, 0⟩
  else ⟨s.state, s.recoveryStreak + 1⟩

/-- The governor from its start, which answers its state. -/
def machine : Machine Progress ResourceSample GovernorState where
  initial := ⟨.normal, 0⟩
  step s sample := ((update g s sample).state, update g s sample)

def stateAfter (samples : List ResourceSample) : GovernorState := ((machine g).final samples).state

end

/-! ## What an update does -/

theorem severity_injective {a b : GovernorState} (same : severity a = severity b) : a = b := by
  cases a <;> cases b <;> first | rfl | cases same

section
variable (g : StabilizedResourceGovernor) (s : Progress) (sample : ResourceSample)

theorem update_cases :
    severity s.state < rawSeverity g sample ∧ update g s sample = ⟨g.governor.evaluate sample, 0⟩ ∨
    rawSeverity g sample = severity s.state ∧ update g s sample = ⟨s.state, 0⟩ ∨
    rawSeverity g sample < severity s.state ∧ g.recoverySamples ≤ s.recoveryStreak + 1 ∧
      update g s sample = ⟨g.governor.evaluate sample, 0⟩ ∨
    rawSeverity g sample < severity s.state ∧ s.recoveryStreak + 1 < g.recoverySamples ∧
      update g s sample = ⟨s.state, s.recoveryStreak + 1⟩ := by
  unfold update rawSeverity
  dsimp only
  by_cases worse : severity s.state < severity (g.governor.evaluate sample)
  · exact .inl ⟨worse, if_pos worse⟩
  · rw [if_neg worse]
    by_cases same : g.governor.evaluate sample = s.state
    · exact .inr (.inl ⟨congrArg severity same, if_pos same⟩)
    · have better : severity (g.governor.evaluate sample) < severity s.state :=
        lt_of_le_of_ne (not_lt.mp worse) fun equal => same (severity_injective equal)
      rw [if_neg same]
      by_cases enough : g.recoverySamples ≤ s.recoveryStreak + 1
      · exact .inr (.inr (.inl ⟨better, enough, if_pos enough⟩))
      · exact .inr (.inr (.inr ⟨better, not_le.mp enough, if_neg enough⟩))

/-- The state is never better than the sample. -/
theorem update_covers : rawSeverity g sample ≤ severity (update g s sample).state := by
  obtain ⟨-, same⟩ | ⟨equal, same⟩ | ⟨-, -, same⟩ | ⟨better, -, same⟩ := update_cases g s sample
  · rw [same]
    exact le_refl _
  · rw [same, equal]
  · rw [same]
    exact le_refl _
  · rw [same]
    exact better.le

theorem update_better (better : severity (update g s sample).state < severity s.state) :
    rawSeverity g sample < severity s.state ∧ g.recoverySamples ≤ s.recoveryStreak + 1 ∧
      (update g s sample).state = g.governor.evaluate sample := by
  obtain ⟨worse, same⟩ | ⟨-, same⟩ | ⟨below, enough, same⟩ | ⟨-, -, same⟩ := update_cases g s sample
  · rw [same] at better
    exact absurd better (not_lt.mpr worse.le)
  · rw [same] at better
    exact absurd better (lt_irrefl _)
  · exact ⟨below, enough, by rw [same]⟩
  · rw [same] at better
    exact absurd better (lt_irrefl _)

end

/-! ## Streaks -/

/-- The streak is that of the last samples, all below the state. -/
structure Streak (g : StabilizedResourceGovernor) (samples : List ResourceSample) (s : Progress) : Prop where
  short : s.recoveryStreak < g.recoverySamples
  seen : s.recoveryStreak ≤ samples.length
  below : ∀ x ∈ samples.rtake s.recoveryStreak, rawSeverity g x < severity s.state

section
variable {g : StabilizedResourceGovernor}

theorem Streak.fresh (g : StabilizedResourceGovernor) (samples : List ResourceSample) (state : GovernorState) :
    Streak g samples ⟨state, 0⟩ where
  short := g.positive
  seen := Nat.zero_le _
  below := by
    intro x member
    rw [List.rtake_zero] at member
    cases member

theorem Streak.update {samples : List ResourceSample} {s : Progress} (streak : Streak g samples s) (sample : ResourceSample) :
    Streak g (samples ++ [sample]) (update g s sample) := by
  obtain ⟨-, same⟩ | ⟨-, same⟩ | ⟨-, -, same⟩ | ⟨better, short, same⟩ := update_cases g s sample
  · rw [same]
    exact .fresh g _ _
  · rw [same]
    exact .fresh g _ _
  · rw [same]
    exact .fresh g _ _
  · rw [same]
    refine ⟨short, ?_, fun x member => ?_⟩
    · rw [List.length_append]
      exact Nat.succ_le_succ streak.seen
    · rw [List.rtake_concat_succ, List.mem_append, List.mem_singleton] at member
      obtain earlier | rfl := member
      · exact streak.below x earlier
      · exact better

theorem run_streak (g : StabilizedResourceGovernor) (samples : List ResourceSample) : Streak g samples ((machine g).final samples) := by
  induction samples using List.reverseRecOn with
  | nil => exact .fresh g _ _
  | append_singleton samples sample ih =>
    rw [Machine.final_snoc]
    exact ih.update sample

theorem Streak.complete {samples : List ResourceSample} {s : Progress} (streak : Streak g samples s)
    (enough : g.recoverySamples ≤ s.recoveryStreak + 1) : s.recoveryStreak + 1 = g.recoverySamples := by
  have := streak.short
  omega

theorem stateAfter_snoc (g : StabilizedResourceGovernor) (samples : List ResourceSample) (sample : ResourceSample) :
    stateAfter g (samples ++ [sample]) = (update g ((machine g).final samples) sample).state := by
  rw [stateAfter, Machine.final_snoc]
  rfl

end

/-! ## Recovery -/

/-- The law of a run: the state covers every sample, and a better state has a streak of samples that
    are no worse than it. -/
structure Stabilised (g : StabilizedResourceGovernor) (samples : List ResourceSample) : Prop where
  covers : ∀ before sample after, samples = before ++ sample :: after →
    rawSeverity g sample ≤ severity (stateAfter g (before ++ [sample]))
  recovers : ∀ before sample after, samples = before ++ sample :: after →
    severity (stateAfter g (before ++ [sample])) < severity (stateAfter g before) →
      g.recoverySamples ≤ (before ++ [sample]).length ∧
      ∀ x ∈ (before ++ [sample]).rtake g.recoverySamples, rawSeverity g x ≤ severity (stateAfter g (before ++ [sample]))
  normal : ∀ before sample after, samples = before ++ sample :: after → stateAfter g before ∈ [.emergencyStop, .drainOnly] →
    stateAfter g (before ++ [sample]) = .normal →
      g.recoverySamples ≤ (before ++ [sample]).length ∧
      ∀ x ∈ (before ++ [sample]).rtake g.recoverySamples, g.governor.evaluate x = .normal

/-- The sample that completes a streak is not better than the others of the streak. -/
def EndsWorst (g : StabilizedResourceGovernor) (before : List ResourceSample) (sample : ResourceSample) : Prop :=
  let s := (machine g).final before
  rawSeverity g sample < severity s.state → s.recoveryStreak + 1 = g.recoverySamples →
    ∀ x ∈ before.rtake s.recoveryStreak, rawSeverity g x ≤ rawSeverity g sample

/-- What every run keeps to: a better state is that of a sample which completes a streak below the
    state that is left. -/
theorem recovery_law (g : StabilizedResourceGovernor) (before : List ResourceSample) (sample : ResourceSample)
    (better : severity (stateAfter g (before ++ [sample])) < severity (stateAfter g before)) :
    stateAfter g (before ++ [sample]) = g.governor.evaluate sample ∧ g.recoverySamples ≤ (before ++ [sample]).length ∧
      ∀ x ∈ (before ++ [sample]).rtake g.recoverySamples, rawSeverity g x < severity (stateAfter g before) := by
  rw [stateAfter_snoc] at better ⊢
  obtain ⟨below, enough, same⟩ := update_better g _ sample better
  have streak := run_streak g before
  have complete := streak.complete enough
  refine ⟨same, ?_, fun x member => ?_⟩
  · rw [List.length_append, ← complete]
    exact Nat.succ_le_succ streak.seen
  · rw [← complete, List.rtake_concat_succ, List.mem_append, List.mem_singleton] at member
    obtain earlier | rfl := member
    · exact streak.below x earlier
    · exact below

section
variable {g : StabilizedResourceGovernor}

theorem recovers_of_worst {before : List ResourceSample} {sample : ResourceSample} (worst : EndsWorst g before sample)
    (better : severity (stateAfter g (before ++ [sample])) < severity (stateAfter g before)) :
    ∀ x ∈ (before ++ [sample]).rtake g.recoverySamples, rawSeverity g x ≤ severity (stateAfter g (before ++ [sample])) := by
  rw [stateAfter_snoc] at better ⊢
  obtain ⟨below, enough, same⟩ := update_better g _ sample better
  have complete := (run_streak g before).complete enough
  intro x member
  rw [← complete, List.rtake_concat_succ, List.mem_append, List.mem_singleton] at member
  rw [same]
  obtain earlier | rfl := member
  · exact worst below complete x earlier
  · exact le_refl _

theorem normal_of_le {x : ResourceSample} (least : rawSeverity g x ≤ severity .normal) : g.governor.evaluate x = .normal :=
  severity_injective (Nat.le_zero.mp least)

end

/-- A run keeps the law exactly when every streak that is completed ends with its worst sample. -/
theorem stabilised_iff (g : StabilizedResourceGovernor) (samples : List ResourceSample) :
    Stabilised g samples ↔ ∀ before sample after, samples = before ++ sample :: after → EndsWorst g before sample := by
  constructor
  · intro stabilised before sample after split below complete x member
    have recovered : update g ((machine g).final before) sample = ⟨g.governor.evaluate sample, 0⟩ := by
      obtain ⟨worse, -⟩ | ⟨equal, -⟩ | ⟨-, -, same⟩ | ⟨-, short, -⟩ := update_cases g ((machine g).final before) sample
      · exact absurd below (not_lt.mpr worse.le)
      · exact absurd below (equal ▸ lt_irrefl _)
      · exact same
      · exact absurd complete short.ne
    have isState : stateAfter g (before ++ [sample]) = g.governor.evaluate sample := by rw [stateAfter_snoc, recovered]
    obtain ⟨-, law⟩ := stabilised.recovers before sample after split (by rwa [isState])
    rw [isState, ← complete, List.rtake_concat_succ] at law
    exact law x (List.mem_append_left _ member)
  · intro worst
    have recovers (before : List ResourceSample) (sample : ResourceSample) (after : List ResourceSample)
        (split : samples = before ++ sample :: after)
        (better : severity (stateAfter g (before ++ [sample])) < severity (stateAfter g before)) :=
      And.intro (recovery_law g before sample better).2.1 (recovers_of_worst (worst before sample after split) better)
    refine ⟨fun before sample _ _ => ?_, recovers, fun before sample after split severe isNormal => ?_⟩
    · rw [stateAfter_snoc]
      exact update_covers g _ sample
    · have better : severity (stateAfter g (before ++ [sample])) < severity (stateAfter g before) := by
        rw [isNormal]
        rcases List.mem_pair.mp severe with same | same <;> rw [same] <;> decide
      obtain ⟨long, law⟩ := recovers before sample after split better
      rw [isNormal] at law
      exact ⟨long, fun x member => normal_of_le (law x member)⟩

/-- Streaks of two samples. -/
theorem pairwise_pressures : (1 : ℚ≥0) ≤ 1 := le_rfl

def pairwise : StabilizedResourceGovernor where
  governor := ⟨100, 200, 100, 50, 1, 1, by decide, by decide, pairwise_pressures⟩
  recoverySamples := 2
  positive := by decide

/-- Low disk, then much memory, then nothing: the state is normal again after one normal sample. -/
theorem mixed_streak : ¬Stabilised pairwise [⟨10, 90, 0, 0⟩, ⟨150, 500, 0, 0⟩, ⟨10, 500, 0, 0⟩] := by
  intro stabilised
  obtain ⟨-, law⟩ := stabilised.normal [⟨10, 90, 0, 0⟩, ⟨150, 500, 0, 0⟩] ⟨10, 500, 0, 0⟩ [] rfl (by decide +kernel) (by decide +kernel)
  have wrong := law ⟨150, 500, 0, 0⟩ (by decide +kernel)
  exact absurd wrong (by decide +kernel)

end Creeper.ResourceGovernors
