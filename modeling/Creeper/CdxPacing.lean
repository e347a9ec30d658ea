import Creeper.RetryAfter

/-!
# Pacing of the CDX client

`AsyncWaybackCDXClient._get` as a machine of concurrent requests: one event is
what one of them does between two awaits. The locks of the client are never held
across an await, so nothing waits for them; the tokens of the limiter and every
sleep are waited for. A request that holds a token may find a cooldown and sleep
through it, which is where tokens stop to space the starts.
-/

namespace Creeper.CdxPacing
open Creeper.PyNumbers Creeper.Runs Creeper.RetryAfter Creeper.RequestTimelines

/-- The arguments of the client that its pace depends on, as `__init__` checks them. -/
structure Settings where
  maxRetries : ℕ
  backoff : ℚ
  maxBackoff : ℚ
  requestsPerSecond : ℚ
  throttleFloorSeconds : ℚ
  circuitFailureThreshold : ℕ
  circuitCooldownSeconds : ℚ
  backoff_nonneg : 0 ≤ backoff := by norm_num
  maxBackoff_nonneg : 0 ≤ maxBackoff := by norm_num
  requestsPerSecond_nonneg : 0 ≤ requestsPerSecond := by norm_num
  throttleFloorSeconds_nonneg : 0 ≤ throttleFloorSeconds := by norm_num
  circuitFailureThreshold_pos : 1 ≤ circuitFailureThreshold := by norm_num
  circuitCooldownSeconds_pos : 0 < circuitCooldownSeconds := by norm_num

/-- Where a call of `_get` waits, and in which attempt. -/
inductive Stage
  | idle
  /-- in the first `_wait_for_cooldown` -/
  | cooling (attempt : ℕ) (wake : PyFloat)
  /-- in `AsyncLimiter.acquire` -/
  | acquiring (attempt : ℕ)
  /-- in the second `_wait_for_cooldown`, with a token -/
  | holding (attempt : ℕ) (wake : PyFloat)
  /-- in `client.get` -/
  | requesting (attempt : ℕ)
  /-- in the sleep before the next attempt -/
  | backingOff (attempt : ℕ) (wake : ℚ)

/-- The clock, the client's shared fields, the limiter's last token and the calls. -/
structure Client where
  now : ℚ
  cooldownUntil : PyFloat
  circuitOpenUntil : ℚ
  providerFailureStreak : ℕ
  lastGrant : Option ℚ
  stage : ℕ → Stage

def Client.put (c : Client) (task : ℕ) (stage : Stage) : Client := { c with stage := Function.update c.stage task stage }

/-- A response: its status, its `Retry-After`, and the date when it is read. -/
structure Response where
  status : ℤ
  retryAfter : Option String
  utcNow : ℚ

/-- What happens next. -/
inductive Event
  | tick (elapsed : ℚ≥0)
  | call (task : ℕ)
  | wake (task : ℕ)
  | grant (task : ℕ)
  | answer (task : ℕ) (response : Response) (delay : ℚ≥0)
  /-- a timeout or a transport error -/
  | failure (task : ℕ) (delay : ℚ≥0)
  | cancel (task : ℕ)

section
variable (parseDate : ParseDate) (s : Settings)

/-! ## Between two awaits -/

/-- `_raise_if_circuit_open` raises. -/
def circuitOpen (c : Client) : Bool := c.now < c.circuitOpenUntil

/-- `_register_provider_failure`. -/
def registerProviderFailure (c : Client) : Bool × Client :=
  if c.now < c.circuitOpenUntil then (true, c)
  else if c.providerFailureStreak + 1 < s.circuitFailureThreshold then
    (false, { c with providerFailureStreak := c.providerFailureStreak + 1 })
  else (true, { c with providerFailureStreak := 0, circuitOpenUntil := c.now + s.circuitCooldownSeconds })

/-- `_register_provider_success`. -/
def registerProviderSuccess (c : Client) : Client := { c with providerFailureStreak := 0, circuitOpenUntil := 0 }

/-- `_extend_cooldown`. -/
def extendCooldown (c : Client) (seconds : PyFloat) : List Mark × Client :=
  if seconds.le (.fin 0) then ([], c)
  else
    let deadline := (PyFloat.fin c.now).add seconds
    ([.cooldown deadline], { c with cooldownUntil := c.cooldownUntil.max deadline })

/-- `_register_throttle`; nothing when the reading of the header raises. -/
def registerThrottle (c : Client) (r : Response) : Option (List Mark × Client) :=
  (retryAfterSeconds parseDate r.retryAfter r.utcNow).map fun delay =>
    extendCooldown c (delay.getD (.fin (max s.throttleFloorSeconds s.backoff)))

/-- The last look at the circuit, and `request_once` up to `client.get`. -/
def requestOnce (c : Client) (task attempt : ℕ) : List Mark × Client :=
  if circuitOpen c then ([], c.put task .idle)
  else ([.start c.now s.requestsPerSecond], c.put task (.requesting attempt))

/-- `_wait_for_cooldown`: sleep, or go on. -/
def waitForCooldown (c : Client) (task : ℕ) (sleep : PyFloat → Stage) (goOn : List Mark × Client) : List Mark × Client :=
  if c.cooldownUntil.le (.fin c.now) then goOn else ([], c.put task (sleep c.cooldownUntil))

/-- From the first cooldown to the token, or to the request where nothing limits the rate. -/
def afterCooldown (c : Client) (task attempt : ℕ) : List Mark × Client :=
  if 0 < s.requestsPerSecond then
    if circuitOpen c then ([], c.put task .idle) else ([], c.put task (.acquiring attempt))
  else requestOnce s c task attempt

/-- An attempt of the retry loop. -/
def beginAttempt (c : Client) (task attempt : ℕ) : List Mark × Client :=
  if circuitOpen c then ([], c.put task .idle)
  else waitForCooldown c task (.cooling attempt) (afterCooldown s c task attempt)

/-- With a token in hand. -/
def afterGrant (c : Client) (task attempt : ℕ) : List Mark × Client :=
  waitForCooldown c task (.holding attempt) (requestOnce s c task attempt)

/-- The limiter has a token: a whole interval has passed since the last one. -/
def Ready (lastGrant : Option ℚ) (time : ℚ) : Prop := ∀ grant ∈ lastGrant, grant + 1 / s.requestsPerSecond ≤ time

instance (lastGrant : Option ℚ) (time : ℚ) : Decidable (Ready s lastGrant time) := by
  unfold Ready
  infer_instance

/-- After an error that is tried again: the sleep of the retry loop, or its end. -/
def retryLater (c : Client) (task attempt : ℕ) (delay : ℚ≥0) : Client :=
  if attempt < s.maxRetries + 1 then
    c.put task (.backingOff (attempt + 1) (c.now + if s.backoff = 0 ∨ s.maxBackoff = 0 then 0 else delay))
  else c.put task .idle

def answered (c : Client) (task attempt : ℕ) (r : Response) (delay : ℚ≥0) : List Mark × Client :=
  if r.status = 429 then
    match registerThrottle parseDate s (registerProviderSuccess c) r with
    | none => ([], (registerProviderSuccess c).put task .idle)
    | some (marks, c) => (marks, retryLater s c task attempt delay)
  else if 500 ≤ r.status then
    match if r.status = 503 then registerThrottle parseDate s c r else some ([], c) with
    | none => ([], c.put task .idle)
    | some (marks, c) =>
      match registerProviderFailure s c with
      | (true, c) => (marks, c.put task .idle)
      | (false, c) => (marks, retryLater s c task attempt delay)
  else ([], (registerProviderSuccess c).put task .idle)

/-- `client.get` raises. -/
def failed (c : Client) (task attempt : ℕ) (delay : ℚ≥0) : Client :=
  match registerProviderFailure s c with
  | (true, c) => c.put task .idle
  | (false, c) => retryLater s c task attempt delay

/-- One event; nothing happens where it does not fit. -/
def step (c : Client) : Event → List Mark × Client
  | .tick elapsed => ([], { c with now := c.now + elapsed })
  | .call task =>
    match c.stage task with
    | .idle => beginAttempt s c task 1
    | _ => ([], c)
  | .wake task =>
    match c.stage task with
    | .cooling attempt wake =>
      if wake.le (.fin c.now) then waitForCooldown c task (.cooling attempt) (afterCooldown s c task attempt) else ([], c)
    | .holding attempt wake => if wake.le (.fin c.now) then afterGrant s c task attempt else ([], c)
    | .backingOff attempt wake => if wake ≤ c.now then beginAttempt s c task attempt else ([], c)
    | _ => ([], c)
  | .grant task =>
    match c.stage task with
    | .acquiring attempt =>
      if Ready s c.lastGrant c.now then afterGrant s { c with lastGrant := some c.now } task attempt else ([], c)
    | _ => ([], c)
  | .answer task response delay =>
    match c.stage task with
    | .requesting attempt => answered parseDate s c task attempt response delay
    | _ => ([], c)
  | .failure task delay =>
    match c.stage task with
    | .requesting attempt => ([], failed s c task attempt delay)
    | _ => ([], c)
  | .cancel task => ([], c.put task .idle)

/-- A client that is opened at some time of the loop. -/
def client (opened : ℚ) : Machine Client Event (List Mark) where
  initial := ⟨opened, .fin 0, 0, 0, none, fun _ => .idle⟩
  step c e := step parseDate s c e

/-- A token that is granted is used at once: no cooldown is in force. -/
def Fresh (c : Client) : Event → Bool
  | .grant _ => c.cooldownUntil.le (.fin c.now)
  | _ => true

/-- A response that throttles asks for a wait that ends. -/
def Ends : Event → Bool
  | .answer _ response _ => !throttles response.status || !decide (Endless response.retryAfter)
  | _ => true

end

/-! ## What an event can do -/

/-- A call sleeps with a token in hand. -/
def Holding (c : Client) : Prop := ∃ task attempt wake, c.stage task = .holding attempt wake

/-- The fields that pace the starts are as they were, and no other call holds a token. -/
structure Same (c c' : Client) : Prop where
  cooldown : c'.cooldownUntil = c.cooldownUntil
  grant : c'.lastGrant = c.lastGrant
  now : c'.now = c.now
  held : Holding c' → Holding c

variable {parseDate : ParseDate} {s : Settings} {c c' c'' : Client} {e : Event} {task attempt : ℕ}

theorem Same.refl (c : Client) : Same c c := ⟨rfl, rfl, rfl, id⟩

theorem Same.trans (first : Same c c') (second : Same c' c'') : Same c c'' :=
  ⟨second.cooldown.trans first.cooldown, second.grant.trans first.grant, second.now.trans first.now,
    fun held => first.held (second.held held)⟩

theorem same_put (task : ℕ) {stage : Stage} (plain : ∀ attempt wake, stage ≠ .holding attempt wake) :
    Same c (c.put task stage) := by
  refine ⟨rfl, rfl, rfl, ?_⟩
  rintro ⟨other, attempt, wake, held⟩
  by_cases here : other = task
  · subst here
    exact absurd ((Function.update_self ..).symm.trans held) (plain attempt wake)
  · exact ⟨other, attempt, wake, (Function.update_of_ne here ..).symm.trans held⟩

theorem same_failure : Same c (registerProviderFailure s c).2 := by
  unfold registerProviderFailure
  split
  · exact .refl c
  · split <;> exact ⟨rfl, rfl, rfl, id⟩

theorem same_success : Same c (registerProviderSuccess c) := ⟨rfl, rfl, rfl, id⟩

theorem same_retryLater {delay : ℚ≥0} : Same c (retryLater s c task attempt delay) := by
  unfold retryLater
  split <;> exact same_put task nofun

theorem same_failed {delay : ℚ≥0} : Same c (failed s c task attempt delay) := by
  have failure : Same c (registerProviderFailure s c).2 := same_failure
  unfold failed
  generalize registerProviderFailure s c = answer at failure ⊢
  obtain ⟨opened, c'⟩ := answer
  cases opened with
  | true => exact failure.trans (same_put task nofun)
  | false => exact failure.trans same_retryLater

variable (s c e) in
/-- The ways an event changes what paces the client. -/
inductive Move : List Mark × Client → Prop
  | quiet (c' : Client) (same : Same c c') : Move ([], c')
  | ticked (elapsed : ℚ≥0) : Move ([], { c with now := c.now + elapsed })
  | started (c' : Client) (same : Same c c') (cool : c.cooldownUntil.le (.fin c.now))
      (why : s.requestsPerSecond = 0 ∨ Holding c) : Move ([.start c.now s.requestsPerSecond], c')
  | granted (task : ℕ) (isGrant : e = .grant task) (ready : Ready s c.lastGrant c.now) (marks : List Mark) (c' : Client)
      (starts : marks = [] ∨ marks = [.start c.now s.requestsPerSecond]) (cool : c.cooldownUntil.le (.fin c.now))
      (same : Same { c with lastGrant := some c.now } c') : Move (marks, c')
  /-- a token that has to wait -/
  | heldBack (task : ℕ) (isGrant : e = .grant task) (hot : c.cooldownUntil.le (.fin c.now) = false) (c' : Client)
      (cooldown : c'.cooldownUntil = c.cooldownUntil) : Move ([], c')
  | cooled (task : ℕ) (response : Response) (delay : ℚ≥0) (isAnswer : e = .answer task response delay)
      (throttled : throttles response.status = true) (seconds : PyFloat) (number : seconds ≠ .nan)
      (finite : ¬ Endless response.retryAfter → seconds.isFinite) (c' : Client)
      (same : Same { c with cooldownUntil := c.cooldownUntil.max ((PyFloat.fin c.now).add seconds) } c') :
      Move ([.cooldown ((PyFloat.fin c.now).add seconds)], c')

/-- A call that is let go on starts its request, or stops. -/
theorem requestOnce_cases : (∃ c', Same c c' ∧ requestOnce s c task attempt = ([], c')) ∨
    ∃ c', Same c c' ∧ requestOnce s c task attempt = ([.start c.now s.requestsPerSecond], c') := by
  unfold requestOnce
  split
  · exact .inl ⟨c.put task .idle, same_put task nofun, rfl⟩
  · exact .inr ⟨c.put task (.requesting attempt), same_put task nofun, rfl⟩

theorem move_afterCooldown (cool : c.cooldownUntil.le (.fin c.now)) : Move s c e (afterCooldown s c task attempt) := by
  unfold afterCooldown
  split
  · split <;> exact .quiet _ (same_put task nofun)
  · rename_i unlimited
    have none_ : s.requestsPerSecond = 0 := le_antisymm (not_lt.mp unlimited) s.requestsPerSecond_nonneg
    rcases requestOnce_cases with ⟨c', same, isStep⟩ | ⟨c', same, isStep⟩
    · exact isStep ▸ .quiet c' same
    · exact isStep ▸ .started c' same cool (.inl none_)

theorem move_cooling : Move s c e (waitForCooldown c task (.cooling attempt) (afterCooldown s c task attempt)) := by
  unfold waitForCooldown
  split
  · exact move_afterCooldown ‹_›
  · exact .quiet _ (same_put task nofun)

theorem move_beginAttempt : Move s c e (beginAttempt s c task attempt) := by
  unfold beginAttempt
  split
  · exact .quiet _ (same_put task nofun)
  · exact move_cooling

/-- A call that held its token through a cooldown. -/
theorem move_heldOn (held : Holding c) : Move s c e (afterGrant s c task attempt) := by
  unfold afterGrant waitForCooldown
  split
  · rcases requestOnce_cases with ⟨c', same, isStep⟩ | ⟨c', same, isStep⟩
    · exact isStep ▸ .quiet c' same
    · exact isStep ▸ .started c' same ‹_› (.inr held)
  · exact .quiet _ ⟨rfl, rfl, rfl, fun _ => held⟩

theorem move_grant (isGrant : e = .grant task) (ready : Ready s c.lastGrant c.now) :
    Move s c e (afterGrant s { c with lastGrant := some c.now } task attempt) := by
  unfold afterGrant waitForCooldown
  split
  · rcases requestOnce_cases (s := s) (c := { c with lastGrant := some c.now }) with ⟨c', same, isStep⟩ | ⟨c', same, isStep⟩
    · exact isStep ▸ .granted task isGrant ready [] c' (.inl rfl) ‹_› same
    · exact isStep ▸ .granted task isGrant ready _ c' (.inr rfl) ‹_› same
  · exact .heldBack task isGrant (Bool.eq_false_iff.mpr ‹_›) _ rfl

theorem registerThrottle_cases (parseDate : ParseDate) (s : Settings) (c : Client) (r : Response) :
    registerThrottle parseDate s c r = none ∨ registerThrottle parseDate s c r = some ([], c) ∨
    ∃ seconds : PyFloat, seconds ≠ .nan ∧ (¬ Endless r.retryAfter → seconds.isFinite) ∧ registerThrottle parseDate s c r =
      some ([.cooldown ((PyFloat.fin c.now).add seconds)],
        { c with cooldownUntil := c.cooldownUntil.max ((PyFloat.fin c.now).add seconds) }) := by
  have floored (delay : Option PyFloat) (number : delay.getD (.fin (max s.throttleFloorSeconds s.backoff)) ≠ .nan)
      (finite : ¬ Endless r.retryAfter → (delay.getD (.fin (max s.throttleFloorSeconds s.backoff))).isFinite)
      (read : retryAfterSeconds parseDate r.retryAfter r.utcNow = some delay) :
      registerThrottle parseDate s c r = some ([], c) ∨
      ∃ seconds : PyFloat, seconds ≠ .nan ∧ (¬ Endless r.retryAfter → seconds.isFinite) ∧ registerThrottle parseDate s c r =
        some ([.cooldown ((PyFloat.fin c.now).add seconds)],
          { c with cooldownUntil := c.cooldownUntil.max ((PyFloat.fin c.now).add seconds) }) := by
    by_cases none_ : (delay.getD (.fin (max s.throttleFloorSeconds s.backoff))).le (.fin 0) = true
    · left
      simp only [registerThrottle, read, Option.map_some, extendCooldown, if_pos none_]
    · refine .inr ⟨_, number, finite, ?_⟩
      simp only [registerThrottle, read, Option.map_some, extendCooldown, if_neg none_]
  cases read : retryAfterSeconds parseDate r.retryAfter r.utcNow with
  | none => exact .inl (by simp only [registerThrottle, read, Option.map_none])
  | some delay =>
    right
    cases delay with
    | none => exact floored none nofun (fun _ => rfl) read
    | some seconds =>
      exact floored (some seconds) (retryAfterSeconds_ne_nan parseDate read)
        (fun ends => (retryAfterSeconds_finite parseDate read).mpr ends) read

/-- The end of an answer that throttled or not, as `registered` left the client. -/
theorem move_registered {response : Response} {delay : ℚ≥0} (isAnswer : e = .answer task response delay)
    (throttled : throttles response.status = true) (before : Same c c') (c'' : Client) {marks : List Mark}
    {registered : Client} (isThrottle : registerThrottle parseDate s c' response = some (marks, registered))
    (after : Same registered c'') : Move s c e (marks, c'') := by
  rcases registerThrottle_cases parseDate s c' response with none_ | same | ⟨seconds, number, finite, same⟩
  · exact nomatch none_.symm.trans isThrottle
  · cases same.symm.trans isThrottle
    exact .quiet c'' (before.trans after)
  · cases same.symm.trans isThrottle
    rw [before.now]
    refine .cooled task response delay isAnswer throttled seconds number finite c'' (Same.trans ⟨?_, ?_, ?_, ?_⟩ after)
    · simp [before.cooldown, before.now]
    · exact before.grant
    · exact before.now
    · exact before.held

theorem move_answered {response : Response} {delay : ℚ≥0} (isAnswer : e = .answer task response delay) :
    Move s c e (answered parseDate s c task attempt response delay) := by
  unfold answered
  split
  · rename_i status
    have throttled : throttles response.status = true := by simp [throttles, status]
    split
    · exact .quiet _ (same_success.trans (same_put task nofun))
    · exact move_registered isAnswer throttled same_success _ ‹_› same_retryLater
  · split
    · split
      · exact .quiet _ (same_put task nofun)
      · rename_i marks registered isThrottle
        have failure : Same registered (registerProviderFailure s registered).2 := same_failure
        have ends (c'' : Client) (after : Same registered c'') : Move s c e (marks, c'') := by
          split at isThrottle
          · rename_i status
            exact move_registered isAnswer (by simp [throttles, status]) (.refl c) c'' isThrottle after
          · cases isThrottle
            exact .quiet c'' after
        generalize registerProviderFailure s registered = answer at failure ⊢
        obtain ⟨opened, c''⟩ := answer
        cases opened with
        | true => exact ends _ (failure.trans (same_put task nofun))
        | false => exact ends _ (failure.trans same_retryLater)
    · exact .quiet _ (same_success.trans (same_put task nofun))

theorem move_step (parseDate : ParseDate) (s : Settings) (c : Client) (e : Event) : Move s c e (step parseDate s c e) := by
  have rests : Move s c e ([], c) := .quiet c (.refl c)
  cases e with
  | tick elapsed => exact .ticked elapsed
  | call task =>
    simp only [step]
    split
    · exact move_beginAttempt
    · exact rests
  | wake task =>
    simp only [step]
    split
    · split
      · exact move_cooling
      · exact rests
    · split
      · exact move_heldOn ⟨task, _, _, ‹_›⟩
      · exact rests
    · split
      · exact move_beginAttempt
      · exact rests
    · exact rests
  | grant task =>
    simp only [step]
    split
    · split
      · exact move_grant rfl ‹_›
      · exact rests
    · exact rests
  | answer task response delay =>
    simp only [step]
    split
    · exact move_answered rfl
    · exact rests
  | failure task delay =>
    simp only [step]
    split
    · exact .quiet _ same_failed
    · exact rests
  | cancel task => exact .quiet _ (same_put task nofun)

/-! ## Over a run -/

/-- The cooldown in force ends with the last one registered, and was waited for. -/
structure Inv (c : Client) (marks : List Mark) : Prop where
  number : c.cooldownUntil ≠ .nan
  within : Within marks c.cooldownUntil
  heeded : Heeded marks

theorem Inv.of_same {marks : List Mark} (inv : Inv c marks) (same : c'.cooldownUntil = c.cooldownUntil) : Inv c' marks :=
  ⟨same ▸ inv.number, same ▸ inv.within, inv.heeded⟩

theorem Inv.starts {marks : List Mark} (inv : Inv c marks) (same : c'.cooldownUntil = c.cooldownUntil)
    (cool : c.cooldownUntil.le (.fin c.now)) {rate : ℚ} : Inv c' (marks ++ [.start c.now rate]) :=
  ⟨same ▸ inv.number, same ▸ inv.within.start, inv.heeded.start inv.within cool⟩

theorem inv_step {marks : List Mark} (inv : Inv c marks) : ∀ {answer}, Move s c e answer → Inv answer.2 (marks ++ answer.1)
  | _, .quiet c' same => by simpa using inv.of_same same.cooldown
  | _, .ticked elapsed => by
    rw [List.append_nil]
    exact inv.of_same rfl
  | _, .started c' same cool _ => inv.starts same.cooldown cool
  | _, .granted _ _ _ marks' c' starts cool same => by
    rcases starts with rfl | rfl
    · simpa using inv.of_same same.cooldown
    · exact inv.starts same.cooldown cool
  | _, .heldBack _ _ _ c' cooldown => by simpa using inv.of_same cooldown
  | _, .cooled _ _ _ _ _ seconds number _ c' same => by
    have known : (PyFloat.fin c.now).add seconds ≠ .nan := PyFloat.add_ne_nan number
    refine ⟨same.cooldown ▸ max_ne_nan inv.number known, ?_, inv.heeded.cooldown⟩
    exact same.cooldown ▸ inv.within.cooldown inv.number known

/-- While no token has to wait, the last one spaces the starts. -/
structure Even (s : Settings) (c : Client) (marks : List Mark) : Prop where
  free : ¬ Holding c
  spaced : Spaced marks
  reserved : ∀ time, Ready s c.lastGrant time → Reserved marks time

theorem Even.of_same {marks : List Mark} (even : Even s c marks) (same : Same c c') : Even s c' marks :=
  ⟨fun held => even.free (same.held held), even.spaced, fun time => same.grant ▸ even.reserved time⟩

theorem even_step (paced : 0 < s.requestsPerSecond) (fresh : Fresh c e) {marks : List Mark} (even : Even s c marks) :
    ∀ {answer}, Move s c e answer → Even s answer.2 (marks ++ answer.1)
  | _, .quiet c' same => by simpa using even.of_same same
  | _, .ticked elapsed => by
    rw [List.append_nil]
    exact ⟨even.free, even.spaced, even.reserved⟩
  | _, .started _ _ _ why => by
    rcases why with none_ | held
    · exact absurd none_ paced.ne'
    · exact absurd held even.free
  | _, .granted task isGrant ready marks' c' starts _ same => by
    have interval : 0 ≤ 1 / s.requestsPerSecond := by positivity
    have reserved (time : ℚ) (later : Ready s c'.lastGrant time) : Reserved marks time ∧ c.now + 1 / s.requestsPerSecond ≤ time := by
      have passed : c.now + 1 / s.requestsPerSecond ≤ time := later c.now (same.grant ▸ rfl)
      exact ⟨(even.reserved c.now ready).mono (by linarith), passed⟩
    rcases starts with rfl | rfl
    · simpa using (⟨fun held => even.free (same.held held), even.spaced, fun time later => (reserved time later).1⟩ : Even s c' marks)
    · exact ⟨fun held => even.free (same.held held), even.spaced.start (even.reserved c.now ready) le_rfl,
        fun time later => (reserved time later).1.start (reserved time later).2⟩
  | _, .heldBack task isGrant hot _ _ => by
    subst isGrant
    exact absurd (hot.symm.trans fresh) Bool.false_ne_true
  | _, .cooled _ _ _ _ _ _ _ _ c' same =>
    ⟨fun held => even.free (same.held held), even.spaced.cooldown, fun time later => (even.reserved time (same.grant ▸ later)).cooldown⟩

theorem ending_step (ends : Ends e) {marks : List Mark} (ending : Ending marks) :
    ∀ {answer}, Move s c e answer → Ending (marks ++ answer.1)
  | _, .quiet _ _ | _, .ticked _ | _, .heldBack _ _ _ _ _ => by simpa using ending
  | _, .started _ _ _ _ => ending.start
  | _, .granted _ _ _ _ _ starts _ _ => by
    rcases starts with rfl | rfl
    · simpa using ending
    · exact ending.start
  | _, .cooled task response delay isAnswer throttled seconds _ finite _ _ => by
    refine ending.cooldown ?_
    subst isAnswer
    have known := finite (by simpa [Ends, throttled] using ends)
    cases seconds <;> simp_all [PyFloat.isFinite, PyFloat.add]

section
variable (parseDate : ParseDate) (s : Settings) (opened : ℚ) (es : List Event)

theorem run_inv : Inv ((client parseDate s opened).final es) (timeline (client parseDate s opened) es) := by
  induction es using List.reverseRecOn with
  | nil => exact ⟨nofun, nofun, List.Pairwise.nil⟩
  | append_singleton es e ih =>
    rw [Machine.final_snoc, timeline_snoc]
    exact inv_step ih (move_step parseDate s _ e)

/-- Starts keep the interval of the limiter in a run in which no token is granted inside a cooldown. -/
theorem run_even (paced : 0 < s.requestsPerSecond)
    (fresh : ∀ r ∈ (client parseDate s opened).trace es, Fresh r.before r.event) :
    Even s ((client parseDate s opened).final es) (timeline (client parseDate s opened) es) := by
  induction es using List.reverseRecOn with
  | nil => exact ⟨nofun, List.Pairwise.nil, fun _ _ => nofun⟩
  | append_singleton es e ih =>
    rw [Machine.trace_snoc] at fresh
    rw [Machine.final_snoc, timeline_snoc]
    refine even_step paced ?_ (ih fun r member => fresh r (List.mem_append_left _ member)) (move_step parseDate s _ e)
    exact fresh _ (List.mem_append_right _ (List.mem_singleton_self _))

theorem run_ending (ends : ∀ e ∈ es, Ends e) : Ending (timeline (client parseDate s opened) es) := by
  induction es using List.reverseRecOn with
  | nil => exact nofun
  | append_singleton es e ih =>
    rw [timeline_snoc]
    refine ending_step (ends e (by simp)) (ih fun e member => ends e (List.mem_append_left _ member)) (move_step parseDate s _ e)

end

end Creeper.CdxPacing
