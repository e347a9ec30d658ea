import Creeper.RetryAfter

/-!
# Pacing of the RDAP client

`AsyncRDAPClient._get` as a machine of concurrent requests. The pacing lock is
held through the sleep before a request, so one call at a time takes the next
slot and the others queue; the slot is computed once, before that sleep.
-/

namespace Creeper.RdapPacing
open Creeper.PyNumbers Creeper.Runs Creeper.RetryAfter Creeper.RequestTimelines

/-- The arguments of the client that its pace depends on, as `__init__` checks them. -/
structure Settings where
  requestsPerSecond : ℚ
  minRequestsPerSecond : ℚ
  decreaseFactor : ℚ
  recoverySuccesses : ℕ
  recoveryStepFraction : ℚ
  throttleFloorSeconds : ℚ
  requestsPerSecond_nonneg : 0 ≤ requestsPerSecond := by norm_num
  minRequestsPerSecond_pos : 0 < minRequestsPerSecond := by norm_num
  min_le : 0 < requestsPerSecond → minRequestsPerSecond ≤ requestsPerSecond := by norm_num
  decreaseFactor_pos : 0 < decreaseFactor := by norm_num
  decreaseFactor_lt : decreaseFactor < 1 := by norm_num
  recoverySuccesses_pos : 1 ≤ recoverySuccesses := by norm_num
  recoveryStepFraction_pos : 0 < recoveryStepFraction := by norm_num
  throttleFloorSeconds_nonneg : 0 ≤ throttleFloorSeconds := by norm_num

/-- Where a call of `_get` waits. -/
inductive Stage
  | idle
  /-- for the pacing lock -/
  | queued
  /-- in the sleep before its slot, with the lock -/
  | pacing (wake : PyFloat)
  /-- in `client.get` -/
  | requesting

/-- The clock, the client's shared fields, the pacing lock with its waiters, and the calls. -/
structure Client where
  now : ℚ
  nextRequestStart : ℚ
  cooldownUntil : PyFloat
  effectiveRequestsPerSecond : ℚ
  successStreak : ℕ
  lock : Option ℕ
  waiters : List ℕ
  stage : ℕ → Stage

def Client.put (c : Client) (task : ℕ) (stage : Stage) : Client := { c with stage := Function.update c.stage task stage }

/-- A response: its status, its `Retry-After`, and the date when it is read. -/
structure Response where
  status : ℤ
  retryAfter : Option String
  utcNow : ℚ

/-- What happens next. -/
inductive Event
  | tick (elapsed : ℚ≥0)
  | call (task : ℕ)
  /-- the first waiter gets the lock -/
  | resume
  | wake (task : ℕ)
  | answer (task : ℕ) (response : Response)
  /-- a timeout or a transport error -/
  | failure (task : ℕ)
  | cancel (task : ℕ)

section
variable (parseDate : ParseDate) (s : Settings)

/-! ## Between two awaits -/

/-- The rate that a slot is computed with. -/
def rate (c : Client) : ℚ := max s.minRequestsPerSecond c.effectiveRequestsPerSecond

/-- The end of `_acquire_request_slot`: the slot is taken, the lock is free, and the request starts. -/
def takeSlot (c : Client) (task : ℕ) : List Mark × Client :=
  ([.start c.now c.effectiveRequestsPerSecond], { c.put task .requesting with
    nextRequestStart := max c.now c.nextRequestStart + 1 / rate s c, lock := none })

/-- `_acquire_request_slot` with the lock: a sleep, or the slot at once. -/
def acquireSlot (c : Client) (task : ℕ) : List Mark × Client :=
  let waitUntil := PyFloat.max (.fin c.nextRequestStart) c.cooldownUntil
  if waitUntil.le (.fin c.now) then takeSlot s c task
  else ([], { c.put task (.pacing waitUntil) with lock := some task })

/-- The cooldown that a response asks for; nothing when the reading of the header raises. -/
def cooldownOf (r : Response) : Option PyFloat :=
  (rdapRetryAfterSeconds parseDate r.retryAfter r.utcNow).map fun retryAfter =>
    PyFloat.max (.fin s.throttleFloorSeconds) (retryAfter.getD (.fin 0))

/-- `_register_throttle` of a cooldown. -/
def registerThrottle (c : Client) (cooldown : PyFloat) : List Mark × Client :=
  let reduced := max s.minRequestsPerSecond (c.effectiveRequestsPerSecond * s.decreaseFactor)
  let effective :=
    if 0 < s.requestsPerSecond ∧ reduced < c.effectiveRequestsPerSecond then reduced else c.effectiveRequestsPerSecond
  let deadline := (PyFloat.fin c.now).add cooldown
  ([.cooldown deadline], { c with
    successStreak := 0, effectiveRequestsPerSecond := effective, cooldownUntil := c.cooldownUntil.max deadline })

/-- `_register_success`. -/
def registerSuccess (c : Client) : Client :=
  if s.requestsPerSecond ≤ 0 then c
  else if c.successStreak + 1 < s.recoverySuccesses then { c with successStreak := c.successStreak + 1 }
  else
    let increased := min s.requestsPerSecond
      (c.effectiveRequestsPerSecond + s.requestsPerSecond * s.recoveryStepFraction)
    { c with
      successStreak := 0
      effectiveRequestsPerSecond :=
        if c.effectiveRequestsPerSecond < s.requestsPerSecond ∧ c.effectiveRequestsPerSecond < increased then increased
        else c.effectiveRequestsPerSecond }

/-- A response arrives, and the call ends. -/
def answered (c : Client) (task : ℕ) (r : Response) : List Mark × Client :=
  let c := c.put task .idle
  if throttles r.status then
    match cooldownOf parseDate s r with
    | none => ([], c)
    | some cooldown => registerThrottle s c cooldown
  else ([], if r.status < 500 then registerSuccess s c else c)

/-- One event; nothing happens where it does not fit. -/
def step (c : Client) : Event → List Mark × Client
  | .tick elapsed => ([], { c with now := c.now + elapsed })
  | .call task =>
    match c.stage task with
    | .idle =>
      if s.requestsPerSecond ≤ 0 then ([.start c.now c.effectiveRequestsPerSecond], c.put task .requesting)
      else if c.lock = none ∧ c.waiters = [] then acquireSlot s c task
      else ([], { c.put task .queued with waiters := c.waiters ++ [task] })
    | _ => ([], c)
  | .resume =>
    match c.lock, c.waiters with
    | none, task :: waiters => acquireSlot s { c with waiters := waiters } task
    | _, _ => ([], c)
  | .wake task =>
    match c.stage task with
    | .pacing wake => if wake.le (.fin c.now) then takeSlot s c task else ([], c)
    | _ => ([], c)
  | .answer task response =>
    match c.stage task with
    | .requesting => answered parseDate s c task response
    | _ => ([], c)
  | .failure task =>
    match c.stage task with
    | .requesting => ([], c.put task .idle)
    | _ => ([], c)
  | .cancel task => ([], { c.put task .idle with
      lock := if c.lock = some task then none else c.lock, waiters := c.waiters.filter (· ≠ task) })

/-- A client that is opened at some time of the loop. -/
def client (opened : ℚ) : Machine Client Event (List Mark) where
  initial := ⟨opened, 0, .fin 0, s.requestsPerSecond, 0, none, [], fun _ => .idle⟩
  step c e := step parseDate s c e

/-- No cooldown passes a request by: one registered while a request sleeps ends
    before its slot, and a request that no rate holds back starts outside cooldowns. -/
def Awaited (c : Client) : Event → Prop
  | .answer _ response => throttles response.status = true → ∀ cooldown ∈ cooldownOf parseDate s response,
      ∀ other wake, c.stage other = .pacing wake → ((PyFloat.fin c.now).add cooldown).le wake
  | .call _ => s.requestsPerSecond = 0 → c.cooldownUntil.le (.fin c.now)
  | _ => True

/-- A response that throttles asks for a wait that ends. -/
def Ends : Event → Bool
  | .answer _ response => !throttles response.status || !decide (EndlessDigits response.retryAfter)
  | _ => true

end

/-! ## What an event can do -/

/-- The fields that pace the starts are as they were, and no other call sleeps before its slot. -/
structure Same (s : Settings) (c c' : Client) : Prop where
  cooldown : c'.cooldownUntil = c.cooldownUntil
  next : c'.nextRequestStart = c.nextRequestStart
  now : c.now ≤ c'.now
  rate : s.minRequestsPerSecond ≤ c.effectiveRequestsPerSecond → s.minRequestsPerSecond ≤ c'.effectiveRequestsPerSecond
  sleeps : ∀ task wake, c'.stage task = .pacing wake → c.stage task = .pacing wake ∧ (c.lock = some task → c'.lock = some task)

variable {parseDate : ParseDate} {s : Settings} {c c' c'' : Client} {e : Event} {task : ℕ}

theorem Same.refl (c : Client) : Same s c c := ⟨rfl, rfl, le_rfl, id, fun _ _ here => ⟨here, id⟩⟩

theorem Same.trans (first : Same s c c') (second : Same s c' c'') : Same s c c'' := by
  refine ⟨second.cooldown.trans first.cooldown, second.next.trans first.next, first.now.trans second.now,
    fun low => second.rate (first.rate low), fun task wake here => ?_⟩
  obtain ⟨earlier, lock'⟩ := second.sleeps task wake here
  obtain ⟨start, lock⟩ := first.sleeps task wake earlier
  exact ⟨start, fun held => lock' (lock held)⟩

theorem put_pacing {stages : ℕ → Stage} (stage : Stage) (plain : ∀ wake, stage ≠ .pacing wake) {other : ℕ} {wake : PyFloat}
    (here : Function.update stages task stage other = .pacing wake) : other ≠ task ∧ stages other = .pacing wake := by
  by_cases same : other = task
  · subst same
    exact absurd ((Function.update_self ..).symm.trans here) (plain wake)
  · exact ⟨same, (Function.update_of_ne same ..).symm.trans here⟩

theorem same_put (task : ℕ) {stage : Stage} (plain : ∀ wake, stage ≠ .pacing wake) : Same s c (c.put task stage) :=
  ⟨rfl, rfl, le_rfl, id, fun _ _ here => ⟨(put_pacing stage plain here).2, id⟩⟩

theorem same_success : Same s c (registerSuccess s c) := by
  unfold registerSuccess
  split
  · exact .refl c
  · split
    · exact ⟨rfl, rfl, le_rfl, id, fun _ _ here => ⟨here, id⟩⟩
    · refine ⟨rfl, rfl, le_rfl, fun low => ?_, fun _ _ here => ⟨here, id⟩⟩
      dsimp only
      split
      · rename_i raised
        exact low.trans raised.2.le
      · exact low

/-- The next slot is taken now: nothing is reserved or cooling any more. -/
structure Taken (s : Settings) (c : Client) (task : ℕ) (c' : Client) : Prop where
  cooldown : c'.cooldownUntil = c.cooldownUntil
  next : c'.nextRequestStart = max c.now c.nextRequestStart + 1 / rate s c
  rate : c'.effectiveRequestsPerSecond = c.effectiveRequestsPerSecond
  sleeps : ∀ other wake, c'.stage other = .pacing wake → other ≠ task ∧ c.stage other = .pacing wake

variable (parseDate s c e) in
/-- The ways an event changes what paces the client. -/
inductive Move : List Mark × Client → Prop
  | quiet (c' : Client) (same : Same s c c') : Move ([], c')
  /-- no rate holds the request back -/
  | unpaced (task : ℕ) (isCall : e = .call task) (unlimited : s.requestsPerSecond = 0) (c' : Client) (same : Same s c c') :
      Move ([.start c.now c.effectiveRequestsPerSecond], c')
  | atOnce (task : ℕ) (unlocked : c.lock = none) (free : c.nextRequestStart ≤ c.now)
      (cool : c.cooldownUntil.le (.fin c.now)) (c' : Client) (taken : Taken s c task c') :
      Move ([.start c.now c.effectiveRequestsPerSecond], c')
  | slept (task : ℕ) (unlocked : c.lock = none) (c' : Client) (cooldown : c'.cooldownUntil = c.cooldownUntil)
      (next : c'.nextRequestStart = c.nextRequestStart) (rate : c'.effectiveRequestsPerSecond = c.effectiveRequestsPerSecond)
      (lock : c'.lock = some task)
      (stage : c'.stage = Function.update c.stage task
        (.pacing (PyFloat.max (.fin c.nextRequestStart) c.cooldownUntil))) : Move ([], c')
  | awoken (task : ℕ) (wake : PyFloat) (sleeping : c.stage task = .pacing wake) (past : wake.le (.fin c.now)) (c' : Client)
      (taken : Taken s c task c') : Move ([.start c.now c.effectiveRequestsPerSecond], c')
  | cooled (task : ℕ) (response : Response) (isAnswer : e = .answer task response)
      (throttled : throttles response.status = true) (cooldown : PyFloat)
      (read : cooldownOf parseDate s response = some cooldown) (c' : Client)
      (same : Same s { c with cooldownUntil := c.cooldownUntil.max ((PyFloat.fin c.now).add cooldown) } c') :
      Move ([.cooldown ((PyFloat.fin c.now).add cooldown)], c')

theorem taken_slot (c : Client) (task : ℕ) : Taken s c task (takeSlot s c task).2 :=
  ⟨rfl, rfl, rfl, fun _ _ here => put_pacing .requesting nofun here⟩

/-- The greater of two bounds is past. -/
theorem max_le_iff' {q now : ℚ} {x : PyFloat} (past : (PyFloat.max (.fin q) x).le (.fin now) = true) (number : x ≠ .nan) :
    q ≤ now ∧ x.le (.fin now) = true := by
  have left := le_trans (le_max_left (a := .fin q) (b := x) nofun) past
  have right := le_trans (le_max_right (a := .fin q) (b := x) nofun number) past
  exact ⟨by simpa using left, right⟩

theorem move_acquire (unlocked : c.lock = none) (number : c.cooldownUntil ≠ .nan)
    (waiters : List ℕ) : Move parseDate s c e (acquireSlot s { c with waiters := waiters } task) := by
  unfold acquireSlot
  dsimp only
  split
  · rename_i past
    obtain ⟨free, cool⟩ := max_le_iff' past number
    exact .atOnce task unlocked free cool _ ⟨rfl, rfl, rfl, fun _ _ here => put_pacing .requesting nofun here⟩
  · exact .slept task unlocked _ rfl rfl rfl rfl rfl

theorem same_throttle (cooldown : PyFloat) :
    Same s { c with cooldownUntil := c.cooldownUntil.max ((PyFloat.fin c.now).add cooldown) } (registerThrottle s c cooldown).2 := by
  refine ⟨rfl, rfl, le_rfl, fun low => ?_, fun _ _ here => ⟨here, id⟩⟩
  simp only [registerThrottle]
  split
  · exact le_max_left ..
  · exact low

theorem move_answered {response : Response} (isAnswer : e = .answer task response) :
    Move parseDate s c e (answered parseDate s c task response) := by
  have ended : Same s c (c.put task .idle) := same_put task nofun
  unfold answered
  dsimp only
  split
  · split
    · exact .quiet _ ended
    · rename_i throttled _ cooldown read
      refine .cooled task response isAnswer throttled cooldown read _ (Same.trans ?_ (same_throttle cooldown))
      exact ⟨rfl, rfl, le_rfl, id, fun _ _ here => ⟨(put_pacing .idle nofun here).2, id⟩⟩
  · split
    · exact .quiet _ (ended.trans same_success)
    · exact .quiet _ ended

theorem move_step (parseDate : ParseDate) (s : Settings) (number : c.cooldownUntil ≠ .nan) (e : Event) :
    Move parseDate s c e (step parseDate s c e) := by
  have rests : Move parseDate s c e ([], c) := .quiet c (.refl c)
  cases e with
  | tick elapsed =>
    exact .quiet _ ⟨rfl, rfl, le_add_of_nonneg_right elapsed.2, id, fun _ _ here => ⟨here, id⟩⟩
  | call task =>
    simp only [step]
    split
    · split
      · rename_i unlimited
        exact .unpaced task rfl (le_antisymm unlimited s.requestsPerSecond_nonneg) _ (same_put task nofun)
      · split
        · rename_i free
          exact move_acquire free.1 number c.waiters
        · exact .quiet _ ⟨rfl, rfl, le_rfl, id, fun _ _ here => ⟨(put_pacing .queued nofun here).2, id⟩⟩
    · exact rests
  | resume =>
    simp only [step]
    split
    · exact move_acquire ‹_› number _
    · exact rests
  | wake task =>
    simp only [step]
    split
    · split
      · exact .awoken task _ ‹_› ‹_› _ (taken_slot c task)
      · exact rests
    · exact rests
  | answer task response =>
    simp only [step]
    split
    · exact move_answered rfl
    · exact rests
  | failure task =>
    simp only [step]
    split
    · exact .quiet _ (same_put task nofun)
    · exact rests
  | cancel task =>
    refine .quiet _ ⟨rfl, rfl, le_rfl, id, fun other wake here => ?_⟩
    obtain ⟨apart, before⟩ := put_pacing .idle nofun here
    refine ⟨before, fun held => ?_⟩
    have kept : c.lock ≠ some task := fun same => apart (Option.some_inj.mp (held.symm.trans same))
    rw [if_neg kept]
    exact held

/-! ## Over a run -/

/-- The cooldown in force ends with the last one registered. -/
structure Known (c : Client) (marks : List Mark) : Prop where
  number : c.cooldownUntil ≠ .nan
  within : Within marks c.cooldownUntil

theorem cooldownOf_ne_nan {response : Response} {cooldown : PyFloat}
    (read : cooldownOf parseDate s response = some cooldown) : cooldown ≠ .nan := by
  obtain ⟨retryAfter, isRead, rfl⟩ := Option.map_eq_some_iff.mp read
  refine max_ne_nan nofun ?_
  cases retryAfter with
  | none => nofun
  | some seconds => exact rdapRetryAfterSeconds_ne_nan parseDate isRead

theorem known_step {marks : List Mark} (known : Known c marks) :
    ∀ {answer}, Move parseDate s c e answer → Known answer.2 (marks ++ answer.1)
  | _, .quiet c' same => by
    rw [List.append_nil]
    exact ⟨same.cooldown ▸ known.number, same.cooldown ▸ known.within⟩
  | _, .slept _ _ c' cooldown _ _ _ _ => by
    rw [List.append_nil]
    exact ⟨cooldown ▸ known.number, cooldown ▸ known.within⟩
  | _, .unpaced _ _ _ c' same => ⟨same.cooldown ▸ known.number, same.cooldown ▸ known.within.start⟩
  | _, .atOnce _ _ _ _ c' taken | _, .awoken _ _ _ _ c' taken =>
    ⟨taken.cooldown ▸ known.number, taken.cooldown ▸ known.within.start⟩
  | _, .cooled _ _ _ _ cooldown read c' same => by
    have number := PyFloat.add_ne_nan (a := c.now) (cooldownOf_ne_nan read)
    exact ⟨same.cooldown ▸ max_ne_nan known.number number, same.cooldown ▸ known.within.cooldown known.number number⟩

/-- The call that sleeps holds the lock and sleeps at least to the next slot, and starts are apart. -/
structure Even (s : Settings) (c : Client) (marks : List Mark) : Prop where
  rate : s.minRequestsPerSecond ≤ c.effectiveRequestsPerSecond
  sleeps : ∀ task wake, c.stage task = .pacing wake → c.lock = some task ∧ (PyFloat.fin c.nextRequestStart).le wake
  spaced : Spaced marks
  reserved : Reserved marks c.nextRequestStart

/-- Nobody sleeps while the lock is free. -/
theorem Even.awake {marks : List Mark} (even : Even s c marks) (unlocked : c.lock = none) (wake : PyFloat) :
    c.stage task ≠ .pacing wake :=
  fun here => nomatch unlocked.symm.trans (even.sleeps task wake here).1

theorem Even.taken {marks : List Mark} (even : Even s c marks) (free : c.nextRequestStart ≤ c.now)
    (alone : ∀ other wake, c.stage other = .pacing wake → other = task) (taken : Taken s c task c') :
    Even s c' (marks ++ [.start c.now c.effectiveRequestsPerSecond]) := by
  have inForce : RdapPacing.rate s c = c.effectiveRequestsPerSecond := max_eq_right even.rate
  have positive : 0 < c.effectiveRequestsPerSecond := s.minRequestsPerSecond_pos.trans_le even.rate
  have next : c'.nextRequestStart = c.now + 1 / c.effectiveRequestsPerSecond := by
    rw [taken.next, inForce, max_eq_left free]
  have interval : 0 < 1 / c.effectiveRequestsPerSecond := by positivity
  refine ⟨taken.rate ▸ even.rate, fun other wake here => ?_, even.spaced.start even.reserved free, ?_⟩
  · obtain ⟨apart, before⟩ := taken.sleeps other wake here
    exact absurd (alone other wake before) apart
  · exact (even.reserved.mono (by rw [next]; linarith)).start next.ge

theorem even_step (paced : 0 < s.requestsPerSecond) {marks : List Mark} (even : Even s c marks) :
    ∀ {answer}, Move parseDate s c e answer → Even s answer.2 (marks ++ answer.1)
  | _, .quiet c' same => by
    rw [List.append_nil]
    refine ⟨same.rate even.rate, fun task wake here => ?_, even.spaced, same.next ▸ even.reserved⟩
    obtain ⟨before, lock⟩ := same.sleeps task wake here
    exact ⟨lock (even.sleeps task wake before).1, same.next ▸ (even.sleeps task wake before).2⟩
  | _, .unpaced _ _ unlimited _ _ => absurd unlimited paced.ne'
  | _, .atOnce task unlocked free _ c' taken => even.taken free (fun _ wake here => absurd here (even.awake unlocked wake)) taken
  | _, .slept task unlocked c' _ next rate lock stage => by
    rw [List.append_nil]
    refine ⟨rate ▸ even.rate, fun other wake here => ?_, even.spaced, next ▸ even.reserved⟩
    rw [stage] at here
    by_cases same : other = task
    · subst same
      cases (Function.update_self ..).symm.trans here
      exact ⟨lock, next ▸ le_max_left nofun⟩
    · exact absurd ((Function.update_of_ne same ..).symm.trans here) (even.awake unlocked wake)
  | _, .awoken task wake sleeping past c' taken => by
    obtain ⟨lock, later⟩ := even.sleeps task wake sleeping
    refine even.taken (by simpa using le_trans later past) (fun other wake' here => ?_) taken
    exact Option.some_inj.mp ((even.sleeps other wake' here).1.symm.trans lock)
  | _, .cooled task response _ _ cooldown _ c' same => by
    refine ⟨same.rate even.rate, fun other wake here => ?_, even.spaced.cooldown, same.next ▸ even.reserved.cooldown⟩
    obtain ⟨before, lock⟩ := same.sleeps other wake here
    exact ⟨lock (even.sleeps other wake before).1, same.next ▸ (even.sleeps other wake before).2⟩

/-- Every sleep before a slot lasts through the cooldown in force. -/
structure Calm (c : Client) (marks : List Mark) : Prop where
  heeded : Heeded marks
  covered : ∀ task wake, c.stage task = .pacing wake → c.cooldownUntil.le wake

theorem calm_step (awaited : Awaited parseDate s c e) {marks : List Mark} (known : Known c marks) (calm : Calm c marks) :
    ∀ {answer}, Move parseDate s c e answer → Calm answer.2 (marks ++ answer.1)
  | _, .quiet c' same => by
    rw [List.append_nil]
    exact ⟨calm.heeded, fun task wake here => same.cooldown ▸ calm.covered task wake (same.sleeps task wake here).1⟩
  | _, .unpaced task isCall unlimited c' same => by
    subst isCall
    exact ⟨calm.heeded.start known.within (awaited unlimited),
      fun other wake here => same.cooldown ▸ calm.covered other wake (same.sleeps other wake here).1⟩
  | _, .atOnce task _ _ cool c' taken =>
    ⟨calm.heeded.start known.within cool,
      fun other wake here => taken.cooldown ▸ calm.covered other wake (taken.sleeps other wake here).2⟩
  | _, .slept task _ c' cooldown _ _ _ stage => by
    rw [List.append_nil]
    refine ⟨calm.heeded, fun other wake here => ?_⟩
    rw [stage] at here
    rw [cooldown]
    by_cases same : other = task
    · subst same
      cases (Function.update_self ..).symm.trans here
      exact le_max_right nofun known.number
    · exact calm.covered other wake ((Function.update_of_ne same ..).symm.trans here)
  | _, .awoken task wake sleeping past c' taken =>
    ⟨calm.heeded.start known.within (le_trans (calm.covered task wake sleeping) past),
      fun other wake here => taken.cooldown ▸ calm.covered other wake (taken.sleeps other wake here).2⟩
  | _, .cooled task response isAnswer throttled cooldown read c' same => by
    subst isAnswer
    refine ⟨calm.heeded.cooldown, fun other wake here => ?_⟩
    have before := (same.sleeps other wake here).1
    exact same.cooldown ▸ max_le (calm.covered other wake before) (awaited throttled cooldown read other wake before)

theorem cooldownOf_finite {response : Response} {cooldown : PyFloat} (read : cooldownOf parseDate s response = some cooldown)
    (ends : ¬ EndlessDigits response.retryAfter) : cooldown.isFinite := by
  obtain ⟨retryAfter, isRead, rfl⟩ := Option.map_eq_some_iff.mp read
  cases retryAfter with
  | none => exact isFinite_of_max rfl
  | some seconds => exact isFinite_of_max ((rdapRetryAfterSeconds_finite parseDate isRead).mpr ends)

theorem ending_step (ends : Ends e) {marks : List Mark} (ending : Ending marks) :
    ∀ {answer}, Move parseDate s c e answer → Ending (marks ++ answer.1)
  | _, .quiet _ _ | _, .slept _ _ _ _ _ _ _ _ => by simpa using ending
  | _, .unpaced _ _ _ _ _ | _, .atOnce _ _ _ _ _ _ | _, .awoken _ _ _ _ _ _ => ending.start
  | _, .cooled task response isAnswer throttled cooldown read _ _ => by
    refine ending.cooldown ?_
    subst isAnswer
    have finite := cooldownOf_finite read (by simpa [Ends, throttled] using ends)
    cases cooldown <;> simp_all [PyFloat.isFinite, PyFloat.add]

section
variable (parseDate : ParseDate) (s : Settings) (opened : ℚ) (es : List Event)

theorem run_known : Known ((client parseDate s opened).final es) (timeline (client parseDate s opened) es) := by
  induction es using List.reverseRecOn with
  | nil => exact ⟨nofun, nofun⟩
  | append_singleton es e ih =>
    rw [Machine.final_snoc, timeline_snoc]
    exact known_step ih (move_step parseDate s ih.number e)

theorem run_even (paced : 0 < s.requestsPerSecond) :
    Even s ((client parseDate s opened).final es) (timeline (client parseDate s opened) es) := by
  induction es using List.reverseRecOn with
  | nil => exact ⟨s.min_le paced, nofun, List.Pairwise.nil, nofun⟩
  | append_singleton es e ih =>
    rw [Machine.final_snoc, timeline_snoc]
    exact even_step paced ih (move_step parseDate s (run_known parseDate s opened es).number e)

theorem run_calm (awaited : ∀ r ∈ (client parseDate s opened).trace es, Awaited parseDate s r.before r.event) :
    Calm ((client parseDate s opened).final es) (timeline (client parseDate s opened) es) := by
  induction es using List.reverseRecOn with
  | nil => exact ⟨List.Pairwise.nil, nofun⟩
  | append_singleton es e ih =>
    have known := run_known parseDate s opened es
    rw [Machine.trace_snoc] at awaited
    rw [Machine.final_snoc, timeline_snoc]
    refine calm_step ?_ known (ih fun r member => awaited r (List.mem_append_left _ member)) (move_step parseDate s known.number e)
    exact awaited _ (List.mem_append_right _ (List.mem_singleton_self _))

theorem run_ending (ends : ∀ e ∈ es, Ends e) : Ending (timeline (client parseDate s opened) es) := by
  induction es using List.reverseRecOn with
  | nil => exact nofun
  | append_singleton es e ih =>
    rw [timeline_snoc]
    refine ending_step (ends e (by simp)) (ih fun e member => ends e (List.mem_append_left _ member))
      (move_step parseDate s (run_known parseDate s opened es).number e)

end

end Creeper.RdapPacing
