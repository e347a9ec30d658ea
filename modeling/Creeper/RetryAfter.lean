import Creeper.EvidenceSemantics
import Creeper.RequestTimelines

/-!
# `Retry-After`

How long a throttled provider asks its clients to wait: the three readers of the
header, in the asynchronous CDX client, the RDAP client and the gate before a
provider that workers share.
-/

namespace Creeper.RetryAfter
open Creeper.PyText Creeper.PyNumbers Creeper.EvidenceSemantics Creeper.RequestTimelines

/-- What `parsedate_to_datetime` returns: seconds since 1970, a date without a
    zone taken in UTC, and whether there is a zone. -/
structure HttpDate where
  seconds : ℚ
  zoned : Bool

/-- `parsedate_to_datetime`; nothing when it raises. -/
abbrev ParseDate := String → Option HttpDate

/-- `datetime` has this instant in UTC: its years are 1 to 9999. -/
def representable (seconds : ℚ) : Bool := -62135596800 ≤ seconds && seconds < 253402300800

/-- `str.isdigit`. -/
def isDigitText (text : String) : Bool := !text.isEmpty && text.toList.all fun c => isDigitAt (.char c)

/-- `max(0.0, seconds)`. -/
def atLeastZero (seconds : PyFloat) : PyFloat := PyFloat.max (.fin 0) seconds

variable (parseDate : ParseDate)

/-- `_retry_after_seconds` of the CDX client and of the gate; nothing when
    `astimezone` overflows. -/
def retryAfterSeconds (header : Option String) (utcNow : ℚ) : Option (Option PyFloat) :=
  match header.map strip with
  | none | some "" => some none
  | some value =>
    match floatOf value with
    | some seconds => some (some (atLeastZero seconds))
    | none =>
      match parseDate value with
      | none => some none
      | some target =>
        if target.zoned && !representable target.seconds then none
        else some (some (atLeastZero (.fin (target.seconds - utcNow))))

/-- `_retry_after_seconds` of the RDAP client; nothing when `float` refuses the digits. -/
def rdapRetryAfterSeconds (header : Option String) (utcNow : ℚ) : Option (Option PyFloat) :=
  match header with
  | none | some "" => some none
  | some value =>
    let text := strip value
    if isDigitText text then (floatOf text).map fun seconds => some (atLeastZero seconds)
    else
      match parseDate text with
      | some target => some (if target.zoned then some (atLeastZero (.fin (target.seconds - utcNow))) else none)
      | none => some none

def throttles (status : ℤ) : Bool := status == 429 || status == 503

/-- The header asks for a wait without end: infinity, or more than any double. -/
def Endless (header : Option String) : Prop := ∃ value, header.map strip = some value ∧ floatOf value = some .posInf

instance (header : Option String) : Decidable (Endless header) :=
  decidable_of_iff ((header.map strip).any fun value => floatOf value = some .posInf) <| by
    simp [Endless, Option.any_eq_true]

/-- The endless waits that the RDAP client reads: only digits. -/
def EndlessDigits (header : Option String) : Prop :=
  ∃ value, header.map strip = some value ∧ isDigitText value = true ∧ floatOf value = some .posInf

instance (header : Option String) : Decidable (EndlessDigits header) :=
  decidable_of_iff ((header.map strip).any fun value => isDigitText value && decide (floatOf value = some .posInf)) <| by
    simp [EndlessDigits, Option.any_eq_true]

/-! ## Waits that end -/

theorem atLeastZero_fin (q : ℚ) : atLeastZero (.fin q) = .fin (if 0 < q then q else 0) := by
  unfold atLeastZero PyFloat.max
  split <;> rename_i positive <;> simp only [PyFloat.lt_fin, decide_eq_true_eq] at positive
  · rw [if_pos positive]
  · rw [if_neg positive]

theorem isFinite_atLeastZero {seconds : PyFloat} : (atLeastZero seconds).isFinite = true ↔ seconds ≠ .posInf := by
  cases seconds with
  | fin q => simp [atLeastZero_fin, PyFloat.isFinite]
  | posInf => simp [atLeastZero, PyFloat.max, PyFloat.lt, PyFloat.isFinite]
  | negInf | nan => simp [atLeastZero, PyFloat.max, PyFloat.lt, PyFloat.isFinite]

theorem atLeastZero_ne_nan (seconds : PyFloat) : atLeastZero seconds ≠ .nan := by
  cases seconds with
  | fin q => simp [atLeastZero_fin]
  | posInf | negInf | nan => simp [atLeastZero, PyFloat.max, PyFloat.lt]

theorem retryAfterSeconds_ne_nan {header : Option String} {utcNow : ℚ} {seconds : PyFloat}
    (read : retryAfterSeconds parseDate header utcNow = some (some seconds)) : seconds ≠ .nan := by
  unfold retryAfterSeconds at read
  split at read
  · cases read
  · cases read
  · split at read
    · cases read
      exact atLeastZero_ne_nan _
    · split at read
      · cases read
      · split at read
        · cases read
        · cases read
          exact atLeastZero_ne_nan _

/-- The wait that is read ends unless the header asks for one without end. -/
theorem retryAfterSeconds_finite {header : Option String} {utcNow : ℚ} {seconds : PyFloat}
    (read : retryAfterSeconds parseDate header utcNow = some (some seconds)) : seconds.isFinite = true ↔ ¬ Endless header := by
  unfold retryAfterSeconds at read
  split at read
  · cases read
  · cases read
  · rename_i value _ given
    have endless : Endless header ↔ floatOf value = some .posInf := by simp [Endless, given]
    split at read
    · rename_i number isFloat
      cases read
      rw [isFinite_atLeastZero, endless, isFloat, Option.some_inj]
    · rename_i noFloat
      rw [endless, noFloat]
      split at read
      · cases read
      · split at read
        · cases read
        · cases read
          rw [isFinite_atLeastZero]
          simp

theorem retryAfterSeconds_nonneg {header : Option String} {utcNow : ℚ} {seconds : PyFloat}
    (read : retryAfterSeconds parseDate header utcNow = some (some seconds)) : (PyFloat.fin 0).le seconds := by
  have waits (x : PyFloat) : (PyFloat.fin 0).le (atLeastZero x) := le_max_left nofun
  unfold retryAfterSeconds at read
  split at read
  · cases read
  · cases read
  · split at read
    · cases read
      exact waits _
    · split at read
      · cases read
      · split at read
        · cases read
        · cases read
          exact waits _

theorem rdapRetryAfterSeconds_ne_nan {header : Option String} {utcNow : ℚ} {seconds : PyFloat}
    (read : rdapRetryAfterSeconds parseDate header utcNow = some (some seconds)) : seconds ≠ .nan := by
  unfold rdapRetryAfterSeconds at read
  split at read
  · cases read
  · cases read
  · dsimp only at read
    split at read
    · obtain ⟨number, -, same⟩ := Option.map_eq_some_iff.mp read
      cases same
      exact atLeastZero_ne_nan _
    · split at read
      · split at read
        · cases read
          exact atLeastZero_ne_nan _
        · cases read
      · cases read

theorem rdapRetryAfterSeconds_finite {header : Option String} {utcNow : ℚ} {seconds : PyFloat}
    (read : rdapRetryAfterSeconds parseDate header utcNow = some (some seconds)) :
    seconds.isFinite = true ↔ ¬ EndlessDigits header := by
  unfold rdapRetryAfterSeconds at read
  split at read
  · cases read
  · cases read
  · rename_i value _
    have endless : EndlessDigits (some value) ↔ isDigitText (strip value) = true ∧ floatOf (strip value) = some .posInf := by
      simp [EndlessDigits]
    dsimp only at read
    split at read
    · rename_i digits
      obtain ⟨number, isFloat, same⟩ := Option.map_eq_some_iff.mp read
      cases same
      rw [isFinite_atLeastZero, endless, isFloat, Option.some_inj]
      simp [digits]
    · rename_i digits
      split at read
      · split at read
        · cases read
          rw [isFinite_atLeastZero, endless]
          simp [digits]
        · cases read
      · cases read

/-! ## The gate -/

/-- The cooldown that `DistributedProviderGate.report` sends to the Authority. -/
def gateCooldown (throttleFloorSeconds : ℚ) (status : Option ℤ) (header : Option String) (utcNow : ℚ) : Option PyFloat :=
  if status.any throttles then
    (retryAfterSeconds parseDate header utcNow).map fun retryAfter =>
      PyFloat.max (.fin throttleFloorSeconds) (retryAfter.getD (.fin 0))
  else some (.fin 0)

/-- The greater of a number and a wait that ends is a number. -/
theorem isFinite_of_max {q : ℚ} {seconds : PyFloat} (finite : seconds.isFinite = true) :
    (PyFloat.max (.fin q) seconds).isFinite = true := by
  unfold PyFloat.max
  split
  · exact finite
  · rfl

theorem isFinite_max {q : ℚ} {seconds : PyFloat} (wait : (PyFloat.fin 0).le seconds) :
    (PyFloat.max (.fin q) seconds).isFinite = seconds.isFinite := by
  cases seconds with
  | fin r =>
    unfold PyFloat.max
    split <;> rfl
  | posInf => simp [PyFloat.max, PyFloat.lt, PyFloat.isFinite]
  | negInf | nan => simp [PyFloat.le] at wait

/-- What the gate sends ends unless a response that throttles asks for a wait without end. -/
theorem gateCooldown_finite {floor : ℚ} {status : Option ℤ} {header : Option String} {utcNow : ℚ} {cooldown : PyFloat}
    (sent : gateCooldown parseDate floor status header utcNow = some cooldown) :
    cooldown.isFinite = true ↔ (status.any throttles = true → ¬ Endless header) := by
  unfold gateCooldown at sent
  split at sent
  · rename_i throttled
    obtain ⟨retryAfter, read, rfl⟩ := Option.map_eq_some_iff.mp sent
    simp only [throttled, forall_const]
    cases retryAfter with
    | none =>
      refine iff_of_true (isFinite_of_max rfl) fun endless => ?_
      obtain ⟨value, given, isFloat⟩ := endless
      have nonempty : value ≠ "" := by
        rintro rfl
        exact absurd isFloat (by decide +kernel)
      unfold retryAfterSeconds at read
      rw [given] at read
      split at read
      · rename_i missing
        exact nomatch missing
      · rename_i empty
        exact nonempty (Option.some_inj.mp empty)
      · rename_i given'
        cases given'
        rw [isFloat] at read
        cases read
    | some seconds =>
      rw [Option.getD_some, isFinite_max (retryAfterSeconds_nonneg parseDate read)]
      exact retryAfterSeconds_finite parseDate read
  · rename_i other
    cases sent
    exact iff_of_true rfl fun throttled => absurd throttled other

end Creeper.RetryAfter
