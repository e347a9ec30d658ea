import Creeper.AuthorityMoves

/-!
# Signed requests

`HMACRequestAuthenticator.verify` over the nonces of the authority store, beside
`gc_transient_state`. A request inside the clock skew is accepted once as long as
its nonce outlives the window in which its timestamp is accepted.
-/

namespace Creeper.RequestAuth
open Creeper.Runs Creeper.Tables Creeper.PyNumbers Creeper.Hashing Creeper.FabricModels Creeper.AuthorityStore

/-! ## The authenticator -/

/-- `str | bytes`. -/
inductive Secret
  | text (value : String)
  | bytes (value : List UInt8)

/-- `str.upper` and `str.lower`, with the case tables of the interpreter. -/
structure Casing where
  upper : String → String
  lower : String → String

structure SignedRequest where
  workerId : String
  workerInstanceId : String
  method : String
  path : String
  body : List UInt8
  timestamp : String
  nonce : String
  signature : String
  deriving DecidableEq

/-- `body_digest`. -/
def bodyDigest (body : List UInt8) : String := sha256Hex body

/-- `canonical_request`. -/
def canonicalRequest (casing : Casing) (method path : String) (body : List UInt8)
    (workerInstanceId timestamp nonce : String) : List UInt8 :=
  utf8 ("\n".intercalate [casing.upper method, path, bodyDigest body, workerInstanceId, timestamp, nonce])

/-- `sign_request`. -/
def signRequest (casing : Casing) (secret : Secret) (method path : String) (body : List UInt8)
    (workerInstanceId timestamp nonce : String) : String :=
  let key := match secret with
    | .text value => utf8 value
    | .bytes value => value
  hmacHex key (canonicalRequest casing method path body workerInstanceId timestamp nonce)

/-- An authenticator, whose nonces are kept for both sides of the clock skew. -/
structure HMACRequestAuthenticator where
  credentials : String → Option Secret
  maxClockSkewSeconds : PyFloat
  nonceRetentionSeconds : PyFloat
  positive : nonceRetentionSeconds.le (.fin 0) = false
  covers : nonceRetentionSeconds.lt (maxClockSkewSeconds.add maxClockSkewSeconds) = false

theorem max_covers (a b : PyFloat) : (a.max b).lt b = false := by
  unfold PyFloat.max
  by_cases less : a.lt b = true
  · rw [if_pos less]
    cases b <;> simp [PyFloat.lt]
  · rw [if_neg less]
    exact Bool.eq_false_iff.mpr less

theorem max_positive {a : PyFloat} (positive : a.le (.fin 0) = false) (b : PyFloat) : (a.max b).le (.fin 0) = false := by
  unfold PyFloat.max
  split
  · rename_i less
    cases a <;> cases b <;> simp_all [PyFloat.lt, PyFloat.le]
    linarith
  · exact positive

/-- `__init__`. -/
def HMACRequestAuthenticator.make (credentials : String → Option Secret)
    (maxClockSkewSeconds nonceRetentionSeconds : PyFloat) : Except PyError HMACRequestAuthenticator :=
  if invalid : (maxClockSkewSeconds.le (.fin 0) || nonceRetentionSeconds.le (.fin 0)) = true then
    .error (.valueError "authentication time windows must be positive")
  else .ok {
    credentials
    maxClockSkewSeconds
    nonceRetentionSeconds := nonceRetentionSeconds.max (maxClockSkewSeconds.add maxClockSkewSeconds)
    positive := max_positive (by simp_all) _
    covers := max_covers _ _ }

/-- What `verify` raises. -/
inductive VerifyError
  | authentication (message : String)
  | typeError
  | store (error : PyError)
  deriving DecidableEq

/-- `verify`, with a reading of its own clock and one of the clock of the store. -/
def verify (casing : Casing) (auth : HMACRequestAuthenticator) (s : Store) (now storeNow : ℚ) (r : SignedRequest) :
    Except VerifyError (String × String) × Store :=
  match auth.credentials r.workerId with
  | none => (.error (.authentication "unknown worker credential"), s)
  | some secret =>
    if [r.workerInstanceId, r.nonce, r.timestamp, r.signature].any blank then
      (.error (.authentication "missing signed request metadata"), s)
    else
      match floatOf r.timestamp with
      | none => (.error (.authentication "invalid request timestamp"), s)
      | some requestTime =>
        -- A comparison with NaN is false, so that such a time is never expired.
        if auth.maxClockSkewSeconds.lt ((PyFloat.fin now).sub requestTime).abs then
          (.error (.authentication "expired request timestamp"), s)
        else
          let expected := signRequest casing secret r.method r.path r.body r.workerInstanceId r.timestamp r.nonce
          -- `compare_digest` takes ASCII texts only.
          if !(casing.lower r.signature).toList.all (·.toNat < 128) then (.error .typeError, s)
          else if expected ≠ casing.lower r.signature then (.error (.authentication "invalid request signature"), s)
          else
            match consumeRequestNonce s storeNow r.workerId r.nonce auth.nonceRetentionSeconds with
            | (.error e, after) => (.error (.store e), after)
            | (.ok false, after) => (.error (.authentication "request nonce replay"), after)
            | (.ok true, after) => (.ok (r.workerId, r.workerInstanceId), after)

/-! ## Runs -/

inductive AuthOp
  | verify (request : SignedRequest) (storeNow : ℚ)
  | gcTransientState (retentionSeconds : PyFloat) (limit : Int)

/-- A call, at the first reading of the clock that it takes. -/
structure AuthCall where
  now : ℚ
  op : AuthOp

def AuthCall.readings (c : AuthCall) : List ℚ :=
  match c.op with
  | .verify _ storeNow => [c.now, storeNow]
  | .gcTransientState .. => [c.now]

/-- What a call returns or raises. -/
inductive AuthReply
  | verified (answer : Except VerifyError (String × String))
  | collected (answer : Except PyError GcReport)

def service (casing : Casing) (auth : HMACRequestAuthenticator) (tables : Store) : Machine Store AuthCall AuthReply where
  initial := tables
  step s c := match c.op with
    | .verify r storeNow => ((.verified (verify casing auth s c.now storeNow r).1), (verify casing auth s c.now storeNow r).2)
    | .gcTransientState retention limit =>
      ((.collected (gcTransientState s c.now retention limit).1), (gcTransientState s c.now retention limit).2)

def accepted (step : Step Store AuthCall AuthReply) : Option SignedRequest :=
  match step.event.op, step.outcome with
  | .verify r _, .verified (.ok _) => some r
  | _, _ => none

/-- The clock never goes back, within a call and from one call to the next. -/
def Ordered (calls : List AuthCall) : Prop := (calls.flatMap AuthCall.readings).Pairwise (· ≤ ·)

/-- Nonces are collected no earlier than the authenticator forgets them. -/
def RetainedLong (auth : HMACRequestAuthenticator) (c : AuthCall) : Prop :=
  match c.op with
  | .verify .. => True
  | .gcTransientState retention _ => auth.nonceRetentionSeconds.le retention

/-- Nonces that are forgotten outlive the window of their request: the skew and the
    timestamp are numbers, the reading of the store follows soon enough, and a
    collection keeps more than both sides of the skew. -/
def Outlives (auth : HMACRequestAuthenticator) (c : AuthCall) : Prop :=
  auth.nonceRetentionSeconds.isFinite →
    let window := auth.maxClockSkewSeconds.add auth.maxClockSkewSeconds
    match c.op with
    | .verify r storeNow =>
      auth.maxClockSkewSeconds ≠ .nan ∧ floatOf r.timestamp ≠ some .nan ∧
        auth.nonceRetentionSeconds.lt ((PyFloat.fin (storeNow - c.now)).add window) = false
    | .gcTransientState retention _ => window.lt retention

/-! ## The nonces -/

/-- The nonce under a key was seen no earlier than `since`. -/
def Seen (key : String × String) (since : ℚ) (s : Store) : Prop :=
  ∃ row, s.requestNonces.get? key = some row ∧ since ≤ row.seenAt

/-- A call forgets no nonce that was seen at `since` or later. -/
def Spares (auth : HMACRequestAuthenticator) (since : ℚ) (c : AuthCall) : Prop :=
  match c.op with
  | .verify _ storeNow => ∀ retention, auth.nonceRetentionSeconds = .fin retention → storeNow - retention ≤ since
  | .gcTransientState retention _ => ∀ kept, retention = .fin kept → c.now - kept < since

theorem before_cutoff {retention : PyFloat} {now since seenAt : ℚ}
    (spares : ∀ kept, retention = .fin kept → now - kept ≤ since) (recent : since ≤ seenAt)
    (positive : retention.le (.fin 0) = false) :
    PyFloat.lt (.fin seenAt) ((PyFloat.fin now).add retention.neg) = false := by
  cases retention with
  | fin kept =>
    have bound := spares kept rfl
    simp only [PyFloat.neg, PyFloat.add_fin, PyFloat.lt_fin, decide_eq_false_iff_not, not_lt]
    linarith
  | negInf => simp [PyFloat.le] at positive
  | posInf | nan => simp [PyFloat.neg, PyFloat.add, PyFloat.lt]

section
variable {s : Store} {now : ℚ} {w n : String} {retention : PyFloat} {since : ℚ}

theorem seen_consume {key : String × String} (positive : retention.le (.fin 0) = false)
    (spares : ∀ kept, retention = .fin kept → now - kept ≤ since) (seen : Seen key since s) :
    Seen key since (consumeRequestNonce s now w n retention).2 := by
  obtain ⟨row, found, recent⟩ := seen
  have kept : (s.requestNonces.delete
      (fun r => PyFloat.lt (.fin r.seenAt) ((PyFloat.fin now).add retention.neg))).get? key = some row := by
    rw [Table.get?_delete, found]
    simp [before_cutoff spares recent positive]
  refine ⟨row, ?_, recent⟩
  unfold consumeRequestNonce
  rw [positive]
  simp only [Bool.false_eq_true, if_false]
  split
  · exact kept
  · rename_i unseen
    rw [Option.not_isSome_iff_eq_none] at unseen
    rw [Table.get?_insert unseen]
    split
    · rename_i same
      rw [same] at unseen
      rw [unseen] at kept
      cases kept
    · exact kept

theorem seen_refuses (positive : retention.le (.fin 0) = false)
    (spares : ∀ kept, retention = .fin kept → now - kept ≤ since) (seen : Seen (w, n) since s) :
    (consumeRequestNonce s now w n retention).1 = .ok false := by
  obtain ⟨row, found, recent⟩ := seen
  have kept : (s.requestNonces.delete
      (fun r => PyFloat.lt (.fin r.seenAt) ((PyFloat.fin now).add retention.neg))).get? (w, n) = some row := by
    rw [Table.get?_delete, found]
    simp [before_cutoff spares recent positive]
  unfold consumeRequestNonce
  rw [positive]
  simp only [Bool.false_eq_true, if_false]
  rw [kept]
  rfl

theorem consume_seen (consumed : (consumeRequestNonce s now w n retention).1 = .ok true) :
    Seen (w, n) now (consumeRequestNonce s now w n retention).2 := by
  unfold consumeRequestNonce at consumed ⊢
  split at consumed
  · cases consumed
  rename_i positive
  rw [if_neg positive]
  dsimp only at consumed ⊢
  split at consumed
  · cases consumed
  rename_i unseen
  rw [if_neg unseen]
  rw [Option.not_isSome_iff_eq_none] at unseen
  refine ⟨⟨w, n, now⟩, ?_, le_refl _⟩
  rw [Table.get?_insert unseen]
  simp

/-- A collection keeps the recent nonces. -/
theorem seen_gc {key : String × String} {limit : Int} (spares : ∀ kept, retention = .fin kept → now - kept < since)
    (seen : Seen key since s) : Seen key since (gcTransientState s now retention limit).2 := by
  obtain ⟨row, found, recent⟩ := seen
  unfold gcTransientState
  split
  · rename_i kept
    split
    · exact ⟨row, found, recent⟩
    split
    · exact ⟨row, found, recent⟩
    refine ⟨row, ?_, recent⟩
    rw [Table.get?_delete, found, Option.filter_some, if_pos]
    rw [Bool.not_eq_true', List.any_eq_false]
    intro other selected same
    obtain ⟨member, old⟩ := List.mem_filter.mp (mem_selectOrdered selected)
    simp only [Bool.and_eq_true, decide_eq_true_eq] at same
    have key' := Table.get?_key found
    have isRow := Table.row_unique member (Table.mem_of_get? found) (by simp [same.1, same.2])
    subst isRow
    have bound := spares kept rfl
    simp only [decide_eq_true_eq] at old
    linarith
  · exact ⟨row, found, recent⟩

end

/-! ## Accepted requests -/

section
variable {casing : Casing} {auth : HMACRequestAuthenticator} {s : Store}

/-- What an accepted request has passed. -/
theorem verify_ok {now storeNow : ℚ} {r : SignedRequest} {answer : String × String}
    (passed : (verify casing auth s now storeNow r).1 = .ok answer) :
    (∃ requestTime, floatOf r.timestamp = some requestTime ∧
      auth.maxClockSkewSeconds.lt ((PyFloat.fin now).sub requestTime).abs = false) ∧
    (consumeRequestNonce s storeNow r.workerId r.nonce auth.nonceRetentionSeconds).1 = .ok true ∧
    (verify casing auth s now storeNow r).2 =
      (consumeRequestNonce s storeNow r.workerId r.nonce auth.nonceRetentionSeconds).2 := by
  unfold verify at passed ⊢
  split at passed
  · cases passed
  split at passed
  · cases passed
  rename_i present
  rw [if_neg present]
  split at passed
  · cases passed
  rename_i requestTime isTime
  split at passed
  · cases passed
  rename_i fresh
  rw [isTime]
  dsimp only at passed ⊢
  rw [if_neg fresh]
  split at passed
  · cases passed
  rename_i ascii
  rw [if_neg ascii]
  split at passed
  · cases passed
  rename_i signed
  rw [if_neg signed]
  refine ⟨⟨requestTime, rfl, Bool.eq_false_iff.mpr fresh⟩, ?_⟩
  cases consumed : consumeRequestNonce s storeNow r.workerId r.nonce auth.nonceRetentionSeconds with
  | mk answer after =>
    rw [consumed] at passed
    cases answer with
    | error e => cases passed
    | ok flag =>
      cases flag with
      | false => cases passed
      | true => exact ⟨rfl, rfl⟩

/-- A request leaves the nonces as they are, or as consuming its nonce leaves them. -/
theorem verify_after (casing : Casing) (auth : HMACRequestAuthenticator) (s : Store) (now storeNow : ℚ) (r : SignedRequest) :
    (verify casing auth s now storeNow r).2 = s ∨ (verify casing auth s now storeNow r).2 =
      (consumeRequestNonce s storeNow r.workerId r.nonce auth.nonceRetentionSeconds).2 := by
  unfold verify
  split
  · exact .inl rfl
  split
  · exact .inl rfl
  split
  · exact .inl rfl
  split
  · exact .inl rfl
  dsimp only
  split
  · exact .inl rfl
  split
  · exact .inl rfl
  · right
    split <;> rename_i answer <;> rw [answer]

theorem seen_step {since : ℚ} {key : String × String} {tables : Store} {c : AuthCall} (spares : Spares auth since c)
    (seen : Seen key since s) : Seen key since ((service casing auth tables).step s c).2 := by
  obtain ⟨now, op⟩ := c
  cases op with
  | verify r storeNow =>
    rcases verify_after casing auth s now storeNow r with same | consumed
    · simpa only [service, same] using seen
    · simp only [service, consumed]
      exact seen_consume auth.positive spares seen
  | gcTransientState retention limit => exact seen_gc spares seen

theorem seen_run {since : ℚ} {key : String × String} {tables : Store} {calls : List AuthCall}
    (spare : ∀ c ∈ calls, Spares auth since c) (seen : Seen key since s) :
    Seen key since ((service casing auth tables).finalFrom s calls) := by
  induction calls generalizing s with
  | nil => exact seen
  | cons c rest ih =>
    exact ih (fun c' member => spare c' (List.mem_cons_of_mem _ member)) (seen_step (spare c List.mem_cons_self) seen)

theorem accepted_some {tables : Store} {c : AuthCall} {r : SignedRequest}
    (found : accepted ((service casing auth tables).take s c) = some r) :
    ∃ storeNow answer, c.op = .verify r storeNow ∧ (verify casing auth s c.now storeNow r).1 = .ok answer := by
  obtain ⟨now, op⟩ := c
  cases op with
  | verify request storeNow =>
    cases result : (verify casing auth s now storeNow request).1 with
    | error e => simp [accepted, service, result] at found
    | ok answer =>
      simp only [accepted, service, Machine.take_event, Machine.take_outcome, result, Option.some.injEq] at found
      subst found
      exact ⟨storeNow, answer, rfl, result⟩
  | gcTransientState retention limit => simp [accepted, service] at found

end

/-! ## The two windows -/

theorem request_window {auth : HMACRequestAuthenticator} {retention now : ℚ} {requestTime : PyFloat}
    (finite : auth.nonceRetentionSeconds = .fin retention) (number : auth.maxClockSkewSeconds ≠ .nan)
    (isTime : requestTime ≠ .nan)
    (fresh : auth.maxClockSkewSeconds.lt ((PyFloat.fin now).sub requestTime).abs = false) :
    ∃ skew time : ℚ, auth.maxClockSkewSeconds = .fin skew ∧ requestTime = .fin time ∧ |now - time| ≤ skew ∧
      skew + skew ≤ retention := by
  have covers := auth.covers
  rw [finite] at covers
  cases bound : auth.maxClockSkewSeconds with
  | nan => exact absurd bound number
  | posInf => simp [bound, PyFloat.add, PyFloat.lt] at covers
  | negInf =>
    rw [bound] at fresh
    cases requestTime <;> simp_all [PyFloat.sub, PyFloat.neg, PyFloat.add, PyFloat.abs, PyFloat.lt]
  | fin skew =>
    rw [bound] at fresh covers
    have within : skew + skew ≤ retention := by simpa using covers
    cases requestTime with
    | nan => exact absurd rfl isTime
    | posInf | negInf => simp [PyFloat.sub, PyFloat.neg, PyFloat.add, PyFloat.abs, PyFloat.lt] at fresh
    | fin time =>
      refine ⟨skew, time, rfl, rfl, ?_, within⟩
      simpa [PyFloat.sub, PyFloat.neg, PyFloat.abs, sub_eq_add_neg] using fresh

theorem spares_until {auth : HMACRequestAuthenticator} {retention skew time : ℚ} {c : AuthCall}
    (finite : auth.nonceRetentionSeconds = .fin retention) (bound : auth.maxClockSkewSeconds = .fin skew)
    (within : skew + skew ≤ retention) (outlives : Outlives auth c) (early : ∀ t ∈ c.readings, t ≤ time + skew) :
    Spares auth (time - skew) c := by
  obtain ⟨now, op⟩ := c
  have holds := outlives (by rw [finite]; rfl)
  cases op with
  | verify r storeNow =>
    intro kept isKept
    rw [finite] at isKept
    cases isKept
    have := early storeNow (by simp [AuthCall.readings])
    linarith
  | gcTransientState kept limit =>
    rintro kept rfl
    have window : skew + skew < kept := by simpa [bound] using holds
    have := early now (by simp [AuthCall.readings])
    simp only
    linarith

/-- Without a finite retention nothing is forgotten. -/
theorem spares_always {auth : HMACRequestAuthenticator} (endless : ∀ retention, auth.nonceRetentionSeconds ≠ .fin retention)
    {c : AuthCall} (retained : RetainedLong auth c) (since : ℚ) : Spares auth since c := by
  obtain ⟨now, op⟩ := c
  cases op with
  | verify r storeNow =>
    intro kept isKept
    exact absurd isKept (endless kept)
  | gcTransientState kept limit =>
    rintro kept rfl
    have positive := auth.positive
    cases bound : auth.nonceRetentionSeconds with
    | fin retention => exact absurd bound (endless retention)
    | negInf => simp [bound, PyFloat.le] at positive
    | posInf | nan => simp [RetainedLong, bound, PyFloat.le] at retained

theorem ordered_split {before middle after : List AuthCall} {e e' : AuthCall}
    (ordered : Ordered (before ++ e :: middle ++ e' :: after)) {c : AuthCall} (member : c ∈ e :: middle)
    {reading : ℚ} (read : reading ∈ c.readings) : reading ≤ e'.now := by
  unfold Ordered at ordered
  rw [List.flatMap_append] at ordered
  refine (List.pairwise_append.mp ordered).2.2 reading ?_ e'.now ?_
  · exact List.mem_flatMap.mpr ⟨c, List.mem_append_right _ member, read⟩
  · refine List.mem_flatMap.mpr ⟨e', List.mem_cons_self, ?_⟩
    unfold AuthCall.readings
    split <;> simp

theorem ordered_within {before : List AuthCall} (after : List AuthCall) {e : AuthCall} (ordered : Ordered (before ++ e :: after))
    {r : SignedRequest} {storeNow : ℚ} (op : e.op = .verify r storeNow) : e.now ≤ storeNow := by
  unfold Ordered at ordered
  rw [List.flatMap_append, List.flatMap_cons] at ordered
  have inside := (List.pairwise_append.mp (List.pairwise_append.mp ordered).2.1).1
  simpa [AuthCall.readings, op] using inside

/-- No request is accepted twice, in any run on a clock that never goes back whose
    nonces outlive the windows of their requests. -/
theorem accepted_once (casing : Casing) (auth : HMACRequestAuthenticator) (tables : Store) (calls : List AuthCall)
    (ordered : Ordered calls) (retained : ∀ c ∈ calls, RetainedLong auth c) (outlive : ∀ c ∈ calls, Outlives auth c) :
    (((service casing auth tables).trace calls).filterMap accepted).Nodup := by
  refine Machine.nodup_records _ accepted calls fun before e middle e' after split r first second => ?_
  subst split
  obtain ⟨storeNow, answer, op, passed⟩ := accepted_some first
  obtain ⟨storeNow', answer', op', passed'⟩ := accepted_some second
  obtain ⟨⟨requestTime, isTime, fresh⟩, consumed, after₁⟩ := verify_ok passed
  obtain ⟨⟨requestTime', isTime', fresh'⟩, consumed', -⟩ := verify_ok passed'
  rw [isTime] at isTime'
  cases isTime'
  have le := ordered_within (middle ++ e' :: after) (by simpa using ordered) op
  have outlives := outlive e (by simp)
  -- The calls from the first acceptance to the second one spare its nonce.
  obtain ⟨since, recent, spare⟩ : ∃ since, since ≤ storeNow ∧ ∀ c ∈ middle ++ [e'], Spares auth since c := by
    by_cases endless : ∀ retention, auth.nonceRetentionSeconds ≠ .fin retention
    · refine ⟨storeNow, le_refl _, fun c member => spares_always endless (retained c ?_) _⟩
      rcases List.mem_append.mp member with inside | last
      · simp [inside]
      · simp [List.mem_singleton.mp last]
    · push Not at endless
      obtain ⟨retention, finite⟩ := endless
      have holds := outlives (by rw [finite]; rfl)
      simp only [op] at holds
      have isNumber : requestTime ≠ .nan := by
        rintro rfl
        exact holds.2.1 isTime
      obtain ⟨skew, time, bound, rfl, window, within⟩ := request_window finite holds.1 isNumber fresh
      obtain ⟨skew', time', bound', isTime', window', -⟩ := request_window finite holds.1 isNumber fresh'
      rw [bound] at bound'
      cases bound'
      cases isTime'
      rw [abs_le] at window window'
      refine ⟨time - skew, by linarith, fun c member => ?_⟩
      rcases List.mem_append.mp member with inside | last
      · refine spares_until finite bound within (outlive c (by simp [inside])) fun reading read => ?_
        have := ordered_split ordered (List.mem_cons_of_mem _ inside) read
        linarith
      · rw [List.mem_singleton.mp last]
        have soon := outlive e' (by simp) (by rw [finite]; rfl)
        simp only [op', bound, finite] at soon
        obtain ⟨-, -, soon⟩ := soon
        rw [Spares, op']
        intro kept isKept
        rw [finite] at isKept
        cases isKept
        simp only [PyFloat.add_fin, PyFloat.lt_fin, decide_eq_false_iff_not, not_lt] at soon
        linarith
  have seen : Seen (r.workerId, r.nonce) since ((service casing auth tables).final (before ++ e :: middle)) := by
    rw [Machine.final_append, Machine.finalFrom_cons]
    refine seen_run (fun c member => spare c (List.mem_append_left _ member)) ?_
    have stepped : ((service casing auth tables).step ((service casing auth tables).final before) e).2 =
        (verify casing auth ((service casing auth tables).final before) e.now storeNow r).2 := by
      simp [service, op]
    rw [stepped, after₁]
    obtain ⟨row, found, later⟩ := consume_seen consumed
    exact ⟨row, found, recent.trans later⟩
  have spares := spare e' (by simp)
  rw [Spares, op'] at spares
  rw [seen_refuses auth.positive spares seen] at consumed'
  cases consumed'

/-- The default windows, and one worker. -/
def defaultAuth : HMACRequestAuthenticator where
  credentials w := if w = "w" then some (.text "k") else none
  maxClockSkewSeconds := .fin 300
  nonceRetentionSeconds := .fin 900
  positive := by decide +kernel
  covers := by decide +kernel

def asciiCasing : Casing := ⟨String.toUpper, String.toLower⟩

def signedAt (timestamp : String) : SignedRequest where
  workerId := "w"
  workerInstanceId := "i"
  method := "post"
  path := "/p"
  body := []
  timestamp := timestamp
  nonce := "n"
  signature := signRequest asciiCasing (.text "k") "post" "/p" [] "i" timestamp "n"

theorem replay_refused :
    ((service asciiCasing defaultAuth .empty).trace [⟨0, .verify (signedAt "100") 0⟩, ⟨300, .gcTransientState (.fin 900) 5⟩,
      ⟨400, .verify (signedAt "100") 401⟩]).filterMap accepted = [signedAt "100"] ∧
    (((service asciiCasing defaultAuth .empty).trace [⟨0, .verify (signedAt "100") 0⟩,
      ⟨300, .gcTransientState (.fin 900) 5⟩, ⟨400, .verify (signedAt "100") 401⟩]).filterMap accepted).Nodup :=
  ⟨by decide +kernel, accepted_once asciiCasing defaultAuth .empty _ (by unfold Ordered; decide +kernel)
    (by simp [RetainedLong, defaultAuth]) (by simp [Outlives, defaultAuth]; decide +kernel)⟩

/-- A time that is not a number is never expired, and its nonce is forgotten. -/
theorem nan_accepted_twice : ¬∀ casing auth tables calls, Ordered calls → (∀ c ∈ calls, RetainedLong auth c) →
    (((service casing auth tables).trace calls).filterMap accepted).Nodup := by
  intro once
  have twice := once asciiCasing defaultAuth .empty
    [⟨0, .verify (signedAt "nan") 0⟩, ⟨1000, .verify (signedAt "nan") 1000⟩]
    (by unfold Ordered; decide +kernel) (by simp [RetainedLong])
  revert twice
  decide +kernel

end Creeper.RequestAuth
