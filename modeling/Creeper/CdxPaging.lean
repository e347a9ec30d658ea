import Creeper.CdxReading

/-!
# Paging by resume keys

A page loop asks with the resume key that the last answer carried, and ends where an answer carries
none or the one that it was asked with. The durable loop of a platform year keeps no more than that
one key. Nothing ends a server that takes turns between two keys.
-/

namespace Creeper.CdxPaging
open Creeper.Runs Creeper.Tables Creeper.PyText Creeper.PyNumbers Creeper.CdxRows Creeper.CdxQueries Creeper.CdxReading
open Creeper.PlatformHarvests
open Creeper.EvidenceTasks (finiteReading)
open Creeper.FabricModels (blank)

/-! ## Servers -/

abbrev Response := Except Failure (List UInt8)

/-- A server answers a request by the resume keys of all requests so far, the last one first. -/
abbrev Server := List (Option String) → Response

/-! ## Page loops -/

/-- What follows on an answer. -/
inductive Next
  | done
  | raise (failure : Failure)
  | ask (resumeKey : String)

/-- One turn of a page loop: the page that it yields, and what follows. `whole` tells whether the last page is complete. -/
def turn (p : Python) (whole : List Row → Bool) (resumeKey : Option String) (response : Response) : Option Page × Next :=
  match response >>= parsePayload p with
  | .error failure => (none, .raise failure)
  | .ok (rows, nextKey) =>
    match nextKey.filter (· ≠ "") with
    | some key =>
      (some (rows, false),
        if some key = resumeKey then .raise (.transport "CDX returned a repeated resume key") else .ask key)
    | none => (some (rows, whole rows), .done)

/-- Where a page loop is. -/
inductive Loop
  | asking (requests : List (Option String)) (resumeKey : Option String) (yielded : List Page)
  | ended (requests : List (Option String)) (yielded : List Page) (raised : Option Failure)

/-- One request of a page loop. -/
def Loop.step (p : Python) (whole : List Row → Bool) (server : Server) : Loop → Loop
  | .asking requests resumeKey yielded =>
    match turn p whole resumeKey (server (resumeKey :: requests)) with
    | (page, .done) => .ended (resumeKey :: requests) (yielded ++ page.toList) none
    | (page, .raise failure) => .ended (resumeKey :: requests) (yielded ++ page.toList) (some failure)
    | (page, .ask key) => .asking (resumeKey :: requests) (some key) (yielded ++ page.toList)
  | l => l

def loop (p : Python) (whole : List Row → Bool) (server : Server) (requests : Nat) : Loop :=
  (Loop.step p whole server)^[requests] (.asking [] none [])

/-- `AsyncWaybackCDXClient.iter_range_pages`: a full page without a resume key is not complete. -/
def iterRangePages (p : Python) (limit : Nat) : Server → Nat → Loop := loop p fun rows => rows.length < limit

/-- `WaybackCDXClient.query_range`. -/
def queryRangePages (p : Python) : Server → Nat → Loop := loop p fun _ => true

def Loop.isEnded : Loop → Bool
  | .asking .. => false
  | .ended .. => true

/-- A loop stops after finitely many requests. -/
def Stops (run : Server → Nat → Loop) (server : Server) : Prop := ∃ requests, (run server requests).isEnded

/-! ## What a server offers -/

/-- The resume key that a response carries. -/
def carried (p : Python) (response : Response) : Option String :=
  match response >>= parsePayload p with
  | .ok (_, key) => key.filter (· ≠ "")
  | .error _ => none

/-- The resume key of a request and those of the requests in front of it, when every answer is followed. -/
def trail (p : Python) (server : Server) : Nat → Option String × List (Option String)
  | 0 => (none, [])
  | n + 1 => (carried p (server ((trail p server n).1 :: (trail p server n).2)), (trail p server n).1 :: (trail p server n).2)

def answer (p : Python) (server : Server) (n : Nat) : Response := server ((trail p server n).1 :: (trail p server n).2)

/-- An answer carries a resume key other than the one that it was asked with. -/
def Advances (p : Python) (server : Server) (n : Nat) : Prop :=
  ∃ key, carried p (answer p server n) = some key ∧ some key ≠ (trail p server n).1

section
variable (p : Python) (server : Server)

theorem trail_succ (n : Nat) :
    trail p server (n + 1) = (carried p (answer p server n), (trail p server n).1 :: (trail p server n).2) := rfl

/-- What follows on an answer, by the key that it carries. -/
theorem turn_asks (whole : List Row → Bool) (resumeKey : Option String) (response : Response) (key : String) :
    (turn p whole resumeKey response).2 = .ask key ↔ carried p response = some key ∧ some key ≠ resumeKey := by
  unfold turn carried
  cases read : response >>= parsePayload p with
  | error failure => simp
  | ok parsed =>
    obtain ⟨rows, nextKey⟩ := parsed
    dsimp only
    cases given : nextKey.filter (· ≠ "") with
    | none => simp
    | some k =>
      dsimp only
      by_cases again : some k = resumeKey
      · rw [if_pos again]
        simp only [reduceCtorEq, Option.some.injEq, false_iff, not_and, not_not]
        rintro rfl
        exact again
      · rw [if_neg again]
        simp only [Next.ask.injEq, Option.some.injEq]
        constructor
        · rintro rfl
          exact ⟨rfl, again⟩
        · exact And.left

theorem loop_follows (whole : List Row → Bool) (n : Nat) :
    ((loop p whole server n).isEnded = true ∧ ∃ m < n, ¬Advances p server m) ∨
      ((∀ m < n, Advances p server m) ∧
        ∃ yielded, loop p whole server n = .asking (trail p server n).2 (trail p server n).1 yielded) := by
  induction n with
  | zero => exact .inr ⟨fun m small => absurd small (Nat.not_lt_zero m), [], rfl⟩
  | succ n ih =>
    have next : loop p whole server (n + 1) = Loop.step p whole server (loop p whole server n) :=
      Function.iterate_succ_apply' _ _ _
    rcases ih with ⟨ended, m, small, stays⟩ | ⟨all, yielded, here⟩
    · left
      refine ⟨?_, m, Nat.lt_succ_of_lt small, stays⟩
      rw [next]
      cases here : loop p whole server n with
      | asking =>
        rw [here] at ended
        cases ended
      | ended => rfl
    · rw [next, here, Loop.step]
      have follows := fun key => turn_asks p whole (trail p server n).1 (answer p server n) key
      change (∀ key, (turn p whole (trail p server n).1 (server ((trail p server n).1 :: (trail p server n).2))).2 = .ask key ↔ _) at follows
      generalize turn p whole (trail p server n).1 (server ((trail p server n).1 :: (trail p server n).2)) = taken at follows
      obtain ⟨page, what⟩ := taken
      have stays (other : ∀ key, what ≠ .ask key) : ¬Advances p server n := fun ⟨key, given, changed⟩ =>
        other key ((follows key).mpr ⟨given, changed⟩)
      cases what with
      | done => exact .inl ⟨rfl, n, Nat.lt_succ_self n, stays nofun⟩
      | raise failure => exact .inl ⟨rfl, n, Nat.lt_succ_self n, stays nofun⟩
      | ask key =>
        obtain ⟨given, changed⟩ := (follows key).mp rfl
        refine .inr ⟨fun m small => ?_, _, by rw [trail_succ, given]⟩
        rcases Nat.lt_succ_iff_lt_or_eq.mp small with earlier | rfl
        · exact all m earlier
        · exact ⟨key, given, changed⟩

theorem stops_iff (whole : List Row → Bool) : Stops (loop p whole) server ↔ ∃ n, ¬Advances p server n := by
  constructor
  · rintro ⟨n, ended⟩
    rcases loop_follows p server whole n with ⟨-, m, -, stays⟩ | ⟨-, yielded, here⟩
    · exact ⟨m, stays⟩
    · rw [here] at ended
      cases ended
  · rintro ⟨n, stays⟩
    rcases loop_follows p server whole (n + 1) with ⟨ended, -⟩ | ⟨all, -⟩
    · exact ⟨n + 1, ended⟩
    · exact absurd (all n (Nat.lt_succ_self n)) stays

end

/-! ## Servers with finitely many keys -/

theorem leaves_soon {α : Type*} (f : α → α) (start : α) (P : α → Prop) (places : Finset α) (inside : ∀ n, P (f^[n] start) → f^[n + 1] start ∈ places)
    (leaves : ∃ n, ¬P (f^[n] start)) : ∃ n ≤ places.card, ¬P (f^[n] start) := by
  classical
  by_contra late
  push Not at late
  have first := Nat.find_spec leaves
  have before : ∀ m < Nat.find leaves, P (f^[m] start) := fun m small => by simpa using Nat.find_min leaves small
  have long : places.card < Nat.find leaves := by
    by_contra short
    exact first (late _ (not_lt.mp short))
  -- More steps than places: the orbit was twice at one place.
  obtain ⟨i, hi, j, hj, apart, same⟩ := Finset.exists_ne_map_eq_of_card_lt_of_maps_to
    (s := Finset.range (Nat.find leaves)) (t := places) (f := fun m => f^[m + 1] start) (by simpa using long)
    fun m member => inside m (before m (by simpa using member))
  have shorter {i j : Nat} (less : i < j) (bound : j < Nat.find leaves) (same : f^[i + 1] start = f^[j + 1] start) : False := by
    have again : f^[Nat.find leaves - (j - i)] start = f^[Nat.find leaves] start := by
      have left : Nat.find leaves - (j - i) = (Nat.find leaves - (j + 1)) + (i + 1) := by omega
      have right : Nat.find leaves = (Nat.find leaves - (j + 1)) + (j + 1) := by omega
      rw [left, Function.iterate_add_apply, same, ← Function.iterate_add_apply, ← right]
    exact first (again ▸ before _ (by omega))
  rcases Nat.lt_or_gt_of_ne apart with less | less
  · exact shorter less (by simpa using hj) same
  · exact shorter less (by simpa using hi) same.symm

/-- A server that answers by the resume key of the request alone. -/
def ByKey (server : Server) (f : Option String → Response) : Prop := ∀ key earlier, server (key :: earlier) = f key

/-- The server of a function of the resume key. -/
theorem trail_orbit {p : Python} {server : Server} {f : Option String → Response} (byKey : ByKey server f) (n : Nat) :
    (trail p server n).1 = (fun key => carried p (f key))^[n] none := by
  induction n with
  | zero => rfl
  | succ n ih =>
    rw [Function.iterate_succ_apply', ← ih, trail_succ, answer, byKey]

/-- With finitely many keys, what ever stops the loop of such a server stops it within one request more than there are keys. -/
theorem stays_soon {p : Python} {server : Server} {f : Option String → Response} (byKey : ByKey server f) (keys : Finset String)
    (drawn : ∀ asked key, carried p (f asked) = some key → key ∈ keys) (stays : ∃ n, ¬Advances p server n) :
    ∃ n ≤ keys.card, ¬Advances p server n := by
  have advances (n : Nat) : Advances p server n ↔
      ∃ key, carried p (f ((fun key => carried p (f key))^[n] none)) = some key ∧ some key ≠ (fun key => carried p (f key))^[n] none := by
    rw [Advances, answer, byKey, trail_orbit byKey]
  simp only [advances] at stays ⊢
  have soon := leaves_soon (fun key => carried p (f key)) none (fun asked => ∃ key, carried p (f asked) = some key ∧ some key ≠ asked)
    (keys.map Function.Embedding.some) (fun n there => ?_) stays
  · rwa [Finset.card_map] at soon
  · obtain ⟨key, given, -⟩ := there
    rw [Function.iterate_succ_apply', given]
    exact Finset.mem_map_of_mem _ (drawn _ _ given)

/-! ## The durable loop -/

structure Work (client : Client) where
  identity : HarvestIdentity
  harvestId : String
  named : platformYearHarvestId identity = .ok harvestId
  fits : Fits client identity

def accepted (harvestId : String) (r : Step Store HarvestEvent Outcome) : Option PlatformYearHarvestResult :=
  match r.event.op with
  | .finish result _ =>
    match r.outcome with
    | .ok _ => if result.harvestId = harvestId then some result else none
    | .error _ => none
  | _ => none

/-- The accepted results of a task, in order. -/
def results (d : PyFloat) (es : List HarvestEvent) (harvestId : String) : List PlatformYearHarvestResult :=
  ((harvests d).trace es).filterMap (accepted harvestId)

section
variable (p : Python) (client : Client) (work : Work client) (server : Server)

/-- A result is what a worker makes of an answer to the task with the resume key of the result; an exception of the client
    makes a RETRYABLE result. -/
def Answered (earlier : List PlatformYearHarvestResult) (r : PlatformYearHarvestResult) : Prop :=
  ∃ task : PlatformYearHarvestTask, task.harvestId = work.harvestId ∧ task.identity = work.identity ∧ task.resumeKey = r.resumeKeyUsed ∧
    ∃ spent, harvestPlatformYear p client spent task (server (r.resumeKeyUsed :: (earlier.map (·.resumeKeyUsed)).reverse)) = .ok r ∨
      (∃ failure, harvestPlatformYear p client spent task
        (server (r.resumeKeyUsed :: (earlier.map (·.resumeKeyUsed)).reverse)) = .error failure) ∧ r.state = .retryable

/-- The results of a task come from the server. -/
def Served (results : List PlatformYearHarvestResult) : Prop :=
  ∀ earlier r later, results = earlier ++ r :: later → Answered p client work server earlier r

/-- In every run, with any workers and any other tasks between, the PARTIAL pages that come first are bounded. -/
def DurableStops : Prop :=
  ∃ bound, ∀ d es, Served p client work server (results d es work.harvestId) →
    ((results d es work.harvestId).takeWhile (·.state = .partial_)).length ≤ bound

/-- An answer makes a PARTIAL page that the store takes: it carries a new resume key, its rows are legible, and SQLite can
    hold its counts. -/
def Commits (n : Nat) : Prop :=
  ∃ content rows key, answer p server n = .ok content ∧ parsePayload p content = .ok (rows, some key) ∧ key ≠ "" ∧
    some key ≠ (trail p server n).1 ∧ Legible (platformPair p work.identity) [] rows ∧ rows.length < 2 ^ 63 ∧ content.length < 2 ^ 63

theorem Commits.advances {n : Nat} (commits : Commits p client work server n) : Advances p server n := by
  obtain ⟨content, rows, key, arrived, read, some_, changed, -⟩ := commits
  refine ⟨key, ?_, changed⟩
  have parsed : answer p server n >>= parsePayload p = .ok (rows, some key) := by
    rw [arrived]
    exact read
  rw [carried, parsed]
  simp [Option.filter, some_]

/-! ### What a run accepts -/

theorem results_snoc (d : PyFloat) (es : List HarvestEvent) (e : HarvestEvent) (key : String) :
    results d (es ++ [e]) key = results d es key ++ (accepted key ((harvests d).take ((harvests d).final es) e)).toList := by
  rw [results, Machine.trace_snoc, List.filterMap_append, results]
  rfl

theorem page_of_accepted (key : String) (r : Step Store HarvestEvent Outcome) :
    page key r = (accepted key r).filter fun result => committed result.state := by
  unfold page accepted
  cases r.event.op with
  | finish result retryAt =>
    dsimp only
    cases r.outcome with
    | error err => rfl
    | ok reply =>
      by_cases same : result.harvestId = key
      · by_cases isPage : committed result.state <;> simp [Option.filter, same, isPage]
      · simp [same]
  | enqueue | claim | renew => rfl

theorem pages_results (d : PyFloat) (es : List HarvestEvent) (key : String) :
    pages d es key = (results d es key).filter fun result => committed result.state := by
  rw [pages, results, List.filter_filterMap]
  congr 1
  funext r
  exact page_of_accepted key r

/-- The PARTIAL pages that come first start from nothing, and every other one of them where the one before it ended. -/
theorem first_pages (d : PyFloat) (es : List HarvestEvent) (key : String) :
    (∀ page ∈ ((results d es key).takeWhile (·.state = .partial_)).head?, page.resumeKeyUsed = none) ∧
      ((results d es key).takeWhile (·.state = .partial_)).IsChain fun earlier later => later.resumeKeyUsed = earlier.nextResumeKey := by
  have front : (results d es key).takeWhile (·.state = .partial_) <+: pages d es key := by
    rw [pages_results]
    generalize results d es key = rs
    induction rs with
    | nil => exact List.nil_prefix
    | cons r rest ih =>
      by_cases partly : r.state = .partial_
      · have isPage : committed r.state = true := by rw [partly]; rfl
        rw [List.takeWhile_cons_of_pos (by simpa using partly), List.filter_cons, if_pos isPage]
        exact List.cons_prefix_cons.mpr ⟨rfl, ih⟩
      · rw [List.takeWhile_cons_of_neg (by simpa using partly)]
        exact List.nil_prefix
  obtain ⟨starts, chain⟩ := chained_final d key es
  refine ⟨fun page isFirst => starts page ?_, chain.prefix front⟩
  obtain ⟨rest, same⟩ := front
  rw [← same]
  cases first : (results d es key).takeWhile (·.state = .partial_) with
  | nil =>
    rw [first] at isFirst
    cases isFirst
  | cons head tail =>
    rw [first] at isFirst
    exact isFirst

theorem accepted_small {d : PyFloat} {s : Store} {e : HarvestEvent} {key : String} {r : PlatformYearHarvestResult}
    (taken : accepted key ((harvests d).take s e) = some r) : r.rowsSeen < 2 ^ 63 ∧ r.bytes < 2 ^ 63 := by
  obtain ⟨now, owner, op⟩ := e
  cases op with
  | finish result retryAt =>
    unfold accepted at taken
    dsimp only [Machine.take_event] at taken
    split at taken
    · rename_i reply isOk
      split_ifs at taken
      obtain rfl := Option.some.inj taken
      change PlatformHarvests.Reply.task <$> (finishPlatformYearHarvestPage s (.fin now) result owner retryAt).1 = .ok reply at isOk
      cases answered : (finishPlatformYearHarvestPage s (.fin now) result owner retryAt).1 with
      | error err =>
        rw [answered] at isOk
        cases isOk
      | ok task =>
        unfold finishPlatformYearHarvestPage at answered
        iterate 5
          split at answered
          · cases answered
        split at answered
        · cases answered
        split at answered
        · cases answered
        split at answered
        · cases answered
        split at answered
        · cases answered
        split at answered
        · cases answered
        rename_i small
        simp only [Bool.or_eq_true, decide_eq_true_eq, not_or, not_le] at small
        exact ⟨small.1.1, small.2⟩
    · cases taken
  | enqueue | claim | renew => cases taken

theorem results_small (d : PyFloat) (es : List HarvestEvent) (key : String) :
    ∀ r ∈ results d es key, r.rowsSeen < 2 ^ 63 ∧ r.bytes < 2 ^ 63 := by
  intro r member
  obtain ⟨step, traced, taken⟩ := List.mem_filterMap.mp member
  obtain ⟨before, after, -, same⟩ := Machine.mem_trace _ traced
  rw [same] at taken
  exact accepted_small taken

/-! ### Pages that come from the server -/

/-- A PARTIAL page that answers a request of the trail is committed by the answer, and leaves the next key of the trail. -/
theorem partial_commits {earlier : List PlatformYearHarvestResult} {r : PlatformYearHarvestResult} {n : Nat}
    (answered : Answered p client work server earlier r) (partly : r.state = .partial_) (used : r.resumeKeyUsed = (trail p server n).1)
    (before : (earlier.map (·.resumeKeyUsed)).reverse = (trail p server n).2) (small : r.rowsSeen < 2 ^ 63 ∧ r.bytes < 2 ^ 63) :
    Commits p client work server n ∧ r.nextResumeKey = (trail p server (n + 1)).1 := by
  obtain ⟨task, -, identity, resumes, spent, harvested | ⟨-, other⟩⟩ := answered
  case inr =>
    rw [partly] at other
    cases other
  rw [used, before] at harvested
  have i : Identified task.identity := identity ▸ identified work.named
  have shape := harvest_harvested p client spent (answer p server n) i
  rw [show harvestPlatformYear p client spent task (answer p server n) = .ok r from harvested] at shape
  generalize isAnswer : answer p server n = response at shape
  generalize isGiven : Except.ok r = given at shape
  cases shape with
  | raised => cases isGiven
  | misfit other r' rows bytes error same =>
    obtain rfl := Except.ok.inj isGiven
    have state := congrArg ResultFields.state same
    rw [partly] at state
    cases state
  | unread fits failure read state caught r' rows bytes error same =>
    obtain rfl := Except.ok.inj isGiven
    have isState : r.state = state := congrArg ResultFields.state same
    rw [partly] at isState
    subst isState
    cases failure <;> cases caught
  | illegible fits rows key read bad r' rowsSeen bytes error same =>
    obtain rfl := Except.ok.inj isGiven
    have state := congrArg ResultFields.state same
    rw [partly] at state
    cases state
  | repeated fits rows key read some_ again legible r' rowsSeen bytes error same =>
    obtain rfl := Except.ok.inj isGiven
    have state := congrArg ResultFields.state same
    rw [partly] at state
    cases state
  | page fits content arrived rows key read legible found foundFor identities next isNext advances r' error same =>
    obtain rfl := Except.ok.inj isGiven
    have state : r.state = if next.isSome then .partial_ else if client.limit ≤ rows.length then .retryable else .complete :=
      congrArg ResultFields.state same
    have isNextKey : r.nextResumeKey = next := congrArg ResultFields.nextResumeKey same
    have rowsSeen : r.rowsSeen = rows.length := congrArg ResultFields.rowsSeen same
    have bytes : r.bytes = content.length := congrArg ResultFields.bytes same
    cases next with
    | none =>
      rw [partly] at state
      simp only [Option.isSome_none, Bool.false_eq_true, if_false] at state
      split_ifs at state
    | some k =>
      obtain ⟨given, full⟩ := Option.filter_eq_some_iff.mp isNext
      have changed : some k ≠ (trail p server n).1 := by
        rw [← used, ← resumes]
        exact advances k rfl
      refine ⟨⟨content, rows, k, isAnswer.trans arrived, given ▸ read, by simpa using full, changed, identity ▸ legible,
        rowsSeen ▸ small.1, bytes ▸ small.2⟩, ?_⟩
      have parsed : answer p server n >>= parsePayload p = .ok (rows, key) := by
        rw [isAnswer, arrived]
        exact read
      rw [isNextKey, trail_succ, carried, parsed]
      exact isNext.symm

theorem front_follows {d : PyFloat} {es : List HarvestEvent} (served : Served p client work server (results d es work.harvestId))
    (earlier : List PlatformYearHarvestResult) : ∀ r later,
    (results d es work.harvestId).takeWhile (·.state = .partial_) = earlier ++ r :: later →
      r.resumeKeyUsed = (trail p server earlier.length).1 ∧ (earlier.map (·.resumeKeyUsed)).reverse = (trail p server earlier.length).2 ∧
      Commits p client work server earlier.length ∧ r.nextResumeKey = (trail p server (earlier.length + 1)).1 := by
  obtain ⟨starts, chain⟩ := first_pages d es work.harvestId
  have whole := List.takeWhile_append_dropWhile (p := fun r : PlatformYearHarvestResult => decide (r.state = .partial_))
    (l := results d es work.harvestId)
  have follows {earlier : List PlatformYearHarvestResult} {r : PlatformYearHarvestResult} {later : List PlatformYearHarvestResult}
      (split_ : (results d es work.harvestId).takeWhile (·.state = .partial_) = earlier ++ r :: later)
      (used : r.resumeKeyUsed = (trail p server earlier.length).1)
      (before : (earlier.map (·.resumeKeyUsed)).reverse = (trail p server earlier.length).2) :
      Commits p client work server earlier.length ∧ r.nextResumeKey = (trail p server (earlier.length + 1)).1 := by
    have inside : r ∈ (results d es work.harvestId).takeWhile (·.state = .partial_) := by simp [split_]
    have partly : r.state = .partial_ := by simpa using List.mem_takeWhile_imp inside
    refine partial_commits p client work server (served earlier r (later ++ (results d es work.harvestId).dropWhile (·.state = .partial_)) ?_)
      partly used before (results_small d es _ r (List.takeWhile_subset _ inside))
    refine whole.symm.trans ?_
    rw [split_]
    simp
  induction earlier using List.reverseRecOn with
  | nil =>
    intro r later split_
    have used : r.resumeKeyUsed = none := starts r (by rw [split_]; rfl)
    exact ⟨used, rfl, follows split_ used rfl⟩
  | append_singleton earlier q ih =>
    intro r later split_
    rw [List.append_assoc, List.singleton_append] at split_
    obtain ⟨usedBefore, before, -, next⟩ := ih q (r :: later) split_
    have used : r.resumeKeyUsed = (trail p server (earlier ++ [q]).length).1 := by
      rw [List.length_append, List.length_singleton, ← next]
      rw [split_] at chain
      exact (List.isChain_cons_cons.mp (List.isChain_append.mp chain).2.1).1
    have asked : ((earlier ++ [q]).map (·.resumeKeyUsed)).reverse = (trail p server (earlier ++ [q]).length).2 := by
      rw [List.length_append, List.length_singleton, trail_succ, ← before, ← usedBefore]
      simp
    exact ⟨used, asked, follows (by rw [List.append_assoc, List.singleton_append]; exact split_) used asked⟩

theorem durable_stops {n : Nat} (stays : ¬Commits p client work server n) : DurableStops p client work server := by
  refine ⟨n, fun d es served => ?_⟩
  by_contra long
  rw [not_le] at long
  generalize isFront : (results d es work.harvestId).takeWhile (·.state = .partial_) = front at long
  have split_ : front = front.take n ++ front[n] :: front.drop (n + 1) := by
    rw [List.getElem_cons_drop, List.take_append_drop]
  have commits := (front_follows p client work server served (front.take n) _ _ (isFront.trans split_)).2.2.1
  rw [List.length_take, min_eq_left long.le] at commits
  exact stays commits

/-! ### Runs that never end -/

theorem claim_single {s : Store} {row : HarvestRow} (only : s.harvests.rows = [row]) (lease : s.defaultLeaseSeconds = .fin 60)
    (sound : Sound row.toPlatformYearHarvestTask) (open_ : row.state ∈ claimableStates) (free : row.retryAt = none) :
    ∃ s', claimPlatformYearHarvests s (.fin 0) "worker" 1 none none = (.ok [(claimedRow "worker" 60 0 row).toPlatformYearHarvestTask], s') ∧
      s'.harvests.rows = [claimedRow "worker" 60 0 row] ∧ s'.defaultLeaseSeconds = .fin 60 := by
  have seconds : (finiteReading (.fin 60)).filter (0 < ·) = some 60 := by decide +kernel
  have now : finiteReading (.fin 0) = some 0 := by decide +kernel
  have named : blank "worker" = false := by decide +kernel
  have claims : claimable 0 [] row = true := by simp [claimable, open_, free]
  have chosen : s.chosen 0 [] 1 = [row] := by simp [Store.chosen, only, claims]
  have made : claimTask "worker" (0 + 60) 0 row = .ok (claimedRow "worker" (0 + 60) 0 row).toPlatformYearHarvestTask := by
    rw [claimTask, sound.make]
    exact (sound_claimed sound "worker" (by norm_num) le_rfl).make
  have turned : claimPlatformYearHarvests s (.fin 0) "worker" 1 none none =
      (.ok [(claimedRow "worker" (0 + 60) 0 row).toPlatformYearHarvestTask], s.claimed "worker" (0 + 60) 0 [row]) := by
    unfold claimPlatformYearHarvests
    rw [named, if_neg Bool.false_ne_true, if_neg (by decide), Option.getD_none, lease, seconds]
    dsimp only
    rw [if_neg (by decide), now]
    dsimp only
    rw [show (Option.getD none ([] : List String)).eraseDups = [] from rfl, chosen, List.mapM_cons, made]
    rfl
  rw [zero_add] at turned
  refine ⟨_, turned, ?_, lease⟩
  simp [Store.claimed, Table.update, only]

theorem finish_single {s : Store} {row : HarvestRow} (only : s.harvests.rows = [row]) (sound : Sound row.toPlatformYearHarvestTask)
    (owned : ownedBy "worker" 0 row) {r : PlatformYearHarvestResult} (name : r.harvestId = row.harvestId) (same : answers r row)
    (partly : r.state = .partial_) (small : r.rowsSeen < 2 ^ 63 ∧ r.requests < 2 ^ 63 ∧ r.bytes < 2 ^ 63) :
    ∃ task s', finishPlatformYearHarvestPage s (.fin 0) r "worker" none = (.ok task, s') ∧
      s'.harvests.rows = [finishedRow 0 none (s.uniqueHostYears r) r row] ∧ s'.defaultLeaseSeconds = s.defaultLeaseSeconds := by
  have now : finiteReading (.fin 0) = some 0 := by decide +kernel
  have named : blank "worker" = false := by decide +kernel
  have found : s.harvests.get? r.harvestId = some row := by simp [Table.get?, only, name]
  have running : row.state = .running ∧ row.claimedBy = some "worker" := by
    simp only [ownedBy, Bool.and_eq_true, decide_eq_true_eq] at owned
    exact owned.1
  have rows : (s.finished "worker" 0 none r).harvests.rows = [finishedRow 0 none (s.uniqueHostYears r) r row] := by
    simp [Store.finished, Table.update, only, name, running]
  have read : (s.finished "worker" 0 none r).get r.harvestId =
      .ok (finishedRow 0 none (s.uniqueHostYears r) r row).toPlatformYearHarvestTask := by
    have stored : (s.finished "worker" 0 none r).harvests.get? r.harvestId = some (finishedRow 0 none (s.uniqueHostYears r) r row) := by
      simp [Table.get?, rows, name]
    rw [Store.get, stored]
    have retry : ∀ at_, (none : Option ℚ) = some at_ → 0 ≤ at_ := by simp
    exact (sound_finished sound le_rfl retry _ r).make
  refine ⟨(finishedRow 0 none (s.uniqueHostYears r) r row).toPlatformYearHarvestTask, s.finished "worker" 0 none r, ?_, rows, rfl⟩
  unfold finishPlatformYearHarvestPage
  rw [named, if_neg Bool.false_ne_true, if_neg (by simp), if_neg (by simp [partly]), if_neg (by simp), if_neg (by simp [partly, pageStates]), now]
  dsimp only
  rw [found, Option.filter_some, if_pos owned]
  dsimp only
  rw [sound.make]
  dsimp only
  have fits : ¬(2 ^ 63 ≤ r.rowsSeen || 2 ^ 63 ≤ r.requests || 2 ^ 63 ≤ r.bytes) = true := by
    simp only [Bool.or_eq_true, decide_eq_true_eq, not_or, not_le]
    exact ⟨⟨small.1, small.2.1⟩, small.2.2⟩
  rw [same, if_neg (by decide), if_neg fits, Option.bind_none, read]

/-- A run that committed a page for each of the first answers. -/
structure Underway (n : Nat) (es : List HarvestEvent) : Prop where
  row : ∃ row, ((harvests (.fin 60)).final es).harvests.rows = [row] ∧ row.harvestId = work.harvestId ∧ row.identity = work.identity ∧
    row.resumeKey = (trail p server n).1 ∧ row.state ∈ claimableStates ∧ row.retryAt = none
  lease : ((harvests (.fin 60)).final es).defaultLeaseSeconds = .fin 60
  count : (results (.fin 60) es work.harvestId).length = n
  partly : ∀ r ∈ results (.fin 60) es work.harvestId, r.state = .partial_
  asked : ((results (.fin 60) es work.harvestId).map (·.resumeKeyUsed)).reverse = (trail p server n).2
  served : Served p client work server (results (.fin 60) es work.harvestId)

theorem underway_start : Underway p client work server 0 [⟨0, "worker", .enqueue work.identity⟩] := by
  have now : finiteReading (.fin 0) = some 0 := by decide +kernel
  have entered : (enqueuePlatformYearHarvest (harvests (.fin 60)).initial (.fin 0) work.identity).2 =
      { (harvests (.fin 60)).initial with harvests := (harvests (.fin 60)).initial.harvests.insert (freshRow work.harvestId work.identity 0) } := by
    unfold enqueuePlatformYearHarvest
    rw [work.named]
    dsimp only
    rw [now]
  have after : (harvests (.fin 60)).final [⟨0, "worker", .enqueue work.identity⟩] =
      { (harvests (.fin 60)).initial with harvests := (harvests (.fin 60)).initial.harvests.insert (freshRow work.harvestId work.identity 0) } :=
    entered
  have nothing : results (.fin 60) [⟨0, "worker", .enqueue work.identity⟩] work.harvestId = [] := rfl
  refine ⟨⟨freshRow work.harvestId work.identity 0, by rw [after]; rfl, rfl, rfl, rfl, by simp [freshRow, claimableStates], rfl⟩,
    by rw [after]; rfl, by rw [nothing]; rfl, by rw [nothing]; nofun, by rw [nothing]; rfl, ?_⟩
  intro earlier r later split_
  rw [nothing] at split_
  exact absurd (congrArg List.length split_) (by simp)

/-- A committing answer is one more page. -/
theorem underway_step {n : Nat} {es : List HarvestEvent} (u : Underway p client work server n es) (commits : Commits p client work server n) :
    ∃ more, Underway p client work server (n + 1) (es ++ more) := by
  obtain ⟨row, only, name, identity, resumes, open_, free⟩ := u.row
  obtain ⟨content, rows, key, arrived, read, some_, changed, legible, fewRows, fewBytes⟩ := commits
  have sound : Sound row.toPlatformYearHarvestTask := inv_final (.fin 60) es row (by rw [only]; exact List.mem_singleton_self _)
  obtain ⟨claimed, claims, claimedRows, claimedLease⟩ := claim_single only u.lease sound open_ free
  -- The page of the claimed task.
  have i : Identified (claimedRow "worker" 60 0 row).identity := identity ▸ identified work.named
  have shape := harvest_harvested p client ⟨0, 0⟩ (answer p server n) i
  generalize isGiven : harvestPlatformYear p client ⟨0, 0⟩ (claimedRow "worker" 60 0 row).toPlatformYearHarvestTask (answer p server n) = given at shape
  have parsed : answer p server n >>= parsePayload p = .ok (rows, some key) := by
    rw [arrived]
    exact read
  have made : ∃ r : PlatformYearHarvestResult, given = .ok r ∧ r.toResultFields =
      platformFields ⟨0, 0⟩ (claimedRow "worker" 60 0 row).toPlatformYearHarvestTask rows.length content.length .partial_ (some key) r.capsules
        false r.error := by
    cases shape with
    | raised fits name' bad =>
      rw [parsed] at bad
      cases bad
    | misfit other => exact absurd (identity ▸ work.fits) other
    | unread fits failure bad =>
      rw [parsed] at bad
      cases bad
    | illegible fits rows' key' read' bad =>
      rw [parsed] at read'
      obtain ⟨rfl, -⟩ := Prod.mk.inj (Except.ok.inj read')
      exact absurd (show Legible (platformPair p row.identity) [] rows from identity ▸ legible) bad
    | repeated fits rows' key' read' _ again =>
      rw [parsed] at read'
      obtain ⟨-, same⟩ := Prod.mk.inj (Except.ok.inj read')
      obtain rfl := Option.some.inj same
      exact absurd (again.trans resumes) changed
    | page fits content' arrived' rows' key' read' legible' found foundFor identities next isNext advances r error same =>
      rw [arrived] at arrived'
      obtain rfl := Except.ok.inj arrived'
      rw [read] at read'
      obtain ⟨rfl, rfl⟩ := Prod.mk.inj (Except.ok.inj read')
      have isKey : next = some key := by
        rw [← isNext]
        simp [Option.filter, some_]
      subst isKey
      have capsules : r.capsules = orderedCapsules found := congrArg ResultFields.capsules same
      have isError : r.error = error := congrArg ResultFields.error same
      refine ⟨r, rfl, ?_⟩
      rw [capsules, isError, same]
      rfl
  obtain ⟨r, rfl, fields⟩ := made
  have isId : r.harvestId = row.harvestId := congrArg ResultFields.harvestId fields
  have partly : r.state = .partial_ := congrArg ResultFields.state fields
  have used : r.resumeKeyUsed = row.resumeKey := congrArg ResultFields.resumeKeyUsed fields
  have next : r.nextResumeKey = some key := congrArg ResultFields.nextResumeKey fields
  have isRows : r.rowsSeen = rows.length := congrArg ResultFields.rowsSeen fields
  have isBytes : r.bytes = content.length := congrArg ResultFields.bytes fields
  have isRequests : r.requests = 0 := congrArg ResultFields.requests fields
  have same : answers r (claimedRow "worker" 60 0 row) = true := by
    simp only [answers, Bool.and_eq_true, decide_eq_true_eq]
    exact ⟨⟨⟨⟨⟨congrArg ResultFields.provider fields, congrArg ResultFields.subject fields⟩, congrArg ResultFields.targetYear fields⟩,
      congrArg ResultFields.requestTemplateHash fields⟩, congrArg ResultFields.policyVersion fields⟩, used⟩
  obtain ⟨task, finished, finishes, finishedRows, finishedLease⟩ := finish_single claimedRows
    (sound_claimed sound "worker" (by norm_num) le_rfl) (by simp [ownedBy]) isId same partly
    ⟨isRows ▸ fewRows, by rw [isRequests]; norm_num, isBytes ▸ fewBytes⟩
  have claimStep : (harvests (.fin 60)).step ((harvests (.fin 60)).final es) ⟨0, "worker", .claim 1 none none⟩ =
      (.ok (.tasks [(claimedRow "worker" 60 0 row).toPlatformYearHarvestTask]), claimed) := by
    change (Reply.tasks <$> (claimPlatformYearHarvests _ (.fin 0) "worker" 1 none none).1, _) = _
    rw [claims]
    rfl
  have finishStep : (harvests (.fin 60)).step claimed ⟨0, "worker", .finish r none⟩ = (.ok (.task task), finished) := by
    change (Reply.task <$> (finishPlatformYearHarvestPage _ (.fin 0) r "worker" none).1, _) = _
    rw [finishes]
    rfl
  have final : (harvests (.fin 60)).final (es ++ [⟨0, "worker", .claim 1 none none⟩, ⟨0, "worker", .finish r none⟩]) = finished := by
    rw [show es ++ [(⟨0, "worker", .claim 1 none none⟩ : HarvestEvent), ⟨0, "worker", .finish r none⟩] =
      (es ++ [⟨0, "worker", .claim 1 none none⟩]) ++ [⟨0, "worker", .finish r none⟩] by simp, Machine.final_snoc, Machine.final_snoc, claimStep,
      finishStep]
  have all : results (.fin 60) (es ++ [⟨0, "worker", .claim 1 none none⟩, ⟨0, "worker", .finish r none⟩]) work.harvestId =
      results (.fin 60) es work.harvestId ++ [r] := by
    rw [show es ++ [(⟨0, "worker", .claim 1 none none⟩ : HarvestEvent), ⟨0, "worker", .finish r none⟩] =
      (es ++ [⟨0, "worker", .claim 1 none none⟩]) ++ [⟨0, "worker", .finish r none⟩] by simp, results_snoc, results_snoc, Machine.final_snoc,
      claimStep]
    have none_ : accepted work.harvestId ((harvests (.fin 60)).take ((harvests (.fin 60)).final es) ⟨0, "worker", .claim 1 none none⟩) = none := rfl
    have some' : accepted work.harvestId ((harvests (.fin 60)).take claimed ⟨0, "worker", .finish r none⟩) = some r := by
      unfold accepted
      rw [Machine.take_outcome, finishStep]
      exact if_pos (isId.trans name)
    rw [none_, some']
    simp
  refine ⟨[⟨0, "worker", .claim 1 none none⟩, ⟨0, "worker", .finish r none⟩], ?_, ?_, ?_, ?_, ?_, ?_⟩
  · refine ⟨finishedRow 0 none (claimed.uniqueHostYears r) r (claimedRow "worker" 60 0 row), by rw [final, finishedRows], name, identity,
      ?_, ?_, ?_⟩
    · have carries : carried p (answer p server n) = some key := by
        rw [carried, parsed]
        simp [Option.filter, some_]
      rw [trail_succ, carries, ← next]
      simp [partly]
    · simp [partly, claimableStates]
    · simp [partly]
  · rw [final, finishedLease, claimedLease]
  · rw [all, List.length_append, u.count, List.length_singleton]
  · rw [all]
    intro r' member
    rcases List.mem_append.mp member with old | new
    · exact u.partly r' old
    · rw [List.mem_singleton.mp new]
      exact partly
  · rw [all, trail_succ, List.map_append, List.reverse_append, u.asked, ← resumes, ← used]
    rfl
  · rw [all]
    intro earlier r' later split_
    rcases List.eq_nil_or_concat later with rfl | ⟨later, last, rfl⟩
    · obtain ⟨rfl, isLast⟩ := List.append_inj' split_ rfl
      obtain rfl := List.singleton_inj.mp isLast
      refine ⟨(claimedRow "worker" 60 0 row).toPlatformYearHarvestTask, name, identity, used.symm, ⟨0, 0⟩, .inl ?_⟩
      rw [u.asked, used, resumes]
      exact isGiven
    · rw [List.concat_eq_append, ← List.cons_append, ← List.append_assoc] at split_
      exact u.served earlier r' later (List.append_inj' split_ rfl).1

theorem durable_runs (all : ∀ n, Commits p client work server n) (n : Nat) : ∃ es, Underway p client work server n es := by
  induction n with
  | zero => exact ⟨_, underway_start p client work server⟩
  | succ n ih =>
    obtain ⟨es, u⟩ := ih
    obtain ⟨more, next⟩ := underway_step p client work server u (all n)
    exact ⟨es ++ more, next⟩

theorem durable_stops_iff : DurableStops p client work server ↔ ∃ n, ¬Commits p client work server n := by
  constructor
  · rintro ⟨bound, bounded⟩
    by_contra all
    push Not at all
    obtain ⟨es, u⟩ := durable_runs p client work server all (bound + 1)
    have few := bounded (.fin 60) es u.served
    have front : (results (.fin 60) es work.harvestId).takeWhile (·.state = .partial_) = results (.fin 60) es work.harvestId :=
      List.takeWhile_eq_self_iff.mpr fun r member => by simpa using u.partly r member
    rw [front, u.count] at few
    omega
  · rintro ⟨n, stays⟩
    exact durable_stops p client work server stays

end

/-! ## All loops -/

/-- The two page loops and the durable loop end. -/
structure PagingEnds (p : Python) (limit : Nat) (client : Client) (work : Work client) (server : Server) : Prop where
  iterator : Stops (iterRangePages p limit) server
  query : Stops (queryRangePages p) server
  durable : DurableStops p client work server

theorem pagingEnds_iff (p : Python) (limit : Nat) (client : Client) (work : Work client) (server : Server) :
    PagingEnds p limit client work server ↔ ∃ n, ¬Advances p server n := by
  constructor
  · intro ends
    exact (stops_iff p server _).mp ends.iterator
  · intro stays
    obtain ⟨n, stay⟩ := stays
    exact ⟨(stops_iff p server _).mpr ⟨n, stay⟩, (stops_iff p server _).mpr ⟨n, stay⟩,
      durable_stops p client work server fun commits => stay (commits.advances p client work server)⟩

/-- A server that answers by the resume key alone, and draws its own keys from a finite set. -/
structure FiniteServer (p : Python) where
  respond : Option String → Response
  keys : Finset String
  drawn : ∀ asked key, carried p (respond asked) = some key → key ∈ keys

def FiniteServer.server {p : Python} (s : FiniteServer p) : Server := fun requests => s.respond (requests.head?.getD none)

/-- The loops end exactly when some answer carries no resume key or the one that it was asked with, and the durable loop also
    when an answer makes no page. For a finite server it is one of the first answers, as many as it has keys and one more. -/
theorem paging_ends_iff (p : Python) (limit : Nat) (client : Client) (work : Work client) :
    (∀ server, (PagingEnds p limit client work server ↔ ∃ n, ¬Advances p server n) ∧
      (DurableStops p client work server ↔ ∃ n, ¬Commits p client work server n)) ∧
    ∀ s : FiniteServer p, PagingEnds p limit client work s.server ↔ ∃ n ≤ s.keys.card, ¬Advances p s.server n := by
  refine ⟨fun server => ⟨pagingEnds_iff p limit client work server, durable_stops_iff p client work server⟩, fun s => ?_⟩
  rw [pagingEnds_iff]
  constructor
  · exact stays_soon (f := s.respond) (fun key earlier => rfl) s.keys s.drawn
  · rintro ⟨n, -, stay⟩
    exact ⟨n, stay⟩

/-- Python without any compression, and with empty texts of its own. -/
def plainPython : Python where
  lower := id
  repr _ := []
  repr_encodes := nothing_encodes
  refusesNetloc _ := false
  complaint _ := ""
  digest _ := "0"
  digest_named _ := zero_stated
  decompress := .ok
  refusesJson _ := none

/-- A page without rows, and a resume key. -/
def keyPage (key : String) : List UInt8 := ("[[\"timestamp\"],[\"" ++ key ++ "\"]]").toUTF8.toList

/-- The key "b" on the key "a", and the key "a" on any other. -/
def alternating : Server := fun requests => .ok (keyPage (if requests.head? = some (some "a") then "b" else "a"))

theorem keyPage_read : ∀ key ∈ ["a", "b"], parsePayload plainPython (keyPage key) = .ok ([], some key) := by
  have short : ∀ key ∈ ["a", "b"], (match parsePayload plainPython (keyPage key) with
      | .ok (rows, found) => rows.isEmpty && found = some key
      | .error _ => false) = true := by decide +kernel
  intro key member
  have read := short key member
  split at read
  · rename_i rows found parsed
    simp only [Bool.and_eq_true, List.isEmpty_iff, decide_eq_true_eq] at read
    rw [parsed, read.1, read.2]
  · cases read

/-- The server answers every request with one of two keys, and no loop ends. -/
theorem alternating_forever :
    (∀ requests, ∃ key ∈ ["a", "b"], carried plainPython (alternating requests) = some key) ∧
    ¬Stops (iterRangePages plainPython 1000) alternating ∧ ¬Stops (queryRangePages plainPython) alternating ∧
    ∀ client, ∀ work : Work client, ¬DurableStops plainPython client work alternating := by
  have reads (requests : List (Option String)) : ∃ key ∈ ["a", "b"], alternating requests = .ok (keyPage key) ∧
      requests.head? ≠ some (some key) := by
    by_cases first : requests.head? = some (some "a")
    · refine ⟨"b", by simp, by rw [alternating, if_pos first], ?_⟩
      rw [first]
      decide
    · exact ⟨"a", by simp, by rw [alternating, if_neg first], first⟩
  have small : ∀ key ∈ ["a", "b"], (keyPage key).length < 2 ^ 63 := by decide +kernel
  have full : ∀ key ∈ ["a", "b"], key ≠ "" := by decide
  have commits (client : Client) (work : Work client) (n : Nat) : Commits plainPython client work alternating n := by
    obtain ⟨key, member, answered, changed⟩ := reads ((trail plainPython alternating n).1 :: (trail plainPython alternating n).2)
    exact ⟨keyPage key, [], key, answered, keyPage_read key member, full key member, fun same => changed (by rw [List.head?_cons, same]),
      trivial, by simp, small key member⟩
  have advances (n : Nat) : Advances plainPython alternating n := by
    obtain ⟨key, member, answered, changed⟩ := reads ((trail plainPython alternating n).1 :: (trail plainPython alternating n).2)
    refine ⟨key, ?_, fun same => changed (by rw [List.head?_cons, same])⟩
    have parsed : answer plainPython alternating n >>= parsePayload plainPython = .ok ([], some key) := by
      rw [answer, answered]
      exact keyPage_read key member
    rw [carried, parsed]
    simp [Option.filter, full key member]
  refine ⟨fun requests => ?_, fun stops => ?_, fun stops => ?_, fun client work stops => ?_⟩
  · obtain ⟨key, member, answered, -⟩ := reads requests
    have parsed : alternating requests >>= parsePayload plainPython = .ok ([], some key) := by
      rw [answered]
      exact keyPage_read key member
    exact ⟨key, member, by rw [carried, parsed]; simp [Option.filter, full key member]⟩
  · obtain ⟨n, stay⟩ := (stops_iff _ _ _).mp stops
    exact stay (advances n)
  · obtain ⟨n, stay⟩ := (stops_iff _ _ _).mp stops
    exact stay (advances n)
  · obtain ⟨n, stay⟩ := (durable_stops_iff _ _ _ _).mp stops
    exact stay (commits client work n)

end Creeper.CdxPaging
