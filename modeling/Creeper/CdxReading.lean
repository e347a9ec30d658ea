import Creeper.CdxQueries

/-!
# What reading a page can raise

A page is read exactly when the timestamp of no row looks like digits that are none, and UTF-8
holds every row that a capsule is made of. The capsules are of the host-years that their rows
were accepted for.
-/

namespace Creeper.CdxReading
open Creeper.PyText Creeper.JsonText Creeper.EvidenceTasks Creeper.CdxRows Creeper.CdxQueries
open Creeper.BatchPayload (charsOf charsOf_py)
open Creeper.EvidenceStore (CapsuleFields EvidenceCapsule)
open Creeper.PlatformHarvests (PlatformYearHarvestTask HarvestIdentity PlatformYearHarvestResult ResultFields platformYearHarvestId
  inside capsuleProblem pageStates)
open Creeper.ResultCommit (inScope)
open Creeper.FabricModels (blank)

variable (p : Python)

/-! ## Texts -/

theorem charsOf_encodes {text : PyStr} (encodes : encodable text = true) : ∃ chars, charsOf text = some chars := by
  induction text with
  | nil => exact ⟨[], rfl⟩
  | cons c rest ih =>
    cases c with
    | surrogate k => cases encodes
    | char c =>
      obtain ⟨chars, read⟩ := ih encodes
      exact ⟨c :: chars, by rw [charsOf, read]; rfl⟩

theorem encodesMembers_iff {members : List (PyStr × Json)} :
    EncodesMembers members ↔ ∀ q ∈ members, encodable q.1 = true ∧ Encodes q.2 := by
  induction members with
  | nil => simp [EncodesMembers]
  | cons q rest ih => simp [EncodesMembers, ih, and_assoc]

theorem str_encodes {v : Json} (encodes : Encodes v) : encodable (p.str v) = true := by
  cases v with
  | null => rfl
  | bool value => cases value <;> rfl
  | int n => exact py_encodable _
  | str text => exact encodes
  | float x => exact p.repr_encodes _
  | arr items => exact p.repr_encodes _
  | obj members => exact p.repr_encodes _

theorem field_encodes {row : Row} (encodes : encodable (dumps (.obj row)) = true) (name : String) : encodable (field p row name) = true := by
  have each := encodesMembers_iff.mp ((encodable_write (.obj row)).mp encodes)
  unfold field
  cases found : row.find? (·.1 = py name) with
  | none => rfl
  | some member => exact str_encodes p (each member (List.mem_of_find?_eq_some found)).2

/-! ## Capsules -/

/-- A capsule is of a host-year, and of the provider and policy that asked for it. -/
structure Of (provider policyVersion : String) (pair : String × Int) (c : EvidenceCapsule) : Prop where
  hostname : c.hostname = pair.1
  year : c.year = pair.2
  provider : c.provider = provider
  policyVersion : c.policyVersion = policyVersion

theorem capsuleOf_made {row : Row} {hostname provider policyVersion : String} {year : Int} (official : officialHost hostname = true)
    (low : 1996 ≤ year) (high : year ≤ 2001) (named : blank provider = false) (policy : blank policyVersion = false)
    (evidenceType sourceId recordLocator method : String) (encodes : encodable (dumps (.obj row)) = true) :
    ∃ c, capsuleOf p row hostname year provider policyVersion evidenceType sourceId recordLocator method = .ok c ∧
      Of provider policyVersion (hostname, year) c := by
  obtain ⟨timestamp, isTimestamp⟩ := charsOf_encodes (field_encodes p encodes "timestamp")
  obtain ⟨original, isOriginal⟩ := charsOf_encodes (field_encodes p encodes "original")
  unfold capsuleOf
  rw [isTimestamp, isOriginal, encodes]
  dsimp only
  rw [if_neg (by decide)]
  generalize isFields : CapsuleFields.mk hostname year provider "capture_timestamp_year" _ _ _ _ _ _ _ _ _ = fields
  have checked : fields.postInit = none := by
    rw [← isFields]
    simp [CapsuleFields.postInit, official, low, high, named, policy, p.digest_named]
  have same : fields.hostname = hostname ∧ fields.year = year ∧ fields.provider = provider ∧ fields.policyVersion = policyVersion := by
    rw [← isFields]
    exact ⟨rfl, rfl, rfl, rfl⟩
  refine ⟨⟨fields.filled, by rw [← checked]; rfl, fields.filled_filled⟩, ?_, same.1, same.2.1, same.2.2.1, same.2.2.2⟩
  have built : EvidenceCapsule.make fields = .ok ⟨fields.filled, by rw [← checked]; rfl, fields.filled_filled⟩ := by
    unfold EvidenceCapsule.make
    split
    · rename_i message found
      rw [checked] at found
      cases found
    · rfl
  rw [built]
  rfl

theorem capsuleOf_encodes {row : Row} {hostname provider policyVersion : String} {year : Int}
    {evidenceType sourceId recordLocator method : String} {c : EvidenceCapsule}
    (made : capsuleOf p row hostname year provider policyVersion evidenceType sourceId recordLocator method = .ok c) :
    encodable (dumps (.obj row)) = true := by
  unfold capsuleOf at made
  split at made
  · cases encodes : encodable (dumps (.obj row)) with
    | true => rfl
    | false =>
      rw [encodes] at made
      cases made
  · cases made

theorem capsuleOf_unmade {row : Row} {hostname provider policyVersion : String} {year : Int}
    {evidenceType sourceId recordLocator method : String} {failure : Failure}
    (unmade : capsuleOf p row hostname year provider policyVersion evidenceType sourceId recordLocator method = .error failure) :
    ∃ message, failure = .valueError message := by
  unfold capsuleOf at unmade
  split at unmade
  · split_ifs at unmade
    · exact ⟨_, (Except.error.inj unmade).symm⟩
    unfold EvidenceCapsule.make at unmade
    split at unmade
    · exact ⟨_, (Except.error.inj unmade).symm⟩
    · cases unmade
  · exact ⟨_, (Except.error.inj unmade).symm⟩

/-! ## Hostnames and years -/

theorem yearOf_misread {timestamp : PyStr} {failure : Failure} (misread : yearOf p timestamp = .error failure) :
    ∃ message, failure = .valueError message := by
  unfold yearOf at misread
  split_ifs at misread
  split at misread
  · cases misread
  · exact ⟨_, (Except.error.inj misread).symm⟩

theorem official_of_hostname {original : PyStr} {hostname : String} (found : hostnameOf p original = some hostname) :
    officialHost hostname = true := by
  obtain ⟨host, -, normal⟩ := Option.bind_eq_some_iff.mp found
  exact (Option.filter_eq_some_iff.mp normal).2

structure Checked (key : EvidenceQueryKey) : Prop where
  official : officialHost key.hostname = true
  low : 1996 ≤ key.yearFrom
  rises : key.yearFrom ≤ key.yearTo
  high : key.yearTo ≤ 2001
  provider : blank key.provider = false
  policy : blank key.policyVersion = false

theorem key_checked (key : EvidenceQueryKey) : Checked key := by
  have valid := key.valid
  simp only [Bool.and_eq_true, decide_eq_true_eq, Bool.not_eq_true'] at valid
  exact ⟨valid.1.1.1, valid.1.1.2.1.1, valid.1.1.2.1.2, valid.1.1.2.2, valid.1.2, valid.2⟩

theorem acceptedYear_scope {row : Row} {hostname : String} {yearFrom yearTo year : Int}
    (accepted : acceptedYear p row hostname yearFrom yearTo = .ok (some year)) : yearFrom ≤ year ∧ year ≤ yearTo := by
  unfold acceptedYear at accepted
  cases read : yearOf p (field p row "timestamp") with
  | error failure =>
    rw [read] at accepted
    cases accepted
  | ok found =>
    rw [read] at accepted
    cases found with
    | none => cases accepted
    | some y =>
      change (if _ then Except.ok (some y) else Except.ok none) = _ at accepted
      split_ifs at accepted with all
      · simp only [Bool.and_eq_true, decide_eq_true_eq] at all
        obtain rfl := Option.some.inj (Except.ok.inj accepted)
        exact all.1.1
      · cases accepted

theorem range_makes (client : Client) (key : EvidenceQueryKey) (pagesSeen : Nat) (method : String) :
    Makes (fun row => acceptedYear p row key.hostname key.yearFrom key.yearTo)
      (fun row year recordNo => capsuleFromRow p client.sourceId key row year pagesSeen recordNo method)
      (fun year c => Of key.provider key.policyVersion (key.hostname, year) c ∧ inScope key year = true) where
  made := by
    intro row year n accepted encodes
    have checked := key_checked key
    obtain ⟨low, high⟩ := acceptedYear_scope p accepted
    obtain ⟨c, made, of_⟩ := capsuleOf_made p checked.official (checked.low.trans low) (high.trans checked.high) checked.provider
      checked.policy "exact_host_cdx_capture" client.sourceId _ method encodes
    exact ⟨c, made, of_, by simp [inScope, low, high]⟩
  refused := fun row year n c made => capsuleOf_encodes p made
  misread := by
    intro row failure misread
    unfold acceptedYear at misread
    cases read : yearOf p (field p row "timestamp") with
    | error failure' =>
      rw [read] at misread
      exact Except.error.inj misread ▸ yearOf_misread p read
    | ok found =>
      rw [read] at misread
      cases found with
      | none => cases misread
      | some year =>
        change (if _ then Except.ok (some year) else Except.ok none) = _ at misread
        split_ifs at misread
  unmade := fun row year n failure unmade => capsuleOf_unmade p unmade

theorem domainPair_some {key : EvidenceQueryKey} {row : Row} {pair : String × Int} (accepted : domainPair p key row = .ok (some pair)) :
    officialHost pair.1 = true ∧ inScope key pair.2 = true ∧ inside pair.1 key.hostname = true := by
  unfold domainPair at accepted
  split_ifs at accepted
  · cases accepted
  cases read : yearOf p (field p row "timestamp") with
  | error failure =>
    rw [read] at accepted
    cases accepted
  | ok found =>
    rw [read] at accepted
    cases found with
    | none => cases accepted
    | some year =>
      change (if _ then Except.ok none else _) = _ at accepted
      split_ifs at accepted with scope
      · cases accepted
      cases host : hostnameOf p (field p row "original") with
      | none =>
        rw [host] at accepted
        cases accepted
      | some hostname =>
        rw [host] at accepted
        change (if _ then Except.ok (some (hostname, year)) else Except.ok none) = _ at accepted
        split_ifs at accepted with within
        · obtain rfl := Option.some.inj (Except.ok.inj accepted)
          exact ⟨official_of_hostname p host, by simpa using scope, within⟩
        · cases accepted

theorem domain_makes (client : Client) (key : EvidenceQueryKey) :
    Makes (domainPair p key) (domainCapsule p client key)
      (fun pair c => Of key.provider key.policyVersion pair c ∧ inScope key pair.2 = true) where
  made := by
    intro row pair n accepted encodes
    have checked := key_checked key
    obtain ⟨official, scope, -⟩ := domainPair_some p accepted
    simp only [inScope, Bool.and_eq_true, decide_eq_true_eq] at scope
    obtain ⟨c, made, of_⟩ := capsuleOf_made p official (checked.low.trans scope.1) (scope.2.trans checked.high) checked.provider
      checked.policy "domain_scope_cdx_capture" client.sourceId _ "cdx_query_domain_bounded" encodes
    exact ⟨c, made, of_, by simp [inScope, scope]⟩
  refused := fun row pair n c made => capsuleOf_encodes p made
  misread := by
    intro row failure misread
    unfold domainPair at misread
    split_ifs at misread
    cases read : yearOf p (field p row "timestamp") with
    | error failure' =>
      rw [read] at misread
      exact Except.error.inj misread ▸ yearOf_misread p read
    | ok found =>
      rw [read] at misread
      cases found with
      | none => cases misread
      | some year =>
        change (if _ then Except.ok none else _) = _ at misread
        split_ifs at misread
        cases host : hostnameOf p (field p row "original") with
        | none =>
          rw [host] at misread
          cases misread
        | some hostname =>
          rw [host] at misread
          change (if _ then Except.ok (some (hostname, year)) else Except.ok none) = _ at misread
          split_ifs at misread
  unmade := fun row pair n failure unmade => capsuleOf_unmade p unmade

/-- What the identity of a task was checked for. -/
structure Identified (i : HarvestIdentity) : Prop where
  official : officialHost i.subject = true
  low : 1996 ≤ i.targetYear
  high : i.targetYear ≤ 2001
  provider : blank i.provider = false
  policy : blank i.policyVersion = false

theorem identified {i : HarvestIdentity} {harvestId : String} (named : platformYearHarvestId i = .ok harvestId) : Identified i := by
  unfold platformYearHarvestId at named
  split_ifs at named with subject year blanks
  simp only [Bool.or_eq_true, not_or, Bool.not_eq_true, Bool.not_eq_true', Bool.not_eq_false] at subject year blanks
  simp only [Bool.and_eq_true, decide_eq_true_eq] at year
  exact ⟨subject, year.1, year.2, blanks.1.1, blanks.2⟩

theorem platformPair_some {i : HarvestIdentity} {row : Row} {pair : String × Int} (accepted : platformPair p i row = .ok (some pair)) :
    officialHost pair.1 = true ∧ pair.2 = i.targetYear ∧ inside pair.1 i.subject = true := by
  unfold platformPair at accepted
  cases read : yearOf p (field p row "timestamp") with
  | error failure =>
    rw [read] at accepted
    cases accepted
  | ok found =>
    rw [read] at accepted
    cases found with
    | none => cases accepted
    | some year =>
      change (if _ then Except.ok none else _) = _ at accepted
      split_ifs at accepted
      · cases accepted
      cases host : hostnameOf p (field p row "original") with
      | none =>
        rw [host] at accepted
        cases accepted
      | some hostname =>
        rw [host] at accepted
        change (if _ then Except.ok (some (hostname, i.targetYear)) else Except.ok none) = _ at accepted
        split_ifs at accepted with within
        · obtain rfl := Option.some.inj (Except.ok.inj accepted)
          exact ⟨official_of_hostname p host, rfl, within⟩
        · cases accepted

theorem platform_makes (client : Client) {task : PlatformYearHarvestTask} (i : Identified task.identity) :
    Makes (platformPair p task.identity) (platformCapsule p client task)
      (fun pair c => Of task.identity.provider task.identity.policyVersion pair c ∧ officialHost pair.1 = true ∧
        pair.2 = task.identity.targetYear ∧ inside pair.1 task.identity.subject = true) where
  made := by
    intro row pair n accepted encodes
    obtain ⟨official, target, within⟩ := platformPair_some p accepted
    obtain ⟨c, made, of_⟩ := capsuleOf_made p official (target ▸ i.low) (target ▸ i.high) i.provider i.policy
      "platform_scope_cdx_capture" client.sourceId _ "cdx_harvest_platform_year" encodes
    exact ⟨c, made, of_, official, target, within⟩
  refused := fun row pair n c made => capsuleOf_encodes p made
  misread := by
    intro row failure misread
    unfold platformPair at misread
    cases read : yearOf p (field p row "timestamp") with
    | error failure' =>
      rw [read] at misread
      exact Except.error.inj misread ▸ yearOf_misread p read
    | ok found =>
      rw [read] at misread
      cases found with
      | none => cases misread
      | some year =>
        change (if _ then Except.ok none else _) = _ at misread
        split_ifs at misread
        cases host : hostnameOf p (field p row "original") with
        | none =>
          rw [host] at misread
          cases misread
        | some hostname =>
          rw [host] at misread
          change (if _ then Except.ok (some (hostname, task.identity.targetYear)) else Except.ok none) = _ at misread
          split_ifs at misread
  unmade := fun row pair n failure unmade => capsuleOf_unmade p unmade

/-! ## Results of a platform year -/

theorem orderedCapsules_pairs {found : ByHostYear} (each : ∀ entry ∈ found, (entry.2.hostname, entry.2.year) = entry.1) :
    ((orderedCapsules found).map fun c => (c.hostname, c.year)).Perm (found.map (·.1)) := by
  have sorted := (List.perm_insertionSort (fun a b : (String × Int) × EvidenceCapsule => toLex a.1 ≤ toLex b.1) found).map
    fun entry => (entry.2.hostname, entry.2.year)
  have same : (found.map fun entry => (entry.2.hostname, entry.2.year)) = found.map (·.1) := List.map_congr_left each
  rw [orderedCapsules, List.map_map]
  exact same ▸ sorted

theorem mem_orderedCapsules {found : ByHostYear} {c : EvidenceCapsule} (member : c ∈ orderedCapsules found) : ∃ entry ∈ found, entry.2 = c := by
  obtain ⟨entry, inside, same⟩ := List.mem_map.mp member
  exact ⟨entry, (List.mem_insertionSort _).mp inside, same⟩

theorem capsuleProblem_none (r : ResultFields) (capsules : List EvidenceCapsule)
    (each : ∀ c ∈ capsules, c.provider = r.provider ∧ c.policyVersion = r.policyVersion ∧ c.year = r.targetYear ∧
      officialHost c.hostname = true ∧ inside c.hostname r.subject = true)
    (apart : (capsules.map fun c => (c.hostname, c.year)).Nodup) (seen : List EvidenceStore.HostYear)
    (other : ∀ c ∈ capsules, c.pair ∉ seen) : capsuleProblem r seen capsules = none := by
  induction capsules generalizing seen with
  | nil => rfl
  | cons c rest ih =>
    obtain ⟨provider, policy, year, official, within⟩ := each c List.mem_cons_self
    obtain ⟨new, later⟩ := List.nodup_cons.mp apart
    have unseen : seen.contains c.pair = false := by simpa using other c List.mem_cons_self
    rw [capsuleProblem, if_neg (not_not_intro provider), if_neg (not_not_intro policy), if_neg (not_not_intro year), official, within, unseen]
    refine ih (fun d member => each d (List.mem_cons_of_mem _ member)) later _ fun d member => ?_
    rw [List.mem_cons, not_or]
    refine ⟨fun same => new (List.mem_map.mpr ⟨d, member, ?_⟩), other d (List.mem_cons_of_mem _ member)⟩
    exact toLex_inj.mp same

/-- What a page found for a task. -/
structure FoundFor (i : HarvestIdentity) (found : ByHostYear) : Prop where
  apart : (found.map (·.1)).Nodup
  each : ∀ entry ∈ found, Of i.provider i.policyVersion entry.1 entry.2 ∧ officialHost entry.1.1 = true ∧ entry.1.2 = i.targetYear ∧
    inside entry.1.1 i.subject = true

theorem FoundFor.problem {i : HarvestIdentity} {found : ByHostYear} (f : FoundFor i found) (r : ResultFields) (provider : r.provider = i.provider)
    (policy : r.policyVersion = i.policyVersion) (year : r.targetYear = i.targetYear) (subject : r.subject = i.subject) :
    capsuleProblem r [] (orderedCapsules found) = none := by
  refine capsuleProblem_none r _ (fun c member => ?_) ?_ [] fun _ _ => List.not_mem_nil
  · obtain ⟨entry, listed, rfl⟩ := mem_orderedCapsules member
    obtain ⟨of_, official, target, within⟩ := f.each entry listed
    rw [provider, policy, year, subject, of_.hostname, of_.year, of_.provider, of_.policyVersion]
    exact ⟨rfl, rfl, target, official, within⟩
  · refine (orderedCapsules_pairs fun entry listed => ?_).nodup_iff.mpr f.apart
    rw [(f.each entry listed).1.hostname, (f.each entry listed).1.year]

theorem makePlatform_made {r : ResultFields} (valid : r.postInit = none) : makePlatform r = .ok ⟨r, valid⟩ := by
  unfold makePlatform
  split
  · rename_i message found
    rw [valid] at found
    cases found
  · rfl

/-- The continuation of a result fits its state. -/
def Continued (r : ResultFields) : Prop :=
  if r.state = .partial_ then ∃ key, r.nextResumeKey = some key ∧ key ≠ "" ∧ some key ≠ r.resumeKeyUsed ∧ r.exhaustive = false
  else r.nextResumeKey = none ∧ (r.exhaustive = true ↔ r.state = .complete)

theorem postInit_none {r : ResultFields} (official : officialHost r.subject = true) (low : 1996 ≤ r.targetYear) (high : r.targetYear ≤ 2001)
    (state : r.state ∈ pageStates) (continued : Continued r) (elapsed : 0 ≤ r.elapsedSeconds) (capsules : capsuleProblem r [] r.capsules = none) :
    r.postInit = none := by
  unfold Continued at continued
  by_cases partly : r.state = .partial_
  · rw [if_pos partly] at continued
    obtain ⟨key, next, some_, advances, unproved⟩ := continued
    simp [ResultFields.postInit, official, low, high, pageStates, partly, next, some_, advances, unproved, not_lt.mpr elapsed, capsules]
  · rw [if_neg partly] at continued
    obtain ⟨next, proved⟩ := continued
    by_cases complete : r.state = .complete
    · simp [ResultFields.postInit, official, low, high, pageStates, next, complete, proved.mpr complete, not_lt.mpr elapsed, capsules]
    · have unproved : r.exhaustive = false := by simpa [complete] using proved
      simp [ResultFields.postInit, official, low, high, state, partly, next, complete, unproved, not_lt.mpr elapsed, capsules]

/-- The task is one of the client's requests. -/
def Fits (client : Client) (i : HarvestIdentity) : Prop :=
  i.provider = client.provider ∧ i.requestTemplateHash = client.templateHash i.subject i.targetYear i.policyVersion

/-- The state that a failure ends in, when the client catches it. -/
def caughtAs : Failure → Option PlatformHarvests.PlatformHarvestState
  | .valueError _ => some .failedInvalid
  | .transport _ => some .retryable
  | .other _ => none

variable (client : Client) (spent : Spent) (task : PlatformYearHarvestTask) (response : Except Failure (List UInt8))

/-- What a harvest gives: a failure that nothing catches, a result without capsules, or a page. -/
inductive Harvested : Except Failure PlatformYearHarvestResult → Prop
  | raised (fits : Fits client task.identity) (name : String) (read : response >>= parsePayload p = .error (.other name)) :
      Harvested (.error (.other name))
  | misfit (other : ¬Fits client task.identity) (r : PlatformYearHarvestResult) (rows bytes : Nat) (error : Option String)
      (same : r.toResultFields = platformFields spent task rows bytes .failedInvalid none [] false error) : Harvested (.ok r)
  | unread (fits : Fits client task.identity) (failure : Failure) (read : response >>= parsePayload p = .error failure)
      (state : PlatformHarvests.PlatformHarvestState) (caught : caughtAs failure = some state) (r : PlatformYearHarvestResult)
      (rows bytes : Nat) (error : Option String)
      (same : r.toResultFields = platformFields spent task rows bytes state none [] false error) : Harvested (.ok r)
  | illegible (fits : Fits client task.identity) (rows : List Row) (key : Option String)
      (read : response >>= parsePayload p = .ok (rows, key)) (bad : ¬Legible (platformPair p task.identity) [] rows)
      (r : PlatformYearHarvestResult) (rowsSeen bytes : Nat) (error : Option String)
      (same : r.toResultFields = platformFields spent task rowsSeen bytes .failedInvalid none [] false error) : Harvested (.ok r)
  | repeated (fits : Fits client task.identity) (rows : List Row) (key : String)
      (read : response >>= parsePayload p = .ok (rows, some key)) (some_ : key ≠ "") (again : some key = task.resumeKey)
      (legible : Legible (platformPair p task.identity) [] rows) (r : PlatformYearHarvestResult) (rowsSeen bytes : Nat) (error : Option String)
      (same : r.toResultFields = platformFields spent task rowsSeen bytes .retryable none [] false error) : Harvested (.ok r)
  | page (fits : Fits client task.identity) (content : List UInt8) (arrived : response = .ok content) (rows : List Row) (key : Option String)
      (read : parsePayload p content = .ok (rows, key)) (legible : Legible (platformPair p task.identity) [] rows) (found : ByHostYear)
      (foundFor : FoundFor task.identity found)
      (identities : ∀ i, i ∈ found.map (·.1) ↔ ∃ row ∈ rows, identityOf (platformPair p task.identity) row = some i)
      (next : Option String) (isNext : key.filter (· ≠ "") = next) (advances : ∀ k, next = some k → some k ≠ task.resumeKey)
      (r : PlatformYearHarvestResult) (error : Option String)
      (same : r.toResultFields = platformFields spent task rows.length content.length
        (if next.isSome then .partial_ else if client.limit ≤ rows.length then .retryable else .complete) next (orderedCapsules found)
        (next.isNone && !decide (client.limit ≤ rows.length)) error) : Harvested (.ok r)

variable {task}

theorem empty_made (i : Identified task.identity) {state : PlatformHarvests.PlatformHarvestState} (known : state = .failedInvalid ∨ state = .retryable)
    (rows bytes : Nat) (error : Option String) :
    ∃ r : PlatformYearHarvestResult, makePlatform (platformFields spent task rows bytes state none [] false error) = .ok r ∧
      r.toResultFields = platformFields spent task rows bytes state none [] false error := by
  have valid : (platformFields spent task rows bytes state none [] false error).postInit = none := by
    refine postInit_none i.official i.low i.high ?_ ?_ (by simp only [platformFields]; positivity) rfl
    · rcases known with rfl | rfl <;> simp [platformFields, pageStates]
    · rcases known with rfl | rfl <;> simp [Continued, platformFields]
  exact ⟨_, makePlatform_made valid, rfl⟩

theorem page_made (i : Identified task.identity) {found : ByHostYear} (f : FoundFor task.identity found) (rows bytes limit : Nat)
    (next : Option String) (some_ : next ≠ some "") (advances : ∀ k, next = some k → some k ≠ task.resumeKey) (error : Option String) :
    ∃ r : PlatformYearHarvestResult,
      makePlatform (platformFields spent task rows bytes (if next.isSome then .partial_ else if limit ≤ rows then .retryable else .complete)
        next (orderedCapsules found) (next.isNone && !decide (limit ≤ rows)) error) = .ok r ∧
      r.toResultFields = platformFields spent task rows bytes (if next.isSome then .partial_ else if limit ≤ rows then .retryable else .complete)
        next (orderedCapsules found) (next.isNone && !decide (limit ≤ rows)) error := by
  generalize isFields : platformFields spent task rows bytes _ next (orderedCapsules found) _ error = fields
  have valid : fields.postInit = none := by
    rw [← isFields]
    refine postInit_none i.official i.low i.high ?_ ?_ (by simp only [platformFields]; positivity)
      (f.problem _ rfl rfl rfl rfl)
    · simp only [platformFields]
      split_ifs <;> simp [pageStates]
    · cases next with
      | some k => simpa [Continued, platformFields, advances k rfl] using some_
      | none => by_cases full : limit ≤ rows <;> simp [Continued, platformFields, full]
  exact ⟨_, makePlatform_made valid, rfl⟩

theorem harvest_failed (i : Identified task.identity) {rowsSeen bytes : Nat} {failure : Failure}
    (body : platformBody p client spent task response = (rowsSeen, bytes, .error failure)) :
    match caughtAs failure with
    | none => ∃ name, failure = .other name ∧ harvestPlatformYear p client spent task response = .error (.other name)
    | some state => ∃ r : PlatformYearHarvestResult, ∃ error, harvestPlatformYear p client spent task response = .ok r ∧
        r.toResultFields = platformFields spent task rowsSeen bytes state none [] false error := by
  cases failure with
  | valueError message =>
    obtain ⟨r, made, same⟩ := empty_made spent i (.inl rfl) rowsSeen bytes (some message)
    refine ⟨r, some message, ?_, same⟩
    rw [harvestPlatformYear, body]
    exact made
  | transport message =>
    obtain ⟨r, made, same⟩ := empty_made spent i (.inr rfl) rowsSeen bytes (some message)
    refine ⟨r, some message, ?_, same⟩
    rw [harvestPlatformYear, body]
    exact made
  | other name =>
    refine ⟨name, rfl, ?_⟩
    rw [harvestPlatformYear, body]

theorem harvest_unread (i : Identified task.identity) (fits : Fits client task.identity) {rowsSeen bytes : Nat} {failure : Failure}
    (body : platformBody p client spent task response = (rowsSeen, bytes, .error failure))
    (read : response >>= parsePayload p = .error failure) :
    Harvested p client spent task response (harvestPlatformYear p client spent task response) := by
  have failed := harvest_failed p client spent response i body
  cases caught : caughtAs failure with
  | none =>
    rw [caught] at failed
    obtain ⟨name, rfl, raised⟩ := failed
    rw [raised]
    exact .raised fits name read
  | some state =>
    rw [caught] at failed
    obtain ⟨r, error, made, same⟩ := failed
    rw [made]
    exact .unread fits failure read state caught r _ _ error same

theorem harvest_harvested (i : Identified task.identity) :
    Harvested p client spent task response (harvestPlatformYear p client spent task response) := by
  by_cases provider : task.identity.provider = client.provider
  case neg =>
    have body : platformBody p client spent task response = (0, 0, .error (.valueError "provider mismatch for platform-year harvest")) := by
      rw [platformBody, if_pos provider]
    obtain ⟨r, error, made, same⟩ := harvest_failed p client spent response i body
    rw [made]
    exact .misfit (fun fits => provider fits.1) r 0 0 error same
  by_cases template : task.identity.requestTemplateHash =
      client.templateHash task.identity.subject task.identity.targetYear task.identity.policyVersion
  case neg =>
    have body : platformBody p client spent task response = (0, 0, .error (.valueError "platform-year request template identity mismatch")) := by
      rw [platformBody, if_neg (not_not_intro provider), if_pos template]
    obtain ⟨r, error, made, same⟩ := harvest_failed p client spent response i body
    rw [made]
    exact .misfit (fun fits => template fits.2) r 0 0 error same
  have fits : Fits client task.identity := ⟨provider, template⟩
  have body : platformBody p client spent task response = platformPage p client spent task response := by
    rw [platformBody, if_neg (not_not_intro provider), if_neg (not_not_intro template)]
  unfold platformPage at body
  cases arrived : response with
  | error failure =>
    rw [arrived] at body
    exact harvest_unread p client spent _ i fits body rfl
  | ok content =>
    rw [arrived] at body
    dsimp only at body
    cases read : parsePayload p content with
    | error failure =>
      rw [read] at body
      exact harvest_unread p client spent _ i fits body read
    | ok parsed =>
      obtain ⟨rows, key⟩ := parsed
      rw [read] at body
      dsimp only at body
      rcases collectRows_spec (platform_makes p client i) 0 [] rows with ⟨legible, end_, ended, c⟩ | ⟨bad, records, kept, message, ended⟩
      case inr =>
        rw [ended] at body
        obtain ⟨r, error, made, same⟩ := harvest_failed p client spent _ i body
        rw [made]
        exact .illegible fits rows key read bad r _ _ error same
      rw [ended] at body
      dsimp only at body
      have count : end_.1 = rows.length := by rw [c.records, Nat.zero_add]
      have identities : ∀ i', i' ∈ end_.2.map (·.1) ↔ ∃ row ∈ rows, identityOf (platformPair p task.identity) row = some i' := by
        intro i'
        rw [c.identities i']
        simp
      have foundFor : FoundFor task.identity end_.2 := ⟨c.apart List.nodup_nil, c.each nofun⟩
      have some_ : key.filter (· ≠ "") ≠ some "" := by
        intro empty
        have kept := (Option.filter_eq_some_iff.mp empty).2
        simp at kept
      by_cases again : ∃ k, key.filter (· ≠ "") = some k ∧ some k = task.resumeKey
      · obtain ⟨k, isKey, again⟩ := again
        obtain ⟨given, full⟩ := Option.filter_eq_some_iff.mp isKey
        rw [isKey] at body
        dsimp only at body
        rw [if_pos again] at body
        obtain ⟨r, error, made, same⟩ := harvest_failed p client spent _ i body
        rw [made]
        exact .repeated fits rows k (given ▸ read) (by simpa using full) again legible r _ _ error same
      · have advances : ∀ k, key.filter (· ≠ "") = some k → some k ≠ task.resumeKey := fun k isKey same => again ⟨k, isKey, same⟩
        generalize isNext : key.filter (· ≠ "") = next at body some_ advances
        have made (error : Option String) := page_made spent i foundFor rows.length content.length client.limit next some_ advances error
        cases next with
        | some k =>
          obtain ⟨r, made, same⟩ := made none
          have given : harvestPlatformYear p client spent task (.ok content) = .ok r := by
            rw [harvestPlatformYear, body]
            dsimp only
            rw [if_neg (advances k rfl), count]
            simp only [Option.isSome_some, if_true, Option.isNone_some, Bool.false_and] at made
            rw [made]
          rw [given]
          exact .page fits content rfl rows key read legible end_.2 foundFor identities (some k) isNext advances r none same
        | none =>
          by_cases full : client.limit ≤ rows.length
          · obtain ⟨r, made, same⟩ :=
              made (some "platform-year page reached the configured row limit without an explicit continuation")
            have given : harvestPlatformYear p client spent task (.ok content) = .ok r := by
              rw [harvestPlatformYear, body]
              dsimp only
              rw [if_pos full, count]
              simp only [Option.isSome_none, Bool.false_eq_true, if_false, if_pos full, Option.isNone_none, decide_eq_true full, Bool.not_true,
                Bool.and_false] at made
              rw [made]
            rw [given]
            exact .page fits content rfl rows key read legible end_.2 foundFor identities none isNext advances r _ same
          · obtain ⟨r, made, same⟩ := made none
            have given : harvestPlatformYear p client spent task (.ok content) = .ok r := by
              rw [harvestPlatformYear, body]
              dsimp only
              rw [if_neg full, count]
              simp only [Option.isSome_none, Bool.false_eq_true, if_false, if_neg full, Option.isNone_none, decide_eq_false full, Bool.not_false,
                Bool.and_true] at made
              rw [made]
            rw [given]
            exact .page fits content rfl rows key read legible end_.2 foundFor identities none isNext advances r none same

end Creeper.CdxReading
