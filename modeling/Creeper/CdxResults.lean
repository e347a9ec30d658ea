import Creeper.CdxReading

/-!
# Results that can be made

The constructors of the results check what they are given. What the queries of the Wayback client
found passes: the capsules are of the key, and there is one for each year or host-year.
-/

namespace Creeper.CdxResults
open Creeper.PyText Creeper.JsonText Creeper.EvidenceTasks Creeper.CdxRows Creeper.CdxQueries Creeper.CdxReading
open Creeper.EvidenceStore (EvidenceCapsule)
open Creeper.ResultCommit
open Creeper.FabricModels (blank)

variable (spent : Spent) (key : EvidenceQueryKey)

theorem accounting_fine (pagesSeen recordsSeen : Nat) (error : Option String) :
    (accountingOf spent pagesSeen recordsSeen error).problem = none := by
  simp [Accounting.problem, Accounting.counts, accountingOf]

/-! ## One year -/

theorem makeExact_made {r : ExactFields} (valid : r.postInit = none) : makeExact r = .ok ⟨r, valid⟩ := by
  unfold makeExact
  split
  · rename_i message found
    rw [valid] at found
    cases found
  · rfl

theorem exact_made (single : key.yearFrom = key.yearTo) (e : KeyEnd) (state : QueryState) {capsule : Option EvidenceCapsule}
    (each : ∀ c, capsule = some c → Of key.provider key.policyVersion (key.hostname, key.yearFrom) c) (error : Option String) :
    ∃ r, makeExact (exactFields spent key e state capsule error) = .ok r ∧ r.toExactFields = exactFields spent key e state capsule error := by
  have checked := key_checked key
  have accounts := accounting_fine spent e.pagesSeen e.recordsSeen error
  have high : key.yearFrom ≤ 2001 := single ▸ checked.high
  have valid : (exactFields spent key e state capsule error).postInit = none := by
    cases capsule with
    | none =>
      simp [ExactFields.postInit, exactFields, checked.official, checked.low, high, accounts, ExactFields.keyProblem, inScope, checked.rises]
    | some c =>
      have of_ := each c rfl
      simp [ExactFields.postInit, exactFields, checked.official, checked.low, high, accounts, ExactFields.keyProblem, inScope, checked.rises,
        ExactFields.capsuleProblem, of_.hostname, of_.year, of_.provider, of_.policyVersion]
  exact ⟨_, makeExact_made valid, rfl⟩

/-! ## Several years -/

/-- What was found for a key: one capsule for each year, of the key. -/
structure YearsFound (found : ByYear) : Prop where
  apart : (found.map (·.1)).Nodup
  each : ∀ entry ∈ found, Of key.provider key.policyVersion (key.hostname, entry.1) entry.2 ∧ inScope key entry.1 = true

theorem mem_yearsOf {found : ByYear} {year : Int} : year ∈ yearsOf found ↔ year ∈ found.map (·.1) := List.mem_insertionSort _

theorem yearsOf_nodup {found : ByYear} (apart : (found.map (·.1)).Nodup) : (yearsOf found).Nodup :=
  (List.perm_insertionSort _ _).nodup_iff.mpr apart

theorem mem_expectedYears {year : Int} : year ∈ expectedYears key ↔ inScope key year = true := by
  simp only [expectedYears, List.mem_map, List.mem_range, inScope, Bool.and_eq_true, decide_eq_true_eq]
  constructor
  · rintro ⟨i, small, rfl⟩
    omega
  · rintro ⟨low, high⟩
    exact ⟨(year - key.yearFrom).toNat, by omega, by omega⟩

theorem expectedYears_nodup : (expectedYears key).Nodup := by
  refine List.nodup_range.map fun i j same => ?_
  simpa using same

theorem yearsProblem_none {label : String} {years : List Int} (scope : ∀ year ∈ years, inScope key year = true) (apart : years.Nodup) :
    yearsProblem key label years = none := by
  have inside : years.any (fun year => !inScope key year) = false := by
    rw [List.any_eq_false]
    intro year member
    simp [scope year member]
  have same : years.eraseDups.length = years.length :=
    ((List.perm_ext_iff_of_nodup (EvidenceQueue.nodup_eraseDups years) apart).mpr fun year => List.mem_eraseDups).length_eq
  simp [yearsProblem, inside, same]

theorem capsulesOf_years {found : ByYear} (f : YearsFound key found) : (capsulesOf found).map (·.year) = yearsOf found := by
  unfold capsulesOf
  rw [List.map_filterMap]
  refine (List.filterMap_eq_map_iff_forall_eq_some.mpr fun year member => ?_).trans (List.map_id _)
  have there := (find?_isSome_iff found year).mpr (mem_yearsOf.mp member)
  obtain ⟨entry, isEntry⟩ := Option.isSome_iff_exists.mp there
  have isYear : entry.1 = year := by simpa using List.find?_some isEntry
  have of_ := (f.each entry (List.mem_of_find?_eq_some isEntry)).1
  rw [isEntry]
  simp [of_.year, isYear]

theorem mem_capsulesOf {found : ByYear} {c : EvidenceCapsule} (member : c ∈ capsulesOf found) : ∃ entry ∈ found, entry.2 = c := by
  obtain ⟨year, -, isEntry⟩ := List.mem_filterMap.mp member
  obtain ⟨entry, found_, same⟩ := Option.map_eq_some_iff.mp isEntry
  exact ⟨entry, List.mem_of_find?_eq_some found_, same⟩

theorem rangeCapsuleProblem_none (capsules : List EvidenceCapsule)
    (each : ∀ c ∈ capsules, ∃ year, Of key.provider key.policyVersion (key.hostname, year) c ∧ inScope key year = true)
    (seen : List Int) (apart : (capsules.map (·.year)).Nodup) (other : ∀ c ∈ capsules, c.year ∉ seen) :
    rangeCapsuleProblem key seen capsules = none := by
  induction capsules generalizing seen with
  | nil => rfl
  | cons c rest ih =>
    obtain ⟨year, of_, scope⟩ := each c List.mem_cons_self
    obtain ⟨new, later⟩ := List.nodup_cons.mp apart
    have unseen : seen.contains c.year = false := by simpa using other c List.mem_cons_self
    have inside : (!inScope key c.year) = false := by rw [of_.year, scope]; rfl
    rw [rangeCapsuleProblem, if_neg (not_not_intro of_.hostname), if_neg (not_not_intro of_.provider),
      if_neg (not_not_intro of_.policyVersion), inside, if_neg Bool.false_ne_true, unseen, if_neg Bool.false_ne_true]
    refine ih (fun d member => each d (List.mem_cons_of_mem _ member)) _ later fun d member => ?_
    rw [List.mem_cons, not_or]
    exact ⟨fun same => new (List.mem_map.mpr ⟨d, member, same⟩), other d (List.mem_cons_of_mem _ member)⟩

theorem makeRange_made {r : RangeFields} (valid : r.postInit = none) : makeRange r = .ok ⟨r, valid⟩ := by
  unfold makeRange
  split
  · rename_i message found
    rw [valid] at found
    cases found
  · rfl

/-- A result of several years can be made of what was found, with the missing years or none to follow up. -/
theorem range_made (several : key.yearFrom ≠ key.yearTo) (e : RangeEnd) (f : YearsFound key e.found) (state : QueryState)
    {followup : List Int} (isFollowup : followup = [] ∨ followup = missingYears key e.found) (error : Option String) :
    ∃ r, makeRange (rangeFields spent key e state followup error) = .ok r ∧ r.toRangeFields = rangeFields spent key e state followup error := by
  have checked := key_checked key
  have accounts := accounting_fine spent e.pagesSeen e.recordsSeen error
  have candidates : yearsProblem key "candidate" (yearsOf e.found) = none := by
    refine yearsProblem_none key (fun year member => ?_) (yearsOf_nodup f.apart)
    obtain ⟨entry, listed, rfl⟩ := List.mem_map.mp (mem_yearsOf.mp member)
    exact (f.each entry listed).2
  have missing : ∀ year ∈ missingYears key e.found, inScope key year = true ∧ year ∉ yearsOf e.found := by
    intro year member
    obtain ⟨expected, absent⟩ := List.mem_filter.mp member
    exact ⟨(mem_expectedYears key).mp expected, by simpa using absent⟩
  have followups : yearsProblem key "follow-up" followup = none := by
    rcases isFollowup with rfl | rfl
    · exact yearsProblem_none key nofun List.nodup_nil
    · exact yearsProblem_none key (fun year member => (missing year member).1) ((expectedYears_nodup key).filter _)
  have disjoint : (yearsOf e.found).any followup.contains = false := by
    rw [List.any_eq_false]
    intro year member
    rcases isFollowup with rfl | rfl
    · simp
    · simpa using fun bad => (missing year bad).2 member
  have capsules : rangeCapsuleProblem key [] (capsulesOf e.found) = none := by
    refine rangeCapsuleProblem_none key _ (fun c member => ?_) [] ?_ fun _ _ => List.not_mem_nil
    · obtain ⟨entry, listed, rfl⟩ := mem_capsulesOf member
      exact ⟨entry.1, f.each entry listed⟩
    · rw [capsulesOf_years key f]
      exact yearsOf_nodup f.apart
  have valid : (rangeFields spent key e state followup error).postInit = none := by
    unfold RangeFields.postInit rangeFields
    dsimp only
    rw [checked.official, accounts, candidates, followups, disjoint, capsules]
    simp [several]
  exact ⟨_, makeRange_made valid, rfl⟩

/-! ## A domain -/

theorem domainCapsuleProblem_none (capsules : List EvidenceCapsule)
    (each : ∀ c ∈ capsules, ∃ pair, Of key.provider key.policyVersion pair c ∧ inScope key pair.2 = true)
    (seen : List EvidenceStore.HostYear) (apart : (capsules.map fun c => (c.hostname, c.year)).Nodup) (other : ∀ c ∈ capsules, c.pair ∉ seen) :
    domainCapsuleProblem key seen capsules = none := by
  induction capsules generalizing seen with
  | nil => rfl
  | cons c rest ih =>
    obtain ⟨pair, of_, scope⟩ := each c List.mem_cons_self
    obtain ⟨new, later⟩ := List.nodup_cons.mp apart
    have unseen : seen.contains c.pair = false := by simpa using other c List.mem_cons_self
    have inside : (!inScope key c.year) = false := by rw [of_.year, scope]; rfl
    rw [domainCapsuleProblem, if_neg (not_not_intro of_.provider), if_neg (not_not_intro of_.policyVersion), inside,
      if_neg Bool.false_ne_true, unseen, if_neg Bool.false_ne_true]
    refine ih (fun d member => each d (List.mem_cons_of_mem _ member)) _ later fun d member => ?_
    rw [List.mem_cons, not_or]
    exact ⟨fun same => new (List.mem_map.mpr ⟨d, member, toLex_inj.mp same⟩), other d (List.mem_cons_of_mem _ member)⟩

theorem makeDomain_made {r : DomainFields} (valid : r.postInit = none) : makeDomain r = .ok ⟨r, valid⟩ := by
  unfold makeDomain
  split
  · rename_i message found
    rw [valid] at found
    cases found
  · rfl

theorem domain_made (several : key.yearFrom ≠ key.yearTo) (pagesSeen recordsSeen : Nat) {state : QueryState}
    (known : state = .decomposed ∨ state = .transientError ∨ state = .invalid) {found : ByHostYear} (apart : (found.map (·.1)).Nodup)
    (each : ∀ entry ∈ found, Of key.provider key.policyVersion entry.1 entry.2 ∧ inScope key entry.1.2 = true) (error : Option String) :
    ∃ r, makeDomain (domainFields spent key pagesSeen recordsSeen state (orderedCapsules found) error) = .ok r ∧
      r.toDomainFields = domainFields spent key pagesSeen recordsSeen state (orderedCapsules found) error := by
  have checked := key_checked key
  have accounts := accounting_fine spent pagesSeen recordsSeen error
  have capsules : domainCapsuleProblem key [] (orderedCapsules found) = none := by
    refine domainCapsuleProblem_none key _ (fun c member => ?_) [] ?_ fun _ _ => List.not_mem_nil
    · obtain ⟨entry, listed, rfl⟩ := mem_orderedCapsules member
      exact ⟨entry.1, each entry listed⟩
    · refine (orderedCapsules_pairs fun entry listed => ?_).nodup_iff.mpr apart
      rw [(each entry listed).1.hostname, (each entry listed).1.year]
  have valid : (domainFields spent key pagesSeen recordsSeen state (orderedCapsules found) error).postInit = none := by
    unfold DomainFields.postInit domainFields
    dsimp only
    rw [checked.official, accounts, capsules]
    rcases known with rfl | rfl | rfl <;> simp [several]
  exact ⟨_, makeDomain_made valid, rfl⟩

end Creeper.CdxResults
