import Creeper.SearchCredit

/-!
# Credit under a changing authority

`set_scout_authority`, `close_source_run`, `record_scout_measurement` and `reset_final_rewards`
by several processes on one registry. What a call reads before its transaction may be stale
when the transaction starts.
-/

namespace Creeper.CreditAuthority
open Creeper.Runs Creeper.Tables Creeper.PyNumbers Creeper.SourceRuns Creeper.SearchCredit
open Creeper.FabricModels (PyError blank)

/-! ## Processes -/

/-- What a process has read and goes on with. -/
inductive Phase
  | idle
  | installing (authority : Authority)
  | closing (key : RunKey)
  | finalizing (key : RunKey)
  | measuring (sourceKey : String) (measurement : ScoutMeasurement) (given : Option Authority)

structure State (Process : Type) where
  registry : Registry
  phase : Process → Phase

inductive Call
  | setScoutAuthority (authority : Authority)
  | closeSourceRun (key : RunKey)
  | recordScoutMeasurement (sourceKey : String) (measurement : ScoutMeasurement) (baselineSignature modelSignature : Option String)
  | resetFinalRewards

inductive Event (Process : Type)
  /-- A call up to its first transaction or read. -/
  | call (p : Process) (c : Call)
  /-- What follows; `exposure` is what the calls on the exposure of a run answer. -/
  | next (p : Process) (exposure : Except PyError Bool)
  | enter (entry : Entry)

/-- The end of a call, if this was it. -/
abbrev Outcome := Option (Except PyError Unit)

variable {Process : Type} [DecidableEq Process]

def State.goOn (s : State Process) (p : Process) (phase : Phase) : Outcome × State Process :=
  (none, { s with phase := Function.update s.phase p phase })

/-- The call of a process ends. -/
def State.end {α : Type} (s : State Process) (p : Process) (reply : Reply α) : Outcome × State Process :=
  (some (reply.1.map fun _ => ()), ⟨reply.2, Function.update s.phase p .idle⟩)

/-- The first read or transaction of a call. -/
def State.start (s : State Process) (p : Process) : Call → Outcome × State Process
  | .setScoutAuthority authority =>
    if blank authority.1 || blank authority.2 then
      s.end (α := Unit) p (.error (.valueError "scout authority signatures must be non-empty"), s.registry)
    else if s.registry.authority = some authority then s.end p (.ok false, s.registry)
    else s.goOn p (.installing authority)
  | .closeSourceRun key =>
    if s.registry.otherAuthority key then s.end p (.ok false, s.registry) else s.goOn p (.closing key)
  | .recordScoutMeasurement sourceKey measurement baselineSignature modelSignature =>
    if sourceKey ∉ s.registry.sources then
      s.end (α := Unit) p (.error (.keyError ("unknown source: " ++ sourceKey)), s.registry)
    else
      match together baselineSignature modelSignature with
      | .error err => s.end (α := Unit) p (.error err, s.registry)
      | .ok given => s.goOn p (.measuring sourceKey measurement given)
  | .resetFinalRewards => s.end p (resetFinalRewards maxZero s.registry)

/-- The next read or transaction of a process. -/
def State.proceed (s : State Process) (p : Process) (exposure : Except PyError Bool) : Outcome × State Process :=
  match s.phase p with
  | .idle => (none, s)
  | .installing authority => s.end p (.ok true, installAuthority maxZero s.registry authority)
  | .closing key =>
    match runAdmitted s.registry key exposure with
    | .ok true => s.goOn p (.finalizing key)
    | refused => s.end p (refused, s.registry)
  | .finalizing key => s.end p (closeRun maxZero s.registry key)
  | .measuring sourceKey measurement given => s.end p (measure maxZero s.registry sourceKey measurement given)

def step (s : State Process) : Event Process → Outcome × State Process
  | .call p c =>
    match s.phase p with
    | .idle => s.start p c
    | _ => (none, s)
  | .next p exposure => s.proceed p exposure
  | .enter entry => (some (enter s.registry entry).1, { s with registry := (enter s.registry entry).2 })

/-- Any number of processes on one registry. -/
def machine : Machine (State Process) (Event Process) Outcome where
  initial := ⟨.empty, fun _ => .idle⟩
  step := step

/-! ## The credit of an authority -/

/-- Only an authority earns credit: other signatures have none, and its final rewards come before proxies. -/
structure OnlyCurrent (s : Registry) (authority : Authority) : Prop where
  signed : ∀ r ∈ s.attributions.rows, r.rewardKind = .scoutProxy ∨ r.rewardKind = .final → r.creditedEed ≠ 0 →
    r.baselineSignature = some authority.1 ∧ r.modelSignature = some authority.2
  final : ∀ f ∈ s.finals.rows, f.signedBy authority = true → ∀ r ∈ s.attributions.rows, r.sourceKey = f.sourceKey →
    r.creditedEed = f.finalAcceptedEed

/-- The authority that is installed, if any, alone earns credit. -/
def CreditCurrent (s : Registry) : Prop := ∀ authority, s.authority = some authority → OnlyCurrent s authority

/-- An authority comes back to a final reward whose credit was taken back. -/
def Revives (s : Registry) (authority : Authority) : Prop :=
  (∃ current, s.authority = some current ∧ current ≠ authority) ∧
    ∃ f ∈ s.finals.rows, f.signedBy authority = true ∧ f.finalAcceptedEed ≠ 0 ∧ (s.attributions.get? f.sourceKey).isSome

/-- The runs of a source that a closing run adds up. -/
def Counted (key : RunKey) (r : RunRow) : Prop :=
  r.key.sourceKey = key.sourceKey ∧ r.key.authority = key.authority ∧ (r.closed = true ∨ r.key = key)

/-- A source has a row, or a proposal to make one from. -/
def Attributable (s : Registry) (sourceKey : String) : Prop :=
  (s.attributions.get? sourceKey).isSome ∨ (s.firstEpisode sourceKey).isSome

/-- A run closes with a reward after another authority was installed. -/
def PublishesLate (s : Registry) (key : RunKey) : Prop :=
  s.otherAuthority key = true ∧ (∃ run, s.runs.get? key = some run ∧ run.closable = true) ∧
    (∃ r ∈ s.runs.rows, Counted key r ∧ r.validation.finalAcceptedEed ≠ 0) ∧ Attributable s key.sourceKey

/-- The transaction of a step is on time. -/
def OnTime (s : State Process) : Event Process → Prop
  | .next p _ =>
    match s.phase p with
    | .installing authority => ¬Revives s.registry authority
    | .finalizing key => ¬PublishesLate s.registry key
    | _ => True
  | _ => True

/-- A history in which every transaction is on time. -/
def Timely (es : List (Event Process)) : Prop :=
  ∀ before e after, es = before ++ e :: after → OnTime (machine.final before) e

/-! ## Attribution -/

structure Carries (r : AttributionRow) (offer : Offer) : Prop where
  amount : r.creditedEed = offer.amount
  kind : r.rewardKind = offer.rewardKind
  baseline : r.baselineSignature = offer.baselineSignature
  model : r.modelSignature = offer.modelSignature

theorem carries_set (r : AttributionRow) (offer : Offer) : Carries (r.set offer) offer := ⟨rfl, rfl, rfl, rfl⟩

section
variable {s : Registry} {sourceKey : String} {offer : Offer}

theorem mem_attributed {r : AttributionRow} (member : r ∈ (attributeSearchReward maxZero s sourceKey offer).attributions.rows) :
    (r ∈ s.attributions.rows ∧ r.sourceKey ≠ sourceKey) ∨
      (r.sourceKey = sourceKey ∧ Attributable s sourceKey ∧ Carries r (s.superseded sourceKey offer)) := by
  unfold attributeSearchReward attributeOffer at member
  split at member
  · rename_i absent
    have apart := Table.get?_eq_none.mp absent
    split at member
    · exact .inl ⟨member, apart r member⟩
    · rename_i first
      rcases mem_insert member with rfl | stored
      · exact .inr ⟨rfl, .inr (by simp [first]), carries_set _ _⟩
      · exact .inl ⟨stored, apart r stored⟩
  · rename_i found
    obtain ⟨old, stored, ⟨here, rfl⟩ | ⟨other, rfl⟩⟩ := mem_update member
    · exact .inr ⟨of_decide_eq_true here, .inl (by simp [found]), carries_set _ _⟩
    · exact .inl ⟨stored, by simpa using other⟩

/-- A source with a row, or with a proposal to make one from, has its row set. -/
theorem attributed (has : Attributable s sourceKey) :
    ∃ r ∈ (attributeSearchReward maxZero s sourceKey offer).attributions.rows,
      r.sourceKey = sourceKey ∧ Carries r (s.superseded sourceKey offer) := by
  unfold attributeSearchReward attributeOffer
  cases found : s.attributions.get? sourceKey with
  | some row =>
    obtain ⟨stored, name⟩ := Table.get?_eq_some.mp found
    exact ⟨row.set (s.superseded sourceKey offer), List.mem_map.mpr ⟨row, stored, if_pos (decide_eq_true name)⟩, name,
      carries_set _ _⟩
  | none =>
    cases first : s.firstEpisode sourceKey with
    | none => simp [Attributable, found, first] at has
    | some episodeId =>
      refine ⟨AttributionRow.set ⟨sourceKey, episodeId, 0, .legacy, none, none⟩ (s.superseded sourceKey offer), ?_, rfl,
        carries_set _ _⟩
      dsimp only
      rw [Table.rows_insert found]
      exact List.mem_append_right _ List.mem_cons_self

theorem attributeSearchReward_apart (s : Registry) (sourceKey : String) (offer : Offer) :
    (attributeSearchReward maxZero s sourceKey offer).finals = s.finals ∧
      (attributeSearchReward maxZero s sourceKey offer).authority = s.authority ∧
      (attributeSearchReward maxZero s sourceKey offer).runs = s.runs := by
  unfold attributeSearchReward attributeOffer
  split
  · split
    · exact ⟨rfl, rfl, rfl⟩
    · exact ⟨rfl, rfl, rfl⟩
  · exact ⟨rfl, rfl, rfl⟩

theorem superseded_current {f : FinalRow} (stored : f ∈ s.finals.rows) (current : s.authority.all f.signedBy = true) :
    s.superseded f.sourceKey offer = f.offer := by
  unfold Registry.superseded Registry.currentFinal
  rw [Table.get?_mem stored, Option.filter_some, if_pos current]

/-- Otherwise it is set to what is offered. -/
theorem superseded_cases (s : Registry) (sourceKey : String) (offer : Offer) :
    s.superseded sourceKey offer = offer ∨ ∃ f ∈ s.finals.rows, f.sourceKey = sourceKey ∧ s.authority.all f.signedBy = true ∧
      s.superseded sourceKey offer = f.offer := by
  unfold Registry.superseded
  cases found : s.currentFinal sourceKey with
  | none => exact .inl rfl
  | some f =>
    obtain ⟨stored, current⟩ := Option.filter_eq_some_iff.mp found
    exact .inr ⟨f, Table.mem_of_get? stored, Table.get?_key stored, current, rfl⟩

end

/-! ## What holds whatever the order -/

structure Inv (s : Registry) : Prop where
  sound : Sound s.runs
  kinds : ∀ r ∈ s.attributions.rows, r.rewardKind ≠ .legacy
  invalidated : ∀ r ∈ s.attributions.rows, r.rewardKind = .invalidatedFinal → r.creditedEed = 0
  /-- Before the first authority, final rewards are what their sources are set to. -/
  agreed : s.authority = none → ∀ f ∈ s.finals.rows, ∀ r ∈ s.attributions.rows, r.sourceKey = f.sourceKey → Carries r f.offer

section
variable {s u : Registry} {sourceKey : String} {offer : Offer}

/-- Tables beside the attribution rows have changed for one source. -/
structure Beside (s u : Registry) (sourceKey : String) : Prop where
  rows : u.attributions = s.attributions
  authority : u.authority = s.authority
  finals : ∀ f ∈ u.finals.rows, f.sourceKey = sourceKey ∨ f ∈ s.finals.rows

theorem inv_attribute (inv : Inv s) (beside : Beside s u sourceKey) (sound : Sound u.runs)
    (kind : offer.rewardKind = .scoutProxy ∨ offer.rewardKind = .final) : Inv (attributeSearchReward maxZero u sourceKey offer) := by
  obtain ⟨sameFinals, sameAuthority, sameRuns⟩ := attributeSearchReward_apart u sourceKey offer
  have named : ∀ r, Carries r (u.superseded sourceKey offer) → r.rewardKind = .scoutProxy ∨ r.rewardKind = .final := by
    intro r carries
    rw [carries.kind]
    rcases superseded_cases u sourceKey offer with same | ⟨f, -, -, -, same⟩
    · rwa [same]
    · rw [same]
      exact .inr rfl
  refine ⟨sameRuns.symm ▸ sound, fun r member => ?_, fun r member invalid => ?_, fun none_ f stored r member same => ?_⟩
  · obtain ⟨old, -⟩ | ⟨-, -, carries⟩ := mem_attributed member
    · exact inv.kinds r (beside.rows ▸ old)
    · rcases named r carries with kind | kind <;> simp [kind]
  · obtain ⟨old, -⟩ | ⟨-, -, carries⟩ := mem_attributed member
    · exact inv.invalidated r (beside.rows ▸ old) invalid
    · rcases named r carries with kind | kind <;> simp [kind] at invalid
  · rw [sameAuthority] at none_
    rw [sameFinals] at stored
    obtain ⟨old, apart⟩ | ⟨here, -, carries⟩ := mem_attributed member
    · obtain name | before := beside.finals f stored
      · exact absurd (same.trans name) apart
      · exact inv.agreed (beside.authority ▸ none_) f before r (beside.rows ▸ old) same
    · have current : u.superseded f.sourceKey offer = f.offer := superseded_current stored (by rw [none_]; rfl)
      rw [← here, same, current] at carries
      exact carries

/-- Attribution keeps credit with the authority, except for an offer that another signed and that is taken. -/
theorem current_attribute (holds : CreditCurrent s) (beside : Beside s u sourceKey)
    (kind : offer.rewardKind = .scoutProxy ∨ offer.rewardKind = .final) :
    CreditCurrent (attributeSearchReward maxZero u sourceKey offer) ↔
      ∀ a, s.authority = some a → u.superseded sourceKey offer = offer → offer.amount ≠ 0 → Attributable u sourceKey →
        offer.baselineSignature = some a.1 ∧ offer.modelSignature = some a.2 := by
  obtain ⟨sameFinals, sameAuthority, -⟩ := attributeSearchReward_apart u sourceKey offer
  constructor
  · intro after a installed taken amount has
    obtain ⟨r, member, -, carries⟩ := @attributed _ _ offer has
    rw [taken] at carries
    have signed := (after a (by rw [sameAuthority, beside.authority, installed])).signed r member (carries.kind ▸ kind)
      (carries.amount ▸ amount)
    rwa [carries.baseline, carries.model] at signed
  · intro signed a installed
    rw [sameAuthority, beside.authority] at installed
    have before := holds a installed
    refine ⟨fun r member earns amount => ?_, fun f stored by_ r member same => ?_⟩
    · obtain ⟨old, -⟩ | ⟨-, has, carries⟩ := mem_attributed member
      · exact before.signed r (beside.rows ▸ old) earns amount
      · rw [carries.baseline, carries.model]
        rcases superseded_cases u sourceKey offer with taken | ⟨f, -, -, current, final⟩
        · rw [taken] at carries ⊢
          exact signed a installed taken (carries.amount ▸ amount) has
        · rw [final]
          rw [beside.authority, installed] at current
          simpa [FinalRow.signedBy, FinalRow.offer] using current
    · rw [sameFinals] at stored
      obtain ⟨old, apart⟩ | ⟨here, -, carries⟩ := mem_attributed member
      · obtain name | earlier := beside.finals f stored
        · exact absurd (same.trans name) apart
        · exact before.final f earlier by_ r (beside.rows ▸ old) same
      · have current : u.superseded f.sourceKey offer = f.offer :=
          superseded_current stored (by rw [beside.authority, installed]; exact by_)
        rw [← here, same, current] at carries
        exact carries.amount

end

section
variable {s : Registry} (inv : Inv s) (holds : CreditCurrent s)

/-! ## Transactions -/

section
include inv

theorem inv_measure (sourceKey : String) (measurement : ScoutMeasurement) (given : Option Authority) :
    Inv (measure maxZero s sourceKey measurement given).2 := by
  unfold SearchCredit.measure
  dsimp only
  split
  · exact inv
  · split
    · exact inv_attribute inv ⟨rfl, rfl, fun _ stored => .inr stored⟩ inv.sound (.inl rfl)
    · split
      · exact inv
      · exact ⟨inv.sound, inv.kinds, inv.invalidated, inv.agreed⟩

omit inv in
include holds in
theorem current_measure (sourceKey : String) (measurement : ScoutMeasurement) (given : Option Authority) :
    CreditCurrent (measure maxZero s sourceKey measurement given).2 := by
  unfold SearchCredit.measure
  dsimp only
  split
  · exact holds
  · split
    · rename_i eligible
      refine (current_attribute (u := storeMetrics s sourceKey measurement (given.or s.authority)) holds
        ⟨rfl, rfl, fun _ stored => .inr stored⟩ ?_).mpr fun a installed _ _ _ => ?_
      · exact .inl rfl
      have same : given.or s.authority = some a := by
        rcases (Bool.or_eq_true _ _).mp eligible with none_ | same
        · simp [installed] at none_
        · exact (of_decide_eq_true same).trans installed
      simp [same]
    · split
      · exact holds
      · exact fun a installed => ⟨(holds a installed).signed, (holds a installed).final⟩

theorem inv_reset : Inv (resetFinalRewards maxZero s).2 := by
  refine ⟨inv.sound, fun r member => ?_, fun r member invalid => ?_, fun _ f stored => nomatch stored⟩
  · obtain ⟨old, stored, ⟨-, rfl⟩ | ⟨-, rfl⟩⟩ := mem_update member
    · simp
    · exact inv.kinds r stored
  · obtain ⟨old, stored, ⟨-, rfl⟩ | ⟨-, rfl⟩⟩ := mem_update member
    · rfl
    · exact inv.invalidated r stored invalid

omit inv in
include holds in
theorem current_reset : CreditCurrent (resetFinalRewards maxZero s).2 := by
  intro a installed
  refine ⟨fun r member earns amount => ?_, fun f stored => nomatch stored⟩
  obtain ⟨old, stored, ⟨-, rfl⟩ | ⟨-, rfl⟩⟩ := mem_update member
  · exact absurd rfl amount
  · exact (holds a installed).signed r stored earns amount

/-! ### Authorities -/

theorem inv_install (authority : Authority) : Inv (installAuthority maxZero s authority) := by
  refine ⟨inv.sound, fun r member => ?_, fun r member invalid => ?_, fun none_ => nomatch none_⟩
  · obtain ⟨old, stored, ⟨-, rfl⟩ | ⟨-, rfl⟩⟩ := mem_update member
    · exact inv.kinds old stored
    · exact inv.kinds r stored
  · obtain ⟨old, stored, ⟨-, rfl⟩ | ⟨-, rfl⟩⟩ := mem_update member
    · rfl
    · exact inv.invalidated r stored invalid

end

theorem signed_of_fresh {authority : Authority} (named : authority.1 ≠ "" ∧ authority.2 ≠ "") {r : AttributionRow}
    (earns : r.rewardKind = .scoutProxy ∨ r.rewardKind = .final) (fresh : s.stale authority r = false) :
    r.baselineSignature = some authority.1 ∧ r.modelSignature = some authority.2 := by
  have same : r.rewardKind = .scoutProxy ∨ r.rewardKind = .final →
      r.baselineSignature.getD "" = authority.1 ∧ r.modelSignature.getD "" = authority.2 := by
    simpa [Registry.stale] using (Bool.or_eq_false_iff.mp fresh).1
  obtain ⟨baseline, model⟩ := same earns
  constructor
  · cases given : r.baselineSignature with
    | none => exact absurd (by simpa [given] using baseline.symm) named.1
    | some text => simpa [given] using baseline
  · cases given : r.modelSignature with
    | none => exact absurd (by simpa [given] using model.symm) named.2
    | some text => simpa [given] using model

theorem fresh_of_signed {authority : Authority} {r : AttributionRow} (kind : r.rewardKind ≠ .legacy)
    (signed : r.baselineSignature = some authority.1 ∧ r.modelSignature = some authority.2) : s.stale authority r = false := by
  simp [Registry.stale, signed, kind]

include inv

theorem earns_of_amount {r : AttributionRow} (stored : r ∈ s.attributions.rows) (amount : r.creditedEed ≠ 0) :
    r.rewardKind = .scoutProxy ∨ r.rewardKind = .final := by
  cases kind : r.rewardKind with
  | legacy => exact absurd kind (inv.kinds r stored)
  | scoutProxy => exact .inl rfl
  | final => exact .inr rfl
  | invalidatedFinal => exact absurd (inv.invalidated r stored kind) amount

include holds

theorem replaced_empty {authority current : Authority} (named : authority.1 ≠ "" ∧ authority.2 ≠ "")
    (installed : s.authority = some current) (other : current ≠ authority) {r : AttributionRow}
    (member : r ∈ (installAuthority maxZero s authority).attributions.rows) : r.creditedEed = 0 := by
  obtain ⟨old, stored, ⟨-, rfl⟩ | ⟨fresh, rfl⟩⟩ := mem_update member
  · rfl
  · by_contra amount
    have earns := earns_of_amount inv stored amount
    obtain ⟨baseline, model⟩ := signed_of_fresh named earns fresh
    obtain ⟨baseline', model'⟩ := (holds current installed).signed r stored earns amount
    refine other (Prod.ext ?_ ?_)
    · rw [baseline] at baseline'
      exact (Option.some.inj baseline').symm
    · rw [model] at model'
      exact (Option.some.inj model').symm

theorem current_install {authority : Authority} (named : authority.1 ≠ "" ∧ authority.2 ≠ "") :
    CreditCurrent (installAuthority maxZero s authority) ↔ ¬Revives s authority := by
  constructor
  · rintro after ⟨⟨current, installed, other⟩, f, stored, by_, amount, has⟩
    obtain ⟨r, found⟩ := Option.isSome_iff_exists.mp has
    obtain ⟨row, name⟩ := Table.get?_eq_some.mp found
    have kept : ∃ r' ∈ (installAuthority maxZero s authority).attributions.rows, r'.sourceKey = f.sourceKey := by
      refine ⟨_, List.mem_map.mpr ⟨r, row, rfl⟩, ?_⟩
      split
      · exact name
      · exact name
    obtain ⟨r', member, same⟩ := kept
    have credit := (after authority rfl).final f stored by_ r' member same
    rw [replaced_empty inv holds named installed other member] at credit
    exact amount credit.symm
  · rintro safe a installed
    obtain rfl : authority = a := Option.some.inj installed
    refine ⟨fun r member earns amount => ?_, fun f stored by_ r member same => ?_⟩
    · obtain ⟨old, stored, ⟨-, rfl⟩ | ⟨fresh, rfl⟩⟩ := mem_update member
      · exact absurd rfl amount
      · exact signed_of_fresh named earns fresh
    · have signs : f.baselineSignature = some authority.1 ∧ f.modelSignature = some authority.2 := by
        simpa [FinalRow.signedBy] using by_
      cases before : s.authority with
      | none =>
        -- the row follows the final reward, so it is not stale
        obtain ⟨old, stored', ⟨stale, rfl⟩ | ⟨-, rfl⟩⟩ := mem_update member
        · have carries := inv.agreed before f stored old stored' same
          have fresh : s.stale authority old = false := fresh_of_signed (by simp [carries.kind, FinalRow.offer])
            ⟨carries.baseline.trans signs.1, carries.model.trans signs.2⟩
          rw [fresh] at stale
          cases stale
        · exact (inv.agreed before f stored r stored' same).amount
      | some current =>
        by_cases replaced : current = authority
        · subst replaced
          have old := holds current before
          obtain ⟨r, stored', ⟨stale, rfl⟩ | ⟨-, rfl⟩⟩ := mem_update member
          · by_contra amount
            have credit := old.final f stored by_ r stored' same
            have earned : r.creditedEed ≠ 0 := by
              rw [credit]
              exact fun zero => amount zero.symm
            have signed := old.signed r stored' (earns_of_amount inv stored' earned) earned
            rw [fresh_of_signed (inv.kinds r stored') signed] at stale
            cases stale
          · exact old.final f stored by_ r stored' same
        · rw [replaced_empty inv holds named before replaced member]
          by_contra amount
          refine safe ⟨⟨current, before, replaced⟩, f, stored, by_, fun zero => amount zero.symm, ?_⟩
          have row : ∃ old ∈ s.attributions.rows, old.sourceKey = f.sourceKey := by
            obtain ⟨old, stored', ⟨-, rfl⟩ | ⟨-, rfl⟩⟩ := mem_update member
            · exact ⟨old, stored', same⟩
            · exact ⟨r, stored', same⟩
          obtain ⟨old, stored', name⟩ := row
          rw [← name, Table.get?_mem stored']
          rfl

end

/-! ### Closing -/

section
variable {s : Registry} (inv : Inv s) {key : RunKey}

theorem mem_closedRuns {amount : ℚ} :
    (∃ r ∈ closedRuns (markClosed s.runs key) key.sourceKey key.authority, r.validation.finalAcceptedEed = amount) ↔
      ∃ r ∈ s.runs.rows, Counted key r ∧ r.validation.finalAcceptedEed = amount := by
  constructor
  · rintro ⟨r, member, same⟩
    obtain ⟨inside, counted⟩ := List.mem_filter.mp member
    simp only [Bool.and_eq_true, decide_eq_true_eq] at counted
    obtain ⟨old, stored, ⟨here, rfl⟩ | ⟨-, rfl⟩⟩ := mem_update inside
    · exact ⟨old, stored, ⟨counted.1.1, counted.1.2, .inr (of_decide_eq_true here)⟩, same⟩
    · exact ⟨r, stored, ⟨counted.1.1, counted.1.2, .inl counted.2⟩, same⟩
  · rintro ⟨r, stored, ⟨source, authority, closed⟩, same⟩
    refine ⟨_, List.mem_filter.mpr ⟨List.mem_map.mpr ⟨r, stored, rfl⟩, ?_⟩, ?_⟩
    · by_cases here : r.key = key
      · simp [here]
      · have before := closed.resolve_right here
        simp [here, source, authority, before]
    · split
      · exact same
      · exact same

/-- What `close_source_run` publishes for a run. -/
def published (s : Registry) (key : RunKey) : FinalRow :=
  aggregate (closedRuns (markClosed s.runs key) key.sourceKey key.authority) key.sourceKey key.authority

/-- The registry when its credit is attributed. -/
def stored (s : Registry) (key : RunKey) : Registry := storeFinal { s with runs := markClosed s.runs key } (published s key)

theorem closeRun_eq {run : RunRow} (found : s.runs.get? key = some run) (closable : run.closable = true) :
    (closeRun maxZero s key).2 = attributeSearchReward maxZero (stored s key) key.sourceKey (published s key).offer := by
  obtain ⟨r, member, -⟩ := mem_closedRuns.mpr
    ⟨run, Table.mem_of_get? found, ⟨congrArg _ (Table.get?_key found), congrArg _ (Table.get?_key found),
      .inr (Table.get?_key found)⟩, rfl⟩
  have counts : ¬(published s key).closedRuns < 1 := Nat.not_lt.mpr (List.length_pos_of_mem member)
  simp only [closeRun, found, closable, Bool.not_true, Bool.false_eq_true, if_false, publishSourceAggregate]
  exact if_neg counts

theorem mem_storeFinal {row f : FinalRow} (member : f ∈ (storeFinal s row).finals.rows) :
    f = row ∨ f ∈ s.finals.rows ∧ f.sourceKey ≠ row.sourceKey := by
  have found := Table.get?_mem member
  rw [storeFinal, Table.get?_upsert] at found
  split at found
  · rename_i same
    refine .inl ((Option.some.inj found).symm.trans ?_)
    cases before : s.finals.get? f.sourceKey with
    | none => rfl
    | some old =>
      have name := Table.get?_key before
      simp [name, same]
  · rename_i apart
    exact .inr ⟨Table.mem_of_get? found, apart⟩

theorem storeFinal_mem (s : Registry) (row : FinalRow) : row ∈ (storeFinal s row).finals.rows := by
  have found : (storeFinal s row).finals.get? row.sourceKey = some row := by
    rw [storeFinal, Table.get?_upsert, if_pos rfl]
    cases before : s.finals.get? row.sourceKey with
    | none => rfl
    | some old =>
      have name := Table.get?_key before
      simp [name]
  exact Table.mem_of_get? found

theorem beside_stored (s : Registry) (key : RunKey) : Beside s (stored s key) key.sourceKey := by
  refine ⟨rfl, rfl, fun f member => ?_⟩
  rcases mem_storeFinal member with rfl | ⟨stored, -⟩
  · exact .inl rfl
  · exact .inr stored

include inv in
theorem published_amount :
    (published s key).offer.amount ≠ 0 ↔ ∃ r ∈ s.runs.rows, Counted key r ∧ r.validation.finalAcceptedEed ≠ 0 := by
  constructor
  · intro amount
    by_contra none_
    refine amount (List.sum_eq_zero fun eed member => ?_)
    obtain ⟨r, inside, rfl⟩ := List.mem_map.mp member
    obtain ⟨old, stored, counted, same⟩ := mem_closedRuns.mp ⟨r, inside, rfl⟩
    by_contra nonzero
    exact none_ ⟨old, stored, counted, same ▸ nonzero⟩
  · rintro ⟨r, stored, counted, nonzero⟩ zero
    obtain ⟨r', inside, same⟩ := mem_closedRuns.mpr ⟨r, stored, counted, rfl⟩
    refine nonzero (same.symm.trans ?_)
    refine List.all_zero_of_le_zero_le_of_sum_eq_zero (fun eed member => ?_) zero (List.mem_map.mpr ⟨r', inside, rfl⟩)
    obtain ⟨u, counts, rfl⟩ := List.mem_map.mp member
    exact (sound_closed inv.sound key u (List.mem_of_mem_filter counts)).1

include inv in
theorem inv_closeRun (key : RunKey) : Inv (closeRun maxZero s key).2 := by
  cases found : s.runs.get? key with
  | none => simpa only [closeRun, found] using inv
  | some run =>
    cases closable : run.closable with
    | false => simpa [closeRun, found, closable] using inv
    | true =>
      rw [closeRun_eq found closable]
      exact inv_attribute inv (beside_stored s key) (sound_closed inv.sound key) (.inr rfl)

include inv in
theorem current_closeRun (holds : CreditCurrent s) (key : RunKey) : CreditCurrent (closeRun maxZero s key).2 ↔ ¬PublishesLate s key := by
  cases found : s.runs.get? key with
  | none =>
    simp only [closeRun, found]
    exact iff_of_true holds fun late => by simp [PublishesLate, found] at late
  | some run =>
    cases closable : run.closable with
    | false =>
      simp only [closeRun, found, closable, Bool.not_false, if_true]
      exact iff_of_true holds fun late => by simp [PublishesLate, found, closable] at late
    | true =>
      rw [closeRun_eq found closable, current_attribute holds (beside_stored s key) (.inr rfl)]
      constructor
      · rintro signed ⟨other, -, reward, has⟩
        obtain ⟨a, installed, apart⟩ : ∃ a, s.authority = some a ∧ a ≠ key.authority := by
          simpa [Registry.otherAuthority, Option.any_eq_true] using other
        have taken : (stored s key).superseded key.sourceKey (published s key).offer = (published s key).offer := by
          rcases superseded_cases (stored s key) key.sourceKey (published s key).offer with same | ⟨f, member, name, -, same⟩
          · exact same
          · rcases mem_storeFinal member with rfl | ⟨-, elsewhere⟩
            · exact same
            · exact absurd name elsewhere
        obtain ⟨baseline, model⟩ := signed a installed taken ((published_amount inv).mpr reward) has
        exact apart (Prod.ext (Option.some.inj baseline).symm (Option.some.inj model).symm)
      · intro safe a installed _ amount has
        have same : a = key.authority := by
          by_contra apart
          refine safe ⟨?_, ⟨run, found, closable⟩, (published_amount inv).mp amount, has⟩
          simpa [Registry.otherAuthority, installed] using apart
        exact ⟨same ▸ rfl, same ▸ rfl⟩

end

/-! ## Runs -/

theorem inv_enter {s : Registry} (inv : Inv s) (entry : Entry) : Inv (enter s entry).2 := by
  obtain ⟨attributions, finals, authority⟩ := enter_apart s entry
  refine ⟨enter_sound inv.sound entry, ?_, ?_, ?_⟩
  · rw [attributions]
    exact inv.kinds
  · rw [attributions]
    exact inv.invalidated
  · rw [attributions, finals, authority]
    exact inv.agreed

theorem current_enter {s : Registry} (holds : CreditCurrent s) (entry : Entry) : CreditCurrent (enter s entry).2 := by
  obtain ⟨attributions, finals, authority⟩ := enter_apart s entry
  intro a installed
  rw [authority] at installed
  refine ⟨?_, ?_⟩
  · rw [attributions]
    exact (holds a installed).signed
  · rw [attributions, finals]
    exact (holds a installed).final

/-- Signatures on their way are not empty. -/
def Named (s : State Process) : Prop :=
  ∀ p authority, s.phase p = .installing authority → authority.1 ≠ "" ∧ authority.2 ≠ ""

theorem start_registry (s : State Process) (p : Process) (c : Call) :
    (s.start p c).2.registry = s.registry ∨ (s.start p c).2.registry = (resetFinalRewards maxZero s.registry).2 := by
  cases c with
  | setScoutAuthority authority =>
    simp only [State.start]
    split
    · exact .inl rfl
    · split <;> exact .inl rfl
  | closeSourceRun key =>
    simp only [State.start]
    split <;> exact .inl rfl
  | recordScoutMeasurement sourceKey measurement baselineSignature modelSignature =>
    simp only [State.start]
    split
    · exact .inl rfl
    · split <;> exact .inl rfl
  | resetFinalRewards => exact .inr rfl

section
variable {s : State Process}

theorem inv_step (inv : Inv s.registry) (e : Event Process) : Inv (step s e).2.registry := by
  cases e with
  | call p c =>
    simp only [step]
    split
    · rcases start_registry s p c with same | reset
      · rw [same]
        exact inv
      · rw [reset]
        exact inv_reset inv
    · exact inv
  | next p exposure =>
    simp only [step, State.proceed]
    split
    · exact inv
    · exact inv_install inv _
    · split <;> exact inv
    · exact inv_closeRun inv _
    · exact inv_measure inv _ _ _
  | enter entry => exact inv_enter inv entry

theorem named_update (named : Named s) (registry : Registry) (p : Process) {phase : Phase}
    (given : ∀ authority, phase = .installing authority → authority.1 ≠ "" ∧ authority.2 ≠ "") :
    Named ⟨registry, Function.update s.phase p phase⟩ := by
  intro q authority at_
  by_cases here : q = p
  · subst here
    exact given authority (by simpa using at_)
  · exact named q authority (by simpa [here] using at_)

theorem named_step (named : Named s) (e : Event Process) : Named (step s e).2 := by
  have ended {α : Type} (p : Process) (reply : Reply α) : Named (s.end p reply).2 :=
    named_update named _ p fun _ installing => nomatch installing
  cases e with
  | call p c =>
    simp only [step]
    split
    · cases c with
      | setScoutAuthority authority =>
        simp only [State.start]
        split
        · exact ended p _
        · rename_i filled
          split
          · exact ended p _
          · refine named_update named _ p fun a installing => ?_
            obtain rfl := Phase.installing.inj installing
            simp only [Bool.or_eq_true, not_or] at filled
            exact ⟨fun empty => filled.1 (by rw [empty]; rfl), fun empty => filled.2 (by rw [empty]; rfl)⟩
      | closeSourceRun key =>
        simp only [State.start]
        split
        · exact ended p _
        · exact named_update named _ p fun _ installing => nomatch installing
      | recordScoutMeasurement sourceKey measurement baselineSignature modelSignature =>
        simp only [State.start]
        split
        · exact ended p _
        · split
          · exact ended p _
          · exact named_update named _ p fun _ installing => nomatch installing
      | resetFinalRewards => exact ended p _
    · exact named
  | next p exposure =>
    simp only [step, State.proceed]
    split
    · exact named
    · exact ended p _
    · split
      · exact named_update named _ p fun _ installing => nomatch installing
      · exact ended p _
    · exact ended p _
    · exact ended p _
  | enter entry => exact named

theorem current_step (inv : Inv s.registry) (named : Named s) (holds : CreditCurrent s.registry) (e : Event Process) :
    CreditCurrent (step s e).2.registry ↔ OnTime s e := by
  cases e with
  | call p c =>
    refine iff_of_true ?_ trivial
    simp only [step]
    split
    · rcases start_registry s p c with same | reset
      · rw [same]
        exact holds
      · rw [reset]
        exact current_reset holds
    · exact holds
  | next p exposure =>
    simp only [step, State.proceed, OnTime]
    cases phase : s.phase p with
    | idle => exact iff_of_true holds trivial
    | installing authority => exact current_install inv holds (named p authority phase)
    | closing key =>
      refine iff_of_true ?_ trivial
      dsimp only
      split <;> exact holds
    | finalizing key => exact current_closeRun inv holds key
    | measuring sourceKey measurement given => exact iff_of_true (current_measure holds _ _ _) trivial
  | enter entry => exact iff_of_true (current_enter holds entry) trivial

end

theorem run_inv (es : List (Event Process)) : Inv (machine.final es).registry :=
  machine.invariant (I := fun s => Inv s.registry)
    ⟨fun _ member => (nomatch member), fun _ member => (nomatch member), fun _ member => (nomatch member),
      fun _ _ member => (nomatch member)⟩ (fun _ e inv => inv_step inv e) es

theorem run_named (es : List (Event Process)) : Named (machine.final es) :=
  machine.invariant (I := Named) (fun _ _ installing => nomatch installing) (fun _ e named => named_step named e) es

/-- Only the current authority earns credit throughout a history exactly when every transaction in it is on time. -/
theorem credit_current_iff (es : List (Event Process)) :
    (∀ before after, es = before ++ after → CreditCurrent (machine.final before).registry) ↔ Timely es := by
  constructor
  · rintro current before e after rfl
    have earlier := current before (e :: after) rfl
    have later := current (before ++ [e]) after (by simp)
    rw [Machine.final_snoc] at later
    exact (current_step (run_inv before) (run_named before) earlier e).mp later
  · intro timely
    have every : ∀ before after, es = before ++ after → CreditCurrent (machine.final before).registry := by
      intro before
      induction before using List.reverseRecOn with
      | nil => exact fun _ _ _ installed => nomatch installed
      | append_singleton before e ih =>
        intro after split
        have earlier := ih (e :: after) (by simp [split])
        rw [Machine.final_snoc]
        exact (current_step (run_inv before) (run_named before) earlier e).mpr (timely before e after (by simp [split]))
    exact every

/-! ## Two histories -/

/-- A run under the first authority. -/
def sampleRun : RunKey := ⟨"source", "reservoir", "lease", "baseline A", "model"⟩

/-- The run is read and validated with a reward. -/
def sampleEntries : List (Event Bool) :=
  [.enter (.beginSearchEpisode 1 "strategy" "backend" "query" "actor" "episode"),
    .enter (.registerProposal 2 "source" (some "episode") "proposal"),
    .enter (.writeRun (.begin sampleRun "exposure" none)),
    .enter (.writeRun (.read 3 sampleRun ⟨0, 0, 0, 0, 0⟩ none true)),
    .enter (.writeRun (.validation sampleRun ⟨0, 0, 0, 0, 0, 0, 5, 0, true⟩))]

/-- Another process installs an authority before the transaction that closes the run. -/
def lateClose : List (Event Bool) := sampleEntries ++
  [.call false (.closeSourceRun sampleRun), .next false (.ok true), .call true (.setScoutAuthority ("baseline B", "model")),
    .next true (.ok true), .next false (.ok true)]

/-- The authority of the run goes and comes back. -/
def comeback : List (Event Bool) := sampleEntries ++
  [.call false (.closeSourceRun sampleRun), .next false (.ok true), .next false (.ok true),
    .call false (.setScoutAuthority ("baseline A", "model")), .next false (.ok true),
    .call false (.setScoutAuthority ("baseline B", "model")), .next false (.ok true),
    .call false (.setScoutAuthority ("baseline A", "model")), .next false (.ok true)]

/-- A late transaction earns for the authority before, and one that comes back has lost its reward. -/
theorem authority_credit_lost : ¬CreditCurrent (machine.final lateClose).registry ∧ ¬CreditCurrent (machine.final comeback).registry := by
  constructor
  · intro current
    have signed := (current ("baseline B", "model") (by decide +kernel)).signed
      ⟨"source", "episode", 5, .final, some "baseline A", some "model"⟩ (by decide +kernel) (.inr rfl) (by decide +kernel)
    exact absurd signed.1 (by decide)
  · intro current
    have final := (current ("baseline A", "model") (by decide +kernel)).final
      ⟨"source", 5, 0, some "baseline A", some "model", 1, 0⟩ (by decide +kernel) (by decide +kernel)
      ⟨"source", "episode", 0, .final, some "baseline A", some "model"⟩ (by decide +kernel) rfl
    exact absurd final (by decide +kernel)

end Creeper.CreditAuthority
