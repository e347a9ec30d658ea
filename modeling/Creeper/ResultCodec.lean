import Creeper.EvidenceBridge

/-!
# The codec of distributed results

A worker writes the result of a provider as JSON, and the bridge reads it back. Every result
with a key is read as it was, and what was read once is written and read the same.
-/

namespace Creeper.ResultCodec
open Creeper.PyText Creeper.JsonText Creeper.EvidenceTasks Creeper.EvidenceBridge Creeper.ResultCommit
open Creeper.EvidenceStore (EvidenceCapsule)
open Creeper.BatchPayload (member charsOf asItems)

/-! ## Dicts -/

theorem find?_setMember (key : PyStr) (value : Json) (members : List (PyStr × Json)) (k : PyStr) :
    (setMember key value members).find? (·.1 = k) = if key = k then some (key, value) else members.find? (·.1 = k) := by
  induction members with
  | nil => by_cases same : key = k <;> simp [setMember, same]
  | cons p rest ih =>
    obtain ⟨name, v⟩ := p
    unfold setMember
    by_cases first : before key name
    · rw [if_pos first]
      by_cases same : key = k <;> simp [same]
    rw [if_neg first]
    by_cases hit : key = name
    · subst hit
      by_cases same : key = k <;> simp [List.find?_cons, same]
    · rw [if_neg hit, List.find?_cons, ih]
      by_cases here : name = k
      · subst here
        simp [hit]
      · simp [here]

theorem mem_setMember {key : PyStr} {value : Json} {members : List (PyStr × Json)} {q : PyStr × Json}
    (member : q ∈ setMember key value members) : q = (key, value) ∨ q ∈ members := by
  induction members with
  | nil => simpa [setMember] using member
  | cons p rest ih =>
    obtain ⟨name, v⟩ := p
    unfold setMember at member
    split_ifs at member with first hit
    · simpa using member
    · rcases List.mem_cons.mp member with rfl | inside
      · exact .inl rfl
      · exact .inr (List.mem_cons_of_mem _ inside)
    · rcases List.mem_cons.mp member with rfl | inside
      · exact .inr List.mem_cons_self
      · exact (ih inside).imp id (List.mem_cons_of_mem _)

theorem setMember_rise {key : PyStr} {value : Json} {members : List (PyStr × Json)} (rise : KeysRise members) :
    KeysRise (setMember key value members) := by
  induction members with
  | nil => exact List.pairwise_singleton _ _
  | cons p rest ih =>
    obtain ⟨name, v⟩ := p
    obtain ⟨above, rest_⟩ := List.pairwise_cons.mp rise
    unfold setMember
    by_cases first : before key name
    · rw [if_pos first]
      refine List.pairwise_cons.mpr ⟨fun q member => ?_, rise⟩
      rcases List.mem_cons.mp member with rfl | inside
      · exact first
      · exact before_trans first (above q inside)
    rw [if_neg first]
    by_cases hit : key = name
    · subst hit
      rw [if_pos rfl]
      exact List.pairwise_cons.mpr ⟨above, rest_⟩
    · rw [if_neg hit]
      refine List.pairwise_cons.mpr ⟨fun q member => ?_, ih rest_⟩
      rcases mem_setMember member with rfl | inside
      · by_contra below
        exact hit (before_total (by simpa using first) (by simpa using below))
      · exact above q inside

theorem orderedMembers_iff {members : List (PyStr × Json)} : OrderedMembers members ↔ ∀ q ∈ members, Ordered q.2 := by
  induction members with
  | nil => simp [OrderedMembers]
  | cons q rest ih => simp [OrderedMembers, ih]

theorem orderedItems_iff {items : List Json} : OrderedItems items ↔ ∀ v ∈ items, Ordered v := by
  induction items with
  | nil => simp [OrderedItems]
  | cons v rest ih => simp [OrderedItems, ih]

def object (fields : List (String × Json)) : Json := .obj (dictOf (fields.map fun p => (py p.1, p.2)))

/-- A field of a display, whose names are different. -/
theorem member_object {fields : List (String × Json)} (apart : (fields.map (·.1)).Nodup) (name : String) :
    member (object fields) name = (fields.find? (·.1 = name)).map (·.2) := by
  have read (fields : List (String × Json)) (members : List (PyStr × Json)) (apart : (fields.map (·.1)).Nodup) :
      ((fields.map fun p => (py p.1, p.2)).foldl (fun members p => setMember p.1 p.2 members) members).find? (·.1 = py name) =
        ((fields.find? (·.1 = name)).map fun p => (py p.1, p.2)).or (members.find? (·.1 = py name)) := by
    induction fields generalizing members with
    | nil => rfl
    | cons p rest ih =>
      obtain ⟨other, apart⟩ := List.nodup_cons.mp apart
      rw [List.map_cons, List.foldl_cons, ih _ apart, find?_setMember, List.find?_cons]
      by_cases here : p.1 = name
      · have none_ : rest.find? (·.1 = name) = none := by
          rw [List.find?_eq_none]
          intro q member same
          exact other (List.mem_map.mpr ⟨q, member, (of_decide_eq_true same).trans here.symm⟩)
        rw [none_, if_pos (congrArg py here), decide_eq_true here]
        rfl
      · rw [if_neg fun same => here (py_injective same), decide_eq_false here]
  unfold member object dictOf
  dsimp only
  rw [read fields [] apart, List.find?_nil, Option.or_none, Option.map_map]
  rfl

theorem ordered_object {fields : List (String × Json)} (each : ∀ p ∈ fields, Ordered p.2) : Ordered (object fields) := by
  have build (fields : List (PyStr × Json)) : ∀ members, KeysRise members → OrderedMembers members → (∀ p ∈ fields, Ordered p.2) →
      Ordered (.obj (fields.foldl (fun members p => setMember p.1 p.2 members) members)) := by
    induction fields with
    | nil => exact fun members rise inner _ => ⟨rise, inner⟩
    | cons p rest ih =>
      intro members rise inner each
      refine ih _ (setMember_rise rise) (orderedMembers_iff.mpr fun q member => ?_) fun q member => each q (List.mem_cons_of_mem _ member)
      rcases mem_setMember member with rfl | inside
      · exact each p List.mem_cons_self
      · exact orderedMembers_iff.mp inner q inside
  refine build _ [] List.Pairwise.nil trivial fun p member => ?_
  obtain ⟨q, listed, rfl⟩ := List.mem_map.mp member
  exact each q listed

/-! ## The writer -/

/-- The value of a member of `CDXQueryState`. -/
def stateValue : QueryState → String
  | .unknown => "unknown"
  | .pending => "pending"
  | .pass => "pass"
  | .emptyExhaustive => "empty_exhaustive"
  | .decomposed => "decomposed"
  | .incomplete => "incomplete"
  | .transientError => "transient_error"
  | .invalid => "invalid"

def textJson (text : String) : Json := .str (py text)

def keyItems (key : EvidenceQueryKey) : List (String × Json) := [
  ("hostname", textJson key.hostname),
  ("year_from", .int key.yearFrom),
  ("year_to", .int key.yearTo),
  ("provider", textJson key.provider),
  ("policy_version", textJson key.policyVersion)]

/-- `serialize_key`. -/
def serializeKey (key : EvidenceQueryKey) : Json := object (keyItems key)

def capsuleItems (capsule : EvidenceCapsule) : List (String × Json) := [
  ("hostname", textJson capsule.hostname),
  ("year", .int capsule.year),
  ("provider", textJson capsule.provider),
  ("temporal_semantics", textJson capsule.temporalSemantics),
  ("evidence_timestamp", textJson capsule.evidenceTimestamp),
  ("source_locator", textJson capsule.sourceLocator),
  ("payload_hash", textJson capsule.payloadHash),
  ("policy_version", textJson capsule.policyVersion),
  ("evidence_type", textJson capsule.evidenceType),
  ("source_id", textJson capsule.sourceId),
  ("original_url", textJson capsule.originalUrl),
  ("record_locator", textJson capsule.recordLocator),
  ("extraction_method", textJson capsule.extractionMethod)]

/-- `serialize_capsule`. -/
def serializeCapsule (capsule : EvidenceCapsule) : Json := object (capsuleItems capsule)

/-- `_accounting`. -/
def writeAccounting (a : Accounting) : List (String × Json) := [
  ("pages_seen", .int a.pagesSeen),
  ("records_seen", .int a.recordsSeen),
  ("provider_requests", .int a.providerRequests),
  ("provider_elapsed_milliseconds", .int a.providerElapsedMilliseconds),
  ("error", (a.error.map textJson).getD .null)]

/-- `base`, after the kind. -/
def base (kind : String) (key : EvidenceQueryKey) (state : QueryState) (a : Accounting) : List (String × Json) :=
  ("kind", textJson kind) :: ("key", serializeKey key) :: ("state", textJson (stateValue state)) :: writeAccounting a

def domainItems (r : DomainEvidenceQueryResult) : List (String × Json) := base "EVIDENCE_DOMAIN_RESULT" r.key r.state r.toAccounting ++ [
  ("domain", textJson r.domain),
  ("capsules", .arr (r.capsules.map serializeCapsule))]

def rangeItems (r : RangeEvidenceQueryResult) : List (String × Json) := base "EVIDENCE_RANGE_RESULT" r.key r.state r.toAccounting ++ [
  ("hostname", textJson r.hostname),
  ("candidate_years", .arr (r.candidateYears.map .int)),
  ("followup_years", .arr (r.followupYears.map .int)),
  ("capsules", .arr (r.capsules.map serializeCapsule))]

def exactItems (key : EvidenceQueryKey) (r : EvidenceQueryResult) : List (String × Json) :=
  base "EVIDENCE_EXACT_RESULT" key r.state r.toAccounting ++ [
    ("hostname", textJson r.hostname),
    ("year", .int r.year),
    ("capsule", (r.capsule.map serializeCapsule).getD .null)]

/-- `serialize_result`; a result without a key is a ValueError. -/
def serializeResult : ProviderResult → Option Json
  | .domain r => some (object (domainItems r))
  | .range r => some (object (rangeItems r))
  | .exact r => r.key.map fun key => object (exactItems key r)

/-! ## Normal hostnames -/

/-- Texts in ASCII without capitals are in lower case. -/
structure Lowers (p : Python) : Prop where
  ascii : ∀ text : String, text.toList.all (fun c => c.toNat < 128 && !c.isUpper) = true → p.lower text = text

theorem mem_splitOn {text : List Char} {c : Char} (member : c ∈ text) : c = '.' ∨ ∃ piece ∈ text.splitOn '.', c ∈ piece := by
  induction text with
  | nil => cases member
  | cons d text ih =>
    rw [List.splitOn_cons_eq_if_modifyHead]
    by_cases dot : d = '.'
    · rw [if_pos (by simp [dot])]
      rcases List.mem_cons.mp member with rfl | inside
      · exact .inl dot
      · exact (ih inside).imp id fun ⟨piece, listed, here⟩ => ⟨piece, List.mem_cons_of_mem _ listed, here⟩
    rw [if_neg (by simp [dot])]
    obtain ⟨first, rest, split⟩ := List.exists_cons_of_ne_nil (List.splitOn_ne_nil '.' text)
    rw [split] at ih ⊢
    rcases List.mem_cons.mp member with rfl | inside
    · exact .inr ⟨c :: first, by simp, List.mem_cons_self⟩
    · rcases ih inside with dot | ⟨piece, listed, here⟩
      · exact .inl dot
      · rcases List.mem_cons.mp listed with rfl | later
        · exact .inr ⟨d :: piece, by simp, List.mem_cons_of_mem _ here⟩
        · exact .inr ⟨piece, by simp [later], here⟩

def hostChar (c : Char) : Bool := c.isLower || c.isDigit || c = '-' || c = '.'

theorem official_chars {text : String} (official : officialHost text = true) : ∀ c ∈ text.toList, hostChar c = true := by
  simp only [officialHost, labels, Bool.and_eq_true, decide_eq_true_eq] at official
  obtain ⟨⟨-, first⟩, last⟩ := official
  have inside : ∀ label ∈ text.toList.splitOn '.', ∀ c ∈ label, hostChar c = true := by
    intro label member c inLabel
    have some_ : text.toList.splitOn '.' ≠ [] := List.ne_nil_of_mem member
    rw [← List.dropLast_append_getLast some_, List.mem_append, List.mem_singleton] at member
    rcases member with member | rfl
    · have each := List.all_eq_true.mp first label member
      simp only [Bool.and_eq_true, List.all_eq_true] at each
      have kind := each.2 c inLabel
      unfold hostChar
      simp only [Bool.or_eq_true] at kind ⊢
      tauto
    · rw [List.getLast?_eq_some_getLast some_, Option.any_some] at last
      simp only [Bool.and_eq_true, List.all_eq_true] at last
      unfold hostChar
      rw [last.2 c inLabel]
      rfl
  intro c member
  rcases mem_splitOn member with rfl | ⟨piece, listed, here⟩
  · rfl
  · exact inside piece listed c here

theorem hostChar_ascii {c : Char} (host : hostChar c = true) : c.toNat < 128 ∧ c.isUpper = false ∧ isSpace c = false := by
  have range : 97 ≤ c.toNat ∧ c.toNat ≤ 122 ∨ 48 ≤ c.toNat ∧ c.toNat ≤ 57 ∨ c.toNat = 45 ∨ c.toNat = 46 := by
    simp only [hostChar, Bool.or_eq_true, decide_eq_true_eq] at host
    rcases host with ((lower | digit) | rfl) | rfl
    · left
      simpa [Char.isLower, UInt32.le_iff_toNat_le] using lower
    · right; left
      simpa [Char.isDigit, UInt32.le_iff_toNat_le] using digit
    · simp
    · simp
  refine ⟨by omega, ?_, ?_⟩
  · simp only [Char.isUpper, UInt32.le_iff_toNat_le, ge_iff_le, decide_eq_false_iff_not]
    have : c.val.toNat = c.toNat := rfl
    have : 'A'.val.toNat = 65 := rfl
    have : 'Z'.val.toNat = 90 := rfl
    omega
  · simp only [isSpace, Bool.or_eq_false_iff, Bool.and_eq_false_iff, decide_eq_false_iff_not, beq_eq_false_iff_ne]
    omega

theorem strip_host {text : String} (solid : ∀ c ∈ text.toList, hostChar c = true) : strip text = text := by
  have stays {chars : List Char} (solid : ∀ c ∈ chars, hostChar c = true) : chars.dropWhile isSpace = chars := by
    cases chars with
    | nil => rfl
    | cons c rest => rw [List.dropWhile_cons_of_neg (by simp [(hostChar_ascii (solid c List.mem_cons_self)).2.2])]
  rw [strip, stays solid, stays fun c member => solid c (List.mem_reverse.mp member), List.reverse_reverse, String.ofList_toList]

section
variable {p : Python} (lowers : Lowers p)
include lowers

theorem normalize_official {text : String} (official : officialHost text = true) : p.normalizeOfficial text = some text := by
  have solid := official_chars official
  have lower : p.lower text = text := by
    refine lowers.ascii text (List.all_eq_true.mpr fun c member => ?_)
    obtain ⟨small, other, -⟩ := hostChar_ascii (solid c member)
    simp [small, other]
  unfold EvidenceBridge.Python.normalizeOfficial
  rw [strip_host solid, lower, if_pos official]

/-! ## Reading what was written -/

omit lowers

theorem read_text {raw : Json} {name value : String} (given : member raw name = some (textJson value)) :
    text p raw name = some value ∧ textOrEmpty p raw name = some value := by
  have back : p.str (textJson value) = some value := by
    simp [textJson, EvidenceBridge.Python.str]
  unfold text textOrEmpty
  rw [given]
  exact ⟨back, back⟩

theorem read_int {raw : Json} {name : String} {n : Int} (given : member raw name = some (.int n)) :
    number raw name = some n ∧ count raw name = some n := by
  unfold number count
  rw [given]
  exact ⟨rfl, rfl⟩

theorem read_items {raw : Json} {name : String} {values : List Json} (given : member raw name = some (.arr values)) :
    items raw name = some values := by
  rw [items, given]
  rfl

theorem queryState_value (state : QueryState) : queryState (stateValue state) = some state := by
  cases state <;> rfl

theorem mapM_int (years : List Int) : (years.map Json.int).mapM intOf = some years := by
  induction years with
  | nil => rfl
  | cons year rest ih => simp [List.mapM_cons, ih, intOf]

include lowers

theorem read_key (key : EvidenceQueryKey) : deserializeKey p (serializeKey key) = some key := by
  have apart : ((keyItems key).map (·.1)).Nodup := by simp [keyItems]
  have field := member_object apart
  have official : officialHost key.hostname = true := by
    have valid := key.valid
    simp only [Bool.and_eq_true] at valid
    exact valid.1.1.1
  unfold deserializeKey serializeKey
  rw [(read_text (field "hostname")).1, (read_int (field "year_from")).1, (read_int (field "year_to")).1,
    (read_text (field "provider")).1, (read_text (field "policy_version")).1]
  simp only [Option.bind_eq_bind, Option.bind_some, normalize_official lowers official, makeKey, dif_pos key.valid]

theorem read_capsule (c : EvidenceCapsule) : deserializeCapsule p (serializeCapsule c) = some c := by
  have apart : ((capsuleItems c).map (·.1)).Nodup := by simp [capsuleItems]
  have field := member_object apart
  have official : officialHost c.hostname = true := by
    by_contra other
    have valid := c.valid
    unfold EvidenceStore.CapsuleFields.postInit at valid
    rw [if_pos (by simpa using other)] at valid
    cases valid
  unfold deserializeCapsule serializeCapsule
  rw [(read_text (field "hostname")).1, (read_int (field "year")).1, (read_text (field "provider")).1,
    (read_text (field "temporal_semantics")).1, (read_text (field "evidence_timestamp")).1, (read_text (field "source_locator")).1,
    (read_text (field "payload_hash")).1, (read_text (field "policy_version")).1, (read_text (field "evidence_type")).2,
    (read_text (field "source_id")).2, (read_text (field "original_url")).2, (read_text (field "record_locator")).2,
    (read_text (field "extraction_method")).2]
  simp only [Option.bind_eq_bind, Option.bind_some, normalize_official lowers official]
  rw [EvidenceCapsule.make_stored]
  rfl

theorem read_capsules (capsules : List EvidenceCapsule) : deserializeCapsules p (capsules.map serializeCapsule) = some capsules := by
  have objects : (capsules.map serializeCapsule).filter isMapping = capsules.map serializeCapsule :=
    List.filter_eq_self.mpr fun v member => by
      obtain ⟨c, -, rfl⟩ := List.mem_map.mp member
      rfl
  rw [deserializeCapsules, objects]
  induction capsules with
  | nil => rfl
  | cons c rest ih =>
    have later : (rest.map serializeCapsule).filter isMapping = rest.map serializeCapsule := by
      rw [List.map_cons, List.filter_cons_of_pos rfl] at objects
      exact (List.cons.inj objects).2
    rw [List.map_cons, List.mapM_cons, read_capsule lowers, ih later]
    rfl

omit lowers

/-- The fields that all results have. -/
structure Based (raw : Json) (kind : String) (key : EvidenceQueryKey) (state : QueryState) (a : Accounting) : Prop where
  kind : textOrEmpty p raw "kind" = some kind
  key : member raw "key" = some (serializeKey key)
  state : text p raw "state" = some (stateValue state)
  accounting : readAccounting p raw = some a

theorem based {kind : String} {key : EvidenceQueryKey} {state : QueryState} {a : Accounting} {more : List (String × Json)}
    (apart : ((base kind key state a ++ more).map (·.1)).Nodup) : Based (p := p) (object (base kind key state a ++ more)) kind key state a := by
  have field := member_object apart
  refine ⟨(read_text (field "kind")).2, field "key", (read_text (field "state")).1, ?_⟩
  unfold readAccounting
  rw [(read_int (field "pages_seen")).2, (read_int (field "records_seen")).2, (read_int (field "provider_requests")).2,
    (read_int (field "provider_elapsed_milliseconds")).2]
  have told : member (object (base kind key state a ++ more)) "error" = some ((a.error.map textJson).getD .null) := field "error"
  rw [told]
  obtain ⟨pages, records, requests, elapsed, error⟩ := a
  cases error with
  | none => rfl
  | some message =>
    have back : p.str (textJson message) = some message := by
      simp [textJson, EvidenceBridge.Python.str]
    simp only [Option.map_some, Option.getD_some, textJson] at back ⊢
    rw [back]
    rfl

theorem made_domain (r : DomainEvidenceQueryResult) : makeDomain r.toDomainFields = some (.domain r) := by
  unfold makeDomain
  rw [dif_pos r.valid]

theorem made_range (r : RangeEvidenceQueryResult) : makeRange r.toRangeFields = some (.range r) := by
  unfold makeRange
  rw [dif_pos r.valid]

theorem made_exact (r : EvidenceQueryResult) : makeExact r.toExactFields = some (.exact r) := by
  unfold makeExact
  rw [dif_pos r.valid]

include lowers

theorem reads_based {raw : Json} {kind : String} {key : EvidenceQueryKey} {state : QueryState} {a : Accounting}
    (told : Based (p := p) raw kind key state a) : deserializeResult p raw =
      if kind = "EVIDENCE_DOMAIN_RESULT" then deserializeDomain p raw key state a
      else if kind = "EVIDENCE_RANGE_RESULT" then deserializeRange p raw key state a
      else if kind = "EVIDENCE_EXACT_RESULT" then deserializeExact p raw key state a
      else none := by
  have isObject : isMapping (serializeKey key) = true := rfl
  unfold deserializeResult
  rw [told.key, told.state, told.accounting, told.kind]
  simp only [Option.bind_eq_bind, Option.bind_some, isObject, Bool.not_true, Bool.false_eq_true, if_false, read_key lowers, queryState_value]

theorem read_domain (r : DomainEvidenceQueryResult) : deserializeResult p (object (domainItems r)) = some (.domain r) := by
  have apart : ((domainItems r).map (·.1)).Nodup := by simp [domainItems, base, writeAccounting]
  have field := member_object apart
  have official : officialHost r.domain = true := by
    by_contra other
    have valid := r.valid
    unfold DomainFields.postInit at valid
    rw [if_pos (by simp [Bool.eq_false_iff.mpr other])] at valid
    cases valid
  have told : Based (p := p) (object (domainItems r)) "EVIDENCE_DOMAIN_RESULT" r.key r.state r.toAccounting := based apart
  rw [reads_based lowers told, if_pos rfl, deserializeDomain, read_items (field "capsules"), (read_text (field "domain")).1]
  simp only [Option.bind_eq_bind, Option.bind_some, normalize_official lowers official, read_capsules lowers]
  exact made_domain r

theorem read_range (r : RangeEvidenceQueryResult) : deserializeResult p (object (rangeItems r)) = some (.range r) := by
  have apart : ((rangeItems r).map (·.1)).Nodup := by simp [rangeItems, base, writeAccounting]
  have field := member_object apart
  have official : officialHost r.hostname = true := by
    by_contra other
    have valid := r.valid
    unfold RangeFields.postInit at valid
    rw [if_pos (by simp [Bool.eq_false_iff.mpr other])] at valid
    cases valid
  have told : Based (p := p) (object (rangeItems r)) "EVIDENCE_RANGE_RESULT" r.key r.state r.toAccounting := based apart
  rw [reads_based lowers told, if_neg (by decide), if_pos rfl, deserializeRange, read_items (field "capsules"),
    read_items (field "candidate_years"), read_items (field "followup_years"), (read_text (field "hostname")).1]
  simp only [Option.bind_eq_bind, Option.bind_some, normalize_official lowers official, read_capsules lowers, mapM_int]
  exact made_range r

theorem read_optional (raw : Json) (capsule : Option EvidenceCapsule)
    (given : member raw "capsule" = some ((capsule.map serializeCapsule).getD .null)) : exactCapsule p raw = some capsule := by
  unfold exactCapsule
  rw [given]
  cases capsule with
  | none => rfl
  | some c =>
    have isObject : isMapping (serializeCapsule c) = true := rfl
    rw [Option.map_some, Option.getD_some]
    split
    · rename_i absent
      cases absent
    · rename_i null
      rw [Option.some.inj null] at isObject
      cases isObject
    · rename_i value same
      cases same
      rw [if_pos isObject, read_capsule lowers]
      rfl

theorem read_exact (r : EvidenceQueryResult) {key : EvidenceQueryKey} (named : r.key = some key) :
    deserializeResult p (object (exactItems key r)) = some (.exact r) := by
  have apart : ((exactItems key r).map (·.1)).Nodup := by simp [exactItems, base, writeAccounting]
  have field := member_object apart
  have official : officialHost r.hostname = true := by
    by_contra other
    have valid := r.valid
    unfold ExactFields.postInit at valid
    rw [if_pos (by simpa using other)] at valid
    cases valid
  have told : Based (p := p) (object (exactItems key r)) "EVIDENCE_EXACT_RESULT" key r.state r.toAccounting := based apart
  rw [reads_based lowers told, if_neg (by decide), if_neg (by decide), if_pos rfl, deserializeExact, (read_text (field "hostname")).1,
    (read_int (field "year")).1, read_optional lowers _ r.capsule (field "capsule")]
  simp only [Option.bind_eq_bind, Option.bind_some, normalize_official lowers official, ← named]
  exact made_exact r

theorem read_written (r : ProviderResult) {v : Json} (written : serializeResult r = some v) : deserializeResult p v = some r := by
  cases r with
  | domain r =>
    cases written
    exact read_domain lowers r
  | range r =>
    cases written
    exact read_range lowers r
  | exact r =>
    obtain ⟨key, named, rfl⟩ := Option.map_eq_some_iff.mp written
    exact read_exact lowers r named

end

/-! ## Through the text -/

theorem ordered_key (key : EvidenceQueryKey) : Ordered (serializeKey key) :=
  ordered_object (by simp [keyItems, textJson, Ordered])

theorem ordered_capsule (c : EvidenceCapsule) : Ordered (serializeCapsule c) :=
  ordered_object (by simp [capsuleItems, textJson, Ordered])

theorem ordered_base (kind : String) (key : EvidenceQueryKey) (state : QueryState) (a : Accounting) :
    ∀ field ∈ base kind key state a, Ordered field.2 := by
  have error : Ordered ((a.error.map textJson).getD .null) := by cases a.error <;> exact trivial
  simp [base, writeAccounting, ordered_key, error, textJson, Ordered]

theorem ordered_written (r : ProviderResult) {v : Json} (written : serializeResult r = some v) : Ordered v := by
  have capsules (cs : List EvidenceCapsule) : OrderedItems (cs.map serializeCapsule) := orderedItems_iff.mpr fun v member => by
    obtain ⟨c, -, rfl⟩ := List.mem_map.mp member
    exact ordered_capsule c
  have years (ns : List Int) : OrderedItems (ns.map .int) := orderedItems_iff.mpr fun v member => by
    obtain ⟨n, -, rfl⟩ := List.mem_map.mp member
    trivial
  cases r with
  | domain r =>
    cases written
    exact ordered_object (List.forall_mem_append.mpr ⟨ordered_base _ _ _ _, by simp [capsules, textJson, Ordered]⟩)
  | range r =>
    cases written
    exact ordered_object (List.forall_mem_append.mpr ⟨ordered_base _ _ _ _, by simp [capsules, years, textJson, Ordered]⟩)
  | exact r =>
    obtain ⟨key, named, rfl⟩ := Option.map_eq_some_iff.mp written
    have capsule : Ordered ((r.capsule.map serializeCapsule).getD .null) := by
      cases r.capsule with
      | none => exact trivial
      | some c => exact ordered_capsule c
    exact ordered_object (List.forall_mem_append.mpr ⟨ordered_base _ _ _ _, by simp [capsule, textJson, Ordered]⟩)

/-- `json.dumps(serialize_result(result))`, when the result has a key. -/
def writtenText (r : ProviderResult) : Option PyStr := (serializeResult r).map dumps

/-- `deserialize_result(json.loads(text))`. -/
def readText (p : Python) (text : PyStr) : Option ProviderResult := (loads text).bind (deserializeResult p)

theorem readText_written {p : Python} (lowers : Lowers p) {r : ProviderResult} (keyed : r.key.isSome) :
    (writtenText r).bind (readText p) = some r := by
  obtain ⟨key, named⟩ := Option.isSome_iff_exists.mp keyed
  obtain ⟨v, written⟩ : ∃ v, serializeResult r = some v := by
    cases r with
    | domain r => exact ⟨_, rfl⟩
    | range r => exact ⟨_, rfl⟩
    | exact r => exact ⟨_, congrArg (Option.map _) named⟩
  rw [writtenText, written, Option.map_some, Option.bind_some, readText, loads_dumps (ordered_written r written), Option.bind_some]
  exact read_written lowers r written

theorem read_keyed {p : Python} {raw : Json} {r : ProviderResult} (read : deserializeResult p raw = some r) : r.key.isSome := by
  simp only [deserializeResult, Option.bind_eq_bind, Option.bind_eq_some_iff] at read
  obtain ⟨keyRaw, -, read⟩ := read
  split_ifs at read
  simp only [Option.bind_eq_some_iff] at read
  obtain ⟨key, -, name, -, state, -, a, -, kind, -, read⟩ := read
  split_ifs at read
  · simp only [deserializeDomain, Option.bind_eq_bind, Option.bind_eq_some_iff, makeDomain, Option.dite_none_right_eq_some, Option.some.injEq] at read
    obtain ⟨-, -, -, -, -, -, -, -, -, rfl⟩ := read
    rfl
  · simp only [deserializeRange, Option.bind_eq_bind, Option.bind_eq_some_iff, makeRange, Option.dite_none_right_eq_some, Option.some.injEq] at read
    obtain ⟨-, -, -, -, -, -, -, -, -, -, -, -, -, -, -, -, -, rfl⟩ := read
    rfl
  · simp only [deserializeExact, Option.bind_eq_bind, Option.bind_eq_some_iff, makeExact, Option.dite_none_right_eq_some, Option.some.injEq] at read
    obtain ⟨-, -, -, -, -, -, -, -, -, rfl⟩ := read
    rfl

/-- Every result with a key is read as it was written, and what was read once is written and read the same. -/
theorem codec_round_trip (p : Python) (lowers : Lowers p) :
    (∀ r : ProviderResult, r.key.isSome → (writtenText r).bind (readText p) = some r) ∧
      ∀ raw r, deserializeResult p raw = some r → (writtenText r).bind (readText p) = some r :=
  ⟨fun _ keyed => readText_written lowers keyed, fun _ _ read => readText_written lowers (read_keyed read)⟩

theorem toLower_lowers (repr : Json → String) : Lowers ⟨String.toLower, repr⟩ where
  ascii text small := by
    refine String.toList_injective (String.toList_map.trans ?_)
    refine (List.map_congr_left fun c member => ?_).trans (List.map_id _)
    have other := List.all_eq_true.mp small c member
    simp only [Bool.and_eq_true, Bool.not_eq_true'] at other
    exact Char.toLower_eq_of_not_isUpper (by rw [other.2]; exact Bool.false_ne_true)

/-- A range result with a capture and an error. -/
def captured : ProviderResult := .range ⟨{
  hostname := "b.com"
  key := rangeKey
  state := .incomplete
  candidateYears := [1998]
  followupYears := [1999, 2000]
  capsules := [⟨{
    hostname := "b.com"
    year := 1998
    provider := "wayback"
    temporalSemantics := "archive_capture"
    evidenceTimestamp := "19980101000000"
    sourceLocator := ""
    payloadHash := "h"
    policyVersion := "cdx-v1"
    evidenceType := "archive_capture"
    sourceId := "wayback"
    originalUrl := ""
    recordLocator := ""
    extractionMethod := "provider_record" }, by decide +kernel, by decide +kernel⟩]
  pagesSeen := 1
  recordsSeen := 2
  providerRequests := 1
  providerElapsedMilliseconds := 30
  error := some "429 \"zu viele Anfragen\" \u00e4" }, by decide +kernel⟩

theorem captured_again : (writtenText captured).bind (readText ⟨String.toLower, fun _ => ""⟩) = some captured :=
  (codec_round_trip _ (toLower_lowers fun _ => "")).1 captured rfl

end Creeper.ResultCodec
