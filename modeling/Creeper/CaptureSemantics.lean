import Creeper.CdxAcceptance
import Creeper.HostTexts

/-!
# What the captures of a query prove

A query of the Wayback client makes capsules of the rows that it accepts, and the formal validation
reads these capsules again. Of the four evidence types it does not know that of a domain query.
-/

namespace Creeper.CaptureSemantics
open Creeper.PyText Creeper.JsonText Creeper.EvidenceTasks Creeper.CdxRows Creeper.CdxQueries Creeper.CdxReading Creeper.CdxAcceptance
open Creeper.EvidenceSemantics (stripText spaceAt isDigitAt decimalDigit timestampYear Capsule validateEvidenceSemantics
  classifyAcquisitionLane ReviewedContractRegistry exactOriginalHostname contractOf boundDirectContract captureTypes captureSemantics
  afterScheme errorUnless timestampErrors laneErrors AcquisitionLane)
open Creeper.EvidenceStore (CapsuleFields EvidenceCapsule orElse)
open Creeper.BatchPayload (charsOf)
open Creeper.HostTexts (Lowers stripText_eq_nil stripText_py stripText_front normalizeOfficial_official)
open Creeper.FabricModels (blank)
open Creeper.PlatformHarvests (PlatformYearHarvestTask)
open Creeper.CdxPaging (Response)

/-! ## Texts -/

theorem isDigitAt_solid {c : CodePoint} (digit : isDigitAt c = true) : spaceAt c = false := by
  cases c with
  | surrogate _ => rfl
  | char c =>
    by_contra space
    have space_ : isSpace c = true := by simpa [spaceAt] using space
    have code (n : Nat) (same : c.toNat = n) : isDigitAt (.char (Char.ofNat n)) = true := by
      rw [← same, Char.ofNat_toNat]
      exact digit
    simp only [isSpace, Bool.or_eq_true, Bool.and_eq_true, decide_eq_true_eq, beq_iff_eq] at space_
    have all : ∀ n ∈ [9, 10, 11, 12, 13, 28, 29, 30, 31, 32, 0x85, 0xA0, 0x1680, 0x2000, 0x2001, 0x2002, 0x2003, 0x2004, 0x2005, 0x2006,
        0x2007, 0x2008, 0x2009, 0x200A, 0x2028, 0x2029, 0x202F, 0x205F, 0x3000],
        isDigitAt (.char (Char.ofNat n)) = false := by decide +kernel
    have listed : c.toNat ∈ [9, 10, 11, 12, 13, 28, 29, 30, 31, 32, 0x85, 0xA0, 0x1680, 0x2000, 0x2001, 0x2002, 0x2003, 0x2004, 0x2005,
        0x2006, 0x2007, 0x2008, 0x2009, 0x200A, 0x2028, 0x2029, 0x202F, 0x205F, 0x3000] := by
      simp only [List.mem_cons, List.not_mem_nil, or_false]
      omega
    exact absurd (code _ rfl) (by rw [all _ listed]; exact Bool.false_ne_true)

theorem timestampYear_of {p : Python} {timestamp : PyStr} {year : Int} (read : yearOf p timestamp = .ok (some year)) :
    timestampYear timestamp = .ok (some year) ∧ stripText timestamp ≠ [] := by
  unfold yearOf at read
  split_ifs at read with short
  · cases read
  simp only [Bool.or_eq_true, decide_eq_true_eq, Bool.not_eq_true', not_or, Bool.not_eq_false, not_lt] at short
  obtain ⟨long, digits⟩ := short
  have solid : ∀ c ∈ timestamp.take 4, spaceAt c = false := fun c member => isDigitAt_solid (List.all_eq_true.mp digits c member)
  have four : (timestamp.take 4).length = 4 := by
    rw [List.length_take]
    omega
  obtain ⟨more, stripped⟩ := @stripText_front (timestamp.take 4) (timestamp.drop 4) solid (List.ne_nil_of_length_pos (by omega))
  rw [List.take_append_drop] at stripped
  have same : (stripText timestamp).take 4 = timestamp.take 4 := by rw [stripped, List.take_left' four]
  have longer : 4 ≤ (stripText timestamp).length := by
    rw [stripped, List.length_append]
    omega
  refine ⟨?_, List.ne_nil_of_length_pos (by omega)⟩
  unfold timestampYear
  dsimp only
  rw [same, digits]
  rw [if_neg (by simp; omega)]
  cases values : (timestamp.take 4).mapM decimalDigit with
  | none =>
    rw [values] at read
    cases read
  | some found =>
    rw [values] at read
    exact congrArg (Except.ok ∘ some) (Option.some.inj (Except.ok.inj read))

theorem hostnameOf_solid {p : Python} (lowers : Lowers p.toPython) {original : PyStr} {hostname : String}
    (found : hostnameOf p original = some hostname) : stripText original ≠ [] := by
  intro empty
  have spaces := (stripText_eq_nil original).mp empty
  let url := (original.dropWhile (·.toNat ≤ 32)).filter fun c => c ≠ .char '\t' && c ≠ .char '\r' && c ≠ .char '\n'
  have inside : ∀ c ∈ url, spaceAt c = true := fun c member => spaces c ((List.dropWhile_suffix _).subset (List.mem_filter.mp member).1)
  have noScheme : afterScheme url = url := by
    have none_ : url.dropWhile (· ≠ .char ':') = [] := by
      rw [List.dropWhile_eq_nil_iff]
      intro c member
      refine decide_eq_true fun same => ?_
      exact absurd (inside c member) (by rw [same]; decide)
    unfold afterScheme
    dsimp only
    rw [none_]
  have noPath : ¬py "//" <+: url := fun path => absurd (inside (.char '/') (path.subset (by decide))) (by decide)
  have host : p.urlHost original = if p.refusesNetloc [] then none else some none := by
    change (if p.refusesNetloc (if py "//" <+: afterScheme url then _ else []) then none
      else some (p.hostnameOf (if py "//" <+: afterScheme url then _ else []))) = _
    rw [noScheme, if_neg noPath]
    rfl
  rw [hostnameOf, host] at found
  split_ifs at found
  · cases found
  · have nothing : p.normalizeOfficial [] = none := by
      have low : p.lower [] = [] := lowers [] rfl
      rw [EvidenceSemantics.Python.normalizeOfficial, show stripText [] = [] from rfl, low]
      decide
    exact absurd (nothing.symm.trans found) (by simp)

/-! ## Capsules -/

/-- A stored capsule as the validation reads it. -/
def read (c : EvidenceCapsule) : Capsule where
  hostname := c.hostname
  year := c.year
  provider := py c.provider
  temporalSemantics := py c.temporalSemantics
  evidenceTimestamp := py c.evidenceTimestamp
  sourceLocator := py c.sourceLocator
  payloadHash := py c.payloadHash
  policyVersion := py c.policyVersion
  evidenceType := py c.evidenceType
  sourceId := py c.sourceId
  originalUrl := py c.originalUrl
  recordLocator := py c.recordLocator
  extractionMethod := py c.extractionMethod

def Accepted (p : Python) (reviewed : Option ReviewedContractRegistry) (c : EvidenceCapsule) : Prop :=
  ∃ validation, validateEvidenceSemantics p.toPython (read c) reviewed = .ok validation ∧ validation.acceptedForAnnual = true

/-- How a call makes its capsules. -/
structure Making where
  provider : String
  policyVersion : String
  evidenceType : String
  extractionMethod : String

/-- A capsule is made of a row that is accepted for a host-year. -/
structure MadeOf (p : Python) (client : Client) (m : Making) (c : EvidenceCapsule) : Prop where
  made : ∃ row hostname year recordLocator, yearOf p (field p row "timestamp") = .ok (some year) ∧
    hostnameOf p (field p row "original") = some hostname ∧
    capsuleOf p row hostname year m.provider m.policyVersion m.evidenceType client.sourceId (client.sourceId ++ recordLocator)
      m.extractionMethod = .ok c

theorem charsOf_some {text : PyStr} {chars : List Char} (read : charsOf text = some chars) : text = chars.map .char := by
  induction text generalizing chars with
  | nil =>
    cases read
    rfl
  | cons c rest ih =>
    cases c with
    | surrogate _ => cases read
    | char c =>
      obtain ⟨others, later, rfl⟩ := Option.map_eq_some_iff.mp read
      rw [List.map_cons, ← ih later]

theorem capsuleOf_fields {p : Python} {row : Row} {hostname provider policyVersion evidenceType sourceId recordLocator
    method : String} {year : Int}
    {c : EvidenceCapsule} (made : capsuleOf p row hostname year provider policyVersion evidenceType sourceId recordLocator method = .ok c) :
    ∃ timestamp original : List Char, field p row "timestamp" = timestamp.map .char ∧ field p row "original" = original.map .char ∧
      c.toCapsuleFields = CapsuleFields.filled {
        hostname := hostname
        year := year
        provider := provider
        temporalSemantics := "capture_timestamp_year"
        evidenceTimestamp := String.ofList timestamp
        sourceLocator := String.ofList original
        payloadHash := p.digest (.obj row)
        policyVersion := policyVersion
        evidenceType := evidenceType
        sourceId := sourceId
        originalUrl := String.ofList original
        recordLocator := recordLocator
        extractionMethod := method } := by
  unfold capsuleOf at made
  split at made
  · rename_i timestamp original isTimestamp isOriginal
    refine ⟨timestamp, original, charsOf_some isTimestamp, charsOf_some isOriginal, ?_⟩
    split_ifs at made
    generalize CapsuleFields.mk _ _ _ _ _ _ _ _ _ _ _ _ _ = fields at made ⊢
    unfold EvidenceCapsule.make at made
    split at made
    · cases made
    · cases made
      rfl
  · cases made

/-- The evidence types and extraction methods of the calls. -/
def makings : List (String × String) := [("exact_host_cdx_capture", "cdx_query_year"), ("exact_host_cdx_capture", "cdx_query_host_range"),
  ("domain_scope_cdx_capture", "cdx_query_domain_bounded"), ("platform_scope_cdx_capture", "cdx_harvest_platform_year")]

/-- What makes a call's capsules submittable: no domain query, of a provider that names no direct source, no RDAP and no DNS. -/
structure Submits (p : Python) (m : Making) : Prop where
  known : m.evidenceType ≠ "domain_scope_cdx_capture"
  external : ¬py "direct:" <+: py m.provider
  web : m.provider ≠ "rdap"
  noDns : ¬py "dns" <:+: p.lower (([py m.provider, py m.evidenceType, py "capture_timestamp_year",
  py m.extractionMethod].intersperse (py " ")).flatten)

theorem making_texts : ∀ texts ∈ makings, blank texts.1 = false ∧ blank texts.2 = false ∧ contractOf (py texts.2) = none ∧
    py texts.1 ≠ py "rdap_registration_event" ∧ (py texts.1 ∈ captureTypes ↔ texts.1 ≠ "domain_scope_cdx_capture") := by
  decide +kernel

theorem blank_append {first : String} (named : blank first = false) (rest : String) : blank (first ++ rest) = false := by
  rw [blank, String.toList_append, List.all_append]
  rw [blank] at named
  rw [named, Bool.false_and]

theorem orElse_named {text : String} (named : blank text = false) (other : String) : orElse text other = text := by
  refine if_neg fun empty => ?_
  rw [empty] at named
  cases named

theorem postInit_checked {c : CapsuleFields} (valid : c.postInit = none) : officialHost c.hostname = true ∧
    (1996 ≤ c.year ∧ c.year ≤ 2001) ∧
    blank c.provider = false ∧ blank c.policyVersion = false := by
  unfold CapsuleFields.postInit at valid
  by_cases official : officialHost c.hostname = true
  · by_cases inside : (1996 ≤ c.year && c.year ≤ 2001) = true
    · cases provider : blank c.provider with
      | true => simp [official, inside, provider] at valid
      | false =>
        cases policy : blank c.policyVersion with
        | true => simp [official, inside, provider, policy] at valid
        | false => exact ⟨official, by simpa using inside, rfl, rfl⟩
    · simp [official, inside] at valid
  · simp [official] at valid

theorem read_made {p : Python} {client : Client} {m : Making} {c : EvidenceCapsule} (sourced : blank client.sourceId = false)
    (listed : (m.evidenceType, m.extractionMethod) ∈ makings) (made : MadeOf p client m c) :
    ∃ timestamp original hostname year digest recordLocator, yearOf p timestamp = .ok (some year) ∧ hostnameOf p original = some hostname ∧
      blank digest = false ∧ blank recordLocator = false ∧ blank m.provider = false ∧ blank m.policyVersion = false ∧
      officialHost hostname = true ∧ (1996 ≤ year ∧ year ≤ 2001) ∧
      read c = ⟨hostname, year, py m.provider, py "capture_timestamp_year", timestamp, original, py digest, py m.policyVersion,
        py m.evidenceType, py client.sourceId, original, py recordLocator, py m.extractionMethod⟩ := by
  obtain ⟨row, hostname, year, recordLocator, isYear, isHostname, made⟩ := made.made
  obtain ⟨timestamp, original, isTimestamp, isOriginal, fields⟩ := capsuleOf_fields made
  obtain ⟨type_, method, -, -, -⟩ := making_texts _ listed
  have valid := c.valid
  rw [fields] at valid
  obtain ⟨official, inside, provider, policy⟩ := postInit_checked valid
  rw [isTimestamp] at isYear
  rw [isOriginal] at isHostname
  have locator := blank_append sourced recordLocator
  refine ⟨timestamp.map .char, original.map .char, hostname, year, p.digest (.obj row), client.sourceId ++ recordLocator,
    isYear, isHostname,
    p.digest_named _, locator, provider, policy, official, inside, ?_⟩
  have text (chars : List Char) : py (String.ofList chars) = chars.map .char := by rw [py, String.toList_ofList]
  have same (url : String) : orElse url url = url := by
    unfold orElse
    split_ifs <;> rfl
  rw [read, fields]
  simp only [CapsuleFields.filled, orElse_named type_, orElse_named sourced, orElse_named locator, orElse_named method, same, text]

theorem accepted_iff {p : Python} (lowers : Lowers p.toPython) {client : Client} {m : Making} {c : EvidenceCapsule}
    (reviewed : Option ReviewedContractRegistry) (sourced : blank client.sourceId = false)
    (listed : (m.evidenceType, m.extractionMethod) ∈ makings) (made : MadeOf p client m c) : Accepted p reviewed c ↔ Submits p m := by
  obtain ⟨timestamp, original, hostname, year, digest, recordLocator, isYear, isHostname, hash, locator, provider, policy, official, inside,
    reads⟩ := read_made sourced listed made
  obtain ⟨type_, method, contract, noEvent, known⟩ := making_texts _ listed
  dsimp only at type_ method contract noEvent known
  obtain ⟨stamped, stamp⟩ := timestampYear_of isYear
  generalize isCapsule : Capsule.mk hostname year (py m.provider) (py "capture_timestamp_year") timestamp original (py digest)
    (py m.policyVersion) (py m.evidenceType) (py client.sourceId) original (py recordLocator) (py m.extractionMethod) = capsule at reads
  have provenance : (capsule.provenance.filter fun field => stripText field.2 = []) = [] := by
    have solid {text : String} (named : blank text = false) : stripText (py text) ≠ [] := by
      rw [Ne, stripText_py, named]
      exact Bool.false_ne_true
    have url := hostnameOf_solid lowers isHostname
    rw [← isCapsule]
    simp [Capsule.provenance, solid provider, solid hash, solid policy, solid type_, solid sourced, solid locator, solid method, stamp, url,
      @solid "capture_timestamp_year" (by decide)]
  have exact_ : exactOriginalHostname p.toPython capsule = true := by
    rw [hostnameOf, Option.bind_eq_some_iff] at isHostname
    obtain ⟨host, found, normal⟩ := isHostname
    rw [← isCapsule, exactOriginalHostname, found]
    exact decide_eq_true normal
  have annual (lane : AcquisitionLane) (isLane : classifyAcquisitionLane p.toPython capsule reviewed = lane) :
      Accepted p reviewed c ↔ laneErrors p.toPython capsule reviewed lane = [] ∧ lane.annual = true := by
    have time : timestampErrors capsule lane (some year) = [] := by
      rw [← isCapsule]
      unfold timestampErrors
      split_ifs <;> simp [errorUnless]
    have valid : validateEvidenceSemantics p.toPython capsule reviewed = .ok ⟨lane,
        (laneErrors p.toPython capsule reviewed lane).isEmpty && lane.annual, laneErrors p.toPython capsule reviewed lane⟩ := by
      unfold validateEvidenceSemantics
      rw [isLane, show timestampYear capsule.evidenceTimestamp = .ok (some year) by rw [← isCapsule]; exact stamped]
      change Except.ok (EvidenceSemantics.EvidenceSemanticValidation.mk lane _ _) = _
      have host : p.normalizeOfficial (py capsule.hostname) = some capsule.hostname := by
        rw [← isCapsule]
        exact normalizeOfficial_official lowers official
      have within : (decide (1996 ≤ capsule.year) && decide (capsule.year < 2002)) = true := by
        rw [← isCapsule]
        simp only [Bool.and_eq_true, decide_eq_true_eq]
        omega
      rw [provenance, time, host, within]
      simp [errorUnless]
    rw [Accepted, reads, valid]
    simp
  have lane := annual _ rfl
  rw [lane]
  have noContract : boundDirectContract capsule reviewed = none := by
    rw [← isCapsule, boundDirectContract]
    dsimp only
    rw [contract]
    rfl
  have semantics : py "capture_timestamp_year" ≠ py "registration_event_year" ∧ py "capture_timestamp_year" ∈ captureSemantics := by decide
  have fields : capsule.provider = py m.provider ∧ capsule.evidenceType = py m.evidenceType ∧
      capsule.temporalSemantics = py "capture_timestamp_year" ∧ capsule.extractionMethod = py m.extractionMethod := by
    rw [← isCapsule]
    exact ⟨rfl, rfl, rfl, rfl⟩
  unfold classifyAcquisitionLane
  rw [noContract, fields.1, fields.2.1, fields.2.2.1, fields.2.2.2]
  by_cases direct : py "direct:" <+: py m.provider
  · rw [if_pos direct]
    exact iff_of_false (fun both => absurd both.2 (by decide)) fun submits => submits.external direct
  rw [if_neg direct]
  by_cases rdap : m.provider = "rdap"
  · rw [if_pos (.inl (congrArg py rdap))]
    refine iff_of_false (fun both => ?_) fun submits => submits.web rdap
    have type_ : errorUnless (capsule.evidenceType = py "rdap_registration_event")
      "registration-year evidence must be a registration event" = [] := by
      have all := both.1
      unfold laneErrors at all
      exact (List.append_eq_nil_iff.mp (List.append_eq_nil_iff.mp all).1).2
    rw [fields.2.1, errorUnless, decide_eq_false noEvent] at type_
    cases type_
  rw [if_neg (by simpa [noEvent, semantics.1] using fun same => rdap (py_injective same))]
  by_cases dns : py "dns" <:+: p.lower (([py m.provider, py m.evidenceType, py "capture_timestamp_year", py m.extractionMethod].intersperse
      (py " ")).flatten)
  · rw [if_pos dns]
    exact iff_of_false (fun both => absurd both.2 (by decide)) fun submits => submits.noDns dns
  rw [if_neg dns]
  by_cases domain : m.evidenceType = "domain_scope_cdx_capture"
  · rw [if_neg fun both => known.mp both.1 domain]
    exact iff_of_false (fun both => absurd both.2 (by decide)) fun submits => submits.known domain
  · rw [if_pos ⟨known.mpr domain, semantics.2⟩]
    refine iff_of_true ⟨?_, rfl⟩ ⟨domain, direct, rdap, dns⟩
    unfold laneErrors
    rw [exact_, fields.1]
    simp [errorUnless, direct]

/-! ## Capsules of a call -/

section
variable (p : Python) (client : Client) (spent : Spent) (responses : List Response)

/-- The capsules that a call returns, of the responses to its requests. -/
def returned : Call → Except Failure (List EvidenceCapsule)
  | .queryKey key => (queryKey p client spent key (pagesFrom p 1 none responses)).map fun r => r.capsule.toList
  | .queryRange key =>
    if isDomainPolicy key then (queryDomain p client spent key (firstOf responses)).map fun r => r.capsules
    else (queryRange p client spent key (pagesFrom p client.limit none responses)).map fun r => r.capsules
  | .queryDomain key => (queryDomain p client spent key (firstOf responses)).map fun r => r.capsules
  | .harvestPlatformYear task => (harvestPlatformYear p client spent task.1 (firstOf responses)).map fun r => r.capsules

end

def domainMaking (key : EvidenceQueryKey) : Making := ⟨key.provider, key.policyVersion, "domain_scope_cdx_capture",
    "cdx_query_domain_bounded"⟩

/-- How a call makes its capsules. -/
def making : Call → Making
  | .queryKey key => ⟨key.provider, key.policyVersion, "exact_host_cdx_capture", "cdx_query_year"⟩
  | .queryRange key =>
    if isDomainPolicy key then domainMaking key
    else ⟨key.provider, key.policyVersion, "exact_host_cdx_capture", "cdx_query_host_range"⟩
  | .queryDomain key => domainMaking key
  | .harvestPlatformYear task =>
    ⟨task.1.identity.provider, task.1.identity.policyVersion, "platform_scope_cdx_capture", "cdx_harvest_platform_year"⟩

theorem making_listed (call : Call) : ((making call).evidenceType, (making call).extractionMethod) ∈ makings := by
  have year : ("exact_host_cdx_capture", "cdx_query_year") ∈ makings := by decide
  have range : ("exact_host_cdx_capture", "cdx_query_host_range") ∈ makings := by decide
  have domain : ("domain_scope_cdx_capture", "cdx_query_domain_bounded") ∈ makings := by decide
  have platform : ("platform_scope_cdx_capture", "cdx_harvest_platform_year") ∈ makings := by decide
  cases call with
  | queryKey key => exact year
  | queryRange key =>
    rw [making]
    cases isDomainPolicy key with
    | true => exact domain
    | false => exact range
  | queryDomain key => exact domain
  | harvestPlatformYear task => exact platform

section
variable {p : Python} {client : Client} {spent : Spent}

theorem acceptedYear_some {row : Row} {hostname : String} {yearFrom yearTo year : Int}
    (accepted : acceptedYear p row hostname yearFrom yearTo = .ok (some year)) :
    yearOf p (field p row "timestamp") = .ok (some year) ∧ hostnameOf p (field p row "original") = some hostname := by
  unfold acceptedYear at accepted
  cases read : yearOf p (field p row "timestamp") with
  | error failure =>
    rw [read] at accepted
    cases accepted
  | ok found =>
    rw [read] at accepted
    cases found with
    | none => cases accepted
    | some y =>
      change (if _ then Except.ok (some y) else Except.ok none) = _ at accepted
      split_ifs at accepted with all
      · obtain rfl := Option.some.inj (Except.ok.inj accepted)
        simp only [Bool.and_eq_true, decide_eq_true_eq, exactHostname] at all
        exact ⟨rfl, all.1.2⟩
      · cases accepted

theorem madeOf_row {key : EvidenceQueryKey} {row : Row} {yearFrom yearTo year : Int} {pageNo recordNo : Nat} {method : String}
    {c : EvidenceCapsule} (accepted : acceptedYear p row key.hostname yearFrom yearTo = .ok (some year))
    (made : capsuleFromRow p client.sourceId key row year pageNo recordNo method = .ok c) :
    MadeOf p client ⟨key.provider, key.policyVersion, "exact_host_cdx_capture", method⟩ c := by
  obtain ⟨isYear, isHostname⟩ := acceptedYear_some accepted
  refine ⟨row, key.hostname, year, ":" ++ (key.hostname ++ (":" ++ (toString year ++ (":page=" ++ (toString pageNo ++ (":record=" ++
    toString recordNo)))))), isYear, isHostname, ?_⟩
  rw [← made, capsuleFromRow]
  simp only [String.append_assoc]

theorem keyRows_made {key : EvidenceQueryKey} {pagesSeen recordsSeen records : Nat} {rows : List Row} {c : EvidenceCapsule}
    (found : keyRows p client key pagesSeen recordsSeen rows = (records, .ok (some c))) :
    MadeOf p client ⟨key.provider, key.policyVersion, "exact_host_cdx_capture", "cdx_query_year"⟩ c := by
  induction rows generalizing recordsSeen with
  | nil => cases found
  | cons row rest ih =>
    rw [keyRows] at found
    cases accepted : acceptedYear p row key.hostname key.yearFrom key.yearFrom with
    | error failure =>
      rw [accepted] at found
      cases found
    | ok year =>
      rw [accepted] at found
      cases year with
      | none => exact ih found
      | some year =>
        dsimp only at found
        cases made : capsuleFromRow p client.sourceId key row year pagesSeen (recordsSeen + 1) "cdx_query_year" with
        | error failure =>
          rw [made] at found
          cases found
        | ok c' =>
          rw [made] at found
          cases found
          exact madeOf_row accepted made

theorem keyPages_made {key : EvidenceQueryKey} {failure : Option Failure} {pagesSeen recordsSeen : Nat} {last last' : Option Bool}
    {pages : List Page} {c : EvidenceCapsule} (found : (keyPages p client key failure pagesSeen recordsSeen last pages).ended =
    .ok (some c, last')) :
    MadeOf p client ⟨key.provider, key.policyVersion, "exact_host_cdx_capture", "cdx_query_year"⟩ c := by
  induction pages generalizing pagesSeen recordsSeen last with
  | nil => cases failure <;> cases found
  | cons page rest ih =>
    rw [keyPages] at found
    split at found
    · cases found
    · rename_i kept made
      cases found
      exact keyRows_made made
    · exact ih found

theorem makeExact_fields {r : ResultCommit.ExactFields} {made : ResultCommit.EvidenceQueryResult} (ok : makeExact r = .ok made) :
    made.toExactFields = r := by
  unfold makeExact at ok
  split at ok
  · cases ok
  · cases ok
    rfl

theorem makeRange_fields {r : ResultCommit.RangeFields} {made : ResultCommit.RangeEvidenceQueryResult} (ok : makeRange r = .ok made) :
    made.toRangeFields = r := by
  unfold makeRange at ok
  split at ok
  · cases ok
  · cases ok
    rfl

theorem makeDomain_fields {r : ResultCommit.DomainFields} {made : ResultCommit.DomainEvidenceQueryResult} (ok : makeDomain r = .ok made) :
    made.toDomainFields = r := by
  unfold makeDomain at ok
  split at ok
  · cases ok
  · cases ok
    rfl

theorem makePlatform_fields {r : PlatformHarvests.ResultFields} {made : PlatformHarvests.PlatformYearHarvestResult}
    (ok : makePlatform r = .ok made) :
    made.toResultFields = r := by
  unfold makePlatform at ok
  split at ok
  · cases ok
  · cases ok
    rfl

theorem queryKey_made {key : EvidenceQueryKey} {source : Pages} {r : ResultCommit.EvidenceQueryResult}
    (ok : queryKey p client spent key source = .ok r) {c : EvidenceCapsule} (member : c ∈ r.capsule.toList) :
    MadeOf p client ⟨key.provider, key.policyVersion, "exact_host_cdx_capture", "cdx_query_year"⟩ c := by
  have nothing {e : KeyEnd} {state : QueryState} {error : Option String} (made :
    makeExact (exactFields spent key e state none error) = .ok r) : False := by
    have none_ : r.capsule = none := congrArg ResultCommit.ExactFields.capsule (makeExact_fields made)
    rw [none_] at member
    cases member
  unfold queryKey at ok
  split_ifs at ok
  dsimp only at ok
  split at ok
  · rename_i result answered
    cases ok
    cases ended : (keyPages p client key source.failure 0 0 none source.pages).ended with
    | error failure =>
      rw [ended] at answered
      cases answered
    | ok pair =>
      obtain ⟨capsule, last⟩ := pair
      rw [ended] at answered
      cases capsule with
      | none => exact (nothing answered).elim
      | some c' =>
        have isCapsule : r.capsule = some c' := congrArg ResultCommit.ExactFields.capsule (makeExact_fields answered)
        rw [isCapsule] at member
        rw [List.mem_singleton.mp member]
        exact keyPages_made ended
  · exact (nothing ok).elim
  · exact (nothing ok).elim
  · cases ok

theorem collectRows_made {ι : Type} [DecidableEq ι] {accept : Row → Except Failure (Option ι)}
    {capsule : Row → ι → Nat → Except Failure EvidenceCapsule} {Kept : EvidenceCapsule → Prop}
    (kept : ∀ row i n c, accept row = .ok (some i) → capsule row i n = .ok c → Kept c) {recordsSeen : Nat}
    {found : List (ι × EvidenceCapsule)} {rows : List Row} (each : ∀ entry ∈ found, Kept entry.2) :
    ∀ entry ∈ (collectRows accept capsule recordsSeen found rows).2.1, Kept entry.2 := by
  induction rows generalizing recordsSeen found with
  | nil => exact each
  | cons row rest ih =>
    unfold collectRows
    cases accepted : accept row with
    | error failure => exact each
    | ok identity =>
      cases identity with
      | none => exact ih each
      | some identity =>
        dsimp only
        split_ifs
        · exact ih each
        · cases made : capsule row identity (recordsSeen + 1) with
          | error failure => exact each
          | ok c =>
            refine ih fun entry member => ?_
            rcases List.mem_append.mp member with old | new
            · exact each entry old
            · rw [List.mem_singleton.mp new]
              exact kept row identity _ c accepted made

theorem rangePages_made {key : EvidenceQueryKey} {failure : Option Failure} {pagesSeen recordsSeen : Nat} {found : ByYear}
    {last : Option Bool} {pages : List Page}
    (each : ∀ entry ∈ found, MadeOf p client ⟨key.provider, key.policyVersion, "exact_host_cdx_capture", "cdx_query_host_range"⟩ entry.2) :
    ∀ entry ∈ (rangePages p client key failure pagesSeen recordsSeen found last pages).found,
      MadeOf p client ⟨key.provider, key.policyVersion, "exact_host_cdx_capture", "cdx_query_host_range"⟩ entry.2 := by
  induction pages generalizing pagesSeen recordsSeen found last with
  | nil => cases failure <;> exact each
  | cons page rest ih =>
    have kept := @collectRows_made _ _ (fun row => acceptedYear p row key.hostname key.yearFrom key.yearTo)
      (fun row year recordNo => capsuleFromRow p client.sourceId key row year (pagesSeen + 1) recordNo "cdx_query_host_range")
      (MadeOf p client ⟨key.provider, key.policyVersion, "exact_host_cdx_capture", "cdx_query_host_range"⟩)
      (fun row year n c accepted made => madeOf_row accepted made) recordsSeen found page.1 each
    unfold rangePages
    change ∀ entry ∈ (rangeRows p client key (pagesSeen + 1) recordsSeen found page.1).2.1, _ at kept
    generalize rangeRows p client key (pagesSeen + 1) recordsSeen found page.1 = outcome at kept
    obtain ⟨records, found', ended⟩ := outcome
    cases ended with
    | some failure => exact kept
    | none =>
      dsimp only
      split_ifs
      · exact kept
      · exact kept
      · exact ih kept

theorem queryRange_made {key : EvidenceQueryKey} {source : Pages} {r : ResultCommit.RangeEvidenceQueryResult}
    (ok : queryRange p client spent key source = .ok r) {c : EvidenceCapsule} (member : c ∈ r.capsules) :
    MadeOf p client ⟨key.provider, key.policyVersion, "exact_host_cdx_capture", "cdx_query_host_range"⟩ c := by
  unfold queryRange at ok
  split_ifs at ok
  dsimp only at ok
  have each := @rangePages_made p client key source.failure 0 0 [] none source.pages nofun
  generalize rangePages p client key source.failure 0 0 [] none source.pages = e at ok each
  have ends {state : QueryState} {followup : List Int} {error : Option String}
      (made : makeRange (rangeFields spent key e state followup error) = .ok r) :
      MadeOf p client ⟨key.provider, key.policyVersion, "exact_host_cdx_capture", "cdx_query_host_range"⟩ c := by
    have isCapsules : r.capsules = capsulesOf e.found := congrArg ResultCommit.RangeFields.capsules (makeRange_fields made)
    rw [isCapsules] at member
    obtain ⟨year, -, found⟩ := List.mem_filterMap.mp member
    obtain ⟨entry, listed, rfl⟩ := Option.map_eq_some_iff.mp found
    exact each entry (List.mem_of_find?_eq_some listed)
  split at ok
  · rename_i result answered
    cases ok
    unfold CdxQueries.rangeAnswer at answered
    split at answered
    · exact ends answered
    · split_ifs at answered
      · exact ends answered
      · exact ends answered
      · exact ends answered
      · exact ends answered
    · cases answered
  · exact ends ok
  · split_ifs at ok
    · exact ends ok
    · exact ends ok
  · cases ok

theorem domainPair_read {key : EvidenceQueryKey} {row : Row} {pair : String × Int} (accepted : domainPair p key row = .ok (some pair)) :
    yearOf p (field p row "timestamp") = .ok (some pair.2) ∧ hostnameOf p (field p row "original") = some pair.1 := by
  unfold domainPair at accepted
  split_ifs at accepted
  · cases accepted
  cases read : yearOf p (field p row "timestamp") with
  | error failure =>
    rw [read] at accepted
    cases accepted
  | ok found =>
    rw [read] at accepted
    cases found with
    | none => cases accepted
    | some year =>
      change (if _ then Except.ok none else _) = _ at accepted
      split_ifs at accepted
      · cases accepted
      cases host : hostnameOf p (field p row "original") with
      | none =>
        rw [host] at accepted
        cases accepted
      | some hostname =>
        rw [host] at accepted
        change (if _ then Except.ok (some (hostname, year)) else Except.ok none) = _ at accepted
        split_ifs at accepted
        · obtain rfl := Option.some.inj (Except.ok.inj accepted)
          exact ⟨rfl, rfl⟩
        · cases accepted

theorem platformPair_read {i : PlatformHarvests.HarvestIdentity} {row : Row} {pair : String × Int}
    (accepted : platformPair p i row = .ok (some pair)) :
    yearOf p (field p row "timestamp") = .ok (some pair.2) ∧ hostnameOf p (field p row "original") = some pair.1 := by
  unfold platformPair at accepted
  cases read : yearOf p (field p row "timestamp") with
  | error failure =>
    rw [read] at accepted
    cases accepted
  | ok found =>
    rw [read] at accepted
    cases found with
    | none => cases accepted
    | some year =>
      change (if _ then Except.ok none else _) = _ at accepted
      split_ifs at accepted with other
      · cases accepted
      cases host : hostnameOf p (field p row "original") with
      | none =>
        rw [host] at accepted
        cases accepted
      | some hostname =>
        rw [host] at accepted
        change (if _ then Except.ok (some (hostname, i.targetYear)) else Except.ok none) = _ at accepted
        split_ifs at accepted
        · obtain rfl := Option.some.inj (Except.ok.inj accepted)
          have target : year = i.targetYear := by
            by_contra apart
            simp [apart] at other
          exact ⟨by rw [target], rfl⟩
        · cases accepted

theorem madeOf_domain {key : EvidenceQueryKey} (row : Row) (pair : String × Int) (n : Nat) (c : EvidenceCapsule)
    (accepted : domainPair p key row = .ok (some pair)) (made : domainCapsule p client key row pair n = .ok c) :
    MadeOf p client (domainMaking key) c := by
  obtain ⟨isYear, isHostname⟩ := domainPair_read accepted
  refine ⟨row, pair.1, pair.2, ":domain:" ++ (key.hostname ++
    (":" ++ (pair.1 ++ (":" ++ (toString pair.2 ++ (":record=" ++ toString n)))))),
    isYear, isHostname, ?_⟩
  rw [← made, domainCapsule]
  simp only [String.append_assoc]
  rfl

theorem queryDomain_made {key : EvidenceQueryKey} {response : Response} {r : ResultCommit.DomainEvidenceQueryResult}
    (ok : queryDomain p client spent key response = .ok r) {c : EvidenceCapsule} (member : c ∈ r.capsules) :
    MadeOf p client (domainMaking key) c := by
  have nothing {pages records : Nat} {state : QueryState} {error : Option String}
      (made : makeDomain (domainFields spent key pages records state [] error) = .ok r) : False := by
    have none_ : r.capsules = [] := congrArg ResultCommit.DomainFields.capsules (makeDomain_fields made)
    rw [none_] at member
    cases member
  unfold queryDomain at ok
  split_ifs at ok
  dsimp only at ok
  split at ok
  · rename_i result answered
    cases ok
    cases body : (domainBody p client key response).2.2 with
    | error failure =>
      rw [body] at answered
      cases answered
    | ok found =>
      rw [body] at answered
      have isCapsules : r.capsules = orderedCapsules found := congrArg ResultCommit.DomainFields.capsules (makeDomain_fields answered)
      rw [isCapsules] at member
      obtain ⟨entry, listed, rfl⟩ := mem_orderedCapsules member
      unfold domainBody at body
      split at body
      · cases body
      · split at body
        · cases body
        · rename_i rows resumeKey read
          have kept := @collectRows_made _ _ (domainPair p key) (domainCapsule p client key)
            (MadeOf p client (domainMaking key)) madeOf_domain
            0 [] rows nofun
          split at body
          · cases body
          · rename_i records found' ended
            cases body
            rw [ended] at kept
            exact kept entry listed
  · exact (nothing ok).elim
  · exact (nothing ok).elim
  · cases ok

theorem madeOf_platform {task : PlatformYearHarvestTask} (row : Row) (pair : String × Int) (n : Nat) (c : EvidenceCapsule)
    (accepted : platformPair p task.identity row = .ok (some pair)) (made : platformCapsule p client task row pair n = .ok c) :
    MadeOf p client ⟨task.identity.provider, task.identity.policyVersion, "platform_scope_cdx_capture", "cdx_harvest_platform_year"⟩ c := by
  obtain ⟨isYear, isHostname⟩ := platformPair_read accepted
  refine ⟨row, pair.1, pair.2, ":platform:" ++ (task.identity.subject ++ (":" ++ (toString task.identity.targetYear ++ (":page=" ++
    (toString task.pageNumber ++ (":record=" ++ toString n)))))), isYear, isHostname, ?_⟩
  rw [← made, platformCapsule]
  simp only [String.append_assoc]

theorem harvest_made {task : PlatformYearHarvestTask} {response : Response} {r : PlatformHarvests.PlatformYearHarvestResult}
    (ok : harvestPlatformYear p client spent task response = .ok r) {c : EvidenceCapsule} (member : c ∈ r.capsules) :
    MadeOf p client ⟨task.identity.provider, task.identity.policyVersion, "platform_scope_cdx_capture", "cdx_harvest_platform_year"⟩ c := by
  have ends {rows bytes : Nat} {state : PlatformHarvests.PlatformHarvestState} {next error : Option String} {capsules :
    List EvidenceCapsule}
      {exhaustive : Bool} (made : makePlatform (platformFields spent task rows bytes state next capsules exhaustive error) = .ok r) :
      c ∈ capsules := by
    have isCapsules : r.capsules = capsules := congrArg PlatformHarvests.ResultFields.capsules (makePlatform_fields made)
    rwa [← isCapsules]
  unfold harvestPlatformYear at ok
  dsimp only at ok
  split at ok
  · rename_i result answered
    cases ok
    by_cases provider : task.identity.provider ≠ client.provider
    · rw [platformBody, if_pos provider] at answered
      cases answered
    by_cases template : task.identity.requestTemplateHash ≠
        client.templateHash task.identity.subject task.identity.targetYear task.identity.policyVersion
    · rw [platformBody, if_neg provider, if_pos template] at answered
      cases answered
    rw [platformBody, if_neg provider, if_neg template] at answered
    unfold platformPage at answered
    split at answered
    · cases answered
    · split at answered
      · cases answered
      · rename_i rows nextKey read
        have kept := @collectRows_made _ _ (platformPair p task.identity) (platformCapsule p client task)
          (MadeOf p client ⟨task.identity.provider, task.identity.policyVersion, "platform_scope_cdx_capture", "cdx_harvest_platform_year"⟩)
          madeOf_platform 0 [] rows (fun _ none_ => absurd none_ List.not_mem_nil)
        split at answered
        · cases answered
        · rename_i rowsSeen found ended
          rw [ended] at kept
          have inside : c ∈ orderedCapsules found := by
            dsimp only at answered
            split at answered
            · split at answered
              · cases answered
              · exact ends answered
            · split at answered
              · exact ends answered
              · exact ends answered
          obtain ⟨entry, listed, rfl⟩ := mem_orderedCapsules inside
          exact kept entry listed
  · exact absurd (ends ok) List.not_mem_nil
  · exact absurd (ends ok) List.not_mem_nil
  · cases ok

theorem returned_made {responses : List Response} {call : Call} {capsules : List EvidenceCapsule}
    (ok : returned p client spent responses call = .ok capsules) {c : EvidenceCapsule} (member : c ∈ capsules) :
    MadeOf p client (making call) c := by
  have apart {α : Type} {answer : Except Failure α} {f : α → List EvidenceCapsule} (ok : answer.map f = .ok capsules) :
      ∃ r, answer = .ok r ∧ capsules = f r := by
    cases answer with
    | error failure => cases ok
    | ok r => exact ⟨r, rfl, (Except.ok.inj ok).symm⟩
  cases call with
  | queryKey key =>
    obtain ⟨r, answered, rfl⟩ := apart ok
    exact queryKey_made answered member
  | queryRange key =>
    unfold returned at ok
    unfold making
    dsimp only at ok ⊢
    split_ifs at ok ⊢
    · obtain ⟨r, answered, rfl⟩ := apart ok
      exact queryDomain_made answered member
    · obtain ⟨r, answered, rfl⟩ := apart ok
      exact queryRange_made answered member
  | queryDomain key =>
    obtain ⟨r, answered, rfl⟩ := apart ok
    exact queryDomain_made answered member
  | harvestPlatformYear task =>
    obtain ⟨r, answered, rfl⟩ := apart ok
    exact harvest_made answered member

end

/-! ## Submittable capsules -/

/-- A returned capsule is accepted exactly when the call is no domain query and its provider names no direct source, no RDAP and
no DNS. -/
theorem submittable_iff (p : Python) (lowers : Lowers p.toPython) (client : Client) (sourced : blank client.sourceId = false) (spent : Spent)
    (responses : List Response) (call : Call) (capsules : List EvidenceCapsule) (ok : returned p client spent responses call = .ok capsules)
    (c : EvidenceCapsule) (member : c ∈ capsules) (reviewed : Option ReviewedContractRegistry) :
    Accepted p reviewed c ↔ Submits p (making call) :=
  accepted_iff lowers reviewed sourced (making_listed call) (returned_made ok member)

/-- The client of the default source. -/
def wayback : Client := ⟨"wayback", "wayback", 1000, fun _ _ _ => ""⟩

theorem plainPython_lowers : Lowers CdxPaging.plainPython.toPython := fun _ _ => rfl

/-- The capsule of a captured year that a range query returns is accepted. -/
theorem range_submittable : ∃ key : EvidenceQueryKey, ∃ capsules c,
    returned CdxPaging.plainPython wayback ⟨1, 0⟩ [.ok (tableOf ["20010101000000"])] (.queryRange key) = .ok capsules ∧
    c ∈ capsules ∧ Accepted CdxPaging.plainPython none c := by
  let key : EvidenceQueryKey := ⟨"b.com", 1996, 2001, "wayback", "cdx-v1", by decide +kernel⟩
  have some_ : (match returned CdxPaging.plainPython wayback ⟨1, 0⟩ [.ok (tableOf ["20010101000000"])] (.queryRange key) with
      | .ok capsules => !capsules.isEmpty
      | .error _ => false) = true := by decide +kernel
  split at some_
  · rename_i capsules ok
    obtain ⟨c, others, rfl⟩ := List.exists_cons_of_ne_nil (by simpa using some_ : capsules ≠ [])
    have submits : Submits CdxPaging.plainPython (making (.queryRange key)) :=
      ⟨by decide +kernel, by decide +kernel, by decide +kernel, by decide +kernel⟩
    exact ⟨key, _, c, ok, List.mem_cons_self, (submittable_iff CdxPaging.plainPython plainPython_lowers wayback
      (by decide +kernel) ⟨1, 0⟩ _ _ _ ok c List.mem_cons_self none).mpr submits⟩
  · cases some_

/-- The domain query returns a capsule that is not accepted. -/
theorem domain_rejected : ∃ key : EvidenceQueryKey, ∃ capsules c,
    returned CdxPaging.plainPython wayback ⟨1, 0⟩ [.ok (tableOf ["20010101000000"])] (.queryDomain key) = .ok capsules ∧
    c ∈ capsules ∧ ¬Accepted CdxPaging.plainPython none c := by
  let key : EvidenceQueryKey := ⟨"b.com", 1996, 2001, "wayback", "cdx-domain-v1", by decide +kernel⟩
  have some_ : (match returned CdxPaging.plainPython wayback ⟨1, 0⟩ [.ok (tableOf ["20010101000000"])] (.queryDomain key) with
      | .ok capsules => !capsules.isEmpty
      | .error _ => false) = true := by decide +kernel
  split at some_
  · rename_i capsules ok
    obtain ⟨c, others, rfl⟩ := List.exists_cons_of_ne_nil (by simpa using some_ : capsules ≠ [])
    refine ⟨key, _, c, ok, List.mem_cons_self, fun accepted => ?_⟩
    have made := returned_made ok List.mem_cons_self
    exact ((accepted_iff plainPython_lowers none (by decide +kernel) (making_listed (.queryDomain key)) made).mp accepted).known rfl
  · cases some_

end Creeper.CaptureSemantics
