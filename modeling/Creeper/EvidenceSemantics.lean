import Creeper.EvidenceBridge

/-!
# What a capsule proves

`evidence/classification.py`: how the proof of a capsule was acquired, and whether it is valid
for its year. A capsule is read from a row of `evidence.jsonl`; its texts may hold any code
point that JSON can.
-/

namespace Creeper.EvidenceSemantics
open Creeper.PyText Creeper.PyNumbers Creeper.JsonText Creeper.EvidenceTasks
open Creeper.BatchPayload (member charsOf)
open Creeper.EvidenceBridge (intText)
open Creeper.FabricModels (PyError)

/-! ## Texts -/

/-- What Python makes of a text in lower case, of the text of a float, an array or an object, the
    network locations that `urlsplit` refuses, and the texts of its own exceptions. -/
structure Python where
  lower : PyStr → PyStr
  repr : Json → PyStr
  refusesNetloc : PyStr → Bool
  complaint : PyStr → String

/-- `str.isspace` of a code point. -/
def spaceAt : CodePoint → Bool
  | .char c => isSpace c
  | .surrogate _ => false

/-- `str.strip()`. -/
def stripText (s : PyStr) : PyStr := ((s.dropWhile spaceAt).reverse.dropWhile spaceAt).reverse

/-- `str(value)`. -/
def Python.str (p : Python) : Json → PyStr
  | .str text => text
  | .null => py "None"
  | .bool true => py "True"
  | .bool false => py "False"
  | .int n => py (toString n)
  | value => p.repr value

/-- `normalize_official`. -/
def Python.normalizeOfficial (p : Python) (raw : PyStr) : Option String :=
  ((charsOf (p.lower (stripText raw))).map String.ofList).filter officialHost

/-- `int(value)`: an infinite number is an `OverflowError`, what is no number one that the caller catches. -/
def intOf : Json → Except (Option PyError) Int
  | .int n => .ok n
  | .bool value => .ok (if value then 1 else 0)
  | .float .infinity | .float .negInfinity => .error (some .overflowError)
  | .float (.finite text _) =>
    match floatOf (String.ofList text) with
    | some (.fin q) => .ok (q.num.tdiv q.den)
    | some .posInf | some .negInf => .error (some .overflowError)
    | _ => .error none
  | .str text =>
    match (charsOf text).bind intText with
    | some n => .ok n
    | none => .error none
  | _ => .error none

/-- The text ends inside or outside a literal, after a character of a number or not; an integer of
    more than 4300 digits starts at some place outside. -/
def longInteger : Bool → Bool → PyStr → Bool
  | _, _, [] => false
  | true, _, .char '\\' :: _ :: rest => longInteger true false rest
  | true, _, c :: rest => longInteger (c ≠ .char '"') false rest
  | false, within, c :: rest =>
    let text := (numberText (c :: rest)).1
    let digits := if text.head? == some '-' then text.tail else text
    !within && isWhole digits && 4300 < digits.length || longInteger (c = .char '"') (!(numberText [c]).1.isEmpty) rest

/-- `json.loads` of a text, which refuses integers of more than 4300 digits. -/
def loadsText (s : PyStr) : Option Json := if longInteger false false s then none else loads s

/-! ## Capsules -/

/-- The fields of an `EvidenceCapsule`. -/
structure Capsule where
  hostname : String
  year : Int
  provider : PyStr
  temporalSemantics : PyStr
  evidenceTimestamp : PyStr
  sourceLocator : PyStr
  payloadHash : PyStr
  policyVersion : PyStr
  evidenceType : PyStr
  sourceId : PyStr
  originalUrl : PyStr
  recordLocator : PyStr
  extractionMethod : PyStr

/-- The defaults that the constructor fills in. -/
def Capsule.filled (c : Capsule) : Capsule where
  hostname := c.hostname
  year := c.year
  provider := c.provider
  temporalSemantics := c.temporalSemantics
  evidenceTimestamp := c.evidenceTimestamp
  sourceLocator := c.sourceLocator
  payloadHash := c.payloadHash
  policyVersion := c.policyVersion
  evidenceType :=
    if c.evidenceType ≠ [] then c.evidenceType
    else if py "direct:" <+: c.provider then py "source_direct_year" else py "archive_capture"
  sourceId := if c.sourceId ≠ [] then c.sourceId else c.provider
  originalUrl := if c.originalUrl ≠ [] then c.originalUrl else c.sourceLocator
  recordLocator := if c.recordLocator ≠ [] then c.recordLocator else c.sourceLocator
  extractionMethod := if c.extractionMethod ≠ [] then c.extractionMethod else py "provider_record"

/-- The constructor of `EvidenceCapsule`, after the hostname; it gives the text of its exception. -/
def Capsule.make (c : Capsule) : Except String Capsule :=
  if !(1996 ≤ c.year && c.year ≤ 2001) then .error "evidence capsule year must be an integer within 1996-2001"
  else if stripText c.provider = [] then .error "evidence capsule provider is required"
  else if stripText c.policyVersion = [] then .error "evidence capsule policy_version is required"
  else if stripText c.payloadHash = [] then .error "evidence capsule payload_hash is required"
  else .ok c.filled

/-! ## Acquisition lanes -/

inductive AcquisitionLane
  | directAnnual
  | verifiedCandidate
  | registrationYear
  | dnsReference
  | unknown
  deriving DecidableEq

/-- What binds a direct proof in a `SourceEvidenceContract`. -/
structure SourceEvidenceContract where
  contractId : PyStr
  policyVersion : PyStr
  evidenceType : PyStr
  temporalSemantics : PyStr
  deriving DecidableEq

/-- The contract of a source locator in a `ReviewedContractRegistry`, as `get_exact` finds it. -/
abbrev ReviewedContractRegistry := PyStr → Option SourceEvidenceContract

def cdxDirectContract : SourceEvidenceContract :=
  ⟨py "archive-cdx-capture-v1", py "archive-capture-contract-v1", py "dated_archive_index", py "archive_capture_timestamp"⟩

def cdxjDirectContract : SourceEvidenceContract :=
  ⟨py "archive-cdxj-capture-v1", py "archive-capture-contract-v1", py "dated_archive_index", py "archive_capture_timestamp"⟩

/-- `_DIRECT_CONTRACTS`. -/
def directContracts : List SourceEvidenceContract := [cdxDirectContract, cdxjDirectContract]

/-- A piece between semicolons that names a contract and its version. -/
def contractNamed (piece : PyStr) : Option (PyStr × PyStr) :=
  if py "contract=" <+: piece then
    let named := piece.drop 9
    match named.takeWhile (· ≠ .char '@'), named.dropWhile (· ≠ .char '@') with
    | a :: id, _ :: b :: version => some (a :: id, b :: version)
    | _, _ => none
  else none

/-- `_CONTRACT_RE.search`. -/
def contractOf (extractionMethod : PyStr) : Option (PyStr × PyStr) := (extractionMethod.splitOn (.char ';')).findSome? contractNamed

/-- `_bound_direct_contract`. -/
def boundDirectContract (capsule : Capsule) (reviewed : Option ReviewedContractRegistry) : Option SourceEvidenceContract := do
  let named ← contractOf capsule.extractionMethod
  let contract ←
    match directContracts.find? fun contract => (contract.contractId, contract.policyVersion) = named with
    | some contract => some contract
    | none => (reviewed.bind (· capsule.sourceLocator)).filter fun contract => (contract.contractId, contract.policyVersion) = named
  if capsule.evidenceType ≠ contract.evidenceType ∨ capsule.temporalSemantics ≠ contract.temporalSemantics then none
  else some contract

/-- `_CAPTURE_TYPES`. -/
def captureTypes : List PyStr := [py "exact_host_cdx_capture", py "archive_capture", py "platform_scope_cdx_capture"]

/-- `_CAPTURE_SEMANTICS`. -/
def captureSemantics : List PyStr := [py "capture_timestamp_year", py "archive_capture_timestamp"]

/-- `classify_acquisition_lane`. -/
def classifyAcquisitionLane (p : Python) (capsule : Capsule) (reviewed : Option ReviewedContractRegistry) : AcquisitionLane :=
  if py "direct:" <+: capsule.provider then
    if (boundDirectContract capsule reviewed).isSome then .directAnnual else .unknown
  else if capsule.provider = py "rdap" ∨ capsule.evidenceType = py "rdap_registration_event" ∨
      capsule.temporalSemantics = py "registration_event_year" then .registrationYear
  else if py "dns" <:+: p.lower ([capsule.provider, capsule.evidenceType, capsule.temporalSemantics,
      capsule.extractionMethod].intersperse (py " ")).flatten then .dnsReference
  else if capsule.evidenceType ∈ captureTypes ∧ capsule.temporalSemantics ∈ captureSemantics then .verifiedCandidate
  else .unknown

inductive Bucket
  | directAnnual
  | verifiedCandidate
  | otherRestricted
  deriving DecidableEq

/-- `contribution_bucket`. -/
def contributionBucket : AcquisitionLane → Bucket
  | .directAnnual => .directAnnual
  | .verifiedCandidate => .verifiedCandidate
  | _ => .otherRestricted

/-! ## Validation -/

/-- Digits of Unicode 15 that are no decimal digits: `isdigit` accepts them and `int` does not. -/
def otherDigits : List (Nat × Nat) := [
  (0xb2, 0xb3), (0xb9, 0xb9), (0x1369, 0x1371), (0x19da, 0x19da), (0x2070, 0x2070), (0x2074, 0x2079), (0x2080, 0x2089),
  (0x2460, 0x2468), (0x2474, 0x247c), (0x2488, 0x2490), (0x24ea, 0x24ea), (0x24f5, 0x24fd), (0x24ff, 0x24ff),
  (0x2776, 0x277e), (0x2780, 0x2788), (0x278a, 0x2792), (0x10a40, 0x10a43), (0x10e60, 0x10e68), (0x11052, 0x1105a),
  (0x1f100, 0x1f10a)]

def decimalDigit (c : CodePoint) : Option Nat :=
  (digitZeros.find? fun start => start ≤ c.toNat && c.toNat < start + 10).map (c.toNat - ·)

/-- `str.isdigit` of a code point. -/
def isDigitAt (c : CodePoint) : Bool :=
  (decimalDigit c).isSome || otherDigits.any fun range => range.1 ≤ c.toNat && c.toNat ≤ range.2

/-- `_timestamp_year`. -/
def timestampYear (timestamp : PyStr) : Except PyError (Option Int) :=
  let text := stripText timestamp
  if text.length < 4 || !(text.take 4).all isDigitAt then .ok none
  else
    match (text.take 4).mapM decimalDigit with
    | some digits => .ok (some (digits.foldl (fun n d => 10 * n + d) 0))
    | none => .error (.valueError "invalid literal for int() with base 10")

/-- The path of a URL after its scheme: a letter and then letters, digits and `+-.`. -/
def afterScheme (url : PyStr) : PyStr :=
  let letter (c : CodePoint) : Bool := match c with
    | .char c => c.isAlpha
    | .surrogate _ => false
  let schemeChar (c : CodePoint) : Bool := letter c || match c with
    | .char c => c.isDigit || c == '+' || c == '-' || c == '.'
    | .surrogate _ => false
  let scheme := url.takeWhile (· ≠ .char ':')
  match url.dropWhile (· ≠ .char ':') with
  | _ :: rest => if scheme.head?.any letter && scheme.all schemeChar then rest else url
  | [] => url

/-- The hostname of a network location, `SplitResult.hostname`. -/
def Python.hostnameOf (p : Python) (netloc : PyStr) : Option PyStr :=
  let hostinfo := (netloc.splitOn (.char '@')).getLastD []
  let hostname :=
    match hostinfo.dropWhile (· ≠ .char '[') with
    | _ :: bracketed => bracketed.takeWhile (· ≠ .char ']')
    | [] => hostinfo.takeWhile (· ≠ .char ':')
  if hostname = [] then none
  else some (p.lower (hostname.takeWhile (· ≠ .char '%')) ++ hostname.dropWhile (· ≠ .char '%'))

/-- `urlsplit(url).hostname`; nothing when `urlsplit` raises. -/
def Python.urlHost (p : Python) (url : PyStr) : Option (Option PyStr) :=
  let url := (url.dropWhile (·.toNat ≤ 32)).filter fun c => c ≠ .char '\t' && c ≠ .char '\r' && c ≠ .char '\n'
  let rest := afterScheme url
  let netloc := if py "//" <+: rest then (rest.drop 2).takeWhile (fun c => c ≠ .char '/' && c ≠ .char '?' && c ≠ .char '#') else []
  if p.refusesNetloc netloc then none else some (p.hostnameOf netloc)

/-- `_exact_original_hostname`. -/
def exactOriginalHostname (p : Python) (capsule : Capsule) : Bool :=
  match p.urlHost capsule.originalUrl with
  | none => false
  | some host => p.normalizeOfficial (host.getD []) = some capsule.hostname

structure EvidenceSemanticValidation where
  lane : AcquisitionLane
  acceptedForAnnual : Bool
  errors : List String

def AcquisitionLane.annual (lane : AcquisitionLane) : Bool := lane ∈ [.directAnnual, .verifiedCandidate, .registrationYear]

/-- The named texts of a capsule. -/
def Capsule.provenance (c : Capsule) : List (String × PyStr) := [
  ("provider", c.provider), ("temporal_semantics", c.temporalSemantics), ("evidence_timestamp", c.evidenceTimestamp),
  ("source_locator", c.sourceLocator), ("payload_hash", c.payloadHash), ("policy_version", c.policyVersion),
  ("evidence_type", c.evidenceType), ("source_id", c.sourceId), ("original_url", c.originalUrl),
  ("record_locator", c.recordLocator), ("extraction_method", c.extractionMethod)]

/-- One error when a check fails. -/
def errorUnless (holds : Bool) (error : String) : List String := if holds then [] else [error]

/-- What `validate_evidence_semantics` finds in a lane. -/
def laneErrors (p : Python) (capsule : Capsule) (reviewed : Option ReviewedContractRegistry) : AcquisitionLane → List String
  | .directAnnual =>
    let expectedSourceId := if py "direct:" <+: capsule.provider then capsule.provider.drop 7 else capsule.provider
    errorUnless (exactOriginalHostname p capsule) "exact capture original URL hostname does not match capsule hostname" ++
      errorUnless (expectedSourceId ≠ [] && capsule.sourceId = expectedSourceId) "direct provider/source_id provenance mismatch" ++
      errorUnless (boundDirectContract capsule reviewed).isSome "direct evidence is not bound to a supported reviewed contract"
  | .verifiedCandidate =>
    errorUnless (exactOriginalHostname p capsule) "exact capture original URL hostname does not match capsule hostname" ++
      errorUnless (¬py "direct:" <+: capsule.provider) "externally verified capture cannot use direct provider provenance"
  | .registrationYear =>
    errorUnless (capsule.provider = py "rdap") "registration-year evidence must use the RDAP provider" ++
      errorUnless (capsule.evidenceType = py "rdap_registration_event") "registration-year evidence must be a registration event" ++
      errorUnless (capsule.temporalSemantics = py "registration_event_year") "registration-year evidence has unsupported temporal semantics"
  | .dnsReference => ["DNS reference cannot prove annual web presence"]
  | .unknown => ["unsupported evidence type/semantic combination"]

def timestampErrors (capsule : Capsule) (lane : AcquisitionLane) (year : Option Int) : List String :=
  if lane.annual then
    match year with
    | none => ["evidence timestamp has no valid four-digit year"]
    | some year => errorUnless (year = capsule.year) "evidence timestamp year does not match capsule target year"
  else []

/-- `validate_evidence_semantics`. -/
def validateEvidenceSemantics (p : Python) (capsule : Capsule) (reviewed : Option ReviewedContractRegistry) :
    Except PyError EvidenceSemanticValidation := do
  let lane := classifyAcquisitionLane p capsule reviewed
  let year ← timestampYear capsule.evidenceTimestamp
  let errors :=
    errorUnless (p.normalizeOfficial (py capsule.hostname) = some capsule.hostname) "hostname is not canonical official normalization" ++
      errorUnless (1996 ≤ capsule.year && capsule.year < 2002) "year is outside 1996..2001" ++
      (capsule.provenance.filter fun field => stripText field.2 = []).map (fun field => "missing evidence provenance: " ++ field.1) ++
      timestampErrors capsule lane year ++ laneErrors p capsule reviewed lane
  return ⟨lane, errors.isEmpty && lane.annual, errors⟩

/-- The constructor checks the year. -/
theorem Capsule.make_year {c c' : Capsule} (made : c.make = .ok c') : 1996 ≤ c'.year ∧ c'.year ≤ 2001 := by
  unfold Capsule.make at made
  cases inside : decide (1996 ≤ c.year) && decide (c.year ≤ 2001) with
  | false =>
    rw [inside] at made
    cases made
  | true =>
    repeat' split at made
    all_goals try cases made
    obtain ⟨low, high⟩ := Bool.and_eq_true_iff.mp inside
    exact ⟨of_decide_eq_true low, of_decide_eq_true high⟩

theorem validation_errors {p : Python} {capsule : Capsule} {reviewed : Option ReviewedContractRegistry}
    {validation : EvidenceSemanticValidation} (validated : validateEvidenceSemantics p capsule reviewed = .ok validation)
    (refused : ¬validation.acceptedForAnnual) : validation.errors ≠ [] := by
  unfold validateEvidenceSemantics at validated
  cases reads : timestampYear capsule.evidenceTimestamp with
  | error err =>
    rw [reads] at validated
    cases validated
  | ok year =>
    rw [reads] at validated
    cases validated
    intro none_
    dsimp only at none_ refused
    rw [none_] at refused
    have inLane := (List.append_eq_nil_iff.mp none_).2
    -- a lane that proves no year is an error itself
    cases lane : classifyAcquisitionLane p capsule reviewed with
    | directAnnual | verifiedCandidate | registrationYear =>
      rw [lane] at refused
      exact refused (by decide)
    | dnsReference | unknown =>
      rw [lane] at inLane
      cases inLane

theorem validation_raises (p : Python) (capsule : Capsule) (reviewed : Option ReviewedContractRegistry) :
    (∃ validation, validateEvidenceSemantics p capsule reviewed = .ok validation) ↔
      ∃ year, timestampYear capsule.evidenceTimestamp = .ok year := by
  unfold validateEvidenceSemantics
  cases timestampYear capsule.evidenceTimestamp with
  | error err =>
    refine ⟨?_, ?_⟩
    · rintro ⟨_, raised⟩
      cases raised
    · rintro ⟨_, raised⟩
      cases raised
  | ok year => exact ⟨fun _ => ⟨year, rfl⟩, fun _ => ⟨_, rfl⟩⟩

end Creeper.EvidenceSemantics
