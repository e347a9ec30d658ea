import Creeper.BindingTokens
import Creeper.SearchResults

/-!
# The values an adapter id carries

`sources/format_binding.py`, `layout_binding.py` and `schema_binding.py`,
`evidence/contract_registry.py` and `contracts.py`: the format, the layout and the schema of a
source, the identity of a reviewed artifact and the evidence contract, with what their constructors
check, their tokens and how a token is read. The arguments of a constructor are JSON values.
-/

namespace Creeper.AdapterBindings
open Creeper.PyText Creeper.PyNumbers Creeper.JsonText Creeper.BindingTokens
open Creeper.EvidenceSemantics (stripText isDigitAt decimalDigit spaceAt)
open Creeper.SearchResults (Python normpath urlunsplit portOf SplitResult)
open Creeper.BatchPayload (member)

/-- What the constructors and readers raise. -/
inductive BindingError
  | valueError (message : PyStr)
  | reviewedContractRegistryError (message : PyStr)
  | typeError
  | attributeError
  | overflowError
  deriving DecidableEq

abbrev invalid {α : Type} (message : String) : Except BindingError α := .error (.valueError (py message))

abbrev unreviewed {α : Type} (message : String) : Except BindingError α := .error (.reviewedContractRegistryError (py message))

/-! ## Arguments -/

/-- `str(value).strip().lower()`. -/
def lowered (p : Python) (value : Json) : PyStr := p.lower (stripText (p.str value))

/-- `str(value).strip()`. -/
def trimmed (p : Python) (value : Json) : PyStr := stripText (p.str value)

def textOrNull : Option PyStr → Json
  | none => .null
  | some text => .str text

/-- `None`, or `str(value)`. -/
def someText (p : Python) : Json → Option PyStr
  | .null => none
  | value => some (p.str value)

/-! ## Tokens -/

/-- The token of a payload; an integer of more than 4300 digits has no text. -/
def bindingToken (payload : Json) : Except BindingError PyStr :=
  if short payload then .ok (tokenOf payload)
  else invalid "Exceeds the limit (4300 digits) for integer string conversion; use sys.set_int_max_str_digits() to increase the limit"

def valueAt (members : List (PyStr × Json)) (key : String) : Json := (member (.obj members) key).getD .null

/-- The keys of a payload, which stand in order. -/
def hasKeys (members : List (PyStr × Json)) (keys : List String) : Bool := members.map Prod.fst = keys.map py

/-! ## Formats -/

/-- `_SUPPORTED_PARSER_KINDS` and `_PARSER_KINDS`. -/
def parserKinds : List PyStr :=
  ["cdx", "cdxj", "jsonl", "delimited", "lines", "mbox_urls", "squid_access", "dmoz_rdf_urls", "ftp_sitelist_zip", "sbi_bbs_zip",
    "finnish_bbs_zip", "warc_arc"].map py

/-! ## Layouts -/

structure SourceRecordLayout where
  parserKind : PyStr
  hostnameField : PyStr
  delimiter : Option PyStr
  detectionMethod : PyStr
  confidence : JsonFloat
  sampleRecords : ℤ
  matchedRecords : ℤ
  policyVersion : PyStr
  deriving DecidableEq

/-! ## Schemas -/

structure SourceRecordSchema where
  parserKind : PyStr
  hostnameField : PyStr
  timestampField : PyStr
  delimiter : Option PyStr
  detectionMethod : PyStr
  confidence : JsonFloat
  sampleRecords : ℤ
  matchedRecords : ℤ
  directYearEligible : Bool
  policyVersion : PyStr
  deriving DecidableEq

/-! ## Reviewed artifacts -/

/-- `canonicalize_source_entrypoint` of a text. -/
def canonicalizeSourceEntrypoint (p : Python) (value : PyStr) : Except BindingError PyStr :=
  if stripText value = [] then invalid "source entrypoint must be a non-empty URL"
  else
    match p.urlsplit (stripText value) with
    | .error raised => .error (.valueError (match raised with | .valueError message => py message | _ => []))
    | .ok parsed =>
      let scheme := p.lower parsed.scheme
      if scheme ∉ ["http", "https"].map py then invalid "source entrypoint must use http or https"
      else if CodePoint.char '@' ∈ parsed.netloc then invalid "source entrypoint must not contain userinfo"
      else
        match p.hostnameOf parsed.netloc with
        | none => invalid "source entrypoint requires a hostname"
        | some hostname =>
          match p.idna hostname with
          | none => invalid "invalid source hostname"
          | some ascii =>
            let host := p.lower ascii
            let host := if CodePoint.char ':' ∈ host && !(py "[" <+: host) then py "[" ++ host ++ py "]" else host
            match portOf parsed.netloc with
            | .error _ => invalid "invalid source port"
            | .ok port =>
              let host :=
                match port with
                | none => host
                | some n =>
                  if scheme = py "http" && n = 80 || scheme = py "https" && n = 443 then host else host ++ py ":" ++ py (toString n)
              let rawPath := if parsed.path = [] then py "/" else parsed.path
              let path := normpath rawPath
              let path := if py "/" <+: path then path else py "/" ++ path
              let path := if rawPath.getLast? = some (.char '/') && path ≠ py "/" && path.getLast? ≠ some (.char '/') then path ++ py "/" else path
              .ok (urlunsplit ⟨scheme, host, path, parsed.query⟩)

/-- `normalize_strong_etag`. -/
def normalizeStrongEtag (p : Python) (value : PyStr) : Option PyStr :=
  let normalized := stripText value
  if normalized = [] || p.lower (normalized.take 2) = py "w/" then none else some normalized

structure ReviewedArtifactIdentity where
  kind : PyStr
  value : PyStr
  contentLength : Option ℤ
  deriving DecidableEq

/-- Lower-case hexadecimal digits. -/
def hexadecimal : CodePoint → Bool
  | .char c => c.isDigit || 'a' ≤ c && c ≤ 'f'
  | .surrogate _ => false

/-- A length, which is not negative where there is one. -/
def contentLengthOf : Json → Option (Option ℤ)
  | .null => some none
  | .int n => if n < 0 then none else some (some n)
  | _ => none

/-- A digest in lower case, without its scheme. -/
def sha256Value (p : Python) (value : PyStr) : Except BindingError PyStr :=
  let lower := p.lower value
  let digest := if py "sha256:" <+: lower then lower.drop 7 else lower
  if digest.length = 64 && digest.all hexadecimal then .ok digest
  else unreviewed "sha256 reviewed identity must be a 64-character hex digest"

/-- A strong ETag, which comes with a length. -/
def etagValue (p : Python) (value : PyStr) (contentLength : Json) : Except BindingError PyStr :=
  match normalizeStrongEtag p value with
  | none => unreviewed "etag+length reviewed identity requires a strong ETag"
  | some etag =>
    match contentLengthOf contentLength with
    | some (some _) => .ok etag
    | _ => unreviewed "etag+length reviewed identity requires content_length"

def locatorValue (p : Python) (value : PyStr) : Except BindingError PyStr :=
  match canonicalizeSourceEntrypoint p value with
  | .ok canonical => .ok canonical
  | .error _ => unreviewed "immutable_locator reviewed identity must be an HTTP(S) locator"

def identityValue (p : Python) (kind value : PyStr) (contentLength : Json) : Except BindingError PyStr :=
  if kind = py "sha256" then sha256Value p value
  else if kind = py "etag+length" then etagValue p value contentLength
  else locatorValue p value

def ReviewedArtifactIdentity.make (p : Python) (kind value contentLength : Json) : Except BindingError ReviewedArtifactIdentity :=
  if lowered p kind ∉ ["sha256", "etag+length", "immutable_locator"].map py then
    .error (.reviewedContractRegistryError (py "unsupported reviewed source identity kind: " ++ lowered p kind))
  else if trimmed p value = [] then unreviewed "reviewed source identity value is required"
  else do
    let text ← identityValue p (lowered p kind) (trimmed p value) contentLength
    match contentLengthOf contentLength with
    | some length => return ⟨lowered p kind, text, length⟩
    | none => unreviewed "reviewed identity content_length must be non-negative"

structure ReviewedArtifactBinding where
  locator : PyStr
  sourceIdentity : ReviewedArtifactIdentity
  custodian : PyStr
  edition : PyStr
  deriving DecidableEq

def ReviewedArtifactBinding.make (p : Python) (locator : Json) (identity : ReviewedArtifactIdentity) (custodian edition : Json) :
    Except BindingError ReviewedArtifactBinding :=
  let canonical := match locator with
    | .str text => canonicalizeSourceEntrypoint p text
    | _ => invalid "source entrypoint must be a non-empty URL"
  match canonical with
  | .error _ => unreviewed "reviewed contract locator must be canonicalizable HTTP(S)"
  | .ok locator =>
    if trimmed p custodian = [] then unreviewed "custodian is required"
    else if trimmed p edition = [] then unreviewed "edition is required"
    else if identity.kind = py "immutable_locator" && identity.value ≠ locator then
      unreviewed "immutable_locator identity does not match reviewed locator"
    else .ok ⟨locator, identity, trimmed p custodian, trimmed p edition⟩

def lengthJson : Option ℤ → Json
  | none => .null
  | some n => .int n

def ReviewedArtifactIdentity.payload (x : ReviewedArtifactIdentity) : Json := .obj [
  (py "content_length", lengthJson x.contentLength),
  (py "kind", .str x.kind),
  (py "value", .str x.value)]

def ReviewedArtifactBinding.payload (x : ReviewedArtifactBinding) : Json := .obj [
  (py "custodian", .str x.custodian),
  (py "edition", .str x.edition),
  (py "locator", .str x.locator),
  (py "source_identity", x.sourceIdentity.payload)]

/-! ## Evidence contracts -/

inductive EvidenceAuthority
  | directWebYear
  | registrationYear
  | dnsObservation
  | discoveryOnly
  deriving DecidableEq

def EvidenceAuthority.name : EvidenceAuthority → PyStr
  | .directWebYear => py "DIRECT_WEB_YEAR"
  | .registrationYear => py "REGISTRATION_YEAR"
  | .dnsObservation => py "DNS_OBSERVATION"
  | .discoveryOnly => py "DISCOVERY_ONLY"

/-- `EvidenceAuthority(value)`. -/
def EvidenceAuthority.ofJson (p : Python) (value : Json) : Except BindingError EvidenceAuthority :=
  let found := match value with
    | .str text => [directWebYear, registrationYear, dnsObservation, discoveryOnly].find? (·.name = text)
    | _ => none
  match found with
  | some authority => .ok authority
  | none => .error (.valueError (p.repr value ++ py " is not a valid EvidenceAuthority"))

structure SourceEvidenceContract where
  contractId : PyStr
  authority : EvidenceAuthority
  parserKind : PyStr
  temporalSemantics : PyStr
  evidenceType : PyStr
  hostnameField : Option PyStr
  timestampField : Option PyStr
  policyVersion : PyStr
  deriving DecidableEq

/-- `[a-z0-9][a-z0-9._-]{0,127}`. -/
def isContractId (text : PyStr) : Bool :=
  let plain : CodePoint → Bool
    | .char c => c.isDigit || c.isLower
    | .surrogate _ => false
  text.head?.any plain && text.length ≤ 128 && text.all fun c => plain c || c = .char '.' || c = .char '_' || c = .char '-'

/-- `value.strip()` of a text, `value.strip().lower()` in the end. -/
def stripped (p : Python) : Json → Except BindingError PyStr
  | .str text => .ok (p.lower (stripText text))
  | _ => .error .attributeError

/-- A field name, which is not empty where there is one. -/
def fieldOf (p : Python) (name : String) : Json → Except BindingError (Option PyStr)
  | .null => .ok none
  | value => if trimmed p value = [] then invalid (name ++ " must be non-empty when supplied") else .ok (some (trimmed p value))

def SourceEvidenceContract.checked (authority : Except BindingError EvidenceAuthority) (contractId parserKind : Except BindingError PyStr)
    (temporalSemantics evidenceType policyVersion : PyStr) (hostnameField timestampField : Except BindingError (Option PyStr)) :
    Except BindingError SourceEvidenceContract := do
  let authority ← authority
  let contractId ← contractId
  if !isContractId contractId then invalid "invalid evidence contract_id"
  else
    let parserKind ← parserKind
    if parserKind ∉ parserKinds then .error (.valueError (py "unsupported evidence contract parser_kind: " ++ parserKind))
    else if temporalSemantics = [] then invalid "temporal_semantics is required"
    else if evidenceType = [] then invalid "evidence_type is required"
    else if policyVersion = [] then invalid "policy_version is required"
    else
      let hostnameField ← hostnameField
      let timestampField ← timestampField
      if authority = .directWebYear && parserKind = py "warc_arc" then
        invalid "warc_arc DIRECT_WEB_YEAR contracts are not supported by the current production adapter"
      else if authority = .directWebYear && parserKind ∉ ["cdx", "cdxj"].map py && hostnameField.isNone then
        invalid "structured DIRECT_WEB_YEAR contracts require hostname_field"
      else return ⟨contractId, authority, parserKind, temporalSemantics, evidenceType, hostnameField, timestampField, policyVersion⟩

def SourceEvidenceContract.make (p : Python) (contractId authority parserKind temporalSemantics evidenceType hostnameField timestampField
    policyVersion : Json) : Except BindingError SourceEvidenceContract :=
  checked (EvidenceAuthority.ofJson p authority) (stripped p contractId) (stripped p parserKind) (trimmed p temporalSemantics)
    (trimmed p evidenceType) (trimmed p policyVersion) (fieldOf p "hostname_field" hostnameField)
    (fieldOf p "timestamp_field" timestampField)

def SourceEvidenceContract.payload (x : SourceEvidenceContract) : Json := .obj [
  (py "authority", .str x.authority.name),
  (py "contract_id", .str x.contractId),
  (py "evidence_type", .str x.evidenceType),
  (py "hostname_field", textOrNull x.hostnameField),
  (py "parser_kind", .str x.parserKind),
  (py "policy_version", .str x.policyVersion),
  (py "temporal_semantics", .str x.temporalSemantics),
  (py "timestamp_field", textOrNull x.timestampField)]

def SourceEvidenceContract.texts (x : SourceEvidenceContract) : List PyStr :=
  [x.contractId, x.parserKind, x.temporalSemantics, x.evidenceType, x.policyVersion] ++ x.hostnameField.toList ++ x.timestampField.toList

end Creeper.AdapterBindings
