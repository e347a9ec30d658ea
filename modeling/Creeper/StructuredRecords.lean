import Creeper.RowTexts
import Creeper.AdapterBindings

/-!
# Structured records

`StructuredProductionAdapter` of `sources/production.py`: how it reads a row of each kind, the
authority that its evidence contract gives to the record, and the hostnames of the record.
-/

namespace Creeper.StructuredRecords
open Creeper.PyText Creeper.PyNumbers Creeper.JsonText Creeper.RowTexts Creeper.AdapterBindings
open Creeper.EvidenceSemantics (stripText isDigitAt decimalDigit)
open Creeper.ArchiveRecords (yearBit targetYears words)
open Creeper.FabricModels (PyError)

/-! ## Adapters -/

/-- The kinds of rows; a kind without a reader of its own has whole lines for records. -/
inductive RowKind
  | cdx
  | cdxj
  | mboxUrls
  | squidAccess
  | dmozRdfUrls
  | jsonl
  | delimited
  | whole
  deriving DecidableEq

def rowKind (parserKind : PyStr) : RowKind :=
  if parserKind = py "cdx" then .cdx
  else if parserKind = py "cdxj" then .cdxj
  else if parserKind = py "mbox_urls" then .mboxUrls
  else if parserKind = py "squid_access" then .squidAccess
  else if parserKind = py "dmoz_rdf_urls" then .dmozRdfUrls
  else if parserKind = py "jsonl" then .jsonl
  else if parserKind = py "delimited" then .delimited
  else .whole

/-- A `StructuredProductionAdapter`. -/
structure StructuredProductionAdapter where
  sourceId : String
  source : String
  kind : PyStr
  layoutBinding : Option SourceRecordLayout
  schemaBinding : Option SourceRecordSchema
  evidenceContract : SourceEvidenceContract
  temporalScope : Option (ℤ × ℤ)
  delimiter : CodePoint

/-- `grants_direct_web_year`. -/
def grantsDirectWebYear (contract : SourceEvidenceContract) : Bool := contract.authority = .directWebYear

/-- A `SourceRecord`. -/
structure SourceRecord where
  sourceId : String
  locator : String
  payload : PyStr
  sourceYear : Option Nat
  sourceTime : Option PyStr
  recordType : String
  artifactRef : String
  directYearMask : Nat
  yearHintMask : Nat
  evidenceType : PyStr
  temporalSemantics : PyStr
  evidenceContractId : PyStr
  evidenceContractVersion : PyStr
  deriving DecidableEq

/-- A `HostObservation`. -/
structure HostObservation where
  hostname : String
  originalUrl : PyStr
  sourceId : String
  locator : String
  sourceYear : Option Nat
  sourceTime : Option PyStr
  recordType : String
  artifactRef : String
  directYearMask : Nat
  yearHintMask : Nat
  evidenceType : PyStr
  temporalSemantics : PyStr
  evidenceContractId : PyStr
  evidenceContractVersion : PyStr
  deriving DecidableEq

namespace StructuredProductionAdapter
variable (p : Python) (a : StructuredProductionAdapter)

/-- `_default_source_year`. -/
def defaultSourceYear : Option Nat :=
  a.temporalScope.bind fun scope => if scope.1 = scope.2 ∧ 1996 ≤ scope.1 ∧ scope.1 ≤ 2001 then some scope.1.toNat else none

/-- The hostname field of the schema or else of the layout. -/
def hostnameBinding : Option PyStr :=
  match a.schemaBinding with
  | some schema => some schema.hostnameField
  | none => a.layoutBinding.map (·.hostnameField)

/-- `_contract_timestamp_year`, with the text of the time. -/
def contractTimestampYear (rawTimestamp : Option Json) : Option (Nat × PyStr) :=
  match a.evidenceContract.timestampField with
  | none => a.defaultSourceYear.map fun year => (year, py (toString year))
  | some _ => rawTimestamp.bind fun raw => (yearFromScalar raw).map fun year => (year, stripText (p.str raw))

/-- What the reader of a kind makes of a row. -/
structure RowReading where
  payload : PyStr
  sourceYear : Option Nat
  sourceTime : Option PyStr
  recordType : String
  contractDirectYear : Option Nat

/-- A reading as the contract pass leaves it: a readable hostname and a target year replace what was found before. -/
def contractPass (found : RowReading) (rawHost : Option PyStr) (time : Option (Nat × PyStr)) : RowReading :=
  match rawHost.bind p.readable, time.filter (·.1 ∈ targetYears) with
  | some payload, some (year, text) =>
    { found with payload := payload, sourceYear := some year, sourceTime := some text, contractDirectYear := some year }
  | _, _ => found

/-! ## Mailboxes, proxies and directories -/

def readMbox (payload : PyStr) : Option RowReading :=
  match p.extractHttpUrls 64 payload with
  | [] => none
  | urls => some ⟨(py "\t").intercalate urls, a.defaultSourceYear, none, "MAILBOX_URL_LINE", none⟩

def readSquid (payload : PyStr) : Option RowReading :=
  (p.parseSquidAccessLine payload).map fun (url, year) =>
    ⟨url, some year, some ((words payload).headD []), "SQUID_ACCESS_URL", if grantsDirectWebYear a.evidenceContract then some year else none⟩

def readDmoz (payload : PyStr) : Option RowReading :=
  (p.parseDmozExternalPageLine payload).map fun url => ⟨url, a.defaultSourceYear, none, "CURATED_DIRECTORY_URL", none⟩

/-! ## Objects -/

def hostKeys : List PyStr := ["hostname", "host", "domain", "url", "original", "original_url", "uri"].map py

def yearKeys : List PyStr := ["year", "source_year", "capture_year", "timestamp", "date", "warc_date", "crawl_date"].map py

def textAt (items : List (PyStr × Json)) (key : PyStr) : Option PyStr :=
  match p.loweredGet items key with
  | some (.str text) => some text
  | _ => none

def yearAt (items : List (PyStr × Json)) (key : PyStr) : Option (Nat × PyStr) :=
  (p.loweredGet items key).bind fun raw => (yearFromScalar raw).map fun year => (year, stripText (p.str raw))

/-- The readable hostname of an object: of the bound field, or else of the first key that has one. -/
def selectedAt (items : List (PyStr × Json)) : Option PyStr :=
  (a.hostnameBinding.bind fun field => (textAt p items (p.lower field)).bind p.readable).or
    (hostKeys.findSome? fun key => (textAt p items key).bind p.readable)

/-- What the schema and the keys of years say about the time of an object. -/
def timeAt (items : List (PyStr × Json)) : Option (Nat × Option PyStr) :=
  let default := a.defaultSourceYear.map (·, none)
  let bound := (a.schemaBinding.bind fun schema => yearAt p items (p.lower schema.timestampField)).map fun time => (time.1, some time.2)
  let found := bound.or default
  if a.schemaBinding.isNone || found.isNone then
    ((yearKeys.findSome? (yearAt p items)).map fun time => (time.1, some time.2)).or found
  else found

/-- The contract pass over an object. -/
def contractObject (items : List (PyStr × Json)) (found : RowReading) : RowReading :=
  match grantsDirectWebYear a.evidenceContract, a.evidenceContract.hostnameField with
  | true, some field =>
    contractPass p found (textAt p items (p.lower field))
      (a.contractTimestampYear p (a.evidenceContract.timestampField.bind fun field => p.loweredGet items (p.lower field)))
  | _, _ => found

/-- The members of a row of objects. -/
def rowItems (payload : PyStr) : Except PyError (Option (List (PyStr × Json))) :=
  if p.refusesJson payload then .error (.valueError "json.loads") else .ok ((objectPairs payload).map insertionOrder)

def readJsonl (payload : PyStr) : Except PyError (Option RowReading) :=
  (rowItems p payload).map fun items => items.bind fun items => (a.selectedAt p items).map fun selected =>
    let time := a.timeAt p items
    a.contractObject p items ⟨selected, time.map (·.1), time.bind (·.2), "STRUCTURED_JSONL", none⟩

/-! ## Delimited rows -/

/-- The column that a field names, `column:` before its number or not. -/
def columnOf (field : PyStr) : Except PyError (Option Nat) :=
  let text := p.lower (stripText field)
  let text := if py "column:" <+: text then text.drop 7 else text
  if text = [] || !text.all isDigitAt then .ok none
  else
    match text.mapM decimalDigit with
    | none => .error (.valueError "invalid literal for int() with base 10")
    | some digits =>
      if 4300 < digits.length then .error (.valueError "Exceeds the limit (4300 digits) for integer string conversion")
      else .ok (some (digits.foldl (fun n d => 10 * n + d) 0))

/-- `_delimited_contract_cell`. -/
def delimitedContractCell (row : List PyStr) : Option PyStr → Except PyError (Option PyStr)
  | none => .ok none
  | some field => (columnOf p field).map fun index => index.bind (row[·]?)

def cellYear (cell : PyStr) : Option (Nat × PyStr) := (yearOfText cell).map (·, stripText cell)

/-- The contract pass over a delimited row. -/
def contractRow (row : List PyStr) (found : RowReading) : Except PyError RowReading :=
  match grantsDirectWebYear a.evidenceContract, a.evidenceContract.hostnameField with
  | true, some field => do
    let rawHost ← delimitedContractCell p row (some field)
    let rawTime ← delimitedContractCell p row a.evidenceContract.timestampField
    return contractPass p found rawHost (a.contractTimestampYear p (rawTime.map .str))
  | _, _ => .ok found

/-- A delimited row of cells. -/
def readRow (row : List PyStr) : Except PyError (Option RowReading) := do
  let bound ← delimitedContractCell p row a.hostnameBinding
  let boundTime ← delimitedContractCell p row (a.schemaBinding.map (·.timestampField))
  match (bound.bind p.readable).or (row.findSome? p.readable) with
  | none => return none
  | some selected =>
    let explicit := (boundTime.bind cellYear).or (row.findSome? cellYear)
    let found : RowReading := ⟨selected, (explicit.map (·.1)).or a.defaultSourceYear, explicit.map (·.2), "STRUCTURED_DELIMITED", none⟩
    let reading ← a.contractRow p row found
    return some reading

def readDelimited (payload : PyStr) : Except PyError (Option RowReading) :=
  match csvRow a.delimiter payload with
  | none => .ok none
  | some row => a.readRow p row

/-! ## Whole lines -/

def readWhole (payload : PyStr) : RowReading :=
  let found : RowReading := ⟨payload, a.defaultSourceYear, none, "STRUCTURED_LINE", none⟩
  let contract := a.evidenceContract
  if grantsDirectWebYear contract && contract.hostnameField.any (fun field => p.lower (stripText field) ∈ ["record", "line", "0", "column:0"].map py) &&
      contract.timestampField.isNone && (p.hostnameFromScalar payload).isSome then
    match a.contractTimestampYear p none with
    | some (year, text) => { found with sourceYear := some year, sourceTime := some text, contractDirectYear := some year }
    | none => found
  else found

/-! ## Records -/

def reading (payload : PyStr) : RowKind → Except PyError (Option RowReading)
  | .mboxUrls => .ok (a.readMbox p payload)
  | .squidAccess => .ok (a.readSquid p payload)
  | .dmozRdfUrls => .ok (a.readDmoz p payload)
  | .jsonl => a.readJsonl p payload
  | .delimited => a.readDelimited p payload
  | .cdx | .cdxj | .whole => .ok (some (a.readWhole p payload))

def recordOf (locator : String) (found : RowReading) : SourceRecord where
  sourceId := a.sourceId
  locator := locator
  payload := found.payload
  sourceYear := found.sourceYear
  sourceTime := found.sourceTime
  recordType := found.recordType
  artifactRef := a.source
  directYearMask := if grantsDirectWebYear a.evidenceContract then (found.contractDirectYear.map yearBit).getD 0 else 0
  yearHintMask := 0
  evidenceType := []
  temporalSemantics := []
  evidenceContractId := []
  evidenceContractVersion := []

/-- `_generic_record`. -/
def genericRecord (locator : String) (line : PyStr) : Except PyError (Option SourceRecord) :=
  (a.reading p (stripText line) (rowKind a.kind)).map fun found => found.map (a.recordOf locator)

def recordOfCapture (capture : ArchiveRecords.SourceRecord) : SourceRecord where
  sourceId := a.sourceId
  locator := capture.locator
  payload := capture.payload
  sourceYear := some capture.sourceYear
  sourceTime := some capture.sourceTime
  recordType := "CDX_CAPTURE"
  artifactRef := capture.locator
  directYearMask := capture.directYearMask
  yearHintMask := 0
  evidenceType := []
  temporalSemantics := []
  evidenceContractId := []
  evidenceContractVersion := []

/-- What the loop of `execute_stream` makes of a line. -/
def recordOfLine (locator : String) (line : PyStr) : Except PyError (Option SourceRecord) :=
  match rowKind a.kind with
  | .cdxj => (p.archive.parseCdxjLine locator line).map fun found => found.map a.recordOfCapture
  | .cdx => (ArchiveRecords.parseCdxLine locator line).map fun found => found.map a.recordOfCapture
  | _ => a.genericRecord p locator line

/-- `_apply_contract_authority`. -/
def applyContractAuthority (record : SourceRecord) : SourceRecord :=
  let bit := (record.sourceYear.map yearBit).getD 0
  if grantsDirectWebYear a.evidenceContract && record.directYearMask ≠ 0 then
    { record with
      directYearMask := record.directYearMask &&& bit
      yearHintMask := Nat.ldiff record.yearHintMask bit
      evidenceType := a.evidenceContract.evidenceType
      temporalSemantics := a.evidenceContract.temporalSemantics
      evidenceContractId := a.evidenceContract.contractId
      evidenceContractVersion := a.evidenceContract.policyVersion }
  else
    { record with
      directYearMask := 0
      yearHintMask := record.yearHintMask ||| record.directYearMask ||| bit
      evidenceType := []
      temporalSemantics := []
      evidenceContractId := []
      evidenceContractVersion := [] }

def emittedRecord (locator : String) (line : PyStr) : Except PyError (Option SourceRecord) :=
  (a.recordOfLine p locator line).map fun found => found.map a.applyContractAuthority

/-! ## Hostnames -/

def urlsOf (record : SourceRecord) : List PyStr :=
  if rowKind a.kind = .mboxUrls then (record.payload.splitOn (.char '\t')).filter (· ≠ []) else [stripText record.payload]

def observationOf (record : SourceRecord) (raw : PyStr) (hostname : String) : HostObservation where
  hostname := hostname
  originalUrl := raw
  sourceId := record.sourceId
  locator := record.locator
  sourceYear := record.sourceYear
  sourceTime := record.sourceTime
  recordType := record.recordType
  artifactRef := record.artifactRef
  directYearMask := record.directYearMask
  yearHintMask := record.yearHintMask
  evidenceType := record.evidenceType
  temporalSemantics := record.temporalSemantics
  evidenceContractId := record.evidenceContractId
  evidenceContractVersion := record.evidenceContractVersion

/-- One URL after those before it: a hostname counts once. -/
def observeUrl (record : SourceRecord) (seen : List HostObservation) (raw : PyStr) : Except PyError (List HostObservation) :=
  (p.urlHostname raw).map fun
    | none => seen
    | some hostname => if seen.any (·.hostname = hostname) then seen else seen ++ [observationOf record raw hostname]

/-- `extract_hosts`. -/
def extractHosts (record : SourceRecord) : Except PyError (List HostObservation) :=
  (a.urlsOf record).foldlM (observeUrl p record) []

end StructuredProductionAdapter

end Creeper.StructuredRecords
