import Creeper.EvidenceSemantics

/-!
# Search results

`search_identity.py` and the classification of `deterministic_search_core.py`: what a provider
returns for a search, which URLs are refused, and the identities that a result is known by.
-/

namespace Creeper.SearchResults
open Creeper.PyText Creeper.PyNumbers Creeper.JsonText Creeper.Hashing
open Creeper.EvidenceSemantics (stripText spaceAt isDigitAt decimalDigit afterScheme)
open Creeper.EvidenceBridge (intText)
open Creeper.FabricModels (PyError blank)

/-- What Python makes of `\w`, of `hostname.encode("idna")`, of an encoded query, and of a query
    that is encoded again; UTF-8 holds no surrogate. -/
structure Python extends EvidenceSemantics.Python where
  wordChar : CodePoint → Bool
  idna : PyStr → Option PyStr
  parseQsl : PyStr → List (PyStr × PyStr)
  urlencode : List (PyStr × PyStr) → Option PyStr

/-! ## Cells -/

/-- `MECHANISM_QUERY_TERMS`. -/
def mechanismQueryTerms : List (String × List String) := [
  ("proxy_access", ["proxy", "cache", "access log", "http trace"]),
  ("client_trace", ["client trace", "web trace", "http trace", "browser trace"]),
  ("dns_survey", ["dns", "host survey", "zone transfer", "hostcount"]),
  ("ftp", ["ftp", "anonymous ftp", "ftp sites"]),
  ("bbs_telnet", ["bbs", "telnet", "bulletin board"]),
  ("gopher", ["gopher"]),
  ("mail", ["mail archive", "mailing list", "mbox"]),
  ("usenet", ["usenet", "netnews"]),
  ("search_engine", ["search engine", "web index", "search index"]),
  ("crawler_frontier", ["crawler frontier", "crawl seeds", "seed list"]),
  ("human_directory", ["web directory", "internet directory", "site directory"]),
  ("link_graph", ["link graph", "hyperlink graph", "web links"]),
  ("nic_registry", ["nic", "registry", "host list"]),
  ("isp_inventory", ["isp", "host inventory", "network inventory"]),
  ("software_mirror", ["mirror sites", "software mirror", "mirror list"])]

/-- The keys of `INSTITUTION_QUERY_TERMS`. -/
def institutions : List String :=
  ["university", "research_lab", "isp", "nren", "nic", "government", "software_archive", "conference_project", "commercial"]

/-- The keys of `ARTIFACT_QUERY_TERMS`. -/
def artifacts : List String :=
  ["log", "trace", "dump", "list", "index", "database", "catalog", "supplement", "archive", "directory", "cdrom", "companion"]

/-- `int(text)` of a text that `isdigit` accepts; `int` refuses digits that are not decimal. -/
def digitsOf (text : List Char) : Option Nat :=
  if text.isEmpty then none
  else (text.mapM fun c => decimalDigit (.char c)).map fun digits => digits.foldl (fun n d => 10 * n + d) 0

/-- `_valid_period`. -/
def validPeriod (period : String) : Bool :=
  let text := (strip period).toList
  match if text.length = 4 then digitsOf text else none with
  | some year => 1996 ≤ year && year ≤ 2001
  | none =>
    '-' ∈ text &&
      match digitsOf (text.takeWhile (· ≠ '-')), digitsOf ((text.dropWhile (· ≠ '-')).drop 1) with
      | some start, some last => start ≤ last && start ≤ 2001 && 1996 ≤ last
      | _, _ => false

structure CellFields where
  mechanism : String
  institution : String
  period : String
  artifact : String
  deriving DecidableEq

/-- The first check of `SearchCell.__post_init__` that fails. -/
def CellFields.postInit (cell : CellFields) : Option String :=
  match [("mechanism", cell.mechanism), ("institution", cell.institution), ("period", cell.period),
      ("artifact", cell.artifact)].find? fun field => blank field.2 with
  | some field => some (field.1 ++ " must be a non-empty string")
  | none =>
    if cell.mechanism ∉ mechanismQueryTerms.map Prod.fst then some ("unsupported mechanism: " ++ cell.mechanism)
    else if cell.institution ∉ institutions then some ("unsupported institution: " ++ cell.institution)
    else if cell.artifact ∉ artifacts then some ("unsupported artifact: " ++ cell.artifact)
    else if !validPeriod cell.period then some "period must overlap 1996-2001"
    else none

structure SearchCell extends CellFields where
  valid : toCellFields.postInit = none
  deriving DecidableEq

def SearchCell.make (fields : CellFields) : Except PyError SearchCell :=
  match valid : fields.postInit with
  | none => .ok ⟨fields, valid⟩
  | some message => .error (.valueError message)

/-! ## Raw results -/

structure RawFields where
  provider : PyStr
  providerResultId : PyStr
  url : PyStr
  title : PyStr := []
  description : PyStr := []
  publisher : PyStr := []
  creators : List PyStr := []
  publicationYear : Option Int := none
  resourceType : PyStr := []
  identifiers : List PyStr := []
  contentLength : Option Int := none
  etag : Option PyStr := none
  checksumSha256 : Option PyStr := none
  deriving DecidableEq

/-- The first check of `RawSearchResult.__post_init__` that fails. -/
def RawFields.postInit (raw : RawFields) : Option String :=
  if stripText raw.provider = [] || stripText raw.providerResultId = [] || stripText raw.url = [] then
    some "provider, provider_result_id and url are required"
  else if raw.publicationYear.any fun year => year < 1000 || 9999 < year then some "publication_year must be a four-digit integer"
  else if raw.contentLength.any (· < 0) then some "content_length must be non-negative"
  else none

structure RawSearchResult extends RawFields where
  valid : toRawFields.postInit = none
  deriving DecidableEq

def RawSearchResult.make (fields : RawFields) : Except PyError RawSearchResult :=
  match valid : fields.postInit with
  | none => .ok ⟨fields, valid⟩
  | some message => .error (.valueError message)

/-- A result that passed its checks is built again. -/
theorem RawSearchResult.make_fields (raw : RawSearchResult) : RawSearchResult.make raw.toRawFields = .ok raw := by
  unfold RawSearchResult.make
  split
  · rfl
  · rename_i refused
    exact nomatch raw.valid.symm.trans refused

theorem SearchCell.make_fields (cell : SearchCell) : SearchCell.make cell.toCellFields = .ok cell := by
  unfold SearchCell.make
  split
  · rfl
  · rename_i refused
    exact nomatch cell.valid.symm.trans refused

/-! ## URLs -/

structure SplitResult where
  scheme : PyStr
  netloc : PyStr
  path : PyStr
  query : PyStr

/-- `text.partition(c)`: what comes before it, and what comes after it. -/
def partitionAt (c : Char) (text : PyStr) : PyStr × PyStr := (text.takeWhile (· ≠ .char c), (text.dropWhile (· ≠ .char c)).drop 1)

/-- `urlsplit`, without the fragment. -/
def Python.urlsplit (p : Python) (url : PyStr) : Except PyError SplitResult :=
  let url := (url.dropWhile (·.toNat ≤ 32)).filter fun c => c ≠ .char '\t' && c ≠ .char '\r' && c ≠ .char '\n'
  let rest := afterScheme url
  let scheme := if rest = url then [] else p.lower (partitionAt ':' url).1
  let authority := py "//" <+: rest
  let inside (c : CodePoint) : Bool := c ≠ .char '/' && c ≠ .char '?' && c ≠ .char '#'
  let netloc := if authority then (rest.drop 2).takeWhile inside else []
  let tail := if authority then (rest.drop 2).dropWhile inside else rest
  if p.refusesNetloc netloc then .error (.valueError (p.complaint netloc))
  else
    let (path, query) := partitionAt '?' (partitionAt '#' tail).1
    .ok ⟨scheme, netloc, path, query⟩

/-- `SplitResult.port`. -/
def portOf (netloc : PyStr) : Except PyError (Option Nat) :=
  let hostinfo := (netloc.splitOn (.char '@')).getLastD []
  let text :=
    if CodePoint.char '[' ∈ hostinfo then (partitionAt ':' (partitionAt ']' (partitionAt '[' hostinfo).2).2).2
    else (partitionAt ':' hostinfo).2
  if text = [] then .ok none
  else if !text.all (fun c => isDigitAt c && c.toNat < 128) then .error (.valueError "Port could not be cast to integer value")
  else
    let port := text.foldl (fun n c => 10 * n + (c.toNat - 0x30)) 0
    if 65535 < port then .error (.valueError "Port out of range 0-65535") else .ok (some port)

/-- `posixpath.normpath`. -/
def normpath (path : PyStr) : PyStr :=
  if path = [] then py "."
  else
    let slashes := if py "//" <+: path && !(py "///" <+: path) then 2 else if py "/" <+: path then 1 else 0
    let names := (path.splitOn (.char '/')).foldl (fun kept name =>
      if name = [] || name = py "." then kept
      else if name ≠ py ".." || (slashes = 0 && kept = []) || kept.getLast? = some (py "..") then kept ++ [name]
      else kept.dropLast) []
    let joined := List.replicate slashes (.char '/') ++ (py "/").intercalate names
    if joined = [] then py "." else joined

/-- `urlunsplit`, of a URL that has a scheme and no fragment. -/
def urlunsplit (url : SplitResult) : PyStr :=
  let path := if url.path ≠ [] && !(py "/" <+: url.path) then .char '/' :: url.path else url.path
  let hosted := if url.netloc ≠ [] || !(py "//" <+: url.path) then py "//" ++ url.netloc ++ path else url.path
  url.scheme ++ py ":" ++ hosted ++ if url.query = [] then [] else py "?" ++ url.query

/-- `_TRACKING_PARAMS`. -/
def trackingParams : List PyStr := ["fbclid", "gclid", "mc_cid", "mc_eid", "msclkid"].map py

def paramLe (a b : PyStr × PyStr) : Bool := !(before b.1 a.1 || b.1 = a.1 && before b.2 a.2)

/-- The parameters of a query, sorted, without those that track. -/
def Python.untracked (p : Python) (query : PyStr) : List (PyStr × PyStr) :=
  ((p.parseQsl query).filter fun param => !(py "utm_" <+: p.lower param.1 || p.lower param.1 ∈ trackingParams)).insertionSort
    fun a b => paramLe a b

/-- `canonicalize_result_url`. -/
def Python.canonicalizeResultUrl (p : Python) (value : PyStr) : Except PyError PyStr := do
  let parsed ← p.urlsplit (stripText value)
  let scheme := p.lower parsed.scheme
  match p.hostnameOf parsed.netloc with
  | none => throw (.valueError "search-result URL must be http(s) with a hostname")
  | some hostname =>
    if scheme ∉ ["http", "https"].map py then throw (.valueError "search-result URL must be http(s) with a hostname")
    else if CodePoint.char '@' ∈ parsed.netloc then throw (.valueError "search-result URL must not contain userinfo")
    else
      match p.idna hostname, portOf parsed.netloc with
      | some ascii, .ok port =>
        let host := p.lower ascii
        let host := if CodePoint.char ':' ∈ host && !(py "[" <+: host) then py "[" ++ host ++ py "]" else host
        let host :=
          match port with
          | none => host
          | some n =>
            if scheme = py "http" && n = 80 || scheme = py "https" && n = 443 then host else host ++ py ":" ++ py (toString n)
        let rawPath := if parsed.path = [] then py "/" else parsed.path
        let path := normpath rawPath
        let path := if py "/" <+: path then path else py "/" ++ path
        let path := if rawPath.getLast? = some (.char '/') && path ≠ py "/" && path.getLast? ≠ some (.char '/') then path ++ py "/" else path
        match p.urlencode (p.untracked parsed.query) with
        | none => throw .unicodeEncodeError
        | some query => return urlunsplit ⟨scheme, host, path, query⟩
      | _, _ => throw (.valueError "invalid search-result URL")

/-! ## Identities -/

/-- `_hash`. -/
def hashed (tag : String) (value : PyStr) : Except PyError String :=
  match encodeUtf8 value with
  | some bytes => .ok (tag ++ sha256Hex bytes)
  | none => .error .unicodeEncodeError

/-- `[a-z0-9]`. -/
def tokenChar : CodePoint → Bool
  | .char c => 'a' ≤ c && c ≤ 'z' || c.isDigit
  | .surrogate _ => false

/-- `_TOKEN_RE.findall`. -/
def tokens (text : PyStr) : List PyStr := (text.splitOnP fun c => !tokenChar c).filter (· ≠ [])

def joined (words : List PyStr) : PyStr := (py " ").intercalate words

/-- `_normalize_text`. -/
def Python.normalizeText (p : Python) (value : PyStr) : PyStr := joined (tokens (p.lower value))

/-- One letter of a pattern that ignores case. -/
def caseless (letter : Char) (c : CodePoint) : Bool :=
  c = .char letter || c = .char letter.toUpper || letter = 'i' && (c = .char 'İ' || c = .char 'ı') || letter = 's' && c = .char 'ſ'

/-- A text behind a start that ignores case. -/
def behind (start : String) (text : PyStr) : Option PyStr :=
  if start.length ≤ text.length && (start.toList.zip text).all (fun pair => caseless pair.1 pair.2) then some (text.drop start.length)
  else none

/-- The body of a DOI: `10.`, four to nine digits, a slash, and no space until the end. -/
def doiBody (text : PyStr) : Option PyStr :=
  let text := if text.getLast? = some (.char '\n') then text.dropLast else text
  let digits := (text.drop 3).takeWhile fun c => (decimalDigit c).isSome
  let tail := text.drop (3 + digits.length)
  if py "10." <+: text && 4 ≤ digits.length && digits.length ≤ 9 && tail.head? = some (.char '/') && 2 ≤ tail.length &&
      !(tail.any spaceAt) then some text
  else none

/-- `_normalized_doi`. -/
def Python.normalizedDoi (p : Python) (value : PyStr) : Option PyStr :=
  let ends (c : CodePoint) : Bool := c = .char '.' || c = .char ',' || c = .char ';'
  let text := ((stripText value).reverse.dropWhile ends).reverse
  (["", "http://doi.org/", "https://doi.org/", "http://dx.doi.org/", "https://dx.doi.org/"].findSome? fun start =>
    (behind start text).bind doiBody).map p.lower

/-- `_doi`. -/
def Python.doi (p : Python) (result : RawSearchResult) : Option PyStr :=
  let values := if p.lower result.provider = py "datacite" then result.providerResultId :: result.identifiers else result.identifiers
  values.findSome? p.normalizedDoi

/-- What `_YEAR_RE` finds between tokens. -/
def isYear (token : PyStr) : Bool := token.length = 4 && (py "199" <+: token || py "200" <+: token) && token.all fun c => (decimalDigit c).isSome

def isNumber (token : PyStr) : Bool := token ≠ [] && token.all fun c => (decimalDigit c).isSome

/-- Tokens without what `_VERSION_RE` finds between them: a number, which may have a `v` or a `version` in front. -/
def withoutVersions : List PyStr → List PyStr
  | [] => []
  | [token] => if isNumber token || isNumber (token.drop 1) && py "v" <+: token || isNumber (token.drop 7) && py "version" <+: token then [] else [token]
  | token :: next :: rest =>
    if isNumber token || isNumber (token.drop 1) && py "v" <+: token || isNumber (token.drop 7) && py "version" <+: token then
      withoutVersions (next :: rest)
    else if (token = py "v" || token = py "version") && isNumber next then withoutVersions rest
    else token :: withoutVersions (next :: rest)

/-- What follows the last slash. -/
def basename (path : PyStr) : PyStr := (path.splitOn (.char '/')).getLastD []

/-- `_family_label`. -/
def Python.familyLabel (p : Python) (result : RawSearchResult) (canonicalUrl : PyStr) : Except PyError PyStr := do
  let title := joined (withoutVersions ((tokens (p.lower result.title)).filter fun token => !isYear token))
  let publisher := p.normalizeText result.publisher
  let parsed ← p.urlsplit canonicalUrl
  let host := (p.hostnameOf parsed.netloc).getD []
  let title := if title.length < 6 then p.normalizeText (basename parsed.path) else title
  let title := if title.length < 6 then host else title
  if publisher ≠ [] && !(publisher <:+: title) then return (title ++ py " | " ++ publisher).take 240
  else if 8 ≤ title.length then return title.take 240
  else return (title ++ py " | " ++ host).take 240

structure CanonicalSearchResult where
  raw : RawSearchResult
  canonicalUrl : PyStr
  urlKey : String
  artifactKey : PyStr
  datasetKey : PyStr
  familyKey : String
  familyLabel : PyStr
  relevanceScore : PyFloat
  qualified : Bool
  deriving DecidableEq

/-- A checksum in hexadecimal. -/
def isSha256 (text : PyStr) : Bool :=
  text.length = 64 && text.all fun c => match c with
    | .char c => 'a' ≤ c && c ≤ 'f' || c.isDigit
    | .surrogate _ => false

def Python.artifactKey (p : Python) (result : RawSearchResult) (url : PyStr) : Except PyError PyStr :=
  let checksum := p.lower (stripText (result.checksumSha256.getD []))
  if isSha256 checksum then .ok (py "artifact:sha256:" ++ checksum)
  else
    match result.etag, result.contentLength with
    | some (c :: etag), some length => (hashed "artifact:etag:" (c :: etag ++ py "\x1f" ++ py (toString length))).map py
    | _, _ => (hashed "artifact:url:" url).map py

def Python.datasetKey (p : Python) (result : RawSearchResult) (url : PyStr) : Except PyError PyStr :=
  match p.doi result with
  | some doi => .ok (py "dataset:doi:" ++ doi)
  | none =>
    let title := p.normalizeText result.title
    let creators := (py "|").intercalate ((result.creators.take 3).map p.normalizeText)
    if 8 ≤ title.length then
      (hashed "dataset:meta:" (title ++ py "\x1f" ++ p.normalizeText result.publisher ++ py "\x1f" ++ creators)).map py
    else (hashed "dataset:url:" url).map py

/-- `canonicalize_search_result`. -/
def Python.canonicalizeSearchResult (p : Python) (result : RawSearchResult) (relevanceScore : PyFloat) (qualified : Bool) :
    Except PyError CanonicalSearchResult := do
  let url ← p.canonicalizeResultUrl result.url
  let urlKey ← hashed "url:" url
  let artifactKey ← p.artifactKey result url
  let datasetKey ← p.datasetKey result url
  let familyLabel ← p.familyLabel result url
  let familyKey ← hashed "family:" familyLabel
  return ⟨result, url, urlKey, artifactKey, datasetKey, familyKey, familyLabel, relevanceScore, qualified⟩

/-! ## Classification -/

/-- `is_common_crawl_provenance`. -/
def Python.isCommonCrawlProvenance (p : Python) (values : List PyStr) : Bool :=
  py "commoncrawl" <:+: (p.lower (joined values)).filter tokenChar

/-- `_period_years`. -/
def periodYears (period : String) : Except PyError (List Int) :=
  let year (text : List Char) : Except PyError Int :=
    match intText text with
    | some n => .ok n
    | none => .error (.valueError "invalid literal for int() with base 10")
  let text := period.toList
  if '-' ∉ text then do return [← year text]
  else do
    let left ← year (text.takeWhile (· ≠ '-'))
    let right ← year ((text.dropWhile (· ≠ '-')).drop 1)
    return (List.range (min 2001 right + 1 - max 1996 left).toNat).map fun (n : Nat) => max 1996 left + (n : Int)

/-- `_result_text`. -/
def Python.resultText (p : Python) (result : RawSearchResult) : PyStr :=
  p.lower (joined [result.title, result.description, result.publisher, result.resourceType, joined result.creators])

/-- `re.search` of a word between word boundaries, from a text after some character. -/
def Python.hasWord (p : Python) (word : PyStr) : Option CodePoint → PyStr → Bool
  | _, [] => false
  | last, c :: rest =>
    !(last.any p.wordChar) && word <+: c :: rest && !(((c :: rest).drop word.length).head?.any p.wordChar) || p.hasWord word (some c) rest

/-- `_ARTIFACT_TERMS`. -/
def artifactTerms : List String := ["dataset", "data set", "trace", "log", "dump", "list", "index", "catalog", "database", "archive"]

/-- `_SOURCE_SUFFIXES`. -/
def sourceSuffixes : List String := [
  ".txt", ".csv", ".tsv", ".json", ".jsonl", ".log", ".list", ".lst", ".dat", ".db", ".sqlite", ".sql", ".xml", ".rdf", ".zip",
  ".gz", ".bz2", ".xz", ".tar", ".tgz", ".warc", ".warc.gz", ".arc", ".arc.gz", ".cdx", ".cdx.gz", ".cdxj", ".cdxj.gz"]

/-- `format_path_from_locator`. -/
def Python.formatPathFromLocator (p : Python) (value : PyStr) : Except PyError PyStr := do
  if stripText value = [] then throw (.valueError "locator must be a non-empty string")
  else
    let parsed ← p.urlsplit (stripText value)
    let path := p.lower parsed.path
    let names := ((path.reverse.dropWhile (· = .char '/')).reverse).splitOn (.char '/')
    let wrapped := 2 ≤ names.length && names.getLastD [] ∈ [py "content", py "download"]
    let holder := names.dropLast
    if wrapped && 2 ≤ holder.length && CodePoint.char '.' ∈ holder.getLastD [] then return (py "/").intercalate holder
    else return path

/-- `a + b`, of numbers that are not negative. -/
def plus (a b : PyFloat) : PyFloat :=
  match a.add b with
  | .fin q => nearestDouble q
  | other => other

def weight (q : ℚ) (hit : Bool) : PyFloat := if hit then nearestDouble q else .fin 0

/-- `relevance_score`. -/
def Python.relevanceScore (p : Python) (cell : SearchCell) (result : RawSearchResult) : Except PyError PyFloat := do
  let text := p.resultText result
  let years ← periodYears cell.period
  let yearHit := result.publicationYear.any (· ∈ years) || years.any fun year => p.hasWord (py (toString year)) none text
  let terms := (mechanismQueryTerms.lookup cell.mechanism).getD []
  let mechanismHit := terms.any fun term => py term <:+: text
  let artifactHit ←
    if p.lower result.resourceType ∈ ["dataset", "collection", "software", "file", "datafile"].map py ||
        artifactTerms.any (fun term => py term <:+: text) then pure true
    else (p.formatPathFromLocator result.url).map fun path => sourceSuffixes.any fun suffix => py suffix <:+ path
  let score := plus (plus (weight (45 / 100) mechanismHit) (weight (35 / 100) yearHit)) (weight (20 / 100) artifactHit)
  return if score.lt (.fin 1) then score else .fin 1

/-- `classify_result`: nothing of a result of the Common Crawl. -/
def Python.classifyResult (p : Python) (cell : SearchCell) (minRelevanceScore : PyFloat) (result : RawSearchResult) :
    Except PyError (Option CanonicalSearchResult) :=
  if p.isCommonCrawlProvenance [result.provider, result.url, result.title, result.description] then .ok none
  else do
    let score ← p.relevanceScore cell result
    return some (← p.canonicalizeSearchResult result score (minRelevanceScore.le score))

/-! ## What a classification raises -/

/-- `except ValueError`: a text that UTF-8 cannot hold is one as well. -/
def isValueError : PyError → Bool
  | .valueError _ | .unicodeEncodeError => true
  | _ => false

/-- A computation raises nothing but a `ValueError`. -/
def Refuses {α : Type} (result : Except PyError α) : Prop := ∀ raised, result = .error raised → isValueError raised = true

section
variable {α β : Type} {p : Python}

theorem refuses_ok (value : α) : Refuses (.ok value : Except PyError α) := nofun

theorem refuses_value (message : String) : Refuses (.error (.valueError message) : Except PyError α) := by
  rintro _ ⟨⟩
  rfl

theorem refuses_encode : Refuses (.error .unicodeEncodeError : Except PyError α) := by
  rintro _ ⟨⟩
  rfl

theorem refuses_ite (c : Prop) [Decidable c] {first second : Except PyError α} (left : Refuses first) (right : Refuses second) :
    Refuses (if c then first else second) := by
  split
  · exact left
  · exact right

theorem Refuses.bind {result : Except PyError α} {next : α → Except PyError β} (first : Refuses result)
    (second : ∀ value, Refuses (next value)) : Refuses (result >>= next) := by
  cases result with
  | error raised => exact fun other same => first other (by cases same; rfl)
  | ok value => exact second value

theorem Refuses.map {result : Except PyError α} (refuses : Refuses result) (f : α → β) : Refuses (result.map f) := by
  cases result with
  | error raised => exact fun other same => refuses other (by cases same; rfl)
  | ok value => exact nofun

theorem hashed_refuses (tag : String) (value : PyStr) : Refuses (hashed tag value) := by
  unfold hashed
  cases encodeUtf8 value with
  | some bytes => exact refuses_ok _
  | none => exact refuses_encode

theorem urlsplit_refuses (url : PyStr) : Refuses (p.urlsplit url) := refuses_ite _ (refuses_value _) (refuses_ok _)

theorem canonicalizeResultUrl_refuses (value : PyStr) : Refuses (p.canonicalizeResultUrl value) := by
  refine (urlsplit_refuses _).bind fun parsed => ?_
  dsimp only
  cases p.hostnameOf parsed.netloc with
  | none => exact refuses_value _
  | some hostname =>
    refine refuses_ite _ (refuses_value _) (refuses_ite _ (refuses_value _) ?_)
    cases p.idna hostname with
    | none => exact refuses_value _
    | some ascii =>
      cases portOf parsed.netloc with
      | error raised => exact refuses_value _
      | ok port =>
        dsimp only
        cases p.urlencode (p.untracked parsed.query) with
        | none => exact refuses_encode
        | some query => exact refuses_ok _

theorem artifactKey_refuses (result : RawSearchResult) (url : PyStr) : Refuses (p.artifactKey result url) := by
  refine refuses_ite _ (refuses_ok _) ?_
  split
  · exact (hashed_refuses _ _).map _
  · exact (hashed_refuses _ _).map _

theorem datasetKey_refuses (result : RawSearchResult) (url : PyStr) : Refuses (p.datasetKey result url) := by
  unfold Python.datasetKey
  cases p.doi result with
  | some doi => exact refuses_ok _
  | none => exact refuses_ite _ ((hashed_refuses _ _).map _) ((hashed_refuses _ _).map _)

theorem familyLabel_refuses (result : RawSearchResult) (url : PyStr) : Refuses (p.familyLabel result url) := by
  refine (urlsplit_refuses _).bind fun parsed => ?_
  exact refuses_ite _ (refuses_ok _) (refuses_ite _ (refuses_ok _) (refuses_ok _))

theorem canonicalizeSearchResult_refuses (result : RawSearchResult) (score : PyFloat) (qualified : Bool) :
    Refuses (p.canonicalizeSearchResult result score qualified) := by
  refine (canonicalizeResultUrl_refuses _).bind fun url => ?_
  refine (hashed_refuses _ _).bind fun urlKey => ?_
  refine (artifactKey_refuses _ _).bind fun artifactKey => ?_
  refine (datasetKey_refuses _ _).bind fun datasetKey => ?_
  refine (familyLabel_refuses _ _).bind fun familyLabel => ?_
  exact (hashed_refuses _ _).bind fun _ => refuses_ok _

theorem periodYears_refuses (period : String) : Refuses (periodYears period) := by
  have year (text : List Char) : Refuses (match intText text with
      | some n => .ok n
      | none => .error (.valueError "invalid literal for int() with base 10") : Except PyError Int) := by
    cases intText text with
    | some n => exact refuses_ok _
    | none => exact refuses_value _
  refine refuses_ite _ ((year _).bind fun _ => refuses_ok _) ?_
  exact (year _).bind fun _ => (year _).bind fun _ => refuses_ok _

theorem formatPathFromLocator_refuses (value : PyStr) : Refuses (p.formatPathFromLocator value) := by
  refine refuses_ite _ (refuses_value _) ((urlsplit_refuses _).bind fun parsed => ?_)
  exact refuses_ite _ (refuses_ok _) (refuses_ok _)

theorem relevanceScore_refuses (cell : SearchCell) (result : RawSearchResult) : Refuses (p.relevanceScore cell result) := by
  refine (periodYears_refuses _).bind fun years => refuses_ite _ ?_ ?_
  · exact (refuses_ok true).bind fun _ => refuses_ok _
  · exact ((formatPathFromLocator_refuses _).map _).bind fun _ => refuses_ok _

/-- A classification raises nothing but a `ValueError`. -/
theorem classifyResult_refuses (cell : SearchCell) (minRelevanceScore : PyFloat) (result : RawSearchResult) :
    Refuses (p.classifyResult cell minRelevanceScore result) := by
  refine refuses_ite _ (refuses_ok _) ((relevanceScore_refuses _ _).bind fun score => ?_)
  exact (canonicalizeSearchResult_refuses _ _ _).bind fun _ => refuses_ok _

end

end Creeper.SearchResults
