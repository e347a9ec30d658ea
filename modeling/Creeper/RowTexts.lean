import Creeper.SearchResults
import Creeper.ArchiveRecords

/-!
# Texts of rows

What the row readers of `sources/production.py` and `sources/non_snapshot.py` find in a text:
hostnames, years, the cells of a delimited row, the members of an object, and URLs.
-/

namespace Creeper.RowTexts
open Creeper.PyText Creeper.PyNumbers Creeper.JsonText
open Creeper.EvidenceSemantics (stripText spaceAt isDigitAt decimalDigit)
open Creeper.ArchiveRecords (words targetYears)
open Creeper.SearchResults (caseless behind)
open Creeper.BatchPayload (charsOf)
open Creeper.FabricModels (PyError)

/-- Python, with the texts at which `json.loads` raises anything else than a `JSONDecodeError`, and
    what `html.unescape` makes of a text. -/
structure Python extends toResults : SearchResults.Python where
  refusesJson : PyStr → Bool
  unescape : PyStr → PyStr

/-- Python, as the readers of archive indexes use it. -/
def Python.archive (p : Python) : ArchiveRecords.Python where
  toPython := p.toResults.toPython
  refusesJson := p.refusesJson

/-! ## Hostnames -/

/-- `_hostname_from_scalar` of a text. -/
def Python.hostnameFromScalar (p : Python) (value : PyStr) : Option String :=
  let text := stripText value
  let hosted (url : PyStr) := (p.urlHost url).bind fun host => p.normalizeOfficial (host.getD [])
  if text = [] then none
  else if py "://" <:+: text || py "//" <+: text then hosted (if py "//" <+: text then py "http:" ++ text else text)
  else if .char '/' ∈ text then hosted (py "http://" ++ text)
  else p.normalizeOfficial text

/-- A text that reads as a hostname, stripped. -/
def Python.readable (p : Python) (value : PyStr) : Option PyStr :=
  if (p.hostnameFromScalar value).isSome then some (stripText value) else none

/-- `normalize_official(urlsplit(raw).hostname or raw)`. -/
def Python.urlHostname (p : Python) (raw : PyStr) : Except PyError (Option String) :=
  match p.urlHost raw with
  | none => .error (.valueError (p.complaint raw))
  | some host => .ok (p.normalizeOfficial (host.getD raw))

/-! ## Years -/

/-- `\d`. -/
def isDecimal (c : CodePoint) : Bool := (decimalDigit c).isSome

/-- `int(text[:4])`, of decimal digits. -/
def fourDigits (text : PyStr) : Option Nat := ((text.take 4).mapM decimalDigit).map fun digits => digits.foldl (fun n d => 10 * n + d) 0

def dateMark (c : CodePoint) : Bool := c = .char '-' || c = .char '/'

/-- `(?:[T ][0-9:]+Z?)?`, to the end. -/
def isClock : PyStr → Bool
  | [] => true
  | mark :: rest =>
    let inside (c : CodePoint) : Bool := match c with
      | .char c => c.isDigit || c == ':'
      | .surrogate _ => false
    (mark = .char 'T' || mark = .char ' ') && rest.takeWhile inside ≠ [] && rest.dropWhile inside ∈ [[], py "Z"]

/-- `\d{1,2}`, and what follows it. -/
def oneOrTwo (text : PyStr) : Option PyStr :=
  let digits := text.takeWhile isDecimal
  if digits.length = 1 || digits.length = 2 then some (text.dropWhile isDecimal) else none

/-- The day of a date, if there is one, and a clock, to the end. -/
def isDay : PyStr → Bool
  | [] => true
  | mark :: rest => if dateMark mark then (oneOrTwo rest).any isClock else isClock (mark :: rest)

/-- The texts that `_year_from_scalar` takes for dates. -/
def isDated (text : PyStr) : Bool :=
  text.all isDecimal && (text.length = 4 || 8 ≤ text.length && text.length ≤ 14) ||
    (text.take 4).length = 4 && (text.take 4).all isDecimal && (text.drop 4).head?.any dateMark && (oneOrTwo (text.drop 5)).any isDay

/-- `_year_from_scalar` of a text. -/
def yearOfText (value : PyStr) : Option Nat :=
  let text := stripText value
  if isDated text then (fourDigits text).filter (· ∈ targetYears) else none

/-- `_year_from_scalar`; the text of a float has a point, an exponent or letters and is no date. -/
def yearFromScalar : Json → Option Nat
  | .str text => yearOfText text
  | .int n => yearOfText (py (toString n))
  | _ => none

example : yearOfText (py " 1999-12-31T23:59:59Z ") = some 1999 ∧ yearOfText (py "19990101") = some 1999 ∧ yearOfText (py "1999-1") = some 1999 ∧
    yearOfText (py "1999-123") = none ∧ yearOfText (py "199901") = none := by decide +kernel

/-! ## Delimited rows -/

/-- The states of `csv.reader`. -/
inductive CsvState
  | startRecord
  | startField
  | inField
  | inQuotedField
  | quoteInQuotedField
  | eatBreak
  deriving DecidableEq

/-- The reader of one record; the field and the fields before it are in reverse. -/
structure CsvReader where
  state : CsvState
  field : PyStr
  fields : List PyStr

/-- `parse_save_field`. -/
def CsvReader.save (r : CsvReader) (next : CsvState) : CsvReader := ⟨next, [], r.field.reverse :: r.fields⟩

/-- `parse_add_char`, up to `field_size_limit()`. -/
def CsvReader.add (r : CsvReader) (next : CsvState) (c : CodePoint) : Option CsvReader :=
  if 131072 ≤ r.field.length then none else some ⟨next, c :: r.field, r.fields⟩

/-- `parse_process_char`: a character, or the end of a line. -/
def CsvReader.step (delimiter : CodePoint) (r : CsvReader) (c : Option CodePoint) : Option CsvReader :=
  let breaks := c = some (.char '\n') || c = some (.char '\r')
  let saved := r.save (if c.isNone then .startRecord else .eatBreak)
  match r.state, c with
  | .startRecord, none => some r
  | .startRecord, some d | .startField, some d =>
    if breaks then some (if r.state = .startRecord then { r with state := .eatBreak } else saved)
    else if d = .char '"' then some { r with state := .inQuotedField }
    else if d = delimiter then some (r.save .startField)
    else r.add .inField d
  | .startField, none | .inField, none | .quoteInQuotedField, none => some saved
  | .inField, some d =>
    if breaks then some saved
    else if d = delimiter then some (r.save .startField)
    else r.add .inField d
  | .inQuotedField, none => some r
  | .inQuotedField, some d => if d = .char '"' then some { r with state := .quoteInQuotedField } else r.add .inQuotedField d
  | .quoteInQuotedField, some d =>
    if d = .char '"' then r.add .inQuotedField d
    else if d = delimiter then some (r.save .startField)
    else if breaks then some saved
    else r.add .inField d
  | .eatBreak, none => some { r with state := .startRecord }
  | .eatBreak, some _ => if breaks then some r else none

/-- The first record of a text, within a line or before one. -/
def csvRecord (delimiter : CodePoint) : Bool → CsvReader → PyStr → Option (List PyStr)
  | false, r, [] => if r.field ≠ [] || r.state = .inQuotedField then some (r.save .startRecord).fields.reverse else none
  | true, r, [] => (r.step delimiter none).bind fun r =>
    if r.state = .startRecord then some r.fields.reverse
    else if r.field ≠ [] || r.state = .inQuotedField then some (r.save .startRecord).fields.reverse
    else none
  | _, r, c :: rest => (r.step delimiter (some c)).bind fun r =>
    if c = .char '\n' then
      (r.step delimiter none).bind fun r => if r.state = .startRecord then some r.fields.reverse else csvRecord delimiter false r rest
    else csvRecord delimiter true r rest

/-- `next(csv.reader(io.StringIO(text), delimiter=delimiter))`; nothing for its two exceptions. -/
def csvRow (delimiter : CodePoint) (text : PyStr) : Option (List PyStr) := csvRecord delimiter false ⟨.startRecord, [], []⟩ text

example : csvRow (.char ',') (py "a,\"b,\"\"c\"d,") = some (["a", "b,\"cd", ""].map py) ∧ csvRow (.char ',') (py "a\rb") = none ∧
    csvRow (.char ',') (py "\"a\nb") = some [py "a\nb"] := by decide +kernel

/-! ## Objects -/

/-- Members up to the closing brace, in the order of the text; the pairs read so far are in reverse. -/
def readPairs : Nat → PyStr → List (PyStr × Json) → Option (List (PyStr × Json) × PyStr)
  | 0, _, _ => none
  | n + 1, s, done =>
    match skipWhitespace s with
    | [] => none
    | q :: s =>
      if q ≠ .char '"' then none
      else
        match readString (s.length + 1) s with
        | none => none
        | some (k, rest) =>
          match skipWhitespace rest with
          | [] => none
          | colon :: rest =>
            if colon ≠ .char ':' then none
            else
              match readValue n rest with
              | none => none
              | some (v, rest) =>
                match skipWhitespace rest with
                | [] => none
                | c :: after =>
                  if c = .char '\x7d' then some (((k, v) :: done).reverse, after)
                  else if c = .char ',' then readPairs n after ((k, v) :: done)
                  else none

/-- The members of the object that a text is, in its order. -/
def objectPairs (s : PyStr) : Option (List (PyStr × Json)) :=
  match skipWhitespace s with
  | .char '\x7b' :: rest =>
    match skipWhitespace rest with
    | [] => none
    | d :: after =>
      if d = .char '\x7d' then if skipWhitespace after = [] then some [] else none
      else
        match readPairs s.length (d :: after) [] with
        | some (pairs, rest) => if skipWhitespace rest = [] then some pairs else none
        | none => none
  | _ => none

/-- A `dict` keeps a key where it came first, with the value that came last. -/
def insertionOrder (pairs : List (PyStr × Json)) : List (PyStr × Json) :=
  pairs.foldl (fun items pair =>
    if items.any (·.1 = pair.1) then items.map fun item => if item.1 = pair.1 then pair else item else items ++ [pair]) []

/-- `{str(key).strip().lower(): item for key, item in value.items()}.get(key)`. -/
def Python.loweredGet (p : Python) (items : List (PyStr × Json)) (key : PyStr) : Option Json :=
  (items.reverse.find? fun item => p.lower (stripText item.1) = key).map (·.2)

/-! ## URLs -/

def urlChar (c : CodePoint) : Bool := !spaceAt c && c ∉ ['<', '>', '[', ']', '\x7b', '\x7d', '"', '\'', '\\'].map CodePoint.char

def urlAt (text : PyStr) : Option PyStr :=
  ((behind "https://" text).or (behind "http://" text)).bind fun body =>
    let inside := body.takeWhile urlChar
    if inside = [] then none else some (text.take (text.length - body.length + inside.length))

/-- `_HTTP_URL_RE.finditer`, behind a character: a word starts where a URL does. -/
def Python.findUrls (p : Python) : Nat → Option CodePoint → PyStr → List PyStr
  | _, _, [] => []
  | skip + 1, _, c :: rest => p.findUrls skip (some c) rest
  | 0, prev, c :: rest =>
    match if prev.any p.wordChar then none else urlAt (c :: rest) with
    | some url => url :: p.findUrls (url.length - 1) (some c) rest
    | none => p.findUrls 0 (some c) rest

/-- `value.rstrip(".,;:!?)]}>")`. -/
def withoutPunctuation (value : PyStr) : PyStr :=
  (value.reverse.dropWhile fun c => c ∈ ['.', ',', ';', ':', '!', '?', ')', ']', '\x7d', '>'].map CodePoint.char).reverse

def Python.webUrl (p : Python) (value : PyStr) : Bool :=
  match p.urlsplit value with
  | .error _ => false
  | .ok parsed => p.lower parsed.scheme ∈ ["http", "https"].map py && (p.hostnameOf parsed.netloc).isSome

/-- `extract_http_urls`. -/
def Python.extractHttpUrls (p : Python) (maxUrls : Nat) (text : PyStr) : List PyStr :=
  ((((p.findUrls 0 none text).map withoutPunctuation).filter p.webUrl).eraseDups).take maxUrls

/-- The attribute of `_DMOZ_EXTERNAL_PAGE_RE` at the front: `about`, an equals sign, a quoted text. -/
def aboutAt (text : PyStr) : Option PyStr :=
  let quote (c : CodePoint) : Bool := c = .char '"' || c = .char '\''
  (behind "about" text).bind fun rest =>
    match rest.dropWhile spaceAt with
    | .char '=' :: rest =>
      match rest.dropWhile spaceAt with
      | open_ :: rest =>
        let value := rest.takeWhile (!quote ·)
        if quote open_ && value ≠ [] && rest.dropWhile (!quote ·) ≠ [] then some value else none
      | [] => none
    | _ => none

/-- The last attribute before a `>`, behind a character. -/
def Python.lastAbout (p : Python) : CodePoint → PyStr → Option PyStr
  | _, [] => none
  | prev, c :: rest =>
    (if c = .char '>' then none else p.lastAbout c rest).or (if p.wordChar prev then none else aboutAt (c :: rest))

/-- `_DMOZ_EXTERNAL_PAGE_RE.search`. -/
def Python.externalPage (p : Python) : PyStr → Option PyStr
  | [] => none
  | c :: rest =>
    let here := (behind "<externalpage" (c :: rest)).bind fun tail => if tail.head?.any p.wordChar then none else p.lastAbout (.char 'e') tail
    here.or (p.externalPage rest)

/-- `parse_dmoz_external_page_line`. -/
def Python.parseDmozExternalPageLine (p : Python) (line : PyStr) : Option PyStr :=
  ((p.externalPage line).map fun value => p.unescape (stripText value)).filter p.webUrl

/-- The first seconds of the years from 1996 to 2002. -/
def yearStarts : List (Nat × ℚ) :=
  [(1996, 820454400), (1997, 852076800), (1998, 883612800), (1999, 915148800), (2000, 946684800), (2001, 978307200), (2002, 1009843200)]

/-- `datetime.fromtimestamp(stamp, tz=timezone.utc).year`, of the target years; it rounds to microseconds. -/
def accessYear (stamp : ℚ) : Option Nat :=
  let second : ℚ := (roundHalfEven (stamp * 1000000) : ℚ) / 1000000
  ((yearStarts.takeWhile (·.2 ≤ second)).getLast?.map (·.1)).filter (· ∈ targetYears)

/-- The year of an access, when its stamp lies in a target year. -/
def squidYear (stamp : PyStr) : Option Nat :=
  match (charsOf stamp).bind fun chars => floatOf (String.ofList chars) with
  | some (.fin stamp) => if stamp < 0 then none else accessYear stamp
  | _ => none

/-- The first URL of the fields after the stamp. -/
def Python.squidUrl (p : Python) (fields : List PyStr) : Option PyStr :=
  fields.findSome? fun field => if py "http://" <+: field || py "https://" <+: field then (p.extractHttpUrls 64 field).head? else none

/-- `parse_squid_access_line`. -/
def Python.parseSquidAccessLine (p : Python) (line : PyStr) : Option (PyStr × Nat) :=
  match words line with
  | stamp :: second :: more => (squidYear stamp).bind fun year => (p.squidUrl (second :: more)).map (·, year)
  | _ => none

end Creeper.RowTexts
