import Creeper.StructuredRecords
import Creeper.BindingRoundTrips

/-!
# Direct authority

Which part of a line decides about the direct host-years of its record: the fields that the
evidence contract names, or the URL and the timestamp of a row of captures or accesses.
-/

namespace Creeper.DirectAuthority
open Creeper.PyText Creeper.PyNumbers Creeper.JsonText Creeper.RowTexts Creeper.StructuredRecords Creeper.AdapterBindings
open Creeper.EvidenceSemantics (stripText spaceAt isDigitAt decimalDigit)
open Creeper.ArchiveRecords (yearBit targetYears words leadingYear cdxjFields eligible parseCdxLine yearsOf)
open Creeper.BatchPayload (member)
open Creeper.FabricModels (PyError)
open StructuredProductionAdapter

/-! ## Fields -/

/-- What a row holds where its hostname and its time are read for the contract. -/
structure RowFields where
  host : Option PyStr
  time : Option Json

/-- The text of the URL of a capture's object. -/
def urlText (payload : Json) : Option PyStr :=
  match member payload "url" with
  | some (.str url) => some url
  | _ => none

section
variable (p : Python) (a : StructuredProductionAdapter)

/-- A capture that was a success or a redirect, or has no status. -/
def succeeded (payload : Json) : Bool :=
  match member payload "status" with
  | none | some .null => true
  | some status => eligible (stripText (p.str status))

/-- The fields of a delimited row; nothing when the contract names a column by no number. -/
def cellFields (row : List PyStr) : Option RowFields :=
  match delimitedContractCell p row a.evidenceContract.hostnameField, delimitedContractCell p row a.evidenceContract.timestampField with
  | .ok host, .ok time => some ⟨host, time.map .str⟩
  | _, _ => none

/-- The fields of a line; nothing when it is no row of its kind. -/
def rowFields (line : PyStr) : Option RowFields :=
  match rowKind a.kind with
  | .cdx =>
    match words line with
    | _ :: timestamp :: original :: _ => some ⟨some original, some (.str timestamp)⟩
    | _ => none
  | .cdxj =>
    (cdxjFields line).bind fun (timestamp, body) =>
      if p.refusesJson body then none
      else (loads body).map fun payload => ⟨urlText payload, some (.str timestamp)⟩
  | .squidAccess =>
    match words (stripText line) with
    | stamp :: second :: more => some ⟨p.squidUrl (second :: more), some (.str stamp)⟩
    | _ => none
  | .jsonl =>
    if p.refusesJson (stripText line) then none
    else
      ((objectPairs (stripText line)).map insertionOrder).map fun items =>
        ⟨a.evidenceContract.hostnameField.bind fun field => textAt p items (p.lower field),
          a.evidenceContract.timestampField.bind fun field => p.loweredGet items (p.lower field)⟩
  | .delimited => (csvRow a.delimiter (stripText line)).bind (cellFields p a)
  | .whole => some ⟨some line, none⟩
  | .mboxUrls | .dmozRdfUrls => some ⟨none, none⟩

def fieldYear (fields : RowFields) : Option Nat :=
  match rowKind a.kind, fields.time with
  | .cdx, some (.str timestamp) | .cdxj, some (.str timestamp) => (leadingYear timestamp).toOption.join
  | .squidAccess, some (.str stamp) => squidYear stamp
  | .jsonl, time | .delimited, time => (a.contractTimestampYear p time).map (·.1)
  | .whole, _ => a.defaultSourceYear
  | _, _ => none

/-- The hostname text that a row of a kind proves a year of. -/
def fieldHost (fields : RowFields) : Option PyStr :=
  match rowKind a.kind with
  | .cdx => fields.host.filter fun original => py "://" <:+: original
  | .cdxj => (fields.host.map stripText).filter (· ≠ [])
  | .squidAccess => fields.host
  | .jsonl | .delimited => fields.host.bind p.readable
  | .whole =>
    if a.evidenceContract.hostnameField.any (fun field => p.lower (stripText field) ∈ ["record", "line", "0", "column:0"].map py) &&
        a.evidenceContract.timestampField.isNone then fields.host.bind p.readable
    else none
  | .mboxUrls | .dmozRdfUrls => none

/-- The host text and the target year that fields prove under a direct contract. -/
def proved (fields : RowFields) : Option (PyStr × Nat) :=
  if grantsDirectWebYear a.evidenceContract then
    (fieldHost p a fields).bind fun text => ((fieldYear p a fields).filter (· ∈ targetYears)).map (text, ·)
  else none

/-- A record is made of a row whatever its fields hold: a capture was a success or a redirect, an object has a
    readable hostname, and the bound columns of a delimited row are numbers. -/
def admitted (line : PyStr) : Bool :=
  match rowKind a.kind with
  | .cdx => ((words line)[4]?).all eligible
  | .cdxj => ((cdxjFields line).bind fun (_, body) => loads body).all (succeeded p)
  | .jsonl => ((objectPairs (stripText line)).map insertionOrder).all fun items => (a.selectedAt p items).isSome
  | .delimited =>
    a.hostnameBinding.all (fun field => (columnOf p field).isOk) && a.schemaBinding.all fun schema => (columnOf p schema.timestampField).isOk
  | _ => true

/-- The direct payload and year of the record of a line. -/
def direct (locator : String) (line : PyStr) : Option (PyStr × Nat) :=
  match a.emittedRecord p locator line with
  | .ok (some record) => if record.directYearMask ≠ 0 then record.sourceYear.map (record.payload, ·) else none
  | _ => none

/-- The direct host-years that a line contributes. -/
def directPairs (locator : String) (line : PyStr) : List (String × Nat) :=
  match a.emittedRecord p locator line with
  | .ok (some record) =>
    match a.extractHosts p record with
    | .ok observations => observations.flatMap fun o => (yearsOf o.directYearMask).map (o.hostname, ·)
    | .error _ => []
  | _ => []

end

/-! ## Readings -/

variable {p : Python} {a : StructuredProductionAdapter} {locator : String} {line : PyStr}

def provedBy (found : RowReading) : Option (PyStr × Nat) := found.contractDirectYear.map (found.payload, ·)

/-- The year that a reading proves is a target year, and that of its record. -/
def Consistent (found : RowReading) : Prop := ∀ year, found.contractDirectYear = some year → year ∈ targetYears ∧ found.sourceYear = some year

theorem yearBit_some {year : Nat} (target : year ∈ targetYears) : yearBit year ≠ 0 := by
  rw [yearBit, if_pos target]
  exact pow_ne_zero _ (by decide)

/-- The authority pass keeps the bit of the record's own year under a direct contract, and no bit without one. -/
theorem applyContractAuthority_own {record : SourceRecord} {year : Nat} (own : record.sourceYear = some year)
    (bit : record.directYearMask = yearBit year) (target : year ∈ targetYears) :
    (a.applyContractAuthority record).directYearMask = if grantsDirectWebYear a.evidenceContract then yearBit year else 0 := by
  unfold applyContractAuthority
  cases grants : grantsDirectWebYear a.evidenceContract with
  | false => rfl
  | true =>
    have some_ : decide (yearBit year ≠ 0) = true := decide_eq_true (yearBit_some target)
    simp only [own, bit, some_, Bool.and_self, if_true, Option.map_some, Option.getD_some, Nat.and_self]

theorem applyContractAuthority_none {record : SourceRecord} (empty : record.directYearMask = 0) :
    (a.applyContractAuthority record).directYearMask = 0 := by
  unfold applyContractAuthority
  simp only [empty, ne_eq, not_true_eq_false, decide_false, Bool.and_false, Bool.false_eq_true, if_false]

/-- The authority pass leaves the payload and the year. -/
theorem applyContractAuthority_keeps (record : SourceRecord) :
    (a.applyContractAuthority record).payload = record.payload ∧ (a.applyContractAuthority record).sourceYear = record.sourceYear := by
  unfold applyContractAuthority
  dsimp only
  split_ifs <;> exact ⟨rfl, rfl⟩

theorem direct_record {found : RowReading} (consistent : Consistent found) (record : SourceRecord)
    (isRecord : record = a.applyContractAuthority (a.recordOf locator found)) :
    (if record.directYearMask ≠ 0 then record.sourceYear.map (record.payload, ·) else none) =
      if grantsDirectWebYear a.evidenceContract then provedBy found else none := by
  obtain ⟨payload, year⟩ := applyContractAuthority_keeps (a := a) (a.recordOf locator found)
  rw [← isRecord] at payload year
  rw [payload, year]
  cases proves : found.contractDirectYear with
  | none =>
    have empty : (a.recordOf locator found).directYearMask = 0 := by
      rw [recordOf, proves]
      exact ite_self 0
    have none_ : record.directYearMask = 0 := isRecord ▸ applyContractAuthority_none empty
    rw [if_neg (not_not.mpr none_), provedBy, proves]
    exact (ite_self none).symm
  | some y =>
    obtain ⟨target, own⟩ := consistent y proves
    cases grants : grantsDirectWebYear a.evidenceContract with
    | false =>
      have empty : (a.recordOf locator found).directYearMask = 0 := by
        rw [recordOf, grants]
        rfl
      have none_ : record.directYearMask = 0 := isRecord ▸ applyContractAuthority_none empty
      rw [if_neg (not_not.mpr none_)]
      rfl
    | true =>
      have bit : (a.recordOf locator found).directYearMask = yearBit y := by
        rw [recordOf, grants, proves]
        rfl
      have mask := @applyContractAuthority_own a (a.recordOf locator found) _ own bit target
      rw [← isRecord, grants, if_pos rfl] at mask
      rw [if_pos (mask ▸ yearBit_some target), if_pos rfl, provedBy, proves, recordOf, own]

theorem direct_reading {kind : RowKind} (isKind : rowKind a.kind = kind) (other : kind ≠ .cdx ∧ kind ≠ .cdxj)
    (consistent : ∀ found, a.reading p (stripText line) kind = .ok (some found) → Consistent found) :
    direct p a locator line =
      if grantsDirectWebYear a.evidenceContract then ((a.reading p (stripText line) kind).toOption.join.bind provedBy) else none := by
  have record : a.recordOfLine p locator line = (a.reading p (stripText line) kind).map fun found => found.map (a.recordOf locator) := by
    unfold recordOfLine genericRecord
    rw [isKind]
    cases kind with
    | cdx => exact absurd rfl other.1
    | cdxj => exact absurd rfl other.2
    | mboxUrls | squidAccess | dmozRdfUrls | jsonl | delimited | whole => rfl
  unfold direct emittedRecord
  rw [record]
  cases read : a.reading p (stripText line) kind with
  | error raised => exact (ite_self none).symm
  | ok found =>
    cases found with
    | none => exact (ite_self none).symm
    | some found => exact direct_record (consistent found read) _ rfl

/-! ## The contract pass -/

theorem contractPass_proves {found : RowReading} (undecided : found.contractDirectYear = none) (host : Option PyStr)
    (time : Option (Nat × PyStr)) : Consistent (contractPass p found host time) ∧ provedBy (contractPass p found host time) =
      (host.bind p.readable).bind fun text => ((time.map (·.1)).filter (· ∈ targetYears)).map (text, ·) := by
  have keeps : Consistent found ∧ provedBy found = none := by
    refine ⟨fun year same => ?_, by rw [provedBy, undecided]; rfl⟩
    rw [undecided] at same
    cases same
  unfold contractPass
  cases readable : host.bind p.readable with
  | none => exact keeps
  | some text =>
    cases time with
    | none => exact keeps
    | some time =>
      by_cases target : time.1 ∈ targetYears
      · have kept : (some time).filter (fun time => decide (time.1 ∈ targetYears)) = some time := by simp [target]
        have keptYear : (some time.1).filter (fun year => decide (year ∈ targetYears)) = some time.1 := by simp [target]
        rw [kept]
        refine ⟨fun year same => ?_, ?_⟩
        · cases same
          exact ⟨target, rfl⟩
        · simp only [provedBy, Option.map_some, Option.bind_some, keptYear]
      · have dropped : (some time).filter (fun time => decide (time.1 ∈ targetYears)) = none := by simp [target]
        have droppedYear : (some time.1).filter (fun year => decide (year ∈ targetYears)) = none := by simp [target]
        rw [dropped]
        refine ⟨keeps.1, keeps.2.trans ?_⟩
        simp only [Option.map_some, Option.bind_some, droppedYear, Option.map_none]

/-! ## The kinds -/

theorem admitted_other {kind : RowKind} (isKind : rowKind a.kind = kind)
    (plain : kind = .mboxUrls ∨ kind = .squidAccess ∨ kind = .dmozRdfUrls ∨ kind = .whole) : admitted p a line = true := by
  unfold admitted
  rw [isKind]
  rcases plain with rfl | rfl | rfl | rfl <;> rfl

theorem direct_undated {kind : RowKind} (isKind : rowKind a.kind = kind) (undated : kind = .mboxUrls ∨ kind = .dmozRdfUrls) :
    direct p a locator line = none ∧ (rowFields p a line).bind (proved p a) = none := by
  have nothing (found : RowReading) (read : a.reading p (stripText line) kind = .ok (some found)) : found.contractDirectYear = none := by
    rcases undated with rfl | rfl
    · rw [reading, readMbox] at read
      split at read
      · cases read
      · cases read
        rfl
    · rw [reading, readDmoz] at read
      cases page : p.parseDmozExternalPageLine (stripText line) with
      | none =>
        rw [page] at read
        cases read
      | some url =>
        rw [page] at read
        cases read
        rfl
  constructor
  · have other : kind ≠ .cdx ∧ kind ≠ .cdxj := by rcases undated with rfl | rfl <;> decide
    rw [direct_reading isKind other fun found read year same => by
      rw [nothing found read] at same
      cases same]
    cases read : a.reading p (stripText line) kind with
    | error raised => exact ite_self none
    | ok found =>
      cases found with
      | none => exact ite_self none
      | some found =>
        have none_ : provedBy found = none := by rw [provedBy, nothing found read]; rfl
        have bound : ((Except.ok (some found) : Except PyError (Option RowReading)).toOption.join.bind provedBy) = none := none_
        rw [bound]
        exact ite_self none
  · unfold rowFields
    rw [isKind]
    rcases undated with rfl | rfl
    all_goals
      simp only [Option.bind_some, proved, fieldHost, isKind, Option.bind_none, ite_self]

theorem squidYear_target {stamp : PyStr} {year : Nat} (found : squidYear stamp = some year) : year ∈ targetYears := by
  unfold squidYear at found
  split at found
  · split_ifs at found
    exact of_decide_eq_true (Option.filter_eq_some_iff.mp found).2
  · cases found

theorem direct_squid (isKind : rowKind a.kind = .squidAccess) :
    direct p a locator line = (rowFields p a line).bind (proved p a) := by
  have read : a.reading p (stripText line) .squidAccess = .ok (a.readSquid p (stripText line)) := rfl
  have consistent (found : RowReading) (some_ : a.reading p (stripText line) .squidAccess = .ok (some found)) : Consistent found := by
    rw [read, readSquid] at some_
    cases parsed : p.parseSquidAccessLine (stripText line) with
    | none =>
      rw [parsed] at some_
      cases some_
    | some access =>
      rw [parsed] at some_
      cases some_
      intro year same
      dsimp only at same ⊢
      split_ifs at same
      cases same
      refine ⟨?_, rfl⟩
      unfold Python.parseSquidAccessLine at parsed
      split at parsed
      · obtain ⟨year, isYear, rest⟩ := Option.bind_eq_some_iff.mp parsed
        obtain ⟨url, _, rfl⟩ := Option.map_eq_some_iff.mp rest
        exact squidYear_target isYear
      · cases parsed
  rw [direct_reading isKind (by decide) consistent, read]
  unfold rowFields
  rw [isKind, readSquid, Python.parseSquidAccessLine]
  cases fields : words (stripText line) with
  | nil => exact ite_self none
  | cons stamp rest =>
    cases rest with
    | nil => exact ite_self none
    | cons second more =>
      dsimp only
      cases grants : grantsDirectWebYear a.evidenceContract with
      | false => simp only [Option.bind_some, proved, grants, Bool.false_eq_true, if_false]
      | true =>
        simp only [Option.bind_some, proved, grants, if_true, fieldHost, fieldYear, isKind]
        cases isYear : squidYear stamp with
        | none =>
          cases p.squidUrl (second :: more) <;> rfl
        | some year =>
          have target : (some year).filter (fun year => decide (year ∈ targetYears)) = some year := by simp [squidYear_target isYear]
          rw [target]
          cases p.squidUrl (second :: more) <;> rfl

theorem direct_jsonl (isKind : rowKind a.kind = .jsonl) :
    direct p a locator line = if admitted p a line then (rowFields p a line).bind (proved p a) else none := by
  have contract (items : List (PyStr × Json)) (found : RowReading) (undecided : found.contractDirectYear = none) :
      Consistent (a.contractObject p items found) ∧
        (if grantsDirectWebYear a.evidenceContract then provedBy (a.contractObject p items found) else none) = proved p a
          ⟨a.evidenceContract.hostnameField.bind fun field => textAt p items (p.lower field),
            a.evidenceContract.timestampField.bind fun field => p.loweredGet items (p.lower field)⟩ := by
    have plain : Consistent found := fun year same => by
      rw [undecided] at same
      cases same
    unfold contractObject proved
    cases grants : grantsDirectWebYear a.evidenceContract with
    | false => exact ⟨plain, rfl⟩
    | true =>
      cases named : a.evidenceContract.hostnameField with
      | none =>
        refine ⟨plain, ?_⟩
        simp only [provedBy, undecided, if_true, fieldHost, isKind, Option.bind_none, Option.map_none]
      | some field =>
        obtain ⟨consistent, proves⟩ := contractPass_proves undecided (textAt p items (p.lower field))
          (a.contractTimestampYear p (a.evidenceContract.timestampField.bind fun field => p.loweredGet items (p.lower field)))
        refine ⟨consistent, ?_⟩
        simp only [if_true, proves, fieldHost, fieldYear, isKind, Option.bind_some]
  have read : a.reading p (stripText line) .jsonl = a.readJsonl p (stripText line) := rfl
  have consistent (found : RowReading) (some_ : a.reading p (stripText line) .jsonl = .ok (some found)) : Consistent found := by
    rw [read, readJsonl, rowItems] at some_
    by_cases refuses : p.refusesJson (stripText line) = true
    · rw [if_pos refuses] at some_
      cases some_
    rw [if_neg refuses] at some_
    cases parsed : (objectPairs (stripText line)).map insertionOrder with
    | none =>
      rw [parsed] at some_
      cases some_
    | some items =>
      rw [parsed] at some_
      simp only [Except.map, Option.bind_some, Except.ok.injEq] at some_
      obtain ⟨selected, _, rfl⟩ := Option.map_eq_some_iff.mp some_
      exact (contract items _ rfl).1
  rw [direct_reading isKind (by decide) consistent, read]
  unfold rowFields admitted
  rw [isKind, readJsonl, rowItems]
  dsimp only
  by_cases refuses : p.refusesJson (stripText line) = true
  · rw [if_pos refuses, if_pos refuses]
    simp only [Except.map, Except.toOption, Option.join, Option.bind_none, ite_self]
  · rw [if_neg refuses, if_neg refuses]
    cases parsed : (objectPairs (stripText line)).map insertionOrder with
    | none => simp only [Except.map, Except.toOption, Option.join_some, Option.bind_none, Option.map_none, ite_self]
    | some items =>
      simp only [Except.map, Except.toOption, Option.join_some, Option.bind_some, Option.map_some, Option.all_some]
      cases selected : a.selectedAt p items with
      | none => simp only [Option.map_none, Option.bind_none, ite_self, Option.isSome_none, Bool.false_eq_true, if_false]
      | some text =>
        simp only [Option.map_some, Option.bind_some, Option.isSome_some, if_true]
        exact (contract items _ rfl).2

/-! ### Delimited rows -/

theorem cell_mem {row : List PyStr} {field : Option PyStr} {cell : PyStr} (found : delimitedContractCell p row field = .ok (some cell)) :
    cell ∈ row := by
  cases field with
  | none => cases found
  | some field =>
    rw [delimitedContractCell] at found
    cases column : columnOf p field with
    | error raised =>
      rw [column] at found
      cases found
    | ok index =>
      rw [column] at found
      simp only [Except.map, Except.ok.injEq] at found
      obtain ⟨i, _, here⟩ := Option.bind_eq_some_iff.mp found
      exact List.mem_of_getElem? here

theorem cell_readable {row : List PyStr} {cell text : PyStr} (inside : cell ∈ row) (readable : p.readable cell = some text) :
    (row.findSome? p.readable).isSome := by
  rw [List.findSome?_isSome_iff]
  exact ⟨cell, inside, by rw [readable]; rfl⟩

theorem columns_ok (row : List PyStr) (field : Option PyStr) : (delimitedContractCell p row field).isOk = field.all fun field => (columnOf p field).isOk := by
  cases field with
  | none => rfl
  | some field =>
    rw [delimitedContractCell, Option.all_some]
    cases columnOf p field <;> rfl

theorem contractRow_proves (isKind : rowKind a.kind = .delimited) {row : List PyStr} {found reading : RowReading}
    (undecided : found.contractDirectYear = none) (passed : a.contractRow p row found = .ok reading) : Consistent reading ∧
      (if grantsDirectWebYear a.evidenceContract then provedBy reading else none) = (cellFields p a row).bind (proved p a) := by
  have plain : Consistent found := fun year same => by
    rw [undecided] at same
    cases same
  unfold contractRow at passed
  unfold cellFields
  cases grants : grantsDirectWebYear a.evidenceContract with
  | false =>
    rw [grants] at passed
    cases passed
    refine ⟨plain, ?_⟩
    rw [if_neg Bool.false_ne_true]
    split
    · simp only [Option.bind_some, proved, grants, Bool.false_eq_true, if_false]
    · rfl
  | true =>
    cases named : a.evidenceContract.hostnameField with
    | none =>
      rw [grants, named] at passed
      cases passed
      refine ⟨plain, ?_⟩
      rw [if_pos rfl, provedBy, undecided, delimitedContractCell]
      cases delimitedContractCell p row a.evidenceContract.timestampField with
      | error raised => rfl
      | ok time => simp only [Option.map_none, Option.bind_some, proved, fieldHost, isKind, Option.bind_none, ite_self]
    | some field =>
      rw [grants, named] at passed
      dsimp only at passed
      cases hostCell : delimitedContractCell p row (some field) with
      | error raised =>
        rw [hostCell] at passed
        cases passed
      | ok host =>
        cases timeCell : delimitedContractCell p row a.evidenceContract.timestampField with
        | error raised =>
          rw [hostCell, timeCell] at passed
          cases passed
        | ok time =>
          rw [hostCell, timeCell] at passed
          cases passed
          obtain ⟨consistent, proves⟩ := contractPass_proves undecided host (a.contractTimestampYear p (time.map .str))
          refine ⟨consistent, ?_⟩
          simp only [if_true, proves, Option.bind_some, proved, grants, fieldHost, fieldYear, isKind]

theorem contractRow_fails {row : List PyStr} {found : RowReading} {raised : PyError} (failed : a.contractRow p row found = .error raised) :
    cellFields p a row = none := by
  unfold contractRow at failed
  unfold cellFields
  split at failed
  · rename_i field _ named
    rw [named]
    cases hostCell : delimitedContractCell p row (some field) with
    | error raised => rfl
    | ok host =>
      cases timeCell : delimitedContractCell p row a.evidenceContract.timestampField with
      | error raised => rfl
      | ok time =>
        rw [hostCell, timeCell] at failed
        cases failed
  · cases failed

/-- A row without a readable cell has none for the contract. -/
theorem cellFields_unreadable (isKind : rowKind a.kind = .delimited) {row : List PyStr} (unreadable : row.findSome? p.readable = none) :
    (cellFields p a row).bind (proved p a) = none := by
  unfold cellFields
  split
  · rename_i host time hostCell _
    have none_ : host.bind p.readable = none := by
      cases host with
      | none => rfl
      | some cell =>
        cases readable : p.readable cell with
        | none => exact readable
        | some text =>
          have found := cell_readable (cell_mem hostCell) readable
          rw [unreadable] at found
          cases found
    simp only [Option.bind_some, proved, fieldHost, isKind, none_, Option.bind_none, ite_self]
  · rfl

theorem readRow_proves (isKind : rowKind a.kind = .delimited) (row : List PyStr) :
    (∀ found, a.readRow p row = .ok (some found) → Consistent found) ∧
      (if grantsDirectWebYear a.evidenceContract then (a.readRow p row).toOption.join.bind provedBy else none) =
        if admitted p a line then (cellFields p a row).bind (proved p a) else none := by
  have gate : admitted p a line = ((delimitedContractCell p row a.hostnameBinding).isOk &&
      (delimitedContractCell p row (a.schemaBinding.map (·.timestampField))).isOk) := by
    rw [columns_ok, columns_ok, admitted, isKind]
    cases a.schemaBinding <;> rfl
  rw [gate, readRow]
  cases hostCell : delimitedContractCell p row a.hostnameBinding with
  | error raised => exact ⟨nofun, ite_self none⟩
  | ok bound =>
    cases timeCell : delimitedContractCell p row (a.schemaBinding.map (·.timestampField)) with
    | error raised => exact ⟨nofun, ite_self none⟩
    | ok boundTime =>
      simp only [Except.isOk, Except.toBool, Bool.and_self, if_true, bind, Except.bind]
      cases selected : (bound.bind p.readable).or (row.findSome? p.readable) with
      | none =>
        refine ⟨nofun, (ite_self none).trans ?_⟩
        exact (cellFields_unreadable isKind (Option.or_eq_none_iff.mp selected).2).symm
      | some text =>
        dsimp only
        generalize isFound : RowReading.mk text _ _ _ _ = found
        have undecided : found.contractDirectYear = none := by rw [← isFound]
        cases passed : a.contractRow p row found with
        | error raised =>
          refine ⟨nofun, (ite_self none).trans ?_⟩
          rw [contractRow_fails passed]
          rfl
        | ok reading =>
          obtain ⟨consistent, proves⟩ := contractRow_proves isKind undecided passed
          refine ⟨fun found same => ?_, proves⟩
          cases same
          exact consistent

theorem direct_delimited (isKind : rowKind a.kind = .delimited) :
    direct p a locator line = if admitted p a line then (rowFields p a line).bind (proved p a) else none := by
  have read : a.reading p (stripText line) .delimited = a.readDelimited p (stripText line) := rfl
  have consistent (found : RowReading) (some_ : a.reading p (stripText line) .delimited = .ok (some found)) : Consistent found := by
    rw [read, readDelimited] at some_
    cases parsed : csvRow a.delimiter (stripText line) with
    | none =>
      rw [parsed] at some_
      cases some_
    | some row =>
      rw [parsed] at some_
      exact (@readRow_proves p a line isKind row).1 found some_
  have fields : rowFields p a line = (csvRow a.delimiter (stripText line)).bind (cellFields p a) := by
    unfold rowFields
    rw [isKind]
  rw [direct_reading isKind (by decide) consistent, read, readDelimited, fields]
  cases parsed : csvRow a.delimiter (stripText line) with
  | none => simp only [Except.toOption, Option.join_some, Option.bind_none, ite_self]
  | some row => exact (readRow_proves isKind row).2

/-! ### Lines and captures -/

theorem readable_strip (text : PyStr) : p.readable text = if (p.hostnameFromScalar (stripText text)).isSome then some (stripText text) else none := by
  rw [Python.readable, Python.hostnameFromScalar, Python.hostnameFromScalar, BindingRoundTrips.strip_strip]

theorem defaultSourceYear_target {year : Nat} (found : a.defaultSourceYear = some year) : year ∈ targetYears := by
  obtain ⟨scope, _, here⟩ := Option.bind_eq_some_iff.mp found
  split_ifs at here with inside
  cases here
  obtain ⟨_, low, high⟩ := inside
  have bounds : 1996 ≤ scope.1.toNat ∧ scope.1.toNat ≤ 2001 := by omega
  obtain ⟨low, high⟩ := bounds
  generalize scope.1.toNat = n at low high ⊢
  interval_cases n <;> decide

theorem direct_whole (isKind : rowKind a.kind = .whole) : direct p a locator line = (rowFields p a line).bind (proved p a) := by
  have read : a.reading p (stripText line) .whole = .ok (some (a.readWhole p (stripText line))) := rfl
  have proves : Consistent (a.readWhole p (stripText line)) ∧
      (if grantsDirectWebYear a.evidenceContract then provedBy (a.readWhole p (stripText line)) else none) = proved p a ⟨some line, none⟩ := by
    have plain (found : RowReading) (undecided : found.contractDirectYear = none) : Consistent found := fun year same => by
      rw [undecided] at same
      cases same
    unfold readWhole proved
    dsimp only
    cases grants : grantsDirectWebYear a.evidenceContract with
    | false =>
      simp only [Bool.false_and, Bool.false_eq_true, if_false, and_true]
      exact plain _ rfl
    | true =>
      simp only [Bool.true_and, if_true, fieldHost, isKind, fieldYear, Option.bind_some]
      rw [readable_strip]
      cases named : a.evidenceContract.hostnameField.any fun field => p.lower (stripText field) ∈ ["record", "line", "0", "column:0"].map py with
      | false =>
        simp only [Bool.false_and, Bool.false_eq_true, if_false, Option.bind_none]
        exact ⟨plain _ rfl, rfl⟩
      | true =>
        cases undated : a.evidenceContract.timestampField with
        | some field =>
          simp only [Option.isNone_some, Bool.and_false, Bool.false_and, Bool.false_eq_true, if_false, Option.bind_none]
          exact ⟨plain _ rfl, rfl⟩
        | none =>
          simp only [Option.isNone_none, Bool.and_self, Bool.true_and, if_true, contractTimestampYear, undated]
          cases (p.hostnameFromScalar (stripText line)).isSome with
          | false =>
            simp only [Bool.false_eq_true, if_false, Option.bind_none]
            exact ⟨plain _ rfl, rfl⟩
          | true =>
            simp only [if_true, Option.bind_some]
            cases scope : a.defaultSourceYear with
            | none => exact ⟨plain _ rfl, rfl⟩
            | some year =>
              have target := defaultSourceYear_target scope
              have kept : (some year).filter (fun year => decide (year ∈ targetYears)) = some year := by simp [target]
              rw [kept]
              refine ⟨fun other same => ?_, rfl⟩
              cases same
              exact ⟨target, rfl⟩
  have fields : rowFields p a line = some ⟨some line, none⟩ := by
    unfold rowFields
    rw [isKind]
  rw [direct_reading isKind (by decide) (fun found same => by
    rw [read] at same
    cases same
    exact proves.1), read, fields]
  exact proves.2

theorem direct_capture (capture : ArchiveRecords.SourceRecord) (own : capture.directYearMask = yearBit capture.sourceYear)
    (record : SourceRecord) (isRecord : record = a.applyContractAuthority (a.recordOfCapture capture)) :
    (if record.directYearMask ≠ 0 then record.sourceYear.map (record.payload, ·) else none) =
      if grantsDirectWebYear a.evidenceContract then ((some capture.sourceYear).filter (· ∈ targetYears)).map (capture.payload, ·) else none := by
  obtain ⟨payload, year⟩ := applyContractAuthority_keeps (a := a) (a.recordOfCapture capture)
  rw [← isRecord] at payload year
  rw [payload, year]
  by_cases target : capture.sourceYear ∈ targetYears
  · have mask := @applyContractAuthority_own a (a.recordOfCapture capture) _ rfl own target
    have kept : (some capture.sourceYear).filter (fun year => decide (year ∈ targetYears)) = some capture.sourceYear := by simp [target]
    rw [← isRecord] at mask
    rw [mask, kept]
    cases grantsDirectWebYear a.evidenceContract with
    | false => rfl
    | true =>
      rw [if_pos rfl, if_pos (yearBit_some target), if_pos rfl]
      rfl
  · have empty : capture.directYearMask = 0 := own.trans ((ArchiveRecords.yearBit_zero _).mpr target)
    have none_ : record.directYearMask = 0 := isRecord ▸ applyContractAuthority_none empty
    have dropped : (some capture.sourceYear).filter (fun year => decide (year ∈ targetYears)) = none := by simp [target]
    rw [if_neg (not_not.mpr none_), dropped]
    exact (ite_self none).symm

theorem direct_cdx (isKind : rowKind a.kind = .cdx) :
    direct p a locator line = if admitted p a line then (rowFields p a line).bind (proved p a) else none := by
  unfold direct emittedRecord recordOfLine rowFields admitted parseCdxLine
  rw [isKind]
  dsimp only
  match fields : words line with
  | [] | [_] | [_, _] => exact (ite_self none).symm
  | urlkey :: timestamp :: original :: rest =>
    have status : (urlkey :: timestamp :: original :: rest)[4]? = rest[1]? := rfl
    rw [status]
    simp only [Option.bind_some, proved, fieldHost, fieldYear, isKind]
    cases dated : leadingYear timestamp with
    | error raised =>
      cases (some original).filter fun original => decide (py "://" <:+: original) <;> simp [Except.map, Except.toOption]
    | ok found =>
      cases found with
      | none =>
        cases (some original).filter fun original => decide (py "://" <:+: original) <;> simp [Except.map, Except.toOption]
      | some year =>
        dsimp only
        by_cases target : year ∈ targetYears
        · rw [if_neg (not_not.mpr target)]
          have kept : (some year).filter (fun year => decide (year ∈ targetYears)) = some year := by simp [target]
          by_cases url : py "://" <:+: original
          · have hosted : (some original).filter (fun original => decide (py "://" <:+: original)) = some original := by simp [url]
            rw [if_neg (not_not.mpr url), hosted]
            cases accepted : rest[1]?.all eligible with
            | false => simp [Except.map]
            | true =>
              simp only [Bool.not_true, Bool.false_eq_true, if_false, Except.map, Option.map_some, if_true, Option.bind_some]
              exact (direct_capture ⟨locator, original, year, timestamp, yearBit year⟩ rfl _ rfl)
          · have unhosted : (some original).filter (fun original => decide (py "://" <:+: original)) = none := by simp [url]
            rw [if_pos url, unhosted]
            simp [Except.map]
        · have dropped : (some year).filter (fun year => decide (year ∈ targetYears)) = none := by simp [target]
          rw [if_pos target]
          cases (some original).filter fun original => decide (py "://" <:+: original) <;>
            simp [Except.map, Except.toOption, target]

theorem cdxjUrl_eq (payload : Json) :
    p.archive.cdxjUrl payload = if succeeded p payload then ((urlText payload).map stripText).filter (· ≠ []) else none := by
  unfold ArchiveRecords.Python.cdxjUrl
  split
  · rename_i url isUrl
    have text : urlText payload = some url := by rw [urlText, isUrl]
    rw [text, Option.map_some]
    by_cases blank : stripText url = []
    · rw [if_pos blank, blank, Option.filter_some_neg (by simp), ite_self]
    · have kept : (some (stripText url)).filter (fun url => decide (url ≠ [])) = some (stripText url) := by simp [blank]
      rw [if_neg blank, kept, succeeded]
      cases member payload "status" with
      | none => rfl
      | some status => cases status <;> rfl
  · rename_i other
    have text : urlText payload = none := by
      unfold urlText
      split
      · rename_i url isUrl
        exact absurd isUrl (other url)
      · rfl
    rw [text]
    exact (ite_self none).symm

theorem proved_undated (isKind : rowKind a.kind = .cdxj) {f : RowFields} {timestamp : PyStr} (time : f.time = some (.str timestamp))
    (undated : (leadingYear timestamp).toOption.join = none) : proved p a f = none := by
  have none_ : fieldYear p a f = none := by
    rw [fieldYear, isKind, time]
    exact undated
  rw [proved, none_]
  cases fieldHost p a f with
  | none => exact ite_self none
  | some text => exact ite_self none

theorem direct_cdxj (isKind : rowKind a.kind = .cdxj) :
    direct p a locator line = if admitted p a line then (rowFields p a line).bind (proved p a) else none := by
  unfold direct emittedRecord recordOfLine rowFields admitted ArchiveRecords.Python.parseCdxjLine
  rw [isKind]
  dsimp only
  cases fields : cdxjFields line with
  | none => exact (ite_self none).symm
  | some field =>
    obtain ⟨timestamp, body⟩ := field
    simp only [Option.bind_some]
    have refuses : p.archive.refusesJson body = p.refusesJson body := rfl
    rw [refuses]
    by_cases digits : (timestamp.length < 4 || !(timestamp.take 4).all isDigitAt) = true
    · rw [if_pos digits]
      have none_ : (leadingYear timestamp).toOption.join = none := by
        rw [leadingYear, if_pos digits]
        rfl
      by_cases refused : p.refusesJson body = true
      · rw [if_pos refused]
        exact (ite_self none).symm
      · rw [if_neg refused]
        cases loads body with
        | none => exact (ite_self none).symm
        | some payload =>
          rw [Option.map_some, Option.bind_some, proved_undated isKind rfl none_]
          exact (ite_self none).symm
    · rw [if_neg digits]
      by_cases refused : p.refusesJson body = true
      · rw [if_pos refused, if_pos refused]
        exact (ite_self none).symm
      · rw [if_neg refused, if_neg refused]
        cases loads body with
        | none => exact (ite_self none).symm
        | some payload =>
          simp only [Option.bind_some, Option.map_some, Option.all_some, cdxjUrl_eq]
          cases succeeded p payload with
          | false => rfl
          | true =>
            simp only [if_true, proved, fieldHost, fieldYear, isKind]
            cases ((urlText payload).map stripText).filter fun url => decide (url ≠ []) with
            | none => exact (ite_self none).symm
            | some url =>
              simp only [Option.bind_some]
              cases leadingYear timestamp with
              | error raised => exact (ite_self none).symm
              | ok found =>
                cases found with
                | none => exact (ite_self none).symm
                | some year => exact direct_capture ⟨locator, url, year, timestamp, yearBit year⟩ rfl _ rfl

/-- The direct payload and year of a line are those that its fields prove, when it is admitted. -/
theorem direct_eq (p : Python) (a : StructuredProductionAdapter) (locator : String) (line : PyStr) :
    direct p a locator line = if admitted p a line then (rowFields p a line).bind (proved p a) else none := by
  cases isKind : rowKind a.kind with
  | cdx => exact direct_cdx isKind
  | cdxj => exact direct_cdxj isKind
  | jsonl => exact direct_jsonl isKind
  | delimited => exact direct_delimited isKind
  | squidAccess => rw [admitted_other isKind (.inr (.inl rfl)), if_pos rfl, direct_squid isKind]
  | whole => rw [admitted_other isKind (.inr (.inr (.inr rfl))), if_pos rfl, direct_whole isKind]
  | mboxUrls =>
    obtain ⟨none_, fields⟩ := @direct_undated p a locator line _ isKind (.inl rfl)
    rw [none_, fields, ite_self]
  | dmozRdfUrls =>
    obtain ⟨none_, fields⟩ := @direct_undated p a locator line _ isKind (.inr rfl)
    rw [none_, fields, ite_self]

/-! ## Records and observations -/

/-- An emitted record has no bit, or the bit of its own year with the provenance of the contract. -/
theorem emitted_mask {record : SourceRecord} (emitted : a.emittedRecord p locator line = .ok (some record)) (bits : record.directYearMask ≠ 0) :
    grantsDirectWebYear a.evidenceContract = true ∧ ∃ year ∈ targetYears, record.sourceYear = some year ∧
      record.directYearMask = yearBit year ∧ record.evidenceType = a.evidenceContract.evidenceType ∧
      record.temporalSemantics = a.evidenceContract.temporalSemantics ∧ record.evidenceContractId = a.evidenceContract.contractId ∧
      record.evidenceContractVersion = a.evidenceContract.policyVersion := by
  have isDirect : direct p a locator line = record.sourceYear.map (record.payload, ·) := by
    unfold direct
    rw [emitted]
    exact if_pos bits
  obtain ⟨found, _, isRecord⟩ : ∃ found, a.recordOfLine p locator line = .ok (some found) ∧ record = a.applyContractAuthority found := by
    unfold emittedRecord at emitted
    cases line_ : a.recordOfLine p locator line with
    | error raised =>
      rw [line_] at emitted
      cases emitted
    | ok found =>
      rw [line_] at emitted
      cases found with
      | none => cases emitted
      | some found =>
        cases emitted
        exact ⟨found, rfl, rfl⟩
  by_cases gate : (grantsDirectWebYear a.evidenceContract && decide (found.directYearMask ≠ 0)) = true
  · unfold applyContractAuthority at isRecord
    dsimp only at isRecord
    rw [if_pos gate] at isRecord
    have grants := (Bool.and_eq_true_iff.mp gate).1
    have year : record.sourceYear = found.sourceYear := by rw [isRecord]
    have mask : record.directYearMask = found.directYearMask &&& (found.sourceYear.map yearBit).getD 0 := by rw [isRecord]
    cases isYear : found.sourceYear with
    | none =>
      rw [mask, isYear] at bits
      exact absurd (Nat.and_zero _) bits
    | some y =>
      -- The year is one that the fields prove.
      rw [direct_eq, year, isYear] at isDirect
      by_cases accepted : admitted p a line = true
      swap
      · rw [if_neg accepted] at isDirect
        cases isDirect
      rw [if_pos accepted] at isDirect
      obtain ⟨f, _, proves⟩ := Option.bind_eq_some_iff.mp isDirect
      rw [proved, if_pos grants] at proves
      obtain ⟨text, _, dated⟩ := Option.bind_eq_some_iff.mp proves
      obtain ⟨y', filtered, same⟩ := Option.map_eq_some_iff.mp dated
      cases same
      have target : y ∈ targetYears := of_decide_eq_true (Option.filter_eq_some_iff.mp filtered).2
      refine ⟨grants, y, target, year.trans isYear, ?_, by rw [isRecord], by rw [isRecord], by rw [isRecord], by rw [isRecord]⟩
      -- A single bit that the mask of the record keeps is that of the year.
      rw [mask, isYear, Option.map_some, Option.getD_some] at bits ⊢
      rw [yearBit, if_pos target] at bits ⊢
      rw [Nat.and_two_pow] at bits ⊢
      cases bit : found.directYearMask.testBit (y - 1996) with
      | false =>
        rw [bit] at bits
        exact absurd (Nat.zero_mul _) bits
      | true => exact Nat.one_mul _
  · have none_ : record.directYearMask = 0 := by
      rw [isRecord, applyContractAuthority, if_neg gate]
    exact absurd none_ bits

/-- The observations of a record carry its mask, each with the hostname of one of its URLs. -/
theorem extractHosts_spec {record : SourceRecord} {observations : List HostObservation} (ok : a.extractHosts p record = .ok observations) :
    ∀ o ∈ observations, o.directYearMask = record.directYearMask ∧ ∃ raw ∈ a.urlsOf record, p.urlHostname raw = .ok (some o.hostname) := by
  have fold (urls : List PyStr) (seen found : List HostObservation) (all : ∀ raw ∈ urls, raw ∈ a.urlsOf record)
      (start : ∀ o ∈ seen, o.directYearMask = record.directYearMask ∧ ∃ raw ∈ a.urlsOf record, p.urlHostname raw = .ok (some o.hostname))
      (ok : urls.foldlM (observeUrl p record) seen = .ok found) :
      ∀ o ∈ found, o.directYearMask = record.directYearMask ∧ ∃ raw ∈ a.urlsOf record, p.urlHostname raw = .ok (some o.hostname) := by
    induction urls generalizing seen with
    | nil =>
      cases ok
      exact start
    | cons raw rest ih =>
      rw [List.foldlM_cons] at ok
      obtain ⟨here, later⟩ := List.forall_mem_cons.mp all
      cases read : p.urlHostname raw with
      | error raised =>
        rw [observeUrl, read] at ok
        cases ok
      | ok host =>
        rw [observeUrl, read] at ok
        refine ih _ later ?_ ok
        cases host with
        | none => exact start
        | some hostname =>
          dsimp only
          split_ifs
          · exact start
          · intro o member
            rcases List.mem_append.mp member with old | new
            · exact start o old
            · rw [List.mem_singleton.mp new]
              exact ⟨rfl, raw, here, read⟩
  exact fold _ [] observations (fun _ member => member) (fun o member => absurd member List.not_mem_nil) ok

/-- What a payload and a year contribute. -/
def contributes (p : Python) (proof : Option (PyStr × Nat)) : List (String × Nat) :=
  match proof with
  | none => []
  | some (payload, year) =>
    match p.urlHostname (stripText payload) with
    | .ok (some hostname) => [(hostname, year)]
    | _ => []

/-- The direct host-years of a line follow from its direct payload and year. -/
theorem directPairs_eq : directPairs p a locator line = contributes p (direct p a locator line) := by
  unfold directPairs
  cases emitted : a.emittedRecord p locator line with
  | error raised => rw [direct, emitted]; rfl
  | ok found =>
    cases found with
    | none => rw [direct, emitted]; rfl
    | some record =>
      dsimp only
      by_cases bits : record.directYearMask = 0
      · have none_ : direct p a locator line = none := by
          rw [direct, emitted]
          exact if_neg (not_not.mpr bits)
        rw [none_]
        cases ok : a.extractHosts p record with
        | error raised => rfl
        | ok observations =>
          refine List.flatMap_eq_nil_iff.mpr fun o member => ?_
          rw [(extractHosts_spec ok o member).1, bits]
          rfl
      · obtain ⟨_, year, target, own, mask, _⟩ := emitted_mask emitted bits
        have isDirect : direct p a locator line = some (record.payload, year) := by
          rw [direct, emitted]
          dsimp only
          rw [if_pos bits, own]
          rfl
        have single : a.urlsOf record = [stripText record.payload] := by
          unfold urlsOf
          rw [if_neg]
          intro isKind
          obtain ⟨none_, _⟩ := @direct_undated p a locator line _ isKind (.inl rfl)
          rw [none_] at isDirect
          cases isDirect
        have shown : yearsOf record.directYearMask = [year] := by
          have all : ∀ year ∈ targetYears, yearsOf (yearBit year) = [year] := by decide
          rw [mask, all year target]
        rw [isDirect, contributes, extractHosts, single, List.foldlM_cons, observeUrl]
        cases read : p.urlHostname (stripText record.payload) with
        | error raised => rfl
        | ok host =>
          cases host with
          | none => rfl
          | some hostname =>
            simp only [Except.map, List.any_nil, Bool.false_eq_true, if_false, List.nil_append, List.foldlM_nil, bind, Except.bind, pure,
              Except.pure, List.flatMap_cons, List.flatMap_nil, List.append_nil, observationOf, shown, List.map_cons, List.map_nil]

/-! ## Authority -/

/-- Python, with lower case for ASCII letters only. -/
def plainPython : Python where
  lower := List.map fun
    | .char c => .char c.toLower
    | c => c
  repr _ := []
  refusesNetloc netloc := (CodePoint.char '[' ∈ netloc) ≠ (CodePoint.char ']' ∈ netloc)
  complaint _ := "Invalid IPv6 URL"
  wordChar
    | .char c => c.isAlphanum || c == '_'
    | _ => false
  idna := some
  parseQsl _ := []
  urlencode _ := none
  refusesJson _ := false
  unescape := id

/-- A source of captures under its direct contract. -/
def captures : StructuredProductionAdapter where
  sourceId := "r1"
  source := "https://index.example.org/part.cdx"
  kind := py "cdx"
  layoutBinding := none
  schemaBinding := none
  evidenceContract := {
    contractId := py "archive-cdx-capture-v1"
    authority := .directWebYear
    parserKind := py "cdx"
    temporalSemantics := py "archive_capture_timestamp"
    evidenceType := py "dated_archive_index"
    hostnameField := none
    timestampField := none
    policyVersion := py "archive-capture-contract-v1" }
  temporalScope := none
  delimiter := .char ','

end Creeper.DirectAuthority
