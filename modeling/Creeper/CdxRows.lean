import Creeper.EvidenceSemantics
import Creeper.ResultCodec

/-!
# Rows of CDX responses

What the CDX clients read of a response, the predicate that accepts a row, and the capsule that is
made of an accepted row. A number is read behind a check that lets other digits pass.
-/

namespace Creeper.CdxRows
open Creeper.PyText Creeper.JsonText Creeper.EvidenceTasks
open Creeper.BatchPayload (charsOf)
open Creeper.EvidenceStore (CapsuleFields EvidenceCapsule)
open Creeper.EvidenceSemantics (isDigitAt decimalDigit)
open Creeper.FabricModels (blank)

abbrev Row := List (PyStr × Json)

/-- What a call raises: a `ValueError`, an error of the transport, or one that no client catches. -/
inductive Failure
  | valueError (message : String)
  | transport (message : String)
  | other (name : String)
  deriving DecidableEq

/-- What Python makes of texts, the SHA-256 of the text of a row, `gzip.decompress`, and what `json.loads` raises of a
    text for its depth or its numbers. -/
structure Python extends EvidenceSemantics.Python where
  repr_encodes : ∀ v, encodable (repr v) = true
  digest : Json → String
  digest_named : ∀ row, blank (digest row) = false
  decompress : List UInt8 → Except Failure (List UInt8)
  refusesJson : PyStr → Option Failure

theorem nothing_encodes (_ : Json) : encodable ([] : PyStr) = true := rfl

theorem zero_stated : blank "0" = false := by decide +kernel

/-- What a constructor raises, as a failure of the call. -/
def raised {α : Type} : Except FabricModels.PyError α → Except Failure α
  | .ok value => .ok value
  | .error (.valueError message) => .error (.valueError message)
  | .error err => .error (.other err.className)

section
variable (p : Python)

/-- `str(row.get(name, ""))`. -/
def field (row : Row) (name : String) : PyStr := ((row.find? (·.1 = py name)).map fun member => p.str member.2).getD []

/-- `str(row.get("status", row.get("statuscode", "")))`. -/
def status (row : Row) : PyStr :=
  (((row.find? (·.1 = py "status")).or (row.find? (·.1 = py "statuscode"))).map fun member => p.str member.2).getD []

/-- `status[:1] in {"2", "3"}`. -/
def usable (status : PyStr) : Bool := status.take 1 = py "2" || status.take 1 = py "3"

/-- `int(timestamp[:4])` behind `len(timestamp) >= 4 and timestamp[:4].isdigit()`. -/
def yearOf (timestamp : PyStr) : Except Failure (Option Int) :=
  if timestamp.length < 4 || !(timestamp.take 4).all isDigitAt then .ok none
  else
    match (timestamp.take 4).mapM decimalDigit with
    | some digits => .ok (some (digits.foldl (fun n d => 10 * n + d) 0))
    | none => .error (.valueError (p.complaint (timestamp.take 4)))

/-- `normalize_official(urlsplit(original).hostname or "")`; nothing when `urlsplit` raises. -/
def hostnameOf (original : PyStr) : Option String := (p.urlHost original).bind fun host => p.normalizeOfficial (host.getD [])

/-- `_exact_hostname`. -/
def exactHostname (original : PyStr) (hostname : String) : Bool := hostnameOf p original = some hostname

/-- `_accepted_year`. -/
def acceptedYear (row : Row) (hostname : String) (yearFrom yearTo : Int) : Except Failure (Option Int) := do
  match ← yearOf p (field p row "timestamp") with
  | none => return none
  | some year =>
    if yearFrom ≤ year && year ≤ yearTo && exactHostname p (field p row "original") hostname && usable (status p row) then return some year
    else return none

/-- The capsule of a row; a row with a lone surrogate cannot be encoded. -/
def capsuleOf (row : Row) (hostname : String) (year : Int) (provider policyVersion evidenceType sourceId recordLocator method : String) :
    Except Failure EvidenceCapsule :=
  match charsOf (field p row "timestamp"), charsOf (field p row "original") with
  | some timestamp, some original =>
    if !encodable (dumps (.obj row)) then .error (.valueError (p.complaint (dumps (.obj row))))
    else raised <| EvidenceCapsule.make {
      hostname := hostname
      year := year
      provider := provider
      temporalSemantics := "capture_timestamp_year"
      evidenceTimestamp := String.ofList timestamp
      sourceLocator := String.ofList original
      payloadHash := p.digest (.obj row)
      policyVersion := policyVersion
      evidenceType := evidenceType
      sourceId := sourceId
      originalUrl := String.ofList original
      recordLocator := recordLocator
      extractionMethod := method }
  | _, _ => .error (.valueError (p.complaint (dumps (.obj row))))

/-- `_capsule_from_row`. -/
def capsuleFromRow (sourceId : String) (key : EvidenceQueryKey) (row : Row) (year : Int) (pageNo recordNo : Nat) (extractionMethod : String) :
    Except Failure EvidenceCapsule :=
  capsuleOf p row key.hostname year key.provider key.policyVersion "exact_host_cdx_capture" sourceId
    (sourceId ++ ":" ++ key.hostname ++ ":" ++ toString year ++ ":page=" ++ toString pageNo ++ ":record=" ++ toString recordNo)
    extractionMethod

/-! ## Payloads -/

/-- `isinstance(item, str)`. -/
def textOf : Json → Option PyStr
  | .str text => some text
  | _ => none

/-- `dict(zip(header, item, strict=True))` with the status under both names. -/
def rowOf (header : List PyStr) (item : List Json) : Row :=
  let row := dictOf (header.zip item)
  match row.find? (·.1 = py "statuscode"), row.find? (·.1 = py "status") with
  | some member, none => setMember (py "status") member.2 row
  | _, _ => row

/-- The items behind the header: rows of its length, and the resume key that came last. -/
def readItems (header : List PyStr) : List Row → Option PyStr → List Json → List Row × Option PyStr
  | rows, resumeKey, [] => (rows, resumeKey)
  | rows, _, .arr [.str key] :: rest => readItems header rows (some key) rest
  | rows, resumeKey, .arr item :: rest =>
    if item ≠ [] ∧ item.length = header.length then readItems header (rows ++ [rowOf header item]) resumeKey rest
    else readItems header rows resumeKey rest
  | rows, resumeKey, _ :: rest => readItems header rows resumeKey rest

def noHeader : Failure := .valueError "CDX JSON response has no field header"

/-- The rows and the resume key of a JSON value. -/
def readTable : Json → Except Failure (List Row × Option PyStr)
  | .arr (.arr header :: items) =>
    if header.all (textOf · |>.isSome) then .ok (readItems (header.filterMap textOf) [] none items) else .error noHeader
  | .arr (_ :: _) => .error noHeader
  | _ => .ok ([], none)

/-- `json.loads(payload.decode("utf-8"))`. -/
def loadsBytes (payload : List UInt8) : Except Failure Json :=
  match String.fromUTF8? ⟨payload.toArray⟩ with
  | none => .error (.valueError "'utf-8' codec can't decode byte")
  | some text =>
    match p.refusesJson (py text) with
    | some failure => .error failure
    | none =>
      match loads (py text) with
      | some value => .ok value
      | none => .error (.valueError (p.complaint (py text)))

/-- `WaybackCDXClient._parse_payload`, with the resume key that a request can carry. -/
def parsePayload (payload : List UInt8) : Except Failure (List Row × Option String) := do
  let payload ← if payload.take 2 = [0x1f, 0x8b] then p.decompress payload else .ok payload
  let (rows, resumeKey) ← readTable (← loadsBytes p payload)
  match resumeKey.map charsOf with
  | none => return (rows, none)
  | some (some key) => return (rows, some (String.ofList key))
  | some none => .error (.valueError (p.complaint (resumeKey.getD [])))

/-! ## Rows of a page -/

/-- The rows of a page: the first accepted row of an identity gives its capsule. The rows that were seen, and the error
    that ended the page. -/
def collectRows {ι : Type} [DecidableEq ι] (accept : Row → Except Failure (Option ι))
    (capsule : Row → ι → Nat → Except Failure EvidenceCapsule) :
    Nat → List (ι × EvidenceCapsule) → List Row → Nat × List (ι × EvidenceCapsule) × Option Failure
  | recordsSeen, found, [] => (recordsSeen, found, none)
  | recordsSeen, found, row :: rest =>
    match accept row with
    | .error failure => (recordsSeen + 1, found, some failure)
    | .ok none => collectRows accept capsule (recordsSeen + 1) found rest
    | .ok (some identity) =>
      if (found.find? (·.1 = identity)).isSome then collectRows accept capsule (recordsSeen + 1) found rest
      else
        match capsule row identity (recordsSeen + 1) with
        | .error failure => (recordsSeen + 1, found, some failure)
        | .ok made => collectRows accept capsule (recordsSeen + 1) (found ++ [(identity, made)]) rest

end

/-! ## What a page gives -/

section
variable {ι : Type} [DecidableEq ι] {accept : Row → Except Failure (Option ι)} {capsule : Row → ι → Nat → Except Failure EvidenceCapsule}

def identityOf (accept : Row → Except Failure (Option ι)) (row : Row) : Option ι :=
  match accept row with
  | .ok identity => identity
  | .error _ => none

/-- Every row is read, and UTF-8 holds the text of every row that is the first of its identity. -/
def Legible (accept : Row → Except Failure (Option ι)) : List ι → List Row → Prop
  | _, [] => True
  | seen, row :: rest =>
    match accept row with
    | .error _ => False
    | .ok none => Legible accept seen rest
    | .ok (some identity) => (identity ∈ seen ∨ encodable (dumps (.obj row)) = true) ∧ Legible accept (identity :: seen) rest

/-- The capsule of an accepted row can be made exactly when UTF-8 holds its text, and is of its identity. -/
structure Makes (accept : Row → Except Failure (Option ι)) (capsule : Row → ι → Nat → Except Failure EvidenceCapsule)
    (of : ι → EvidenceCapsule → Prop) : Prop where
  made : ∀ row identity n, accept row = .ok (some identity) → encodable (dumps (.obj row)) = true →
    ∃ c, capsule row identity n = .ok c ∧ of identity c
  refused : ∀ row identity n c, capsule row identity n = .ok c → encodable (dumps (.obj row)) = true
  misread : ∀ row failure, accept row = .error failure → ∃ message, failure = .valueError message
  unmade : ∀ row identity n failure, capsule row identity n = .error failure → ∃ message, failure = .valueError message

omit [DecidableEq ι] in
theorem legible_congr {first second : List ι} (same : ∀ i, i ∈ first ↔ i ∈ second) (rows : List Row) :
    Legible accept first rows ↔ Legible accept second rows := by
  induction rows generalizing first second with
  | nil => rfl
  | cons row rest ih =>
    unfold Legible
    split
    · rfl
    · exact ih same
    · rename_i identity _
      rw [same identity, ih fun i => (by simp [same] : i ∈ identity :: first ↔ i ∈ identity :: second)]

/-- What the rows of a page give: the capsules that were there and one for each new identity. -/
structure Collected (accept : Row → Except Failure (Option ι)) (of : ι → EvidenceCapsule → Prop) (recordsSeen : Nat)
    (found : List (ι × EvidenceCapsule)) (rows : List Row) (end_ : Nat × List (ι × EvidenceCapsule)) : Prop where
  records : end_.1 = recordsSeen + rows.length
  identities : ∀ i, i ∈ end_.2.map (·.1) ↔ i ∈ found.map (·.1) ∨ ∃ row ∈ rows, identityOf accept row = some i
  apart : (found.map (·.1)).Nodup → (end_.2.map (·.1)).Nodup
  each : (∀ entry ∈ found, of entry.1 entry.2) → ∀ entry ∈ end_.2, of entry.1 entry.2

theorem find?_isSome_iff (found : List (ι × EvidenceCapsule)) (identity : ι) :
    (found.find? (·.1 = identity)).isSome ↔ identity ∈ found.map (·.1) := by
  rw [List.find?_isSome]
  simp

/-- A page of legible rows is collected, and any other raises a `ValueError`. -/
theorem collectRows_spec {of : ι → EvidenceCapsule → Prop} (makes : Makes accept capsule of) (recordsSeen : Nat)
    (found : List (ι × EvidenceCapsule)) (rows : List Row) :
    (Legible accept (found.map (·.1)) rows ∧ ∃ end_, collectRows accept capsule recordsSeen found rows = (end_.1, end_.2, none) ∧
      Collected accept of recordsSeen found rows end_) ∨
    (¬Legible accept (found.map (·.1)) rows ∧ ∃ records kept message,
      collectRows accept capsule recordsSeen found rows = (records, kept, some (.valueError message))) := by
  induction rows generalizing recordsSeen found with
  | nil => exact .inl ⟨trivial, (recordsSeen, found), rfl, rfl, fun i => by simp, id, id⟩
  | cons row rest ih =>
    unfold collectRows Legible
    cases read : accept row with
    | error failure =>
      obtain ⟨message, rfl⟩ := makes.misread row failure read
      exact .inr ⟨id, recordsSeen + 1, found, message, rfl⟩
    | ok identity =>
      cases identity with
      | none =>
        dsimp only
        have skipped : identityOf accept row = none := by rw [identityOf, read]
        rcases ih (recordsSeen + 1) found with ⟨legible, end_, ended, c⟩ | bad
        · refine .inl ⟨legible, end_, ended, by rw [c.records, List.length_cons]; omega, fun i => ?_, c.apart, c.each⟩
          rw [c.identities i]
          simp [skipped]
        · exact .inr bad
      | some identity =>
        dsimp only
        have taken : identityOf accept row = some identity := by rw [identityOf, read]
        by_cases known : (found.find? (·.1 = identity)).isSome
        · rw [if_pos known]
          have inside := (find?_isSome_iff found identity).mp known
          have same : Legible accept (identity :: found.map (·.1)) rest ↔ Legible accept (found.map (·.1)) rest :=
            legible_congr (fun i => by
              rw [List.mem_cons]
              exact ⟨fun either => either.elim (fun equal => equal ▸ inside) id, .inr⟩) rest
          rw [same]
          rcases ih (recordsSeen + 1) found with ⟨legible, end_, ended, c⟩ | ⟨illegible, failed⟩
          · refine .inl ⟨⟨.inl inside, legible⟩, end_, ended, by rw [c.records, List.length_cons]; omega, fun i => ?_, c.apart, c.each⟩
            rw [c.identities i]
            constructor
            · rintro (old | ⟨r, listed, same⟩)
              · exact .inl old
              · exact .inr ⟨r, List.mem_cons_of_mem _ listed, same⟩
            · rintro (old | ⟨r, listed, same⟩)
              · exact .inl old
              · rcases List.mem_cons.mp listed with rfl | later
                · exact .inl (Option.some.inj (taken.symm.trans same) ▸ inside)
                · exact .inr ⟨r, later, same⟩
          · exact .inr ⟨fun both => illegible both.2, failed⟩
        · rw [if_neg known]
          have outside : identity ∉ found.map (·.1) := fun inside => known ((find?_isSome_iff found identity).mpr inside)
          by_cases encodes : encodable (dumps (.obj row)) = true
          · obtain ⟨made, isMade, isOf⟩ := makes.made row identity (recordsSeen + 1) read encodes
            rw [isMade]
            dsimp only
            have grown : Legible accept (identity :: found.map (·.1)) rest ↔
                Legible accept ((found ++ [(identity, made)]).map (·.1)) rest :=
              legible_congr (fun i => by simp [or_comm]) rest
            rw [grown]
            rcases ih (recordsSeen + 1) (found ++ [(identity, made)]) with ⟨legible, end_, ended, c⟩ | ⟨illegible, failed⟩
            · refine .inl ⟨⟨.inr encodes, legible⟩, end_, ended, by rw [c.records, List.length_cons]; omega, fun i => ?_, fun apart => ?_,
                fun each => ?_⟩
              · rw [c.identities i]
                constructor
                · rintro (old | ⟨r, listed, same⟩)
                  · rw [List.map_append, List.mem_append] at old
                    rcases old with old | new
                    · exact .inl old
                    · exact .inr ⟨row, List.mem_cons_self, by rw [taken, List.mem_singleton.mp new]⟩
                  · exact .inr ⟨r, List.mem_cons_of_mem _ listed, same⟩
                · rintro (old | ⟨r, listed, same⟩)
                  · exact .inl (by rw [List.map_append, List.mem_append]; exact .inl old)
                  · rcases List.mem_cons.mp listed with rfl | later
                    · exact .inl (by simp [Option.some.inj (taken.symm.trans same)])
                    · exact .inr ⟨r, later, same⟩
              · refine c.apart ?_
                rw [List.map_append]
                exact apart.append (List.nodup_singleton _) (by simpa using outside)
              · refine c.each fun entry member => ?_
                rcases List.mem_append.mp member with old | new
                · exact each entry old
                · rw [List.mem_singleton.mp new]
                  exact isOf
            · exact .inr ⟨fun both => illegible both.2, failed⟩
          · cases isMade : capsule row identity (recordsSeen + 1) with
            | ok made => exact absurd (makes.refused row identity _ made isMade) encodes
            | error failure =>
              obtain ⟨message, rfl⟩ := makes.unmade row identity _ failure isMade
              exact .inr ⟨fun both => both.1.elim outside encodes, recordsSeen + 1, found, message, rfl⟩

/-- Whatever ends a page, there is one capsule for each identity that was kept. -/
theorem collectRows_kept {of : ι → EvidenceCapsule → Prop} (makes : Makes accept capsule of) (recordsSeen : Nat)
    (found : List (ι × EvidenceCapsule)) (rows : List Row) (apart : (found.map (·.1)).Nodup) (each : ∀ entry ∈ found, of entry.1 entry.2) :
    ((collectRows accept capsule recordsSeen found rows).2.1.map (·.1)).Nodup ∧
      ∀ entry ∈ (collectRows accept capsule recordsSeen found rows).2.1, of entry.1 entry.2 := by
  induction rows generalizing recordsSeen found with
  | nil => exact ⟨apart, each⟩
  | cons row rest ih =>
    unfold collectRows
    cases read : accept row with
    | error failure => exact ⟨apart, each⟩
    | ok identity =>
      cases identity with
      | none => exact ih _ found apart each
      | some identity =>
        dsimp only
        by_cases known : (found.find? (·.1 = identity)).isSome
        · rw [if_pos known]
          exact ih _ found apart each
        · rw [if_neg known]
          have outside : identity ∉ found.map (·.1) := fun inside => known ((find?_isSome_iff found identity).mpr inside)
          cases isMade : capsule row identity (recordsSeen + 1) with
          | error failure => exact ⟨apart, each⟩
          | ok made =>
            obtain ⟨made', same, isOf⟩ := makes.made row identity _ read (makes.refused row identity _ made isMade)
            obtain rfl := Except.ok.inj (isMade.symm.trans same)
            refine ih _ _ ?_ fun entry member => ?_
            · rw [List.map_append]
              exact apart.append (List.nodup_singleton _) (by simpa using outside)
            · rcases List.mem_append.mp member with old | new
              · exact each entry old
              · rw [List.mem_singleton.mp new]
                exact isOf

end

end Creeper.CdxRows
