import Creeper.CdxQueries
import Creeper.IndexRows
import Creeper.JsonLengths

/-!
# Rows of Arquivo.pt

`_parse_arquivo_payload` reads one JSON text or, where that fails, a JSON object on every line. The
fields of Arquivo.pt are renamed on the first way only, and lines end at characters that a JSON
string may hold.
-/

namespace Creeper.ArquivoRows
open Creeper.PyText Creeper.JsonText Creeper.JsonLengths Creeper.EvidenceTasks Creeper.CdxRows Creeper.CdxQueries
open Creeper.EvidenceSemantics (stripText spaceAt)
open Creeper.ResultCodec (find?_setMember)

/-! ## Lines -/

/-- The code points at which `str.splitlines` ends a line. -/
def endsLine : CodePoint → Bool
  | .char c => IndexRows.endsLine c
  | .surrogate _ => false

/-- `text.splitlines()`. -/
def splitlines : PyStr → List PyStr
  | [] => []
  | .char '\r' :: .char '\n' :: rest => [] :: splitlines rest
  | c :: rest =>
    if endsLine c then [] :: splitlines rest
    else
      match splitlines rest with
      | [] => [[c]]
      | line :: more => (c :: line) :: more

/-! ## The parser -/

/-- `isinstance(item, dict)`. -/
def objectOf : Json → Option Row
  | .obj members => some members
  | _ => none

/-- A row under a header; values behind the last field and fields behind the last value are left out. -/
def headedRow (header : List PyStr) : Json → Option Row
  | .arr raw => some (dictOf (header.zip raw))
  | _ => none

def rowsOf : Json → List Row
  | .obj members => [members]
  | .arr (.arr header :: rest) => if header.all (textOf · |>.isSome) then rest.filterMap (headedRow (header.filterMap textOf)) else []
  | .arr items => items.filterMap objectOf
  | _ => []

/-- A field takes the value of another one, unless it is there. -/
def renamed (name source : String) (row : Row) : Row :=
  match row.find? (·.1 = py name), row.find? (·.1 = py source) with
  | none, some member => setMember (py name) member.2 row
  | _, _ => row

/-- The fields of Arquivo.pt under the names of the Wayback Machine. -/
def normalized (row : Row) : Row :=
  renamed "mimetype" "mime" (renamed "statuscode" "status" (renamed "original" "url" row))

/-- `_parse_arquivo_payload`, of the decoded payload. -/
def parseArquivoPayload (payload : PyStr) : List Row :=
  let text := stripText payload
  if text = [] then []
  else
    match loads text with
    | some value => (rowsOf value).map normalized
    | none => (splitlines text).filterMap fun line => (loads line).bind objectOf

/-- What `iter_range_pages` yields of a response: one page, the last if it is not full. -/
def pagesOf (limit : Nat) (payload : PyStr) : Pages where
  pages := [(parseArquivoPayload payload, (parseArquivoPayload payload).length < limit)]
  failure := none

/-! ## Encodings -/

def textOfRecord (record : Dict) : PyStr := dumps (.obj record.members)

/-- `"\n".join(lines)`. -/
def joinLines : List PyStr → PyStr
  | [] => []
  | [line] => line
  | line :: rest => line ++ .char '\n' :: joinLines rest

/-- The three encodings of some records: an array of objects, an array with a header row, and an object on every line. -/
inductive Encodes (records : List Dict) : PyStr → Prop
  | objects : Encodes records (dumps (.arr (records.map fun record => .obj record.members)))
  | header (fields : List PyStr) (rows : List (List Json)) (ordered : ∀ row ∈ rows, ∀ value ∈ row, Ordered value)
      (same : records.map (·.members) = rows.map fun row => dictOf (fields.zip row)) :
      Encodes records (dumps (.arr (.arr (fields.map .str) :: rows.map .arr)))
  | lines : Encodes records (joinLines (records.map textOfRecord))

/-- A field under its own name or under that of Arquivo.pt is there under its own. -/
def Named (row : Row) : Prop :=
  ∀ names ∈ [("original", "url"), ("statuscode", "status"), ("mimetype", "mime")],
    (row.find? (·.1 = py names.2)).isSome → (row.find? (·.1 = py names.1)).isSome

/-- The encodings of some records are read the same: as rows with all fields, and by both queries. -/
structure Indifferent (records : List Dict) : Prop where
  rows : ∀ first second, Encodes records first → Encodes records second → parseArquivoPayload first = parseArquivoPayload second
  named : ∀ payload, Encodes records payload → ∀ row ∈ parseArquivoPayload payload, Named row
  key : ∀ first second, Encodes records first → Encodes records second → ∀ p client spent key,
    queryKey p client spent key (pagesOf 1 first) = queryKey p client spent key (pagesOf 1 second)
  range : ∀ first second, Encodes records first → Encodes records second → ∀ p client spent key,
    queryRange p client spent key (pagesOf client.limit first) = queryRange p client spent key (pagesOf client.limit second)

/-! ## Splitting -/

theorem splitlines_ends {c : CodePoint} (ends : endsLine c) {rest : PyStr} (single : c = .char '\r' → rest.head? ≠ some (.char '\n')) :
    splitlines (c :: rest) = [] :: splitlines rest := by
  rw [splitlines, if_pos ends]
  rintro more rfl rfl
  exact absurd rfl (single rfl)

theorem splitlines_inside {c : CodePoint} (inside : endsLine c = false) (rest : PyStr) :
    splitlines (c :: rest) = match splitlines rest with | [] => [[c]] | line :: more => (c :: line) :: more := by
  rw [splitlines, if_neg (by rw [inside]; decide)]
  rintro more rfl
  cases inside

theorem splitlines_line {line : PyStr} (solid : ∀ c ∈ line, endsLine c = false) (rest : PyStr) :
    splitlines (line ++ .char '\n' :: rest) = line :: splitlines rest := by
  induction line with
  | nil => exact splitlines_ends (by decide) nofun
  | cons c line ih =>
    rw [List.cons_append, splitlines_inside (solid c List.mem_cons_self), ih fun d member => solid d (List.mem_cons_of_mem _ member)]

theorem splitlines_last {line : PyStr} (some_ : line ≠ []) (solid : ∀ c ∈ line, endsLine c = false) : splitlines line = [line] := by
  induction line with
  | nil => exact absurd rfl some_
  | cons c line ih =>
    rw [splitlines_inside (solid c List.mem_cons_self)]
    cases line with
    | nil => rfl
    | cons d line => rw [ih (List.cons_ne_nil _ _) fun e member => solid e (List.mem_cons_of_mem _ member)]

theorem splitlines_join {lines : List PyStr} (some_ : ∀ line ∈ lines, line ≠ []) (solid : ∀ line ∈ lines, ∀ c ∈ line, endsLine c = false) :
    splitlines (joinLines lines) = lines := by
  induction lines with
  | nil => rfl
  | cons line rest ih =>
    cases rest with
    | nil => exact splitlines_last (some_ line List.mem_cons_self) (solid line List.mem_cons_self)
    | cons next rest =>
      rw [joinLines, splitlines_line (solid line List.mem_cons_self), ih (fun l member => some_ l (List.mem_cons_of_mem _ member))
        fun l member => solid l (List.mem_cons_of_mem _ member)]
      exact List.cons_ne_nil _ _

/-- The lines hold what is not the end of one. -/
theorem splitlines_flatten (text : PyStr) : (splitlines text).flatten = text.filter fun c => !endsLine c := by
  fun_induction splitlines text with
  | case1 => rfl
  | case2 rest ih =>
    have first : endsLine (.char '\r') = true := by decide
    have second : endsLine (.char '\n') = true := by decide
    rw [List.flatten_cons, ih, List.filter_cons, List.filter_cons, first, second]
    rfl
  | case3 c rest single ends ih => rw [List.flatten_cons, ih, List.filter_cons, ends]; rfl
  | case4 c rest single inside nothing ih =>
    rw [nothing] at ih
    rw [List.filter_cons, ← ih, if_pos (by simpa using inside)]
    rfl
  | case5 c rest single inside line more split_ ih =>
    rw [split_] at ih
    rw [List.filter_cons, ← ih, if_pos (by simpa using inside)]
    rfl

/-! ## Texts of records -/

theorem stripText_solid {first last : CodePoint} (starts : spaceAt first = false) (ends : spaceAt last = false) (inner : PyStr) :
    stripText (first :: (inner ++ [last])) = first :: (inner ++ [last]) := by
  have reversed : (first :: (inner ++ [last])).reverse = last :: (inner.reverse ++ [first]) := by simp
  rw [stripText, List.dropWhile_cons_of_neg (by rw [starts]; decide), reversed, List.dropWhile_cons_of_neg (by rw [ends]; decide)]
  simp

theorem stripText_array (items : List Json) : stripText (dumps (.arr items)) = dumps (.arr items) := by
  rw [dumps, write]
  exact stripText_solid (by decide) (by decide) _

theorem text_braces (record : Dict) :
    textOfRecord record = .char '\x7b' :: (writeMembers record.members ++ [.char '\x7d']) := by
  rw [textOfRecord, dumps, write]

theorem joinLines_braces (record : Dict) (rest : List Dict) :
    ∃ inner, joinLines ((record :: rest).map textOfRecord) = .char '\x7b' :: (inner ++ [.char '\x7d']) := by
  induction rest generalizing record with
  | nil => exact ⟨writeMembers record.members, text_braces record⟩
  | cons next rest ih =>
    obtain ⟨inner, later⟩ := ih next
    refine ⟨writeMembers record.members ++ .char '\x7d' :: .char '\n' :: .char '\x7b' :: inner, ?_⟩
    rw [List.map_cons, List.map_cons, joinLines, ← List.map_cons, later, text_braces]
    · simp
    · exact List.cons_ne_nil _ _

theorem stripText_lines (records : List Dict) :
    stripText (joinLines (records.map textOfRecord)) = joinLines (records.map textOfRecord) := by
  cases records with
  | nil => rfl
  | cons record rest =>
    obtain ⟨inner, shape⟩ := joinLines_braces record rest
    rw [shape]
    exact stripText_solid (by decide) (by decide) _

theorem readValue_object (record : Dict) (n : Nat) (enough : fuel (.obj record.members) ≤ n) (rest : PyStr) :
    readValue n (textOfRecord record ++ rest) = some (.obj record.members, rest) := by
  obtain ⟨members, ordered⟩ := record
  obtain ⟨n, rfl⟩ : ∃ m, n = m + 1 := ⟨n - 1, by simp only [fuel] at enough; omega⟩
  have opening : textOfRecord ⟨members, ordered⟩ ++ rest = .char '\x7b' :: (writeMembers members ++ .char '\x7d' :: rest) := by
    rw [text_braces]
    simp
  rw [opening, readValue, skipWhitespace_cons (by decide)]
  cases members with
  | nil => simp [writeMembers, skipWhitespace_cons (c := .char '\x7d') (by decide)]
  | cons p members =>
    have read := readMembers_spelled plain_spelling p members ordered.2 (textsMembers_true _) n
      (by simp only [fuel] at enough; omega) [] rest (by simpa using ordered.1)
    obtain ⟨more, starts⟩ := plain_spelling.members_start p members
    rw [starts] at read
    have same : writeMembers (p :: members) = .char '"' :: more := by simpa using starts
    rw [same]
    rw [List.cons_append] at read ⊢
    simpa [skipWhitespace_cons (c := .char '"') (by decide)] using read

/-! ## One JSON text -/

/-- The rows of some records, their fields renamed. -/
def normalizedRows (records : List Dict) : List Row := records.map fun record => normalized record.members

theorem parse_loaded {payload : PyStr} {value : Json} (solid : stripText payload = payload) (some_ : payload ≠ [])
    (read : loads payload = some value) : parseArquivoPayload payload = (rowsOf value).map normalized := by
  unfold parseArquivoPayload
  rw [solid]
  dsimp only
  rw [if_neg some_, read]

theorem parse_array {items : List Json} (ordered : ∀ item ∈ items, Ordered item) :
    parseArquivoPayload (dumps (.arr items)) = (rowsOf (.arr items)).map normalized := by
  refine parse_loaded (stripText_array items) ?_ (loads_dumps (ResultCodec.orderedItems_iff.mpr ordered))
  rw [dumps, write]
  exact List.cons_ne_nil _ _

theorem filterMap_objects (records : List Dict) :
    (records.map fun record => Json.obj record.members).filterMap objectOf = records.map (·.members) := by
  rw [List.filterMap_map]
  exact List.filterMap_eq_map_iff_forall_eq_some.mpr fun record _ => rfl

theorem objects_read (records : List Dict) :
    parseArquivoPayload (dumps (.arr (records.map fun record => .obj record.members))) = normalizedRows records := by
  have ordered : ∀ item ∈ records.map fun record => Json.obj record.members, Ordered item := by
    intro item member
    obtain ⟨record, -, rfl⟩ := List.mem_map.mp member
    exact record.ordered
  have plain : rowsOf (.arr (records.map fun record => .obj record.members)) = records.map (·.members) := by
    cases records with
    | nil => rfl
    | cons record rest => exact filterMap_objects (record :: rest)
  rw [parse_array ordered, plain, List.map_map]
  rfl

theorem header_read {records : List Dict} {fields : List PyStr} {rows : List (List Json)} (ordered : ∀ row ∈ rows, ∀ value ∈ row, Ordered value)
    (same : records.map (·.members) = rows.map fun row => dictOf (fields.zip row)) :
    parseArquivoPayload (dumps (.arr (.arr (fields.map .str) :: rows.map .arr))) = normalizedRows records := by
  have texts : (fields.map Json.str).all (textOf · |>.isSome) = true := by
    rw [List.all_eq_true]
    intro value member
    obtain ⟨text, -, rfl⟩ := List.mem_map.mp member
    rfl
  have header : (fields.map Json.str).filterMap textOf = fields := by
    rw [List.filterMap_map]
    exact List.filterMap_some
  have each : (rows.map Json.arr).filterMap (headedRow fields) = rows.map fun row => dictOf (fields.zip row) := by
    rw [List.filterMap_map]
    exact List.filterMap_eq_map_iff_forall_eq_some.mpr fun row _ => rfl
  have all : ∀ item ∈ Json.arr (fields.map .str) :: rows.map .arr, Ordered item := by
    intro item member
    rcases List.mem_cons.mp member with rfl | listed
    · refine ResultCodec.orderedItems_iff.mpr fun value inside => ?_
      obtain ⟨text, -, rfl⟩ := List.mem_map.mp inside
      trivial
    · obtain ⟨row, member_, rfl⟩ := List.mem_map.mp listed
      exact ResultCodec.orderedItems_iff.mpr fun value inside => ordered row member_ value inside
  have under : rowsOf (.arr (.arr (fields.map .str) :: rows.map .arr)) = records.map (·.members) := by
    rw [rowsOf, if_pos texts, header, each, same]
  rw [parse_array all, under, List.map_map]
  rfl

/-! ## Lines -/

theorem line_read (record : Dict) : loads (textOfRecord record) = some (.obj record.members) := loads_dumps record.ordered

theorem line_some (record : Dict) : textOfRecord record ≠ [] := by
  rw [text_braces]
  exact List.cons_ne_nil _ _

theorem lines_fail (first second : Dict) (rest : List Dict) : loads (joinLines ((first :: second :: rest).map textOfRecord)) = none := by
  obtain ⟨inner, shape⟩ := joinLines_braces second rest
  have text : joinLines ((first :: second :: rest).map textOfRecord) =
      textOfRecord first ++ .char '\n' :: joinLines ((second :: rest).map textOfRecord) := rfl
  have read := readValue_object first ((textOfRecord first ++ .char '\n' :: joinLines ((second :: rest).map textOfRecord)).length + 1)
    (by have enough := fuel_le (.obj first.members)
        rw [List.length_append, textOfRecord, dumps]
        omega) (.char '\n' :: joinLines ((second :: rest).map textOfRecord))
  have newline : isWhitespace (.char '\n') = true := by decide
  have brace : isWhitespace (.char '\x7b') = false := by decide
  rw [text, loads, read]
  dsimp only
  rw [shape, skipWhitespace, List.dropWhile_cons_of_pos newline, List.dropWhile_cons_of_neg (by rw [brace]; decide), if_neg (List.cons_ne_nil _ _)]

theorem lines_read_single (record : Dict) : parseArquivoPayload (joinLines ([record].map textOfRecord)) = normalizedRows [record] :=
  parse_loaded (stripText_lines [record]) (line_some record) (line_read record)

theorem lines_read_many (first second : Dict) (rest : List Dict) :
    parseArquivoPayload (joinLines ((first :: second :: rest).map textOfRecord)) =
      (splitlines (joinLines ((first :: second :: rest).map textOfRecord))).filterMap fun line => (loads line).bind objectOf := by
  obtain ⟨inner, shape⟩ := joinLines_braces first (second :: rest)
  have some_ : joinLines ((first :: second :: rest).map textOfRecord) ≠ [] := by
    rw [shape]
    exact List.cons_ne_nil _ _
  unfold parseArquivoPayload
  rw [stripText_lines]
  dsimp only
  rw [if_neg some_, lines_fail]

/-! ## Lengths -/

theorem rows_length (lines : List PyStr) :
    ((lines.filterMap fun line => (loads line).bind objectOf).map fun row => (dumps (.obj row)).length).sum ≤ lines.flatten.length := by
  induction lines with
  | nil => exact le_rfl
  | cons line rest ih =>
    rw [List.filterMap_cons, List.flatten_cons, List.length_append]
    cases read : loads line with
    | none => exact ih.trans (Nat.le_add_left _ _)
    | some value =>
      cases value with
      | obj members =>
        have here := loads_length read
        dsimp only [Option.bind_some, objectOf]
        rw [List.map_cons, List.sum_cons]
        exact Nat.add_le_add here ih
      | _ => exact ih.trans (Nat.le_add_left _ _)

/-- The text of some records without what ends lines. -/
theorem joined_filter (records : List Dict) :
    (joinLines (records.map textOfRecord)).filter (fun c => !endsLine c) =
      (records.flatMap textOfRecord).filter fun c => !endsLine c := by
  induction records with
  | nil => rfl
  | cons record rest ih =>
    cases rest with
    | nil => rw [List.flatMap_singleton]; rfl
    | cons next rest =>
      have newline : endsLine (.char '\n') = true := by decide
      rw [List.map_cons, List.map_cons, joinLines, ← List.map_cons, List.filter_append, List.filter_cons, newline, List.flatMap_cons,
        List.filter_append, ← ih]
      · rfl
      · exact List.cons_ne_nil _ _

theorem renamed_length (name source : String) (row : Row) : membersLength row ≤ membersLength (renamed name source row) := by
  unfold renamed
  split
  · rename_i member absent found
    rw [(setMember_length (py name) member.2 row).2 absent]
    exact Nat.le_add_left _ _
  · exact le_rfl

theorem object_length (row : Row) : (dumps (.obj row)).length = max 2 (membersLength row + 1) := by
  cases row with
  | nil => rfl
  | cons p rest =>
    rw [dumps, write_object, membersLength_cons, memberLength]
    omega

/-- Renaming makes no record shorter. -/
theorem normalized_length (row : Row) : (dumps (.obj row)).length ≤ (dumps (.obj (normalized row))).length := by
  have first := renamed_length "original" "url" row
  have second := renamed_length "statuscode" "status" (renamed "original" "url" row)
  have third := renamed_length "mimetype" "mime" (renamed "statuscode" "status" (renamed "original" "url" row))
  rw [object_length, object_length, normalized]
  omega

/-! ## Names -/

def has (row : Row) (name : String) : Bool := (row.find? (·.1 = py name)).isSome

theorem has_renamed (name source : String) (row : Row) (k : String) :
    has (renamed name source row) k = (has row k || (decide (name = k) && has row source)) := by
  unfold renamed has
  split
  · rename_i member absent found
    rw [find?_setMember, found]
    by_cases same : name = k
    · subst same
      simp
    · rw [if_neg fun equal => same (py_injective equal)]
      simp [same]
  · rename_i other
    by_cases same : name = k
    · subst same
      cases here : row.find? (·.1 = py name) with
      | some member => simp
      | none =>
        cases there : row.find? (·.1 = py source) with
        | none => simp
        | some member => exact absurd there (other member here)
    · simp [same]

theorem renamed_same {name source : String} {row : Row} (there : has row source → has row name) : renamed name source row = row := by
  unfold renamed
  split
  · rename_i member absent found
    have here := there (by rw [has, found]; rfl)
    rw [has, absent] at here
    cases here
  · rfl

theorem named_iff (row : Row) : Named row ↔ (has row "url" → has row "original") ∧ (has row "status" → has row "statuscode") ∧
    (has row "mime" → has row "mimetype") := by
  simp [Named, has]

theorem named_normalized (row : Row) : Named (normalized row) := by
  rw [named_iff]
  simp only [normalized, has_renamed, String.reduceEq, decide_true, decide_false, Bool.true_and, Bool.false_and, Bool.or_false]
  refine ⟨fun url => ?_, fun status => ?_, fun mime => ?_⟩
  · rw [url, Bool.or_true]
  · rw [status, Bool.or_true]
  · rw [mime, Bool.or_true]

theorem normalized_same_iff (row : Row) : normalized row = row ↔ Named row := by
  constructor
  · intro same
    rw [← same]
    exact named_normalized row
  · intro named
    obtain ⟨url, status, mime⟩ := (named_iff row).mp named
    rw [normalized, renamed_same url, renamed_same status, renamed_same mime]

/-! ## All encodings -/

/-- A record has the names of the Wayback Machine, and its text no end of a line. -/
structure Settled (record : Dict) : Prop where
  named : Named record.members
  solid : ∀ c ∈ textOfRecord record, endsLine c = false

theorem normalizedRows_settled {records : List Dict} (named : ∀ record ∈ records, Named record.members) :
    normalizedRows records = records.map (·.members) :=
  List.map_congr_left fun record member => (normalized_same_iff record.members).mpr (named record member)

theorem lines_read_solid {first second : Dict} {rest : List Dict}
    (solid : ∀ record ∈ first :: second :: rest, ∀ c ∈ textOfRecord record, endsLine c = false) :
    parseArquivoPayload (joinLines ((first :: second :: rest).map textOfRecord)) = (first :: second :: rest).map (·.members) := by
  rw [lines_read_many, splitlines_join, List.filterMap_map]
  · refine List.filterMap_eq_map_iff_forall_eq_some.mpr fun record _ => ?_
    dsimp only [Function.comp_apply]
    rw [line_read]
    rfl
  · intro line member
    obtain ⟨record, -, rfl⟩ := List.mem_map.mp member
    exact line_some record
  · intro line member
    obtain ⟨record, listed, rfl⟩ := List.mem_map.mp member
    exact solid record listed

/-- Lines that are read as the renamed records have no ends in them: what is split there is shorter than the records. -/
theorem lines_solid {first second : Dict} {rest : List Dict}
    (read : parseArquivoPayload (joinLines ((first :: second :: rest).map textOfRecord)) = normalizedRows (first :: second :: rest)) :
    ∀ record ∈ first :: second :: rest, ∀ c ∈ textOfRecord record, endsLine c = false := by
  rw [lines_read_many] at read
  have short := rows_length (splitlines (joinLines ((first :: second :: rest).map textOfRecord)))
  rw [read, splitlines_flatten, joined_filter] at short
  generalize first :: second :: rest = records at short
  have long : (records.flatMap textOfRecord).length ≤ ((normalizedRows records).map fun row => (dumps (.obj row)).length).sum := by
    rw [List.length_flatMap, normalizedRows, List.map_map]
    exact List.sum_le_sum fun record _ => normalized_length record.members
  have all := List.length_filter_eq_length_iff.mp (le_antisymm (List.length_filter_le _ _) (long.trans short))
  intro record member c inside
  simpa using all c (List.mem_flatMap.mpr ⟨record, member, inside⟩)

/-- Lines are read as the renamed records exactly when there is one line at most, or all records are settled. -/
theorem lines_read_iff (records : List Dict) :
    parseArquivoPayload (joinLines (records.map textOfRecord)) = normalizedRows records ↔
      records.length ≤ 1 ∨ ∀ record ∈ records, Settled record := by
  match records with
  | [] => exact ⟨fun _ => .inl (Nat.zero_le _), fun _ => rfl⟩
  | [record] => exact ⟨fun _ => .inl le_rfl, fun _ => lines_read_single record⟩
  | first :: second :: rest =>
    constructor
    · intro read
      have solid := lines_solid read
      rw [lines_read_solid solid] at read
      refine .inr fun record member => ⟨(normalized_same_iff record.members).mp ?_, solid record member⟩
      exact (List.map_inj_left.mp read record member).symm
    · rintro (few | settled)
      · simp at few
      · rw [lines_read_solid fun record member => (settled record member).solid,
          normalizedRows_settled fun record member => (settled record member).named]

/-- The encodings of some records are read the same exactly when the lines are read as the other two. -/
theorem shapes_agree_iff (records : List Dict) :
    Indifferent records ↔ records.length ≤ 1 ∨ ∀ record ∈ records, Settled record := by
  rw [← lines_read_iff]
  constructor
  · intro same
    rw [same.rows _ _ .lines .objects]
    exact objects_read records
  · intro lines
    have read : ∀ payload, Encodes records payload → parseArquivoPayload payload = normalizedRows records := by
      rintro _ (_ | ⟨fields, rows, ordered, same⟩ | _)
      · exact objects_read records
      · exact header_read ordered same
      · exact lines
    have pages : ∀ first second, Encodes records first → Encodes records second → ∀ limit, pagesOf limit first = pagesOf limit second := by
      intro first second one other limit
      rw [pagesOf, pagesOf, read first one, read second other]
    refine ⟨fun first second one other => (read first one).trans (read second other).symm, ?_, ?_, ?_⟩
    · intro payload encoded row member
      rw [read payload encoded] at member
      obtain ⟨record, -, rfl⟩ := List.mem_map.mp member
      exact named_normalized record.members
    · intro first second one other p client spent key
      rw [pages first second one other]
    · intro first second one other p client spent key
      rw [pages first second one other]

/-- Two captures of a host in one year, with the fields that the client asks for. -/
def captures : List Dict := [capture "19970101000000", capture "19980101000000"]
where
  capture (timestamp : String) : Dict := ⟨[
    (py "mime", .str (py "text/html")), (py "status", .str (py "200")), (py "timestamp", .str (py timestamp)),
    (py "url", .str (py "http://b.com/"))], by simp [Ordered, OrderedMembers, KeysRise, before, py, CodePoint.toNat]⟩

def plainPython : Python where
  lower := id
  repr _ := []
  repr_encodes := nothing_encodes
  refusesNetloc _ := false
  complaint _ := ""
  digest _ := "0"
  digest_named _ := zero_stated
  decompress := .ok
  refusesJson _ := none

/-- The state of a query of several years, of a payload of Arquivo.pt. -/
def stateOf (payload : PyStr) : Option QueryState :=
  match queryRange plainPython ⟨"wayback", "arquivo", 1000, fun _ _ _ => ""⟩ ⟨1, 0⟩ ⟨"b.com", 1996, 2001, "wayback", "cdx-v1", rangeKey.valid⟩
    (pagesOf 1000 payload) with
  | .ok result => some result.state
  | .error _ => none

/-- The captures are found in an array, and proved absent on lines. -/
theorem captures_absent : ¬Indifferent captures ∧
    stateOf (dumps (.arr (captures.map fun record => .obj record.members))) = some .pass ∧
    stateOf (joinLines (captures.map textOfRecord)) = some .emptyExhaustive := by
  have found : stateOf (dumps (.arr (captures.map fun record => .obj record.members))) = some .pass := by decide +kernel
  have absent : stateOf (joinLines (captures.map textOfRecord)) = some .emptyExhaustive := by decide +kernel
  refine ⟨fun same => ?_, found, absent⟩
  have equal : stateOf (joinLines (captures.map textOfRecord)) =
      stateOf (dumps (.arr (captures.map fun record => .obj record.members))) := by
    unfold stateOf
    rw [same.range _ _ .lines .objects plainPython ⟨"wayback", "arquivo", 1000, fun _ _ _ => ""⟩ ⟨1, 0⟩]
  rw [found, absent] at equal
  cases equal

end Creeper.ArquivoRows
