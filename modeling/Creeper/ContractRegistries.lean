import Creeper.BindingRoundTrips

/-!
# Registries of reviewed contracts

`evidence/contract_registry.py`: the contracts that reviewers granted to exact locators, as they are
loaded from an authoring file, written into a package and read back from it. Every entry and the whole
manifest carry digests of what they say.
-/

namespace Creeper.ContractRegistries
open Creeper.PyText Creeper.JsonText Creeper.BindingTokens Creeper.AdapterBindings Creeper.BindingRoundTrips
open Creeper.Hashing (encodeUtf8 sha256Hex)
open Creeper.EvidenceSemantics (stripText)
open Creeper.SearchResults (Python)
open Creeper.BatchPayload (member keysRise_of orderedItems_of)
open Creeper.PlatformHarvests (asciiEscape)

/-! ## Equal values -/

mutual
/-- Whether two values are the same. -/
def same : Json → Json → Bool
  | .null, .null => true
  | .bool a, .bool b => a == b
  | .int a, .int b => a == b
  | .float a, .float b => a = b
  | .str a, .str b => a = b
  | .arr items, .arr others => sameItems items others
  | .obj members, .obj others => sameMembers members others
  | _, _ => false
def sameItems : List Json → List Json → Bool
  | [], [] => true
  | v :: rest, w :: others => same v w && sameItems rest others
  | _, _ => false
def sameMembers : List (PyStr × Json) → List (PyStr × Json) → Bool
  | [], [] => true
  | (j, v) :: rest, (k, w) :: others => j = k && same v w && sameMembers rest others
  | _, _ => false
end

mutual
theorem same_iff (v w : Json) : same v w = true ↔ v = w := by
  cases v with
  | arr items =>
    cases w with
    | arr others => rw [same, sameItems_iff items others, Json.arr.injEq]
    | _ => simp [same]
  | obj members =>
    cases w with
    | obj others => rw [same, sameMembers_iff members others, Json.obj.injEq]
    | _ => simp [same]
  | _ => cases w <;> simp [same]
theorem sameItems_iff (items others : List Json) : sameItems items others = true ↔ items = others := by
  match items, others with
  | [], [] => simp [sameItems]
  | [], _ :: _ => simp [sameItems]
  | _ :: _, [] => simp [sameItems]
  | v :: rest, w :: others => rw [sameItems, Bool.and_eq_true, same_iff v w, sameItems_iff rest others, List.cons.injEq]
theorem sameMembers_iff (members others : List (PyStr × Json)) : sameMembers members others = true ↔ members = others := by
  match members, others with
  | [], [] => simp [sameMembers]
  | [], _ :: _ => simp [sameMembers]
  | _ :: _, [] => simp [sameMembers]
  | (j, v) :: rest, (k, w) :: others =>
    rw [sameMembers, Bool.and_eq_true, Bool.and_eq_true, decide_eq_true_eq, same_iff v w, sameMembers_iff rest others, List.cons.injEq,
      Prod.mk.injEq]
end

instance : DecidableEq Json := fun v w => decidable_of_iff _ (same_iff v w)

/-! ## Bindings -/

/-- `ReviewedSourceContractBinding`. -/
structure ReviewedSourceContractBinding where
  artifact : ReviewedArtifactBinding
  contract : SourceEvidenceContract
  reviewNote : PyStr
  direct : contract.authority = .directWebYear
  hosted : contract.hostnameField ≠ none
  timed : contract.timestampField ≠ none
  noted : reviewNote ≠ []
  deriving DecidableEq

def ReviewedSourceContractBinding.locator (x : ReviewedSourceContractBinding) : PyStr := x.artifact.locator

def ReviewedSourceContractBinding.make (p : Python) (artifact : ReviewedArtifactBinding) (contract : SourceEvidenceContract)
    (reviewNote : Json) :
    Except BindingError ReviewedSourceContractBinding :=
  if direct : contract.authority = .directWebYear then
    if hosted : contract.hostnameField ≠ none then
      if timed : contract.timestampField ≠ none then
        if noted : trimmed p reviewNote ≠ [] then .ok ⟨artifact, contract, trimmed p reviewNote, direct, hosted, timed, noted⟩
        else unreviewed "review_note is required"
      else unreviewed "reviewed direct structured contract requires timestamp_field"
    else unreviewed "reviewed direct structured contract requires hostname_field"
  else unreviewed "external reviewed registry entries must grant DIRECT_WEB_YEAR"

/-- `hashlib.sha256(text.encode("utf-8")).hexdigest()`. -/
def digestOf (text : PyStr) : Except BindingError PyStr :=
  match encodeUtf8 text with
  | some bytes => .ok (py (sha256Hex bytes))
  | none => invalid "'utf-8' codec can't encode: surrogates not allowed"

/-- `binding_digest`. -/
def ReviewedSourceContractBinding.bindingDigest (x : ReviewedSourceContractBinding) : Except BindingError PyStr := do
  let artifact ← bindingToken x.artifact.payload
  let artifactDigest ← digestOf artifact
  let contract ← bindingToken x.contract.payload
  let contractDigest ← digestOf contract
  digestOf (artifactDigest ++ py "\x00" ++ contractDigest ++ py "\x00" ++ x.reviewNote)

/-! ## Registries -/

/-- The bindings of a registry, one for a locator. -/
structure ReviewedContractRegistry where
  bindings : List ReviewedSourceContractBinding
  distinct : (bindings.map (·.locator)).Nodup
  deriving DecidableEq

/-- Two registries are equal as mappings. -/
def ReviewedContractRegistry.Same (r s : ReviewedContractRegistry) : Prop := r.bindings.Perm s.bindings

/-- A `dict` of bindings by locator, in the order in which they came. -/
structure Bindings where
  items : List (PyStr × ReviewedSourceContractBinding)
  distinct : (items.map Prod.fst).Nodup

/-- `ReviewedContractRegistry(bindings)`. -/
def ReviewedContractRegistry.make (bindings : Bindings) : Except BindingError ReviewedContractRegistry :=
  if own : ∀ item ∈ bindings.items, item.1 = item.2.locator then
    .ok ⟨bindings.items.map Prod.snd, by
      have keys : (bindings.items.map Prod.snd).map (·.locator) = bindings.items.map Prod.fst := by
        rw [List.map_map]
        exact List.map_congr_left fun item member => (own item member).symm
      rw [keys]
      exact bindings.distinct⟩
  else unreviewed "registry key must equal the binding locator"

/-- Whether the locator of one binding is not behind that of another. -/
def InOrder (x y : ReviewedSourceContractBinding) : Prop := before y.locator x.locator = false

instance : DecidableRel InOrder := fun x y => inferInstanceAs (Decidable (before y.locator x.locator = false))

/-- The bindings in the order of `sorted(self._bindings)`. -/
def ReviewedContractRegistry.sorted (r : ReviewedContractRegistry) : List ReviewedSourceContractBinding := r.bindings.insertionSort InOrder

/-- `get_exact` of a text. -/
def ReviewedContractRegistry.getExact (p : Python) (r : ReviewedContractRegistry) (locator : PyStr) :
    Option ReviewedSourceContractBinding :=
  match canonicalizeSourceEntrypoint p locator with
  | .ok canonical => r.bindings.find? (·.locator = canonical)
  | .error _ => none

/-! ## Manifests -/

def registryVersion : String := "reviewed-source-contract-registry-v1"

def ReviewedSourceContractBinding.entry (x : ReviewedSourceContractBinding) (digest : PyStr) : Json := .obj [
  (py "binding_digest", .str digest),
  (py "contract", x.contract.payload),
  (py "custodian", .str x.artifact.custodian),
  (py "edition", .str x.artifact.edition),
  (py "locator", .str x.artifact.locator),
  (py "review_note", .str x.reviewNote),
  (py "source_identity", x.artifact.sourceIdentity.payload)]

/-- `_manifest_entry`. -/
def manifestEntry (x : ReviewedSourceContractBinding) : Except BindingError Json := do
  let digest ← x.bindingDigest
  return x.entry digest

/-- The part of a manifest that its digest is taken of. -/
def unsigned (entries : List Json) : Json := .obj [(py "entries", .arr entries), (py "registry_version", .str (py registryVersion))]

/-- The bytes that a digest is taken of. -/
def signedBytes (payload : Json) : List UInt8 := ((dumps payload).flatMap asciiEscape).flatMap String.utf8EncodeChar

/-- `_manifest_digest`. -/
def manifestDigest (payload : Json) : Except BindingError PyStr :=
  if short payload then .ok (py (sha256Hex (signedBytes payload)))
  else invalid "Exceeds the limit (4300 digits) for integer string conversion; use sys.set_int_max_str_digits() to increase the limit"

def manifest (entries : List Json) (digest : PyStr) : Json :=
  .obj [(py "entries", .arr entries), (py "registry_digest", .str digest), (py "registry_version", .str (py registryVersion))]

/-- `to_manifest_payload`. -/
def ReviewedContractRegistry.toManifestPayload (r : ReviewedContractRegistry) : Except BindingError Json := do
  let entries ← r.sorted.mapM manifestEntry
  let digest ← manifestDigest (unsigned entries)
  return manifest entries digest

/-- `_required_text`. -/
def requiredText (entry : List (PyStr × Json)) (name : String) : Except BindingError PyStr :=
  match valueAt entry name with
  | .str value => if stripText value = [] then unreviewed (name ++ " is required") else .ok (stripText value)
  | _ => unreviewed (name ++ " is required")

/-- `_parse_identity`. -/
def parseIdentity (p : Python) : Json → Except BindingError ReviewedArtifactIdentity
  | .obj members =>
    let extra := (members.map Prod.fst).filter fun key => key ∉ ["kind", "value", "content_length"].map py
    if extra ≠ [] then
      .error (.reviewedContractRegistryError (py "unsupported source_identity fields: " ++ List.intercalate (py ", ") extra))
    else do
      let kind ← requiredText members "kind"
      let value ← requiredText members "value"
      ReviewedArtifactIdentity.make p (.str kind) (.str value) (valueAt members "content_length")
  | _ => unreviewed "source_identity must be an object"

def parseArtifact (p : Python) (entry : List (PyStr × Json)) (locator : PyStr) : Except BindingError ReviewedArtifactBinding := do
  let identity ← parseIdentity p (valueAt entry "source_identity")
  let custodian ← requiredText entry "custodian"
  let edition ← requiredText entry "edition"
  ReviewedArtifactBinding.make p (.str locator) identity (.str custodian) (.str edition)

def contractFields : List String :=
  ["authority", "contract_id", "evidence_type", "hostname_field", "parser_kind", "policy_version", "temporal_semantics", "timestamp_field"]

def entryFields : List String := ["binding_digest", "contract", "custodian", "edition", "locator", "review_note", "source_identity"]

/-- `SourceEvidenceContract(**contract_raw)`. -/
def contractOf (p : Python) (members : List (PyStr × Json)) : Except BindingError SourceEvidenceContract :=
  SourceEvidenceContract.make p (valueAt members "contract_id") (valueAt members "authority") (valueAt members "parser_kind")
  (valueAt members "temporal_semantics")
    (valueAt members "evidence_type") (valueAt members "hostname_field") (valueAt members "timestamp_field")
    (valueAt members "policy_version")

/-- `_binding_from_manifest_entry`. -/
def bindingFromManifestEntry (p : Python) : Json → Except BindingError ReviewedSourceContractBinding
  | .obj raw =>
    if !hasKeys raw entryFields then unreviewed "reviewed contract entry has unsupported fields"
    else
      match valueAt raw "source_identity", valueAt raw "contract" with
      | .obj identity, contract =>
        if !hasKeys identity ["content_length", "kind", "value"] then unreviewed "reviewed source identity fields are invalid"
        else
          match contract with
          | .obj contract =>
            if !hasKeys contract contractFields then unreviewed "reviewed contract fields are invalid"
            else do
              let locator ← requiredText raw "locator"
              let artifact ← parseArtifact p raw locator
              let contract ← contractOf p contract
              let note ← requiredText raw "review_note"
              let binding ← ReviewedSourceContractBinding.make p artifact contract (.str note)
              let digest ← binding.bindingDigest
              if valueAt raw "binding_digest" ≠ .str digest then
                throw (.reviewedContractRegistryError (py "reviewed binding digest mismatch for " ++ binding.locator))
              return binding
          | _ => unreviewed "reviewed contract fields are invalid"
      | _, _ => unreviewed "reviewed source identity fields are invalid"
  | _ => unreviewed "registry entry must be an object"

/-- The loop over the entries of a registry, each of which gives a binding and the locator that it is kept under. -/
def collect (read : Json → Except BindingError (PyStr × ReviewedSourceContractBinding)) : List Json → Bindings →
    Except BindingError Bindings
  | [], bindings => .ok bindings
  | raw :: rest, bindings =>
    match read raw with
    | .error e => .error e
    | .ok item =>
      if known : item.1 ∈ bindings.items.map Prod.fst then
        .error (.reviewedContractRegistryError (py "duplicate reviewed contract locator: " ++ item.1))
      else
        collect read rest ⟨bindings.items ++ [item], by
          rw [List.map_append]
          exact bindings.distinct.append (List.nodup_singleton _) (by simpa using known)⟩

def noBindings : Bindings := ⟨[], List.nodup_nil⟩

def manifestItem (p : Python) (raw : Json) : Except BindingError (PyStr × ReviewedSourceContractBinding) :=
  (bindingFromManifestEntry p raw).map fun binding => (binding.locator, binding)

/-- `_SHA256_RE.fullmatch`. -/
def isSha256 (text : PyStr) : Bool := text.length = 64 && text.all hexadecimal

def readEntries (p : Python) (entries : List Json) : Except BindingError ReviewedContractRegistry := do
  let bindings ← collect (manifestItem p) entries noBindings
  let r ← ReviewedContractRegistry.make bindings
  -- what stands in both lists are texts, integers and null by now, which Python compares as they are
  let again ← r.sorted.mapM manifestEntry
  if entries ≠ again then unreviewed "reviewed contract entries must be canonical and locator-sorted"
  else return r

/-- `from_manifest_payload`. -/
def fromManifestPayload (p : Python) : Json → Except BindingError ReviewedContractRegistry
  | .obj payload =>
    if !hasKeys payload ["entries", "registry_digest", "registry_version"] then
      unreviewed "reviewed contract manifest has unsupported fields"
    else if valueAt payload "registry_version" ≠ .str (py registryVersion) then
      unreviewed ("registry_version must be '" ++ registryVersion ++ "'")
    else
      match valueAt payload "entries" with
      | .arr entries =>
        match valueAt payload "registry_digest" with
        | .str digest =>
          if !isSha256 digest then unreviewed "registry_digest must be a SHA-256 value"
          else do
            let expected ← manifestDigest (unsigned entries)
            if digest ≠ expected then unreviewed "reviewed contract registry digest mismatch"
            else readEntries p entries
        | _ => unreviewed "registry_digest must be a SHA-256 value"
      | _ => unreviewed "registry entries must be a list"
  | _ => unreviewed "reviewed contract manifest root must be an object"

/-! ## Authoring files -/

/-- An entry of an authoring file. -/
def authoredItem (p : Python) : Json → Except BindingError (PyStr × ReviewedSourceContractBinding)
  | .obj raw => do
    let text ← requiredText raw "locator"
    let locator ← canonicalizeSourceEntrypoint p text
    let contractId ← requiredText raw "contract_id"
    let authority ← requiredText raw "authority"
    let parserKind ← requiredText raw "parser_kind"
    let hostnameField ← requiredText raw "hostname_field"
    let timestampField ← requiredText raw "timestamp_field"
    let temporalSemantics ← requiredText raw "temporal_semantics"
    let evidenceType ← requiredText raw "evidence_type"
    let policyVersion ← requiredText raw "policy_version"
    let contract ← SourceEvidenceContract.make p (.str contractId) (.str authority) (.str parserKind) (.str temporalSemantics)
      (.str evidenceType) (.str hostnameField) (.str timestampField) (.str policyVersion)
    let artifact ← parseArtifact p raw locator
    let note ← requiredText raw "review_note"
    let binding ← ReviewedSourceContractBinding.make p artifact contract (.str note)
    return (locator, binding)
  | _ => unreviewed "registry entry must be an object"

/-- `load_reviewed_contract_registry`, of what the file holds as JSON. -/
def loadReviewedContractRegistry (p : Python) (read : Except PyStr Json) : Except BindingError ReviewedContractRegistry :=
  match read with
  | .error raised => .error (.reviewedContractRegistryError (py "cannot load reviewed contract registry: " ++ raised))
  | .ok (.obj payload) =>
    if (member (.obj payload) "registry_digest").isSome then fromManifestPayload p (.obj payload)
    else if valueAt payload "registry_version" ≠ .str (py registryVersion) then
      unreviewed ("registry_version must be '" ++ registryVersion ++ "'")
    else
      match valueAt payload "entries" with
      | .arr entries => do
        let bindings ← collect (authoredItem p) entries noBindings
        ReviewedContractRegistry.make bindings
      | _ => unreviewed "registry entries must be a list"
  | .ok _ => unreviewed "reviewed contract registry root must be an object"

/-! ## Steps that may fail -/

/-- Two steps that do not fail. -/
theorem bind_ok {ε α β : Type} {first : Except ε α} {next : α → Except ε β} {result : β} (made : (first >>= next) = .ok result) :
    ∃ a, first = .ok a ∧ next a = .ok result := by
  cases first with
  | error e => cases made
  | ok a => exact ⟨a, rfl, made⟩

/-! ## Digests -/

theorem digitChar_hexadecimal {n : Nat} (small : n < 16) : hexadecimal (.char (Nat.digitChar n)) = true := by
  have all : ∀ n < 16, hexadecimal (.char (Nat.digitChar n)) = true := by decide
  exact all n small

/-- What SHA-256 gives in hexadecimal digits is accepted as a digest. -/
theorem sha256Hex_accepted (bytes : List UInt8) : isSha256 (py (sha256Hex bytes)) = true := by
  have size : (Hashing.sha256 bytes).length = 32 := by
    unfold Hashing.sha256
    simp [Hashing.bigEndian]
  have length : (py (sha256Hex bytes)).length = 64 := by
    simp [py, sha256Hex, Hashing.hex, size]
  have digits : (py (sha256Hex bytes)).all hexadecimal = true := by
    rw [List.all_eq_true]
    intro c member
    simp only [py, sha256Hex, Hashing.hex, String.toList_ofList, List.mem_map, List.mem_flatMap] at member
    obtain ⟨d, ⟨b, -, digit⟩, rfl⟩ := member
    have small := b.toNat_lt
    simp only [List.mem_cons, List.not_mem_nil, or_false] at digit
    rcases digit with rfl | rfl
    · exact digitChar_hexadecimal (by omega)
    · exact digitChar_hexadecimal (by omega)
  rw [isSha256, length, digits]
  rfl

theorem digestOf_eq {text digest : PyStr} (made : digestOf text = .ok digest) : ∃ bytes, digest = py (sha256Hex bytes) := by
  unfold digestOf at made
  split at made
  · cases made
    exact ⟨_, rfl⟩
  · cases made

theorem digestOf_ok {text : PyStr} : (∃ digest, digestOf text = .ok digest) ↔ encodable text = true := by
  unfold digestOf
  rw [← Hashing.encodeUtf8_isSome]
  cases encodeUtf8 text with
  | none => simp
  | some bytes => simp

theorem bindingToken_ok {payload : Json} : (∃ token, bindingToken payload = .ok token) ↔ short payload = true := by
  unfold bindingToken
  by_cases fits : short payload = true
  · simp [fits]
  · simp [fits]

theorem bindingToken_encodable {payload : Json} {token : PyStr} (frozen : bindingToken payload = .ok token) : encodable token = true := by
  unfold bindingToken at frozen
  split at frozen
  · cases frozen
    simp [tokenOf, encodable]
  · cases frozen

theorem encodable_append (first second : PyStr) : encodable (first ++ second) = (encodable first && encodable second) := List.all_append

theorem bindingDigest_ok {x : ReviewedSourceContractBinding} :
    (∃ digest, x.bindingDigest = .ok digest) ↔
      encodable x.reviewNote = true ∧ short x.artifact.payload = true ∧ short x.contract.payload = true := by
  constructor
  · rintro ⟨digest, made⟩
    unfold ReviewedSourceContractBinding.bindingDigest at made
    obtain ⟨_, artifact, made⟩ := bind_ok made
    obtain ⟨_, -, made⟩ := bind_ok made
    obtain ⟨_, contract, made⟩ := bind_ok made
    obtain ⟨_, -, made⟩ := bind_ok made
    have whole := digestOf_ok.mp ⟨digest, made⟩
    simp only [encodable_append, Bool.and_eq_true] at whole
    exact ⟨whole.2, bindingToken_ok.mp ⟨_, artifact⟩, bindingToken_ok.mp ⟨_, contract⟩⟩
  · rintro ⟨noted, artifactFits, contractFits⟩
    obtain ⟨artifactToken, artifact⟩ := bindingToken_ok.mpr artifactFits
    obtain ⟨contractToken, contract⟩ := bindingToken_ok.mpr contractFits
    obtain ⟨first, artifactDigest⟩ := digestOf_ok.mpr (bindingToken_encodable artifact)
    obtain ⟨second, contractDigest⟩ := digestOf_ok.mpr (bindingToken_encodable contract)
    obtain ⟨_, rfl⟩ := digestOf_eq artifactDigest
    obtain ⟨_, rfl⟩ := digestOf_eq contractDigest
    unfold ReviewedSourceContractBinding.bindingDigest
    simp only [artifact, artifactDigest, contract, contractDigest, bind, Except.bind]
    refine digestOf_ok.mpr ?_
    simp only [encodable_append, py_encodable, noted, Bool.and_self]

/-! ## Loops -/

/-- A loop over a list that does not fail gives a result for each item. -/
theorem mapM_pairs {α β ε : Type} {f : α → Except ε β} {items : List α} {results : List β} :
    items.mapM f = .ok results ↔ List.Forall₂ (fun a b => f a = .ok b) items results := by
  induction items generalizing results with
  | nil =>
    rw [List.mapM_nil, List.forall₂_nil_left_iff]
    exact ⟨fun same => (Except.ok.inj same).symm, fun same => congrArg _ same.symm⟩
  | cons a rest ih =>
    rw [List.mapM_cons, List.forall₂_cons_left_iff]
    constructor
    · intro made
      cases first : f a with
      | error e => simp [first, bind, Except.bind] at made
      | ok b =>
        cases later : rest.mapM f with
        | error e => simp [first, later, bind, Except.bind] at made
        | ok others =>
          simp only [first, later, bind, Except.bind, pure, Except.pure] at made
          exact ⟨b, others, rfl, ih.mp later, (Except.ok.inj made).symm⟩
    · rintro ⟨b, others, first, later, rfl⟩
      simp only [first, ih.mpr later, bind, Except.bind, pure, Except.pure]

/-- What the loop over the entries keeps. -/
theorem collect_items {read : Json → Except BindingError (PyStr × ReviewedSourceContractBinding)} {entries : List Json}
    {start found : Bindings} (collected : collect read entries start = .ok found) :
    ∃ items, entries.mapM read = .ok items ∧ found.items = start.items ++ items := by
  induction entries generalizing start with
  | nil =>
    cases collected
    exact ⟨[], rfl, (List.append_nil _).symm⟩
  | cons raw rest ih =>
    rw [collect] at collected
    split at collected
    · cases collected
    · rename_i item made
      split at collected
      · cases collected
      · obtain ⟨items, others, kept⟩ := ih collected
        refine ⟨item :: items, ?_, ?_⟩
        · rw [List.mapM_cons, made, others]
          rfl
        · rw [kept, List.append_assoc]
          rfl

theorem collect_distinct {read : Json → Except BindingError (PyStr × ReviewedSourceContractBinding)} {entries : List Json}
    {items : List (PyStr × ReviewedSourceContractBinding)} (made : entries.mapM read = .ok items) {start : Bindings}
    (distinct : ((start.items ++ items).map Prod.fst).Nodup) : collect read entries start = .ok ⟨start.items ++ items, distinct⟩ := by
  induction entries generalizing start items with
  | nil =>
    obtain rfl : [] = items := Except.ok.inj made
    simp only [collect, List.append_nil]
  | cons raw rest ih =>
    obtain ⟨item, others, first, later, rfl⟩ := List.forall₂_cons_left_iff.mp (mapM_pairs.mp made)
    have fresh : item.1 ∉ start.items.map Prod.fst := by
      rw [List.map_append, List.nodup_append] at distinct
      exact fun known => distinct.2.2 _ known _ List.mem_cons_self rfl
    rw [collect, first]
    simp only [dif_neg fresh]
    have again := @ih others (mapM_pairs.mpr later) ⟨start.items ++ [item], by
      rw [List.map_append]
      exact start.distinct.append (List.nodup_singleton _) (by simpa using fresh)⟩
    simp only [List.append_assoc, List.singleton_append] at again
    exact again distinct

/-! ## Order -/

instance : Std.Total InOrder where
  total x y := by
    unfold InOrder
    cases behind : before y.locator x.locator with
    | false => exact .inl rfl
    | true =>
      refine .inr ?_
      cases ahead : before x.locator y.locator with
      | false => rfl
      | true => exact absurd (before_trans behind ahead) (by rw [before_irrefl]; exact Bool.false_ne_true)

instance : IsTrans ReviewedSourceContractBinding InOrder where
  trans x y z first second := by
    unfold InOrder at *
    cases behind : before z.locator x.locator with
    | false => rfl
    | true =>
      have same : x.locator = y.locator ∨ before x.locator y.locator = true := by
        cases ahead : before x.locator y.locator with
        | true => exact .inr rfl
        | false => exact .inl (before_total ahead first)
      rcases same with same | ahead
      · rw [same, second] at behind
        cases behind
      · rw [before_trans behind ahead] at second
        cases second

theorem sorted_unique {xs ys : List ReviewedSourceContractBinding} (same : xs.Perm ys) (distinct : (xs.map (·.locator)).Nodup)
    (first : xs.Pairwise InOrder) (second : ys.Pairwise InOrder) : xs = ys := by
  refine same.eq_of_pairwise (fun x y inside other ahead behind => ?_) first second
  have located : x.locator = y.locator := before_total behind ahead
  exact List.inj_on_of_nodup_map distinct inside (same.mem_iff.mpr other) located

theorem ReviewedContractRegistry.sorted_perm (r : ReviewedContractRegistry) : r.sorted.Perm r.bindings := List.perm_insertionSort _ _

theorem ReviewedContractRegistry.sorted_pairwise (r : ReviewedContractRegistry) : r.sorted.Pairwise InOrder :=
    List.pairwise_insertionSort _ _

theorem ReviewedContractRegistry.sorted_distinct (r : ReviewedContractRegistry) : (r.sorted.map (·.locator)).Nodup :=
  (r.sorted_perm.map _).nodup_iff.mpr r.distinct

/-- Equal registries are written in the same order. -/
theorem ReviewedContractRegistry.Same.sorted {r s : ReviewedContractRegistry} (same : r.Same s) : r.sorted = s.sorted :=
  sorted_unique (r.sorted_perm.trans (same.trans s.sorted_perm.symm)) r.sorted_distinct r.sorted_pairwise s.sorted_pairwise

theorem ReviewedContractRegistry.Same.manifest {r s : ReviewedContractRegistry} (same : r.Same s) :
    r.toManifestPayload = s.toManifestPayload := by
  unfold toManifestPayload
  rw [same.sorted]

/-! ## Entries read back -/

def ReviewedSourceContractBinding.texts (x : ReviewedSourceContractBinding) : List PyStr :=
  [x.artifact.custodian, x.artifact.edition, x.artifact.locator, x.artifact.sourceIdentity.kind,
  x.artifact.sourceIdentity.value, x.reviewNote] ++
    x.contract.texts

/-- A binding that the constructors gave, under a locator that is canonical. -/
structure Whole (p : Python) (x : ReviewedSourceContractBinding) : Prop where
  artifact : MadeArtifact p x.artifact
  canonical : canonicalizeSourceEntrypoint p x.locator = .ok x.locator
  contract : remakeContract p x.contract = .ok x.contract
  note : stripText x.reviewNote = x.reviewNote

theorem requiredText_strips {entry : List (PyStr × Json)} {name : String} {text : PyStr} (is : valueAt entry name = .str text)
    (some_ : stripText text ≠ []) : requiredText entry name = .ok (stripText text) := by
  rw [requiredText, is]
  exact if_neg some_

theorem requiredText_solid {entry : List (PyStr × Json)} {name : String} {text : PyStr} (is : valueAt entry name = .str text)
    (solid : stripText text = text) (some_ : text ≠ []) : requiredText entry name = .ok text := by
  rw [requiredText_strips is (by rwa [solid]), solid]

theorem identity_read {p : Python} {x : ReviewedArtifactIdentity} (remade : remakeIdentity p x = .ok x) :
    parseIdentity p x.payload = .ok x := by
  obtain ⟨known, kind, some_, -, -⟩ := identity_made remade
  have kindText : requiredText [(py "content_length", lengthJson x.contentLength), (py "kind", .str x.kind),
    (py "value", .str x.value)] "kind" =
      .ok (stripText x.kind) := by
    refine requiredText_strips rfl ?_
    have each : ∀ kind ∈ ["sha256", "etag+length", "immutable_locator"].map py, stripText kind ≠ [] := by decide
    exact each _ known
  have valueText : requiredText [(py "content_length", lengthJson x.contentLength), (py "kind", .str x.kind),
    (py "value", .str x.value)] "value" =
      .ok (stripText x.value) := requiredText_strips rfl some_
  have kindSame : lowered p (.str (stripText x.kind)) = lowered p (.str x.kind) := congrArg p.lower (strip_strip x.kind)
  have valueSame : trimmed p (.str (stripText x.value)) = trimmed p (.str x.value) := strip_strip x.value
  have plain : ([(py "content_length", lengthJson x.contentLength), (py "kind", Json.str x.kind), (py "value", Json.str x.value)].map
      Prod.fst).filter (fun key => key ∉ ["kind", "value", "content_length"].map py) = [] := by
    simp only [List.map_cons, List.map_nil]
    decide
  have made : ReviewedArtifactIdentity.make p (.str (stripText x.kind)) (.str (stripText x.value))
    (lengthJson x.contentLength) = .ok x := by
    rw [remakeIdentity] at remade
    unfold ReviewedArtifactIdentity.make at remade ⊢
    rw [kindSame, valueSame]
    exact remade
  rw [ReviewedArtifactIdentity.payload, parseIdentity]
  simp only [plain, ne_eq, not_true, if_false, kindText, valueText, bind, Except.bind]
  exact made

theorem artifact_remade {p : Python} {x : ReviewedArtifactBinding} (made : MadeArtifact p x)
    (canonical : canonicalizeSourceEntrypoint p x.locator = .ok x.locator) :
    stripText x.custodian = x.custodian ∧ x.custodian ≠ [] ∧ stripText x.edition = x.edition ∧ x.edition ≠ [] ∧
      ReviewedArtifactBinding.make p (.str (stripText x.locator)) x.sourceIdentity (.str x.custodian) (.str x.edition) = .ok x := by
  obtain ⟨kind, value, contentLength, locator, custodian, edition, -, made⟩ := made
  obtain ⟨-, -, custodianIs, editionIs, custodian_, edition_, agrees⟩ := artifact_made made
  have custodianSolid : trimmed p (.str x.custodian) = x.custodian := by
    rw [custodianIs]
    exact trimmed_again p custodian
  have editionSolid : trimmed p (.str x.edition) = x.edition := by
    rw [editionIs]
    exact trimmed_again p edition
  have fits : ¬(x.sourceIdentity.kind = py "immutable_locator" && x.sourceIdentity.value ≠ x.locator) = true := by simpa using agrees
  refine ⟨custodianSolid, by rw [custodianIs]; exact custodian_, editionSolid, by rw [editionIs]; exact edition_, ?_⟩
  unfold ReviewedArtifactBinding.make
  simp only [canonicalize_strip, canonical, custodianSolid, editionSolid]
  rw [if_neg (by rw [custodianIs]; exact custodian_), if_neg (by rw [editionIs]; exact edition_), if_neg fits]

theorem binding_remade {p : Python} {x : ReviewedSourceContractBinding} (note : stripText x.reviewNote = x.reviewNote) :
    ReviewedSourceContractBinding.make p x.artifact x.contract (.str x.reviewNote) = .ok x := by
  have trimmedIs : trimmed p (.str x.reviewNote) = x.reviewNote := note
  unfold ReviewedSourceContractBinding.make
  simp only [dif_pos x.direct, dif_pos x.hosted, dif_pos x.timed, trimmedIs, dif_pos x.noted]

theorem entry_read {p : Python} (lowering : Lowering p) {x : ReviewedSourceContractBinding} (whole : Whole p x)
    (unpaired : ∀ text ∈ x.texts, paired text = text) {digest : PyStr} (made : x.bindingDigest = .ok digest) :
    bindingFromManifestEntry p (x.entry digest) = .ok x := by
  obtain ⟨custodianSolid, custodian_, editionSolid, edition_, artifact⟩ := artifact_remade whole.artifact whole.canonical
  have identity : remakeIdentity p x.artifact.sourceIdentity = .ok x.artifact.sourceIdentity := by
    obtain ⟨kind, value, contentLength, locator, custodian, edition, identified, making⟩ := whole.artifact
    have reread : rereadIdentity x.artifact.sourceIdentity = x.artifact.sourceIdentity := by
      rw [rereadIdentity, unpaired x.artifact.sourceIdentity.kind (by simp [ReviewedSourceContractBinding.texts]),
        unpaired x.artifact.sourceIdentity.value (by simp [ReviewedSourceContractBinding.texts])]
    have trip := identity_trip lowering identified
    rw [reread] at trip
    refine trip.mpr ?_
    have value_ := unpaired x.artifact.sourceIdentity.value (by simp [ReviewedSourceContractBinding.texts])
    unfold WholeIdentity
    by_cases fixed : x.artifact.sourceIdentity.kind = py "immutable_locator"
    · rw [if_pos fixed, value_, (artifact_made making).2.2.2.2.2.2 fixed]
      exact whole.canonical
    · rw [if_neg fixed, ← paired_iff]
      exact value_
  have located : stripText x.artifact.locator ≠ [] := canonicalize_nonempty whole.canonical
  set raw : List (PyStr × Json) := [
    (py "binding_digest", .str digest), (py "contract", x.contract.payload), (py "custodian", .str x.artifact.custodian),
    (py "edition", .str x.artifact.edition), (py "locator", .str x.artifact.locator), (py "review_note", .str x.reviewNote),
    (py "source_identity", x.artifact.sourceIdentity.payload)] with rawIs
  have locatorRead : requiredText raw "locator" = .ok (stripText x.artifact.locator) := requiredText_strips rfl located
  have custodianRead : requiredText raw "custodian" = .ok x.artifact.custodian := requiredText_solid rfl custodianSolid custodian_
  have editionRead : requiredText raw "edition" = .ok x.artifact.edition := requiredText_solid rfl editionSolid edition_
  have noteRead : requiredText raw "review_note" = .ok x.reviewNote := requiredText_solid rfl whole.note x.noted
  have artifactRead : parseArtifact p raw (stripText x.artifact.locator) = .ok x.artifact := by
    have identityIs : valueAt raw "source_identity" = x.artifact.sourceIdentity.payload := rfl
    rw [parseArtifact, identityIs, identity_read identity]
    simp only [bind, Except.bind, custodianRead, editionRead]
    exact artifact
  have contractRead : ∀ members, x.contract.payload = .obj members → hasKeys members contractFields = true ∧
      contractOf p members = .ok x.contract := by
    intro members is
    obtain rfl := Json.obj.inj is
    exact ⟨decide_eq_true rfl, whole.contract⟩
  have identityKeys : ∀ members, x.artifact.sourceIdentity.payload = .obj members →
    hasKeys members ["content_length", "kind", "value"] = true := by
    intro members is
    obtain rfl := Json.obj.inj is
    exact decide_eq_true rfl
  have entryKeys : hasKeys raw entryFields = true := decide_eq_true rfl
  obtain ⟨identityMembers, identityIs⟩ : ∃ members, x.artifact.sourceIdentity.payload = .obj members := ⟨_, rfl⟩
  obtain ⟨contractMembers, contractIs⟩ : ∃ members, x.contract.payload = .obj members := ⟨_, rfl⟩
  have sourceIdentity : valueAt raw "source_identity" = .obj identityMembers := identityIs
  have contract : valueAt raw "contract" = .obj contractMembers := contractIs
  have digestIs : valueAt raw "binding_digest" = .str digest := rfl
  rw [ReviewedSourceContractBinding.entry, ← rawIs, bindingFromManifestEntry]
  simp only [entryKeys, Bool.not_true, Bool.false_eq_true, if_false, sourceIdentity, contract, identityKeys _ identityIs,
    (contractRead _ contractIs).1, locatorRead, artifactRead, (contractRead _ contractIs).2, noteRead,
    binding_remade whole.note, made, digestIs,
    bind, Except.bind, pure, Except.pure, ne_eq, not_true]

/-! ## Manifests through JSON -/

/-- `json.loads(json.dumps(payload))`. -/
def throughJson (payload : Json) : Option Json := EvidenceSemantics.loadsText ((dumps payload).flatMap spell)

/-- JSON leaves every text of a value alone. -/
abbrev Unpaired : Json → Prop := Texts fun text => paired text = text

theorem textOrNull_unpaired (d : Option PyStr) : textOrNull (d.map paired) = textOrNull d ↔ ∀ text ∈ d, paired text = text := by
  cases d with
  | none => simp
  | some text => simp [textOrNull]

theorem contract_rejoined (x : SourceEvidenceContract) :
    (rejoined x.payload = x.payload ↔ ∀ text ∈ x.texts, paired text = text) ∧ Unpaired (rejoined x.payload) ∧
    Ordered (rejoined x.payload) := by
  have named : paired x.authority.name = x.authority.name := by cases x.authority <;> exact paired_py _
  have shape : rejoined x.payload = .obj [
      (py "authority", .str x.authority.name), (py "contract_id", .str (paired x.contractId)),
      (py "evidence_type", .str (paired x.evidenceType)), (py "hostname_field", textOrNull (x.hostnameField.map paired)),
      (py "parser_kind", .str (paired x.parserKind)), (py "policy_version", .str (paired x.policyVersion)),
      (py "temporal_semantics", .str (paired x.temporalSemantics)), (py "timestamp_field", textOrNull (x.timestampField.map paired))] := by
    simp only [SourceEvidenceContract.payload, rejoined, rejoinedMembers, rejoined_textOrNull, named]
  refine ⟨?_, ?_, ?_⟩
  · rw [shape, SourceEvidenceContract.payload]
    simp only [Json.obj.injEq, List.cons.injEq, Prod.mk.injEq, Json.str.injEq, true_and, and_true, textOrNull_unpaired,
      SourceEvidenceContract.texts, List.mem_append, List.mem_cons, List.not_mem_nil, or_false, Option.mem_toList, Option.mem_def, or_imp,
      forall_and, forall_eq]
    constructor
    · rintro ⟨id, evidence, host, kind, policy, semantics, time⟩
      exact ⟨⟨⟨id, kind, semantics, evidence, policy⟩, host⟩, time⟩
    · rintro ⟨⟨⟨id, kind, semantics, evidence, policy⟩, host⟩, time⟩
      exact ⟨id, evidence, host, kind, policy, semantics, time⟩
  · rw [shape]
    simp only [Unpaired, Texts, TextsMembers, paired_py, paired_paired, texts_textOrNull, named, and_self]
  · rw [shape]
    exact ⟨keysRise_of _ contractFields rfl (by decide), by simp only [OrderedMembers, Ordered, ordered_textOrNull, and_self]⟩

theorem identity_rejoined (x : ReviewedArtifactIdentity) :
    (rejoined x.payload = x.payload ↔ paired x.kind = x.kind ∧ paired x.value = x.value) ∧ Unpaired (rejoined x.payload) ∧
      Ordered (rejoined x.payload) := by
  have lengths (n : Option ℤ) : rejoined (lengthJson n) = lengthJson n ∧ Ordered (lengthJson n) ∧ Unpaired (lengthJson n) := by
    cases n <;> exact ⟨rfl, trivial, trivial⟩
  have shape : rejoined x.payload = .obj [(py "content_length", lengthJson x.contentLength), (py "kind", .str (paired x.kind)),
      (py "value", .str (paired x.value))] := by
    simp only [ReviewedArtifactIdentity.payload, rejoined, rejoinedMembers, lengths]
  refine ⟨?_, ?_, ?_⟩
  · rw [shape, ReviewedArtifactIdentity.payload]
    simp only [Json.obj.injEq, List.cons.injEq, Prod.mk.injEq, Json.str.injEq, true_and, and_true]
  · rw [shape]
    simp only [Unpaired, Texts, TextsMembers, paired_py, paired_paired, and_self, and_true, true_and]
    exact (lengths _).2.2
  · rw [shape]
    exact ⟨keysRise_of _ ["content_length", "kind", "value"] rfl (by decide), by simp only [OrderedMembers, Ordered, lengths, and_self]⟩

theorem entry_rejoined (x : ReviewedSourceContractBinding) {digest : PyStr} (plain : paired digest = digest) :
    (rejoined (x.entry digest) = x.entry digest ↔ ∀ text ∈ x.texts, paired text = text) ∧ Unpaired (rejoined (x.entry digest)) ∧
      Ordered (rejoined (x.entry digest)) := by
  obtain ⟨contractSame, contractTexts, contractOrdered⟩ := contract_rejoined x.contract
  obtain ⟨identitySame, identityTexts, identityOrdered⟩ := identity_rejoined x.artifact.sourceIdentity
  have shape : rejoined (x.entry digest) = .obj [
      (py "binding_digest", .str digest), (py "contract", rejoined x.contract.payload),
      (py "custodian", .str (paired x.artifact.custodian)),
      (py "edition", .str (paired x.artifact.edition)), (py "locator", .str (paired x.artifact.locator)),
      (py "review_note", .str (paired x.reviewNote)), (py "source_identity", rejoined x.artifact.sourceIdentity.payload)] := by
    simp only [ReviewedSourceContractBinding.entry, rejoined, rejoinedMembers, plain]
  refine ⟨?_, ?_, ?_⟩
  · rw [shape, ReviewedSourceContractBinding.entry]
    simp only [Json.obj.injEq, List.cons.injEq, Prod.mk.injEq, Json.str.injEq, true_and, and_true, contractSame, identitySame,
      ReviewedSourceContractBinding.texts, List.mem_append, List.mem_cons, List.not_mem_nil, or_false, or_imp, forall_and, forall_eq]
    constructor
    · rintro ⟨contract, custodian, edition, locator, note, kind, value⟩
      exact ⟨⟨custodian, edition, locator, kind, value, note⟩, contract⟩
    · rintro ⟨⟨custodian, edition, locator, kind, value, note⟩, contract⟩
      exact ⟨contract, custodian, edition, locator, note, kind, value⟩
  · rw [shape]
    simp only [Unpaired, Texts, TextsMembers, paired_py, paired_paired, plain, and_true, true_and]
    exact ⟨contractTexts, identityTexts⟩
  · rw [shape]
    refine ⟨keysRise_of _ entryFields rfl (by decide), ?_⟩
    simp only [OrderedMembers, Ordered, true_and, and_true]
    exact ⟨contractOrdered, identityOrdered⟩

/-! ## Manifests -/

theorem shortItems_iff {items : List Json} : shortItems items = true ↔ ∀ v ∈ items, short v = true := by
  induction items with
  | nil => simp [shortItems]
  | cons v rest ih => simp [shortItems, ih]

theorem contract_short (x : SourceEvidenceContract) : short x.payload = true := by
  have field (d : Option PyStr) : short (textOrNull d) = true := by cases d <;> rfl
  simp [SourceEvidenceContract.payload, short, shortMembers, field]

theorem lengthJson_short {length : Option ℤ} : short (lengthJson length) = true ↔ ∀ n ∈ length, isShort n = true := by
  cases length <;> simp [lengthJson, short]

theorem artifact_short {x : ReviewedArtifactBinding} : short x.payload = true ↔ ∀ n ∈ x.sourceIdentity.contentLength, isShort n = true := by
  rw [← lengthJson_short]
  simp [ReviewedArtifactBinding.payload, ReviewedArtifactIdentity.payload, short, shortMembers]

theorem entry_short {x : ReviewedSourceContractBinding} {digest : PyStr} :
    short (x.entry digest) = true ↔ ∀ n ∈ x.artifact.sourceIdentity.contentLength, isShort n = true := by
  rw [← lengthJson_short]
  simp [ReviewedSourceContractBinding.entry, ReviewedArtifactIdentity.payload, short, shortMembers, contract_short]

theorem manifestEntry_iff {x : ReviewedSourceContractBinding} {raw : Json} :
    manifestEntry x = .ok raw ↔ ∃ digest, x.bindingDigest = .ok digest ∧ raw = x.entry digest := by
  unfold manifestEntry
  cases x.bindingDigest with
  | error e => simp [bind, Except.bind]
  | ok digest => simp [bind, Except.bind, pure, Except.pure, eq_comm]

theorem bindingDigest_plain {x : ReviewedSourceContractBinding} {digest : PyStr} (made : x.bindingDigest = .ok digest) :
    paired digest = digest := by
  unfold ReviewedSourceContractBinding.bindingDigest at made
  obtain ⟨_, -, made⟩ := bind_ok made
  obtain ⟨_, -, made⟩ := bind_ok made
  obtain ⟨_, -, made⟩ := bind_ok made
  obtain ⟨_, -, made⟩ := bind_ok made
  obtain ⟨bytes, rfl⟩ := digestOf_eq made
  exact paired_py _

/-- A registry is written as a manifest of the entries of its bindings, in their order. -/
theorem toManifestPayload_iff {r : ReviewedContractRegistry} {payload : Json} :
    r.toManifestPayload = .ok payload ↔ ∃ entries, r.sorted.mapM manifestEntry = .ok entries ∧ short (unsigned entries) = true ∧
      payload = manifest entries (py (sha256Hex (signedBytes (unsigned entries)))) := by
  unfold ReviewedContractRegistry.toManifestPayload manifestDigest
  cases r.sorted.mapM manifestEntry with
  | error e => simp [bind, Except.bind]
  | ok entries =>
    by_cases fits : short (unsigned entries) = true
    · simp only [bind, Except.bind, pure, Except.pure, fits, if_true]
      constructor
      · rintro made
        exact ⟨entries, rfl, fits, (Except.ok.inj made).symm⟩
      · rintro ⟨_, same, -, rfl⟩
        rw [Except.ok.inj same]
    · simp only [bind, Except.bind, fits]
      constructor
      · intro made
        cases made
      · rintro ⟨_, same, others, -⟩
        rw [Except.ok.inj same] at fits
        exact absurd others fits

theorem unsigned_entries {entries others : List Json} (same : unsigned entries = unsigned others) : entries = others :=
  Json.arr.inj (Prod.mk.inj (List.cons.inj (Json.obj.inj same)).1).2

theorem manifest_parts {entries others : List Json} {digest other : PyStr} (same : manifest entries digest = manifest others other) :
    entries = others ∧ digest = other := by
  obtain ⟨first, rest⟩ := List.cons.inj (Json.obj.inj same)
  exact ⟨Json.arr.inj (Prod.mk.inj first).2, Json.str.inj (Prod.mk.inj (List.cons.inj rest).1).2⟩

theorem unsigned_short {entries : List Json} : short (unsigned entries) = true ↔ ∀ v ∈ entries, short v = true := by
  rw [← shortItems_iff]
  simp [unsigned, short, shortMembers]

theorem fromManifestPayload_manifest (p : Python) {entries : List Json} (fits : short (unsigned entries) = true) :
    fromManifestPayload p (manifest entries (py (sha256Hex (signedBytes (unsigned entries))))) = readEntries p entries := by
  set digest := py (sha256Hex (signedBytes (unsigned entries))) with digestIs
  have keys : hasKeys [(py "entries", .arr entries), (py "registry_digest", .str digest),
    (py "registry_version", .str (py registryVersion))]
      ["entries", "registry_digest", "registry_version"] = true := decide_eq_true rfl
  have version : valueAt [(py "entries", .arr entries), (py "registry_digest", .str digest),
      (py "registry_version", .str (py registryVersion))] "registry_version" = .str (py registryVersion) := rfl
  have listed : valueAt [(py "entries", .arr entries), (py "registry_digest", .str digest),
      (py "registry_version", .str (py registryVersion))] "entries" = .arr entries := rfl
  have signed : valueAt [(py "entries", .arr entries), (py "registry_digest", .str digest),
      (py "registry_version", .str (py registryVersion))] "registry_digest" = .str digest := rfl
  have accepted : isSha256 digest = true := sha256Hex_accepted _
  have expected : manifestDigest (unsigned entries) = .ok digest := if_pos fits
  rw [manifest, fromManifestPayload]
  simp only [keys, Bool.not_true, Bool.false_eq_true, if_false, version, ne_eq, not_true, listed, signed, accepted, expected,
    bind, Except.bind]

theorem fromManifestPayload_accepts {p : Python} {payload : Json} {r : ReviewedContractRegistry}
    (accepted : fromManifestPayload p payload = .ok r) :
    ∃ entries, payload = manifest entries (py (sha256Hex (signedBytes (unsigned entries)))) ∧ short (unsigned entries) = true ∧
      readEntries p entries = .ok r := by
  unfold fromManifestPayload at accepted
  split at accepted
  · rename_i members
    split at accepted
    · cases accepted
    · rename_i keys
      split at accepted
      · cases accepted
      · rename_i version
        split at accepted
        · rename_i entries listed
          split at accepted
          · rename_i digest signed
            split at accepted
            · cases accepted
            · unfold manifestDigest at accepted
              by_cases fits : short (unsigned entries) = true
              · simp only [fits, if_true, bind, Except.bind] at accepted
                split at accepted
                · cases accepted
                · rename_i expected
                  refine ⟨entries, ?_, fits, accepted⟩
                  have digestIs := not_not.mp expected
                  have named : members.map Prod.fst = ["entries", "registry_digest", "registry_version"].map py := by
                    simpa [hasKeys] using keys
                  obtain ⟨first, second, third, rfl⟩ : ∃ first second third, members =
                      [(py "entries", first), (py "registry_digest", second), (py "registry_version", third)] := by
                    match members, named with
                    | [(a, first), (b, second), (c, third)], named =>
                      simp only [List.map_cons, List.map_nil, List.cons.injEq, and_true] at named
                      obtain ⟨rfl, rfl, rfl⟩ := named
                      exact ⟨first, second, third, rfl⟩
                  have firstIs : first = .arr entries := listed
                  have secondIs : second = .str digest := signed
                  have thirdIs : third = .str (py registryVersion) := not_not.mp version
                  rw [firstIs, secondIs, thirdIs, digestIs, manifest]
              · simp [fits, bind, Except.bind] at accepted
          · cases accepted
        · cases accepted
  · cases accepted

theorem readEntries_accepts {p : Python} {entries : List Json} {r : ReviewedContractRegistry} (accepted : readEntries p entries = .ok r) :
    r.sorted.mapM manifestEntry = .ok entries := by
  unfold readEntries at accepted
  obtain ⟨bindings, -, accepted⟩ := bind_ok accepted
  obtain ⟨s, -, accepted⟩ := bind_ok accepted
  obtain ⟨again, written, accepted⟩ := bind_ok accepted
  split at accepted
  · cases accepted
  · rename_i same
    cases accepted
    rw [written, not_not.mp same]

theorem accepted_written {p : Python} {payload : Json} {r : ReviewedContractRegistry} (accepted : fromManifestPayload p payload = .ok r) :
    r.toManifestPayload = .ok payload := by
  obtain ⟨entries, rfl, fits, read⟩ := fromManifestPayload_accepts accepted
  exact toManifestPayload_iff.mpr ⟨entries, readEntries_accepts read, fits, rfl⟩

/-! ## Round trips -/

theorem rejoinedItems_eq (items : List Json) : rejoinedItems items = items.map rejoined := by
  induction items with
  | nil => rfl
  | cons v rest ih => rw [rejoinedItems, ih, List.map_cons]

theorem rejoinedItems_iff {items : List Json} : rejoinedItems items = items ↔ ∀ v ∈ items, rejoined v = v := by
  rw [rejoinedItems_eq]
  exact ⟨fun same v member => List.map_inj_left.mp (same.trans (List.map_id items).symm) v member,
    fun each => (List.map_congr_left each).trans (List.map_id items)⟩

theorem textsItems_of {kind : PyStr → Prop} {items : List Json} (each : ∀ v ∈ items, Texts kind v) : TextsItems kind items := by
  induction items with
  | nil => trivial
  | cons v rest ih => exact ⟨each v List.mem_cons_self, ih fun w member => each w (List.mem_cons_of_mem _ member)⟩

section
variable {r : ReviewedContractRegistry} {entries : List Json} (written : r.sorted.mapM manifestEntry = .ok entries)
include written

theorem entry_from {raw : Json} (member : raw ∈ entries) :
    ∃ x ∈ r.bindings, ∃ digest, x.bindingDigest = .ok digest ∧ raw = x.entry digest := by
  obtain ⟨i, inside, rfl⟩ := List.getElem_of_mem member
  have pairs := mapM_pairs.mp written
  have within : i < r.sorted.length := by
    rw [pairs.length_eq]
    exact inside
  have made := pairs.get within inside
  exact ⟨r.sorted[i], r.sorted_perm.mem_iff.mp (List.getElem_mem within), manifestEntry_iff.mp made⟩

theorem entry_of {x : ReviewedSourceContractBinding} (member : x ∈ r.bindings) : ∃ digest, x.bindingDigest = .ok digest ∧
    x.entry digest ∈ entries := by
  obtain ⟨i, inside, rfl⟩ := List.getElem_of_mem (r.sorted_perm.mem_iff.mpr member)
  have pairs := mapM_pairs.mp written
  have within : i < entries.length := by
    rw [← pairs.length_eq]
    exact inside
  obtain ⟨digest, made, is⟩ := manifestEntry_iff.mp (pairs.get inside within)
  exact ⟨digest, made, is ▸ List.getElem_mem within⟩

theorem entries_rejoined : rejoinedItems entries = entries ↔ ∀ x ∈ r.bindings, ∀ text ∈ x.texts, paired text = text := by
  rw [rejoinedItems_iff]
  constructor
  · intro each x member
    obtain ⟨digest, made, inside⟩ := entry_of written member
    exact (entry_rejoined x (bindingDigest_plain made)).1.mp (each _ inside)
  · intro each raw member
    obtain ⟨x, inside, digest, made, rfl⟩ := entry_from written member
    exact (entry_rejoined x (bindingDigest_plain made)).1.mpr (each x inside)

theorem entries_readable : TextsItems (fun text => paired text = text) (rejoinedItems entries) ∧ OrderedItems (rejoinedItems entries) := by
  rw [rejoinedItems_eq]
  have each : ∀ v ∈ entries.map rejoined, Unpaired v ∧ Ordered v := by
    intro v member
    obtain ⟨raw, inside, rfl⟩ := List.mem_map.mp member
    obtain ⟨x, -, digest, made, rfl⟩ := entry_from written inside
    exact (entry_rejoined x (bindingDigest_plain made)).2
  exact ⟨textsItems_of fun v member => (each v member).1, orderedItems_of fun v member => (each v member).2⟩

theorem entries_short : short (unsigned entries) = true ↔ ∀ x ∈ r.bindings, ∀ n ∈ x.artifact.sourceIdentity.contentLength,
    isShort n = true := by
  rw [unsigned_short]
  constructor
  · intro each x member
    obtain ⟨digest, -, inside⟩ := entry_of written member
    exact entry_short.mp (each _ inside)
  · intro each raw member
    obtain ⟨x, inside, digest, -, rfl⟩ := entry_from written member
    exact entry_short.mpr (each x inside)

theorem manifest_through (fits : short (unsigned entries) = true) (bytes : List UInt8) :
    throughJson (manifest entries (py (sha256Hex bytes))) = some (manifest (rejoinedItems entries) (py (sha256Hex bytes))) := by
  obtain ⟨texts, ordered⟩ := entries_readable written
  have shape : rejoined (manifest entries (py (sha256Hex bytes))) = manifest (rejoinedItems entries) (py (sha256Hex bytes)) := by
    simp only [manifest, rejoined, rejoinedMembers, paired_py]
  have short_ : short (manifest entries (py (sha256Hex bytes))) = true := by
    simp only [unsigned, short, shortMembers, Bool.and_true] at fits
    simp only [manifest, short, shortMembers, fits, Bool.and_true]
  rw [throughJson, loadsText_spelled short_, shape]
  · rw [shape]
    exact ⟨keysRise_of _ ["entries", "registry_digest", "registry_version"] rfl (by decide), by
      simp only [OrderedMembers, Ordered, and_true]; exact ordered⟩
  · rw [shape]
    simp only [manifest, Texts, TextsMembers, paired_py, and_true, true_and]
    exact texts

end

theorem readEntries_written {p : Python} (lowering : Lowering p) {r : ReviewedContractRegistry} (whole : ∀ x ∈ r.bindings, Whole p x)
    (unpaired : ∀ x ∈ r.bindings, ∀ text ∈ x.texts, paired text = text) {entries : List Json}
    (written : r.sorted.mapM manifestEntry = .ok entries) : ∃ s, readEntries p entries = .ok s ∧ s.bindings = r.sorted := by
  have inside {x : ReviewedSourceContractBinding} (member : x ∈ r.sorted) : x ∈ r.bindings := r.sorted_perm.mem_iff.mp member
  have items : entries.mapM (manifestItem p) = .ok (r.sorted.map fun x => (x.locator, x)) := by
    rw [mapM_pairs, List.forall₂_map_right_iff]
    have pairs := (mapM_pairs.mp written).flip
    have known : List.Forall₂ (fun raw x => manifestEntry x = .ok raw ∧ x ∈ r.sorted) entries r.sorted :=
      List.forall₂_iff_zip.mpr ⟨pairs.length_eq, fun {raw x} member =>
        ⟨(List.forall₂_iff_zip.mp pairs).2 member, (List.of_mem_zip member).2⟩⟩
    refine known.imp fun raw x ⟨made, member⟩ => ?_
    obtain ⟨digest, digested, rfl⟩ := manifestEntry_iff.mp made
    rw [manifestItem, entry_read lowering (whole x (inside member)) (unpaired x (inside member)) digested]
    rfl
  have distinct : ((noBindings.items ++ r.sorted.map fun x => (x.locator, x)).map Prod.fst).Nodup := by
    rw [noBindings, List.nil_append, List.map_map]
    exact r.sorted_distinct
  have collected := collect_distinct items distinct
  have own : ∀ item ∈ noBindings.items ++ r.sorted.map (fun x => (x.locator, x)), item.1 = item.2.locator := by
    intro item member
    obtain ⟨x, -, rfl⟩ := List.mem_map.mp member
    rfl
  obtain ⟨s, made, bindings⟩ : ∃ s, ReviewedContractRegistry.make ⟨_, distinct⟩ = .ok s ∧ s.bindings = r.sorted := by
    refine ⟨_, dif_pos own, ?_⟩
    show (noBindings.items ++ r.sorted.map fun x => (x.locator, x)).map Prod.snd = r.sorted
    rw [noBindings, List.nil_append, List.map_map]
    exact List.map_id _
  have same : s.Same r := by
    rw [ReviewedContractRegistry.Same, bindings]
    exact r.sorted_perm
  refine ⟨s, ?_, bindings⟩
  unfold readEntries
  simp only [collected, made, same.sorted, written, bind, Except.bind, ne_eq, not_true, if_false, pure, Except.pure]

/-- A registry that survives packaging: its manifest is read back from JSON as an equal registry, which gives the same manifest
and finds every spelling of its locators. -/
def Survives (p : Python) (r : ReviewedContractRegistry) : Prop :=
  ∃ payload, r.toManifestPayload = .ok payload ∧ ∃ read s, throughJson payload = some read ∧ fromManifestPayload p read = .ok s ∧ s.Same r ∧
    s.toManifestPayload = .ok payload ∧
    ∀ x ∈ r.bindings, ∀ locator, canonicalizeSourceEntrypoint p locator = .ok x.locator → s.getExact p locator = some x

/-- A registry that can be packaged: no review note holds a surrogate, no text a high surrogate before a low one, and the lengths are
numbers of at most 4300 digits. -/
structure Packable (r : ReviewedContractRegistry) : Prop where
  notes : ∀ x ∈ r.bindings, encodable x.reviewNote = true
  texts : ∀ x ∈ r.bindings, ∀ text ∈ x.texts, text.IsChain Apart
  lengths : ∀ x ∈ r.bindings, ∀ n ∈ x.artifact.sourceIdentity.contentLength, isShort n = true

theorem getExact_registered {p : Python} {r : ReviewedContractRegistry} {x : ReviewedSourceContractBinding} (member : x ∈ r.bindings)
    {locator : PyStr} (canonical : canonicalizeSourceEntrypoint p locator = .ok x.locator) : r.getExact p locator = some x := by
  rw [ReviewedContractRegistry.getExact, canonical]
  show r.bindings.find? (fun y => y.locator = x.locator) = some x
  cases found : r.bindings.find? (fun y => decide (y.locator = x.locator)) with
  | none => exact absurd (List.find?_eq_none.mp found x member) (by simp)
  | some y =>
    have located : y.locator = x.locator := by simpa using List.find?_some found
    rw [List.inj_on_of_nodup_map r.distinct (List.mem_of_find?_eq_some found) member located]

theorem survives_iff {p : Python} (lowering : Lowering p) {r : ReviewedContractRegistry} (whole : ∀ x ∈ r.bindings, Whole p x) :
    Survives p r ↔ Packable r := by
  constructor
  · rintro ⟨payload, written, read, s, through, accepted, same, -, -⟩
    obtain ⟨entries, listed, fits, rfl⟩ := toManifestPayload_iff.mp written
    rw [manifest_through listed fits] at through
    obtain rfl := Option.some.inj through
    -- the registry that is read gives the payload that was read, and the one that was written
    have again := (accepted_written accepted).symm.trans (same.manifest.trans written)
    have rejoinedSame : rejoinedItems entries = entries := (manifest_parts (Except.ok.inj again)).1
    refine ⟨fun x member => ?_, fun x member text inside => ?_, (entries_short listed).mp fits⟩
    · obtain ⟨digest, made, -⟩ := entry_of listed member
      exact (bindingDigest_ok.mp ⟨digest, made⟩).1
    · exact (paired_iff text).mp ((entries_rejoined listed).mp rejoinedSame x member text inside)
  · rintro ⟨notes, texts, lengths⟩
    have unpaired : ∀ x ∈ r.bindings, ∀ text ∈ x.texts, paired text = text := fun x member text inside =>
      (paired_iff text).mpr (texts x member text inside)
    obtain ⟨entries, listed⟩ : ∃ entries, r.sorted.mapM manifestEntry = .ok entries := by
      have each : ∀ x ∈ r.sorted, ∃ raw, manifestEntry x = .ok raw := by
        intro x member
        have inside := r.sorted_perm.mem_iff.mp member
        obtain ⟨digest, made⟩ := bindingDigest_ok.mpr ⟨notes x inside, artifact_short.mpr (lengths x inside), contract_short _⟩
        exact ⟨_, manifestEntry_iff.mpr ⟨digest, made, rfl⟩⟩
      have : Nonempty Json := ⟨.null⟩
      choose! entry made using each
      exact ⟨r.sorted.map entry, mapM_pairs.mpr (List.forall₂_map_right_iff.mpr (List.forall₂_same.mpr made))⟩
    have fits := (entries_short listed).mpr lengths
    have written := toManifestPayload_iff.mpr ⟨entries, listed, fits, rfl⟩
    obtain ⟨s, read, bindings⟩ := readEntries_written lowering whole unpaired listed
    have same : s.Same r := by
      rw [ReviewedContractRegistry.Same, bindings]
      exact r.sorted_perm
    refine ⟨_, written, _, s, manifest_through listed fits _, ?_, same, same.manifest.trans written, ?_⟩
    · rw [(entries_rejoined listed).mpr unpaired, fromManifestPayload_manifest p fits, read]
    · intro x member locator canonical
      exact getExact_registered (same.mem_iff.mpr member) canonical

/-! ## Authoring files -/

theorem parseIdentity_made {p : Python} {raw : Json} {identity : ReviewedArtifactIdentity} (read : parseIdentity p raw = .ok identity) :
    ∃ kind value contentLength, ReviewedArtifactIdentity.make p kind value contentLength = .ok identity := by
  unfold parseIdentity at read
  split at read
  · rename_i members
    dsimp only at read
    split at read
    · cases read
    · obtain ⟨_, -, read⟩ := bind_ok read
      obtain ⟨_, -, read⟩ := bind_ok read
      exact ⟨_, _, _, read⟩
  · cases read

theorem parseArtifact_made {p : Python} {entry : List (PyStr × Json)} {locator : PyStr} {x : ReviewedArtifactBinding}
    (read : parseArtifact p entry locator = .ok x) : MadeArtifact p x ∧ canonicalizeSourceEntrypoint p locator = .ok x.locator := by
  unfold parseArtifact at read
  obtain ⟨identity, identified, read⟩ := bind_ok read
  obtain ⟨custodian, -, read⟩ := bind_ok read
  obtain ⟨edition, -, read⟩ := bind_ok read
  obtain ⟨⟨text, is, canonical⟩, identityIs, -⟩ := artifact_made read
  obtain rfl : locator = text := Json.str.inj is
  obtain ⟨kind, value, contentLength, made⟩ := parseIdentity_made identified
  subst identityIs
  exact ⟨⟨kind, value, contentLength, _, _, _, made, read⟩, canonical⟩

theorem make_parts {p : Python} {artifact : ReviewedArtifactBinding} {contract : SourceEvidenceContract} {reviewNote : Json}
    {x : ReviewedSourceContractBinding} (made : ReviewedSourceContractBinding.make p artifact contract reviewNote = .ok x) :
    x.artifact = artifact ∧ x.contract = contract ∧ x.reviewNote = trimmed p reviewNote := by
  unfold ReviewedSourceContractBinding.make at made
  repeat' split at made
  all_goals cases made
  exact ⟨rfl, rfl, rfl⟩

theorem authoredItem_whole {p : Python} (lowering : Lowering p) {raw : Json} {item : PyStr × ReviewedSourceContractBinding}
    (read : authoredItem p raw = .ok item) (own : item.1 = item.2.locator) : Whole p item.2 := by
  unfold authoredItem at read
  split at read
  · rename_i members
    obtain ⟨text, -, read⟩ := bind_ok read
    obtain ⟨locator, -, read⟩ := bind_ok read
    obtain ⟨contractId, -, read⟩ := bind_ok read
    obtain ⟨authority, -, read⟩ := bind_ok read
    obtain ⟨parserKind, -, read⟩ := bind_ok read
    obtain ⟨hostnameField, -, read⟩ := bind_ok read
    obtain ⟨timestampField, -, read⟩ := bind_ok read
    obtain ⟨temporalSemantics, -, read⟩ := bind_ok read
    obtain ⟨evidenceType, -, read⟩ := bind_ok read
    obtain ⟨policyVersion, -, read⟩ := bind_ok read
    obtain ⟨contract, contracted, read⟩ := bind_ok read
    obtain ⟨artifact, parsed, read⟩ := bind_ok read
    obtain ⟨note, noted, read⟩ := bind_ok read
    obtain ⟨binding, made, read⟩ := bind_ok read
    obtain rfl := Except.ok.inj read
    obtain ⟨artifactIs, contractIs, noteIs⟩ := make_parts made
    obtain ⟨fromArtifact, canonical⟩ := parseArtifact_made parsed
    have located : locator = binding.locator := own
    refine ⟨artifactIs ▸ fromArtifact, ?_, contractIs ▸ contract_remade lowering contracted, ?_⟩
    · rw [located, ← artifactIs] at canonical
      exact canonical
    · rw [noteIs]
      exact strip_strip _
  · cases read

theorem make_bindings {bindings : Bindings} {r : ReviewedContractRegistry} (made : ReviewedContractRegistry.make bindings = .ok r) :
    (∀ item ∈ bindings.items, item.1 = item.2.locator) ∧ r.bindings = bindings.items.map Prod.snd := by
  unfold ReviewedContractRegistry.make at made
  split at made
  · rename_i own
    cases made
    exact ⟨own, rfl⟩
  · cases made

theorem load_whole {p : Python} (lowering : Lowering p) {payload : List (PyStr × Json)}
    (authoring : member (.obj payload) "registry_digest" = none) {r : ReviewedContractRegistry}
    (loaded : loadReviewedContractRegistry p (.ok (.obj payload)) = .ok r) : ∀ x ∈ r.bindings, Whole p x := by
  unfold loadReviewedContractRegistry at loaded
  simp only [authoring, Option.isSome_none, Bool.false_eq_true, if_false] at loaded
  split at loaded
  · cases loaded
  · split at loaded
    · rename_i entries _
      obtain ⟨bindings, collected, made⟩ := bind_ok loaded
      obtain ⟨items, read, kept⟩ := collect_items collected
      obtain ⟨own, bindingsAre⟩ := make_bindings made
      rw [noBindings, List.nil_append] at kept
      rw [kept] at own bindingsAre
      intro x member
      rw [bindingsAre] at member
      obtain ⟨item, inside, rfl⟩ := List.mem_map.mp member
      obtain ⟨i, within, rfl⟩ := List.getElem_of_mem inside
      have pairs := mapM_pairs.mp read
      have before : i < entries.length := by
        rw [pairs.length_eq]
        exact within
      exact authoredItem_whole lowering (pairs.get before within) (own _ inside)
    · cases loaded

/-! ## Changes -/

mutual
theorem rejoined_unpaired (v : Json) (texts : Unpaired v) : rejoined v = v := by
  match v with
  | .str text => exact congrArg _ texts
  | .arr items => exact congrArg _ (rejoinedItems_unpaired items texts)
  | .obj members => exact congrArg _ (rejoinedMembers_unpaired members texts)
  | .null | .bool _ | .int _ | .float _ => rfl
theorem rejoinedItems_unpaired (items : List Json) (texts : TextsItems (fun text => paired text = text) items) :
    rejoinedItems items = items := by
  match items, texts with
  | [], _ => rfl
  | v :: rest, ⟨first, later⟩ => rw [rejoinedItems, rejoined_unpaired v first, rejoinedItems_unpaired rest later]
theorem rejoinedMembers_unpaired (members : List (PyStr × Json)) (texts : TextsMembers (fun text => paired text = text) members) :
    rejoinedMembers members = members := by
  match members, texts with
  | [], _ => rfl
  | (k, v) :: rest, ⟨_, first, later⟩ => rw [rejoinedMembers, rejoined_unpaired v first, rejoinedMembers_unpaired rest later]
end

/-- What is signed determines a value, up to its pairs of surrogates. -/
theorem signedBytes_injective {v w : Json} (same : signedBytes v = signedBytes w) : (dumps v).flatMap spell = (dumps w).flatMap spell := by
  have chars := congrArg decodeUtf8 same
  rw [signedBytes, signedBytes, decodeUtf8_encode, decodeUtf8_encode] at chars
  have spelled (u : Json) : ((dumps u).flatMap asciiEscape).map CodePoint.char = (dumps u).flatMap spell := by
    rw [List.map_flatMap]
    rfl
  rw [← spelled, ← spelled, Option.some.inj chars]

theorem unsigned_through {p : Python} {entries : List Json} {r : ReviewedContractRegistry} (read : readEntries p entries = .ok r)
    (fits : short (unsigned entries) = true) : throughJson (unsigned entries) = some (unsigned (rejoinedItems entries)) := by
  obtain ⟨texts, ordered⟩ := entries_readable (readEntries_accepts read)
  have shape : rejoined (unsigned entries) = unsigned (rejoinedItems entries) := by
    simp only [unsigned, rejoined, rejoinedMembers, paired_py]
  rw [throughJson, loadsText_spelled fits, shape]
  · rw [shape]
    exact ⟨keysRise_of _ ["entries", "registry_version"] rfl (by decide), by simp only [OrderedMembers, Ordered, and_true]; exact ordered⟩
  · rw [shape]
    simp only [unsigned, Texts, TextsMembers, paired_py, and_true, true_and]
    exact texts

theorem readEntries_bindings {p : Python} {entries : List Json} {r : ReviewedContractRegistry} (read : readEntries p entries = .ok r) :
    ∃ items, entries.mapM (manifestItem p) = .ok items ∧ r.bindings = items.map Prod.snd := by
  unfold readEntries at read
  obtain ⟨bindings, collected, read⟩ := bind_ok read
  obtain ⟨s, made, read⟩ := bind_ok read
  obtain ⟨again, -, read⟩ := bind_ok read
  obtain ⟨items, itemsRead, kept⟩ := collect_items collected
  obtain ⟨-, bindingsAre⟩ := make_bindings made
  split at read
  · cases read
  · obtain rfl := Except.ok.inj read
    exact ⟨items, itemsRead, by rw [bindingsAre, kept, noBindings, List.nil_append]⟩

/-- Two manifests that are accepted and hold the same entries in some order hold them in one order. -/
theorem order_fixed {p : Python} {entries others : List Json} {r s : ReviewedContractRegistry} (first : readEntries p entries = .ok r)
    (second : readEntries p others = .ok s) (shuffled : entries.Perm others) : entries = others := by
  obtain ⟨items, itemsRead, bindings⟩ := readEntries_bindings first
  obtain ⟨otherItems, otherRead, otherBindings⟩ := readEntries_bindings second
  have related : items.Perm otherItems := by
    obtain ⟨shuffledItems, pairs, same⟩ := List.perm_comp_forall₂ shuffled.symm (mapM_pairs.mp itemsRead)
    have again := mapM_pairs.mpr pairs
    rw [otherRead] at again
    obtain rfl := Except.ok.inj again
    exact same.symm
  have same : r.Same s := by
    rw [ReviewedContractRegistry.Same, bindings, otherBindings]
    exact related.map _
  have written := readEntries_accepts first
  rw [same.sorted, readEntries_accepts second] at written
  exact (Except.ok.inj written).symm

/-- Two manifests that are accepted and have one digest are the same, if SHA-256 tells what is signed apart. -/
theorem entries_fixed {p : Python} {entries others : List Json} {r s : ReviewedContractRegistry} (first : readEntries p entries = .ok r)
    (firstFits : short (unsigned entries) = true) (second : readEntries p others = .ok s) (secondFits : short (unsigned others) = true)
    (texts : TextsItems (fun text => paired text = text) entries) (otherTexts : TextsItems (fun text => paired text = text) others)
    (same : signedBytes (unsigned entries) = signedBytes (unsigned others)) : entries = others := by
  have one := unsigned_through first firstFits
  have other := unsigned_through second secondFits
  rw [rejoinedItems_unpaired entries texts] at one
  rw [rejoinedItems_unpaired others otherTexts] at other
  rw [throughJson, signedBytes_injective same] at one
  have equal := Option.some.inj (one.symm.trans other)
  exact unsigned_entries equal

/-- What two manifests that are both accepted have to do with each other: one registry has one manifest; the same entries have
one digest, and are in one order; and the digest fixes the entries, if SHA-256 tells apart what is signed. -/
structure Fixed (p : Python) (entries others : List Json) (digest other : PyStr) (r s : ReviewedContractRegistry) : Prop where
  written : r.toManifestPayload = .ok (manifest entries digest)
  oneManifest : r.Same s → manifest entries digest = manifest others other
  oneDigest : entries = others → digest = other
  oneOrder : entries.Perm others → entries = others
  oneText : Unpaired (.arr entries) → Unpaired (.arr others) → digest = other →
    (sha256Hex (signedBytes (unsigned entries)) = sha256Hex (signedBytes (unsigned others)) →
      signedBytes (unsigned entries) = signedBytes (unsigned others)) → entries = others

theorem accepted_fixed {p : Python} {entries others : List Json} {digest other : PyStr} {r s : ReviewedContractRegistry}
    (first : fromManifestPayload p (manifest entries digest) = .ok r) (second : fromManifestPayload p (manifest others other) = .ok s) :
    Fixed p entries others digest other r s := by
  have written := accepted_written first
  have otherWritten := accepted_written second
  obtain ⟨_, is, fits, read⟩ := fromManifestPayload_accepts first
  obtain ⟨rfl, digestIs⟩ := manifest_parts is
  obtain ⟨_, otherIs, otherFits, otherRead⟩ := fromManifestPayload_accepts second
  obtain ⟨rfl, otherDigestIs⟩ := manifest_parts otherIs
  refine ⟨written, fun same => ?_, fun same => ?_, order_fixed read otherRead, fun texts otherTexts same tells => ?_⟩
  · rw [same.manifest, otherWritten] at written
    exact (Except.ok.inj written).symm
  · rw [digestIs, otherDigestIs, same]
  · rw [digestIs, otherDigestIs] at same
    exact entries_fixed read fits otherRead otherFits texts otherTexts (tells (py_injective same))

/-- A registry that is loaded from an authoring file survives packaging exactly when it can be packaged. Whatever is accepted as a
manifest is the manifest of the registry it gives, and nothing of it can be changed. -/
theorem registries_survive {p : Python} (lowering : Lowering p) :
    (∀ (payload : List (PyStr × Json)) (r : ReviewedContractRegistry), member (.obj payload) "registry_digest" = none →
      loadReviewedContractRegistry p (.ok (.obj payload)) = .ok r → (Survives p r ↔ Packable r)) ∧
    (∀ (payload : Json) (r : ReviewedContractRegistry), fromManifestPayload p payload = .ok r →
      r.toManifestPayload = .ok payload ∧ ∃ entries digest, payload = manifest entries digest) ∧
    ∀ (entries others : List Json) (digest other : PyStr) (r s : ReviewedContractRegistry),
      fromManifestPayload p (manifest entries digest) = .ok r → fromManifestPayload p (manifest others other) = .ok s →
      Fixed p entries others digest other r s := by
  refine ⟨fun payload r authoring loaded => survives_iff lowering (load_whole lowering authoring loaded), fun payload r accepted => ?_,
    fun entries others digest other r s first second => accepted_fixed first second⟩
  obtain ⟨entries, is, -, -⟩ := fromManifestPayload_accepts accepted
  exact ⟨accepted_written accepted, entries, _, is⟩

def authoredFile (note : PyStr) : List (PyStr × Json) := [
  (py "entries", .arr [.obj [
    (py "authority", .str (py "DIRECT_WEB_YEAR")), (py "contract_id", .str (py "reviewed-records-v1")),
    (py "custodian", .str (py "Library")),
    (py "edition", .str (py "1999")), (py "evidence_type", .str (py "dated_record")), (py "hostname_field", .str (py "host")),
    (py "locator", .str (py "http://example.org/records.jsonl")), (py "parser_kind", .str (py "jsonl")),
    (py "policy_version", .str (py "policy-v1")), (py "review_note", .str note),
    (py "source_identity", .obj [(py "kind", .str (py "immutable_locator")), (py "value", .str (py "http://example.org/records.jsonl"))]),
    (py "temporal_semantics", .str (py "record_date")), (py "timestamp_field", .str (py "date"))]]),
  (py "registry_version", .str (py registryVersion))]

def authoredBinding (note : PyStr) (noted : note ≠ []) : ReviewedSourceContractBinding where
  artifact := ⟨py "http://example.org/records.jsonl", ⟨py "immutable_locator", py "http://example.org/records.jsonl", none⟩,
  py "Library", py "1999"⟩
  contract := ⟨py "reviewed-records-v1", .directWebYear, py "jsonl", py "record_date", py "dated_record", some (py "host"),
  some (py "date"),
    py "policy-v1"⟩
  reviewNote := note
  direct := rfl
  hosted := nofun
  timed := nofun
  noted := noted

def authoredRegistry (note : PyStr) (noted : note ≠ []) : ReviewedContractRegistry := ⟨[authoredBinding note noted], List.nodup_singleton _⟩

theorem checked_loaded : loadReviewedContractRegistry asciiPython (.ok (.obj (authoredFile (py "checked")))) =
    .ok (authoredRegistry (py "checked") (by decide)) := by
  decide +kernel

/-- A registry of one entry survives packaging. -/
theorem checked_survives : Survives asciiPython (authoredRegistry (py "checked") (by decide)) := by
  refine ((registries_survive ascii_lowering).1 (authoredFile (py "checked")) _ (by decide +kernel)
    checked_loaded).mpr ⟨?_, ?_, ?_⟩
  · intro x member
    obtain rfl := List.mem_singleton.mp member
    decide
  · intro x member
    obtain rfl := List.mem_singleton.mp member
    have plain : ∀ text ∈ (authoredBinding (py "checked") (by decide)).texts, paired text = text := by decide +kernel
    exact fun text inside => (paired_iff text).mp (plain text inside)
  · intro x member n length
    obtain rfl := List.mem_singleton.mp member
    cases length

/-- A note that is a lone surrogate is loaded, and the registry cannot be written. -/
theorem surrogate_unwritten :
    ∃ r, loadReviewedContractRegistry asciiPython (.ok (.obj (authoredFile [.surrogate 0]))) = .ok r ∧
      (∀ payload, r.toManifestPayload ≠ .ok payload) ∧ ¬Survives asciiPython r := by
  have unwritten : ∀ payload, (authoredRegistry [.surrogate 0] (by decide)).toManifestPayload ≠ .ok payload := by
    intro payload written
    obtain ⟨entries, listed, -, -⟩ := toManifestPayload_iff.mp written
    obtain ⟨digest, made, -⟩ := entry_of listed (x := authoredBinding [.surrogate 0] (by decide)) List.mem_cons_self
    exact absurd (bindingDigest_ok.mp ⟨digest, made⟩).1 (by decide)
  refine ⟨authoredRegistry [.surrogate 0] (by decide), by decide +kernel, unwritten, ?_⟩
  rintro ⟨payload, written, -⟩
  exact unwritten payload written

end Creeper.ContractRegistries
