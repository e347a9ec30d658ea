import Creeper.AdapterBindings

/-!
# Values read back from their tokens

A constructor normalizes its texts, and what it gave is what it gives again. So a value is read
back from its token when JSON leaves its texts alone; the identity of an artifact also has to be
one that canonicalization leaves alone.
-/

namespace Creeper.BindingRoundTrips
open Creeper.PyText Creeper.PyNumbers Creeper.JsonText Creeper.BindingTokens Creeper.AdapterBindings
open Creeper.EvidenceSemantics (stripText spaceAt)
open Creeper.SearchResults (Python)
open Creeper.BatchPayload (member keysRise_of)

/-! ## Texts -/

/-- What `str.lower` keeps: lower case is lower case, a text without space around it stays one, no
    pair of surrogates arises, and ASCII in lower case stays as it is. -/
structure Lowering (p : Python) : Prop where
  again : ∀ text, p.lower (p.lower text) = p.lower text
  solid : ∀ text, stripText text = text → stripText (p.lower text) = p.lower text
  unpaired : ∀ text, paired text = text → paired (p.lower text) = p.lower text
  ascii : ∀ text : List Char, text.all (fun c => c.toNat < 128 && !c.isUpper) = true → p.lower (text.map .char) = text.map .char

theorem strip_eq (text : PyStr) : stripText text = (text.dropWhile spaceAt).rdropWhile spaceAt := rfl

theorem strip_initial (text : PyStr) : stripText text <+: text.dropWhile spaceAt := List.rdropWhile_prefix _ _

theorem strip_strip (text : PyStr) : stripText (stripText text) = stripText text := by
  have front : (stripText text).dropWhile spaceAt = stripText text := by
    rw [List.dropWhile_eq_self_iff]
    intro long
    have solid := List.dropWhile_idempotent (p := spaceAt) (l := text)
    rw [List.dropWhile_eq_self_iff] at solid
    obtain ⟨rest, same⟩ := strip_initial text
    have longer : 0 < (text.dropWhile spaceAt).length := by
      rw [← same, List.length_append]
      omega
    have head : (text.dropWhile spaceAt)[0] = (stripText text)[0] := by
      simp only [← same]
      exact List.getElem_append_left long
    rw [← head]
    exact solid longer
  rw [strip_eq, front, strip_eq, List.rdropWhile_idempotent]

/-- Two code points that are no pair of surrogates. -/
def Apart : CodePoint → CodePoint → Prop
  | .surrogate a, .surrogate b => ¬(a.val < 1024 ∧ 1024 ≤ b.val)
  | _, _ => True

theorem paired_iff (text : PyStr) : paired text = text ↔ text.IsChain Apart := by
  induction text using paired.induct with
  | case1 a b rest pair ih =>
    obtain ⟨c, same, -⟩ := astral_char (a := a.val) (b := b.val - 1024) pair.1 (by omega)
    rw [paired, if_pos pair, same, List.isChain_cons_cons]
    constructor
    · intro same
      cases (List.cons.inj same).1
    · rintro ⟨apart, -⟩
      exact absurd pair apart
  | case2 a b rest apart ih =>
    rw [paired, if_neg apart, List.isChain_cons_cons]
    simp only [List.cons.injEq, true_and, ih]
    exact ⟨fun chain => ⟨apart, chain⟩, fun both => both.2⟩
  | case3 c rest other ih =>
    rw [paired.eq_2 c rest other]
    simp only [List.cons.injEq, true_and, ih]
    cases rest with
    | nil => simp
    | cons d rest =>
      rw [List.isChain_cons_cons]
      have apart : Apart c d := by
        cases c with
        | char c => trivial
        | surrogate a =>
          cases d with
          | char d => trivial
          | surrogate b => exact (other a b rest rfl rfl).elim
      exact ⟨fun chain => ⟨apart, chain⟩, fun both => both.2⟩
  | case4 => simp [paired]

theorem paired_strip {text : PyStr} (without : paired text = text) : paired (stripText text) = stripText text := by
  rw [paired_iff] at without ⊢
  exact without.infix ((strip_initial text).isInfix.trans (List.dropWhile_suffix _).isInfix)

theorem paired_py (text : String) : paired (py text) = py text := paired_chars _

section
variable {p : Python} (lowering : Lowering p)
include lowering

/-- A normalized text is normal. -/
theorem lowered_again (value : Json) : lowered p (.str (lowered p value)) = lowered p value := by
  have solid := lowering.solid _ (strip_strip (p.str value))
  simp only [lowered, EvidenceSemantics.Python.str] at solid ⊢
  rw [solid, lowering.again]

end

theorem trimmed_again (p : Python) (value : Json) : trimmed p (.str (trimmed p value)) = trimmed p value := strip_strip _

theorem rejoined_textOrNull (d : Option PyStr) : rejoined (textOrNull d) = textOrNull (d.map paired) := by
  cases d <;> rfl

theorem texts_textOrNull (d : Option PyStr) : Texts (fun text => paired text = text) (textOrNull (d.map paired)) := by
  cases d with
  | none => trivial
  | some text => exact paired_paired text

theorem ordered_textOrNull (d : Option PyStr) : Ordered (textOrNull d) := by
  cases d <;> trivial

/-! ## Formats -/

/-! ## Layouts -/

/-! ## Schemas -/

/-! ## Evidence contracts -/

def remakeContract (p : Python) (x : SourceEvidenceContract) : Except BindingError SourceEvidenceContract :=
  SourceEvidenceContract.make p (.str x.contractId) (.str x.authority.name) (.str x.parserKind) (.str x.temporalSemantics)
    (.str x.evidenceType) (textOrNull x.hostnameField) (textOrNull x.timestampField) (.str x.policyVersion)

theorem contract_checked {authority : Except BindingError EvidenceAuthority} {contractId parserKind : Except BindingError PyStr}
    {temporalSemantics evidenceType policyVersion : PyStr} {hostnameField timestampField : Except BindingError (Option PyStr)}
    {x : SourceEvidenceContract}
    (made : SourceEvidenceContract.checked authority contractId parserKind temporalSemantics evidenceType policyVersion hostnameField
      timestampField = .ok x) :
    authority = .ok x.authority ∧ contractId = .ok x.contractId ∧ parserKind = .ok x.parserKind ∧ temporalSemantics = x.temporalSemantics ∧
      evidenceType = x.evidenceType ∧ policyVersion = x.policyVersion ∧ hostnameField = .ok x.hostnameField ∧
      timestampField = .ok x.timestampField := by
  unfold SourceEvidenceContract.checked at made
  cases authority with
  | error e => cases made
  | ok a =>
    cases contractId with
    | error e => cases made
    | ok id =>
      simp only [bind, Except.bind] at made
      split at made
      · cases made
      · cases parserKind with
        | error e => cases made
        | ok kind =>
          simp only at made
          split at made
          · cases made
          · split at made
            · cases made
            · split at made
              · cases made
              · split at made
                · cases made
                · cases hostnameField with
                  | error e => cases made
                  | ok host =>
                    cases timestampField with
                    | error e => cases made
                    | ok time =>
                      simp only at made
                      split at made
                      · cases made
                      · split at made
                        · cases made
                        · cases made
                          exact ⟨rfl, rfl, rfl, rfl, rfl, rfl, rfl, rfl⟩

theorem authority_again (p : Python) (a : EvidenceAuthority) : EvidenceAuthority.ofJson p (.str a.name) = .ok a := by
  cases a <;> rfl

theorem stripped_again {p : Python} (lowering : Lowering p) {value : Json} {text : PyStr} (made : stripped p value = .ok text) :
    stripped p (.str text) = .ok text := by
  cases value with
  | str given =>
    cases made
    exact congrArg _ (lowered_again lowering (.str given))
  | _ => cases made

theorem fieldOf_again {p : Python} {name : String} {value : Json} {field : Option PyStr} (made : fieldOf p name value = .ok field) :
    fieldOf p name (textOrNull field) = .ok field := by
  have named : ∀ value : Json, (if trimmed p value = [] then invalid (name ++ " must be non-empty when supplied")
      else Except.ok (some (trimmed p value))) = .ok field → fieldOf p name (textOrNull field) = .ok field := by
    intro value made
    split at made
    · cases made
    · rename_i some_
      cases made
      simp only [textOrNull, fieldOf]
      rw [trimmed_again, if_neg some_]
  cases value with
  | null =>
    cases made
    rfl
  | _ => exact named _ made

theorem contract_remade {p : Python} (lowering : Lowering p) {contractId authority parserKind temporalSemantics evidenceType hostnameField
    timestampField policyVersion : Json} {x : SourceEvidenceContract}
    (made : SourceEvidenceContract.make p contractId authority parserKind temporalSemantics evidenceType hostnameField timestampField
      policyVersion = .ok x) :
    remakeContract p x = .ok x := by
  unfold SourceEvidenceContract.make at made
  obtain ⟨granted, id, kind, semantics, evidence, policy, host, time⟩ := contract_checked made
  rw [remakeContract]
  unfold SourceEvidenceContract.make
  rw [authority_again, stripped_again lowering id, stripped_again lowering kind, fieldOf_again host, fieldOf_again time,
    ← semantics, ← evidence, ← policy, trimmed_again, trimmed_again, trimmed_again, ← granted, ← id, ← kind, ← host, ← time]
  exact made

/-! ## Reviewed artifacts -/

def remakeIdentity (p : Python) (x : ReviewedArtifactIdentity) : Except BindingError ReviewedArtifactIdentity :=
  ReviewedArtifactIdentity.make p (.str x.kind) (.str x.value) (lengthJson x.contentLength)

def rereadIdentity (x : ReviewedArtifactIdentity) : ReviewedArtifactIdentity := { x with kind := paired x.kind, value := paired x.value }

theorem identity_made {p : Python} {kind value contentLength : Json} {x : ReviewedArtifactIdentity}
    (made : ReviewedArtifactIdentity.make p kind value contentLength = .ok x) :
    x.kind ∈ ["sha256", "etag+length", "immutable_locator"].map py ∧ x.kind = lowered p kind ∧ trimmed p value ≠ [] ∧
      identityValue p x.kind (trimmed p value) contentLength = .ok x.value ∧ contentLengthOf contentLength = some x.contentLength := by
  unfold ReviewedArtifactIdentity.make at made
  split at made
  · cases made
  · rename_i known
    split at made
    · cases made
    · rename_i some_
      cases valued : identityValue p (lowered p kind) (trimmed p value) contentLength with
      | error e =>
        rw [valued] at made
        cases made
      | ok text =>
        rw [valued] at made
        cases sized : contentLengthOf contentLength with
        | none =>
          rw [sized] at made
          cases made
        | some length =>
          rw [sized] at made
          cases made
          exact ⟨not_not.mp known, rfl, some_, valued, rfl⟩

theorem identity_remade {p : Python} {x : ReviewedArtifactIdentity} {value : PyStr}
    (known : x.kind ∈ ["sha256", "etag+length", "immutable_locator"].map py) (kind : lowered p (.str x.kind) = x.kind)
    (some_ : trimmed p (.str value) ≠ []) (valued : identityValue p x.kind (trimmed p (.str value)) (lengthJson x.contentLength) = .ok x.value)
    (sized : contentLengthOf (lengthJson x.contentLength) = some x.contentLength) :
    remakeIdentity p { x with value := value } = .ok x := by
  unfold remakeIdentity ReviewedArtifactIdentity.make
  simp only [kind]
  rw [if_neg (not_not.mpr known), if_neg some_, valued, sized]
  rfl

theorem contentLengthOf_again {value : Json} {length : Option ℤ} (sized : contentLengthOf value = some length) :
    contentLengthOf (lengthJson length) = some length := by
  unfold contentLengthOf at sized
  split at sized
  · cases sized
    rfl
  · rename_i n
    split at sized
    · cases sized
    · rename_i positive
      cases sized
      exact if_neg positive
  · cases sized

theorem canonicalize_strip (p : Python) (text : PyStr) :
    canonicalizeSourceEntrypoint p (stripText text) = canonicalizeSourceEntrypoint p text := by
  unfold canonicalizeSourceEntrypoint
  rw [strip_strip]

theorem canonicalize_nonempty {p : Python} {text locator : PyStr} (canonical : canonicalizeSourceEntrypoint p text = .ok locator) :
    stripText text ≠ [] := by
  intro empty
  rw [canonicalizeSourceEntrypoint, if_pos empty] at canonical
  cases canonical

theorem strip_solid {text : PyStr} (solid : ∀ c ∈ text, spaceAt c = false) : stripText text = text := by
  have front : text.dropWhile spaceAt = text := by
    cases text with
    | nil => rfl
    | cons c rest => rw [List.dropWhile_cons, solid c (by simp), if_neg Bool.false_ne_true]
  rw [strip_eq, front, List.rdropWhile_eq_self_iff]
  intro some_
  rw [solid _ (List.getLast_mem some_)]
  exact Bool.false_ne_true

def hexDigits : List Char := ['0', '1', '2', '3', '4', '5', '6', '7', '8', '9', 'a', 'b', 'c', 'd', 'e', 'f']

theorem hexadecimal_cases {c : Char} (hex : hexadecimal (.char c) = true) : c ∈ hexDigits := by
  have bounds : 48 ≤ c.toNat ∧ c.toNat ≤ 57 ∨ 97 ≤ c.toNat ∧ c.toNat ≤ 102 := by
    simp only [hexadecimal, Char.isDigit, Bool.or_eq_true, Bool.and_eq_true, decide_eq_true_eq] at hex
    rcases hex with ⟨above, below⟩ | ⟨above, below⟩
    · exact .inl ⟨above, below⟩
    · exact .inr ⟨above, below⟩
  rw [← Char.ofNat_toNat c]
  generalize c.toNat = n at bounds
  have all : ∀ n < 103, 48 ≤ n ∧ n ≤ 57 ∨ 97 ≤ n ∧ n ≤ 102 → Char.ofNat n ∈ hexDigits := by decide
  exact all n (by omega) bounds

theorem hexadecimal_chars {digest : PyStr} (hex : digest.all hexadecimal = true) :
    ∃ chars : List Char, digest = chars.map .char ∧ ∀ c ∈ chars, c ∈ hexDigits := by
  induction digest with
  | nil => exact ⟨[], rfl, by simp⟩
  | cons c digest ih =>
    simp only [List.all_cons, Bool.and_eq_true] at hex
    obtain ⟨chars, rfl, each⟩ := ih hex.2
    cases c with
    | char d => exact ⟨d :: chars, rfl, List.forall_mem_cons.mpr ⟨hexadecimal_cases hex.1, each⟩⟩
    | surrogate k => exact absurd hex.1 Bool.false_ne_true

theorem digest_again {p : Python} (lowering : Lowering p) {value digest : PyStr} (valued : sha256Value p value = .ok digest) :
    paired digest = digest ∧ stripText digest = digest ∧ digest ≠ [] ∧ sha256Value p digest = .ok digest := by
  obtain ⟨length, hex⟩ : digest.length = 64 ∧ digest.all hexadecimal = true := by
    unfold sha256Value at valued
    dsimp only at valued
    generalize (if py "sha256:" <+: p.lower value then (p.lower value).drop 7 else p.lower value) = text at valued
    split at valued
    · rename_i fits
      cases valued
      simpa only [Bool.and_eq_true, decide_eq_true_eq] using fits
    · cases valued
  obtain ⟨chars, rfl, each⟩ := hexadecimal_chars hex
  have small : ∀ c ∈ hexDigits, (c.toNat < 128 && !c.isUpper) = true ∧ spaceAt (.char c) = false ∧ c ≠ 's' := by
    have all : hexDigits.all (fun c => (c.toNat < 128 && !c.isUpper) && !spaceAt (.char c) && c != 's') = true := by decide
    intro c member
    have fact := List.all_eq_true.mp all c member
    simp only [Bool.and_eq_true, Bool.not_eq_true', bne_iff_ne] at fact
    exact ⟨by simp only [fact.1.1, Bool.and_self, Bool.not_false], fact.1.2, fact.2⟩
  have lower : p.lower (chars.map .char) = chars.map .char :=
    lowering.ascii chars (List.all_eq_true.mpr fun c member => (small c (each c member)).1)
  refine ⟨paired_chars chars, strip_solid ?_, ?_, ?_⟩
  · intro c member
    obtain ⟨d, inside, rfl⟩ := List.mem_map.mp member
    exact (small d (each d inside)).2.1
  · intro empty
    rw [empty] at length
    exact absurd length (by decide)
  · have first : ¬ py "sha256:" <+: chars.map CodePoint.char := by
      cases chars with
      | nil => simp [py]
      | cons c chars =>
        have apart := (small c (each c (by simp))).2.2
        intro starts
        have same : CodePoint.char 's' = .char c := (List.cons_prefix_cons.mp starts).1
        exact apart (CodePoint.char.inj same).symm
    simp only [sha256Value, lower, if_neg first, length, hex, decide_true, Bool.and_self, if_true]

theorem etag_again {p : Python} {value etag : PyStr} {contentLength : Json} {length : Option ℤ}
    (valued : etagValue p value contentLength = .ok etag) (sized : contentLengthOf contentLength = some length) :
    (stripText (paired etag) ≠ [] ∧ etagValue p (stripText (paired etag)) (lengthJson length) = .ok etag) ↔ paired etag = etag := by
  have strong {value etag : PyStr} (normal : normalizeStrongEtag p value = some etag) :
      etag = stripText value ∧ normalizeStrongEtag p etag = some etag ∧ etag ≠ [] := by
    unfold normalizeStrongEtag at normal ⊢
    dsimp only at normal ⊢
    split at normal
    · cases normal
    · rename_i weak
      cases normal
      refine ⟨rfl, ?_, ?_⟩
      · simp only [strip_strip]
        exact if_neg weak
      · intro empty
        exact weak (by rw [empty]; rfl)
  have tagged {value etag : PyStr} {contentLength : Json} (valued : etagValue p value contentLength = .ok etag) :
      normalizeStrongEtag p value = some etag ∧ ∃ n, contentLengthOf contentLength = some (some n) := by
    unfold etagValue at valued
    cases normal : normalizeStrongEtag p value with
    | none =>
      rw [normal] at valued
      cases valued
    | some tag =>
      rw [normal] at valued
      simp only at valued
      split at valued
      · rename_i n found
        cases valued
        exact ⟨rfl, n, found⟩
      · cases valued
  obtain ⟨normal, n, counted⟩ := tagged valued
  obtain ⟨same, again, some_⟩ := strong normal
  constructor
  · rintro ⟨-, reread⟩
    rw [(strong (tagged reread).1).1]
    exact paired_strip (paired_strip (paired_paired etag))
  · intro whole
    have solid : stripText etag = etag := by
      rw [same, strip_strip]
    rw [whole, solid]
    refine ⟨some_, ?_⟩
    have length_eq : length = some n := Option.some.inj (sized.symm.trans counted)
    have sized_again := contentLengthOf_again sized
    rw [length_eq] at sized_again ⊢
    rw [etagValue, again]
    simp only [sized_again]

/-- An identity that JSON and canonicalization leave alone. -/
def WholeIdentity (p : Python) (x : ReviewedArtifactIdentity) : Prop :=
  if x.kind = py "immutable_locator" then canonicalizeSourceEntrypoint p (paired x.value) = .ok x.value else x.value.IsChain Apart

/-- An identity is made again from its own fields, written and read, exactly when its locator is canonical
    or its value holds no pair of surrogates. -/
theorem identity_trip {p : Python} (lowering : Lowering p) {kind value contentLength : Json} {x : ReviewedArtifactIdentity}
    (made : ReviewedArtifactIdentity.make p kind value contentLength = .ok x) :
    remakeIdentity p (rereadIdentity x) = .ok x ↔ WholeIdentity p x := by
  obtain ⟨known, named, some_, valued, sized⟩ := identity_made made
  have again := contentLengthOf_again sized
  have whole : paired x.kind = x.kind := by
    have each : ∀ k ∈ ["sha256", "etag+length", "immutable_locator"].map py, paired k = k := by decide
    exact each x.kind known
  have kind_again : lowered p (.str x.kind) = x.kind := by
    rw [named]
    exact lowered_again lowering kind
  have reread : rereadIdentity x = { x with value := paired x.value } := by rw [rereadIdentity, whole]
  have remade : remakeIdentity p (rereadIdentity x) = .ok x ↔
      stripText (paired x.value) ≠ [] ∧ identityValue p x.kind (stripText (paired x.value)) (lengthJson x.contentLength) = .ok x.value := by
    rw [reread]
    constructor
    · intro again
      obtain ⟨-, -, some_, valued, -⟩ := identity_made again
      exact ⟨some_, valued⟩
    · rintro ⟨some_, valued⟩
      exact identity_remade known kind_again some_ valued again
  rw [remade, WholeIdentity]
  simp only [List.map_cons, List.map_nil, List.mem_cons, List.not_mem_nil, or_false] at known
  rcases known with hashed | tagged | frozen
  · rw [hashed, identityValue, if_pos rfl] at valued
    obtain ⟨unpaired, solid, some_, same⟩ := digest_again lowering valued
    rw [hashed, if_neg (by decide), ← paired_iff, unpaired, solid, identityValue, if_pos rfl, same]
    exact iff_of_true ⟨some_, rfl⟩ rfl
  · rw [tagged, identityValue, if_neg (by decide), if_pos rfl] at valued
    rw [tagged, if_neg (by decide), ← paired_iff, identityValue, if_neg (by decide), if_pos rfl]
    exact etag_again valued sized
  · rw [frozen, if_pos rfl, identityValue, if_neg (by decide), if_neg (by decide), locatorValue, canonicalize_strip]
    constructor
    · rintro ⟨-, valued⟩
      cases found : canonicalizeSourceEntrypoint p (paired x.value) with
      | error e =>
        rw [found] at valued
        cases valued
      | ok locator =>
        rw [found] at valued
        exact valued
    · intro found
      rw [found]
      exact ⟨canonicalize_nonempty found, rfl⟩

theorem artifact_made {p : Python} {locator custodian edition : Json} {identity : ReviewedArtifactIdentity} {x : ReviewedArtifactBinding}
    (made : ReviewedArtifactBinding.make p locator identity custodian edition = .ok x) :
    (∃ text, locator = .str text ∧ canonicalizeSourceEntrypoint p text = .ok x.locator) ∧ x.sourceIdentity = identity ∧
      x.custodian = trimmed p custodian ∧ x.edition = trimmed p edition ∧ trimmed p custodian ≠ [] ∧ trimmed p edition ≠ [] ∧
      (identity.kind = py "immutable_locator" → identity.value = x.locator) := by
  unfold ReviewedArtifactBinding.make at made
  cases locator with
  | str text =>
    dsimp only at made
    cases found : canonicalizeSourceEntrypoint p text with
    | error e =>
      rw [found] at made
      cases made
    | ok canonical =>
      rw [found] at made
      dsimp only at made
      split at made
      · cases made
      · rename_i custodian_
        split at made
        · cases made
        · rename_i edition_
          split at made
          · cases made
          · rename_i agrees
            cases made
            refine ⟨⟨text, rfl, found⟩, rfl, rfl, rfl, custodian_, edition_, fun frozen => ?_⟩
            simpa [frozen] using agrees
  | _ => cases made

/-- The constructors gave this artifact. -/
def MadeArtifact (p : Python) (x : ReviewedArtifactBinding) : Prop :=
  ∃ kind value contentLength locator custodian edition : Json,
    ReviewedArtifactIdentity.make p kind value contentLength = .ok x.sourceIdentity ∧
      ReviewedArtifactBinding.make p locator x.sourceIdentity custodian edition = .ok x

/-! ## ASCII texts -/

def lowerCase : CodePoint → CodePoint
  | .char c => .char c.toLower
  | .surrogate k => .surrogate k

/-- What the ASCII texts of the examples need. -/
def asciiPython : Python where
  lower text := text.map lowerCase
  repr _ := []
  refusesNetloc _ := false
  complaint _ := ""
  wordChar _ := false
  idna := some
  parseQsl _ := []
  urlencode _ := some []

theorem upper_solid {c : Char} (upper : c.isUpper = true) :
    EvidenceSemantics.spaceAt (.char c) = false ∧ EvidenceSemantics.spaceAt (.char c.toLower) = false := by
  have bounds : 65 ≤ c.toNat ∧ c.toNat ≤ 90 := by
    simp only [Char.isUpper, Bool.and_eq_true, decide_eq_true_eq] at upper
    exact ⟨upper.1, upper.2⟩
  rw [← Char.ofNat_toNat c]
  generalize c.toNat = n at bounds
  have all : (List.range 91).all (fun n => n < 65 || !EvidenceSemantics.spaceAt (.char (Char.ofNat n)) &&
      !EvidenceSemantics.spaceAt (.char (Char.ofNat n).toLower)) = true := by decide +kernel
  have fact := List.all_eq_true.mp all n (List.mem_range.mpr (by omega))
  simp only [Bool.or_eq_true, decide_eq_true_eq, Bool.and_eq_true, Bool.not_eq_true'] at fact
  rcases fact with below | solid
  · omega
  · exact solid

theorem ascii_lowering : Lowering asciiPython := by
  have space (c : CodePoint) : EvidenceSemantics.spaceAt (lowerCase c) = EvidenceSemantics.spaceAt c := by
    cases c with
    | surrogate k => rfl
    | char c =>
      cases upper : c.isUpper with
      | true =>
        obtain ⟨first, second⟩ := upper_solid upper
        rw [lowerCase, first, second]
      | false => rw [lowerCase, Char.toLower_eq_of_not_isUpper (by rw [upper]; exact Bool.false_ne_true)]
  have strips (text : PyStr) : EvidenceSemantics.stripText (text.map lowerCase) = (EvidenceSemantics.stripText text).map lowerCase := by
    have same : EvidenceSemantics.spaceAt ∘ lowerCase = EvidenceSemantics.spaceAt := funext space
    unfold EvidenceSemantics.stripText
    rw [List.dropWhile_map, same, ← List.map_reverse, List.dropWhile_map, same, List.map_reverse]
  refine ⟨fun text => ?_, fun text solid => ?_, fun text whole => ?_, fun text plain => ?_⟩
  · change (text.map lowerCase).map lowerCase = text.map lowerCase
    rw [List.map_map]
    refine List.map_congr_left fun c _ => ?_
    cases c with
    | surrogate k => rfl
    | char c => simp [lowerCase]
  · change EvidenceSemantics.stripText (text.map lowerCase) = text.map lowerCase
    rw [strips, solid]
  · change paired (text.map lowerCase) = text.map lowerCase
    rw [paired_iff] at whole ⊢
    rw [List.isChain_map]
    refine whole.imp fun a b apart => ?_
    cases a <;> cases b <;> exact apart
  · change (text.map CodePoint.char).map lowerCase = text.map CodePoint.char
    rw [List.map_map]
    refine List.map_congr_left fun c member => ?_
    have fact := List.all_eq_true.mp plain c member
    simp only [Bool.and_eq_true, Bool.not_eq_true'] at fact
    have same := Char.toLower_eq_of_not_isUpper (c := c) (by rw [fact.2]; exact Bool.false_ne_true)
    rw [Function.comp_apply, lowerCase, same]

end Creeper.BindingRoundTrips
