import Creeper.Base64
import Creeper.EvidenceSemantics
import Creeper.PlatformHarvests

/-!
# Binding tokens

A value that is frozen into an adapter id: its fields as ASCII JSON in Base64,
`json.dumps(..., ensure_ascii=True)` and `base64.urlsafe_b64encode` without padding, and how
`from_binding_token` reads it back.
-/

namespace Creeper.BindingTokens
open Creeper.PyText Creeper.Hashing Creeper.JsonText
open Creeper.EvidenceSemantics (longInteger loadsText)
open Creeper.PlatformHarvests (unicodeEscape asciiEscape)

/-- A code point of a JSON text under `ensure_ascii`. -/
def spell (c : CodePoint) : PyStr := (asciiEscape c).map .char

/-- Integers that Python writes and reads have at most 4300 digits. -/
def isShort (n : ℤ) : Bool := (Nat.toDigits 10 n.natAbs).length ≤ 4300

mutual
/-- Every integer inside a value is short. -/
def short : Json → Bool
  | .int n => isShort n
  | .arr items => shortItems items
  | .obj members => shortMembers members
  | _ => true
def shortItems : List Json → Bool
  | [] => true
  | v :: rest => short v && shortItems rest
def shortMembers : List (PyStr × Json) → Bool
  | [] => true
  | (_, v) :: rest => short v && shortMembers rest
end

def tokenOf (payload : Json) : PyStr :=
  (Base64.encode (((dumps payload).flatMap asciiEscape).flatMap String.utf8EncodeChar)).map .char

/-- The characters of UTF-8 bytes, `bytes.decode("utf-8")`. -/
def decodeUtf8 (bytes : List UInt8) : Option (List Char) := bytes.toByteArray.utf8Decode?.map Array.toList

/-! ## Pairs of surrogates -/

/-- A text after it was written and read: a high surrogate and a low one after it become one code point. -/
def paired : PyStr → PyStr
  | .surrogate a :: .surrogate b :: rest =>
    if a.val < 1024 ∧ 1024 ≤ b.val then .ofNat (0x10000 + a.val * 0x400 + (b.val - 1024)) :: paired rest
    else .surrogate a :: paired (.surrogate b :: rest)
  | c :: rest => c :: paired rest
  | [] => []

mutual
/-- A value after it was written and read. -/
def rejoined : Json → Json
  | .str text => .str (paired text)
  | .arr items => .arr (rejoinedItems items)
  | .obj members => .obj (rejoinedMembers members)
  | v => v
def rejoinedItems : List Json → List Json
  | [] => []
  | v :: rest => rejoined v :: rejoinedItems rest
def rejoinedMembers : List (PyStr × Json) → List (PyStr × Json)
  | [] => []
  | (k, v) :: rest => (k, rejoined v) :: rejoinedMembers rest
end

/-- A code point that a low surrogate cannot complete. -/
theorem astral_char {a b : ℕ} (high : a < 1024) (low : b < 1024) :
    ∃ c : Char, CodePoint.ofNat (0x10000 + a * 0x400 + b) = .char c ∧ c.toNat = 0x10000 + a * 0x400 + b := by
  have scalar : ¬(0xD800 ≤ 0x10000 + a * 0x400 + b ∧ 0x10000 + a * 0x400 + b < 0xE000) := by omega
  have valid : (0x10000 + a * 0x400 + b).isValidChar := .inr ⟨by omega, by omega⟩
  refine ⟨Char.ofNat (0x10000 + a * 0x400 + b), ?_, ?_⟩
  · rw [CodePoint.ofNat, dif_neg scalar, if_pos valid]
  · rw [Char.toNat_ofNat, if_pos valid]

theorem paired_paired (text : PyStr) : paired (paired text) = paired text := by
  have begins : ∀ text : PyStr, (∃ c rest, paired text = .char c :: rest) ∨ text.head? = (paired text).head? := by
    intro text
    induction text using paired.induct with
    | case1 a b rest pair ih =>
      obtain ⟨c, same, -⟩ := astral_char (a := a.val) (b := b.val - 1024) pair.1 (by omega)
      exact .inl ⟨c, paired rest, by rw [paired, if_pos pair, same]⟩
    | case2 a b rest apart ih =>
      right
      rw [paired, if_neg apart]
      rfl
    | case3 c rest other ih =>
      right
      rw [paired.eq_2 c rest other]
      rfl
    | case4 => exact .inr rfl
  induction text using paired.induct with
  | case1 a b rest pair ih =>
    obtain ⟨c, same, -⟩ := astral_char (a := a.val) (b := b.val - 1024) pair.1 (by omega)
    rw [paired, if_pos pair, same, paired.eq_2 _ _ (by simp), ih]
  | case2 a b rest apart ih =>
    rw [paired, if_neg apart]
    obtain ⟨c, tail, first⟩ | first := begins (.surrogate b :: rest)
    · rw [first] at ih ⊢
      rw [paired.eq_2 _ _ (by simp), ih]
    · obtain ⟨tail, shape⟩ : ∃ tail, paired (.surrogate b :: rest) = .surrogate b :: tail := by
        cases shape : paired (.surrogate b :: rest) with
        | nil => simp [shape] at first
        | cons d tail =>
          rw [shape] at first
          exact ⟨tail, by rw [← Option.some.inj first]⟩
      rw [shape] at ih ⊢
      rw [paired, if_neg apart, ih]
  | case3 c rest other ih =>
    rw [paired.eq_2 c rest other]
    obtain ⟨d, tail, first⟩ | first := begins rest
    · rw [first] at ih ⊢
      rw [paired.eq_2 _ _ (by simp), ih]
    · rw [paired.eq_2, ih]
      intro a b tail same shape
      rw [shape] at first
      cases rest with
      | nil => simp at first
      | cons e rest =>
        simp only [List.head?_cons, Option.some.injEq] at first
        exact other a b rest same (by rw [first])
  | case4 => rfl

theorem paired_chars (text : List Char) : paired (text.map .char) = text.map .char := by
  induction text with
  | nil => rfl
  | cons c text ih => rw [List.map_cons, paired.eq_2 _ _ (by simp), ih]

/-! ## Spelling -/

theorem toNat_lt (c : CodePoint) : c.toNat < 0x110000 := by
  cases c with
  | char c =>
    have valid := c.valid
    simp only [CodePoint.toNat, Char.toNat]
    simp only [UInt32.isValidChar, Nat.isValidChar] at valid
    omega
  | surrogate k =>
    have := k.isLt
    simp only [CodePoint.toNat]
    omega

theorem ofNat_toNat (c : CodePoint) : CodePoint.ofNat c.toNat = c := by
  cases c with
  | char c =>
    have valid := c.valid
    simp only [UInt32.isValidChar, Nat.isValidChar] at valid
    have scalar : ¬(0xD800 ≤ c.toNat ∧ c.toNat < 0xE000) := by
      simp only [Char.toNat]
      omega
    have inside : c.toNat.isValidChar := c.valid
    change CodePoint.ofNat c.toNat = .char c
    rw [CodePoint.ofNat, dif_neg scalar, if_pos inside, Char.ofNat_toNat]
  | surrogate k =>
    have := k.isLt
    have inside : 0xD800 ≤ CodePoint.toNat (.surrogate k) ∧ CodePoint.toNat (.surrogate k) < 0xE000 := by
      simp only [CodePoint.toNat]
      omega
    rw [CodePoint.ofNat, dif_pos inside]
    exact congrArg CodePoint.surrogate (Fin.ext (Nat.add_sub_cancel_left _ _))

theorem spell_ascii {c : CodePoint} (ascii : c.toNat < 127) : spell c = [c] := by
  cases c with
  | char c =>
    simp only [CodePoint.toNat] at ascii
    simp [spell, asciiEscape, CodePoint.toNat, ascii]
  | surrogate k =>
    simp only [CodePoint.toNat] at ascii
    omega

def fourDigits (n : ℕ) : PyStr := ((unicodeEscape n).drop 2).map .char

theorem readHex_fourDigits {n : ℕ} (small : n < 65536) (rest : PyStr) : readHex (fourDigits n ++ rest) = some (n, rest) := by
  have value (m : ℕ) : hexValue (.char (Nat.digitChar (m % 16))) = some (m % 16) := by
    have digit := hexValue_hexDigit (m % 16) (by omega)
    rwa [hexDigit, Nat.mod_mod] at digit
  simp only [fourDigits, unicodeEscape, List.drop_succ_cons, List.drop_zero, List.map_cons, List.map_nil, List.cons_append,
    List.nil_append, readHex, value, Option.bind_eq_bind, Option.bind_some]
  congr 2
  omega

theorem escape_shape (n : ℕ) (rest : PyStr) :
    (unicodeEscape n).map CodePoint.char ++ rest = .char '\\' :: .char 'u' :: (fourDigits n ++ rest) := by
  simp [fourDigits, unicodeEscape]

/-- The escape of a low surrogate comes next. -/
def startsLow : PyStr → Bool
  | .char '\\' :: .char 'u' :: more =>
    match readHex more with
    | some (low, _) => 0xDC00 ≤ low && low < 0xE000
    | none => false
  | _ => false

theorem readUnicode_alone {s rest : PyStr} {n : ℕ} (read : readHex s = some (n, rest))
    (alone : 0xD800 ≤ n → n < 0xDC00 → startsLow rest = false) : readUnicode s = some (.ofNat n, rest) := by
  simp only [readUnicode, read, Option.bind_eq_bind, Option.bind_some]
  split
  · rename_i more
    split
    · rename_i low after found
      have apart : ¬(0xD800 ≤ n ∧ n < 0xDC00 ∧ 0xDC00 ≤ low ∧ low < 0xE000) := by
        rintro ⟨high, short, above, below⟩
        have low := alone high short
        simp [startsLow, found, above, below] at low
      rw [if_neg apart]
      rfl
    · rfl
  · rfl

theorem readUnicode_joined {s more after : PyStr} {high low : ℕ} (read : readHex s = some (high, .char '\\' :: .char 'u' :: more))
    (next : readHex more = some (low, after)) (one : 0xD800 ≤ high ∧ high < 0xDC00 ∧ 0xDC00 ≤ low ∧ low < 0xE000) :
    readUnicode s = some (.ofNat (0x10000 + (high - 0xD800) * 0x400 + (low - 0xDC00)), after) := by
  simp only [readUnicode, read, Option.bind_eq_bind, Option.bind_some, next]
  rw [if_pos one]
  rfl

theorem writeCodePoint_ascii {c : CodePoint} (ascii : c.toNat < 127) : ∀ d ∈ writeCodePoint c, d.toNat < 127 := by
  unfold writeCodePoint
  split_ifs with quote slash newline ret tab feed back control
  iterate 7
    · decide
  · have digits : ∀ n, (CodePoint.char (hexDigit n)).toNat < 127 := by
      intro n
      have small : ∀ m < 16, (Nat.digitChar m).toNat < 127 := by decide
      exact small (n % 16) (by omega)
    intro d member
    simp only [py, List.mem_append, List.mem_map, List.mem_cons, List.not_mem_nil, or_false] at member
    rcases member with ⟨e, inside, rfl⟩ | rfl | rfl
    · fin_cases inside <;> decide
    · exact digits _
    · exact digits _
  · simpa using ascii

theorem writeCodePoint_other {c : CodePoint} (other : 127 ≤ c.toNat) : writeCodePoint c = [c] := by
  have apart : ∀ d : Char, d.toNat < 127 → c ≠ .char d := by
    rintro d small rfl
    simp only [CodePoint.toNat] at other
    omega
  unfold writeCodePoint
  rw [if_neg (apart _ (by decide)), if_neg (apart _ (by decide)), if_neg (apart _ (by decide)), if_neg (apart _ (by decide)),
    if_neg (apart _ (by decide)), if_neg (apart _ (by decide)), if_neg (apart _ (by decide)), if_neg (by omega)]

theorem spelled_ascii {c : CodePoint} (ascii : c.toNat < 127) : (writeCodePoint c).flatMap spell = writeCodePoint c := by
  have plain : ∀ s : PyStr, (∀ d ∈ s, d.toNat < 127) → s.flatMap spell = s := by
    intro s small
    induction s with
    | nil => rfl
    | cons d s ih =>
      rw [List.flatMap_cons, spell_ascii (small d (by simp)), ih fun e member => small e (by simp [member])]
      rfl
  exact plain _ (writeCodePoint_ascii ascii)

/-- A code point past ASCII is one escape, or two. -/
theorem spelled_other {c : CodePoint} (other : 127 ≤ c.toNat) :
    (writeCodePoint c).flatMap spell =
      if c.toNat < 65536 then (unicodeEscape c.toNat).map .char
      else (unicodeEscape (55296 + (c.toNat - 65536) / 1024)).map .char ++
        (unicodeEscape (56320 + (c.toNat - 65536) % 1024)).map .char := by
  rw [writeCodePoint_other other]
  simp only [List.flatMap_cons, List.flatMap_nil, List.append_nil, spell, asciiEscape]
  rw [if_neg (by omega)]
  split <;> simp

theorem readString_spelled (n : ℕ) (c : CodePoint) (rest : PyStr)
    (alone : 0xD800 ≤ c.toNat → c.toNat < 0xDC00 → startsLow rest = false) :
    readString (n + 1) ((writeCodePoint c).flatMap spell ++ rest) = (readString n rest).map fun p => (c :: p.1, p.2) := by
  by_cases ascii : c.toNat < 127
  · rw [spelled_ascii ascii, readString_writeCodePoint]
  · rw [spelled_other (by omega)]
    have bound := toNat_lt c
    by_cases one : c.toNat < 65536
    · rw [if_pos one, escape_shape]
      have read := readUnicode_alone (readHex_fourDigits one rest) alone
      rw [ofNat_toNat] at read
      simp [readString, read, Option.map_eq_bind]
    · rw [if_neg one, List.append_assoc, escape_shape, escape_shape]
      have first := readHex_fourDigits (n := 55296 + (c.toNat - 65536) / 1024) (by omega)
        (.char '\\' :: .char 'u' :: (fourDigits (56320 + (c.toNat - 65536) % 1024) ++ rest))
      have second := readHex_fourDigits (n := 56320 + (c.toNat - 65536) % 1024) (by omega) rest
      have read := readUnicode_joined first second (by omega)
      have whole : 0x10000 + (55296 + (c.toNat - 65536) / 1024 - 0xD800) * 0x400 + (56320 + (c.toNat - 65536) % 1024 - 0xDC00) = c.toNat := by
        omega
      rw [whole, ofNat_toNat] at read
      simp [readString, read, Option.map_eq_bind]

theorem startsLow_spelled (text rest : PyStr) (low : ∀ k tail, text = .surrogate k :: tail → k.val < 1024) :
    startsLow ((text.flatMap writeCodePoint).flatMap spell ++ .char '"' :: rest) = false := by
  cases text with
  | nil => rfl
  | cons c text =>
    rw [List.flatMap_cons, List.flatMap_append, List.append_assoc]
    generalize (text.flatMap writeCodePoint).flatMap spell ++ .char '"' :: rest = after
    by_cases ascii : c.toNat < 127
    · rw [spelled_ascii ascii]
      unfold writeCodePoint
      split_ifs with quote slash newline ret tab feed back control
      iterate 7
        · simp [py, startsLow]
      · have read := readHex_control control after
        have small : ¬ 0xDC00 ≤ c.toNat := by omega
        have shape : py "\\u00" ++ [.char (hexDigit (c.toNat / 16)), .char (hexDigit c.toNat)] ++ after = .char '\\' :: .char 'u' ::
            (.char '0' :: .char '0' :: .char (hexDigit (c.toNat / 16)) :: .char (hexDigit c.toNat) :: after) := by
          simp [py]
        rw [shape]
        simp [startsLow, read, small]
      · rw [List.cons_append, List.nil_append, startsLow.eq_2]
        rintro more ⟨rfl, -⟩
        exact slash rfl
    · rw [spelled_other (by omega)]
      by_cases one : c.toNat < 65536
      · rw [if_pos one, escape_shape]
        simp only [startsLow, readHex_fourDigits one after]
        cases c with
        | char c =>
          have valid := c.valid
          simp only [UInt32.isValidChar, Nat.isValidChar] at valid
          have value : CodePoint.toNat (.char c) = c.val.toNat := rfl
          simp only [Bool.and_eq_false_iff, decide_eq_false_iff_not]
          omega
        | surrogate k =>
          have below := low k text rfl
          have value : CodePoint.toNat (.surrogate k) = 0xD800 + k.val := rfl
          simp only [Bool.and_eq_false_iff, decide_eq_false_iff_not]
          omega
      · have bound := toNat_lt c
        rw [if_neg one, List.append_assoc, escape_shape]
        simp only [startsLow, readHex_fourDigits (n := 55296 + (c.toNat - 65536) / 1024) (by omega)]
        simp only [Bool.and_eq_false_iff, decide_eq_false_iff_not]
        omega

theorem readString_paired (text rest : PyStr) (n : ℕ) (without : paired text = text) (fuel : text.length < n) :
    readString n ((text.flatMap writeCodePoint).flatMap spell ++ .char '"' :: rest) = some (text, rest) := by
  induction text generalizing n with
  | nil =>
    obtain ⟨n, rfl⟩ : ∃ m, n = m + 1 := ⟨n - 1, by simp at fuel; omega⟩
    simp [readString]
  | cons c text ih =>
    obtain ⟨n, rfl⟩ : ∃ m, n = m + 1 := ⟨n - 1, by simp at fuel; omega⟩
    have inner : paired text = text ∧ (0xD800 ≤ c.toNat → c.toNat < 0xDC00 → ∀ k tail, text = .surrogate k :: tail → k.val < 1024) := by
      by_cases shape : ∃ a b rest, c = .surrogate a ∧ text = .surrogate b :: rest
      · obtain ⟨a, b, rest, rfl, rfl⟩ := shape
        by_cases pair : a.val < 1024 ∧ 1024 ≤ b.val
        · rw [paired, if_pos pair] at without
          obtain ⟨c, same, -⟩ := astral_char (a := a.val) (b := b.val - 1024) pair.1 (by omega)
          rw [same] at without
          cases (List.cons.inj without).1
        · rw [paired, if_neg pair] at without
          refine ⟨(List.cons.inj without).2, ?_⟩
          rintro - high k tail same
          have := (List.cons.inj same).1
          simp only [CodePoint.surrogate.injEq] at this
          rw [← this]
          simp only [CodePoint.toNat] at high
          omega
      · have other : ∀ a b rest, c = .surrogate a → text = .surrogate b :: rest → False :=
          fun a b rest first second => shape ⟨a, b, rest, first, second⟩
        rw [paired.eq_2 c text other] at without
        refine ⟨(List.cons.inj without).2, ?_⟩
        intro high short k tail same
        cases c with
        | char c =>
          have valid := c.valid
          simp only [UInt32.isValidChar, Nat.isValidChar] at valid
          simp only [CodePoint.toNat, Char.toNat] at high short
          omega
        | surrogate a => exact absurd ⟨a, k, tail, rfl, same⟩ shape
    have enough : text.length < n := by simpa using fuel
    rw [List.flatMap_cons, List.flatMap_append, List.append_assoc, readString_spelled, ih n inner.1 enough]
    · rfl
    · exact fun high short => startsLow_spelled text rest (inner.2 high short)

theorem spell_length (c : CodePoint) : 1 ≤ (spell c).length := by
  unfold spell asciiEscape
  simp only
  split_ifs <;> simp [unicodeEscape]

theorem length_flatMap_spell (s : PyStr) : s.length ≤ (s.flatMap spell).length := by
  induction s with
  | nil => simp
  | cons c s ih =>
    have := spell_length c
    simp only [List.flatMap_cons, List.length_append, List.length_cons]
    omega

theorem ascii_spelling : Spelling spell fun text => paired text = text :=
  ⟨fun _ ascii => spell_ascii ascii, fun text => (length_flatMap_write text).trans (length_flatMap_spell _),
    fun text rest n without fuel => readString_paired text rest n without fuel⟩

theorem spelled_paired (text : PyStr) :
    ((paired text).flatMap writeCodePoint).flatMap spell = (text.flatMap writeCodePoint).flatMap spell := by
  induction text using paired.induct with
  | case1 a b rest pair ih =>
    obtain ⟨c, same, value⟩ := astral_char (a := a.val) (b := b.val - 1024) pair.1 (by omega)
    have whole : CodePoint.toNat (.char c) = 0x10000 + a.val * 0x400 + (b.val - 1024) := value
    have first : CodePoint.toNat (.surrogate a) = 0xD800 + a.val := rfl
    have second : CodePoint.toNat (.surrogate b) = 0xD800 + b.val := rfl
    rw [paired, if_pos pair, same, List.flatMap_cons, List.flatMap_cons, List.flatMap_cons, List.flatMap_append, List.flatMap_append,
      List.flatMap_append, ih, spelled_other (by omega), spelled_other (by omega), spelled_other (by omega), if_neg (by omega),
      if_pos (by omega), if_pos (by omega), whole, first, second]
    have high : 55296 + (0x10000 + a.val * 0x400 + (b.val - 1024) - 65536) / 1024 = 0xD800 + a.val := by omega
    have low : 56320 + (0x10000 + a.val * 0x400 + (b.val - 1024) - 65536) % 1024 = 0xD800 + b.val := by omega
    rw [high, low, List.append_assoc]
  | case2 a b rest apart ih =>
    rw [paired, if_neg apart, List.flatMap_cons, List.flatMap_append, ih, ← List.flatMap_append, ← List.flatMap_cons]
  | case3 c rest other ih =>
    rw [paired.eq_2 c rest other, List.flatMap_cons, List.flatMap_append, ih, ← List.flatMap_append, ← List.flatMap_cons]
  | case4 => rfl

mutual
theorem spelled_rejoined (v : Json) : (write (rejoined v)).flatMap spell = (write v).flatMap spell := by
  cases v with
  | str text =>
    simp only [rejoined, write, writeString, List.flatMap_cons, List.flatMap_append, spelled_paired]
  | arr items =>
    simp only [rejoined, write, List.flatMap_cons, List.flatMap_append, spelled_rejoinedItems items]
  | obj members =>
    simp only [rejoined, write, List.flatMap_cons, List.flatMap_append, spelled_rejoinedMembers members]
  | _ => rfl
theorem spelled_rejoinedItems (items : List Json) : (writeItems (rejoinedItems items)).flatMap spell = (writeItems items).flatMap spell := by
  match items with
  | [] => rfl
  | [v] => simpa only [rejoinedItems, writeItems] using spelled_rejoined v
  | v :: w :: items =>
    have first := spelled_rejoined v
    have others := spelled_rejoinedItems (w :: items)
    rw [rejoinedItems, writeItems.eq_3 _ _ (by simp [rejoinedItems]), writeItems.eq_3 _ _ (by simp)]
    simp only [List.flatMap_append, List.flatMap_cons, first, others]
theorem spelled_rejoinedMembers (members : List (PyStr × Json)) :
    (writeMembers (rejoinedMembers members)).flatMap spell = (writeMembers members).flatMap spell := by
  match members with
  | [] => rfl
  | [(k, v)] =>
    have first := spelled_rejoined v
    simp only [rejoinedMembers, writeMembers, List.flatMap_append, List.flatMap_cons, first]
  | (k, v) :: q :: members =>
    have first := spelled_rejoined v
    have others := spelled_rejoinedMembers (q :: members)
    rw [rejoinedMembers, writeMembers.eq_3 _ _ _ (by simp [rejoinedMembers]), writeMembers.eq_3 _ _ _ (by simp)]
    simp only [List.flatMap_append, List.flatMap_cons, first, others]
end

/-! ## No long integer -/

theorem scan_char {c : CodePoint} (quote : c ≠ .char '"') (apart : (numberText [c]).1 = []) (within : Bool) (rest : PyStr) :
    longInteger false within (c :: rest) = longInteger false false rest := by
  have none : (numberText (c :: rest)).1 = [] := by
    cases c with
    | char c =>
      by_cases number : isNumberChar c
      · simp [numberText, number] at apart
      · simp [numberText, number]
    | surrogate k => rfl
  have open_ : decide (c = .char '"') = false := by simpa using quote
  simp [longInteger, none, apart, isWhole, open_]

theorem scan_stops {rest : PyStr} (stops : Stops rest) : longInteger false true rest = longInteger false false rest := by
  cases rest with
  | nil => rfl
  | cons c more =>
    have stop := stops c more rfl
    have quote : c ≠ .char '"' := by
      rintro rfl
      simp at stop
    have apart : (numberText [c]).1 = [] := by
      rcases stop with rfl | rfl | rfl <;> rfl
    rw [scan_char quote apart, scan_char quote apart]

theorem scan_number {text : List Char} (number : text.all isNumberChar) {rest : PyStr} (stops : Stops rest)
    (fits : let digits := if text.head? == some '-' then text.tail else text
      (isWhole digits && 4300 < digits.length) = false) :
    longInteger false false (text.map .char ++ rest) = longInteger false false rest := by
  have later : ∀ text : List Char, text.all isNumberChar →
      longInteger false true (text.map .char ++ rest) = longInteger false false rest := by
    intro text number
    induction text with
    | nil => exact scan_stops stops
    | cons c text ih =>
      simp only [List.all_cons, Bool.and_eq_true] at number
      have quote : c ≠ '"' := by
        rintro rfl
        exact absurd number.1 (by decide)
      have kept : (numberText [.char c]).1.isEmpty = false := by simp [numberText, number.1]
      simp [longInteger, quote, kept, ih number.2]
  cases text with
  | nil => rfl
  | cons c text =>
    have whole := numberText_append number stops
    simp only [List.all_cons, Bool.and_eq_true] at number
    have quote : c ≠ '"' := by
      rintro rfl
      exact absurd number.1 (by decide)
    have kept : (numberText [.char c]).1.isEmpty = false := by simp [numberText, number.1]
    rw [List.map_cons, List.cons_append] at whole ⊢
    have opens : longInteger false false (.char c :: (text.map .char ++ rest)) =
        (isWhole (if (c :: text).head? == some '-' then (c :: text).tail else c :: text) &&
            4300 < (if (c :: text).head? == some '-' then (c :: text).tail else c :: text).length ||
          longInteger (CodePoint.char c = .char '"') (!(numberText [.char c]).1.isEmpty) (text.map .char ++ rest)) := by
      rw [longInteger, whole]
      simp
    have outside : decide (CodePoint.char c = .char '"') = false := by simpa using quote
    rw [opens, fits, kept, outside, Bool.not_false, later text number.2, Bool.false_or]

/-- Inside a literal, characters that neither end it nor escape. -/
theorem scan_plain {plain : PyStr} (apart : ∀ c ∈ plain, c ≠ .char '"' ∧ c ≠ .char '\\') (rest : PyStr) :
    longInteger true false (plain ++ rest) = longInteger true false rest := by
  induction plain with
  | nil => rfl
  | cons c plain ih =>
    obtain ⟨quote, slash⟩ := apart c (by simp)
    have inside : longInteger true false (c :: (plain ++ rest)) = longInteger true false (plain ++ rest) := by
      rw [longInteger]
      · simp [quote]
      · exact fun d more same _ => slash same
    rw [List.cons_append, inside, ih fun d member => apart d (by simp [member])]

theorem scan_skip (c : CodePoint) (rest : PyStr) :
    longInteger true false (.char '\\' :: c :: rest) = longInteger true false rest := by
  rw [longInteger]

theorem fourDigits_plain (n : ℕ) : ∀ c ∈ fourDigits n, c ≠ .char '"' ∧ c ≠ .char '\\' := by
  have digits : ∀ m < 16, Nat.digitChar m ≠ '"' ∧ Nat.digitChar m ≠ '\\' := by decide
  have digit (m : ℕ) : CodePoint.char (Nat.digitChar (m % 16)) ≠ .char '"' ∧ CodePoint.char (Nat.digitChar (m % 16)) ≠ .char '\\' := by
    simpa only [ne_eq, CodePoint.char.injEq] using digits (m % 16) (Nat.mod_lt _ (by decide))
  simp only [fourDigits, unicodeEscape, List.drop_succ_cons, List.drop_zero, List.map_cons, List.map_nil, List.mem_cons,
    List.not_mem_nil, or_false, forall_eq_or_imp, forall_eq]
  exact ⟨digit _, digit _, digit _, digit _⟩

theorem scan_escape (n : ℕ) (rest : PyStr) :
    longInteger true false ((unicodeEscape n).map .char ++ rest) = longInteger true false rest := by
  rw [escape_shape, scan_skip, scan_plain (fourDigits_plain n)]

theorem scan_spelled (c : CodePoint) (rest : PyStr) :
    longInteger true false ((writeCodePoint c).flatMap spell ++ rest) = longInteger true false rest := by
  by_cases ascii : c.toNat < 127
  · rw [spelled_ascii ascii]
    unfold writeCodePoint
    split_ifs with quote slash newline ret tab feed back control
    iterate 7
      · simp [py, longInteger]
    · have digits : ∀ m < 16, Nat.digitChar m ≠ '"' ∧ Nat.digitChar m ≠ '\\' := by decide
      have digit (m : ℕ) : CodePoint.char (hexDigit m) ≠ .char '"' ∧ CodePoint.char (hexDigit m) ≠ .char '\\' := by
        simpa only [hexDigit, ne_eq, CodePoint.char.injEq] using digits (m % 16) (Nat.mod_lt _ (by decide))
      have shape : py "\\u00" ++ [.char (hexDigit (c.toNat / 16)), .char (hexDigit c.toNat)] ++ rest = .char '\\' :: .char 'u' ::
          ([.char '0', .char '0', .char (hexDigit (c.toNat / 16)), .char (hexDigit c.toNat)] ++ rest) := by
        simp [py]
      rw [shape, scan_skip, scan_plain]
      simp only [List.mem_cons, List.not_mem_nil, or_false, forall_eq_or_imp, forall_eq]
      exact ⟨by decide, by decide, digit _, digit _⟩
    · rw [scan_plain]
      simpa using ⟨quote, slash⟩
  · rw [spelled_other (by omega)]
    by_cases one : c.toNat < 65536
    · rw [if_pos one, scan_escape]
    · rw [if_neg one, List.append_assoc, scan_escape, scan_escape]

theorem scan_literal (text rest : PyStr) :
    longInteger true false ((text.flatMap writeCodePoint).flatMap spell ++ .char '"' :: rest) = longInteger false false rest := by
  induction text with
  | nil => simp [longInteger]
  | cons c text ih => rw [List.flatMap_cons, List.flatMap_append, List.append_assoc, scan_spelled, ih]

theorem scan_string (text rest : PyStr) :
    longInteger false false ((writeString text).flatMap spell ++ rest) = longInteger false false rest := by
  have shape : (writeString text).flatMap spell ++ rest = .char '"' :: ((text.flatMap writeCodePoint).flatMap spell ++ .char '"' :: rest) := by
    rw [writeString, ascii_spelling.cons (by decide), List.flatMap_append, ascii_spelling.cons (by decide)]
    simp
  have opens : longInteger false false (.char '"' :: ((text.flatMap writeCodePoint).flatMap spell ++ .char '"' :: rest)) =
      longInteger true false ((text.flatMap writeCodePoint).flatMap spell ++ .char '"' :: rest) := by
    simp [longInteger, numberText, isNumberChar, isWhole]
  rw [shape, opens, scan_literal]

theorem scan_int {n : ℤ} (fits : isShort n = true) {rest : PyStr} (stops : Stops rest) :
    longInteger false false ((writeInt n).flatMap spell ++ rest) = longInteger false false rest := by
  rw [ascii_spelling.int]
  simp only [isShort, decide_eq_true_eq] at fits
  have number (m : ℕ) : (Nat.toDigits 10 m).all isNumberChar := by
    rw [List.all_eq_true]
    exact fun c member => isNumberChar_of_isDigit (List.all_eq_true.mp (toDigits_all m) c member)
  cases n with
  | ofNat m =>
    refine scan_number (number m) stops ?_
    obtain ⟨c, more, digit, shape⟩ := isWhole_starts (isWhole_toDigits m)
    have dash : ((Nat.toDigits 10 m).head? == some '-') = false := by
      rw [shape]
      simpa using (digit_ne digit).1
    have few : ¬ 4300 < (Nat.toDigits 10 m).length := by
      have := fits
      simp only [Int.ofNat_eq_natCast, Int.natAbs_natCast] at this
      omega
    simp [dash, few]
  | negSucc m =>
    have few : ¬ 4300 < (Nat.toDigits 10 (m + 1)).length := by
      have := fits
      simp only [Int.natAbs_negSucc, Nat.succ_eq_add_one] at this
      omega
    refine @scan_number ('-' :: Nat.toDigits 10 (m + 1)) ?_ rest stops ?_
    · simpa [isNumberChar] using number (m + 1)
    · simp [few]

mutual
theorem scan_value (v : Json) (fits : short v = true) {rest : PyStr} (stops : Stops rest) :
    longInteger false false ((write v).flatMap spell ++ rest) = longInteger false false rest := by
  match v with
  | .null | .bool true | .bool false | .float .nan | .float .infinity | .float .negInfinity =>
    have last := scan_stops stops
    simp [write, writeFloat, py, spell, asciiEscape, CodePoint.toNat, longInteger, numberText, isNumberChar, isWhole, last]
  | .int n => exact scan_int fits stops
  | .float (.finite text valid) =>
    obtain ⟨-, number, part⟩ := isFloatText_spec valid
    rw [write, writeFloat, ascii_spelling.number number]
    exact scan_number number stops (by simp only [part, Bool.false_and])
  | .str text => exact scan_string text rest
  | .arr items =>
    have inner := scan_items items fits (stops_cons (c := .char ']') (by simp) rest)
    rw [write, ascii_spelling.cons (by decide), List.flatMap_append, List.cons_append, List.append_assoc, scan_char (by decide) rfl,
      ascii_spelling.cons (by decide), List.flatMap_nil, List.cons_append, List.nil_append, inner, scan_char (by decide) rfl]
  | .obj members =>
    have inner := scan_members members fits (stops_cons (c := .char '\x7d') (by simp) rest)
    rw [write, ascii_spelling.cons (by decide), List.flatMap_append, List.cons_append, List.append_assoc, scan_char (by decide) rfl,
      ascii_spelling.cons (by decide), List.flatMap_nil, List.cons_append, List.nil_append, inner, scan_char (by decide) rfl]
theorem scan_items (items : List Json) (fits : shortItems items = true) {rest : PyStr} (stops : Stops rest) :
    longInteger false false ((writeItems items).flatMap spell ++ rest) = longInteger false false rest := by
  match items with
  | [] => rfl
  | [v] =>
    simp only [shortItems, Bool.and_true] at fits
    exact scan_value v fits stops
  | v :: w :: items =>
    obtain ⟨first, others⟩ := Bool.and_eq_true_iff.mp fits
    have next := scan_items (w :: items) others stops
    rw [writeItems.eq_3 _ _ (by simp), List.flatMap_append, List.append_assoc, ascii_spelling.cons (by decide), List.cons_append,
      scan_value v first (stops_cons (by simp) _), scan_char (by decide) rfl, next]
theorem scan_members (members : List (PyStr × Json)) (fits : shortMembers members = true) {rest : PyStr} (stops : Stops rest) :
    longInteger false false ((writeMembers members).flatMap spell ++ rest) = longInteger false false rest := by
  match members with
  | [] => rfl
  | [(k, v)] =>
    simp only [shortMembers, Bool.and_true] at fits
    rw [writeMembers, List.flatMap_append, List.append_assoc, scan_string, ascii_spelling.cons (by decide), List.cons_append,
      scan_char (by decide) rfl, scan_value v fits stops]
  | (k, v) :: q :: members =>
    obtain ⟨first, others⟩ := Bool.and_eq_true_iff.mp fits
    have next := scan_members (q :: members) others stops
    rw [writeMembers.eq_3 _ _ _ (by simp), List.flatMap_append, List.append_assoc, scan_string, ascii_spelling.cons (by decide),
      List.cons_append, scan_char (by decide) rfl, List.flatMap_append, List.append_assoc, ascii_spelling.cons (by decide),
      List.cons_append, scan_value v first (stops_cons (by simp) _), scan_char (by decide) rfl, next]
end

/-- A value written in ASCII is read back, its pairs joined. -/
theorem loadsText_spelled {v : Json} (fits : short v = true) (ordered : Ordered (rejoined v))
    (texts : Texts (fun text => paired text = text) (rejoined v)) : loadsText ((dumps v).flatMap spell) = some (rejoined v) := by
  have scanned := scan_value v fits stops_nil
  simp only [List.append_nil] at scanned
  have apart : longInteger false false ((dumps v).flatMap spell) = false := scanned
  have enough := (fuel_le (rejoined v)).trans (length_flatMap_spell (dumps (rejoined v)))
  rw [loadsText, apart, if_neg Bool.false_ne_true, dumps, ← spelled_rejoined v]
  exact loads_spelled ascii_spelling ordered texts enough

/-! ## Tokens -/

theorem decodeUtf8_encode (chars : List Char) : decodeUtf8 (chars.flatMap String.utf8EncodeChar) = some chars := by
  have read := List.utf8Decode?_utf8Encode (l := chars)
  simp only [List.utf8Encode] at read
  simp [decodeUtf8, read]

end Creeper.BindingTokens
