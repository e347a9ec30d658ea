import Creeper.PyText

/-!
# JSON

Values, the compact writer with sorted keys and unescaped text
(`json.dumps(value, sort_keys=True, separators=(",", ":"), ensure_ascii=False)`)
and the reader `json.loads`. Python compares objects without regard to order, so
an object keeps its members in key order. Reading what was written gives back the
value.
-/

namespace Creeper.JsonText
open Creeper.PyText

/-! ## Values -/

/-- The characters a number can contain. -/
def isNumberChar (c : Char) : Bool := c.isDigit || c == '-' || c == '+' || c == '.' || c == 'e' || c == 'E'

/-- `(0|[1-9]\d*)`. -/
def isWhole (digits : List Char) : Bool :=
  !digits.isEmpty && digits.all Char.isDigit && (digits.head? != some '0' || digits.length == 1)

/-- `[eE][-+]?\d+`, after the letter. -/
def isExponent : List Char → Bool
  | '-' :: digits | '+' :: digits => !digits.isEmpty && digits.all Char.isDigit
  | digits => !digits.isEmpty && digits.all Char.isDigit

/-- The text of a finite float: a fraction, an exponent or both follow the whole part. -/
def isFloatText (text : List Char) : Bool :=
  let unsigned := if text.head? == some '-' then text.tail else text
  let whole := unsigned.takeWhile Char.isDigit
  let rest := unsigned.dropWhile Char.isDigit
  let isLetter := fun c : Char => c == 'e' || c == 'E'
  let fraction := rest.takeWhile (fun c => !isLetter c)
  let power := rest.dropWhile (fun c => !isLetter c)
  isWhole whole && (!fraction.isEmpty || !power.isEmpty) &&
    (fraction.isEmpty || fraction.head? == some '.' && !fraction.tail.isEmpty && fraction.tail.all Char.isDigit) &&
    (power.isEmpty || isExponent power.tail) && text.all isNumberChar

/-- A float as `repr` writes it. -/
inductive JsonFloat
  | finite (text : List Char) (valid : isFloatText text = true)
  | nan
  | infinity
  | negInfinity
  deriving DecidableEq

inductive Json
  | null
  | bool (value : Bool)
  | int (value : Int)
  | float (value : JsonFloat)
  | str (text : PyStr)
  | arr (items : List Json)
  | obj (members : List (PyStr × Json))

/-- `members[key] = value`: members stay in key order, one for each key. -/
def setMember (key : PyStr) (value : Json) : List (PyStr × Json) → List (PyStr × Json)
  | [] => [(key, value)]
  | (k, v) :: rest =>
    if before key k then (key, value) :: (k, v) :: rest
    else if key = k then (key, value) :: rest
    else (k, v) :: setMember key value rest

/-- `dict(pairs)`. -/
def dictOf (pairs : List (PyStr × Json)) : List (PyStr × Json) :=
  pairs.foldl (fun members p => setMember p.1 p.2 members) []

def KeysRise (members : List (PyStr × Json)) : Prop := members.Pairwise (fun a b => before a.1 b.1)

mutual
/-- Every object inside a value keeps its members in key order. -/
def Ordered : Json → Prop
  | .arr items => OrderedItems items
  | .obj members => KeysRise members ∧ OrderedMembers members
  | _ => True
def OrderedItems : List Json → Prop
  | [] => True
  | v :: rest => Ordered v ∧ OrderedItems rest
def OrderedMembers : List (PyStr × Json) → Prop
  | [] => True
  | (_, v) :: rest => Ordered v ∧ OrderedMembers rest
end

/-- A Python `dict` with text keys and JSON values. -/
structure Dict where
  members : List (PyStr × Json)
  ordered : Ordered (.obj members)

/-! ## The writer -/

def hexDigit (n : Nat) : Char := Nat.digitChar (n % 16)

/-- One code point inside a string literal: only the quote, the backslash and control
    characters are escaped. -/
def writeCodePoint (c : CodePoint) : PyStr :=
  if c = .char '"' then py "\\\""
  else if c = .char '\\' then py "\\\\"
  else if c = .char '\n' then py "\\n"
  else if c = .char '\r' then py "\\r"
  else if c = .char '\t' then py "\\t"
  else if c = .char '\x0c' then py "\\f"
  else if c = .char '\x08' then py "\\b"
  else if c.toNat < 32 then py "\\u00" ++ [.char (hexDigit (c.toNat / 16)), .char (hexDigit c.toNat)]
  else [c]

def writeString (text : PyStr) : PyStr := .char '"' :: (text.flatMap writeCodePoint ++ [.char '"'])

/-- A decimal integer. -/
def writeInt (n : Int) : PyStr :=
  match n with
  | .ofNat m => (Nat.toDigits 10 m).map .char
  | .negSucc m => .char '-' :: (Nat.toDigits 10 (m + 1)).map .char

def writeFloat : JsonFloat → PyStr
  | .finite text _ => text.map .char
  | .nan => py "NaN"
  | .infinity => py "Infinity"
  | .negInfinity => py "-Infinity"

mutual
/-- The compact text of a value. -/
def write : Json → PyStr
  | .null => py "null"
  | .bool true => py "true"
  | .bool false => py "false"
  | .int n => writeInt n
  | .float x => writeFloat x
  | .str text => writeString text
  | .arr items => .char '[' :: (writeItems items ++ [.char ']'])
  | .obj members => .char '{' :: (writeMembers members ++ [.char '}'])
/-- Items separated by commas. -/
def writeItems : List Json → PyStr
  | [] => []
  | [v] => write v
  | v :: rest => write v ++ .char ',' :: writeItems rest
/-- Members separated by commas. -/
def writeMembers : List (PyStr × Json) → PyStr
  | [] => []
  | [(k, v)] => writeString k ++ .char ':' :: write v
  | (k, v) :: rest => writeString k ++ .char ':' :: (write v ++ .char ',' :: writeMembers rest)
end

/-- `canonical_json`: the members are in key order already. -/
def dumps (v : Json) : PyStr := write v

/-! ## The reader -/

def isWhitespace (c : CodePoint) : Bool :=
  c = .char ' ' || c = .char '\t' || c = .char '\n' || c = .char '\r'

def skipWhitespace (s : PyStr) : PyStr := s.dropWhile isWhitespace

def hexValue (c : CodePoint) : Option Nat :=
  match c with
  | .char c =>
    if c.isDigit then some (c.toNat - 48)
    else if 'a' ≤ c ∧ c ≤ 'f' then some (c.toNat - 87)
    else if 'A' ≤ c ∧ c ≤ 'F' then some (c.toNat - 55)
    else none
  | .surrogate _ => none

/-- Four hexadecimal digits. -/
def readHex : PyStr → Option (Nat × PyStr)
  | a :: b :: c :: d :: rest => do
    let a ← hexValue a
    let b ← hexValue b
    let c ← hexValue c
    let d ← hexValue d
    return (((a * 16 + b) * 16 + c) * 16 + d, rest)
  | _ => none

def readEscape (c : CodePoint) : Option CodePoint :=
  if c = .char '"' ∨ c = .char '\\' ∨ c = .char '/' then some c
  else if c = .char 'n' then some (.char '\n')
  else if c = .char 'r' then some (.char '\r')
  else if c = .char 't' then some (.char '\t')
  else if c = .char 'f' then some (.char '\x0c')
  else if c = .char 'b' then some (.char '\x08')
  else none

/-- A `\u` escape joins the escape of a low surrogate that follows a high one. -/
def readUnicode (s : PyStr) : Option (CodePoint × PyStr) := do
  let (high, rest) ← readHex s
  match rest with
  | .char '\\' :: .char 'u' :: more =>
    match readHex more with
    | some (low, after) =>
      if 0xD800 ≤ high ∧ high < 0xDC00 ∧ 0xDC00 ≤ low ∧ low < 0xE000 then
        return (.ofNat (0x10000 + (high - 0xD800) * 0x400 + (low - 0xDC00)), after)
      else return (.ofNat high, rest)
    | none => return (.ofNat high, rest)
  | _ => return (.ofNat high, rest)

/-- The rest of a string literal, after the opening quote. -/
def readString : Nat → PyStr → Option (PyStr × PyStr)
  | 0, _ => none
  | _ + 1, [] => none
  | n + 1, c :: rest =>
    if c = .char '"' then some ([], rest)
    else if c = .char '\\' then
      match rest with
      | [] => none
      | e :: rest =>
        if e = .char 'u' then do
          let (point, rest) ← readUnicode rest
          let (text, rest) ← readString n rest
          return (point :: text, rest)
        else do
          let point ← readEscape e
          let (text, rest) ← readString n rest
          return (point :: text, rest)
    else if c.toNat < 32 then none
    else do
      let (text, rest) ← readString n rest
      return (c :: text, rest)

/-- The characters at the front that a number can contain. -/
def numberText : PyStr → List Char × PyStr
  | .char c :: rest => if isNumberChar c then ((numberText rest).map (c :: ·) id) else ([], .char c :: rest)
  | s => ([], s)

/-- A number: an integer, or a finite float. -/
def readNumber (s : PyStr) : Option (Json × PyStr) :=
  let (text, rest) := numberText s
  let unsigned := if text.head? == some '-' then text.tail else text
  if isWhole unsigned then
    let n := Nat.ofDigitChars 10 unsigned 0
    some (.int (if text.head? == some '-' then -(n : Int) else n), rest)
  else if valid : isFloatText text then some (.float (.finite text valid), rest)
  else none

def constants : List (PyStr × Json) :=
  [(py "null", .null), (py "true", .bool true), (py "false", .bool false), (py "NaN", .float .nan),
    (py "Infinity", .float .infinity), (py "-Infinity", .float .negInfinity)]

def readConstant (s : PyStr) : Option (Json × PyStr) :=
  constants.findSome? (fun p => if p.1 <+: s then some (p.2, s.drop p.1.length) else none)

mutual
/-- A value at the front, with fuel for the nesting and the lengths. -/
def readValue : Nat → PyStr → Option (Json × PyStr)
  | 0, _ => none
  | n + 1, s =>
    match skipWhitespace s with
    | [] => none
    | c :: rest =>
      if c = .char '"' then (readString (rest.length + 1) rest).map (fun p => (.str p.1, p.2))
      else if c = .char '[' then
        match skipWhitespace rest with
        | [] => none
        | d :: after => if d = .char ']' then some (.arr [], after) else readItems n (d :: after) []
      else if c = .char '{' then
        match skipWhitespace rest with
        | [] => none
        | d :: after => if d = .char '}' then some (.obj [], after) else readMembers n (d :: after) []
      else (readConstant (c :: rest)).or (readNumber (c :: rest))
/-- Items up to the closing bracket; the items read so far are in reverse. -/
def readItems : Nat → PyStr → List Json → Option (Json × PyStr)
  | 0, _, _ => none
  | n + 1, s, done =>
    match readValue n s with
    | none => none
    | some (v, rest) =>
      match skipWhitespace rest with
      | [] => none
      | c :: after =>
        if c = .char ']' then some (.arr (v :: done).reverse, after)
        else if c = .char ',' then readItems n after (v :: done)
        else none
/-- Members up to the closing brace; the pairs read so far are in reverse. -/
def readMembers : Nat → PyStr → List (PyStr × Json) → Option (Json × PyStr)
  | 0, _, _ => none
  | n + 1, s, done =>
    match skipWhitespace s with
    | [] => none
    | q :: s =>
      if q ≠ .char '"' then none
      else
        match readString (s.length + 1) s with
        | none => none
        | some (k, rest) =>
          match skipWhitespace rest with
          | [] => none
          | colon :: rest =>
            if colon ≠ .char ':' then none
            else
              match readValue n rest with
              | none => none
              | some (v, rest) =>
                match skipWhitespace rest with
                | [] => none
                | c :: after =>
                  if c = .char '}' then some (.obj (dictOf ((k, v) :: done).reverse), after)
                  else if c = .char ',' then readMembers n after ((k, v) :: done)
                  else none
end

/-- `json.loads`. -/
def loads (s : PyStr) : Option Json :=
  match readValue (s.length + 1) s with
  | some (v, rest) => if skipWhitespace rest = [] then some v else none
  | none => none

/-! ## Reading what was written -/

theorem hexValue_hexDigit : ∀ n, n < 16 → hexValue (.char (hexDigit n)) = some n := by decide

theorem readHex_control {n : Nat} (small : n < 32) (rest : PyStr) :
    readHex (.char '0' :: .char '0' :: .char (hexDigit (n / 16)) :: .char (hexDigit n) :: rest) = some (n, rest) := by
  have high := hexValue_hexDigit (n / 16) (by omega)
  have low := hexValue_hexDigit (n % 16) (by omega)
  have same : hexDigit (n % 16) = hexDigit n := by simp [hexDigit]
  rw [same] at low
  have zero : hexValue (.char '0') = some 0 := by decide
  simp only [readHex, zero, high, low, Option.bind_eq_bind, Option.bind_some]
  congr 2
  omega

theorem ofNat_toNat_small {c : CodePoint} (small : c.toNat < 32) : CodePoint.ofNat c.toNat = c := by
  cases c with
  | char c =>
    simp only [CodePoint.toNat] at small ⊢
    have scalar : ¬(0xD800 ≤ c.toNat ∧ c.toNat < 0xE000) := by omega
    have valid : c.toNat.isValidChar := .inl (by omega)
    simp only [CodePoint.ofNat, scalar, valid, dif_neg, not_false_eq_true, if_true, Char.ofNat_toNat]
  | surrogate k =>
    simp only [CodePoint.toNat] at small
    omega

theorem readUnicode_control {c : CodePoint} (small : c.toNat < 32) (rest : PyStr) :
    readUnicode (.char '0' :: .char '0' :: .char (hexDigit (c.toNat / 16)) :: .char (hexDigit c.toNat) :: rest) =
      some (c, rest) := by
  have apart : ¬(0xD800 ≤ c.toNat ∧ c.toNat < 0xDC00) := by omega
  simp only [readUnicode, readHex_control small, Option.bind_eq_bind, Option.bind_some]
  split
  · split
    · rename_i low _ _
      have single : ¬(0xD800 ≤ c.toNat ∧ c.toNat < 0xDC00 ∧ 0xDC00 ≤ low ∧ low < 0xE000) := by omega
      simp [single, ofNat_toNat_small small]
    · simp [ofNat_toNat_small small]
  · simp [ofNat_toNat_small small]

theorem readString_writeCodePoint (n : Nat) (c : CodePoint) (rest : PyStr) :
    readString (n + 1) (writeCodePoint c ++ rest) = (readString n rest).map (fun p => (c :: p.1, p.2)) := by
  unfold writeCodePoint
  split_ifs with quote slash newline ret tab feed back control
  -- The seven escapes of one letter.
  iterate 7
    · subst_vars
      simp [readString, py, readEscape, Option.map_eq_bind]
  · have unicode := readUnicode_control control rest
    simp [readString, py, unicode, Option.map_eq_bind]
  · simp [control, readString, quote, slash, Option.map_eq_bind]

theorem writeCodePoint_length (c : CodePoint) : 1 ≤ (writeCodePoint c).length := by
  unfold writeCodePoint
  split_ifs <;> simp [py]

theorem readString_write (text rest : PyStr) (n : Nat) (fuel : text.length < n) :
    readString n (text.flatMap writeCodePoint ++ .char '"' :: rest) = some (text, rest) := by
  induction text generalizing n with
  | nil =>
    obtain ⟨n, rfl⟩ : ∃ m, n = m + 1 := ⟨n - 1, by simp at fuel; omega⟩
    simp [readString]
  | cons c text ih =>
    obtain ⟨n, rfl⟩ : ∃ m, n = m + 1 := ⟨n - 1, by simp at fuel; omega⟩
    have enough : text.length < n := by simpa using fuel
    rw [List.flatMap_cons, List.append_assoc, readString_writeCodePoint, ih n enough]
    rfl

theorem length_flatMap_write (text : PyStr) : text.length ≤ (text.flatMap writeCodePoint).length := by
  induction text with
  | nil => simp
  | cons c text ih =>
    have := writeCodePoint_length c
    simp only [List.flatMap_cons, List.length_append, List.length_cons]
    omega

/-! ### Numbers -/

/-- What can follow a value: nothing, a comma or a closing bracket. -/
def Stops (rest : PyStr) : Prop := ∀ c more, rest = c :: more → c = .char ',' ∨ c = .char ']' ∨ c = .char '}'

theorem stops_nil : Stops [] := by
  intro c more bad
  cases bad

theorem stops_cons {c : CodePoint} (stop : c = .char ',' ∨ c = .char ']' ∨ c = .char '}') (more : PyStr) :
    Stops (c :: more) := by
  rintro d rest ⟨⟩
  exact stop

theorem numberText_append {text : List Char} (number : text.all isNumberChar) {rest : PyStr} (stops : Stops rest) :
    numberText (text.map .char ++ rest) = (text, rest) := by
  induction text with
  | nil =>
    cases rest with
    | nil => rfl
    | cons c more =>
      rcases stops c more rfl with rfl | rfl | rfl <;> simp [numberText, isNumberChar]
  | cons c text ih =>
    simp only [List.all_cons, Bool.and_eq_true] at number
    simp [numberText, number.1, ih number.2]

theorem isNumberChar_of_isDigit {c : Char} (digit : c.isDigit) : isNumberChar c := by simp [isNumberChar, digit]

theorem toDigits_all (m : Nat) : (Nat.toDigits 10 m).all Char.isDigit := by
  rw [List.all_eq_true]
  intro c member
  exact Nat.isDigit_of_mem_toDigits (by decide) (by decide) member

/-- No superfluous zero leads a decimal number. -/
theorem toDigits_head (m : Nat) : (Nat.toDigits 10 m).head? ≠ some '0' ∨ (Nat.toDigits 10 m).length = 1 := by
  induction m using Nat.strong_induction_on with
  | _ m ih =>
    by_cases small : m < 10
    · right
      rw [Nat.toDigits_of_lt_base small]
      rfl
    · left
      rw [Nat.toDigits_of_base_le (by decide) (by omega)]
      have above : 0 < m / 10 := by omega
      rcases ih (m / 10) (by omega) with head | single
      · rw [List.head?_append_of_ne_nil _ Nat.toDigits_ne_nil]
        exact head
      · have digit : m / 10 < 10 := by
          by_contra large
          have := (Nat.length_toDigits_le_iff (n := m / 10) (b := 10) (k := 1) (by decide) (by decide)).mp (by omega)
          omega
        rw [Nat.toDigits_of_lt_base digit]
        simp only [List.singleton_append, List.head?_cons, ne_eq, Option.some.injEq]
        intro zero
        interval_cases h : m / 10 <;> simp_all [Nat.digitChar]

theorem isWhole_toDigits (m : Nat) : isWhole (Nat.toDigits 10 m) := by
  have head := toDigits_head m
  have nonempty : (Nat.toDigits 10 m).isEmpty = false := by
    rw [List.isEmpty_eq_false_iff]
    exact Nat.toDigits_ne_nil
  simp only [isWhole, nonempty, toDigits_all, Bool.not_false, Bool.true_and, Bool.or_eq_true, bne_iff_ne, beq_iff_eq]
  exact head

theorem digit_ne {c : Char} (digit : c.isDigit) :
    c ≠ '-' ∧ c ≠ '"' ∧ c ≠ '[' ∧ c ≠ '{' ∧ c ≠ 'n' ∧ c ≠ 't' ∧ c ≠ 'f' ∧ c ≠ 'N' ∧ c ≠ 'I' ∧ c ≠ ' ' ∧ c ≠ '\t' ∧
      c ≠ '\n' ∧ c ≠ '\r' := by
  refine ⟨?_, ?_, ?_, ?_, ?_, ?_, ?_, ?_, ?_, ?_, ?_, ?_, ?_⟩ <;> (rintro rfl; revert digit; decide)

/-- A sign or nothing, then a digit. -/
def StartsNumber (text : List Char) : Prop :=
  ∃ c more, c.isDigit ∧ (text = c :: more ∨ text = '-' :: c :: more)

theorem isWhole_starts {text : List Char} (whole : isWhole text) : ∃ c more, c.isDigit ∧ text = c :: more := by
  cases text with
  | nil => simp [isWhole] at whole
  | cons c more =>
    simp only [isWhole, List.all_cons, Bool.and_eq_true] at whole
    exact ⟨c, more, whole.1.2.1, rfl⟩

theorem readConstant_number {text : List Char} (starts : StartsNumber text) (rest : PyStr) :
    readConstant (text.map .char ++ rest) = none := by
  obtain ⟨c, more, digit, rfl | rfl⟩ := starts
  · obtain ⟨dash, -, -, -, n, t, f, N, I, -⟩ := digit_ne digit
    simp [readConstant, constants, py, Ne.symm dash, Ne.symm n, Ne.symm t, Ne.symm f, Ne.symm N, Ne.symm I]
  · obtain ⟨-, -, -, -, -, -, -, -, I, -⟩ := digit_ne digit
    simp [readConstant, constants, py, Ne.symm I]

theorem isFloatText_spec {text : List Char} (valid : isFloatText text) :
    StartsNumber text ∧ text.all isNumberChar ∧
      isWhole (if text.head? == some '-' then text.tail else text) = false := by
  simp only [isFloatText, Bool.and_eq_true] at valid
  obtain ⟨⟨⟨⟨whole, more⟩, -⟩, -⟩, number⟩ := valid
  refine ⟨?_, number, ?_⟩
  · obtain ⟨c, tail, digit, split⟩ := isWhole_starts whole
    have front : ∀ s : List Char, s.takeWhile Char.isDigit = c :: tail → ∃ t, s = c :: t := by
      intro s taken
      cases s with
      | nil => simp at taken
      | cons d s =>
        rw [List.takeWhile_cons] at taken
        split at taken
        · exact ⟨s, by rw [(List.cons.inj taken).1]⟩
        · cases taken
    obtain ⟨t, unsigned⟩ := front _ split
    by_cases dash : text.head? == some '-'
    · rw [if_pos dash] at unsigned
      cases text with
      | nil => simp at dash
      | cons d s =>
        have sign : d = '-' := by simpa using dash
        exact ⟨c, t, digit, .inr (by rw [sign]; simpa using unsigned)⟩
    · rw [if_neg dash] at unsigned
      exact ⟨c, t, digit, .inl unsigned⟩
  · by_contra decimal
    have digits : (if text.head? == some '-' then text.tail else text).all Char.isDigit := by
      simp only [Bool.not_eq_false] at decimal
      simp only [isWhole, Bool.and_eq_true] at decimal
      exact decimal.1.2
    have none : (if text.head? == some '-' then text.tail else text).dropWhile Char.isDigit = [] := by
      rw [List.dropWhile_eq_nil_iff]
      exact fun c member => List.all_eq_true.mp digits c member
    rw [none] at more
    simp at more

theorem writeInt_starts (n : Int) : ∃ text, StartsNumber text ∧ writeInt n = text.map .char := by
  cases n with
  | ofNat m =>
    obtain ⟨c, more, digit, split⟩ := isWhole_starts (isWhole_toDigits m)
    exact ⟨_, ⟨c, more, digit, .inl split⟩, rfl⟩
  | negSucc m =>
    obtain ⟨c, more, digit, split⟩ := isWhole_starts (isWhole_toDigits (m + 1))
    exact ⟨'-' :: Nat.toDigits 10 (m + 1), ⟨c, more, digit, .inr (by rw [split])⟩, rfl⟩

theorem readNumber_writeInt (n : Int) {rest : PyStr} (stops : Stops rest) :
    readNumber (writeInt n ++ rest) = some (.int n, rest) := by
  have all : ∀ m, (Nat.toDigits 10 m).all isNumberChar := by
    intro m
    rw [List.all_eq_true]
    exact fun c member => isNumberChar_of_isDigit (List.all_eq_true.mp (toDigits_all m) c member)
  cases n with
  | ofNat m =>
    have unsigned : (Nat.toDigits 10 m).head? ≠ some '-' := by
      obtain ⟨c, more, digit, split⟩ := isWhole_starts (isWhole_toDigits m)
      rw [split]
      simpa using (digit_ne digit).1
    simp only [readNumber, writeInt, numberText_append (all m) stops, beq_iff_eq, unsigned, if_false,
      isWhole_toDigits, if_true, Nat.ofDigitChars_ten_toDigits]
    rfl
  | negSucc m =>
    have number : ('-' :: Nat.toDigits 10 (m + 1)).all isNumberChar := by
      rw [List.all_cons, all, Bool.and_true]
      decide
    have scanned : numberText (writeInt (.negSucc m) ++ rest) = ('-' :: Nat.toDigits 10 (m + 1), rest) :=
      numberText_append number stops
    simp only [readNumber, scanned, List.head?_cons, beq_self_eq_true, if_true, List.tail_cons, isWhole_toDigits,
      Nat.ofDigitChars_ten_toDigits]
    rfl

theorem readNumber_writeFloat {text : List Char} (valid : isFloatText text) {rest : PyStr} (stops : Stops rest) :
    readNumber (text.map .char ++ rest) = some (.float (.finite text valid), rest) := by
  obtain ⟨-, number, fraction⟩ := isFloatText_spec valid
  simp only [readNumber, numberText_append number stops, fraction, Bool.false_eq_true, if_false, valid, dif_pos]

/-! ### Values -/

theorem setMember_last {members : List (PyStr × Json)} {key : PyStr} {value : Json}
    (last : ∀ p ∈ members, before p.1 key) : setMember key value members = members ++ [(key, value)] := by
  induction members with
  | nil => rfl
  | cons p rest ih =>
    obtain ⟨k, v⟩ := p
    have above : before k key := last (k, v) (by simp)
    have notBelow : before key k = false := by
      by_contra below
      have loop := before_trans above (by simpa using below)
      rw [before_irrefl] at loop
      cases loop
    have apart : key ≠ k := by
      rintro rfl
      rw [before_irrefl] at above
      cases above
    simp only [setMember, notBelow, Bool.false_eq_true, if_false, apart, List.cons_append]
    rw [ih (fun p member => last p (by simp [member]))]

theorem dictOf_rising {members : List (PyStr × Json)} (rise : KeysRise members) : dictOf members = members := by
  have grow : ∀ done, KeysRise (done ++ members) →
      members.foldl (fun ms p => setMember p.1 p.2 ms) done = done ++ members := by
    clear rise
    induction members with
    | nil => intro done _; simp
    | cons p rest ih =>
      intro done rise
      obtain ⟨-, -, cross⟩ := List.pairwise_append.mp rise
      rw [List.foldl_cons, setMember_last (fun q member => cross q member p (by simp))]
      rw [ih _ (by simpa using rise)]
      simp
  exact grow [] rise

mutual
/-- The fuel that reading a written value takes. -/
def fuel : Json → Nat
  | .arr items => 1 + fuelItems items
  | .obj members => 1 + fuelMembers members
  | _ => 1
def fuelItems : List Json → Nat
  | [] => 0
  | v :: rest => 1 + fuel v + fuelItems rest
def fuelMembers : List (PyStr × Json) → Nat
  | [] => 0
  | (_, v) :: rest => 1 + fuel v + fuelMembers rest
end

/-- The first code point of a written value is no whitespace and no closing bracket. -/
def StartsValue (s : PyStr) : Prop :=
  ∃ c rest, s = c :: rest ∧ isWhitespace c = false ∧ c ≠ .char ']' ∧ c ≠ .char '}'

theorem startsValue_append {s : PyStr} (starts : StartsValue s) (rest : PyStr) : StartsValue (s ++ rest) := by
  obtain ⟨c, more, rfl, solid⟩ := starts
  exact ⟨c, more ++ rest, rfl, solid⟩

theorem startsValue_number {text : List Char} (starts : StartsNumber text) : StartsValue (text.map .char) := by
  obtain ⟨c, more, digit, rfl | rfl⟩ := starts
  · obtain ⟨-, -, -, -, -, -, -, -, -, space, tab, newline, ret⟩ := digit_ne digit
    refine ⟨.char c, more.map .char, rfl, by simp [isWhitespace, space, tab, newline, ret], ?_, ?_⟩ <;>
      (simp only [ne_eq, CodePoint.char.injEq]; rintro rfl; revert digit; decide)
  · exact ⟨.char '-', .char c :: more.map .char, rfl, by decide, by decide, by decide⟩

theorem write_starts (v : Json) : StartsValue (write v) := by
  cases v with
  | null => exact ⟨_, _, rfl, by decide, by decide, by decide⟩
  | bool b => cases b <;> exact ⟨_, _, rfl, by decide, by decide, by decide⟩
  | int n =>
    obtain ⟨text, starts, same⟩ := writeInt_starts n
    rw [write, same]
    exact startsValue_number starts
  | float x =>
    cases x with
    | finite text valid => exact startsValue_number (isFloatText_spec valid).1
    | nan | infinity | negInfinity => exact ⟨_, _, rfl, by decide, by decide, by decide⟩
  | str text => exact ⟨_, _, rfl, by decide, by decide, by decide⟩
  | arr items => exact ⟨_, _, rfl, by decide, by decide, by decide⟩
  | obj members => exact ⟨_, _, rfl, by decide, by decide, by decide⟩

theorem skipWhitespace_cons {c : CodePoint} (solid : isWhitespace c = false) (rest : PyStr) :
    skipWhitespace (c :: rest) = c :: rest := by
  simp [skipWhitespace, solid]

theorem readConstant_write (p : PyStr × Json) (member : p ∈ constants) (rest : PyStr) :
    readConstant (p.1 ++ rest) = some (p.2, rest) := by
  simp only [constants, List.mem_cons, List.not_mem_nil, or_false] at member
  rcases member with rfl | rfl | rfl | rfl | rfl | rfl <;> simp [readConstant, constants, py]

/-- A value that starts with none of the three openings is a constant or a number. -/
theorem readValue_plain {n : Nat} {c : CodePoint} {rest : PyStr} (solid : isWhitespace c = false)
    (quote : c ≠ .char '"') (bracket : c ≠ .char '[') (brace : c ≠ .char '{') :
    readValue (n + 1) (c :: rest) = (readConstant (c :: rest)).or (readNumber (c :: rest)) := by
  simp [readValue, skipWhitespace_cons solid, quote, bracket, brace]

theorem constant_starts (p : PyStr × Json) (member : p ∈ constants) :
    ∃ c more, p.1 = c :: more ∧ isWhitespace c = false ∧ c ≠ .char '"' ∧ c ≠ .char '[' ∧ c ≠ .char '{' := by
  simp only [constants, List.mem_cons, List.not_mem_nil, or_false] at member
  rcases member with rfl | rfl | rfl | rfl | rfl | rfl <;>
    exact ⟨_, _, rfl, by decide, by decide, by decide, by decide⟩

theorem readValue_constant {p : PyStr × Json} (member : p ∈ constants) (n : Nat) (rest : PyStr) :
    readValue (n + 1) (p.1 ++ rest) = some (p.2, rest) := by
  have read := readConstant_write p member rest
  obtain ⟨c, more, text, solid, quote, bracket, brace⟩ := constant_starts p member
  rw [text] at read ⊢
  rw [List.cons_append] at read ⊢
  rw [readValue_plain solid quote bracket brace, read]
  rfl

theorem readValue_number {text : List Char} (starts : StartsNumber text) (n : Nat) (rest : PyStr) :
    readValue (n + 1) (text.map .char ++ rest) = readNumber (text.map .char ++ rest) := by
  have constant := readConstant_number starts rest
  obtain ⟨c, more, digit, rfl | rfl⟩ := starts
  · obtain ⟨-, quote, bracket, brace, -, -, -, -, -, space, tab, newline, ret⟩ := digit_ne digit
    simp only [List.map_cons, List.cons_append] at constant ⊢
    rw [readValue_plain (by simp [isWhitespace, space, tab, newline, ret]) (by simpa using quote)
      (by simpa using bracket) (by simpa using brace), constant]
    rfl
  · simp only [List.map_cons, List.cons_append] at constant ⊢
    rw [readValue_plain (by decide) (by decide) (by decide) (by decide), constant]
    rfl

theorem writeMembers_starts (p : PyStr × Json) (members : List (PyStr × Json)) :
    ∃ more, writeMembers (p :: members) = .char '"' :: more := by
  cases members with
  | nil => exact ⟨_, rfl⟩
  | cons q members => exact ⟨_, rfl⟩

/-! ### Spellings -/

/-- A way to spell the code points of a written value: ASCII as it is, and a literal of a text
    of some kind so that it is read back. -/
structure Spelling (spell : CodePoint → PyStr) (kind : PyStr → Prop) : Prop where
  ascii : ∀ c : CodePoint, c.toNat < 127 → spell c = [c]
  room : ∀ text : PyStr, text.length ≤ ((text.flatMap writeCodePoint).flatMap spell).length
  read : ∀ (text rest : PyStr) (n : Nat), kind text → text.length < n →
    readString n ((text.flatMap writeCodePoint).flatMap spell ++ .char '"' :: rest) = some (text, rest)

mutual
/-- Every text and key inside a value is of a kind. -/
def Texts (kind : PyStr → Prop) : Json → Prop
  | .str text => kind text
  | .arr items => TextsItems kind items
  | .obj members => TextsMembers kind members
  | _ => True
def TextsItems (kind : PyStr → Prop) : List Json → Prop
  | [] => True
  | v :: rest => Texts kind v ∧ TextsItems kind rest
def TextsMembers (kind : PyStr → Prop) : List (PyStr × Json) → Prop
  | [] => True
  | (k, v) :: rest => kind k ∧ Texts kind v ∧ TextsMembers kind rest
end

section
variable {spell : CodePoint → PyStr} {kind : PyStr → Prop}

theorem Spelling.plain (spelling : Spelling spell kind) {s : PyStr} (ascii : ∀ c ∈ s, c.toNat < 127) : s.flatMap spell = s := by
  induction s with
  | nil => rfl
  | cons c rest ih =>
    rw [List.flatMap_cons, spelling.ascii c (ascii c (by simp)), ih fun d member => ascii d (by simp [member])]
    rfl

theorem Spelling.cons (spelling : Spelling spell kind) {c : CodePoint} (ascii : c.toNat < 127) (s : PyStr) :
    (c :: s).flatMap spell = c :: s.flatMap spell := by
  rw [List.flatMap_cons, spelling.ascii c ascii]
  rfl

theorem isNumberChar_ascii {c : Char} (number : isNumberChar c = true) : c.toNat < 127 := by
  simp only [isNumberChar, Bool.or_eq_true, beq_iff_eq] at number
  rcases number with ((((digit | rfl) | rfl) | rfl) | rfl) | rfl
  · exact (Char.isDigit_iff_toNat.mp digit).2.trans_lt (by decide)
  all_goals decide

theorem Spelling.number (spelling : Spelling spell kind) {text : List Char} (number : text.all isNumberChar) :
    (text.map CodePoint.char).flatMap spell = text.map .char := by
  refine spelling.plain fun c member => ?_
  obtain ⟨d, inside, rfl⟩ := List.mem_map.mp member
  exact isNumberChar_ascii (List.all_eq_true.mp number d inside)

theorem writeInt_number (n : Int) : ∃ text : List Char, text.all isNumberChar ∧ writeInt n = text.map .char := by
  have all (m : Nat) : (Nat.toDigits 10 m).all isNumberChar := by
    rw [List.all_eq_true]
    exact fun c member => isNumberChar_of_isDigit (List.all_eq_true.mp (toDigits_all m) c member)
  cases n with
  | ofNat m => exact ⟨_, all m, rfl⟩
  | negSucc m =>
    refine ⟨'-' :: Nat.toDigits 10 (m + 1), ?_, rfl⟩
    rw [List.all_cons, all, Bool.and_true]
    decide

theorem Spelling.int (spelling : Spelling spell kind) (n : Int) : (writeInt n).flatMap spell = writeInt n := by
  obtain ⟨text, number, same⟩ := writeInt_number n
  rw [same, spelling.number number]

theorem Spelling.constant (spelling : Spelling spell kind) {p : PyStr × Json} (member : p ∈ constants) : p.1.flatMap spell = p.1 := by
  refine spelling.plain ?_
  simp only [constants, List.mem_cons, List.not_mem_nil, or_false] at member
  rcases member with rfl | rfl | rfl | rfl | rfl | rfl <;> decide

theorem write_ascii (v : Json) : ∃ c rest, write v = c :: rest ∧ c.toNat < 127 := by
  cases v with
  | null => exact ⟨_, _, rfl, by decide⟩
  | bool b => cases b <;> exact ⟨_, _, rfl, by decide⟩
  | int n =>
    obtain ⟨text, number, same⟩ := writeInt_number n
    obtain ⟨c, more, starts, -⟩ := write_starts (.int n)
    refine ⟨c, more, starts, ?_⟩
    rw [write, same] at starts
    cases text with
    | nil => cases starts
    | cons d text =>
      cases starts
      exact isNumberChar_ascii (Bool.and_eq_true_iff.mp number).1
  | float x =>
    cases x with
    | finite text valid =>
      obtain ⟨c, more, starts, -⟩ := write_starts (.float (.finite text valid))
      refine ⟨c, more, starts, ?_⟩
      have number := (isFloatText_spec valid).2.1
      rw [write, writeFloat] at starts
      cases text with
      | nil => cases starts
      | cons d text =>
        cases starts
        exact isNumberChar_ascii (Bool.and_eq_true_iff.mp number).1
    | nan | infinity | negInfinity => exact ⟨_, _, rfl, by decide⟩
  | str text => exact ⟨_, _, rfl, by decide⟩
  | arr items => exact ⟨_, _, rfl, by decide⟩
  | obj members => exact ⟨_, _, rfl, by decide⟩

theorem Spelling.starts (spelling : Spelling spell kind) (v : Json) : StartsValue ((write v).flatMap spell) := by
  obtain ⟨c, rest, same, ascii⟩ := write_ascii v
  obtain ⟨d, more, same', solid⟩ := write_starts v
  cases same.symm.trans same'
  exact ⟨c, rest.flatMap spell, by rw [same, spelling.cons ascii], solid⟩

theorem Spelling.items_start (spelling : Spelling spell kind) (v : Json) (items : List Json) :
    StartsValue ((writeItems (v :: items)).flatMap spell) := by
  cases items with
  | nil => exact spelling.starts v
  | cons w items =>
    rw [writeItems.eq_3 _ _ (by simp), List.flatMap_append]
    exact startsValue_append (spelling.starts v) _

theorem Spelling.members_start (spelling : Spelling spell kind) (p : PyStr × Json) (members : List (PyStr × Json)) :
    ∃ more, (writeMembers (p :: members)).flatMap spell = .char '"' :: more := by
  obtain ⟨more, starts⟩ := writeMembers_starts p members
  exact ⟨more.flatMap spell, by rw [starts, spelling.cons (by decide)]⟩

mutual
theorem readValue_spelled (spelling : Spelling spell kind) (v : Json) (ordered : Ordered v) (texts : Texts kind v) (n : Nat)
    (enough : fuel v ≤ n) {rest : PyStr} (stops : Stops rest) : readValue n ((write v).flatMap spell ++ rest) = some (v, rest) := by
  obtain ⟨n, rfl⟩ : ∃ m, n = m + 1 := ⟨n - 1, by cases v <;> simp only [fuel] at enough <;> omega⟩
  have constant (p : PyStr × Json) (member : p ∈ constants) : readValue (n + 1) (p.1.flatMap spell ++ rest) = some (p.2, rest) := by
    rw [spelling.constant member]
    exact readValue_constant member n rest
  cases v with
  | null => exact constant (py "null", .null) (by simp [constants])
  | bool b =>
    cases b with
    | true => exact constant (py "true", .bool true) (by simp [constants])
    | false => exact constant (py "false", .bool false) (by simp [constants])
  | int i =>
    have read := readNumber_writeInt i stops
    obtain ⟨text, starts, same⟩ := writeInt_starts i
    rw [write, spelling.int, ← read, same]
    exact readValue_number starts n rest
  | float x =>
    cases x with
    | finite text valid =>
      rw [write, writeFloat, spelling.number (isFloatText_spec valid).2.1, readValue_number (isFloatText_spec valid).1,
        readNumber_writeFloat valid stops]
    | nan => exact constant (py "NaN", .float .nan) (by simp [constants])
    | infinity => exact constant (py "Infinity", .float .infinity) (by simp [constants])
    | negInfinity => exact constant (py "-Infinity", .float .negInfinity) (by simp [constants])
  | str text =>
    have room : text.length < ((text.flatMap writeCodePoint).flatMap spell ++ .char '"' :: rest).length + 1 := by
      have := spelling.room text
      simp only [List.length_append, List.length_cons]
      omega
    have read := spelling.read text rest _ texts room
    have opening : (write (.str text)).flatMap spell ++ rest =
        .char '"' :: ((text.flatMap writeCodePoint).flatMap spell ++ .char '"' :: rest) := by
      have closing : List.flatMap spell [.char '"'] = [.char '"'] := spelling.cons (by decide) []
      simp only [write, writeString]
      rw [spelling.cons (by decide), List.flatMap_append, closing]
      simp
    rw [opening, readValue, skipWhitespace_cons (by decide)]
    simp only [if_true, read, Option.map_some]
  | arr items =>
    have opening : (write (.arr items)).flatMap spell ++ rest = .char '[' :: ((writeItems items).flatMap spell ++ .char ']' :: rest) := by
      have closing : List.flatMap spell [.char ']'] = [.char ']'] := spelling.cons (by decide) []
      rw [write, spelling.cons (by decide), List.flatMap_append, closing]
      simp
    rw [opening, readValue, skipWhitespace_cons (by decide)]
    cases items with
    | nil => simp [writeItems, skipWhitespace_cons (c := .char ']') (by decide)]
    | cons v items =>
      obtain ⟨c, more, starts, solid, bracket, -⟩ := spelling.items_start v items
      have read := readItems_spelled spelling v items (by simpa [Ordered] using ordered) (by simpa only [Texts] using texts) n
        (by simp only [fuel] at enough; omega) [] rest
      rw [starts] at read ⊢
      rw [List.cons_append] at read ⊢
      simp only [skipWhitespace_cons solid, bracket, if_false]
      simpa using read
  | obj members =>
    have opening : (write (.obj members)).flatMap spell ++ rest =
        .char '{' :: ((writeMembers members).flatMap spell ++ .char '}' :: rest) := by
      have closing : List.flatMap spell [.char '}'] = [.char '}'] := spelling.cons (by decide) []
      rw [write, spelling.cons (by decide), List.flatMap_append, closing]
      simp
    rw [opening, readValue, skipWhitespace_cons (by decide)]
    cases members with
    | nil => simp [writeMembers, skipWhitespace_cons (c := .char '}') (by decide)]
    | cons p members =>
      simp only [Ordered] at ordered
      have read := readMembers_spelled spelling p members ordered.2 (by simpa only [Texts] using texts) n
        (by simp only [fuel] at enough; omega) [] rest (by simpa using ordered.1)
      obtain ⟨more, starts⟩ := spelling.members_start p members
      rw [starts] at read ⊢
      rw [List.cons_append] at read ⊢
      have solid : isWhitespace (.char '"') = false := by decide
      simpa [skipWhitespace_cons solid] using read
termination_by n
theorem readItems_spelled (spelling : Spelling spell kind) (v : Json) (items : List Json) (ordered : OrderedItems (v :: items))
    (texts : TextsItems kind (v :: items)) (n : Nat) (enough : fuelItems (v :: items) ≤ n) (done : List Json) (rest : PyStr) :
    readItems n ((writeItems (v :: items)).flatMap spell ++ .char ']' :: rest) done =
      some (.arr (done.reverse ++ v :: items), rest) := by
  obtain ⟨n, rfl⟩ : ∃ m, n = m + 1 := ⟨n - 1, by simp only [fuelItems] at enough; omega⟩
  simp only [fuelItems, OrderedItems, TextsItems] at enough ordered texts
  cases items with
  | nil =>
    have read := readValue_spelled spelling v ordered.1 texts.1 n (by omega) (stops_cons (c := .char ']') (by simp) rest)
    simp [readItems, writeItems, read, skipWhitespace_cons (c := .char ']') (by decide)]
  | cons w items =>
    have read := readValue_spelled spelling v ordered.1 texts.1 n (by omega)
      (stops_cons (c := .char ',') (by simp) ((writeItems (w :: items)).flatMap spell ++ .char ']' :: rest))
    have next := readItems_spelled spelling w items ordered.2 texts.2 n (by omega) (v :: done) rest
    have opening : (writeItems (v :: w :: items)).flatMap spell ++ .char ']' :: rest =
        (write v).flatMap spell ++ .char ',' :: ((writeItems (w :: items)).flatMap spell ++ .char ']' :: rest) := by
      rw [writeItems.eq_3 _ _ (by simp), List.flatMap_append, spelling.cons (by decide)]
      simp
    rw [opening, readItems, read]
    simp [skipWhitespace_cons (c := .char ',') (by decide), next]
termination_by n
theorem readMembers_spelled (spelling : Spelling spell kind) (p : PyStr × Json) (members : List (PyStr × Json))
    (ordered : OrderedMembers (p :: members)) (texts : TextsMembers kind (p :: members)) (n : Nat)
    (enough : fuelMembers (p :: members) ≤ n) (done : List (PyStr × Json)) (rest : PyStr)
    (rise : KeysRise (done.reverse ++ p :: members)) :
    readMembers n ((writeMembers (p :: members)).flatMap spell ++ .char '}' :: rest) done =
      some (.obj (done.reverse ++ p :: members), rest) := by
  obtain ⟨k, v⟩ := p
  obtain ⟨n, rfl⟩ : ∃ m, n = m + 1 := ⟨n - 1, by simp only [fuelMembers] at enough; omega⟩
  simp only [fuelMembers, OrderedMembers, TextsMembers] at enough ordered texts
  have key : ∀ after : PyStr, readString (((k.flatMap writeCodePoint).flatMap spell ++ .char '"' :: after).length + 1)
      ((k.flatMap writeCodePoint).flatMap spell ++ .char '"' :: after) = some (k, after) := by
    intro after
    refine spelling.read k after _ texts.1 ?_
    have := spelling.room k
    simp only [List.length_append, List.length_cons]
    omega
  have literal (after : PyStr) : (writeString k).flatMap spell ++ after =
      .char '"' :: ((k.flatMap writeCodePoint).flatMap spell ++ .char '"' :: after) := by
    have closing : List.flatMap spell [.char '"'] = [.char '"'] := spelling.cons (by decide) []
    rw [writeString, spelling.cons (by decide), List.flatMap_append, closing]
    simp
  have quote : isWhitespace (.char '"') = false := by decide
  have colon : isWhitespace (.char ':') = false := by decide
  cases members with
  | nil =>
    have read := readValue_spelled spelling v ordered.1 texts.2.1 n (by omega) (stops_cons (c := .char '}') (by simp) rest)
    have opening : (writeMembers [(k, v)]).flatMap spell ++ .char '}' :: rest = .char '"' :: ((k.flatMap writeCodePoint).flatMap spell ++
        .char '"' :: .char ':' :: ((write v).flatMap spell ++ .char '}' :: rest)) := by
      rw [writeMembers, List.flatMap_append, spelling.cons (by decide), List.append_assoc, literal]
      simp
    rw [opening, readMembers, skipWhitespace_cons quote]
    simp only [key, skipWhitespace_cons colon, read, skipWhitespace_cons (c := .char '}') (by decide)]
    simp [dictOf_rising rise]
  | cons q members =>
    have read := readValue_spelled spelling v ordered.1 texts.2.1 n (by omega)
      (stops_cons (c := .char ',') (by simp) ((writeMembers (q :: members)).flatMap spell ++ .char '}' :: rest))
    have next := readMembers_spelled spelling q members ordered.2 texts.2.2 n (by omega) ((k, v) :: done) rest
      (by simpa using rise)
    have opening : (writeMembers ((k, v) :: q :: members)).flatMap spell ++ .char '}' :: rest = .char '"' ::
        ((k.flatMap writeCodePoint).flatMap spell ++ .char '"' :: .char ':' ::
          ((write v).flatMap spell ++ .char ',' :: ((writeMembers (q :: members)).flatMap spell ++ .char '}' :: rest))) := by
      rw [writeMembers.eq_3 _ _ _ (by simp), List.flatMap_append, spelling.cons (by decide), List.flatMap_append, spelling.cons (by decide),
        List.append_assoc, literal]
      simp
    rw [opening, readMembers, skipWhitespace_cons quote]
    simp only [key, skipWhitespace_cons colon, read, skipWhitespace_cons (c := .char ',') (by decide), next]
    simp
termination_by n
end

end

/-- Every code point as it is. -/
theorem plain_spelling : Spelling (fun c => [c]) (fun _ => True) := by
  have same (s : PyStr) : s.flatMap (fun c => [c]) = s := by simp
  exact ⟨fun _ _ => rfl, fun text => by rw [same]; exact length_flatMap_write text,
    fun text rest n _ fuel => by rw [same]; exact readString_write text rest n fuel⟩

mutual
theorem texts_true (v : Json) : Texts (fun _ => True) v := by
  cases v with
  | arr items => exact textsItems_true items
  | obj members => exact textsMembers_true members
  | _ => trivial
theorem textsItems_true (items : List Json) : TextsItems (fun _ => True) items := by
  match items with
  | [] => trivial
  | v :: rest => exact ⟨texts_true v, textsItems_true rest⟩
theorem textsMembers_true (members : List (PyStr × Json)) : TextsMembers (fun _ => True) members := by
  match members with
  | [] => trivial
  | (_, v) :: rest => exact ⟨trivial, texts_true v, textsMembers_true rest⟩
end

theorem readValue_write (v : Json) (ordered : Ordered v) (n : Nat) (enough : fuel v ≤ n) {rest : PyStr}
    (stops : Stops rest) : readValue n (write v ++ rest) = some (v, rest) := by
  have read := readValue_spelled plain_spelling v ordered (texts_true v) n enough stops
  simpa using read

mutual
theorem fuel_le (v : Json) : fuel v ≤ (write v).length := by
  obtain ⟨c, more, text, -⟩ := write_starts v
  cases v with
  | arr items =>
    have := fuelItems_le items
    simp only [fuel, write, List.length_cons, List.length_append, List.length_nil]
    omega
  | obj members =>
    have := fuelMembers_le members
    simp only [fuel, write, List.length_cons, List.length_append, List.length_nil]
    omega
  | _ => simp [text, fuel]
theorem fuelItems_le (items : List Json) : fuelItems items ≤ (writeItems items).length + 1 := by
  match items with
  | [] => simp [fuelItems]
  | [v] =>
    have := fuel_le v
    simp only [fuelItems, writeItems]
    omega
  | v :: w :: items =>
    have := fuel_le v
    have := fuelItems_le (w :: items)
    rw [fuelItems, writeItems.eq_3 _ _ (by simp)]
    simp only [List.length_append, List.length_cons]
    omega
theorem fuelMembers_le (members : List (PyStr × Json)) : fuelMembers members ≤ (writeMembers members).length := by
  match members with
  | [] => simp [fuelMembers]
  | [(k, v)] =>
    have := fuel_le v
    simp only [fuelMembers, writeMembers, List.length_append, List.length_cons]
    omega
  | (k, v) :: q :: members =>
    have := fuel_le v
    have := fuelMembers_le (q :: members)
    rw [fuelMembers, writeMembers.eq_3 _ _ _ (by simp)]
    simp only [List.length_append, List.length_cons]
    omega
end

theorem loads_spelled {spell : CodePoint → PyStr} {kind : PyStr → Prop} (spelling : Spelling spell kind) {v : Json}
    (ordered : Ordered v) (texts : Texts kind v) (enough : fuel v ≤ ((dumps v).flatMap spell).length) :
    loads ((dumps v).flatMap spell) = some v := by
  have read := readValue_spelled spelling v ordered texts (((dumps v).flatMap spell).length + 1) (by omega) stops_nil
  simp only [List.append_nil] at read
  simp only [dumps] at read ⊢
  rw [loads, read]
  rfl

/-- Reading a written value gives it back. -/
theorem loads_dumps {v : Json} (ordered : Ordered v) : loads (dumps v) = some v := by
  have enough := fuel_le v
  have read := readValue_write v ordered ((dumps v).length + 1) (by simp only [dumps]; omega) stops_nil
  simp only [List.append_nil] at read
  simp [loads, dumps] at read ⊢
  simp [read, skipWhitespace]

/-! ## Texts that UTF-8 holds -/

mutual
/-- No text inside a value has a lone surrogate. -/
def Encodes : Json → Prop
  | .str text => encodable text
  | .arr items => EncodesItems items
  | .obj members => EncodesMembers members
  | _ => True
def EncodesItems : List Json → Prop
  | [] => True
  | v :: rest => Encodes v ∧ EncodesItems rest
def EncodesMembers : List (PyStr × Json) → Prop
  | [] => True
  | (k, v) :: rest => encodable k ∧ Encodes v ∧ EncodesMembers rest
end

theorem encodable_append (s t : PyStr) : encodable (s ++ t) = (encodable s && encodable t) := List.all_append

theorem encodable_cons (c : Char) (s : PyStr) : encodable (.char c :: s) = encodable s := rfl

theorem encodable_chars (text : List Char) : encodable (text.map .char) := by simp [encodable]

theorem encodable_writeCodePoint (c : CodePoint) : encodable (writeCodePoint c) = encodable [c] := by
  cases c with
  | char c =>
    unfold writeCodePoint
    have nothing : encodable [] = true := rfl
    split_ifs <;> simp [nothing, encodable_append, encodable_cons]
  | surrogate k =>
    have large : ¬(CodePoint.surrogate k).toNat < 32 := by simp only [CodePoint.toNat]; omega
    simp [writeCodePoint, large]

theorem encodable_writeString (text : PyStr) : encodable (writeString text) = encodable text := by
  rw [writeString, encodable_cons, encodable_append]
  induction text with
  | nil => rfl
  | cons c rest ih =>
    have one : encodable (c :: rest) = (encodable [c] && encodable rest) := encodable_append [c] rest
    rw [List.flatMap_cons, encodable_append, encodable_writeCodePoint, one, ← ih, Bool.and_assoc]

mutual
theorem encodable_write (v : Json) : encodable (write v) ↔ Encodes v := by
  cases v with
  | null => simp [write, Encodes]
  | int n => cases n <;> simp [write, writeInt, Encodes, encodable_cons, encodable_chars]
  | float x => cases x <;> simp [write, writeFloat, Encodes, encodable_chars]
  | bool value => cases value <;> simp [write, Encodes]
  | str text => rw [write, encodable_writeString]; rfl
  | arr items =>
    rw [write, encodable_cons, encodable_append, Encodes, ← encodable_writeItems]
    simp [encodable]
  | obj members =>
    rw [write, encodable_cons, encodable_append, Encodes, ← encodable_writeMembers]
    simp [encodable]
theorem encodable_writeItems (items : List Json) : encodable (writeItems items) ↔ EncodesItems items := by
  match items with
  | [] => simp [writeItems, EncodesItems, encodable]
  | [v] => rw [writeItems, encodable_write v]; simp [EncodesItems]
  | v :: w :: items =>
    rw [writeItems.eq_3 _ _ (by simp), encodable_append, Bool.and_eq_true, encodable_write v, encodable_cons,
      encodable_writeItems (w :: items)]
    rfl
theorem encodable_writeMembers (members : List (PyStr × Json)) : encodable (writeMembers members) ↔ EncodesMembers members := by
  match members with
  | [] => simp [writeMembers, EncodesMembers, encodable]
  | [(k, v)] =>
    rw [writeMembers, encodable_append, Bool.and_eq_true, encodable_writeString, encodable_cons, encodable_write v]
    simp [EncodesMembers]
  | (k, v) :: q :: members =>
    rw [writeMembers.eq_3 _ _ _ (by simp), encodable_append, Bool.and_eq_true, encodable_writeString, encodable_cons, encodable_append,
      Bool.and_eq_true, encodable_write v, encodable_cons, encodable_writeMembers (q :: members)]
    rfl
end

theorem encodesItems_iff {items : List Json} : EncodesItems items ↔ ∀ v ∈ items, Encodes v := by
  induction items with
  | nil => simp [EncodesItems]
  | cons v rest ih => simp [EncodesItems, ih]

end Creeper.JsonText
