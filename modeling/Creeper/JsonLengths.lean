import Creeper.JsonText

/-!
# The length of a JSON text

The compact writer wastes nothing: the text of a value that was read is no longer than the text
that it was read from.
-/

namespace Creeper.JsonLengths
open Creeper.PyText Creeper.JsonText

/-! ## Objects -/

/-- The characters of a member with the character behind it. -/
def memberLength (p : PyStr × Json) : Nat := (writeString p.1).length + (write p.2).length + 2

/-- The characters of all members, each with the character behind it. -/
def membersLength (members : List (PyStr × Json)) : Nat := (members.map memberLength).sum

/-- The characters of all items, each with the character behind it. -/
def itemsLength (items : List Json) : Nat := (items.map fun v => (write v).length + 1).sum

theorem membersLength_cons (p : PyStr × Json) (members : List (PyStr × Json)) :
    membersLength (p :: members) = memberLength p + membersLength members := rfl

theorem itemsLength_cons (v : Json) (items : List Json) : itemsLength (v :: items) = (write v).length + 1 + itemsLength items := rfl

theorem writeMembers_length (p : PyStr × Json) (members : List (PyStr × Json)) :
    (writeMembers (p :: members)).length + 1 = membersLength (p :: members) := by
  induction members generalizing p with
  | nil =>
    simp only [writeMembers, membersLength, memberLength, List.length_append, List.length_cons, List.map_cons, List.map_nil, List.sum_cons,
      List.sum_nil]
    omega
  | cons q rest ih =>
    have later := ih q
    rw [membersLength_cons, ← later, memberLength, writeMembers.eq_3 _ _ _ (by simp)]
    simp only [List.length_append, List.length_cons]
    omega

theorem writeItems_length (v : Json) (items : List Json) : (writeItems (v :: items)).length + 1 = itemsLength (v :: items) := by
  induction items generalizing v with
  | nil => simp [writeItems, itemsLength]
  | cons w rest ih =>
    have later := ih w
    rw [itemsLength_cons, ← later, writeItems.eq_3 _ _ (by simp)]
    simp only [List.length_append, List.length_cons]
    omega

theorem write_object (p : PyStr × Json) (members : List (PyStr × Json)) :
    (write (.obj (p :: members))).length = membersLength (p :: members) + 1 := by
  have inner := writeMembers_length p members
  simp only [write, List.length_cons, List.length_append, List.length_nil]
  omega

theorem write_array (v : Json) (items : List Json) : (write (.arr (v :: items))).length = itemsLength (v :: items) + 1 := by
  have inner := writeItems_length v items
  simp only [write, List.length_cons, List.length_append, List.length_nil]
  omega

/-- A member of a new name makes an object longer by the member, one of an old name takes its place. -/
theorem setMember_length (key : PyStr) (value : Json) (members : List (PyStr × Json)) :
    membersLength (setMember key value members) ≤ memberLength (key, value) + membersLength members ∧
      (members.find? (·.1 = key) = none → membersLength (setMember key value members) = memberLength (key, value) + membersLength members) := by
  induction members with
  | nil => exact ⟨le_rfl, fun _ => rfl⟩
  | cons p rest ih =>
    obtain ⟨name, v⟩ := p
    unfold setMember
    by_cases first : before key name
    · rw [if_pos first]
      exact ⟨le_rfl, fun _ => rfl⟩
    rw [if_neg first]
    by_cases hit : key = name
    · rw [if_pos hit, membersLength_cons, membersLength_cons]
      exact ⟨by omega, fun absent => by simp [hit] at absent⟩
    · rw [if_neg hit, membersLength_cons, membersLength_cons]
      refine ⟨by omega, fun absent => ?_⟩
      rw [List.find?_cons, decide_eq_false (Ne.symm hit)] at absent
      have later := ih.2 absent
      omega

/-- Repeated names only make an object shorter. -/
theorem dictOf_length (pairs : List (PyStr × Json)) : membersLength (dictOf pairs) ≤ membersLength pairs := by
  have build (members : List (PyStr × Json)) :
      membersLength (pairs.foldl (fun members p => setMember p.1 p.2 members) members) ≤ membersLength members + membersLength pairs := by
    induction pairs generalizing members with
    | nil => exact le_rfl
    | cons p rest ih =>
      have later := ih (setMember p.1 p.2 members)
      have here : _ ≤ memberLength p + _ := (setMember_length p.1 p.2 members).1
      rw [membersLength_cons, List.foldl_cons]
      omega
  have all := build []
  rwa [show membersLength [] = 0 from rfl, Nat.zero_add] at all

/-! ## Texts -/

theorem skipWhitespace_length (s : PyStr) : (skipWhitespace s).length ≤ s.length := (List.dropWhile_suffix _).length_le

theorem writeCodePoint_small (c : CodePoint) : (writeCodePoint c).length ≤ 6 := by
  unfold writeCodePoint
  split_ifs <;> simp [py]

theorem readHex_length {s rest : PyStr} {n : Nat} (read : readHex s = some (n, rest)) : rest.length + 4 = s.length := by
  unfold readHex at read
  split at read
  · rename_i a b c d rest'
    cases first : hexValue a with
    | none => simp [first] at read
    | some a =>
      cases second : hexValue b with
      | none => simp [first, second] at read
      | some b =>
        cases third : hexValue c with
        | none => simp [first, second, third] at read
        | some c =>
          cases fourth : hexValue d with
          | none => simp [first, second, third, fourth] at read
          | some d =>
            simp only [first, second, third, fourth, Option.bind_eq_bind, Option.bind_some, Option.pure_def, Option.some.injEq,
              Prod.mk.injEq] at read
            rw [← read.2]
            rfl
  · cases read

theorem readUnicode_length {s rest : PyStr} {c : CodePoint} (read : readUnicode s = some (c, rest)) : rest.length + 4 ≤ s.length := by
  unfold readUnicode at read
  cases hex : readHex s with
  | none => simp [hex] at read
  | some p =>
    obtain ⟨high, after⟩ := p
    have here := readHex_length hex
    simp only [hex, Option.bind_eq_bind, Option.bind_some] at read
    split at read
    · rename_i more
      split at read
      · rename_i low behind pair
        have there := readHex_length pair
        simp only [List.length_cons] at here
        split_ifs at read
        · simp only [Option.pure_def, Option.some.injEq, Prod.mk.injEq] at read
          rw [← read.2]
          omega
        · simp only [Option.pure_def, Option.some.injEq, Prod.mk.injEq] at read
          rw [← read.2]
          simp only [List.length_cons]
          omega
      · simp only [Option.pure_def, Option.some.injEq, Prod.mk.injEq] at read
        rw [← read.2]
        omega
    · simp only [Option.pure_def, Option.some.injEq, Prod.mk.injEq] at read
      rw [← read.2]
      omega

/-- An escape of one letter is written with two characters at most. -/
theorem readEscape_length {c point : CodePoint} (read : readEscape c = some point) : (writeCodePoint point).length ≤ 2 := by
  unfold readEscape at read
  split_ifs at read with plain
  · obtain rfl := Option.some.inj read
    rcases plain with rfl | rfl | rfl <;> decide
  all_goals
    obtain rfl := Option.some.inj read
    decide

theorem readString_length {n : Nat} {s text rest : PyStr} (read : readString n s = some (text, rest)) :
    (text.flatMap writeCodePoint).length + 1 + rest.length ≤ s.length := by
  induction n generalizing s text with
  | zero => cases read
  | succ n ih =>
    cases s with
    | nil => cases read
    | cons c s =>
      unfold readString at read
      dsimp only at read
      by_cases quote : c = .char '"'
      · rw [if_pos quote] at read
        obtain ⟨rfl, rfl⟩ := Prod.mk.inj (Option.some.inj read)
        simp only [List.flatMap_nil, List.length_nil, List.length_cons]
        omega
      rw [if_neg quote] at read
      by_cases slash : c = .char '\\'
      · rw [if_pos slash] at read
        cases s with
        | nil => cases read
        | cons e s =>
          by_cases unicode : e = .char 'u'
          · simp only [if_pos unicode, Option.bind_eq_bind, Option.bind_eq_some_iff, Option.pure_def, Option.some.injEq, Prod.mk.injEq,
              Prod.exists] at read
            obtain ⟨point, behind, hex, more, after, later, rfl, rfl⟩ := read
            have here := readUnicode_length hex
            have there := ih later
            have small := writeCodePoint_small point
            simp only [List.flatMap_cons, List.length_append, List.length_cons]
            omega
          · simp only [if_neg unicode, Option.bind_eq_bind, Option.bind_eq_some_iff, Option.pure_def, Option.some.injEq, Prod.mk.injEq,
              Prod.exists] at read
            obtain ⟨point, escape, more, after, later, rfl, rfl⟩ := read
            have here := readEscape_length escape
            have there := ih later
            simp only [List.flatMap_cons, List.length_append, List.length_cons]
            omega
      rw [if_neg slash] at read
      by_cases control : c.toNat < 32
      · rw [if_pos control] at read
        cases read
      simp only [if_neg control, Option.bind_eq_bind, Option.bind_eq_some_iff, Option.pure_def, Option.some.injEq, Prod.mk.injEq,
        Prod.exists] at read
      obtain ⟨more, after, later, rfl, rfl⟩ := read
      have there := ih later
      have single : (writeCodePoint c).length = 1 := by
        unfold writeCodePoint
        split_ifs with newline ret tab feed back
        · exact absurd (newline ▸ by decide) control
        · exact absurd (ret ▸ by decide) control
        · exact absurd (tab ▸ by decide) control
        · exact absurd (feed ▸ by decide) control
        · exact absurd (back ▸ by decide) control
        · rfl
      simp only [List.flatMap_cons, List.length_append, List.length_cons]
      omega

/-! ## Numbers -/

theorem numberText_append_rest (s : PyStr) : (numberText s).1.map .char ++ (numberText s).2 = s := by
  fun_induction numberText s with
  | case1 c rest number ih => simpa using ih
  | case2 c rest other => rfl
  | case3 s other => rfl

/-- A number below a power of ten has no more digits than the power. -/
theorem ofDigitChars_lt (digits : List Char) (all : digits.all Char.isDigit) (start : Nat) :
    Nat.ofDigitChars 10 digits start < (start + 1) * 10 ^ digits.length := by
  induction digits generalizing start with
  | nil => simp [Nat.ofDigitChars_nil]
  | cons c rest ih =>
    simp only [List.all_cons, Bool.and_eq_true] at all
    have later := ih all.2 (10 * start + (c.toNat - '0'.toNat))
    rw [Nat.ofDigitChars_cons]
    have digit : c.toNat - '0'.toNat ≤ 9 := by
      have shape := all.1
      simp only [Char.isDigit, Bool.and_eq_true, decide_eq_true_eq] at shape
      have top : c.toNat ≤ 57 := shape.2
      have zero : '0'.toNat = 48 := rfl
      omega
    calc Nat.ofDigitChars 10 rest (10 * start + (c.toNat - '0'.toNat))
        < (10 * start + (c.toNat - '0'.toNat) + 1) * 10 ^ rest.length := later
      _ ≤ ((start + 1) * 10) * 10 ^ rest.length := Nat.mul_le_mul_right _ (by omega)
      _ = (start + 1) * 10 ^ (c :: rest).length := by rw [List.length_cons, pow_succ]; ring

theorem isWhole_digits {digits : List Char} (whole : isWhole digits) : digits ≠ [] ∧ digits.all Char.isDigit := by
  simp only [isWhole, Bool.and_eq_true, Bool.not_eq_true', List.isEmpty_eq_false_iff] at whole
  exact whole.1

theorem toDigits_length {digits : List Char} (whole : isWhole digits) :
    (Nat.toDigits 10 (Nat.ofDigitChars 10 digits 0)).length ≤ digits.length := by
  obtain ⟨some_, all⟩ := isWhole_digits whole
  refine (Nat.length_toDigits_le_iff (by decide) (List.length_pos_iff.mpr some_)).mpr ?_
  simpa using ofDigitChars_lt digits all 0

theorem readNumber_length {s rest : PyStr} {v : Json} (read : readNumber s = some (v, rest)) :
    (write v).length + rest.length ≤ s.length := by
  have split_ := congrArg List.length (numberText_append_rest s)
  rw [List.length_append, List.length_map] at split_
  unfold readNumber at read
  generalize numberText s = scanned at read split_
  obtain ⟨text, behind⟩ := scanned
  dsimp only at read split_
  by_cases negative : text.head? == some '-'
  · rw [if_pos negative, if_pos negative] at read
    split_ifs at read with whole valid
    · obtain ⟨rfl, rfl⟩ := Prod.mk.inj (Option.some.inj read)
      have short := toDigits_length whole
      have tail : text.tail.length + 1 = text.length := by
        cases text with
        | nil => simp at negative
        | cons c text => rfl
      generalize Nat.ofDigitChars 10 text.tail 0 = n at short
      cases n with
      | zero =>
        have one : (write (.int (-((0 : Nat) : Int)))).length = 1 := rfl
        omega
      | succ n =>
        have text_ : write (.int (-((n + 1 : Nat) : Int))) = .char '-' :: (Nat.toDigits 10 (n + 1)).map .char := rfl
        rw [text_, List.length_cons, List.length_map]
        omega
    · obtain ⟨rfl, rfl⟩ := Prod.mk.inj (Option.some.inj read)
      rw [write, writeFloat, List.length_map]
      omega
  · rw [if_neg negative, if_neg negative] at read
    split_ifs at read with whole valid
    · obtain ⟨rfl, rfl⟩ := Prod.mk.inj (Option.some.inj read)
      have short := toDigits_length whole
      have text_ : write (.int (Nat.ofDigitChars 10 text 0 : Nat)) = (Nat.toDigits 10 (Nat.ofDigitChars 10 text 0)).map .char := rfl
      rw [text_, List.length_map]
      omega
    · obtain ⟨rfl, rfl⟩ := Prod.mk.inj (Option.some.inj read)
      rw [write, writeFloat, List.length_map]
      omega

theorem readConstant_length {s rest : PyStr} {v : Json} (read : readConstant s = some (v, rest)) :
    (write v).length + rest.length ≤ s.length := by
  obtain ⟨p, listed, found⟩ := List.exists_of_findSome?_eq_some read
  split_ifs at found with front
  obtain ⟨rfl, rfl⟩ := Prod.mk.inj (Option.some.inj found)
  have same : ∀ p ∈ constants, write p.2 = p.1 := by
    intro p listed
    simp only [constants, List.mem_cons, List.not_mem_nil, or_false] at listed
    rcases listed with rfl | rfl | rfl | rfl | rfl | rfl <;> rfl
  have fits := front.length_le
  rw [same p listed, List.length_drop]
  omega

/-! ## Values -/

mutual
theorem readValue_length {n : Nat} {s rest : PyStr} {v : Json} (read : readValue n s = some (v, rest)) :
    (write v).length + rest.length ≤ s.length := by
  cases n with
  | zero => cases read
  | succ n =>
    have blank := skipWhitespace_length s
    unfold readValue at read
    generalize skipWhitespace s = solid at read blank
    cases solid with
    | nil => cases read
    | cons c more =>
      dsimp only at read
      rw [List.length_cons] at blank
      by_cases quote : c = .char '"'
      · rw [if_pos quote] at read
        obtain ⟨⟨text, behind⟩, inner, same⟩ := Option.map_eq_some_iff.mp read
        obtain ⟨rfl, rfl⟩ := Prod.mk.inj same
        have here := readString_length inner
        simp only [write, writeString, List.length_cons, List.length_append, List.length_nil]
        omega
      rw [if_neg quote] at read
      by_cases bracket : c = .char '['
      · rw [if_pos bracket] at read
        have inside := skipWhitespace_length more
        cases first : skipWhitespace more with
        | nil => simp [first] at read
        | cons d after =>
          rw [first] at read inside
          dsimp only at read
          by_cases empty : d = .char ']'
          · rw [if_pos empty] at read
            obtain ⟨rfl, rfl⟩ := Prod.mk.inj (Option.some.inj read)
            simp only [write, writeItems, List.length_cons, List.length_append, List.length_nil] at inside ⊢
            omega
          · rw [if_neg empty] at read
            obtain ⟨w, items, rfl, short⟩ := readItems_length read
            rw [List.reverse_nil, List.nil_append, write_array]
            omega
      rw [if_neg bracket] at read
      by_cases brace : c = .char '\x7b'
      · rw [if_pos brace] at read
        have inside := skipWhitespace_length more
        cases first : skipWhitespace more with
        | nil => simp [first] at read
        | cons d after =>
          rw [first] at read inside
          dsimp only at read
          by_cases empty : d = .char '\x7d'
          · rw [if_pos empty] at read
            obtain ⟨rfl, rfl⟩ := Prod.mk.inj (Option.some.inj read)
            simp only [write, writeMembers, List.length_cons, List.length_append, List.length_nil] at inside ⊢
            omega
          · rw [if_neg empty] at read
            obtain ⟨p, members, rfl, short⟩ := readMembers_length read
            rw [List.reverse_nil, List.nil_append]
            have repeated := dictOf_length (p :: members)
            cases dict : dictOf (p :: members) with
            | nil =>
              rw [membersLength_cons, memberLength] at short
              simp only [write, writeMembers, List.length_cons, List.length_append, List.length_nil]
              omega
            | cons q others =>
              rw [dict] at repeated
              rw [write_object]
              omega
      rw [if_neg brace] at read
      rcases Option.or_eq_some_iff.mp read with constant | ⟨-, number⟩
      · have here := readConstant_length constant
        rw [List.length_cons] at here
        omega
      · have here := readNumber_length number
        rw [List.length_cons] at here
        omega
termination_by n
theorem readItems_length {n : Nat} {s rest : PyStr} {done : List Json} {v : Json} (read : readItems n s done = some (v, rest)) :
    ∃ w items, v = .arr (done.reverse ++ w :: items) ∧ itemsLength (w :: items) + rest.length ≤ s.length := by
  cases n with
  | zero => cases read
  | succ n =>
    unfold readItems at read
    cases value : readValue n s with
    | none => simp [value] at read
    | some p =>
      obtain ⟨w, behind⟩ := p
      have here := readValue_length value
      have blank := skipWhitespace_length behind
      rw [value] at read
      dsimp only at read
      cases next : skipWhitespace behind with
      | nil => simp [next] at read
      | cons c after =>
        rw [next, List.length_cons] at blank
        rw [next] at read
        dsimp only at read
        by_cases close : c = .char ']'
        · rw [if_pos close] at read
          obtain ⟨rfl, rfl⟩ := Prod.mk.inj (Option.some.inj read)
          refine ⟨w, [], by rw [List.reverse_cons], ?_⟩
          rw [itemsLength_cons, show itemsLength [] = 0 from rfl]
          omega
        rw [if_neg close] at read
        by_cases comma : c = .char ','
        · rw [if_pos comma] at read
          obtain ⟨w', items, rfl, short⟩ := readItems_length read
          refine ⟨w, w' :: items, by rw [List.reverse_cons, List.append_assoc]; rfl, ?_⟩
          rw [itemsLength_cons]
          omega
        · rw [if_neg comma] at read
          cases read
termination_by n
theorem readMembers_length {n : Nat} {s rest : PyStr} {done : List (PyStr × Json)} {v : Json}
    (read : readMembers n s done = some (v, rest)) :
    ∃ p members, v = .obj (dictOf (done.reverse ++ p :: members)) ∧ membersLength (p :: members) + rest.length ≤ s.length := by
  cases n with
  | zero => cases read
  | succ n =>
    have front := skipWhitespace_length s
    unfold readMembers at read
    cases opening : skipWhitespace s with
    | nil => simp [opening] at read
    | cons q inner =>
      rw [opening] at read front
      dsimp only at read
      by_cases quote : q = .char '"'
      · rw [if_neg (not_not_intro quote)] at read
        cases name : readString (inner.length + 1) inner with
        | none => simp [name] at read
        | some r =>
          obtain ⟨k, behind⟩ := r
          have named := readString_length name
          have gap := skipWhitespace_length behind
          rw [name] at read
          dsimp only at read
          cases separator : skipWhitespace behind with
          | nil => simp [separator] at read
          | cons colon text =>
            rw [separator] at read gap
            dsimp only at read
            by_cases isColon : colon = .char ':'
            · rw [if_neg (not_not_intro isColon)] at read
              cases value : readValue n text with
              | none => simp [value] at read
              | some r =>
                obtain ⟨w, after⟩ := r
                have here := readValue_length value
                have blank := skipWhitespace_length after
                rw [value] at read
                dsimp only at read
                have written : (writeString k).length = (k.flatMap writeCodePoint).length + 2 := by
                  simp only [writeString, List.length_cons, List.length_append, List.length_nil]
                cases next : skipWhitespace after with
                | nil => simp [next] at read
                | cons c more =>
                  rw [next] at read blank
                  dsimp only at read
                  simp only [List.length_cons] at front gap blank
                  by_cases close : c = .char '\x7d'
                  · rw [if_pos close] at read
                    obtain ⟨rfl, rfl⟩ := Prod.mk.inj (Option.some.inj read)
                    refine ⟨(k, w), [], by rw [List.reverse_cons], ?_⟩
                    rw [membersLength_cons, memberLength, show membersLength [] = 0 from rfl]
                    dsimp only
                    omega
                  rw [if_neg close] at read
                  by_cases comma : c = .char ','
                  · rw [if_pos comma] at read
                    obtain ⟨p, members, rfl, short⟩ := readMembers_length read
                    refine ⟨(k, w), p :: members, by rw [List.reverse_cons, List.append_assoc]; rfl, ?_⟩
                    rw [membersLength_cons, memberLength]
                    dsimp only
                    omega
                  · rw [if_neg comma] at read
                    cases read
            · rw [if_pos isColon] at read
              cases read
      · rw [if_pos quote] at read
        cases read
termination_by n
end

/-- What was read is written no longer than it was. -/
theorem loads_length {s : PyStr} {v : Json} (read : loads s = some v) : (dumps v).length ≤ s.length := by
  unfold loads at read
  cases value : readValue (s.length + 1) s with
  | none => simp [value] at read
  | some p =>
    obtain ⟨w, rest⟩ := p
    have here := readValue_length value
    rw [value] at read
    dsimp only at read
    split_ifs at read
    obtain rfl := Option.some.inj read
    rw [dumps]
    omega

end Creeper.JsonLengths
