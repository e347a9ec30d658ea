import Creeper.Hashing

/-!
# Digests on natural numbers

`sha256` computed with numbers below `2 ^ 32` in place of machine words, every
intermediate value forced before it is used. The digest is the same, and it can be
evaluated for many messages.
-/

namespace Creeper.DigestNumbers
open Creeper.Hashing

/-- A function of a number, applied once the number is a literal. -/
def force {α : Type} (n : Nat) (f : Nat → α) : α := Nat.rec (f 0) (fun m _ => f m.succ) n

@[simp] theorem force_eq {α : Type} (n : Nat) (f : Nat → α) : force n f = f n := by
  cases n <;> rfl

/-! ## One block -/

-- The operations stand under their own names: the kernel evaluates them at once.
def add (x y : Nat) : Nat := Nat.mod (Nat.add x y) 4294967296

def rotate (x n : Nat) : Nat := Nat.lor (Nat.shiftRight x n) (Nat.mod (Nat.shiftLeft x (Nat.sub 32 n)) 4294967296)

/-- The bitwise sum of three numbers. -/
def sum (x y z : Nat) : Nat := Nat.xor (Nat.xor x y) z

theorem toNat_rotateRight (x n : UInt32) (inside : 0 < n.toNat ∧ n.toNat < 32) :
    (rotateRight x n).toNat = rotate x.toNat n.toNat := by
  have room : (32 - n).toNat = 32 - n.toNat := by
    rw [UInt32.toNat_sub_of_le]
    · rfl
    · rw [UInt32.le_iff_toNat_le]
      exact inside.2.le
  simp only [rotateRight, rotate, UInt32.toNat_or, UInt32.toNat_shiftRight, UInt32.toNat_shiftLeft, room]
  rw [Nat.mod_eq_of_lt inside.2, Nat.mod_eq_of_lt (by omega : 32 - n.toNat < 32)]
  rfl

theorem toNat_add (x y : UInt32) : (x + y).toNat = add x.toNat y.toNat := rfl

theorem toNat_not (x : UInt32) : (~~~x).toNat = 4294967295 - x.toNat := by simp

/-- The rounds of a block, from eight words to eight words; a plain recursor is evaluated fastest. -/
def rounds (inputs : List (Nat × Nat)) : Nat → Nat → Nat → Nat → Nat → Nat → Nat → Nat → List Nat :=
  List.rec (fun a b c d e f g h => [a, b, c, d, e, f, g, h]) (fun input _ next a b c d e f g h =>
    force (add (add (add (add h (sum (rotate e 6) (rotate e 11) (rotate e 25)))
      (Nat.xor (Nat.land e f) (Nat.land (Nat.sub 4294967295 e) g))) input.1) input.2) fun first =>
    force (add d first) fun e' =>
    force (add first (add (sum (rotate a 2) (rotate a 13) (rotate a 22))
      (sum (Nat.land a b) (Nat.land a c) (Nat.land b c)))) fun a' => next a' a b c e' e f g) inputs

def numbers (s : Words) : List Nat :=
  [s.a.toNat, s.b.toNat, s.c.toNat, s.d.toNat, s.e.toNat, s.f.toNat, s.g.toNat, s.h.toNat]

theorem rounds_cons (input : Nat × Nat) (rest : List (Nat × Nat)) (a b c d e f g h : Nat) : rounds (input :: rest) a b c d e f g h =
    let first := add (add (add (add h (sum (rotate e 6) (rotate e 11) (rotate e 25)))
      (Nat.xor (Nat.land e f) (Nat.land (Nat.sub 4294967295 e) g))) input.1) input.2
    rounds rest (add first (add (sum (rotate a 2) (rotate a 13) (rotate a 22)) (sum (Nat.land a b) (Nat.land a c) (Nat.land b c))))
      a b c (add d first) e f g := by
  simp only [rounds, force_eq]

theorem rounds_eq (inputs : List (UInt32 × UInt32)) (s : Words) :
    rounds (inputs.map (fun p => (p.1.toNat, p.2.toNat))) s.a.toNat s.b.toNat s.c.toNat s.d.toNat s.e.toNat s.f.toNat
      s.g.toNat s.h.toNat = numbers (inputs.foldl round s) := by
  induction inputs generalizing s with
  | nil => rfl
  | cons p rest ih =>
    rw [List.foldl_cons, ← ih (Hashing.round s p)]
    simp only [List.map_cons, rounds_cons, Hashing.round, toNat_add, UInt32.toNat_xor, UInt32.toNat_and, toNat_not,
      toNat_rotateRight _ _ (by decide : 0 < (6 : UInt32).toNat ∧ (6 : UInt32).toNat < 32),
      toNat_rotateRight _ _ (by decide : 0 < (11 : UInt32).toNat ∧ (11 : UInt32).toNat < 32),
      toNat_rotateRight _ _ (by decide : 0 < (25 : UInt32).toNat ∧ (25 : UInt32).toNat < 32),
      toNat_rotateRight _ _ (by decide : 0 < (2 : UInt32).toNat ∧ (2 : UInt32).toNat < 32),
      toNat_rotateRight _ _ (by decide : 0 < (13 : UInt32).toNat ∧ (13 : UInt32).toNat < 32),
      toNat_rotateRight _ _ (by decide : 0 < (22 : UInt32).toNat ∧ (22 : UInt32).toNat < 32)]
    rfl

/-- A list of numbers, once they are literals. -/
def forceAll {α : Type} : List Nat → (List Nat → α) → α
  | [], f => f []
  | n :: rest, f => force n fun value => forceAll rest fun values => f (value :: values)

@[simp] theorem forceAll_eq {α : Type} (numbers : List Nat) (f : List Nat → α) : forceAll numbers f = f numbers := by
  induction numbers generalizing f with
  | nil => rfl
  | cons n rest ih => simp [forceAll, ih]

/-- The message schedule, from a window of sixteen words. -/
def window (n : Nat) : Nat → Nat → Nat → Nat → Nat → Nat → Nat → Nat → Nat → Nat → Nat → Nat → Nat → Nat → Nat → Nat → List Nat :=
  Nat.rec (fun _ _ _ _ _ _ _ _ _ _ _ _ _ _ _ _ => []) (fun _ next w0 w1 w2 w3 w4 w5 w6 w7 w8 w9 w10 w11 w12 w13 w14 w15 =>
    force (add (add (add w0 (sum (rotate w1 7) (rotate w1 18) (Nat.shiftRight w1 3))) w9)
      (sum (rotate w14 17) (rotate w14 19) (Nat.shiftRight w14 10))) fun last =>
    w0 :: next w1 w2 w3 w4 w5 w6 w7 w8 w9 w10 w11 w12 w13 w14 w15 last) n

theorem window_eq (n : Nat) (w0 w1 w2 w3 w4 w5 w6 w7 w8 w9 w10 w11 w12 w13 w14 w15 : UInt32) :
    window n w0.toNat w1.toNat w2.toNat w3.toNat w4.toNat w5.toNat w6.toNat w7.toNat
      w8.toNat w9.toNat w10.toNat w11.toNat w12.toNat w13.toNat w14.toNat w15.toNat =
      (Hashing.schedule n [w0, w1, w2, w3, w4, w5, w6, w7, w8, w9, w10, w11, w12, w13, w14, w15]).map UInt32.toNat := by
  induction n generalizing w0 w1 w2 w3 w4 w5 w6 w7 w8 w9 w10 w11 w12 w13 w14 w15 with
  | zero => simp [window, Hashing.schedule]
  | succ n ih =>
    have next := ih w1 w2 w3 w4 w5 w6 w7 w8 w9 w10 w11 w12 w13 w14 w15 (w0 + (rotateRight w1 7 ^^^ rotateRight w1 18 ^^^ (w1 >>> 3)) + w9 +
      (rotateRight w14 17 ^^^ rotateRight w14 19 ^^^ (w14 >>> 10)))
    simp only [toNat_add, UInt32.toNat_xor, UInt32.toNat_shiftRight,
      toNat_rotateRight _ _ (by decide : 0 < (7 : UInt32).toNat ∧ (7 : UInt32).toNat < 32),
      toNat_rotateRight _ _ (by decide : 0 < (18 : UInt32).toNat ∧ (18 : UInt32).toNat < 32),
      toNat_rotateRight _ _ (by decide : 0 < (17 : UInt32).toNat ∧ (17 : UInt32).toNat < 32),
      toNat_rotateRight _ _ (by decide : 0 < (19 : UInt32).toNat ∧ (19 : UInt32).toNat < 32)] at next
    simp only [window, force_eq] at next ⊢
    exact congrArg (w0.toNat :: ·) next

def schedule (n : Nat) : List Nat → List Nat
  | [w0, w1, w2, w3, w4, w5, w6, w7, w8, w9, w10, w11, w12, w13, w14, w15] =>
    window n w0 w1 w2 w3 w4 w5 w6 w7 w8 w9 w10 w11 w12 w13 w14 w15
  | words => (Hashing.schedule n (words.map UInt32.ofNat)).map UInt32.toNat

theorem schedule_eq (n : Nat) (words : List UInt32) :
    schedule n (words.map UInt32.toNat) = (Hashing.schedule n words).map UInt32.toNat := by
  unfold schedule
  split
  · rename_i block
    simp only [List.map_eq_cons_iff, List.map_eq_nil_iff] at block
    obtain ⟨u0, _, rfl, rfl, u1, _, rfl, rfl, u2, _, rfl, rfl, u3, _, rfl, rfl, u4, _, rfl, rfl, u5, _, rfl, rfl, u6, _, rfl, rfl, u7, _, rfl, rfl,
      u8, _, rfl, rfl, u9, _, rfl, rfl, u10, _, rfl, rfl, u11, _, rfl, rfl, u12, _, rfl, rfl, u13, _, rfl, rfl, u14, _, rfl, rfl, u15, _, rfl, rfl, rfl⟩ := block
    exact window_eq n u0 u1 u2 u3 u4 u5 u6 u7 u8 u9 u10 u11 u12 u13 u14 u15
  · rw [List.map_map, show UInt32.ofNat ∘ UInt32.toNat = id from funext fun w => UInt32.ofNat_toNat, List.map_id]

def compress (block : List Nat) : List Nat → List Nat
  | [a, b, c, d, e, f, g, h] =>
    List.zipWith add [a, b, c, d, e, f, g, h]
      (rounds ((roundConstants.map UInt32.toNat).zip (schedule 64 block)) a b c d e f g h)
  | _ => []

theorem compress_eq (s : Words) (block : List UInt32) :
    compress (block.map UInt32.toNat) (numbers s) = numbers (Hashing.compress s block) := by
  have inputs : (roundConstants.map UInt32.toNat).zip (schedule 64 (block.map UInt32.toNat)) =
      (roundConstants.zip (Hashing.schedule 64 block)).map (fun p => (p.1.toNat, p.2.toNat)) := by
    rw [schedule_eq, List.zip_map]
    rfl
  rw [numbers, compress, inputs, rounds_eq]
  rfl

/-! ## Messages -/

/-- Big-endian words of a byte string. -/
def wordsOf : List Nat → List Nat
  | a :: b :: c :: d :: rest => (a <<< 24 ||| b <<< 16 ||| c <<< 8 ||| d) :: wordsOf rest
  | _ => []

theorem toNat_shifted (a : UInt8) (n : UInt32) (inside : n.toNat ≤ 24) :
    (a.toUInt32 <<< n).toNat = a.toNat <<< n.toNat := by
  have small : a.toNat < 2 ^ 8 := a.toNat_lt
  have room : 2 ^ n.toNat ≤ 2 ^ 24 := Nat.pow_le_pow_right (by decide) inside
  rw [UInt32.toNat_shiftLeft, Nat.mod_eq_of_lt (by omega : n.toNat < 32), UInt8.toNat_toUInt32, Nat.shiftLeft_eq]
  refine Nat.mod_eq_of_lt ?_
  calc a.toNat * 2 ^ n.toNat < 2 ^ 8 * 2 ^ n.toNat := Nat.mul_lt_mul_of_pos_right small (by positivity)
    _ ≤ 2 ^ 8 * 2 ^ 24 := Nat.mul_le_mul_left _ room
    _ = 2 ^ 32 := by norm_num

theorem wordsOf_eq (bytes : List UInt8) :
    wordsOf (bytes.map UInt8.toNat) = (Hashing.wordsOf bytes).map UInt32.toNat := by
  induction bytes using Hashing.wordsOf.induct with
  | case1 a b c d rest ih =>
    simp only [List.map_cons, wordsOf, Hashing.wordsOf, ih, UInt32.toNat_or, UInt8.toNat_toUInt32,
      toNat_shifted _ 24 (by decide), toNat_shifted _ 16 (by decide), toNat_shifted _ 8 (by decide)]
    rfl
  | case2 bytes short =>
    match bytes, short with
    | [], _ | [_], _ | [_, _], _ | [_, _, _], _ => rfl
    | a :: b :: c :: d :: rest, short => exact absurd rfl (short a b c d rest)

/-- Sixteen words at a time. -/
def blocks : Nat → List Nat → List (List Nat)
  | n + 1, w :: words => (w :: words).take 16 :: blocks n ((w :: words).drop 16)
  | _, _ => []

theorem blocks_eq (n : Nat) (words : List UInt32) :
    blocks n (words.map UInt32.toNat) = (Hashing.blocks n words).map (·.map UInt32.toNat) := by
  induction n generalizing words with
  | zero => cases words <;> rfl
  | succ n ih =>
    cases words with
    | nil => rfl
    | cons w rest =>
      simp only [List.map_cons, blocks, Hashing.blocks, List.take_succ_cons, List.drop_succ_cons, ← ih, List.map_take,
        List.map_drop]

def padding (length : Nat) : List Nat :=
  128 :: (List.replicate ((119 - length % 64) % 64) 0 ++ (List.range 8).map fun i => (8 * length) >>> (8 * (7 - i)) % 256)

theorem padded_eq (message : List UInt8) :
    (padded message).map UInt8.toNat = message.map UInt8.toNat ++ padding (message.map UInt8.toNat).length := by
  simp [padded, padding, bigEndian, Function.comp_def]

/-- The eight words of the digest of some bytes. -/
def digest (bytes : List Nat) : List Nat :=
  forceAll (bytes ++ padding bytes.length) fun bytes =>
    (blocks (wordsOf bytes).length (wordsOf bytes)).foldl (fun s block => compress block s) (numbers initialWords)

def digits (words : List Nat) : List Char :=
  (words.flatMap (bigEndian 4)).flatMap (fun b => [Nat.digitChar (b.toNat / 16), Nat.digitChar (b.toNat % 16)])

theorem digest_words (message : List UInt8) : ∃ s : Words, digest (message.map UInt8.toNat) = numbers s ∧
    sha256 message = (numbers s).flatMap (bigEndian 4) := by
  have folded : ∀ (bs : List (List UInt32)) (s : Words),
      (bs.map (·.map UInt32.toNat)).foldl (fun s block => compress block s) (numbers s) =
        numbers (bs.foldl Hashing.compress s) := by
    intro bs
    induction bs with
    | nil => exact fun s => rfl
    | cons block rest ih =>
      intro s
      rw [List.map_cons, List.foldl_cons, List.foldl_cons, compress_eq, ih]
  refine ⟨(Hashing.blocks (Hashing.wordsOf (padded message)).length (Hashing.wordsOf (padded message))).foldl Hashing.compress initialWords, ?_, ?_⟩
  · rw [digest, ← padded_eq]
    simp only [forceAll_eq, wordsOf_eq, blocks_eq, List.length_map, folded]
  · rw [sha256]
    rfl

theorem sha256Hex_eq (message : List UInt8) : sha256Hex message = String.ofList (digits (digest (message.map UInt8.toNat))) := by
  obtain ⟨s, words, whole⟩ := digest_words message
  rw [sha256Hex, hex, whole, words, digits]

/-! ## Distinct digests -/

/-- The numbers of `0, …, n - 1` differ from each other and from those whose bits are in a mask. -/
def allDistinct (f : Nat → Nat) : Nat → Nat → Bool
  | 0, _ => true
  | n + 1, seen => force (f n) fun value =>
    Nat.beq (Nat.mod (Nat.shiftRight seen value) 2) 0 && force (Nat.lor seen (Nat.shiftLeft 1 value)) (allDistinct f n)

theorem nodup_of_allDistinct {f : Nat → Nat} {n seen : Nat} (checked : allDistinct f n seen = true) :
    ((List.range n).map f).Nodup ∧ ∀ v ∈ (List.range n).map f, seen.testBit v = false := by
  induction n generalizing seen with
  | zero => simp
  | succ n ih =>
    simp only [allDistinct, force_eq, Bool.and_eq_true] at checked
    obtain ⟨distinct, others⟩ := ih checked.2
    have apart : ∀ v ∈ (List.range n).map f, v ≠ f n ∧ seen.testBit v = false := by
      intro v member
      have unset : (seen ||| 1 <<< f n).testBit v = false := others v member
      rw [Nat.testBit_or, Bool.or_eq_false_iff, Nat.testBit_shiftLeft] at unset
      refine ⟨fun same => ?_, unset.1⟩
      simp [same] at unset
    rw [List.range_succ, List.map_append, List.map_cons, List.map_nil]
    refine ⟨List.nodup_append.mpr ⟨distinct, List.nodup_singleton _, ?_⟩, ?_⟩
    · rintro v member w last
      rw [List.mem_singleton.mp last]
      exact (apart v member).1
    · intro v member
      rcases List.mem_append.mp member with earlier | last
      · exact (apart v earlier).2
      · have even : (seen >>> f n) % 2 = 0 := Nat.eq_of_beq_eq_true checked.1
        rw [List.mem_singleton.mp last, Nat.testBit_eq_decide_div_mod_eq, ← Nat.shiftRight_eq_div_pow, even]
        rfl

/-- The number that eight digits spell. -/
def word (digits : List Char) : Nat := (digits.take 8).foldl (fun n c => 16 * n + if c.toNat < 97 then c.toNat - 48 else c.toNat - 87) 0

theorem word_digits (w : UInt32) (rest : List Nat) : word (digits (w.toNat :: rest)) = w.toNat := by
  have digit : ∀ d < 16, (if (Nat.digitChar d).toNat < 97 then (Nat.digitChar d).toNat - 48 else (Nat.digitChar d).toNat - 87) = d := by
    decide
  have high (b : UInt8) := digit (b.toNat / 16) (by have := b.toNat_lt; omega)
  have low (b : UInt8) := digit (b.toNat % 16) (Nat.mod_lt _ (by decide))
  have small := w.toNat_lt
  simp only [word, digits, List.flatMap_cons, bigEndian, List.range_succ, List.range_zero, List.nil_append, List.cons_append, List.map_cons,
    List.map_nil, List.take_succ_cons, List.take_zero, List.foldl_cons, List.foldl_nil, high, low]
  simp only [UInt8.toNat_ofNat', Nat.shiftRight_eq_div_pow]
  omega

/-- Whether the digests of bytes around the tags of `0, …, n - 1` start with distinct words. -/
def allTagged (first last : List Nat) (tag : Nat → List Nat) (n : Nat) : Bool :=
  forceAll first fun first => forceAll last fun last => allDistinct (fun i => Nat.mod ((digest (first ++ (tag i ++ last))).headD 0) 262144) n 0

/-- Messages whose digests start with distinct words have distinct digests. -/
theorem sha256Hex_nodup {message : Nat → List UInt8} {first last : List Nat} {tag : Nat → List Nat}
    (spelled : ∀ i, (message i).map UInt8.toNat = first ++ (tag i ++ last)) {n : Nat} (checked : allTagged first last tag n = true) :
    ((List.range n).map (fun i => sha256Hex (message i))).Nodup := by
  simp only [allTagged, forceAll_eq] at checked
  refine List.Nodup.of_map (fun text => word text.toList % 262144) ?_
  rw [List.map_map]
  refine Eq.mp (congrArg List.Nodup (List.map_congr_left fun i _ => ?_)) (nodup_of_allDistinct checked).1
  obtain ⟨s, words, -⟩ := digest_words (message i)
  rw [Function.comp_apply, sha256Hex_eq, String.toList_ofList, ← spelled, words]
  exact congrArg (· % 262144) (word_digits s.a _).symm

/-! ## Numbered messages -/

def digitBytes (n : Nat) : List Nat := (Nat.toDigits 10 n).map Char.toNat

theorem encodeUtf8_append (first last : PyText.PyStr) :
    encodeUtf8 (first ++ last) = (encodeUtf8 first).bind fun bytes => (encodeUtf8 last).map (bytes ++ ·) := by
  induction first with
  | nil => simp [encodeUtf8]
  | cons c first ih =>
    cases c with
    | surrogate k => rfl
    | char c =>
      rw [List.cons_append, encodeUtf8, ih, encodeUtf8]
      cases encodeUtf8 first <;> cases encodeUtf8 last <;> simp

theorem digit_byte {c : Char} (digit : c.isDigit = true) : (String.utf8EncodeChar c).map UInt8.toNat = [c.toNat] := by
  have small : c.toNat ≤ 57 := by
    simp only [Char.isDigit, Bool.and_eq_true, decide_eq_true_eq] at digit
    exact digit.2
  have all : ∀ n ∈ List.range 58, (String.utf8EncodeChar (Char.ofNat n)).map UInt8.toNat = [n] := by decide +kernel
  have fact := all c.toNat (List.mem_range.mpr (by omega))
  rwa [Char.ofNat_toNat] at fact

theorem encodeUtf8_digits (n : Nat) :
    ∃ bytes, encodeUtf8 ((Nat.toDigits 10 n).map .char) = some bytes ∧ bytes.map UInt8.toNat = digitBytes n := by
  have each : ∀ c ∈ Nat.toDigits 10 n, c.isDigit = true := fun c member => Nat.isDigit_of_mem_toDigits (by decide) (by decide) member
  unfold digitBytes
  generalize Nat.toDigits 10 n = digits at each
  induction digits with
  | nil => exact ⟨[], rfl, rfl⟩
  | cons c rest ih =>
    obtain ⟨bytes, encoded, same⟩ := ih fun d member => each d (List.mem_cons_of_mem _ member)
    refine ⟨String.utf8EncodeChar c ++ bytes, by rw [List.map_cons, encodeUtf8, encoded]; rfl, ?_⟩
    rw [List.map_append, digit_byte (each c List.mem_cons_self), same]
    rfl

theorem encodeUtf8_py (text : String) : encodeUtf8 (PyText.py text) = some (utf8 text) := by
  unfold PyText.py utf8
  induction text.toList with
  | nil => rfl
  | cons c rest ih => simp [encodeUtf8, ih]

/-- The bytes of an identity, up to a text. -/
def kindBytes (kind front : String) : List Nat := (utf8 kind).map UInt8.toNat ++ 0 :: (utf8 front).map UInt8.toNat

theorem numbered_bytes (kind : String) {front back : String} {n : Nat} {text : PyText.PyStr}
    (split : text = PyText.py front ++ ((Nat.toDigits 10 n).map .char ++ PyText.py back)) :
    (utf8 kind ++ 0 :: (encodeUtf8 text).getD []).map UInt8.toNat =
      kindBytes kind front ++ (digitBytes n ++ (utf8 back).map UInt8.toNat) := by
  obtain ⟨bytes, encoded, same⟩ := encodeUtf8_digits n
  simp [split, encodeUtf8_append, encodeUtf8_py, encoded, same, kindBytes]

end Creeper.DigestNumbers
