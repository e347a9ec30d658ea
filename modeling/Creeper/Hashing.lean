import Creeper.PyText

/-!
# Digests

`hashlib.sha256` over bytes, `hmac.new` with it, and the UTF-8 bytes of a text.
-/

namespace Creeper.Hashing
open Creeper.PyText

/-- The round constants: 32 bits of the cube roots of the first 64 primes. -/
def roundConstants : List UInt32 := [
  0x428a2f98, 0x71374491, 0xb5c0fbcf, 0xe9b5dba5, 0x3956c25b, 0x59f111f1, 0x923f82a4, 0xab1c5ed5,
  0xd807aa98, 0x12835b01, 0x243185be, 0x550c7dc3, 0x72be5d74, 0x80deb1fe, 0x9bdc06a7, 0xc19bf174,
  0xe49b69c1, 0xefbe4786, 0x0fc19dc6, 0x240ca1cc, 0x2de92c6f, 0x4a7484aa, 0x5cb0a9dc, 0x76f988da,
  0x983e5152, 0xa831c66d, 0xb00327c8, 0xbf597fc7, 0xc6e00bf3, 0xd5a79147, 0x06ca6351, 0x14292967,
  0x27b70a85, 0x2e1b2138, 0x4d2c6dfc, 0x53380d13, 0x650a7354, 0x766a0abb, 0x81c2c92e, 0x92722c85,
  0xa2bfe8a1, 0xa81a664b, 0xc24b8b70, 0xc76c51a3, 0xd192e819, 0xd6990624, 0xf40e3585, 0x106aa070,
  0x19a4c116, 0x1e376c08, 0x2748774c, 0x34b0bcb5, 0x391c0cb3, 0x4ed8aa4a, 0x5b9cca4f, 0x682e6ff3,
  0x748f82ee, 0x78a5636f, 0x84c87814, 0x8cc70208, 0x90befffa, 0xa4506ceb, 0xbef9a3f7, 0xc67178f2]

def rotateRight (x n : UInt32) : UInt32 := (x >>> n) ||| (x <<< (32 - n))

/-- The eight working words. -/
structure Words where
  a : UInt32
  b : UInt32
  c : UInt32
  d : UInt32
  e : UInt32
  f : UInt32
  g : UInt32
  h : UInt32

def initialWords : Words :=
  ⟨0x6a09e667, 0xbb67ae85, 0x3c6ef372, 0xa54ff53a, 0x510e527f, 0x9b05688c, 0x1f83d9ab, 0x5be0cd19⟩

/-- One round with a constant and a word of the schedule. -/
def round (s : Words) (input : UInt32 × UInt32) : Words :=
  let s1 := rotateRight s.e 6 ^^^ rotateRight s.e 11 ^^^ rotateRight s.e 25
  let choice := (s.e &&& s.f) ^^^ (~~~s.e &&& s.g)
  let first := s.h + s1 + choice + input.1 + input.2
  let s0 := rotateRight s.a 2 ^^^ rotateRight s.a 13 ^^^ rotateRight s.a 22
  let majority := (s.a &&& s.b) ^^^ (s.a &&& s.c) ^^^ (s.b &&& s.c)
  ⟨first + (s0 + majority), s.a, s.b, s.c, s.d + first, s.e, s.f, s.g⟩

/-- The message schedule, from a window of sixteen words. -/
def schedule : Nat → List UInt32 → List UInt32
  | n + 1, w :: rest =>
    let s0 := rotateRight (rest.getD 0 0) 7 ^^^ rotateRight (rest.getD 0 0) 18 ^^^ (rest.getD 0 0 >>> 3)
    let s1 := rotateRight (rest.getD 13 0) 17 ^^^ rotateRight (rest.getD 13 0) 19 ^^^ (rest.getD 13 0 >>> 10)
    w :: schedule n (rest ++ [w + s0 + rest.getD 8 0 + s1])
  | _, _ => []

def compress (s : Words) (block : List UInt32) : Words :=
  let t := (roundConstants.zip (schedule 64 block)).foldl round s
  ⟨s.a + t.a, s.b + t.b, s.c + t.c, s.d + t.d, s.e + t.e, s.f + t.f, s.g + t.g, s.h + t.h⟩

/-- Big-endian words of a byte string. -/
def wordsOf : List UInt8 → List UInt32
  | a :: b :: c :: d :: rest =>
    (a.toUInt32 <<< 24 ||| b.toUInt32 <<< 16 ||| c.toUInt32 <<< 8 ||| d.toUInt32) :: wordsOf rest
  | _ => []

/-- A number as big-endian bytes. -/
def bigEndian (size n : Nat) : List UInt8 :=
  (List.range size).map (fun i => UInt8.ofNat (n >>> (8 * (size - 1 - i))))

/-- The message, a one bit, zeros, and the bit length, in whole blocks. -/
def padded (message : List UInt8) : List UInt8 :=
  message ++ 0x80 :: (List.replicate ((119 - message.length % 64) % 64) 0 ++ bigEndian 8 (8 * message.length))

def blocks : Nat → List UInt32 → List (List UInt32)
  | n + 1, w :: words => (w :: words).take 16 :: blocks n ((w :: words).drop 16)
  | _, _ => []

/-- `hashlib.sha256(message).digest()`. -/
@[irreducible] def sha256 (message : List UInt8) : List UInt8 :=
  let words := wordsOf (padded message)
  let s := (blocks words.length words).foldl compress initialWords
  [s.a, s.b, s.c, s.d, s.e, s.f, s.g, s.h].flatMap (fun word => bigEndian 4 word.toNat)

/-- `digest.hex()`. -/
def hex (digest : List UInt8) : String :=
  String.ofList (digest.flatMap (fun b => [Nat.digitChar (b.toNat / 16), Nat.digitChar (b.toNat % 16)]))

/-- `hashlib.sha256(message).hexdigest()`. -/
def sha256Hex (message : List UInt8) : String := hex (sha256 message)

/-- `hmac.new(secret, message, hashlib.sha256).hexdigest()`. -/
def hmacHex (secret message : List UInt8) : String :=
  let short := if 64 < secret.length then sha256 secret else secret
  let key := short ++ List.replicate (64 - short.length) 0
  hex (sha256 (key.map (· ^^^ 0x5c) ++ sha256 (key.map (· ^^^ 0x36) ++ message)))

/-- `text.encode("utf-8")`; a lone surrogate is an error. -/
def encodeUtf8 : PyStr → Option (List UInt8)
  | [] => some []
  | .char c :: rest => (encodeUtf8 rest).map (String.utf8EncodeChar c ++ ·)
  | .surrogate _ :: _ => none

/-- The UTF-8 bytes of text without surrogates. -/
def utf8 (text : String) : List UInt8 := text.toList.flatMap String.utf8EncodeChar

theorem encodeUtf8_isSome (text : PyStr) : (encodeUtf8 text).isSome = encodable text := by
  induction text with
  | nil => rfl
  | cons c rest ih =>
    cases c with
    | char c => simpa [encodeUtf8, encodable] using ih
    | surrogate k => simp [encodeUtf8, encodable]

/-- The published digest of `abc`. -/
example : sha256Hex (utf8 "abc") = "ba7816bf8f01cfea414140de5dae2223b00361a396177a9cb410ff61f20015ad" := by
  decide +kernel

end Creeper.Hashing
