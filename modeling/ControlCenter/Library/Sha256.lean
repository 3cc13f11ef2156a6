import Mathlib.Data.List.Basic
import Mathlib.Data.Set.Function

/-!
# SHA-256 and lower-case hexadecimal

The hash of FIPS 180-4 on lists of bytes, and the hexadecimal text of a digest. The
hash is written as a fold over whole blocks. The message schedule is a window of
sixteen words that each round shifts by one, so no round reads an index.

Nothing is proved about collisions. A result that needs two inputs to have different
digests takes `CollisionFree` on the inputs it is about. The hexadecimal text loses
nothing (`hexEncode_injective`), so equal texts are equal digests.
-/

set_option autoImplicit false

namespace ControlCenter.Library

/-- A sequence of bytes. -/
abbrev Bytes := List UInt8

namespace Sha256

/-- The eight chaining words. -/
structure Chain where
  a : UInt32
  b : UInt32
  c : UInt32
  d : UInt32
  e : UInt32
  f : UInt32
  g : UInt32
  h : UInt32
  deriving DecidableEq

/-- The first thirty-two bits of the fractional parts of the cube roots of the first
sixty-four primes. -/
def roundConstants : List UInt32 := [
  0x428a2f98, 0x71374491, 0xb5c0fbcf, 0xe9b5dba5, 0x3956c25b, 0x59f111f1, 0x923f82a4, 0xab1c5ed5,
  0xd807aa98, 0x12835b01, 0x243185be, 0x550c7dc3, 0x72be5d74, 0x80deb1fe, 0x9bdc06a7, 0xc19bf174,
  0xe49b69c1, 0xefbe4786, 0x0fc19dc6, 0x240ca1cc, 0x2de92c6f, 0x4a7484aa, 0x5cb0a9dc, 0x76f988da,
  0x983e5152, 0xa831c66d, 0xb00327c8, 0xbf597fc7, 0xc6e00bf3, 0xd5a79147, 0x06ca6351, 0x14292967,
  0x27b70a85, 0x2e1b2138, 0x4d2c6dfc, 0x53380d13, 0x650a7354, 0x766a0abb, 0x81c2c92e, 0x92722c85,
  0xa2bfe8a1, 0xa81a664b, 0xc24b8b70, 0xc76c51a3, 0xd192e819, 0xd6990624, 0xf40e3585, 0x106aa070,
  0x19a4c116, 0x1e376c08, 0x2748774c, 0x34b0bcb5, 0x391c0cb3, 0x4ed8aa4a, 0x5b9cca4f, 0x682e6ff3,
  0x748f82ee, 0x78a5636f, 0x84c87814, 0x8cc70208, 0x90befffa, 0xa4506ceb, 0xbef9a3f7, 0xc67178f2]

/-- The first thirty-two bits of the fractional parts of the square roots of the first
eight primes. -/
def initialChain : Chain :=
  ⟨0x6a09e667, 0xbb67ae85, 0x3c6ef372, 0xa54ff53a, 0x510e527f, 0x9b05688c, 0x1f83d9ab, 0x5be0cd19⟩

def rotateRight (x n : UInt32) : UInt32 := (x >>> n) ||| (x <<< (32 - n))

/-- One round, on the sum of its constant and its schedule word. -/
def round (s : Chain) (input : UInt32) : Chain :=
  let sum1 := rotateRight s.e 6 ^^^ rotateRight s.e 11 ^^^ rotateRight s.e 25
  let choice := (s.e &&& s.f) ^^^ (~~~s.e &&& s.g)
  let t1 := s.h + sum1 + choice + input
  let sum0 := rotateRight s.a 2 ^^^ rotateRight s.a 13 ^^^ rotateRight s.a 22
  let majority := (s.a &&& s.b) ^^^ (s.a &&& s.c) ^^^ (s.b &&& s.c)
  ⟨t1 + (sum0 + majority), s.a, s.b, s.c, s.d + t1, s.e, s.f, s.g⟩

/-- The word that enters the schedule after the sixteen words of the window. -/
def scheduleWord (window : List UInt32) : UInt32 :=
  let w15 := window.getD 1 0
  let w2 := window.getD 14 0
  let sigma0 := rotateRight w15 7 ^^^ rotateRight w15 18 ^^^ (w15 >>> 3)
  let sigma1 := rotateRight w2 17 ^^^ rotateRight w2 19 ^^^ (w2 >>> 10)
  window.getD 0 0 + sigma0 + window.getD 9 0 + sigma1

/-- The rounds of one block: each consumes a constant and shifts the window. -/
def rounds : List UInt32 → List UInt32 → Chain → Chain
  | [], _, s => s
  | k :: ks, window, s =>
      rounds ks (window.drop 1 ++ [scheduleWord window]) (round s (k + window.getD 0 0))

/-- The block function: the rounds, added to the chain they started from. -/
def compress (s : Chain) (block : List UInt32) : Chain :=
  let t := rounds roundConstants block s
  ⟨s.a + t.a, s.b + t.b, s.c + t.c, s.d + t.d, s.e + t.e, s.f + t.f, s.g + t.g, s.h + t.h⟩

/-- Fold the block function over `count` blocks of sixteen words. -/
def compressBlocks : Nat → List UInt32 → Chain → Chain
  | 0, _, s => s
  | count + 1, words, s => compressBlocks count (words.drop 16) (compress s (words.take 16))

/-- Read big-endian words. -/
def bigEndianWords : Bytes → List UInt32
  | b0 :: b1 :: b2 :: b3 :: rest =>
      ((b0.toUInt32 <<< 24) ||| (b1.toUInt32 <<< 16) ||| (b2.toUInt32 <<< 8) ||| b3.toUInt32)
        :: bigEndianWords rest
  | _ => []

def wordBytes (x : UInt32) : Bytes :=
  [(x >>> 24).toUInt8, (x >>> 16).toUInt8, (x >>> 8).toUInt8, x.toUInt8]

/-- The message, a one bit, zeros up to eight bytes short of a block, and the length in
bits. -/
def pad (message : Bytes) : Bytes :=
  let size := message.length
  let zeros := (119 - size % 64) % 64
  let bitLength := (List.range 8).map fun i => UInt8.ofNat ((size * 8) >>> (56 - 8 * i))
  message ++ (0x80 : UInt8) :: (List.replicate zeros (0 : UInt8) ++ bitLength)

end Sha256

/-- The SHA-256 digest of a message. -/
def sha256 (message : Bytes) : Bytes :=
  let words := Sha256.bigEndianWords (Sha256.pad message)
  let s := Sha256.compressBlocks (words.length / 16) words Sha256.initialChain
  [s.a, s.b, s.c, s.d, s.e, s.f, s.g, s.h].flatMap Sha256.wordBytes

/-- No two different messages of the set have one digest. -/
def CollisionFree (messages : Set Bytes) : Prop := Set.InjOn sha256 messages

/-! ## Hexadecimal text -/

def hexByte (b : UInt8) : List Char :=
  [Nat.digitChar (b.toNat / 16), Nat.digitChar (b.toNat % 16)]

/-- Two lower-case hexadecimal digits for each byte. -/
def hexEncode (bytes : Bytes) : String := String.ofList (bytes.flatMap hexByte)

theorem digitChar_inj_of_lt : ∀ m < 16, ∀ n < 16, Nat.digitChar m = Nat.digitChar n → m = n := by
  decide

theorem hexByte_injective : Function.Injective hexByte := by
  intro x y same
  simp only [hexByte, List.cons.injEq, and_true] at same
  have high := digitChar_inj_of_lt _ (by have := x.toNat_lt; omega) _
    (by have := y.toNat_lt; omega) same.1
  have low := digitChar_inj_of_lt _ (by omega) _ (by omega) same.2
  exact UInt8.toNat_inj.mp (by omega)

theorem hexEncode_injective : Function.Injective hexEncode := by
  intro x y same
  replace same : x.flatMap hexByte = y.flatMap hexByte := by
    simpa [hexEncode] using congrArg String.toList same
  induction x generalizing y with
  | nil =>
      cases y with
      | nil => rfl
      | cons b y => simp [hexByte] at same
  | cons a x ih =>
      cases y with
      | nil => simp [hexByte] at same
      | cons b y =>
          rw [List.flatMap_cons, List.flatMap_cons] at same
          obtain ⟨head, tail⟩ := List.append_inj same rfl
          rw [hexByte_injective head, ih tail]

theorem hexEncode_length (bytes : Bytes) : (hexEncode bytes).toList.length = 2 * bytes.length := by
  rw [hexEncode, String.toList_ofList, List.length_flatMap]
  simp [hexByte, Nat.mul_comm]

theorem hexEncode_digits {bytes : Bytes} {c : Char} (member : c ∈ (hexEncode bytes).toList) :
    ∃ n < 16, c = Nat.digitChar n := by
  rw [hexEncode, String.toList_ofList, List.mem_flatMap] at member
  obtain ⟨b, _, digit⟩ := member
  have := b.toNat_lt
  rcases List.mem_cons.mp digit with rfl | digit
  · exact ⟨b.toNat / 16, by omega, rfl⟩
  · exact ⟨b.toNat % 16, by omega, List.mem_singleton.mp digit⟩

/-- The digest in hexadecimal. -/
def sha256Hex (message : Bytes) : String := hexEncode (sha256 message)

theorem sha256_length (message : Bytes) : (sha256 message).length = 32 := by
  simp [sha256, Sha256.wordBytes]

theorem sha256Hex_length (message : Bytes) : (sha256Hex message).toList.length = 64 := by
  rw [sha256Hex, hexEncode_length, sha256_length]

/-- The published digest of the three bytes `abc`. -/
example : sha256Hex [0x61, 0x62, 0x63] =
    "ba7816bf8f01cfea414140de5dae2223b00361a396177a9cb410ff61f20015ad" := by
  decide +kernel

theorem CollisionFree.eq_of_sha256Hex_eq {messages : Set Bytes} (free : CollisionFree messages)
    {x y : Bytes} (hx : x ∈ messages) (hy : y ∈ messages) (same : sha256Hex x = sha256Hex y) :
    x = y :=
  free hx hy (hexEncode_injective same)

end ControlCenter.Library
