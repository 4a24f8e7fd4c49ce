import SwitchboardOnDemand.Bytes

/-!
# SHA-256

The hash of a byte string: 32 bytes, computed over blocks of 64 bytes in words of
32 bits with the most significant byte first.
-/

namespace Sha256
open Rust

abbrev Word := BitVec 32

structure State where
  a : Word
  b : Word
  c : Word
  d : Word
  e : Word
  f : Word
  g : Word
  h : Word
  deriving DecidableEq

/-- The front of the fractional parts of the square roots of the first 8 primes. -/
def initial : State :=
  ⟨0x6a09e667, 0xbb67ae85, 0x3c6ef372, 0xa54ff53a, 0x510e527f, 0x9b05688c, 0x1f83d9ab, 0x5be0cd19⟩

/-- The front of the fractional parts of the cube roots of the first 64 primes. -/
def constants : List Word :=
  [0x428a2f98, 0x71374491, 0xb5c0fbcf, 0xe9b5dba5, 0x3956c25b, 0x59f111f1, 0x923f82a4, 0xab1c5ed5,
    0xd807aa98, 0x12835b01, 0x243185be, 0x550c7dc3, 0x72be5d74, 0x80deb1fe, 0x9bdc06a7, 0xc19bf174,
    0xe49b69c1, 0xefbe4786, 0x0fc19dc6, 0x240ca1cc, 0x2de92c6f, 0x4a7484aa, 0x5cb0a9dc, 0x76f988da,
    0x983e5152, 0xa831c66d, 0xb00327c8, 0xbf597fc7, 0xc6e00bf3, 0xd5a79147, 0x06ca6351, 0x14292967,
    0x27b70a85, 0x2e1b2138, 0x4d2c6dfc, 0x53380d13, 0x650a7354, 0x766a0abb, 0x81c2c92e, 0x92722c85,
    0xa2bfe8a1, 0xa81a664b, 0xc24b8b70, 0xc76c51a3, 0xd192e819, 0xd6990624, 0xf40e3585, 0x106aa070,
    0x19a4c116, 0x1e376c08, 0x2748774c, 0x34b0bcb5, 0x391c0cb3, 0x4ed8aa4a, 0x5b9cca4f, 0x682e6ff3,
    0x748f82ee, 0x78a5636f, 0x84c87814, 0x8cc70208, 0x90befffa, 0xa4506ceb, 0xbef9a3f7, 0xc67178f2]

def choose (x y z : Word) : Word := (x &&& y) ^^^ (~~~x &&& z)

def majority (x y z : Word) : Word := (x &&& y) ^^^ (x &&& z) ^^^ (y &&& z)

def round (s : State) (constant word : Word) : State :=
  let e1 := s.e.rotateRight 6 ^^^ s.e.rotateRight 11 ^^^ s.e.rotateRight 25
  let a0 := s.a.rotateRight 2 ^^^ s.a.rotateRight 13 ^^^ s.a.rotateRight 22
  let t1 := s.h + e1 + choose s.e s.f s.g + constant + word
  let t2 := a0 + majority s.a s.b s.c
  ⟨t1 + t2, s.a, s.b, s.c, s.d + t1, s.e, s.f, s.g⟩

/-- The word behind 16 words of the schedule. -/
def next (words : List Word) : Word :=
  let w1 := words.getD 1 0
  let w14 := words.getD 14 0
  let s0 := w1.rotateRight 7 ^^^ w1.rotateRight 18 ^^^ (w1 >>> 3)
  let s1 := w14.rotateRight 17 ^^^ w14.rotateRight 19 ^^^ (w14 >>> 10)
  s1 + words.getD 9 0 + s0 + words.getD 0 0

/-- One round for each constant. The next 16 words of the schedule move along. -/
def rounds : List Word → List Word → State → State
  | [], _, s => s
  | constant :: rest, words, s => rounds rest (words.tail ++ [next words]) (round s constant (words.getD 0 0))

def State.add (s t : State) : State :=
  ⟨s.a + t.a, s.b + t.b, s.c + t.c, s.d + t.d, s.e + t.e, s.f + t.f, s.g + t.g, s.h + t.h⟩

def word (bytes : Bytes) : Word := BitVec.ofNat 32 (leNat bytes.reverse)

/-- The words of as many times 4 bytes. -/
def words : Nat → Bytes → List Word
  | 0, _ => []
  | count + 1, bytes => word (bytes.take 4) :: words count (bytes.drop 4)

def compress (s : State) (block : Bytes) : State := s.add (rounds constants (words 16 block) s)

/-- As many blocks of 64 bytes. -/
def blocks : Nat → Bytes → State → State
  | 0, _, s => s
  | count + 1, bytes, s => blocks count (bytes.drop 64) (compress s (bytes.take 64))

def padding (length : Nat) : Bytes :=
  0x80 :: List.replicate ((119 - length % 64) % 64) 0 ++ (leBytes 8 (8 * length)).reverse

def State.toBytes (s : State) : Bytes :=
  [s.a, s.b, s.c, s.d, s.e, s.f, s.g, s.h].flatMap fun w => (leBytes 4 w.toNat).reverse

theorem State.length_toBytes (s : State) : s.toBytes.length = 32 := by
  simp [State.toBytes]

def hash (message : Bytes) : FixedBytes 32 :=
  let padded := message ++ padding message.length
  ⟨(blocks (padded.length / 64) padded initial).toBytes, State.length_toBytes _⟩

example : (hash (utf8 "abc")).val =
    [0xba, 0x78, 0x16, 0xbf, 0x8f, 0x01, 0xcf, 0xea, 0x41, 0x41, 0x40, 0xde, 0x5d, 0xae, 0x22, 0x23, 0xb0, 0x03, 0x61,
      0xa3, 0x96, 0x17, 0x7a, 0x9c, 0xb4, 0x10, 0xff, 0x61, 0xf2, 0x00, 0x15, 0xad] := by decide +kernel

end Sha256
