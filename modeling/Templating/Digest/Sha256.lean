/-!
The SHA-256 digest of a sequence of bytes.

A message is padded to blocks of sixty-four bytes; each block updates eight words in sixty-four
rounds.  The digest is the eight words, and `Digest.hex` writes each of them with eight
hexadecimal digits.
-/

namespace Templating.Sha256

/-- The eight words of a digest, and of the state between two blocks. -/
structure Digest where
  a : UInt32
  b : UInt32
  c : UInt32
  d : UInt32
  e : UInt32
  f : UInt32
  g : UInt32
  h : UInt32
deriving DecidableEq, Repr

/-- The fractional parts of the square roots of the first eight primes. -/
def initial : Digest where
  a := 0x6a09e667
  b := 0xbb67ae85
  c := 0x3c6ef372
  d := 0xa54ff53a
  e := 0x510e527f
  f := 0x9b05688c
  g := 0x1f83d9ab
  h := 0x5be0cd19

/-- The fractional parts of the cube roots of the first sixty-four primes. -/
def roundConstants : List UInt32 :=
  [0x428a2f98, 0x71374491, 0xb5c0fbcf, 0xe9b5dba5, 0x3956c25b, 0x59f111f1, 0x923f82a4, 0xab1c5ed5,
   0xd807aa98, 0x12835b01, 0x243185be, 0x550c7dc3, 0x72be5d74, 0x80deb1fe, 0x9bdc06a7, 0xc19bf174,
   0xe49b69c1, 0xefbe4786, 0x0fc19dc6, 0x240ca1cc, 0x2de92c6f, 0x4a7484aa, 0x5cb0a9dc, 0x76f988da,
   0x983e5152, 0xa831c66d, 0xb00327c8, 0xbf597fc7, 0xc6e00bf3, 0xd5a79147, 0x06ca6351, 0x14292967,
   0x27b70a85, 0x2e1b2138, 0x4d2c6dfc, 0x53380d13, 0x650a7354, 0x766a0abb, 0x81c2c92e, 0x92722c85,
   0xa2bfe8a1, 0xa81a664b, 0xc24b8b70, 0xc76c51a3, 0xd192e819, 0xd6990624, 0xf40e3585, 0x106aa070,
   0x19a4c116, 0x1e376c08, 0x2748774c, 0x34b0bcb5, 0x391c0cb3, 0x4ed8aa4a, 0x5b9cca4f, 0x682e6ff3,
   0x748f82ee, 0x78a5636f, 0x84c87814, 0x8cc70208, 0x90befffa, 0xa4506ceb, 0xbef9a3f7, 0xc67178f2]

def rotateRight (word : UInt32) (count : UInt32) : UInt32 :=
  (word >>> count) ||| (word <<< (32 - count))

/-- The bytes of a number, the highest first. -/
def bigEndian (count value : Nat) : List UInt8 :=
  (List.range count).map fun index => UInt8.ofNat (value >>> (8 * (count - 1 - index)))

/-- A mark, zeros up to eight bytes before the end of a block, and the length in bits. -/
def pad (message : List UInt8) : List UInt8 :=
  let zeros := (119 - message.length % 64) % 64
  message ++ 0x80 :: List.replicate zeros 0 ++ bigEndian 8 (8 * message.length)

/-- The words of a block, the highest byte of each first. -/
def words : List UInt8 → List UInt32
  | first :: second :: third :: fourth :: rest =>
      ((first.toUInt32 <<< 24) ||| (second.toUInt32 <<< 16) ||| (third.toUInt32 <<< 8) |||
        fourth.toUInt32) :: words rest
  | _ => []

/-- Extends the words of a block by one that is mixed from four earlier ones. -/
def extend (schedule : Array UInt32) : Array UInt32 :=
  let size := schedule.size
  let early := schedule.getD (size - 15) 0
  let late := schedule.getD (size - 2) 0
  let small := rotateRight early 7 ^^^ rotateRight early 18 ^^^ (early >>> 3)
  let large := rotateRight late 17 ^^^ rotateRight late 19 ^^^ (late >>> 10)
  schedule.push (schedule.getD (size - 16) 0 + small + schedule.getD (size - 7) 0 + large)

/-- The sixty-four words that a block contributes, one to each round. -/
def schedule (block : List UInt8) : List UInt32 :=
  (Nat.repeat extend 48 (words block).toArray).toList

/-- One round, with its constant and its word. -/
def round (state : Digest) (input : UInt32 × UInt32) : Digest :=
  let large := rotateRight state.e 6 ^^^ rotateRight state.e 11 ^^^ rotateRight state.e 25
  let choice := (state.e &&& state.f) ^^^ (~~~state.e &&& state.g)
  let first := state.h + large + choice + input.1 + input.2
  let small := rotateRight state.a 2 ^^^ rotateRight state.a 13 ^^^ rotateRight state.a 22
  let majority := (state.a &&& state.b) ^^^ (state.a &&& state.c) ^^^ (state.b &&& state.c)
  { a := first + (small + majority)
    b := state.a
    c := state.b
    d := state.c
    e := state.d + first
    f := state.e
    g := state.f
    h := state.g }

/-- Adds what the rounds over a block make of the state to the state. -/
def compress (state : Digest) (block : List UInt8) : Digest :=
  let last := (roundConstants.zip (schedule block)).foldl round state
  { a := state.a + last.a
    b := state.b + last.b
    c := state.c + last.c
    d := state.d + last.d
    e := state.e + last.e
    f := state.f + last.f
    g := state.g + last.g
    h := state.h + last.h }

/-- Takes in the given number of blocks. -/
def absorb : Nat → Digest → List UInt8 → Digest
  | 0, state, _ => state
  | count + 1, state, message => absorb count (compress state (message.take 64)) (message.drop 64)

def hash (message : List UInt8) : Digest :=
  let padded := pad message
  absorb (padded.length / 64) initial padded

/-- The eight hexadecimal digits of a word, in lower case. -/
def hexWord (word : UInt32) : List Char :=
  (List.range 8).map fun index => Nat.digitChar (word.toNat >>> (4 * (7 - index)) % 16)

def Digest.hex (digest : Digest) : List Char :=
  hexWord digest.a ++ hexWord digest.b ++ hexWord digest.c ++ hexWord digest.d ++
    hexWord digest.e ++ hexWord digest.f ++ hexWord digest.g ++ hexWord digest.h

end Templating.Sha256
