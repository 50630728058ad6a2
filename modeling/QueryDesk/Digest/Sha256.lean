/-
Module: QueryDesk.Digest.Sha256
Purpose: SHA-256 over octets. The message is padded to whole blocks of sixty-four octets; each block
  is expanded to a schedule of sixty-four words and folded into the state.
Imports: QueryDesk.Text.Quoted, QueryDesk.Text.Utf8
Main exports: pad, schedule, compress, sha256, sha256Hex
-/
import QueryDesk.Text.Quoted
import QueryDesk.Text.Utf8

namespace QueryDesk.Digest

open QueryDesk.Text

/-- The eight working words. -/
structure State where
  a : UInt32
  b : UInt32
  c : UInt32
  d : UInt32
  e : UInt32
  f : UInt32
  g : UInt32
  h : UInt32
deriving Repr, Inhabited, DecidableEq

/-- The state before the first block: the fractional parts of the square roots of the first eight
primes. -/
def State.start : State :=
  ⟨0x6a09e667, 0xbb67ae85, 0x3c6ef372, 0xa54ff53a, 0x510e527f, 0x9b05688c, 0x1f83d9ab, 0x5be0cd19⟩

/-- The words of a state added to those of another one. -/
def State.add (x y : State) : State :=
  ⟨x.a + y.a, x.b + y.b, x.c + y.c, x.d + y.d, x.e + y.e, x.f + y.f, x.g + y.g, x.h + y.h⟩

/-- The words of a state. -/
def State.words (x : State) : List UInt32 :=
  [x.a, x.b, x.c, x.d, x.e, x.f, x.g, x.h]

/-- The constants of the rounds: the fractional parts of the cube roots of the first sixty-four
primes. -/
def roundConstants : List UInt32 :=
  [0x428a2f98, 0x71374491, 0xb5c0fbcf, 0xe9b5dba5, 0x3956c25b, 0x59f111f1, 0x923f82a4, 0xab1c5ed5,
    0xd807aa98, 0x12835b01, 0x243185be, 0x550c7dc3, 0x72be5d74, 0x80deb1fe, 0x9bdc06a7, 0xc19bf174,
    0xe49b69c1, 0xefbe4786, 0x0fc19dc6, 0x240ca1cc, 0x2de92c6f, 0x4a7484aa, 0x5cb0a9dc, 0x76f988da,
    0x983e5152, 0xa831c66d, 0xb00327c8, 0xbf597fc7, 0xc6e00bf3, 0xd5a79147, 0x06ca6351, 0x14292967,
    0x27b70a85, 0x2e1b2138, 0x4d2c6dfc, 0x53380d13, 0x650a7354, 0x766a0abb, 0x81c2c92e, 0x92722c85,
    0xa2bfe8a1, 0xa81a664b, 0xc24b8b70, 0xc76c51a3, 0xd192e819, 0xd6990624, 0xf40e3585, 0x106aa070,
    0x19a4c116, 0x1e376c08, 0x2748774c, 0x34b0bcb5, 0x391c0cb3, 0x4ed8aa4a, 0x5b9cca4f, 0x682e6ff3,
    0x748f82ee, 0x78a5636f, 0x84c87814, 0x8cc70208, 0x90befffa, 0xa4506ceb, 0xbef9a3f7, 0xc67178f2]

/-- A word rotated to the right. -/
def rotate (x : UInt32) (count : UInt32) : UInt32 :=
  (x >>> count) ||| (x <<< (32 - count))

/-- The word of four octets, the first one highest. -/
def word (a b c d : Nat) : UInt32 :=
  (((a * 256 + b) * 256 + c) * 256 + d).toUInt32

/-- The words of octets. Octets that do not fill a word are left out. -/
def words : List Nat → List UInt32
  | a :: b :: c :: d :: rest => word a b c d :: words rest
  | _ => []

/-- The octets of a number, the highest one first. -/
def bigEndian : Nat → Nat → List Nat
  | 0, _ => []
  | count + 1, value => bigEndian count (value / 256) ++ [value % 256]

/-- The message with the bit one, zeros, and its length in bits. -/
def pad (octets : List Nat) : List Nat :=
  octets ++ 0x80 :: (List.replicate ((119 - octets.length % 64) % 64) 0 ++
    bigEndian 8 (8 * octets.length))

/-- One more word of a schedule whose words are given from the last one back. -/
def nextWord (reversed : List UInt32) : UInt32 :=
  let w2 := reversed.getD 1 0
  let w7 := reversed.getD 6 0
  let w15 := reversed.getD 14 0
  let w16 := reversed.getD 15 0
  let s0 := rotate w15 7 ^^^ rotate w15 18 ^^^ (w15 >>> 3)
  let s1 := rotate w2 17 ^^^ rotate w2 19 ^^^ (w2 >>> 10)
  w16 + s0 + w7 + s1

/-- A schedule with so many more words, from the last one back. -/
def extend : Nat → List UInt32 → List UInt32
  | 0, reversed => reversed
  | count + 1, reversed => extend count (nextWord reversed :: reversed)

/-- The sixty-four words of a block. -/
def schedule (block : List UInt32) : List UInt32 :=
  (extend 48 block.reverse).reverse

/-- One round with a word and its constant. -/
def round (x : State) (input : UInt32 × UInt32) : State :=
  let s1 := rotate x.e 6 ^^^ rotate x.e 11 ^^^ rotate x.e 25
  let choice := (x.e &&& x.f) ^^^ ((~~~x.e) &&& x.g)
  let t1 := x.h + s1 + choice + input.2 + input.1
  let s0 := rotate x.a 2 ^^^ rotate x.a 13 ^^^ rotate x.a 22
  let majority := (x.a &&& x.b) ^^^ (x.a &&& x.c) ^^^ (x.b &&& x.c)
  ⟨t1 + (s0 + majority), x.a, x.b, x.c, x.d + t1, x.e, x.f, x.g⟩

/-- The state after a block. -/
def compress (state : State) (block : List UInt32) : State :=
  state.add (((schedule block).zip roundConstants).foldl round state)

/-- The state after words that come in so many blocks. -/
def compressBlocks : Nat → State → List UInt32 → State
  | 0, state, _ => state
  | count + 1, state, input =>
    compressBlocks count (compress state (input.take 16)) (input.drop 16)

/-- The words of the digest of octets. -/
def sha256 (octets : List Nat) : List UInt32 :=
  let padded := words (pad octets)
  (compressBlocks (padded.length / 16) .start padded).words

/-- The digest of a text in hexadecimal. -/
def sha256Hex (text : List Char) : List Char :=
  (sha256 (utf8Encode text)).flatMap fun w => hexDigits 8 w.toNat

end QueryDesk.Digest
