/-!
The SHA-256 digest of a sequence of bytes.
-/

namespace SavedNetworks.Sha256

def blockSize : Nat := 64

/-- The first 32 bits of the fractional parts of the cube roots of the first 64 primes. -/
def roundConstants : List UInt32 :=
  [0x428a2f98, 0x71374491, 0xb5c0fbcf, 0xe9b5dba5, 0x3956c25b, 0x59f111f1, 0x923f82a4, 0xab1c5ed5,
    0xd807aa98, 0x12835b01, 0x243185be, 0x550c7dc3, 0x72be5d74, 0x80deb1fe, 0x9bdc06a7, 0xc19bf174,
    0xe49b69c1, 0xefbe4786, 0x0fc19dc6, 0x240ca1cc, 0x2de92c6f, 0x4a7484aa, 0x5cb0a9dc, 0x76f988da,
    0x983e5152, 0xa831c66d, 0xb00327c8, 0xbf597fc7, 0xc6e00bf3, 0xd5a79147, 0x06ca6351, 0x14292967,
    0x27b70a85, 0x2e1b2138, 0x4d2c6dfc, 0x53380d13, 0x650a7354, 0x766a0abb, 0x81c2c92e, 0x92722c85,
    0xa2bfe8a1, 0xa81a664b, 0xc24b8b70, 0xc76c51a3, 0xd192e819, 0xd6990624, 0xf40e3585, 0x106aa070,
    0x19a4c116, 0x1e376c08, 0x2748774c, 0x34b0bcb5, 0x391c0cb3, 0x4ed8aa4a, 0x5b9cca4f, 0x682e6ff3,
    0x748f82ee, 0x78a5636f, 0x84c87814, 0x8cc70208, 0x90befffa, 0xa4506ceb, 0xbef9a3f7, 0xc67178f2]

structure State where
  a : UInt32
  b : UInt32
  c : UInt32
  d : UInt32
  e : UInt32
  f : UInt32
  g : UInt32
  h : UInt32
deriving DecidableEq

/-- The first 32 bits of the fractional parts of the square roots of the first 8 primes. -/
def State.start : State :=
  ⟨0x6a09e667, 0xbb67ae85, 0x3c6ef372, 0xa54ff53a, 0x510e527f, 0x9b05688c, 0x1f83d9ab, 0x5be0cd19⟩

def rotateRight (word amount : UInt32) : UInt32 := word >>> amount ||| word <<< (32 - amount)

def State.round (state : State) (constant word : UInt32) : State :=
  let sigma1 := rotateRight state.e 6 ^^^ rotateRight state.e 11 ^^^ rotateRight state.e 25
  let choice := state.e &&& state.f ^^^ (~~~state.e) &&& state.g
  let step1 := state.h + sigma1 + choice + constant + word
  let sigma0 := rotateRight state.a 2 ^^^ rotateRight state.a 13 ^^^ rotateRight state.a 22
  let majority := state.a &&& state.b ^^^ state.a &&& state.c ^^^ state.b &&& state.c
  let step2 := sigma0 + majority
  ⟨step1 + step2, state.a, state.b, state.c, state.d + step1, state.e, state.f, state.g⟩

def State.add (left right : State) : State :=
  ⟨left.a + right.a, left.b + right.b, left.c + right.c, left.d + right.d,
    left.e + right.e, left.f + right.f, left.g + right.g, left.h + right.h⟩

def wordBytes (word : UInt32) : List UInt8 :=
  [(word >>> 24).toUInt8, (word >>> 16).toUInt8, (word >>> 8).toUInt8, word.toUInt8]

def State.bytes (state : State) : List UInt8 :=
  [state.a, state.b, state.c, state.d, state.e, state.f, state.g, state.h].flatMap wordBytes

/-- Big-endian words of a sequence of bytes; bytes short of a word at the end are left out. -/
def words : List UInt8 → List UInt32
  | a :: b :: c :: d :: rest =>
    (a.toUInt32 <<< 24 ||| b.toUInt32 <<< 16 ||| c.toUInt32 <<< 8 ||| d.toUInt32) :: words rest
  | _ => []

/-- The next word of the schedule from the sixteen before it, the latest first. -/
def nextWord (recent : List UInt32) : UInt32 :=
  let back := fun distance => recent.getD (distance - 1) 0
  let near := back 2
  let far := back 15
  let sigma1 := rotateRight near 17 ^^^ rotateRight near 19 ^^^ near >>> 10
  let sigma0 := rotateRight far 7 ^^^ rotateRight far 18 ^^^ far >>> 3
  sigma1 + back 7 + sigma0 + back 16

/-- Extends a schedule, which is kept in reverse. -/
def extend : Nat → List UInt32 → List UInt32
  | 0, reversed => reversed
  | count + 1, reversed => extend count (nextWord reversed :: reversed)

def compress (state : State) (block : List UInt8) : State :=
  let schedule := (extend 48 (words block).reverse).reverse
  let worked := (roundConstants.zip schedule).foldl (fun now (constant, word) => now.round constant word) state
  worked.add state

/-- The message, a one bit, zeros up to a whole number of blocks, and the length in bits. -/
def padding (length : Nat) : List UInt8 :=
  let zeros := (blockSize + 55 - length % blockSize) % blockSize
  0x80 :: List.replicate zeros 0 ++ (List.range 8).map fun index => UInt8.ofNat (length * 8 / Nat.pow 256 (7 - index))

def blocks (count : Nat) (bytes : List UInt8) : List (List UInt8) :=
  match count with
  | 0 => []
  | count + 1 => bytes.take blockSize :: blocks count (bytes.drop blockSize)

def digest (message : List UInt8) : List UInt8 :=
  let padded := message ++ padding message.length
  ((blocks (padded.length / blockSize) padded).foldl compress State.start).bytes

end SavedNetworks.Sha256
