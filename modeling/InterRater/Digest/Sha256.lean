/-!
# SHA-256

The digest of a sequence of bytes after FIPS 180-4.  A message is padded to blocks of 64 bytes,
each block is stretched to a schedule of 64 words, and the compression of all blocks leaves a state
of eight words, which is the digest.
-/

namespace InterRater

namespace Sha256

/-- The eight working words. -/
structure State where
  a : UInt32
  b : UInt32
  c : UInt32
  d : UInt32
  e : UInt32
  f : UInt32
  g : UInt32
  h : UInt32
  deriving DecidableEq, Repr

/-! ### Constants -/

/-- The state before the first block: the fractions of the square roots of the first 8 primes. -/
def start : State :=
  ⟨0x6a09e667, 0xbb67ae85, 0x3c6ef372, 0xa54ff53a, 0x510e527f, 0x9b05688c, 0x1f83d9ab, 0x5be0cd19⟩

/-- The constant of each round: the fractions of the cube roots of the first 64 primes. -/
def roundConstants : List UInt32 :=
  [0x428a2f98, 0x71374491, 0xb5c0fbcf, 0xe9b5dba5, 0x3956c25b, 0x59f111f1, 0x923f82a4,
    0xab1c5ed5, 0xd807aa98, 0x12835b01, 0x243185be, 0x550c7dc3, 0x72be5d74, 0x80deb1fe,
    0x9bdc06a7, 0xc19bf174, 0xe49b69c1, 0xefbe4786, 0x0fc19dc6, 0x240ca1cc, 0x2de92c6f,
    0x4a7484aa, 0x5cb0a9dc, 0x76f988da, 0x983e5152, 0xa831c66d, 0xb00327c8, 0xbf597fc7,
    0xc6e00bf3, 0xd5a79147, 0x06ca6351, 0x14292967, 0x27b70a85, 0x2e1b2138, 0x4d2c6dfc,
    0x53380d13, 0x650a7354, 0x766a0abb, 0x81c2c92e, 0x92722c85, 0xa2bfe8a1, 0xa81a664b,
    0xc24b8b70, 0xc76c51a3, 0xd192e819, 0xd6990624, 0xf40e3585, 0x106aa070, 0x19a4c116,
    0x1e376c08, 0x2748774c, 0x34b0bcb5, 0x391c0cb3, 0x4ed8aa4a, 0x5b9cca4f, 0x682e6ff3,
    0x748f82ee, 0x78a5636f, 0x84c87814, 0x8cc70208, 0x90befffa, 0xa4506ceb, 0xbef9a3f7,
    0xc67178f2]

/-! ### Functions on words -/

/-- The word turned to the right by `n` bits, of which there are more than 0 and fewer than 32. -/
def rotateRight (w : UInt32) (n : UInt32) : UInt32 :=
  (w >>> n) ||| (w <<< (32 - n))

def bigSigma0 (w : UInt32) : UInt32 :=
  rotateRight w 2 ^^^ rotateRight w 13 ^^^ rotateRight w 22

def bigSigma1 (w : UInt32) : UInt32 :=
  rotateRight w 6 ^^^ rotateRight w 11 ^^^ rotateRight w 25

def smallSigma0 (w : UInt32) : UInt32 :=
  rotateRight w 7 ^^^ rotateRight w 18 ^^^ (w >>> 3)

def smallSigma1 (w : UInt32) : UInt32 :=
  rotateRight w 17 ^^^ rotateRight w 19 ^^^ (w >>> 10)

/-- The bits of `y` where `x` is set, and those of `z` elsewhere. -/
def choose (x y z : UInt32) : UInt32 :=
  (x &&& y) ^^^ (~~~x &&& z)

/-- The bits that at least two of the words have. -/
def majority (x y z : UInt32) : UInt32 :=
  (x &&& y) ^^^ (x &&& z) ^^^ (y &&& z)

/-! ### Blocks -/

/-- The words of a sequence of bytes, highest byte first. -/
def words : List UInt8 → List UInt32
  | a :: b :: c :: d :: rest =>
    (a.toUInt32 <<< 24 ||| b.toUInt32 <<< 16 ||| c.toUInt32 <<< 8 ||| d.toUInt32) :: words rest
  | _ => []

/-- The schedule, latest word first, with `count` more words. -/
def extend : (count : Nat) → List UInt32 → List UInt32
  | 0, schedule => schedule
  | count + 1, schedule =>
    let next := smallSigma1 (schedule.getD 1 0) + schedule.getD 6 0 +
      smallSigma0 (schedule.getD 14 0) + schedule.getD 15 0
    extend count (next :: schedule)

/-- The 64 words that a block is stretched to. -/
def schedule (block : List UInt8) : List UInt32 :=
  (extend 48 (words block).reverse).reverse

/-- One round, with its constant and its word of the schedule. -/
def round (s : State) (input : UInt32 × UInt32) : State :=
  let t1 := s.h + bigSigma1 s.e + choose s.e s.f s.g + input.1 + input.2
  let t2 := bigSigma0 s.a + majority s.a s.b s.c
  ⟨t1 + t2, s.a, s.b, s.c, s.d + t1, s.e, s.f, s.g⟩

/-- The sum of two states, word by word. -/
def State.add (s t : State) : State :=
  ⟨s.a + t.a, s.b + t.b, s.c + t.c, s.d + t.d, s.e + t.e, s.f + t.f, s.g + t.g, s.h + t.h⟩

/-- The state after one more block. -/
def compress (s : State) (block : List UInt8) : State :=
  s.add ((roundConstants.zip (schedule block)).foldl round s)

/-- The state after the first `count` blocks of a sequence of bytes. -/
def compressBlocks : (count : Nat) → State → List UInt8 → State
  | 0, s, _ => s
  | count + 1, s, bytes => compressBlocks count (compress s (bytes.take 64)) (bytes.drop 64)

/-! ### The digest -/

/-- The lowest `count` bytes of a number, highest first. -/
def bytesOf (count n : Nat) : List UInt8 :=
  (List.range count).reverse.map fun i => UInt8.ofNat (n >>> (8 * i))

/-- The message, a bit, zeros up to eight bytes before the end of a block, and the number of the
bits of the message. -/
def pad (message : List UInt8) : List UInt8 :=
  let n := message.length
  message ++ 0x80 :: List.replicate ((119 - n % 64) % 64) 0 ++ bytesOf 8 (8 * n)

def State.bytes (s : State) : List UInt8 :=
  [s.a, s.b, s.c, s.d, s.e, s.f, s.g, s.h].flatMap fun w => bytesOf 4 w.toNat

/-- The 32 bytes of the digest. -/
def digest (message : List UInt8) : List UInt8 :=
  let padded := pad message
  (compressBlocks (padded.length / 64) start padded).bytes

/-- Two hexadecimal digits, in small letters. -/
def hexByte (b : UInt8) : List Char :=
  [Nat.digitChar (b.toNat / 16), Nat.digitChar (b.toNat % 16)]

/-- The digest in hexadecimal digits. -/
def hex (message : List UInt8) : String :=
  String.ofList ((digest message).flatMap hexByte)

end Sha256

end InterRater
