/-!
# Digest — the MD5 digest of a byte sequence

The bytes are filled up to a multiple of 64 and taken in blocks of sixteen 32-bit words; each block
turns the running state of four words into the next one by 64 rounds.
-/

namespace Gazetteer.Digest

/-- The running state: four words. -/
structure State where
  a : UInt32
  b : UInt32
  c : UInt32
  d : UInt32
deriving Repr, DecidableEq

/-- The state before the first block. -/
def State.start : State := ⟨0x67452301, 0xefcdab89, 0x98badcfe, 0x10325476⟩

/-- The additive constant of each round: the sines of 1, 2, …, 64, as fractions of `2 ^ 32`. -/
def sines : List UInt32 :=
  [
    0xd76aa478, 0xe8c7b756, 0x242070db, 0xc1bdceee, 0xf57c0faf, 0x4787c62a, 0xa8304613,
    0xfd469501, 0x698098d8, 0x8b44f7af, 0xffff5bb1, 0x895cd7be, 0x6b901122, 0xfd987193,
    0xa679438e, 0x49b40821, 0xf61e2562, 0xc040b340, 0x265e5a51, 0xe9b6c7aa, 0xd62f105d,
    0x02441453, 0xd8a1e681, 0xe7d3fbc8, 0x21e1cde6, 0xc33707d6, 0xf4d50d87, 0x455a14ed,
    0xa9e3e905, 0xfcefa3f8, 0x676f02d9, 0x8d2a4c8a, 0xfffa3942, 0x8771f681, 0x6d9d6122,
    0xfde5380c, 0xa4beea44, 0x4bdecfa9, 0xf6bb4b60, 0xbebfbc70, 0x289b7ec6, 0xeaa127fa,
    0xd4ef3085, 0x04881d05, 0xd9d4d039, 0xe6db99e5, 0x1fa27cf8, 0xc4ac5665, 0xf4292244,
    0x432aff97, 0xab9423a7, 0xfc93a039, 0x655b59c3, 0x8f0ccc92, 0xffeff47d, 0x85845dd1,
    0x6fa87e4f, 0xfe2ce6e0, 0xa3014314, 0x4e0811a1, 0xf7537e82, 0xbd3af235, 0x2ad7d2bb,
    0xeb86d391]

/-- How far the rounds rotate. -/
def shifts : List UInt32 :=
  let group (w x y z : UInt32) : List UInt32 :=
    [w, x, y, z, w, x, y, z, w, x, y, z, w, x, y, z]
  group 7 12 17 22 ++ group 5 9 14 20 ++ group 4 11 16 23 ++ group 6 10 15 21

def rotateLeft (x n : UInt32) : UInt32 := (x <<< n) ||| (x >>> (32 - n))

/-- One round: the mix of three words and the index of the block's word depend on its number. -/
def round (words : Array UInt32) (s : State) (i : Nat) (sine shift : UInt32) : State :=
  let (mix, index) :=
    if i < 16 then ((s.b &&& s.c) ||| (~~~s.b &&& s.d), i)
    else if i < 32 then ((s.d &&& s.b) ||| (~~~s.d &&& s.c), (5 * i + 1) % 16)
    else if i < 48 then (s.b ^^^ s.c ^^^ s.d, (3 * i + 5) % 16)
    else (s.c ^^^ (s.b ||| ~~~s.d), (7 * i) % 16)
  let sum := s.a + mix + sine + words[index]?.getD 0
  ⟨s.d, s.b + rotateLeft sum shift, s.b, s.c⟩

/-- The rounds from number `i` on. -/
def rounds (words : Array UInt32) : Nat → List (UInt32 × UInt32) → State → State
  | _, [], s => s
  | i, (sine, shift) :: rest, s => rounds words (i + 1) rest (round words s i sine shift)

/-- Four bytes as a word, the lowest first. -/
def wordOf (b0 b1 b2 b3 : UInt8) : UInt32 :=
  b0.toUInt32 ||| b1.toUInt32 <<< 8 ||| b2.toUInt32 <<< 16 ||| b3.toUInt32 <<< 24

/-- The words of a byte sequence; bytes beyond the last full word are dropped. -/
def wordsOf : List UInt8 → List UInt32
  | b0 :: b1 :: b2 :: b3 :: rest => wordOf b0 b1 b2 b3 :: wordsOf rest
  | _ => []

/-- The state after one more block. -/
def State.absorb (s : State) (block : List UInt8) : State :=
  let t := rounds (wordsOf block).toArray 0 (sines.zip shifts) s
  ⟨s.a + t.a, s.b + t.b, s.c + t.c, s.d + t.d⟩

/-- The state after all blocks of 64 bytes. -/
def absorbAll (s : State) (bytes : List UInt8) : State :=
  if bytes.length < 64 then s
  else absorbAll (s.absorb (bytes.take 64)) (bytes.drop 64)
termination_by bytes.length
decreasing_by simp only [List.length_drop]; omega

/-- The lowest `count` bytes of a number, the lowest first. -/
def lowBytes : Nat → Nat → List UInt8
  | 0, _ => []
  | count + 1, n => UInt8.ofNat n :: lowBytes count (n / 256)

/-- A byte sequence filled up: a one bit, zeros, and its length in bits. -/
def padded (bytes : List UInt8) : List UInt8 :=
  bytes ++ 0x80 :: List.replicate ((119 - bytes.length % 64) % 64) 0
    ++ lowBytes 8 (8 * bytes.length)

/-- The sixteen bytes of the digest. -/
def md5 (bytes : List UInt8) : List UInt8 :=
  let s := absorbAll State.start (padded bytes)
  [s.a, s.b, s.c, s.d].flatMap fun w => lowBytes 4 w.toNat

/-- Bytes read as one number, the highest first. -/
def bigEndian (bytes : List UInt8) : Nat := bytes.foldl (fun n b => 256 * n + b.toNat) 0

/-- The number in the first eight bytes of the digest. -/
def short (bytes : List UInt8) : Nat := bigEndian ((md5 bytes).take 8)

end Gazetteer.Digest
