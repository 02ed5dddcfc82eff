/-!
# MD5

The 128-bit digest of a row of bytes, written as thirty-two hexadecimal digits.  A message is
padded to blocks of sixteen words; each block is mixed into four words of state in sixty-four
rounds.

* `length_hex` : a digest has thirty-two digits.
-/

namespace Bookpress
namespace Digest

/-- the four words of state. -/
structure State where
  a : UInt32
  b : UInt32
  c : UInt32
  d : UInt32
deriving Repr, DecidableEq

/-- the state before the first block. -/
def State.initial : State := ⟨0x67452301, 0xefcdab89, 0x98badcfe, 0x10325476⟩

/-- the constants of the rounds, the first 32 bits of the fractions of sines. -/
def sines : List UInt32 := [
  0xd76aa478, 0xe8c7b756, 0x242070db, 0xc1bdceee, 0xf57c0faf, 0x4787c62a, 0xa8304613, 0xfd469501,
  0x698098d8, 0x8b44f7af, 0xffff5bb1, 0x895cd7be, 0x6b901122, 0xfd987193, 0xa679438e, 0x49b40821,
  0xf61e2562, 0xc040b340, 0x265e5a51, 0xe9b6c7aa, 0xd62f105d, 0x02441453, 0xd8a1e681, 0xe7d3fbc8,
  0x21e1cde6, 0xc33707d6, 0xf4d50d87, 0x455a14ed, 0xa9e3e905, 0xfcefa3f8, 0x676f02d9, 0x8d2a4c8a,
  0xfffa3942, 0x8771f681, 0x6d9d6122, 0xfde5380c, 0xa4beea44, 0x4bdecfa9, 0xf6bb4b60, 0xbebfbc70,
  0x289b7ec6, 0xeaa127fa, 0xd4ef3085, 0x04881d05, 0xd9d4d039, 0xe6db99e5, 0x1fa27cf8, 0xc4ac5665,
  0xf4292244, 0x432aff97, 0xab9423a7, 0xfc93a039, 0x655b59c3, 0x8f0ccc92, 0xffeff47d, 0x85845dd1,
  0x6fa87e4f, 0xfe2ce6e0, 0xa3014314, 0x4e0811a1, 0xf7537e82, 0xbd3af235, 0x2ad7d2bb, 0xeb86d391]

/-- the rotations of the rounds. -/
def rotations : List UInt32 :=
  ([[7, 12, 17, 22], [5, 9, 14, 20], [4, 11, 16, 23], [6, 10, 15, 21]] : List (List UInt32)).flatMap
    fun quarter => (List.replicate 4 quarter).flatten

/-- `x` rotated to the left. -/
def rotate (x n : UInt32) : UInt32 := (x <<< n) ||| (x >>> (32 - n))

/-- the mixing function of a round, and the word of the block that it takes. -/
def mix (round : Nat) (s : State) : UInt32 × Nat :=
  if round < 16 then ((s.b &&& s.c) ||| (~~~s.b &&& s.d), round)
  else if round < 32 then ((s.d &&& s.b) ||| (~~~s.d &&& s.c), (5 * round + 1) % 16)
  else if round < 48 then (s.b ^^^ s.c ^^^ s.d, (3 * round + 5) % 16)
  else (s.c ^^^ (s.b ||| ~~~s.d), (7 * round) % 16)

/-- one round. -/
def step (block : List UInt32) (s : State) (round : Nat) : State :=
  let (f, word) := mix round s
  let sum := f + s.a + sines.getD round 0 + block.getD word 0
  ⟨s.d, s.b + rotate sum (rotations.getD round 0), s.b, s.c⟩

/-- the state after a block of sixteen words. -/
def absorb (s : State) (block : List UInt32) : State :=
  let t := (List.range 64).foldl (step block) s
  ⟨s.a + t.a, s.b + t.b, s.c + t.c, s.d + t.d⟩

/-- the bytes of a number, the lowest first. -/
def lowFirst : Nat → Nat → List UInt8
  | 0, _ => []
  | k + 1, n => UInt8.ofNat n :: lowFirst k (n / 256)

/-- a message with its padding: a one bit, zeros up to a block's end, and the length in bits. -/
def padded (m : List UInt8) : List UInt8 :=
  m ++ (0x80 :: List.replicate ((119 - m.length % 64) % 64) 0) ++ lowFirst 8 (8 * m.length)

/-- the words of four bytes each, the lowest byte first. -/
def words : List UInt8 → List UInt32
  | a :: b :: c :: d :: r =>
    (a.toUInt32 ||| (b.toUInt32 <<< 8) ||| (c.toUInt32 <<< 16) ||| (d.toUInt32 <<< 24)) :: words r
  | _ => []

/-- rows of sixteen words, at most `fuel` of them. -/
def blocks : Nat → List UInt32 → List (List UInt32)
  | 0, _ => []
  | fuel + 1, ws => if ws = [] then [] else ws.take 16 :: blocks fuel (ws.drop 16)

/-- the state after a message. -/
def digest (m : List UInt8) : State :=
  let ws := words (padded m)
  (blocks ws.length ws).foldl absorb .initial

/-- a byte as two hexadecimal digits. -/
def hexByte (b : UInt8) : List Char := [Nat.digitChar (b.toNat / 16), Nat.digitChar (b.toNat % 16)]

/-- the bytes of the state, each word with its lowest byte first. -/
def State.bytes (s : State) : List UInt8 :=
  [s.a, s.b, s.c, s.d].flatMap fun w => lowFirst 4 w.toNat

/-- the digest of a message in hexadecimal digits. -/
def hex (m : List UInt8) : List Char := (digest m).bytes.flatMap hexByte

theorem length_hex (m : List UInt8) : (hex m).length = 32 := by
  simp [hex, State.bytes, lowFirst, hexByte]

end Digest
end Bookpress
