import LocationDrift.Text.Utf8

/-!
# MD5

The MD5 message digest (RFC 1321) of a list of bytes, as 32 lower-case hexadecimal digits.

The message is padded with one `0x80` byte, zeros up to 56 bytes modulo 64, and its length in
bits as eight little-endian bytes. Each 64-byte block is sixteen little-endian words, and one
compression step mixes them into the four-word state in 64 rounds; the digest is the final state
written little-endian. Words wrap modulo 2^32, as the algorithm prescribes.
-/

namespace LocationDrift

namespace Md5

/-- The four-word state. -/
structure State where
  a : UInt32
  b : UInt32
  c : UInt32
  d : UInt32

/-- The state before the first block. -/
def initial : State := ⟨0x67452301, 0xefcdab89, 0x98badcfe, 0x10325476⟩

/-- The additive constants, the integer part of `2^32 · |sin (i + 1)|`. -/
def sines : Array UInt32 := #[
  0xd76aa478, 0xe8c7b756, 0x242070db, 0xc1bdceee, 0xf57c0faf, 0x4787c62a, 0xa8304613, 0xfd469501,
  0x698098d8, 0x8b44f7af, 0xffff5bb1, 0x895cd7be, 0x6b901122, 0xfd987193, 0xa679438e, 0x49b40821,
  0xf61e2562, 0xc040b340, 0x265e5a51, 0xe9b6c7aa, 0xd62f105d, 0x02441453, 0xd8a1e681, 0xe7d3fbc8,
  0x21e1cde6, 0xc33707d6, 0xf4d50d87, 0x455a14ed, 0xa9e3e905, 0xfcefa3f8, 0x676f02d9, 0x8d2a4c8a,
  0xfffa3942, 0x8771f681, 0x6d9d6122, 0xfde5380c, 0xa4beea44, 0x4bdecfa9, 0xf6bb4b60, 0xbebfbc70,
  0x289b7ec6, 0xeaa127fa, 0xd4ef3085, 0x04881d05, 0xd9d4d039, 0xe6db99e5, 0x1fa27cf8, 0xc4ac5665,
  0xf4292244, 0x432aff97, 0xab9423a7, 0xfc93a039, 0x655b59c3, 0x8f0ccc92, 0xffeff47d, 0x85845dd1,
  0x6fa87e4f, 0xfe2ce6e0, 0xa3014314, 0x4e0811a1, 0xf7537e82, 0xbd3af235, 0x2ad7d2bb, 0xeb86d391]

/-- The rotation of each round. -/
def shifts : Array UInt32 := #[
  7, 12, 17, 22, 7, 12, 17, 22, 7, 12, 17, 22, 7, 12, 17, 22,
  5, 9, 14, 20, 5, 9, 14, 20, 5, 9, 14, 20, 5, 9, 14, 20,
  4, 11, 16, 23, 4, 11, 16, 23, 4, 11, 16, 23, 4, 11, 16, 23,
  6, 10, 15, 21, 6, 10, 15, 21, 6, 10, 15, 21, 6, 10, 15, 21]

/-- Rotate a word left. -/
def rotl (x s : UInt32) : UInt32 := (x <<< s) ||| (x >>> (32 - s))

/-- The mixing function of round `i` and the word it reads. -/
def mix (i : Nat) (b c d : UInt32) : UInt32 × Nat :=
  if i < 16 then ((b &&& c) ||| (~~~b &&& d), i)
  else if i < 32 then ((d &&& b) ||| (~~~d &&& c), (5 * i + 1) % 16)
  else if i < 48 then (b ^^^ c ^^^ d, (3 * i + 5) % 16)
  else (c ^^^ (b ||| ~~~d), (7 * i) % 16)

/-- One round. -/
def round (words : Array UInt32) (s : State) (i : Nat) : State :=
  let (f, g) := mix i s.b s.c s.d
  let sum := s.a + f + sines.getD i 0 + words.getD g 0
  ⟨s.d, s.b + rotl sum (shifts.getD i 0), s.b, s.c⟩

/-- A little-endian word of four bytes. -/
def word (b₀ b₁ b₂ b₃ : UInt8) : UInt32 :=
  b₀.toUInt32 ||| (b₁.toUInt32 <<< 8) ||| (b₂.toUInt32 <<< 16) ||| (b₃.toUInt32 <<< 24)

/-- The words of a block, four bytes each. -/
def words : Bytes → List UInt32
  | b₀ :: b₁ :: b₂ :: b₃ :: rest => word b₀ b₁ b₂ b₃ :: words rest
  | _ => []

/-- One compression step over a 64-byte block. -/
def compress (s : State) (block : Bytes) : State :=
  let ws := (words block).toArray
  let t := (List.range 64).foldl (round ws) s
  ⟨s.a + t.a, s.b + t.b, s.c + t.c, s.d + t.d⟩

/-- Bytes of a number, little-endian, `n` of them. -/
def littleEndian : Nat → Nat → Bytes
  | 0, _ => []
  | n + 1, v => (v % 256).toUInt8 :: littleEndian n (v / 256)

/-- The message with its padding and length. -/
def padding (msg : Bytes) : Bytes :=
  let zeros := (119 - msg.length % 64) % 64
  msg ++ [0x80] ++ List.replicate zeros 0 ++ littleEndian 8 (8 * msg.length % Nat.pow 2 64)

/-- The state after every block of a padded message. -/
def blocks (s : State) (bs : Bytes) : State :=
  if bs.length < 64 then s
  else blocks (compress s (bs.take 64)) (bs.drop 64)
termination_by bs.length
decreasing_by simp only [List.length_drop]; omega

/-- Lower-case hexadecimal digits of a word's bytes, little-endian. -/
def wordHex (w : UInt32) : Text :=
  (littleEndian 4 w.toNat).flatMap fun b => Text.hexLower 2 b.toNat

/-- The digest of a message as 32 hexadecimal digits. -/
def hexDigest (msg : Bytes) : Text :=
  let s := blocks initial (padding msg)
  wordHex s.a ++ wordHex s.b ++ wordHex s.c ++ wordHex s.d

end Md5

end LocationDrift
