import LocationDrift.Text.Utf8

/-!
# UTF-16 and UTF-32

**UTF-16.** Bytes are read in pairs, in the given byte order; a high surrogate must be followed by
a low one and the two make one code point, and no other surrogate may appear. An odd byte at the
end is refused.

**UTF-32.** Bytes are read in fours; a value above U+10FFFF or in the surrogate range is refused, as
is a length that is no multiple of four.

**Byte order marks.** The codecs without a fixed order read a leading mark (`FF FE` or `FE FF` for
UTF-16, `FF FE 00 00` or `00 00 FE FF` for UTF-32), drop it and follow it; without a mark they
read little-endian.
-/

namespace LocationDrift

namespace Codec

/-- The value of two bytes in the given order. -/
def unit16 (bigEndian : Bool) (a b : UInt8) : Nat :=
  if bigEndian then a.toNat * 256 + b.toNat else b.toNat * 256 + a.toNat

/-- UTF-16 in one byte order. -/
def decodeUtf16 (bigEndian : Bool) : Bytes → Option Text
  | [] => some []
  | [_] => none
  | a :: b :: rest =>
    let u := unit16 bigEndian a b
    if u < 0xD800 || u > 0xDFFF then (u :: ·) <$> decodeUtf16 bigEndian rest
    else if u ≤ 0xDBFF then
      match rest with
      | c :: d :: rest2 =>
        let w := unit16 bigEndian c d
        if 0xDC00 ≤ w && w ≤ 0xDFFF then
          ((0x10000 + (u - 0xD800) * 0x400 + (w - 0xDC00)) :: ·) <$> decodeUtf16 bigEndian rest2
        else none
      | _ => none
    else none

/-- UTF-32 in one byte order. -/
def decodeUtf32 (bigEndian : Bool) : Bytes → Option Text
  | [] => some []
  | a :: b :: c :: d :: rest =>
    let v := if bigEndian then ((a.toNat * 256 + b.toNat) * 256 + c.toNat) * 256 + d.toNat
      else ((d.toNat * 256 + c.toNat) * 256 + b.toNat) * 256 + a.toNat
    if v > 0x10FFFF || (0xD800 ≤ v && v ≤ 0xDFFF) then none
    else (v :: ·) <$> decodeUtf32 bigEndian rest
  | _ => none

/-- UTF-16 after an optional byte order mark. -/
def decodeUtf16Marked : Bytes → Option Text
  | 0xFF :: 0xFE :: rest => decodeUtf16 false rest
  | 0xFE :: 0xFF :: rest => decodeUtf16 true rest
  | bs => decodeUtf16 false bs

/-- UTF-32 after an optional byte order mark. -/
def decodeUtf32Marked : Bytes → Option Text
  | 0xFF :: 0xFE :: 0 :: 0 :: rest => decodeUtf32 false rest
  | 0 :: 0 :: 0xFE :: 0xFF :: rest => decodeUtf32 true rest
  | bs => decodeUtf32 false bs

/-- UTF-8 after an optional signature `EF BB BF`. -/
def decodeUtf8Signed : Bytes → Option Text
  | 0xEF :: 0xBB :: 0xBF :: rest => Utf8.decode? rest
  | bs => Utf8.decode? bs

end Codec

end LocationDrift
