import LocationDrift.Text.Basic

/-!
# UTF-8

**Encoding.** A scalar value takes one to four bytes. A surrogate has no encoding: strict encoding
fails at the first surrogate and reports the run of surrogates that starts there. The escaping
variant, used for file names, writes a surrogate U+DC80 to U+DCFF as the single byte it stands for
(`0x80` to `0xFF`) and fails like the strict one at any other surrogate.

**Decoding.** Strict decoding accepts only well-formed UTF-8: no overlong form, no surrogate, nothing
above U+10FFFF. The replacing variant writes U+FFFD for each maximal ill-formed subpart: a byte that
cannot start a sequence, or the longest prefix of a sequence that cannot be completed.
-/

namespace LocationDrift

/-- A list of bytes. -/
abbrev Bytes := List UInt8

/-- A run of code points that an encoding cannot write: positions `start` up to `stop` (exclusive)
of the text, the first of them `first`. -/
structure Unencodable where
  start : Nat
  stop : Nat
  first : Nat
deriving DecidableEq, Repr, Inhabited

namespace Unencodable

/-- How a code point is shown in a message: `\xhh`, `\uhhhh` or `\Uhhhhhhhh`. -/
def escapedPoint (c : Nat) : Text :=
  if c ≤ 0xFF then Text.ofString "\\x" ++ Text.hexLower 2 c
  else if c ≤ 0xFFFF then Text.ofString "\\u" ++ Text.hexLower 4 c
  else Text.ofString "\\U" ++ Text.hexLower 8 c

/-- The message of a failed UTF-8 encoding. -/
def message (e : Unencodable) : Text :=
  if e.stop = e.start + 1 then
    Text.ofString "'utf-8' codec can't encode character '" ++ escapedPoint e.first ++
      Text.ofString "' in position " ++ Text.ofNat e.start ++ Text.ofString ": surrogates not allowed"
  else
    Text.ofString "'utf-8' codec can't encode characters in position " ++ Text.ofNat e.start ++
      [45] ++ Text.ofNat (e.stop - 1) ++ Text.ofString ": surrogates not allowed"

end Unencodable

/-- Why a run of bytes is not UTF-8. -/
inductive DecodeReason where
  | invalidStart
  | invalidContinuation
  | unexpectedEnd
deriving DecidableEq, Repr, Inhabited

/-- The first ill-formed part of some bytes: positions `start` up to `stop` (exclusive), the first
byte `first`, and why. -/
structure Undecodable where
  start : Nat
  stop : Nat
  first : UInt8
  reason : DecodeReason
deriving DecidableEq, Repr, Inhabited

namespace Undecodable

/-- The message of a failed UTF-8 decoding. -/
def message (e : Undecodable) : Text :=
  let why := match e.reason with
    | .invalidStart => "invalid start byte"
    | .invalidContinuation => "invalid continuation byte"
    | .unexpectedEnd => "unexpected end of data"
  if e.stop = e.start + 1 then
    Text.ofString "'utf-8' codec can't decode byte 0x" ++ Text.hexLower 2 e.first.toNat ++
      Text.ofString " in position " ++ Text.ofNat e.start ++ Text.ofString (": " ++ why)
  else
    Text.ofString "'utf-8' codec can't decode bytes in position " ++ Text.ofNat e.start ++ [45] ++
      Text.ofNat (e.stop - 1) ++ Text.ofString (": " ++ why)

end Undecodable

namespace Utf8

/-- The bytes of one code point (a surrogate is written like any value below U+10000). -/
def encodePoint (c : Nat) : Bytes :=
  if c < 0x80 then [c.toUInt8]
  else if c < 0x800 then [(0xC0 + c / 64).toUInt8, (0x80 + c % 64).toUInt8]
  else if c < 0x10000 then
    [(0xE0 + c / 4096).toUInt8, (0x80 + c / 64 % 64).toUInt8, (0x80 + c % 64).toUInt8]
  else
    [(0xF0 + c / 262144).toUInt8, (0x80 + c / 4096 % 64).toUInt8, (0x80 + c / 64 % 64).toUInt8,
      (0x80 + c % 64).toUInt8]

/-- A surrogate that stands for one byte of a file name. -/
def isEscapedByte (c : Nat) : Bool := 0xDC80 ≤ c && c ≤ 0xDCFF

/-- Encode from position `i`; `escaping` writes U+DC80 to U+DCFF as single bytes. -/
def encodeFrom (escaping : Bool) (i : Nat) : Text → Except Unencodable Bytes
  | [] => .ok []
  | c :: rest =>
    if Text.isSurrogate c then
      if escaping && isEscapedByte c then
        ((c - 0xDC00).toUInt8 :: ·) <$> encodeFrom escaping (i + 1) rest
      else .error ⟨i, i + 1 + (rest.takeWhile Text.isSurrogate).length, c⟩
    else (encodePoint c ++ ·) <$> encodeFrom escaping (i + 1) rest

/-- Strict UTF-8 encoding. -/
def encode? (t : Text) : Except Unencodable Bytes := encodeFrom false 0 t

/-- UTF-8 encoding of a file name, with escaped bytes. -/
def encodeName? (t : Text) : Except Unencodable Bytes := encodeFrom true 0 t

/-- A continuation byte. -/
def isCont (b : UInt8) : Bool := 0x80 ≤ b && b ≤ 0xBF

/-- The range the second byte of a sequence must lie in, for a lead byte, and how many bytes
follow it; none for a byte that cannot lead. -/
def leadShape (b : UInt8) : Option (UInt8 × UInt8 × Nat) :=
  if b < 0xC2 then none
  else if b ≤ 0xDF then some (0x80, 0xBF, 1)
  else if b == 0xE0 then some (0xA0, 0xBF, 2)
  else if b == 0xED then some (0x80, 0x9F, 2)
  else if b ≤ 0xEF then some (0x80, 0xBF, 2)
  else if b == 0xF0 then some (0x90, 0xBF, 3)
  else if b ≤ 0xF3 then some (0x80, 0xBF, 3)
  else if b == 0xF4 then some (0x80, 0x8F, 3)
  else none

/-- The value of a lead byte and its continuation bytes. -/
def sequenceValue (lead : UInt8) (conts : Bytes) : Nat :=
  let first := match conts.length with
    | 1 => lead.toNat % 32
    | 2 => lead.toNat % 16
    | _ => lead.toNat % 8
  conts.foldl (fun acc b => acc * 64 + b.toNat % 64) first

/-- How many bytes after a lead byte continue a valid sequence (at most `need`). -/
def validConts (lo hi : UInt8) (need : Nat) : Bytes → Nat
  | [] => 0
  | b :: rest =>
    if need = 0 then 0
    else if lo ≤ b && b ≤ hi then 1 + validConts 0x80 0xBF (need - 1) rest
    else 0

/-- Decode, writing `bad` for each maximal ill-formed subpart, or failing at the first one when
`bad` is none. -/
def decodeWith (bad : Option Nat) : Bytes → Option Text
  | [] => some []
  | b :: rest =>
    if b < 0x80 then (b.toNat :: ·) <$> decodeWith bad rest
    else
      match leadShape b with
      | none => match bad with
        | some r => (r :: ·) <$> decodeWith bad rest
        | none => none
      | some (lo, hi, need) =>
        let k := validConts lo hi need rest
        if k = need then
          (sequenceValue b (rest.take need) :: ·) <$> decodeWith bad (rest.drop need)
        else match bad with
          | some r => (r :: ·) <$> decodeWith bad (rest.drop k)
          | none => none
termination_by bs => bs.length
decreasing_by all_goals (simp only [List.length_cons, List.length_drop]; omega)

/-- The first ill-formed part of bytes that start at position `pos`, if any. -/
def firstUndecodable (pos : Nat) : Bytes → Option Undecodable
  | [] => none
  | b :: rest =>
    if b < 0x80 then firstUndecodable (pos + 1) rest
    else
      match leadShape b with
      | none => some ⟨pos, pos + 1, b, .invalidStart⟩
      | some (lo, hi, need) =>
        let k := validConts lo hi need rest
        if k = need then firstUndecodable (pos + 1 + need) (rest.drop need)
        else
          some ⟨pos, pos + 1 + k, b, if k = rest.length then .unexpectedEnd else .invalidContinuation⟩
termination_by bs => bs.length
decreasing_by all_goals (simp only [List.length_cons, List.length_drop]; omega)

/-- Strict decoding. -/
def decode? (bs : Bytes) : Option Text := decodeWith none bs

/-- Decoding that replaces ill-formed parts by U+FFFD. -/
def decodeReplacing (bs : Bytes) : Text := (decodeWith (some 0xFFFD) bs).getD []

end Utf8

end LocationDrift
