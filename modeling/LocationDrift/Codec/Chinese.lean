import LocationDrift.Codec.Units
import LocationDrift.Charset.Table
import LocationDrift.Charset.Gb2312
import LocationDrift.Charset.Big5
import LocationDrift.Charset.Hkscs
import LocationDrift.Charset.Vendor

/-!
# Chinese codecs

The codecs of GB 2312 and its extensions GBK and GB 18030, and of Big5 with code page 950 and
HKSCS. Bytes below `0x80` are ASCII; every other unit is two bytes, or four in GB 18030.

**GB 2312.** Two bytes of the upper half are a cell of GB 2312.

**GBK.** A lead byte from `0x81` to `0xFE` and a trail byte. `A1 AA`, `A8 44` and `A1 A4` are
U+2014, U+2015 and U+00B7; then come the cells of GB 2312 and the extension. The extension cells
of GBK/3 (leads `0x81`–`0xA0`, trails `0x40`–`0xFE`) and GBK/4 (leads `0xAA`–`0xFE`, trails
`0x40`–`0xA0`), the trail `0x7F` left out, hold in order the unified ideographs of U+4E00 to
U+9FA5 that GB 2312 lacks, as far as they go; the other extension cells are those of
`Charset.gbkSymbolRuns`.

**GB 18030.** A two-byte code is one of GBK or of `Charset.gb18030Segments`. A second byte from
`0x30` to `0x39` starts a four-byte code `b1 b2 b3 b4`, with `b1` and `b3` from `0x81` to `0xFE` and
`b4` from `0x30` to `0x39`, counted as `n = ((b1 - 0x81) · 10 + b2 - 0x30) · 1260 + (b3 - 0x81) · 10 +
b4 - 0x30`. The codes with `n` below 39420 stand, in order, for the code points from U+0080 to
U+FFFF that are no surrogate and that no one- or two-byte code reaches; those with `b1` at least
`0x90` stand for U+10000 on, `n - 189000` after it, up to U+10FFFF.

**HZ.** Seven-bit text in two modes, ASCII at the start. In ASCII mode `~~` is a tilde, `~` and a
line feed stand for nothing, `~{` switches to GB mode and any other byte below `0x80` stands for
itself; in GB mode `~}` switches back and every other unit is two bytes, a cell of GB 2312. Any
other tilde sequence, a byte from `0x80` and a unit cut short are refused.

**Big5.** A lead byte and a trail byte are a cell of Big5; `cp950` reads its own cells
(`Charset.cp950Runs`) first. `big5hkscs` reads Big5 outside the block from `C6 A1` to `C8 FE`, and
then the supplementary cells, four of which hold a letter and a combining mark.
-/

namespace LocationDrift

namespace Codec

namespace Chinese

open Charset

/-- GB 2312. -/
def gb2312 : CodeTable := .ofGrid gb2312Runs

/-- The extension cells of GBK that hold no unified ideograph. -/
def gbkSymbols : CodeTable := .ofPairs gbkSymbolRuns

/-- Big5. -/
def big5 : CodeTable := .ofPairs big5Runs

/-- The cells code page 950 reads before Big5. -/
def cp950Table : CodeTable := .ofPairs cp950Runs

/-- The supplementary cells of HKSCS that hold one character. -/
def hkscs : CodeTable := .ofPairs hkscsRuns

/-- The unit reader of `gb2312`. -/
def gb2312Unit (b : UInt8) (rest : Bytes) : Option (Text × Nat) :=
  let a := b.toNat
  if a < 0x80 then single a
  else
    match rest with
    | c :: _ => unitOf 1 ((upperCell? a c.toNat).bind gb2312.get?)
    | [] => none

/-- The characters of GB 2312, marked in an array over the code points below U+10000. -/
def inGb2312 : Array Bool :=
  gb2312.cells.foldl (fun marks c => if c = 0 then marks else marks.setIfInBounds c true)
    (Array.replicate 0x10000 false)

/-- The unified ideographs from U+4E00 to U+9FA5 that GB 2312 lacks, in order. -/
def gbkIdeographs : Array Nat :=
  ((List.range (0x9FA6 - 0x4E00)).map (· + 0x4E00)).filter (fun c => !inGb2312.getD c false)
    |>.toArray

/-- The place of a trail byte from `0x40` on among the trail bytes without `0x7F`. -/
def trailPlace (t : Nat) : Nat := if t < 0x80 then t - 0x40 else t - 0x41

/-- The place of a code among the cells of GBK/3 and GBK/4, in order. -/
def gbkCellPlace? (a t : Nat) : Option Nat :=
  if t < 0x40 ∨ t = 0x7F then none
  else if 0x81 ≤ a ∧ a ≤ 0xA0 ∧ t ≤ 0xFE then some ((a - 0x81) * 190 + trailPlace t)
  else if 0xAA ≤ a ∧ a ≤ 0xFE ∧ t ≤ 0xA0 then some (6080 + (a - 0xAA) * 96 + trailPlace t)
  else none

/-- A cell of the GBK extension. -/
def gbkExtension? (a t : Nat) : Option Nat :=
  match gbkSymbols.get? (a * 256 + t) with
  | some c => some c
  | none => (gbkCellPlace? a t).bind fun i => gbkIdeographs[i]?

/-- A two-byte code of GBK. -/
def gbkPair? (a t : Nat) : Option Nat :=
  if a = 0xA1 ∧ t = 0xAA then some 0x2014
  else if a = 0xA8 ∧ t = 0x44 then some 0x2015
  else if a = 0xA1 ∧ t = 0xA4 then some 0x00B7
  else ((upperCell? a t).bind gb2312.get?).orElse fun _ => gbkExtension? a t

/-- The unit reader of `gbk`. -/
def gbkUnit (b : UInt8) (rest : Bytes) : Option (Text × Nat) :=
  let a := b.toNat
  if a < 0x80 then single a
  else
    match rest with
    | c :: _ => unitOf 1 (gbkPair? a c.toNat)
    | [] => none

/-- The character of a code in one of the segments. -/
def segmentAt? (segments : List (Nat × Nat × Nat)) (code : Nat) : Option Nat :=
  segments.findSome? fun (first, c, n) =>
    if first ≤ code ∧ code < first + n then some (c + (code - first)) else none

/-- A two-byte code of GB 18030. -/
def gb18030Pair? (a t : Nat) : Option Nat :=
  (gbkPair? a t).orElse fun _ => segmentAt? gb18030Segments (a * 256 + t)

/-- The code points below U+10000 that some one- or two-byte code of GB 18030 reaches. -/
def gb18030Reached : Array Bool :=
  let marks := (List.range 0x80).foldl (fun marks c => marks.setIfInBounds c true)
    (Array.replicate 0x10000 false)
  (List.range 126).foldl (fun marks i =>
    (List.range 0x100).foldl (fun marks t =>
      match gb18030Pair? (0x81 + i) t with
      | some c => marks.setIfInBounds c true
      | none => marks) marks) marks

/-- The code points the four-byte codes below 39420 stand for, in order. -/
def gb18030FourByte : Array Nat :=
  ((List.range (0x10000 - 0x80)).map (· + 0x80)).filter
    (fun c => !Text.isSurrogate c && !gb18030Reached.getD c true) |>.toArray

/-- The code point of a four-byte code of GB 18030. -/
def gb18030Four? (a b c d : Nat) : Option Nat :=
  if a < 0x81 ∨ a > 0xFE ∨ c < 0x81 ∨ c > 0xFE ∨ d < 0x30 ∨ d > 0x39 then none
  else
    let n := ((a - 0x81) * 10 + (b - 0x30)) * 1260 + (c - 0x81) * 10 + (d - 0x30)
    if n < 39420 then gb18030FourByte[n]?
    else if a ≥ 0x90 ∧ n - 189000 + 0x10000 ≤ 0x10FFFF then some (n - 189000 + 0x10000)
    else none

/-- The unit reader of `gb18030`. -/
def gb18030Unit (b : UInt8) (rest : Bytes) : Option (Text × Nat) :=
  let a := b.toNat
  if a < 0x80 then single a
  else
    match rest with
    | t :: more =>
      let t := t.toNat
      if 0x30 ≤ t ∧ t ≤ 0x39 then
        match more with
        | c :: d :: _ => unitOf 3 (gb18030Four? a t c.toNat d.toNat)
        | _ => none
      else unitOf 1 (gb18030Pair? a t)
    | [] => none

/-- Decode HZ, in GB mode or not. -/
def decodeHz (gb : Bool) : Bytes → Option Text
  | [] => some []
  | 0x7E :: rest =>
    match rest with
    | [] => none
    | d :: more =>
      if d == 0x7E && !gb then (0x7E :: ·) <$> decodeHz gb more
      else if d == 0x7B && !gb then decodeHz true more
      else if d == 0x0A && !gb then decodeHz gb more
      else if d == 0x7D && gb then decodeHz false more
      else none
  | b :: rest =>
    if b ≥ 0x80 then none
    else if !gb then (b.toNat :: ·) <$> decodeHz gb rest
    else
      match rest with
      | d :: more =>
        match gb2312.get? (b.toNat * 256 + d.toNat) with
        | some c => (c :: ·) <$> decodeHz gb more
        | none => none
      | [] => none

/-- The unit reader of `big5`. -/
def big5Unit (b : UInt8) (rest : Bytes) : Option (Text × Nat) :=
  let a := b.toNat
  if a < 0x80 then single a
  else
    match rest with
    | c :: _ => unitOf 1 (big5.get? (a * 256 + c.toNat))
    | [] => none

/-- The unit reader of `cp950`. -/
def cp950Unit (b : UInt8) (rest : Bytes) : Option (Text × Nat) :=
  let a := b.toNat
  if a < 0x80 then single a
  else
    match rest with
    | c :: _ =>
      let code := a * 256 + c.toNat
      unitOf 1 ((cp950Table.get? code).orElse fun _ => big5.get? code)
    | [] => none

/-- The codes HKSCS reads instead of Big5: from `C6 A1` to `C8 FE`. -/
def inHkscsBlock (a t : Nat) : Bool := 0xC6 ≤ a && a ≤ 0xC8 && !(a == 0xC6 && t < 0xA1)

/-- The unit reader of `big5hkscs`. -/
def big5hkscsUnit (b : UInt8) (rest : Bytes) : Option (Text × Nat) :=
  let a := b.toNat
  if a < 0x80 then single a
  else
    match rest with
    | c :: _ =>
      let t := c.toNat
      let code := a * 256 + t
      let fromBig5 := if inHkscsBlock a t then none else big5.get? code
      match fromBig5.orElse fun _ => hkscs.get? code with
      | some ch => unitOf 1 (some ch)
      | none => (pairAt? hkscsPairs code).map (·, 1)
    | [] => none

end Chinese

end Codec

end LocationDrift
