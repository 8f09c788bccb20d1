import LocationDrift.Codec.Units
import LocationDrift.Charset.Table
import LocationDrift.Charset.JisX0208
import LocationDrift.Charset.JisX0212
import LocationDrift.Charset.JisX0213
import LocationDrift.Charset.Vendor

/-!
# Japanese codecs

The codecs of JIS X 0208, JIS X 0212 and JIS X 0213, in their EUC and Shift_JIS forms. Bytes
below `0x80` are ASCII unless said otherwise; the halfwidth katakana of JIS X 0201 are the
characters U+FF61 to U+FF9F.

**EUC.** `0x8E` and a byte from `0xA1` to `0xDF` is a halfwidth katakana; `0x8F` and two bytes of
the upper half is a cell of the supplementary plane; two bytes of the upper half are a cell of the
main plane. For `euc_jp` the planes are JIS X 0212 and JIS X 0208. For `euc_jis_2004` and
`euc_jisx0213` they are JIS X 0213 plane 2, then JIS X 0212 for the cells plane 2 lacks, and
JIS X 0213 plane 1, whose cell `0x2232` is U+FF5E.

**Shift_JIS.** A lead byte and a trail byte from `0x40` to `0x7E` or `0x80` to `0xFC` give two
rows of 94 cells per lead byte (`sjisCell?`). `shift_jis` has the bytes `0xA1` to `0xDF` as
katakana and the leads `0x81`–`0x9F` and `0xE0`–`0xEA` for JIS X 0208. `cp932` adds `0x80` as
itself, `0xA0` and `0xFD` to `0xFF` as U+F8F0 to U+F8F3, the vendor cells (`Charset.cp932Runs`)
before JIS X 0208, and the leads `0xF0` to `0xF9` as the private use area from U+E000, 188
characters a lead. `shift_jis_2004` and `shift_jisx0213` read `0x5C` as the yen sign and `0x7E`
as the overline, and their leads reach `0xFC`: the first 94 rows are plane 1 (its cell `0x2140`
being the reverse solidus) and the rest are rows of plane 2.

**JIS X 0213:2000.** `euc_jisx0213` and `shift_jisx0213` follow the edition of 2000: the ten
cells of plane 1 that 2004 added have no character (`addedIn2004`), and the plane 2 cell `0x7D3B`
is U+9B1D.
-/

namespace LocationDrift

namespace Codec

namespace Japanese

open Charset

/-- JIS X 0208. -/
def jisX0208 : CodeTable := .ofGrid jisX0208Runs

/-- JIS X 0212. -/
def jisX0212 : CodeTable := .ofGrid jisX0212Runs

/-- The cells JIS X 0213 plane 1 adds to JIS X 0208. -/
def jisX0213One : CodeTable := .ofGrid jisX0213OneRuns

/-- JIS X 0213 plane 2. -/
def jisX0213Two : CodeTable := .ofGrid jisX0213TwoRuns

/-- A halfwidth katakana byte. -/
def katakana? (b : Nat) : Option Nat := if 0xA1 ≤ b ∧ b ≤ 0xDF then some (0xFEC0 + b) else none

/-- The row counted from zero and the column byte of a Shift_JIS byte pair; none for a trail
byte outside `0x40`–`0x7E` and `0x80`–`0xFC`. -/
def sjisCell? (lead trail : Nat) : Option (Nat × Nat) :=
  if trail < 0x40 ∨ trail = 0x7F ∨ trail > 0xFC then none
  else
    let r := if lead < 0xE0 then lead - 0x81 else lead - 0xC1
    let t := if trail < 0x80 then trail - 0x40 else trail - 0x41
    if t < 0x5E then some (2 * r, t + 0x21) else some (2 * r + 1, t - 0x5E + 0x21)

/-- The cells of plane 1 that the edition of 2004 added. -/
def addedIn2004 : List Nat :=
  [0x2E21, 0x2F7E, 0x4F54, 0x4F7E, 0x7427, 0x7E7A, 0x7E7B, 0x7E7C, 0x7E7D, 0x7E7E]

/-- A cell of JIS X 0213 plane 1, in the edition of 2000 or of 2004. -/
def planeOne? (edition2000 : Bool) (code : Nat) : Option Text :=
  if edition2000 && addedIn2004.contains code then none
  else
    match jisX0208.get? code with
    | some c => some [c]
    | none =>
      match jisX0213One.get? code with
      | some c => some [c]
      | none => pairAt? jisX0213OnePairs code

/-- A cell of JIS X 0213 plane 2, in the edition of 2000 or of 2004. -/
def planeTwo? (edition2000 : Bool) (code : Nat) : Option Nat :=
  if edition2000 && code == 0x7D3B then some 0x9B1D else jisX0213Two.get? code

/-- The unit reader of `euc_jp`. -/
def eucJpUnit (b : UInt8) (rest : Bytes) : Option (Text × Nat) :=
  let a := b.toNat
  if a < 0x80 then single a
  else
    match a, rest with
    | 0x8E, c :: _ => unitOf 1 (katakana? c.toNat)
    | 0x8F, c :: d :: _ => unitOf 2 ((upperCell? c.toNat d.toNat).bind jisX0212.get?)
    | 0x8E, [] | 0x8F, _ => none
    | _, c :: _ => unitOf 1 ((upperCell? a c.toNat).bind jisX0208.get?)
    | _, [] => none

/-- The unit reader of `euc_jis_2004` and, in the edition of 2000, `euc_jisx0213`. -/
def eucJis2004Unit (edition2000 : Bool) (b : UInt8) (rest : Bytes) : Option (Text × Nat) :=
  let a := b.toNat
  if a < 0x80 then single a
  else
    match a, rest with
    | 0x8E, c :: _ => unitOf 1 (katakana? c.toNat)
    | 0x8F, c :: d :: _ =>
      unitOf 2 ((upperCell? c.toNat d.toNat).bind fun code =>
        (planeTwo? edition2000 code).orElse fun _ => jisX0212.get? code)
    | 0x8E, [] | 0x8F, _ => none
    | _, c :: _ =>
      ((upperCell? a c.toNat).bind fun code =>
        if code == 0x2232 then some [0xFF5E] else planeOne? edition2000 code).map (·, 1)
    | _, [] => none

/-- The unit reader of `shift_jis`. -/
def shiftJisUnit (b : UInt8) (rest : Bytes) : Option (Text × Nat) :=
  let a := b.toNat
  if a < 0x80 then single a
  else if 0xA1 ≤ a ∧ a ≤ 0xDF then unitOf 0 (katakana? a)
  else if (0x81 ≤ a ∧ a ≤ 0x9F) ∨ (0xE0 ≤ a ∧ a ≤ 0xEA) then
    match rest with
    | c :: _ =>
      unitOf 1 ((sjisCell? a c.toNat).bind fun (r, col) => jisX0208.get? ((r + 0x21) * 256 + col))
    | [] => none
  else none

/-- The vendor cells of code page 932. -/
def cp932Table : CodeTable := .ofPairs cp932Runs

/-- The unit reader of `cp932`. -/
def cp932Unit (b : UInt8) (rest : Bytes) : Option (Text × Nat) :=
  let a := b.toNat
  if a ≤ 0x80 then single a
  else if a = 0xA0 then unitOf 0 (some 0xF8F0)
  else if 0xA1 ≤ a ∧ a ≤ 0xDF then unitOf 0 (katakana? a)
  else if a ≥ 0xFD then unitOf 0 (some (0xF8F1 + (a - 0xFD)))
  else
    match rest with
    | c :: _ =>
      let t := c.toNat
      match cp932Table.get? (a * 256 + t) with
      | some ch => unitOf 1 (some ch)
      | none =>
        if (0x81 ≤ a ∧ a ≤ 0x9F) ∨ (0xE0 ≤ a ∧ a ≤ 0xEA) then
          unitOf 1 ((sjisCell? a t).bind fun (r, col) => jisX0208.get? ((r + 0x21) * 256 + col))
        else if 0xF0 ≤ a ∧ a ≤ 0xF9 ∧ ((0x40 ≤ t ∧ t ≤ 0x7E) ∨ (0x80 ≤ t ∧ t ≤ 0xFC)) then
          unitOf 1 (some (0xE000 + 188 * (a - 0xF0) + (if t < 0x80 then t - 0x40 else t - 0x41)))
        else none
    | [] => none

/-- The row of plane 2 that a Shift_JIS row from 94 on stands for. -/
def planeTwoRow (r : Nat) : Nat :=
  if r ≥ 0x67 then r + 0x07 else if r ≥ 0x63 ∨ r = 0x5F then r - 0x37 else r - 0x3D

/-- The unit reader of `shift_jis_2004` and, in the edition of 2000, `shift_jisx0213`. -/
def shiftJis2004Unit (edition2000 : Bool) (b : UInt8) (rest : Bytes) : Option (Text × Nat) :=
  let a := b.toNat
  if a = 0x5C then single 0xA5
  else if a = 0x7E then single 0x203E
  else if a < 0x80 then single a
  else if 0xA1 ≤ a ∧ a ≤ 0xDF then unitOf 0 (katakana? a)
  else if (0x81 ≤ a ∧ a ≤ 0x9F) ∨ (0xE0 ≤ a ∧ a ≤ 0xFC) then
    match rest with
    | c :: _ =>
      ((sjisCell? a c.toNat).bind fun (r, col) =>
        if r < 0x5E then
          let code := (r + 0x21) * 256 + col
          if code == 0x2140 then some [0x5C] else planeOne? edition2000 code
        else (planeTwo? edition2000 (planeTwoRow r * 256 + col)).map fun ch => [ch]).map (·, 1)
    | [] => none
  else none

end Japanese

end Codec

end LocationDrift
