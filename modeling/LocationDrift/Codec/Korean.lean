import LocationDrift.Codec.Units
import LocationDrift.Charset.Table
import LocationDrift.Charset.KsX1001

/-!
# Korean codecs

The codecs of KS X 1001: `euc_kr`, its extension `cp949`, and `johab`. Bytes below `0x80` are
ASCII; every other unit is two bytes, or eight for a make-up sequence of `euc_kr`.

**EUC-KR.** Two bytes of the upper half are a cell of KS X 1001, except that the Hangul filler
`A4 D4` starts a make-up sequence of eight bytes: the filler and three jamo `A4 xx`, a leading
consonant, a vowel and a final consonant (or the filler for none), which stand for the
precomposed syllable.

**Code page 949.** The cells of KS X 1001, then the extension: the codes with a lead byte from
`0x81` to `0xC6` and a trail byte in `0x41`–`0x5A`, `0x61`–`0x7A` or `0x81`–`0xFE` (below `0xA1`
when the lead is), taken in order, hold the Hangul syllables KS X 1001 lacks, in order.

**Johab.** A lead byte below `0xD8` and its trail byte hold three five-bit fields, the leading
consonant, the vowel and the final consonant, each possibly a filler: all three filled give a
syllable, and a single one filled gives its compatibility jamo (all fillers give U+3000). A lead
byte from `0xD9` on maps the other cells of KS X 1001: two rows per lead byte, with trail bytes
`0x31`–`0x7E` and `0x91`–`0xFE`, and no lead `0xD8` or `0xDF`, no lead above `0xF9` and no cell
of the Hangul block `DA A1`–`DA D3`.
-/

namespace LocationDrift

namespace Codec

namespace Korean

open Charset

/-- KS X 1001. -/
def ksX1001 : CodeTable := .ofGrid ksX1001Runs

/-- The first precomposed Hangul syllable. -/
def syllableBase : Nat := 0xAC00

/-- The leading consonant of a make-up jamo `A4 A1` to `A4 BE`. -/
def makeUpLead : List (Option Nat) :=
  [some 0, some 1, none, some 2, none, none, some 3, some 4, some 5, none, none, none, none, none,
    none, none, some 6, some 7, some 8, none, some 9, some 10, some 11, some 12, some 13, some 14,
    some 15, some 16, some 17, some 18]

/-- The final consonant of a make-up jamo `A4 A1` to `A4 BE`. -/
def makeUpTail : List (Option Nat) :=
  [some 1, some 2, some 3, some 4, some 5, some 6, some 7, none, some 8, some 9, some 10, some 11,
    some 12, some 13, some 14, some 15, some 16, some 17, none, some 18, some 19, some 20, some 21,
    some 22, none, some 23, some 24, some 25, some 26, some 27]

/-- The jamo of a make-up sequence from a list, for a byte from `0xA1` to `0xBE`. -/
def jamoOf (table : List (Option Nat)) (b : Nat) : Option Nat :=
  if 0xA1 ≤ b ∧ b ≤ 0xBE then (table[b - 0xA1]?).bind id else none

/-- The syllable of a make-up sequence, from the bytes after the filler. -/
def makeUp? : Bytes → Option Nat
  | a1 :: l :: a2 :: v :: a3 :: f :: _ =>
    if a1 != 0xA4 || a2 != 0xA4 || a3 != 0xA4 then none
    else do
      let lead ← jamoOf makeUpLead l.toNat
      let vowel ← if 0xBF ≤ v.toNat ∧ v.toNat ≤ 0xD3 then some (v.toNat - 0xBF) else none
      let tail ← if f == 0xD4 then some 0 else jamoOf makeUpTail f.toNat
      some (syllableBase + lead * 588 + vowel * 28 + tail)
  | _ => none

/-- The unit reader of `euc_kr`. -/
def eucKrUnit (b : UInt8) (rest : Bytes) : Option (Text × Nat) :=
  let a := b.toNat
  if a < 0x80 then single a
  else
    match rest with
    | c :: more =>
      if a = 0xA4 ∧ c.toNat = 0xD4 then unitOf 7 (makeUp? more)
      else unitOf 1 ((upperCell? a c.toNat).bind ksX1001.get?)
    | [] => none

/-- The syllables of KS X 1001, marked by their place among all syllables. -/
def inKsX1001 : Array Bool :=
  ksX1001.cells.foldl (fun marks c =>
      if syllableBase ≤ c ∧ c < syllableBase + 11172 then marks.setIfInBounds (c - syllableBase) true
      else marks)
    (Array.replicate 11172 false)

/-- The syllables KS X 1001 lacks, in order. -/
def cp949Syllables : Array Nat :=
  ((List.range 11172).filter fun i => !inKsX1001.getD i true).map (syllableBase + ·) |>.toArray

/-- The place of a trail byte among `0x41`–`0x5A`, `0x61`–`0x7A` and `0x81`–`0xFE`. -/
def cp949TrailPlace? (t : Nat) : Option Nat :=
  if 0x41 ≤ t ∧ t ≤ 0x5A then some (t - 0x41)
  else if 0x61 ≤ t ∧ t ≤ 0x7A then some (t - 0x61 + 26)
  else if 0x81 ≤ t ∧ t ≤ 0xFE then some (t - 0x81 + 52)
  else none

/-- The place of a code among the extension cells of code page 949, in order. -/
def cp949CellPlace? (a t : Nat) : Option Nat :=
  (cp949TrailPlace? t).bind fun p =>
    if 0x81 ≤ a ∧ a < 0xA1 then some ((a - 0x81) * 178 + p)
    else if 0xA1 ≤ a ∧ a ≤ 0xC6 ∧ t < 0xA1 then some (32 * 178 + (a - 0xA1) * 84 + p)
    else none

/-- The unit reader of `cp949`. -/
def cp949Unit (b : UInt8) (rest : Bytes) : Option (Text × Nat) :=
  let a := b.toNat
  if a < 0x80 then single a
  else
    match rest with
    | c :: _ =>
      let t := c.toNat
      unitOf 1 (((upperCell? a t).bind ksX1001.get?).orElse fun _ =>
        (cp949CellPlace? a t).bind fun i => cp949Syllables[i]?)
    | [] => none

/-- What a five-bit field of a Johab code stands for. -/
inductive Field where
  /-- The filler: no jamo here. -/
  | fill
  /-- A jamo, by its index among the syllable's jamo of its kind. -/
  | jamo (index : Nat)
deriving DecidableEq, Repr

/-- The leading consonants of the five-bit field values. -/
def johabLead : List (Option Field) :=
  [none, some .fill] ++ (List.range 19).map (some ∘ .jamo) ++ List.replicate 11 none

/-- The vowels of the five-bit field values. -/
def johabVowel : List (Option Field) :=
  [none, none, some .fill] ++ (List.range 5).map (some ∘ .jamo) ++ [none, none] ++
    (List.range 6).map (some ∘ .jamo ∘ (· + 5)) ++ [none, none] ++
    (List.range 6).map (some ∘ .jamo ∘ (· + 11)) ++ [none, none] ++
    (List.range 4).map (some ∘ .jamo ∘ (· + 17)) ++ [none, none]

/-- The final consonants of the five-bit field values. -/
def johabTail : List (Option Field) :=
  [none, some .fill] ++ (List.range 16).map (some ∘ .jamo ∘ (· + 1)) ++ [none] ++
    (List.range 11).map (some ∘ .jamo ∘ (· + 17)) ++ [none, none]

/-- The compatibility jamo of the leading consonant fields, as offsets from U+3100. -/
def johabLeadJamo : List Nat :=
  [0, 0, 0x31, 0x32, 0x34, 0x37, 0x38, 0x39, 0x41, 0x42, 0x43, 0x45, 0x46, 0x47, 0x48, 0x49, 0x4A,
    0x4B, 0x4C, 0x4D, 0x4E]

/-- The compatibility jamo of the vowel fields, as offsets from U+3100. -/
def johabVowelJamo : List Nat :=
  [0, 0, 0, 0x4F, 0x50, 0x51, 0x52, 0x53, 0, 0, 0x54, 0x55, 0x56, 0x57, 0x58, 0x59, 0, 0, 0x5A,
    0x5B, 0x5C, 0x5D, 0x5E, 0x5F, 0, 0, 0x60, 0x61, 0x62, 0x63]

/-- The compatibility jamo of the final consonant fields, as offsets from U+3100. -/
def johabTailJamo : List Nat :=
  [0, 0, 0x31, 0x32, 0x33, 0x34, 0x35, 0x36, 0x37, 0x39, 0x3A, 0x3B, 0x3C, 0x3D, 0x3E, 0x3F, 0x40,
    0x41, 0, 0x42, 0x44, 0x45, 0x46, 0x47, 0x48, 0x4A, 0x4B, 0x4C, 0x4D, 0x4E]

/-- The character of a Johab Hangul code, from its three fields. -/
def johabHangul? (l v f : Nat) : Option Nat := do
  let lead ← (johabLead[l]?).bind id
  let vowel ← (johabVowel[v]?).bind id
  let tail ← (johabTail[f]?).bind id
  match lead, vowel, tail with
  | .fill, .fill, .fill => some 0x3000
  | .fill, .fill, .jamo _ => some (0x3100 + johabTailJamo.getD f 0)
  | .fill, .jamo _, .fill => some (0x3100 + johabVowelJamo.getD v 0)
  | .jamo _, .fill, .fill => some (0x3100 + johabLeadJamo.getD l 0)
  | .jamo i, .jamo j, .fill => some (syllableBase + i * 588 + j * 28)
  | .jamo i, .jamo j, .jamo k => some (syllableBase + i * 588 + j * 28 + k)
  | _, _, _ => none

/-- The cell of KS X 1001 a Johab symbol or hanja code stands for. -/
def johabCell? (a t : Nat) : Option Nat :=
  if a < 0xD9 ∨ a = 0xDF ∨ a > 0xF9 ∨ t < 0x31 ∨ (0x80 ≤ t ∧ t < 0x91) ∨ t % 128 = 0x7F ∨
      (a = 0xDA ∧ 0xA1 ≤ t ∧ t ≤ 0xD3) then none
  else
    let r := if a < 0xE0 then 2 * (a - 0xD9) else 2 * a - 0x197
    let p := if t < 0x91 then t - 0x31 else t - 0x43
    if p < 0x5E then some ((r + 0x21) * 256 + p + 0x21)
    else some ((r + 0x22) * 256 + (p - 0x5E) + 0x21)

/-- The unit reader of `johab`. -/
def johabUnit (b : UInt8) (rest : Bytes) : Option (Text × Nat) :=
  let a := b.toNat
  if a < 0x80 then single a
  else
    match rest with
    | c :: _ =>
      let t := c.toNat
      if a < 0xD8 then
        unitOf 1 (johabHangul? (a / 4 % 32) ((a * 8 + t / 32) % 32) (t % 32))
      else unitOf 1 ((johabCell? a t).bind ksX1001.get?)
    | [] => none

end Korean

end Codec

end LocationDrift
