import LocationDrift.Codec.Japanese
import LocationDrift.Codec.Korean
import LocationDrift.Codec.Chinese

/-!
# ISO 2022 codecs

The seven-bit codecs that switch between character sets by escape sequences: `iso2022_kr` and the
`iso2022_jp` family. The decoder keeps three designated sets, `G0`, `G1` and `G2`, all ASCII at
the start, whether `G1` is shifted in, and whether it is passing an unknown escape through.

**Escape sequences.** After `ESC`, one of `(`, `)`, `$`, `.` or `&` starts a designation, which
runs to its final byte, a capital letter or `@`, found among the next fifteen bytes
(`escapeLength?`; with the JIS X 0208 prefix rule, `& @` is stepped over). It must be one of:
* `ESC ( F`, `ESC ) F` and, with a single shift, `ESC . F`: the one-byte set `F` into `G0`,
  `G1` or `G2`;
* `ESC $ F`: the two-byte set `F` into `G0`;
* `ESC $ ( F` and `ESC $ ) F`: the two-byte set `F` into `G0` or `G1`;
* with the prefix rule, `ESC & @ ESC $ B`: JIS X 0208 into `G0`;
and the set must be ASCII (one-byte `B`) or one the codec knows. With a single shift, `ESC N` and
a byte give one character of `G2` (ASCII, ISO 8859-1 or ISO 8859-7). Any other byte after `ESC`
is passed through: `ESC` and every byte after it stand for themselves, up to and including the
next capital letter or `@`.

**Other bytes.** Where shifts are used, `SO` shifts `G1` in and `SI` out; a line feed shifts it
out too and stands for itself. Other bytes below `0x20` stand for themselves; bytes from `0x80`
are refused. A byte from `0x20` to `0x7F` is read in the set in use (`G1` when shifted in, else
`G0`): itself in ASCII, one byte in a one-byte set, two bytes in a two-byte set, and refused when
the set has no character there.

**The codecs.** `iso2022_kr` uses shifts and knows KS X 1001. The others use no shifts and the
prefix rule, and know: `iso2022_jp` JIS X 0208 (`B`, and `@` for its 1978 edition) and the
JIS X 0201 Roman set (`J`); `iso2022_jp_1` JIS X 0212 (`D`) too; `iso2022_jp_ext` JIS X 0212 and
the JIS X 0201 katakana (`I`) too; `iso2022_jp_2` JIS X 0212, KS X 1001 (`C`), GB 2312 (`A`) and,
with a single shift, ISO 8859-1 (`A`) and ISO 8859-7 (`F`) too; `iso2022_jp_2004` and
`iso2022_jp_3` JIS X 0208 and JIS X 0213 plane 1 (`Q` in the edition of 2004, `O` in that of
2000) and plane 2 (`P`).
-/

namespace LocationDrift

namespace Codec

namespace Iso2022

open Charset

/-- A character set an ISO 2022 codec can designate. -/
inductive Graphic where
  | ascii
  | jisX0201Roman
  | jisX0201Kana
  | latin1
  | greek
  | jisX0208Old
  | gb2312
  | jisX0208
  | ksX1001
  | jisX0212
  | jisX0213One2000
  | jisX0213Two
  | jisX0213One2004
deriving DecidableEq, Repr, Inhabited

/-- Whether a set is a two-byte set, and the final byte that names it. -/
def Graphic.mark : Graphic → Bool × Nat
  | ascii => (false, 0x42)
  | jisX0201Roman => (false, 0x4A)
  | jisX0201Kana => (false, 0x49)
  | latin1 => (false, 0x41)
  | greek => (false, 0x46)
  | jisX0208Old => (true, 0x40)
  | gb2312 => (true, 0x41)
  | jisX0208 => (true, 0x42)
  | ksX1001 => (true, 0x43)
  | jisX0212 => (true, 0x44)
  | jisX0213One2000 => (true, 0x4F)
  | jisX0213Two => (true, 0x50)
  | jisX0213One2004 => (true, 0x51)

/-- The characters of a set at a byte, or at two bytes for a two-byte set. -/
def Graphic.read? : Graphic → Nat → Nat → Option Text
  | ascii, c, _ => some [c]
  | jisX0201Roman, c, _ => some [if c == 0x5C then 0xA5 else if c == 0x7E then 0x203E else c]
  | jisX0201Kana, c, _ => if 0x21 ≤ c ∧ c ≤ 0x5F then some [0xFF40 + c] else none
  | latin1, _, _ => none
  | greek, _, _ => none
  | jisX0208Old, c, d => (Japanese.jisX0208.get? (c * 256 + d)).map ([·])
  | gb2312, c, d => (Chinese.gb2312.get? (c * 256 + d)).map ([·])
  | jisX0208, c, d => (Japanese.jisX0208.get? (c * 256 + d)).map ([·])
  | ksX1001, c, d => (Korean.ksX1001.get? (c * 256 + d)).map ([·])
  | jisX0212, c, d => (Japanese.jisX0212.get? (c * 256 + d)).map ([·])
  | jisX0213One2000, c, d => Japanese.planeOne? true (c * 256 + d)
  | jisX0213Two, c, d => (Japanese.jisX0213Two.get? (c * 256 + d)).map ([·])
  | jisX0213One2004, c, d => Japanese.planeOne? false (c * 256 + d)

/-- What an ISO 2022 codec allows. -/
structure Config where
  /-- `SO` and `SI` shift `G1` in and out. -/
  shifts : Bool
  /-- `G2` may be designated and read through `ESC N`. -/
  singleShift : Bool
  /-- `ESC & @ ESC $ B` designates JIS X 0208. -/
  prefixRule : Bool
  /-- The sets besides ASCII that may be designated. -/
  sets : List Graphic

/-- The configurations of the codecs, by name. -/
def configs : List (String × Config) :=
  [("iso2022_kr", ⟨true, false, false, [.ksX1001]⟩),
    ("iso2022_jp", ⟨false, false, true, [.jisX0208, .jisX0201Roman, .jisX0208Old]⟩),
    ("iso2022_jp_1", ⟨false, false, true, [.jisX0208, .jisX0212, .jisX0201Roman, .jisX0208Old]⟩),
    ("iso2022_jp_2", ⟨false, true, true, [.jisX0208, .jisX0212, .ksX1001, .gb2312,
      .jisX0201Roman, .jisX0208Old, .latin1, .greek]⟩),
    ("iso2022_jp_2004", ⟨false, false, true, [.jisX0213One2004, .jisX0208, .jisX0213Two]⟩),
    ("iso2022_jp_3", ⟨false, false, true, [.jisX0213One2000, .jisX0208, .jisX0213Two]⟩),
    ("iso2022_jp_ext", ⟨false, false, true, [.jisX0208, .jisX0212, .jisX0201Roman,
      .jisX0201Kana, .jisX0208Old]⟩)]

/-- The state of the decoder. -/
structure State where
  g0 : Graphic
  g1 : Graphic
  g2 : Graphic
  shifted : Bool
  passing : Bool

/-- The state at the start. -/
def State.initial : State := ⟨.ascii, .ascii, .ascii, false, false⟩

/-- Designate a set into `G0`, `G1` or `G2`. -/
def State.designate (s : State) (slot : Nat) (g : Graphic) : State :=
  match slot with
  | 0 => { s with g0 := g }
  | 1 => { s with g1 := g }
  | _ => { s with g2 := g }

/-- A final byte: a capital letter or `@`. -/
def isFinal (c : Nat) : Bool := (0x41 ≤ c && c ≤ 0x5A) || c == 0x40

/-- The length of the escape sequence at the start of `bs` (which starts with `ESC`): the place of
its final byte plus one, the search starting at place `i` and ending before place 16. -/
def escapeLength? (prefixRule : Bool) (bs : Bytes) : Nat → Nat → Option Nat
  | 0, _ => none
  | fuel + 1, i =>
    if i ≥ 16 then none
    else
      match bs[i]? with
      | none => none
      | some c =>
        if isFinal c.toNat then some (i + 1)
        else if prefixRule && c == 0x26 && bs[i + 1]? == some 0x40 then
          escapeLength? prefixRule bs fuel (i + 3)
        else escapeLength? prefixRule bs fuel (i + 1)

/-- The set of a codec that a mark names; ASCII for the one-byte `B`. -/
def Config.setOf? (cfg : Config) (mark : Bool × Nat) : Option Graphic :=
  if mark == Graphic.ascii.mark then some .ascii else cfg.sets.find? (·.mark == mark)

/-- The designation an escape sequence makes: its length, the slot and the set. -/
def designation? (cfg : Config) (bs : Bytes) : Option (Nat × Nat × Graphic) := do
  let n ← escapeLength? cfg.prefixRule bs 16 1
  let byte (i : Nat) : Nat := (bs[i]?.map UInt8.toNat).getD 0
  let (slot, mark) ← match n with
    | 3 =>
      if byte 1 == 0x24 then some (0, (true, byte 2))
      else if byte 1 == 0x28 then some (0, (false, byte 2))
      else if byte 1 == 0x29 then some (1, (false, byte 2))
      else if cfg.singleShift && byte 1 == 0x2E then some (2, (false, byte 2))
      else none
    | 4 =>
      if byte 1 != 0x24 then none
      else if byte 2 == 0x28 then some (0, (true, byte 3))
      else if byte 2 == 0x29 then some (1, (true, byte 3))
      else none
    | 6 =>
      if cfg.prefixRule && byte 3 == 0x1B && byte 4 == 0x24 && byte 5 == 0x42 then
        some (0, (true, 0x42))
      else none
    | _ => none
  let g ← cfg.setOf? mark
  some (n, slot, g)

/-- The characters of ISO 8859-7 in its upper half that the decoder knows. -/
def greekUpper? (c : Nat) : Option Nat :=
  if c < 0xA0 then some c
  else if c < 0xC0 ∧ Nat.testBit 0x288F3BC9 (c - 0xA0) then some c
  else if 0xB4 ≤ c ∧ c ≤ 0xFE ∧ (c ≥ 0xD4 ∨ Nat.testBit 0xBFFFFD77 (c - 0xB4)) then some (0x2D0 + c)
  else if c = 0xA1 then some 0x2018
  else if c = 0xA2 then some 0x2019
  else if c = 0xAF then some 0x2015
  else none

/-- The character `ESC N` and a byte give, by the set in `G2`. -/
def singleShifted? (g2 : Graphic) (c : Nat) : Option Nat :=
  match g2 with
  | .latin1 => if c < 0x80 then some (c + 0x80) else none
  | .greek => greekUpper? (if c < 0x80 then c + 0x80 else c - 0x80)
  | .ascii => if c < 0x80 then some c else none
  | _ => none

/-- The bytes that start a designation after `ESC`. -/
def designationStarts : List Nat := [0x28, 0x29, 0x24, 0x2E, 0x26]

/-- Decode with a configuration from a state. -/
def decodeFrom (cfg : Config) (s : State) : Bytes → Option Text
  | [] => some []
  | b :: rest =>
    let c := b.toNat
    if s.passing then (c :: ·) <$> decodeFrom cfg { s with passing := !isFinal c } rest
    else if c == 0x1B then
      match rest.head? with
      | none => none
      | some d =>
        if designationStarts.contains d.toNat then
          match designation? cfg (b :: rest) with
          | some (n, slot, g) => decodeFrom cfg (s.designate slot g) (rest.drop (n - 1))
          | none => none
        else if cfg.singleShift && d == 0x4E then
          match rest[1]?.bind fun e => singleShifted? s.g2 e.toNat with
          | some ch => (ch :: ·) <$> decodeFrom cfg s (rest.drop 2)
          | none => none
        else (0x1B :: ·) <$> decodeFrom cfg { s with passing := true } rest
    else if cfg.shifts && c == 0x0F then decodeFrom cfg { s with shifted := false } rest
    else if cfg.shifts && c == 0x0E then decodeFrom cfg { s with shifted := true } rest
    else if c == 0x0A then (10 :: ·) <$> decodeFrom cfg { s with shifted := false } rest
    else if c < 0x20 then (c :: ·) <$> decodeFrom cfg s rest
    else if c ≥ 0x80 then none
    else
      let g := if s.shifted then s.g1 else s.g0
      if g.mark.1 then
        match rest.head?.bind fun d => g.read? c d.toNat with
        | some cs => (cs ++ ·) <$> decodeFrom cfg s (rest.drop 1)
        | none => none
      else
        match g.read? c 0 with
        | some cs => (cs ++ ·) <$> decodeFrom cfg s rest
        | none => none
termination_by bs => bs.length
decreasing_by all_goals (simp only [List.length_cons, List.length_drop]; omega)

/-- Decode with the codec of a name, when it is one of the ISO 2022 codecs. -/
def decode? (name : String) (bs : Bytes) : Option (Option Text) :=
  (configs.lookup name).map fun cfg => decodeFrom cfg State.initial bs

end Iso2022

end Codec

end LocationDrift
