import LocationDrift.Codec.Names
import LocationDrift.Codec.Tables
import LocationDrift.Codec.Unicode
import LocationDrift.Codec.Escaped
import LocationDrift.Codec.Utf7
import LocationDrift.Codec.Punycode
import LocationDrift.Codec.Japanese
import LocationDrift.Codec.Chinese
import LocationDrift.Codec.Korean
import LocationDrift.Codec.Iso2022
import LocationDrift.Codec.Idna

/-!
# Codecs: finding one by name, and decoding bytes with it

`Codec.lookup?` finds a codec by any of its names (see `Codec.Names`). Seven codecs of the
registry transform bytes to bytes or text to text and decode no text at all: `base64_codec`,
`bz2_codec`, `hex_codec`, `quopri_codec`, `rot_13`, `uu_codec` and `zlib_codec`.

**Decoding.** ASCII accepts bytes below 128; Latin-1 (and `charmap` without a table) maps every byte
to the code point of its value; the UTF codecs are those of `Codec.Unicode`; a single-byte codec
follows its table; `undefined` decodes nothing; the escape codecs are those of `Codec.Escaped`
and `utf_7` that of `Codec.Utf7`. The multi-byte East Asian codecs read units as
`Codec.Japanese`, `Codec.Chinese` and `Codec.Korean` say, HZ is that of `Codec.Chinese` and the
ISO 2022 codecs are those of `Codec.Iso2022`; `punycode` and `idna` are those of `Codec.Punycode`
and `Codec.Idna`.

**What a failed decoding says (`Codec.undecodableMessage`).** UTF-8, with or without its signature,
names its first ill-formed bytes and why; ASCII its first byte of 128 or more; a single-byte codec
its first undefined byte, under the name `charmap`; `undefined` says only that. Any other codec is
named without the position of the failure.
-/

namespace LocationDrift

/-- A codec of the registry, by its canonical name. -/
structure Codec where
  name : String
deriving DecidableEq, Repr, Inhabited

namespace Codec

/-- A byte of a codec name that normalisation keeps. -/
def isNameByte (b : UInt8) : Bool :=
  let c := b.toNat
  Text.isAsciiLetter c || Text.isDigit c || c == 46

/-- The maximal runs of kept bytes of a name, lowered, in order. -/
def nameWords (bs : Bytes) : List Text :=
  (Text.splitOn 0 (bs.map fun b => if isNameByte b then Text.lowerAscii b.toNat else 0)).filter
    (!·.isEmpty)

/-- The normalised form of a name: its words joined by `_`; a name with a surrogate or a NUL has
none. -/
def normalize? (name : Text) : Option String :=
  if name.contains 0 then none
  else
    match Utf8.encode? name with
    | .ok bs => some (Text.toString (Text.intercalate [95] (nameWords bs)))
    | .error _ => none

/-- The codec a normalised name stands for. -/
def resolve? (norm : String) : Option Codec :=
  let aliased := (aliases.lookup norm).orElse fun _ => aliases.lookup (norm.replace "." "_")
  let candidates := match aliased with
    | some a => [a, norm]
    | none => [norm]
  (candidates.find? fun c => !c.isEmpty && !c.contains '.' && canonicalNames.contains c).map
    Codec.mk

/-- Find a codec by any of its names. -/
def lookup? (name : Text) : Option Codec := normalize? name >>= resolve?

/-- The codecs that decode no text. -/
def binaryCodecs : List String :=
  ["base64_codec", "bz2_codec", "hex_codec", "quopri_codec", "rot_13", "uu_codec", "zlib_codec"]

/-- The codec decodes bytes into text. -/
def isText (c : Codec) : Bool := !binaryCodecs.contains c.name

/-- The unit readers of the multi-byte East Asian codecs. -/
def wideUnits : List (String × (UInt8 → Bytes → Option (Text × Nat))) :=
  [("euc_jp", Japanese.eucJpUnit), ("shift_jis", Japanese.shiftJisUnit),
    ("cp932", Japanese.cp932Unit), ("euc_jis_2004", Japanese.eucJis2004Unit false),
    ("euc_jisx0213", Japanese.eucJis2004Unit true),
    ("shift_jis_2004", Japanese.shiftJis2004Unit false),
    ("shift_jisx0213", Japanese.shiftJis2004Unit true), ("gb2312", Chinese.gb2312Unit),
    ("gbk", Chinese.gbkUnit), ("gb18030", Chinese.gb18030Unit), ("big5", Chinese.big5Unit),
    ("cp950", Chinese.cp950Unit), ("big5hkscs", Chinese.big5hkscsUnit),
    ("euc_kr", Korean.eucKrUnit), ("cp949", Korean.cp949Unit), ("johab", Korean.johabUnit)]

/-- ASCII bytes only. -/
def decodeAscii (bs : Bytes) : Option Text :=
  if bs.all (· < 128) then some (bs.map UInt8.toNat) else none

/-- Decode by a table of 256 characters; U+FFFE marks an undefined byte. -/
def decodeTable (table : Array Nat) (bs : Bytes) : Option Text :=
  bs.mapM fun b =>
    let c := table.getD b.toNat 0xFFFE
    if c == 0xFFFE then none else some c

/-- Decode bytes with a codec. -/
def decode? (c : Codec) (bs : Bytes) : Option Text :=
  match c.name with
  | "ascii" => decodeAscii bs
  | "latin_1" | "charmap" => some (bs.map UInt8.toNat)
  | "utf_8" => Utf8.decode? bs
  | "utf_8_sig" => decodeUtf8Signed bs
  | "utf_16" => decodeUtf16Marked bs
  | "utf_16_le" => decodeUtf16 false bs
  | "utf_16_be" => decodeUtf16 true bs
  | "utf_32" => decodeUtf32Marked bs
  | "utf_32_le" => decodeUtf32 false bs
  | "utf_32_be" => decodeUtf32 true bs
  | "undefined" => none
  | "unicode_escape" => decodeEscaped bs
  | "raw_unicode_escape" => decodeRawEscaped bs
  | "utf_7" => decodeDirect bs
  | "hz" => Chinese.decodeHz false bs
  | "idna" => Idna.decode? bs
  | "punycode" => Punycode.decode? bs
  | name =>
    match singleByteTables.lookup name with
    | some table => decodeTable (Text.ofString table).toArray bs
    | none =>
      match wideUnits.lookup name with
      | some unit => decodeUnits unit bs
      | none => (Iso2022.decode? name bs).getD none

/-- The message of one byte that a codec refuses at a position. -/
def byteMessage (codec : String) (b : UInt8) (pos : Nat) (why : String) : Text :=
  Text.ofString ("'" ++ codec ++ "' codec can't decode byte 0x") ++ Text.hexLower 2 b.toNat ++
    Text.ofString " in position " ++ Text.ofNat pos ++ Text.ofString (": " ++ why)

/-- The first byte, with its position, that a test refuses. -/
def firstRefused (refuses : UInt8 → Bool) (bs : Bytes) : Option (UInt8 × Nat) :=
  bs.zipIdx.find? fun (b, _) => refuses b

/-- What a codec says of bytes it does not decode. -/
def undecodableMessage (c : Codec) (bs : Bytes) : Text :=
  let utf8 (bs : Bytes) := ((Utf8.firstUndecodable 0 bs).getD default).message
  let refused (codec why : String) (refuses : UInt8 → Bool) :=
    match firstRefused refuses bs with
    | some (b, pos) => byteMessage codec b pos why
    | none => []
  match c.name with
  | "utf_8" => utf8 bs
  | "utf_8_sig" =>
    match bs with
    | 0xEF :: 0xBB :: 0xBF :: rest => utf8 rest
    | _ => utf8 bs
  | "ascii" => refused "ascii" "ordinal not in range(128)" (· ≥ 128)
  | "undefined" => Text.ofString "undefined encoding"
  | name =>
    match singleByteTables.lookup name with
    | some table =>
      let chars := (Text.ofString table).toArray
      refused "charmap" "character maps to <undefined>" fun b => chars.getD b.toNat 0xFFFE == 0xFFFE
    | none => Text.ofString ("'" ++ name ++ "' codec can't decode the bytes")

end Codec

end LocationDrift
