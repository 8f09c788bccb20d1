import LocationDrift.Text.Utf8

/-!
# Percent-encoding

**Quoting.** A byte is written as itself when it is an ASCII letter or digit, one of `_ . - ~`, or
`/`; every other byte is written `%XX` with upper-case hexadecimal digits. A text is quoted through
its strict UTF-8 bytes, so quoting fails on a surrogate.

**Unquoting.** Each maximal run of ASCII characters has its `%XX` escapes (either case) turned into
bytes, which are then decoded as UTF-8 with U+FFFD for ill-formed parts; a `%` not followed by two
hexadecimal digits stays as it is. Characters outside ASCII are kept unchanged.
-/

namespace LocationDrift

namespace Percent

/-- A byte that quoting keeps as itself. -/
def isKept (b : UInt8) : Bool :=
  let c := b.toNat
  Text.isAsciiLetter c || Text.isDigit c || c == 95 || c == 46 || c == 45 || c == 126 || c == 47

/-- The written form of one byte. -/
def quoteByte (b : UInt8) : Text :=
  if isKept b then [b.toNat]
  else [37, Text.hexDigitUpper (b.toNat / 16), Text.hexDigitUpper (b.toNat % 16)]

/-- Quote bytes. -/
def quoteBytes (bs : Bytes) : Text := bs.flatMap quoteByte

/-- Quote a text through its UTF-8 bytes. -/
def quote (t : Text) : Except Unencodable Text := quoteBytes <$> Utf8.encode? t

/-- Turn the `%XX` escapes of ASCII text into bytes. -/
def unescapeBytes : Text → Bytes
  | 37 :: h :: l :: rest =>
    match Text.hexValue? h, Text.hexValue? l with
    | some a, some b => (a * 16 + b).toUInt8 :: unescapeBytes rest
    | _, _ => 37 :: unescapeBytes (h :: l :: rest)
  | c :: rest => c.toUInt8 :: unescapeBytes rest
  | [] => []

/-- Unquote, with the ASCII run read so far kept in reverse in `run`. -/
def unquoteFrom (run : Text) : Text → Text
  | [] => Utf8.decodeReplacing (unescapeBytes run.reverse)
  | c :: rest =>
    if c < 128 then unquoteFrom (c :: run) rest
    else Utf8.decodeReplacing (unescapeBytes run.reverse) ++ c :: unquoteFrom [] rest

/-- Unquote, ASCII run by ASCII run. -/
def unquote (t : Text) : Text := unquoteFrom [] t

end Percent

end LocationDrift
