import LocationDrift.Codec.Punycode
import LocationDrift.Unicode.Stringprep

/-!
# Internationalized domain names

The `idna` codec decodes a host name of RFC 3490, label by label, as its `ToUnicode` operation
does for labels of ASCII bytes.

**Decoding (`Idna.decode?`).** Nothing decodes to nothing. A text without the prefix `xn--`
that is all ASCII is itself. Otherwise the text is cut at every `.` (a last empty label standing
for a final dot) and each label goes through `toUnicode?`; the labels decoded are joined by `.`.

**`toUnicode?`.** A label without the prefix `xn--` must be ASCII and is itself. A label with it
is decoded as Punycode after the prefix, and the result must survive the way back: `toAscii?` of
it must give the label again, in lower case.

**`toAscii?`.** An ASCII label is itself. Any other goes through name preparation; if it is then
ASCII it is itself, else it must not start with `xn--` and becomes `xn--` and its Punycode. The
result must have from 1 to 63 characters.
-/

namespace LocationDrift

namespace Idna

/-- The prefix of an encoded label. -/
def acePrefix : Text := Text.ofString "xn--"

/-- A label of from 1 to 63 characters. -/
def sized? (t : Text) : Option Text := if 0 < t.length ∧ t.length < 64 then some t else none

/-- The ASCII form of a label. -/
def toAscii? (label : Text) : Option Text :=
  if Text.isAscii label then sized? label
  else do
    let t ← Stringprep.nameprep? label
    if Text.isAscii t then sized? t
    else if Text.startsWith t acePrefix then none
    else sized? (acePrefix ++ Punycode.encode t)

/-- The Unicode form of a label of bytes. -/
def toUnicode? (label : Bytes) : Option Text :=
  let t := label.map UInt8.toNat
  if !Text.startsWith t acePrefix then (if Text.isAscii t then some t else none)
  else do
    let result ← Punycode.decode? (label.drop acePrefix.length)
    let back ← toAscii? result
    if t.map Text.lowerAscii == back then some result else none

/-- The bytes hold the prefix `xn--` somewhere. -/
def hasAcePrefix (bs : Bytes) : Bool :=
  (List.range bs.length).any fun i => ((bs.drop i).take 4).map UInt8.toNat == acePrefix

/-- Decode a host name. -/
def decode? (bs : Bytes) : Option Text :=
  if bs.isEmpty then some []
  else if !hasAcePrefix bs && bs.all (· < 128) then some (bs.map UInt8.toNat)
  else
    let labels := (Text.splitOn 46 (bs.map UInt8.toNat)).map fun l => l.map Nat.toUInt8
    let (labels, dot) : List Bytes × Text :=
      if labels.getLast? == some [] then (labels.dropLast, [46]) else (labels, [])
    (labels.mapM toUnicode?).map fun ts => Text.intercalate [46] ts ++ dot

end Idna

end LocationDrift
