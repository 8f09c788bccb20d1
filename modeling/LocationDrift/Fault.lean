import LocationDrift.Text.Utf8
import LocationDrift.Uri.Split

/-!
# Faults that stop a run

Most problems met while locating code are recorded (a location that does not exist, a read
failure class, an empty fingerprint). A fault is a problem that is not recorded and stops the
whole computation instead.
-/

namespace LocationDrift

/-- How a codec was to be used when it turned out to decode no text. -/
inductive CodecUse where
  /-- Decoding the bytes of a file. -/
  | decodeBytes
  /-- Opening a file as text. -/
  | openText
deriving DecidableEq, Repr

/-- A problem that stops the computation. -/
inductive Fault where
  /-- A text with a surrogate where UTF-8 bytes are needed. -/
  | unencodable (e : Unencodable)
  /-- A path with a NUL character, opened as a file. -/
  | nulInPath
  /-- The configured codec transforms bytes but decodes no text. -/
  | notTextCodec (name : Text) (use : CodecUse)
  /-- No codec has the configured name. -/
  | unknownCodec (name : Text)
  /-- A date whose instant in UTC lies outside the years 1 to 9999. -/
  | dateOutOfRange
  /-- A URI that cannot be split. -/
  | malformedUri (e : SplitError)
deriving DecidableEq, Repr

namespace Fault

/-- A codec name as messages quote it: its first 400 UTF-8 bytes, a character cut short there
written as U+FFFD. -/
def quotedName (name : Text) : Text :=
  match Utf8.encode? name with
  | .ok bs => if bs.length > 400 then Utf8.decodeReplacing (bs.take 400) else name
  | .error _ => name

/-- The message of each fault. -/
def message : Fault → Text
  | unencodable e => e.message
  | nulInPath => Text.ofString "embedded null byte"
  | notTextCodec name use =>
    [39] ++ quotedName name ++ Text.ofString "' is not a text encoding; use " ++
      Text.ofString (match use with
        | .decodeBytes => "codecs.decode()"
        | .openText => "codecs.open()") ++
      Text.ofString " to handle arbitrary codecs"
  | unknownCodec name => Text.ofString "unknown encoding: " ++ name
  | dateOutOfRange => Text.ofString "date value out of range"
  | malformedUri e => e.message

end Fault

end LocationDrift
