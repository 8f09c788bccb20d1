import LocationDrift.Validation.Lax
import LocationDrift.Codec.Basic
import LocationDrift.Log

/-!
# Settings

Four settings govern a run: the log level, the encoding files are read with, the largest file
that is read, and the placeholder shown for a file that cannot be located.

**Checking (`Settings.check`).** Settings arrive as fields named `log_level`, `file_encoding`,
`max_file_size_bytes` and `unresolved_file_placeholder`; absent ones take their defaults, and every
bad one is reported, in that order, under its own name. The log level must be a string that,
trimmed of blanks and upper-cased, is one of `DEBUG`, `INFO`, `WARNING`, `ERROR`, `CRITICAL`; it is
kept in that form. The encoding must be the name of a codec and is kept as given; a codec other
than UTF-8 is logged as a warning (`Settings.encodingRecords`). The size limit must be an integer
greater than 0.
-/

namespace LocationDrift

/-- The settings of a run. -/
structure Settings where
  logLevel : Text
  fileEncoding : Text
  maxFileSizeBytes : Nat
  unresolvedFilePlaceholder : Text
deriving DecidableEq, Repr, Inhabited

namespace Settings

/-- The settings when nothing is configured. -/
def default : Settings :=
  ⟨Text.ofString "INFO", Text.ofString "utf-8", 10 * 1024 * 1024,
    Text.ofString "Could not locate file"⟩

/-- The log levels. -/
def levels : List String := ["DEBUG", "INFO", "WARNING", "ERROR", "CRITICAL"]

/-- A log level, trimmed and upper-cased. -/
def level : Decoder Text := fun j =>
  (Lax.str j).bind fun t =>
    let l := Text.upper (Text.trimBy Text.isSpace t)
    if levels.any (fun name => l == Text.ofString name) then .ok l
    else
      Checked.fail (.valueError (Text.ofString ("log_level must be one of " ++
        String.intercalate ", " levels))) j

/-- A codec name. -/
def encoding : Decoder Text := fun j =>
  (Lax.str j).bind fun t =>
    if (Codec.lookup? t).isSome then .ok t
    else Checked.fail (.valueError (Text.ofString "Unknown file encoding: " ++ t)) j

/-- The logger of the settings. -/
def logger : String := "driftscope.config"

/-- A codec name that is not UTF-8's: lowered, without its hyphens and underscores, it is not
`utf8`. -/
def namesOtherThanUtf8 (t : Text) : Bool :=
  (t.map Text.lowerAscii).filter (fun c => c != 45 && c != 95) != Text.ofString "utf8"

/-- What checking an encoding logs: a codec name other than UTF-8's, at level `WARNING`. -/
def encodingRecords (t : Text) : List LogRecord :=
  if (Codec.lookup? t).isSome && namesOtherThanUtf8 t then
    [⟨.warning, logger, Text.ofString "Non UTF-8 file encoding configured: " ++ t⟩]
  else []

/-- A positive size. -/
def size : Decoder Nat := fun j =>
  (Lax.int j).bind fun n =>
    if n > 0 then .ok n.toNat
    else Checked.fail (.valueError (Text.ofString "max_file_size_bytes must be positive")) j

/-- A field under its own name only. -/
def named (name : String) : FieldName := ⟨name, name⟩

/-- Settings from named fields. -/
def check (fs : List (Text × Json)) : Checked Settings :=
  let d := default
  let a := Decoder.withDefault fs (named "log_level") d.logLevel level
  let b := Decoder.withDefault fs (named "file_encoding") d.fileEncoding encoding
  let c := Decoder.withDefault fs (named "max_file_size_bytes") d.maxFileSizeBytes size
  let e := Decoder.withDefault fs (named "unresolved_file_placeholder")
    d.unresolvedFilePlaceholder Lax.str
  ((a.zip b).zip (c.zip e)).map fun ((l, f), (m, u)) => ⟨l, f, m, u⟩

/-- The codec files are read with. -/
def codec? (s : Settings) : Option Codec := Codec.lookup? s.fileEncoding

end Settings

end LocationDrift
