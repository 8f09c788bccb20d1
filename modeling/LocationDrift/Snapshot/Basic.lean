import LocationDrift.Snapshot.Failure
import LocationDrift.Disk.Path
import LocationDrift.Settings
import LocationDrift.Fault
import LocationDrift.Text.Range
import LocationDrift.Log

/-!
# Snapshots of files

A snapshot is what one read of a URI saw: the file's text, or the class of the failure that
prevented it.

**Reading (`Snapshot.read`).** The URI must name a local path; the system must resolve the path's
names; the entry's size must not exceed the limit of the settings (a directory counts its block);
the entry must open for reading and have bytes, which a directory has not; the bytes must decode
with the configured codec. The first stage that fails gives the failure class, and what its error
says is kept for the log (`Snapshot.take`). A codec that decodes no text is a fault, not a failure.

**Logging a failed read (`Snapshot.readRecords`).** A read that fails logs the URI, the failure
class and what the error says: at level `DEBUG` when the file is not there, at `WARNING` when it is
there but cannot be read.

**Code in a snapshot.** A readable snapshot's lines are those of its text; an unreadable one has
none, and no code.
-/

namespace LocationDrift

/-- What one read of a file saw. -/
inductive Snapshot where
  | readable (content : Text)
  | unreadable (failure : ReadFailure)
deriving DecidableEq, Repr, Inhabited

namespace Snapshot

/-- The text, when readable. -/
def content? : Snapshot → Option Text
  | readable t => some t
  | unreadable _ => none

/-- The failure class, when unreadable. -/
def failure? : Snapshot → Option ReadFailure
  | readable _ => none
  | unreadable f => some f

/-- The read succeeded. -/
def isReadable : Snapshot → Bool
  | readable _ => true
  | unreadable _ => false

/-- The lines of the text; none when unreadable. -/
def lines (s : Snapshot) : List Text := Text.splitLines (s.content?.getD [])

/-- The code of a range: all of it for the whole-file sentinel, else the range's cut. -/
def codeAt (s : Snapshot) (r : TextRange) : Option Text :=
  s.content? >>= fun t => r.codeIn t

/-- The snapshot of what a read met: its text, or the class of its error. -/
def ofReading : Except (ReadError × Text) Text → Snapshot
  | .ok t => readable t
  | .error (e, _) => unreadable e.classify

/-- Decode bytes with the configured codec: their text, or what the codec says of them. -/
def decodeWith (settings : Settings) (bs : Bytes) : Except Fault (Except (ReadError × Text) Text) :=
  match settings.codec? with
  | none => .error (.unknownCodec settings.fileEncoding)
  | some c =>
    if !c.isText then .error (.notTextCodec settings.fileEncoding .decodeBytes)
    else
      match c.decode? bs with
      | some t => .ok (.ok t)
      | none => .ok (.error (.unicode, c.undecodableMessage bs))

/-- Read the file a URI names as far as the first stage that fails: the decoded text, or the
error of that stage with what it says. -/
def take (settings : Settings) (disk : Disk) (uri : Text) :
    Except Fault (Except (ReadError × Text) Text) :=
  match FileUri.toPath uri with
  | .error e => .ok (.error (.badUri e, e.message))
  | .ok path =>
    match path.systemNames? with
    | .error (.unencodable e) => .ok (.error (.unicode, e.message))
    | .error .nul => .ok (.error (.badValue, Text.ofString "embedded null byte"))
    | .ok names =>
      match disk.resolve names with
      | .error f => .ok (.error (.ofFault f, f.message path.toText))
      | .ok (_, entry) =>
        if entry.size > settings.maxFileSizeBytes then
          .ok (.error (.tooLarge entry.size settings.maxFileSizeBytes,
            ReadError.tooLargeMessage entry.size settings.maxFileSizeBytes))
        else
          match entry.bytes with
          | .error f => .ok (.error (.ofFault f, f.message path.toText))
          | .ok bs => decodeWith settings bs

/-- Read the file a URI names. -/
def read (settings : Settings) (disk : Disk) (uri : Text) : Except Fault Snapshot :=
  (take settings disk uri).map ofReading

/-- The name of the logger of file reads. -/
def logger : String := "driftscope.locations.file_cache"

/-- What a read of a URI logs: nothing when it gives the text; otherwise the URI, the class of the
error and what the error says, at level `DEBUG` for a file that is not there and `WARNING` for one
that is there but cannot be read. -/
def readRecords (uri : Text) : Except (ReadError × Text) Text → List LogRecord
  | .ok _ => []
  | .error (e, told) =>
    [⟨if e.classify.isMissing then .debug else .warning, logger,
      Text.ofString "Cannot read " ++ uri ++ Text.ofString (" (" ++ e.classify.code ++ "): ") ++ told⟩]

end Snapshot

end LocationDrift
