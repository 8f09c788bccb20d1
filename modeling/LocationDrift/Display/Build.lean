import LocationDrift.Display.Basic
import LocationDrift.Snapshot.Cache
import LocationDrift.Digest.Fingerprint

/-!
# Building display parameters

Display parameters are built against a workspace (the disk and the current directory) while a
snapshot cache is threaded through: `Build` is a computation that reads and extends the cache and
may stop with a fault. Every location of a batch of issues goes through one cache, so each URI is
read once.

**Reading a file directly (`Workspace.readText`).** A file an analysis has just read is read again
by its path, past the cache and as text: no size limit applies, its line breaks become line feeds,
and a path that cannot be encoded, that does not resolve, that does not open for reading (a
directory among them), or whose bytes do not decode gives no text; what stopped the read is kept
for the log (`Workspace.readDirect`). A path with a NUL character and a codec that decodes no text
are faults.

**Logging.** A computation logs records into the cache it threads (`Build.logAll`), after those of
the reads it made.
-/

namespace LocationDrift

/-- Where locations are looked up: the disk and the directory relative paths start from. -/
structure Workspace where
  disk : Disk
  cwd : PosixPath
deriving Inhabited

/-- A computation over the snapshot cache that logs into it and may stop with a fault. -/
abbrev Build := StateT Cache (Except Fault)

namespace Build

/-- Stop with a fault. -/
def fault {α : Type} (f : Fault) : Build α := fun _ => .error f

/-- A result that may be a fault. -/
def ofExcept {α : Type} (e : Except Fault α) : Build α := fun c => e.map fun a => (a, c)

/-- The settings of the cache. -/
def settings : Build Settings := fun c => .ok (c.settings, c)

/-- Log some records, in order. -/
def logAll (rs : List LogRecord) : Build Unit := fun c => .ok ((), c.note rs)

/-- The logger of the location builders. -/
def normalizerLogger : String := "driftscope.locations.normalizer"

/-- The logger of the display parameter builders. -/
def paramsLogger : String := "driftscope.locations.params"

/-- The fingerprint of some code; a surrogate in it is a fault. -/
def fingerprint (code : Text) : Build Text := ofExcept ((LocationDrift.fingerprint code).mapError .unencodable)

/-- The code of a range in a URI's snapshot, through the cache. -/
def codeAt (w : Workspace) (uri : Option Text) (r : Option TextRange) : Build (Option Text) :=
  fun c => c.codeAt w.disk uri r

end Build

namespace Workspace

/-- What encoding a path for the system says when it fails: the failure met in the path as given,
before it is made absolute. -/
def unencodableMessage (given : PosixPath) (e : Unencodable) : Text :=
  match Utf8.encodeName? given.toText with
  | .error e' => e'.message
  | .ok _ => e.message

/-- A file read directly by its path, with the configured codec and universal newlines: its text,
or the error that stopped the read with what it says, the path named as given. -/
def readDirect (w : Workspace) (settings : Settings) (p : Text) :
    Except Fault (Except (ReadError × Text) Text) :=
  let given := PosixPath.ofText p
  match (PosixPath.absolute w.cwd given).systemNames? with
  | .error (.unencodable e) => .ok (.error (.unicode, unencodableMessage given e))
  | .error .nul => .error .nulInPath
  | .ok names =>
    match w.disk.readBytes names with
    | .error f => .ok (.error (.ofFault f, f.message given.toText))
    | .ok bs =>
      match settings.codec? with
      | none => .error (.unknownCodec settings.fileEncoding)
      | some c =>
        if !c.isText then .error (.notTextCodec settings.fileEncoding .openText)
        else
          match c.decode? bs with
          | some t => .ok (.ok (Text.translateNewlines t))
          | none => .ok (.error (.unicode, c.undecodableMessage bs))

/-- The text of a file read directly by its path; none when the read fails. -/
def readText (w : Workspace) (settings : Settings) (p : Text) : Except Fault (Option Text) :=
  (w.readDirect settings p).map Except.toOption

end Workspace

end LocationDrift
