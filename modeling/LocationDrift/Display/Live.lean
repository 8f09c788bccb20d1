import LocationDrift.Display.Build
import LocationDrift.Document.Live

/-!
# Display parameters of live issues

A local analysis has just read the files it reports, so every location is present, and none is
compared with anything.

**A location (`Location.ofLive`).** Its URI is that of its path made absolute, and its file path
the path part of that URI. Its range, if any, carries the fingerprint of the code the range has in
the file read directly (see `Workspace.readText`), or an empty hash when there is no path, no text
or no such code. A read that fails is logged at level `DEBUG` (`LiveLocation.hashRecords`).

**The issue (`DisplayIssue.ofLive`).** Its URI is that of its path; then its flows are built in
order. The cache is never used, and a live issue has no connection.
-/

namespace LocationDrift

/-- The hash a live range carries. -/
def Workspace.liveHash (w : Workspace) (settings : Settings) (p : Option Text) (r : TextRange) :
    Except Fault Text :=
  match p with
  | none => .ok []
  | some p =>
    (w.readText settings p).bind fun content =>
      match content >>= r.codeIn with
      | none => .ok []
      | some code => (fingerprint code).mapError .unencodable

/-- What hashing a live location's range logs: when reading its file directly fails, the file's
URI, the class of the error and what it says, at level `DEBUG`. -/
def LiveLocation.hashRecords (w : Workspace) (settings : Settings) (l : LiveLocation) :
    List LogRecord :=
  match l.filePath, l.textRange with
  | some p, some _ =>
    match w.readDirect settings p, FileUri.pathUri w.cwd p with
    | .ok (.error (e, told)), .ok u =>
      [⟨.debug, Build.normalizerLogger, Text.ofString "Cannot hash " ++ u ++
        Text.ofString (" (" ++ e.classify.code ++ "): ") ++ told⟩]
    | _, _ => []
  | _, _ => []

/-- What hashing the ranges of a live issue's flow locations logs, in order. -/
def LiveIssue.hashRecords (w : Workspace) (settings : Settings) (i : LiveIssue) : List LogRecord :=
  i.flows.flatMap fun f => f.locations.flatMap (LiveLocation.hashRecords w settings)

/-- A live location: present, its range carrying the fingerprint of its current code. -/
def Location.ofLive (w : Workspace) (settings : Settings) (l : LiveLocation) : Except Fault Location := do
  let uri ← match l.filePath with
    | none => pure none
    | some p => some <$> (FileUri.pathUri w.cwd p).mapError .unencodable
  let hashed ← match l.textRange with
    | none => pure none
    | some r => (fun h => some ⟨r, h⟩) <$> w.liveHash settings l.filePath r
  let filePath ← match uri with
    | none => pure none
    | some u => some <$> (FileUri.displayPath u).mapError .malformedUri
  pure ⟨uri, filePath, l.message, hashed, true, false⟩

/-- A live flow. -/
def Flow.ofLive (w : Workspace) (settings : Settings) (f : LiveFlow) : Except Fault Flow :=
  Flow.mk <$> f.locations.mapM (Location.ofLive w settings)

/-- The display parameter of a live issue. -/
def DisplayIssue.ofLive (w : Workspace) (settings : Settings) (i : LiveIssue) :
    Except Fault DisplayIssue := do
  let uri ← match i.filePath with
    | none => pure none
    | some p => some <$> (FileUri.pathUri w.cwd p).mapError .unencodable
  let flows ← i.flows.mapM (Flow.ofLive w settings)
  pure ⟨uri, i.message, i.severity, i.ruleKey, i.textRange, flows, none, none, false⟩

end LocationDrift
