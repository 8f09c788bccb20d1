import LocationDrift.Display.Build
import LocationDrift.Document.Remote

/-!
# Display parameters of remote issues

A remote issue carries the code it was raised on as a snippet, which is compared with the local
code exactly.

**A location (`Location.ofRemote`).** Its URI is that of its editor path, joined to the workspace
folder when relative; a path with no URI (empty, or not encodable) leaves it out and the file path
shows the placeholder instead. Its range, if any, carries the fingerprint of the snippet (empty
without a snippet). The location is present when its code is found through the cache, and matches
when it has a range and a snippet equal to that code.

**Logging.** A path with no URI logs why, and a location whose code is not found logs its URI,
both at level `DEBUG`.

**The issue (`DisplayIssue.ofRemote`).** Its file is looked up first, at its root range; it
matches when there is a snippet equal to the local code there. Then its flows are built in order.
A remote issue has no severity.
-/

namespace LocationDrift

/-- The URI of an editor path, if it has one. -/
def FileUri.ofEditorPath? (cwd : PosixPath) (p : Text) (folder : Option Text) : Option Text :=
  match FileUri.ofEditorPath cwd p folder with
  | .ok u => some u
  | .error _ => none

/-- What resolving an editor path logs, to a logger: the path and why it has no URI, when it has
none. -/
def FileUri.resolveRecords (logger : String) (cwd : PosixPath) (p : Text) (folder : Option Text) :
    List LogRecord :=
  match FileUri.ofEditorPath cwd p folder with
  | .ok _ => []
  | .error e =>
    [⟨.debug, logger, Text.ofString "Cannot resolve " ++ Text.quoted p ++ Text.ofString ": " ++
      e.message⟩]

/-- The URI of an editor path, logging why when it has none. -/
def Build.editorUri (logger : String) (cwd : PosixPath) (p : Text) (folder : Option Text) :
    Build (Option Text) := do
  Build.logAll (FileUri.resolveRecords logger cwd p folder)
  pure (FileUri.ofEditorPath? cwd p folder)

/-- What looking up a remote location logs when its code is not found: its URI, `None` without
one. -/
def Location.remoteMissRecords (uri : Option Text) (code : Option Text) : List LogRecord :=
  match code with
  | some _ => []
  | none =>
    [⟨.debug, Build.normalizerLogger,
      Text.ofString "Location not found locally: " ++ uri.getD (Text.ofString "None")⟩]

/-- A remote location with what was found of it locally. -/
def Location.ofRemote (w : Workspace) (folder : Option Text) (l : RemoteLocation) :
    Build Location := do
  let uri ← Build.editorUri Build.normalizerLogger w.cwd l.ideFilePath folder
  let hashed ← match l.textRange with
    | none => pure none
    | some r =>
      match l.codeSnippet with
      | none => pure (some ⟨r, []⟩)
      | some s => (fun h => some ⟨r, h⟩) <$> Build.fingerprint s
  let code ← Build.codeAt w uri l.textRange
  Build.logAll (Location.remoteMissRecords uri code)
  let settings ← Build.settings
  pure ⟨uri, some (uri.getD settings.unresolvedFilePlaceholder), l.message, hashed, code.isSome,
    code.isSome && l.textRange.isSome && l.codeSnippet.isSome && l.codeSnippet == code⟩

/-- A remote flow with what was found of each location. -/
def Flow.ofRemote (w : Workspace) (folder : Option Text) (f : RemoteFlow) : Build Flow :=
  Flow.mk <$> f.locations.mapM (Location.ofRemote w folder)

/-- The display parameter of a request to show a remote issue. -/
def DisplayIssue.ofRemote (w : Workspace) (folder connectionId : Option Text) (req : ShowRequest) :
    Build DisplayIssue := do
  let d := req.issueDetails
  let uri ← Build.editorUri Build.paramsLogger w.cwd d.ideFilePath folder
  let code ← Build.codeAt w uri (some d.textRange)
  let flows ← d.flows.mapM (Flow.ofRemote w folder)
  pure ⟨uri, d.message, [], d.ruleKey, some d.textRange, flows, connectionId, d.creationDate,
    code.isSome && d.codeSnippet.isSome && d.codeSnippet == code⟩

end LocationDrift
