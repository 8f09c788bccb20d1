import LocationDrift.Display.Build
import LocationDrift.Document.Taint

/-!
# Display parameters of taint vulnerabilities

A vulnerability records the fingerprint of the code at each range, which is compared with the
fingerprint of the local code.

**A location (`Location.ofTaint`).** Without a path it is not looked up: its file path shows the
placeholder and it is neither present nor matching. Otherwise its URI joins the path to the
workspace folder, it is present when its code is found through the cache, and it matches when it
has a range whose hash is the fingerprint of that code. A location with a path whose code is not
found logs its URI at level `DEBUG`.

**The issue (`DisplayIssue.ofTaint`).** Its URI joins its path to the folder; then its flows are
built in order; then its introduction date is written in UTC. The root range drops its hash.
-/

namespace LocationDrift

/-- What looking up a taint location logs when its code is not found: its URI. -/
def Location.taintMissRecords (uri : Text) (code : Option Text) : List LogRecord :=
  match code with
  | some _ => []
  | none => [⟨.debug, Build.normalizerLogger, Text.ofString "Taint location not found locally: " ++ uri⟩]

/-- A taint location with what was found of it locally. -/
def Location.ofTaint (w : Workspace) (folder : Text) (l : TaintLocation) : Build Location :=
  match l.filePath with
  | none => do
    let settings ← Build.settings
    pure ⟨none, some settings.unresolvedFilePlaceholder, l.message, l.textRange, false, false⟩
  | some p => do
    let uri ← Build.ofExcept ((FileUri.joinUri folder p).mapError .unencodable)
    let code ← Build.codeAt w (some uri) (l.textRange.map (·.range))
    let agrees ← match code, l.textRange with
      | some c, some r => (· == r.hash) <$> Build.fingerprint c
      | _, _ => pure false
    Build.logAll (Location.taintMissRecords uri code)
    pure ⟨some uri, some p, l.message, l.textRange, code.isSome, agrees⟩

/-- A taint flow with what was found of each location. -/
def Flow.ofTaint (w : Workspace) (folder : Text) (f : TaintFlow) : Build Flow :=
  Flow.mk <$> f.locations.mapM (Location.ofTaint w folder)

/-- The display parameter of a taint vulnerability. -/
def DisplayIssue.ofTaint (w : Workspace) (connectionId : Option Text) (t : TaintIssue) :
    Build DisplayIssue := do
  let uri ← Build.ofExcept ((FileUri.joinUri t.workspaceFolderUri t.ideFilePath).mapError .unencodable)
  let flows ← t.flows.mapM (Flow.ofTaint w t.workspaceFolderUri)
  let date ← Build.ofExcept t.introductionDate.creationText
  pure ⟨some uri, t.message, t.severity, t.ruleKey, t.textRange.map (·.range), flows, connectionId,
    some date, false⟩

end LocationDrift
