import LocationDrift.Display.Remote
import LocationDrift.Display.Taint
import LocationDrift.Display.Live
import LocationDrift.Display.Check
import LocationDrift.Json.Shown

/-!
# Batches of issues and the command payload

An issue comes from one of three sources, each with its own document shape. A batch is a list of
documents of one source; they are all checked before any is built, and then built in order
through one snapshot cache. Each display parameter, once built, is logged at level `DEBUG`.

**The payload.** The command `driftscope.showAllLocations` with the display parameters of the
batch as its arguments.
-/

namespace LocationDrift

/-- Where an issue comes from. -/
inductive SourceKind where
  | remote
  | taint
  | live
deriving DecidableEq, Repr, Inhabited

namespace SourceKind

/-- The name of each source. -/
def name : SourceKind → String
  | remote => "remote"
  | taint => "taint"
  | live => "live"

/-- The model a document of each source is checked as. -/
def modelName : SourceKind → String
  | remote => "ShowIssueParams"
  | taint => "TaintIssue"
  | live => "LiveIssueDocument"

/-- The source with a given name. -/
def ofText? (t : Text) : Option SourceKind :=
  [remote, taint, live].find? fun k => t == Text.ofString k.name

/-- The source a value names, or the message refusing the value. -/
def ofJson (v : Json) : Except Text SourceKind :=
  match (match v with
    | .str s => ofText? s
    | _ => none) with
  | some k => .ok k
  | none => .error (v.shownText ++ Text.ofString " is not a valid SourceKind")

end SourceKind

/-- An issue document of any source. -/
inductive IssueDocument where
  | remote (r : ShowRequest)
  | taint (t : TaintIssue)
  | live (l : LiveIssue)
deriving DecidableEq, Repr, Inhabited

namespace IssueDocument

/-- A document of a given source. -/
def decode : SourceKind → Decoder IssueDocument
  | .remote => fun j => remote <$> ShowRequest.decode j
  | .taint => fun j => taint <$> TaintIssue.decode j
  | .live => fun j => live <$> LiveIssue.decode j

/-- Documents of one source, the violations of the first refused one if any. -/
def decodeAll (k : SourceKind) : List Json → Checked (List IssueDocument)
  | [] => .ok []
  | j :: js => (decode k j).bind fun d => (decodeAll k js).map (d :: ·)

end IssueDocument

/-- What a batch shares besides the cache. -/
structure BatchContext where
  workspace : Workspace
  /-- The workspace folder relative remote paths join. -/
  folder : Option Text
  connectionId : Option Text
deriving Inhabited

/-- The source of a document. -/
def IssueDocument.kind : IssueDocument → SourceKind
  | .remote _ => .remote
  | .taint _ => .taint
  | .live _ => .live

namespace DisplayIssue

/-- The record of a built display parameter, at level `DEBUG`: its source, its rule key and its
numbers of flows and of locations. -/
def builtRecord (k : SourceKind) (d : DisplayIssue) : LogRecord :=
  ⟨.debug, Build.paramsLogger,
    Text.ofString ("Built " ++ k.name ++ " display issue for ") ++ d.ruleKey ++
      Text.ofString (": " ++ toString d.flows.length ++ " flow(s), " ++ toString d.locationCount ++
        " location(s)")⟩

/-- The display parameter of a document, by the builder of its source; a live issue logs the reads
of its ranges that fail. -/
def buildBy (ctx : BatchContext) : IssueDocument → Build DisplayIssue
  | .remote r => ofRemote ctx.workspace ctx.folder ctx.connectionId r
  | .taint t => ofTaint ctx.workspace ctx.connectionId t
  | .live l => do
    let settings ← Build.settings
    let issue ← Build.ofExcept (ofLive ctx.workspace settings l)
    Build.logAll (l.hashRecords ctx.workspace settings)
    pure issue

/-- The display parameter of a document, logged once built. -/
def build (ctx : BatchContext) (d : IssueDocument) : Build DisplayIssue := do
  let issue ← buildBy ctx d
  Build.logAll [issue.builtRecord d.kind]
  pure issue

/-- The display parameters of a batch, in order, through one cache. -/
def batch (ctx : BatchContext) (docs : List IssueDocument) : Build (List DisplayIssue) :=
  docs.mapM (build ctx)

end DisplayIssue

/-- The command that shows all locations of some issues. -/
structure Payload where
  arguments : List DisplayIssue
deriving DecidableEq, Repr, Inhabited

namespace Payload

/-- The name of the command. -/
def command : String := "driftscope.showAllLocations"

/-- The payload as JSON. -/
def toJson (p : Payload) : Json :=
  Json.object [("command", Json.ofString command), ("arguments", .arr (p.arguments.map DisplayIssue.toJson))]

end Payload

end LocationDrift
