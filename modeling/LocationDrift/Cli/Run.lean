import LocationDrift.Cli.Arguments
import LocationDrift.Cli.Environment
import LocationDrift.Cli.Help
import LocationDrift.Display.Batch
import LocationDrift.Json.Reader
import LocationDrift.Json.Printer

/-!
# Running the command line

A run reads its arguments; `--version` prints the version, help prints help, and `show` builds
the payload of the issues in a file.

**`show`.** The settings come from the environment and its file (see `Settings.ofEnvironment`);
settings that do not check end the run with that error, and so does an environment file that is
not UTF-8 or that the system refuses to look up or open. The issue file is read as UTF-8 and must be JSON: one
document, or a list of documents of the chosen source. A file that cannot be read or is no JSON
ends the run with status 1, and so does the first document that does not check, each after an
error line. A file whose arrays and objects nest deeper than the run has room for ends the run
abnormally, unless it breaks the grammar before that depth. The documents are then built as one batch through one snapshot cache, and the
payload is printed, indented by two spaces or, with `--compact`, on one line, with every
character as it is.

**Exit status.** 0 when the run ends normally, 1 after an error line, 2 for a refused command line.

**The log (`Cli.log`).** The error stream holds the run's log records before the lines the run
writes itself. A run that ends abnormally keeps only the records made before its batch.
-/

namespace LocationDrift

namespace Cli

/-- What a run of the command line starts from: its arguments, its environment variables, the
workspace it runs in, and how many levels of arrays and objects its JSON reader can still enter,
which the runtime's recursion limit and the depth of the calls around the run decide. -/
structure Invocation where
  argv : List Text
  env : List (Text × Text)
  workspace : Workspace
  nestingRoom : Nat
deriving Inhabited

/-- What a run that ends shows: its exit status and what it wrote to its two streams. -/
structure Outcome where
  exit : Nat
  stdout : Text
  stderr : Text
deriving DecidableEq, Repr, Inhabited

/-- Some line of the error stream reports an error. -/
def Outcome.reportsError (o : Outcome) : Bool :=
  (Text.splitOn 10 o.stderr).any fun l => Text.startsWith l (Text.ofString "Error: ")

/-- An error nothing handles, which ends the run abnormally. -/
inductive Abort where
  /-- The settings of the environment do not check. -/
  | settings (vs : List Violation)
  /-- The environment file is not UTF-8. -/
  | environmentFile (e : Undecodable)
  /-- The system refuses to look up or open the environment file. -/
  | environmentFileRefused (f : SystemFault)
  /-- Building the payload met a fault. -/
  | fault (f : Fault)
  /-- The issue file nests an array, or an object when `isObject`, past the reader's room. -/
  | tooDeep (isObject : Bool)
deriving Repr

/-- Why the issue file cannot be read. -/
inductive ReadProblem where
  | unencodable (e : Unencodable)
  | nul
  | system (f : SystemFault)
  | undecodable (e : Undecodable)
  /-- The text is not one JSON value; what the reader says of it. -/
  | notJson (why : Text)
  /-- An array, or an object when `isObject`, nests past the reader's room. -/
  | tooDeep (isObject : Bool)
deriving DecidableEq, Repr

/-- What an error line says about an issue file that cannot be read, named `path`. -/
def ReadProblem.message (path : Text) : ReadProblem → Text
  | unencodable e => e.message
  | nul => Text.ofString "embedded null byte"
  | system f => f.message path
  | undecodable e => e.message
  | notJson why => why
  | tooDeep isObject => Json.tooDeepMessage isObject

namespace Workspace

/-- The system names of a path, relative paths starting from the current directory. -/
def namesOf (w : LocationDrift.Workspace) (p : Text) : Except ReadProblem (List Bytes) :=
  match (PosixPath.absolute w.cwd (PosixPath.ofText p)).systemNames? with
  | .error (.unencodable e) => .error (.unencodable e)
  | .error .nul => .error .nul
  | .ok names => .ok names

/-- The JSON value of a UTF-8 file, read as text with universal newlines and with `room` levels of
nesting allowed. -/
def readJson (w : LocationDrift.Workspace) (room : Nat) (p : Text) : Except ReadProblem Json :=
  (namesOf w p).bind fun names =>
    match w.disk.readBytes names with
    | .error f => .error (.system f)
    | .ok bs =>
      match Utf8.decode? bs with
      | none => .error (.undecodable ((Utf8.firstUndecodable 0 bs).getD default))
      | some t =>
        let t := Text.translateNewlines t
        match Json.readWithin room t with
        | .ok j => .ok j
        | .error (.tooDeep isObject) => .error (.tooDeep isObject)
        | .error r => .error (.notJson (r.message t))

/-- The table of the environment file of the current directory; none when there is no such file
or it is no file. Looking it up is refused only when the system refuses permission; a file that
is there but does not open for reading is refused too. -/
def environmentFile (w : LocationDrift.Workspace) (env : List (Text × Text)) :
    Except Abort (List (Text × Option Text)) :=
  match namesOf w (Text.ofString ".env") with
  | .error _ => .ok []
  | .ok names =>
    match w.disk.resolve names with
    | .error .permissionDenied => .error (.environmentFileRefused .permissionDenied)
    | .error _ | .ok (_, .dir _) => .ok []
    | .ok (_, entry) =>
      match entry.bytes with
      | .error f => .error (.environmentFileRefused f)
      | .ok bs =>
        match Utf8.decode? bs with
        | some t => .ok (EnvFile.read env t)
        | none => .error (.environmentFile ((Utf8.firstUndecodable 0 bs).getD default))

end Workspace

/-- A run that ends after an error line. -/
def failed (line : Text) : Outcome := ⟨1, [], Text.ofString "Error: " ++ line ++ [10]⟩

/-- The items of an issue file: the elements of a top-level array, or the one top-level value. -/
def issueItems : Json → List Json
  | .arr vs => vs
  | v => [v]

/-- The source the documents are checked as. -/
def Arguments.sourceKind (a : Arguments) : SourceKind := (SourceKind.ofText? a.source).getD .remote

/-- What `show` builds from, once its settings, file and documents are checked; or how the run
ends before that. -/
def prepare (inv : Invocation) (a : Arguments) (issueFile : Text) :
    Except Abort (Except Outcome (Settings × BatchContext × List IssueDocument)) := do
  let file ← Workspace.environmentFile inv.workspace inv.env
  let settings ← match Settings.ofEnvironment inv.env file with
    | .ok s => pure s
    | .error vs => throw (.settings vs)
  let shown := (PosixPath.ofText issueFile).toText
  match Workspace.readJson inv.workspace inv.nestingRoom issueFile with
  | .error (.tooDeep isObject) => throw (.tooDeep isObject)
  | .error p => pure (.error (failed (Text.ofString "cannot read " ++ shown ++ Text.ofString ": " ++ p.message shown)))
  | .ok raw =>
    match IssueDocument.decodeAll a.sourceKind (issueItems raw) with
    | .error vs =>
      pure (.error (failed (Text.ofString "invalid " ++ a.source ++ Text.ofString " issue: " ++
        Violation.reportAll a.sourceKind.modelName vs)))
    | .ok docs => pure (.ok (settings, ⟨inv.workspace, a.workspaceFolder, a.connectionId⟩, docs))

/-- The printed payload of some display parameters. -/
def printPayload (compact : Bool) (issues : List DisplayIssue) : Text :=
  Json.print ⟨if compact then none else some 2, false⟩ (Payload.toJson ⟨issues⟩) ++ [10]

/-- Run `show` on an issue file. -/
def runShow (inv : Invocation) (a : Arguments) (issueFile : Text) : Except Abort Outcome :=
  (prepare inv a issueFile).bind fun
    | .error o => .ok o
    | .ok (settings, ctx, docs) =>
      match DisplayIssue.batch ctx docs (Cache.empty settings) with
      | .error f => .error (.fault f)
      | .ok (issues, _) => .ok ⟨0, printPayload a.compact issues, []⟩

/-- The paths a live document has its files read by. -/
def IssueDocument.livePaths : IssueDocument → List Text
  | .live l => l.filePath.toList ++ l.flows.flatMap fun f => f.locations.filterMap (·.filePath)
  | _ => []

/-- The absolute paths of the files a run of `show` reads, as far as a run over the workspace's
disk tells: the environment file and the issue file, then, when the documents check, the files of
the URIs the batch looks up and those live documents read. The batch looks up the same URIs
whatever the files hold, so a disk holding the first two files tells them all. -/
def pathsRead (inv : Invocation) : List Text :=
  let absolute (p : Text) := (PosixPath.absolute inv.workspace.cwd (PosixPath.ofText p)).toText
  match parseArguments inv.argv with
  | .ok a =>
    match a.version, a.command, a.issueFile with
    | false, some _, some f =>
      let first := [absolute (Text.ofString ".env"), absolute f]
      match prepare inv a f with
      | .ok (.ok (settings, ctx, docs)) =>
        let looked := match DisplayIssue.batch ctx docs (Cache.empty settings) with
          | .ok (_, c) => c.entries.filterMap fun (uri, _) =>
            match FileUri.toPath uri with
            | .ok p => some p.toText
            | .error _ => none
          | .error _ => []
        first ++ looked ++ (docs.flatMap IssueDocument.livePaths).map absolute
      | _ => first
    | _, _, _ => []
  | .error _ => []

/-- The records a batch of `show` logs, when it completes. -/
def showRecords (inv : Invocation) (a : Arguments) (issueFile : Text) : List LogRecord :=
  match prepare inv a issueFile with
  | .ok (.ok (settings, ctx, docs)) =>
    match DisplayIssue.batch ctx docs (Cache.empty settings) with
    | .ok (_, c) => c.log
    | .error _ => []
  | _ => []

/-- What a run logs. Only `show` logs. Its settings are checked before logging is set up, so the
warning of an encoding other than UTF-8's goes to the last-resort handler; logging is then set up at
level `DEBUG` with `--verbose`, else at the level of the settings, and the batch logs its records. -/
def log (inv : Invocation) : RunLog :=
  match parseArguments inv.argv with
  | .ok a =>
    match a.version, a.command, a.issueFile with
    | false, some _, some f =>
      match Workspace.environmentFile inv.workspace inv.env with
      | .ok file =>
        let early := Settings.environmentRecords inv.env file
        match Settings.ofEnvironment inv.env file with
        | .ok settings =>
          let level := if a.verbose then .debug else (LogLevel.ofName? settings.logLevel).getD .info
          ⟨early, level, showRecords inv a f⟩
        | .error _ => ⟨early, .warning, []⟩
      | .error _ => ⟨[], .warning, []⟩
    | _, _, _ => ⟨[], .warning, []⟩
  | .error _ => ⟨[], .warning, []⟩

/-- The version line. -/
def versionLine : String := "driftscope 0.1.0\n"

/-- Run the command line. -/
def run (inv : Invocation) : Except Abort Outcome :=
  match parseArguments inv.argv with
  | .error (.help prog) => .ok ⟨0, Text.ofString (helpOf prog), []⟩
  | .error (.usage prog e) =>
    .ok ⟨2, [], Text.ofString (usageOf prog ++ prog ++ ": error: ") ++ e.message ++ [10]⟩
  | .ok a =>
    if a.version then .ok ⟨0, Text.ofString versionLine, []⟩
    else
      match a.command, a.issueFile with
      | some _, some f => runShow inv a f
      | _, _ => .ok ⟨0, Text.ofString topHelp, []⟩

end Cli

end LocationDrift
