import LocationDrift.Cli.Run

/-!
# The `driftscope` program

The command line over the real file system. The run itself is `Cli.run`, over a disk value; this
layer fills that disk with the entries on the way to every file the run reads (`Cli.pathsRead`),
reads the settings' environment variables and the clock, and writes the outcome after the run's
log records (`Cli.log`).
-/

open LocationDrift

/-- The settings' environment variables that are set. -/
def settingsVariables : IO (List (Text × Text)) := do
  let mut found := []
  for name in Settings.fieldNames do
    let key := "DRIFTSCOPE_" ++ name.toUpper
    match ← IO.getEnv key with
    | some v => found := found ++ [(Text.ofString key, Text.ofString v)]
    | none => pure ()
  return found

/-- What stands at an absolute location of the real file system, as far as reading it tells: a
location the system refuses to open is taken for a directory the run may neither read nor search,
which gives every later read of it or below it a refused permission. -/
def readEntry (loc : List Bytes) : IO (Option Entry) := do
  let names := loc.filterMap fun n => String.fromUTF8? ⟨n.toArray⟩
  if names.length != loc.length then return none
  try
    let bs ← IO.FS.readBinFile ("/" ++ String.intercalate "/" names)
    return some (.file bs.toList)
  catch
    | .inappropriateType _ 21 _ => return some .dir
    | .permissionDenied .. => return some (.dir ⟨false, false⟩)
    | _ => return none

/-- The disk with every entry on the way to a path. -/
def loadPath (d : Disk) (path : Text) : IO Disk := do
  match (PosixPath.ofText path).systemNames? with
  | .error _ => return d
  | .ok names =>
    let mut d := d
    for loc in Disk.lookups [] names do
      match d.entryAt? loc with
      | some (.dir a) => if !a.search then return d
      | some (.file ..) => return d
      | none =>
        match ← readEntry loc with
        | some (.dir a) =>
          d := d.put loc (.dir a)
          if !a.search then return d
        | some (.file bs a) => return d.put loc (.file bs a)
        | none => return d
    return d

/-- The disk with every entry on the way to some paths. -/
def loadPaths (d : Disk) (paths : List Text) : IO Disk :=
  paths.foldlM loadPath d

/-- The message of an error that ends a run abnormally. -/
def abortMessage : Cli.Abort → String
  | .settings vs => "ValidationError: " ++ Text.toString (Violation.reportAll "Settings" vs)
  | .environmentFile e => "UnicodeDecodeError: " ++ Text.toString e.message
  | .environmentFileRefused f =>
    (if f == .permissionDenied then "PermissionError" else "OSError") ++ ": [Errno " ++
      toString f.errno ++ "] " ++ f.describe ++ ": '.env'"
  | .fault f => Text.toString f.message
  | .tooDeep isObject => "RecursionError: " ++ Text.toString (Json.tooDeepMessage isObject)

/-- The time now, in seconds since 1970, as the system's boot time and uptime give it; zero when
they cannot be read. -/
def secondsNow : IO Int := do
  try
    let stat ← IO.FS.readFile "/proc/stat"
    let uptime ← IO.FS.readFile "/proc/uptime"
    let boot := (stat.splitOn "\n").findSome? fun l =>
      if l.startsWith "btime " then (l.drop 6).trimAscii.toString.toInt? else none
    let up := (uptime.splitOn ".").head?.bind String.toInt?
    return boot.getD 0 + up.getD 0
  catch _ => return 0

/-- The levels of arrays and objects left to the JSON reader of a run started as a command: the
recursion limit of 1000 less the calls that stand between the program's start and the reader. -/
def commandNestingRoom : Nat := 991

def main (args : List String) : IO UInt32 := do
  let cwd := PosixPath.ofText (Text.ofString ((← IO.getEnv "PWD").getD "/"))
  let env ← settingsVariables
  let invocation (d : Disk) : Cli.Invocation :=
    ⟨args.map Text.ofString, env, ⟨d, cwd⟩, commandNestingRoom⟩
  let d ← loadPaths Disk.empty (Cli.pathsRead (invocation Disk.empty))
  let d ← loadPaths d (Cli.pathsRead (invocation d))
  let records := (Cli.log (invocation d)).text (LogRecord.stamp (← secondsNow))
  match Cli.run (invocation d) with
  | .ok o =>
    IO.print (Text.toString o.stdout)
    IO.eprint (Text.toString (records ++ o.stderr))
    return o.exit.toUInt32
  | .error a =>
    IO.eprint (Text.toString records)
    IO.eprintln (abortMessage a)
    return 1
