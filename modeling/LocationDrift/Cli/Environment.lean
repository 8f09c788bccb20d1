import LocationDrift.Settings
import LocationDrift.Cli.EnvFile

/-!
# Settings from the environment

The command line reads its settings from environment variables and from the environment file
`.env` of the current directory; names are compared in lower case.

**Which value a setting takes (`Settings.sources`).** A variable `DRIFTSCOPE_<NAME>` of the
environment, whatever its value; else such a binding of the environment file, when it has a value,
empty or not. Bindings of the file without the prefix are ignored. The values found are then
checked as `Settings.check` says.
-/

namespace LocationDrift

namespace Settings

/-- The names of the settings, in order. -/
def fieldNames : List String :=
  ["log_level", "file_encoding", "max_file_size_bytes", "unresolved_file_placeholder"]

/-- The prefix of the settings' variables, in lower case. -/
def variablePrefix : Text := Text.ofString "driftscope_"

/-- A table with its keys in lower case, the last of several equal keys winning. -/
def lowerKeys {α : Type} (table : List (Text × α)) : List (Text × α) :=
  table.foldl (fun acc (k, v) => EnvFile.assign acc (k.map Text.lowerAscii) v) []

/-- The variable name of a setting. -/
def variableOf (name : String) : Text := variablePrefix ++ Text.ofString name

/-- The values the environment file gives: the settings it names under the prefix, in order. -/
def fileSources (file : List (Text × Option Text)) : List (Text × Text) :=
  let file := lowerKeys file
  fieldNames.filterMap fun n =>
    match file.lookup (variableOf n) with
    | some (some v) => some (Text.ofString n, v)
    | _ => none

/-- The values of the settings, from the environment over the environment file. -/
def sources (env : List (Text × Text)) (file : List (Text × Option Text)) : List (Text × Text) :=
  let env := lowerKeys env
  fieldNames.foldl
    (fun acc n =>
      match env.lookup (variableOf n) with
      | some v => EnvFile.assign acc (Text.ofString n) v
      | none => acc)
    (fileSources file)

/-- The settings the environment and the environment file give. -/
def ofEnvironment (env : List (Text × Text)) (file : List (Text × Option Text)) : Checked Settings :=
  check ((sources env file).map fun (k, v) => (k, Json.str v))

/-- What checking the settings the environment and the environment file give logs: the warning
of an encoding other than UTF-8's, whether or not the other settings check. -/
def environmentRecords (env : List (Text × Text)) (file : List (Text × Option Text)) :
    List LogRecord :=
  match (sources env file).lookup (Text.ofString "file_encoding") with
  | some v => encodingRecords v
  | none => []

end Settings

end LocationDrift
