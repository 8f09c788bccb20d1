import LocationDrift.Disk.Basic
import LocationDrift.Path.Posix

/-!
# From a path to the names the system looks up

The system receives a path as the UTF-8 bytes of its text, with escaped bytes (see `Text.Utf8`),
and refuses a path with a NUL byte. The names are the bytes between the slashes.
-/

namespace LocationDrift

/-- Why a path cannot be handed to the system. -/
inductive PathProblem where
  /-- The path has a surrogate that stands for no byte. -/
  | unencodable (e : Unencodable)
  /-- The path has a NUL character. -/
  | nul
deriving DecidableEq, Repr

namespace PosixPath

/-- The bytes of each name of an absolute path, as the system receives them. -/
def systemNames? (p : PosixPath) : Except PathProblem (List Bytes) :=
  match Utf8.encodeName? p.toText with
  | .error e => .error (.unencodable e)
  | .ok bs =>
    if bs.contains 0 then .error .nul
    else .ok ((bs.splitOn 47).filter (!·.isEmpty))

end PosixPath

end LocationDrift
