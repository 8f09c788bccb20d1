import LocationDrift.Text.Basic

/-!
# POSIX paths

A path is a root and a list of names. Reading a path text drops empty names and `.` names and
keeps `..`, since only the file system can tell what `..` leads to. A text that starts with
exactly two slashes keeps them as its root, which POSIX leaves to the implementation; one slash
or three and more make the root `/`.

**Writing.** The root followed by the names joined with `/`; a path with neither root nor names is
written `.`.

**Absolute form.** A path with a root is absolute and stays as it is; any other is read after the
current directory.
-/

namespace LocationDrift

/-- The root of a path. -/
inductive PathRoot where
  | relative
  | single
  | double
deriving DecidableEq, Repr, Inhabited

/-- A path: a root and names, none of them empty or `.`. -/
structure PosixPath where
  root : PathRoot
  names : List Text
deriving DecidableEq, Repr, Inhabited

namespace PosixPath

/-- The names of a text, empty and `.` names dropped. -/
def namesOf (t : Text) : List Text :=
  (Text.splitOn 47 t).filter fun n => !n.isEmpty && n != [46]

/-- Read a path text. -/
def ofText (t : Text) : PosixPath :=
  let slashes := (t.takeWhile (· == 47)).length
  let root := if slashes = 0 then PathRoot.relative else if slashes = 2 then .double else .single
  ⟨root, namesOf t⟩

/-- A path with a root. -/
def isAbsolute (p : PosixPath) : Bool := p.root != .relative

/-- The text of a path. -/
def toText (p : PosixPath) : Text :=
  let rootText : Text := match p.root with
    | .relative => []
    | .single => [47]
    | .double => [47, 47]
  match p.root, p.names with
  | .relative, [] => [46]
  | _, names => rootText ++ Text.intercalate [47] names

/-- The path read after a directory, unless it has a root of its own. -/
def absolute (cwd : PosixPath) (p : PosixPath) : PosixPath :=
  if p.isAbsolute then p else ⟨cwd.root, cwd.names ++ p.names⟩

/-- The path followed by more names. -/
def append (p : PosixPath) (names : List Text) : PosixPath := ⟨p.root, p.names ++ names⟩

end PosixPath

end LocationDrift
