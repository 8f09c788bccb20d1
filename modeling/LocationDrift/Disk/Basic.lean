import LocationDrift.Text.Utf8

/-!
# A file system as a value

A disk holds entries, each a file with its bytes or a directory, at absolute locations given as
lists of names (each name a list of bytes); the root always exists and is a directory.

**Access.** Each entry carries what the process, an unprivileged one, may do with it: open it for
reading (a file's bytes, a directory's names), and, for a directory, look names up in it. Entries
are made with full access unless stated otherwise; the root always has it.

**Resolving a location.** Names are followed from the root. Each name is looked up in the
directory reached so far, which the process must be allowed to search. `..` goes to the parent
(the root's parent is the root). A name longer than 255 bytes, or a whole path of 4096 bytes or
more, is too long; a missing name has no entry; a name after a file is not a directory.
Resolving needs no access to the entry reached.

**Opening.** Taking the bytes of an entry needs leave to read it; a directory has no bytes.

**Sizes.** A file's size is its number of bytes; a directory reports one block of 4096 bytes.
-/

namespace LocationDrift

/-- What the process may do with an entry: open it for reading, and look names up in it (asked of
directories only). -/
structure Access where
  read : Bool
  search : Bool
deriving DecidableEq, Repr, Inhabited

/-- Leave to do both. -/
def Access.full : Access := ⟨true, true⟩

/-- What stands at a location, with the access the process has to it. -/
inductive Entry where
  | file (content : Bytes) (access : Access := Access.full)
  | dir (access : Access := Access.full)
deriving DecidableEq, Repr, Inhabited

/-- The size the system reports for an entry. -/
def Entry.size : Entry → Nat
  | .file bs _ => bs.length
  | .dir _ => 4096

/-- Why the system could not resolve or open a location, with its error number. -/
inductive SystemFault where
  | noEntry
  | notADirectory
  | isADirectory
  | nameTooLong
  | permissionDenied
deriving DecidableEq, Repr, Inhabited

namespace SystemFault

/-- The error number of each fault. -/
def errno : SystemFault → Nat
  | noEntry => 2
  | notADirectory => 20
  | isADirectory => 21
  | nameTooLong => 36
  | permissionDenied => 13

/-- The system's description of each fault. -/
def describe : SystemFault → String
  | noEntry => "No such file or directory"
  | notADirectory => "Not a directory"
  | isADirectory => "Is a directory"
  | nameTooLong => "File name too long"
  | permissionDenied => "Permission denied"

end SystemFault

/-- The bytes of an entry, opened for reading: refused without leave to read it, and a directory
has none. -/
def Entry.bytes : Entry → Except SystemFault Bytes
  | .file bs a => if a.read then .ok bs else .error .permissionDenied
  | .dir a => if a.read then .error .isADirectory else .error .permissionDenied

/-- A file system: entries at absolute locations, the root implied. -/
structure Disk where
  entries : List (List Bytes × Entry)
deriving Inhabited

namespace Disk

/-- The empty disk: only the root. -/
def empty : Disk := ⟨[]⟩

/-- The entry at a location, the root being a directory. -/
def entryAt? (d : Disk) (loc : List Bytes) : Option Entry :=
  if loc.isEmpty then some .dir else (d.entries.lookup loc)

/-- The access the process has to the directory at a location. -/
def dirAccess (d : Disk) (loc : List Bytes) : Access :=
  match d.entryAt? loc with
  | some (.dir a) => a
  | _ => Access.full

/-- The name `..`. -/
def parentName : Bytes := [46, 46]

/-- Follow names from a directory location. -/
def walk (d : Disk) (cur : List Bytes) : List Bytes → Except SystemFault (List Bytes × Entry)
  | [] => .ok (cur, .dir (d.dirAccess cur))
  | n :: rest =>
    if !(d.dirAccess cur).search then .error .permissionDenied
    else if n.length > 255 then .error .nameTooLong
    else if n == parentName then walk d cur.dropLast rest
    else
      let next := cur ++ [n]
      match d.entryAt? next with
      | none => .error .noEntry
      | some (.file bs a) => if rest.isEmpty then .ok (next, .file bs a) else .error .notADirectory
      | some (.dir _) => walk d next rest

/-- The locations a walk from the root looks up, in order, when every one of them is a directory. -/
def lookups (cur : List Bytes) : List Bytes → List (List Bytes)
  | [] => []
  | n :: rest =>
    if n == parentName then lookups cur.dropLast rest
    else (cur ++ [n]) :: lookups (cur ++ [n]) rest

/-- Resolve the names of an absolute path. -/
def resolve (d : Disk) (names : List Bytes) : Except SystemFault (List Bytes × Entry) :=
  if (names.map (·.length + 1)).foldr (· + ·) 0 ≥ 4096 then .error .nameTooLong else walk d [] names

/-- The bytes of the entry the names of an absolute path lead to, opened for reading. -/
def readBytes (d : Disk) (names : List Bytes) : Except SystemFault Bytes :=
  d.resolve names >>= fun (_, entry) => entry.bytes

/-- The disk with an entry set at a location. -/
def put (d : Disk) (loc : List Bytes) (e : Entry) : Disk :=
  ⟨(loc, e) :: d.entries.filter (·.1 != loc)⟩

/-- The disk with directories at every proper prefix of a location that has none. -/
def makeParents (d : Disk) (loc : List Bytes) : Disk :=
  (List.range loc.length).foldl
    (fun acc i =>
      let pre := loc.take i
      if pre.isEmpty || (acc.entryAt? pre).isSome then acc else acc.put pre .dir)
    d

/-- Write a file, creating its parent directories. -/
def writeFile (d : Disk) (loc : List Bytes) (bs : Bytes) : Disk :=
  (d.makeParents loc).put loc (.file bs)

/-- Make a directory and its parents. -/
def makeDir (d : Disk) (loc : List Bytes) : Disk :=
  match (d.makeParents loc).entryAt? loc with
  | some _ => d.makeParents loc
  | none => (d.makeParents loc).put loc .dir

/-- Remove the file at a location; a directory or a missing entry is refused. -/
def removeFile (d : Disk) (names : List Bytes) : Except SystemFault Disk :=
  match d.resolve names with
  | .error e => .error e
  | .ok (_, .dir _) => .error .isADirectory
  | .ok (loc, .file _ _) => .ok ⟨d.entries.filter (·.1 != loc)⟩

end Disk

end LocationDrift
