import LocationDrift.Uri.File
import LocationDrift.Disk.Basic

/-!
# Why a file could not be read

A read that fails is classified, never raised: the class says whether the file is simply not there
(`notFound`, `invalidUri`) or there but unreadable.

**Classifying (`ReadError.classify`).** Too large, then an invalid file URI, then a text that cannot
be encoded or decoded; then a system error by its kind (a missing entry or a non-directory on the
way is `notFound`, a refused permission `permission`) and, for any other kind, by its error number
(2 is `notFound`, 1 and 13 are `permission`, anything else `io`); then any other invalid value
(`invalidUri`); anything else is `unknown`.

**What an error says.** A system error names its number, its description and the path it met; a
file over the limit is reported as a system error of number 27 with both sizes.
-/

namespace LocationDrift

/-- The classes of read failure. -/
inductive ReadFailure where
  | notFound
  | permission
  | decode
  | tooLarge
  | invalidUri
  | io
  | unknown
deriving DecidableEq, Repr, Inhabited

namespace ReadFailure

/-- The name of each class. -/
def code : ReadFailure → String
  | notFound => "not_found"
  | permission => "permission"
  | decode => "decode"
  | tooLarge => "too_large"
  | invalidUri => "invalid_uri"
  | io => "io"
  | unknown => "unknown"

/-- The file is not there at all. -/
def isMissing : ReadFailure → Bool
  | notFound | invalidUri => true
  | _ => false

end ReadFailure

/-- The kinds a system error comes in, as far as classifying tells them apart. -/
inductive SystemKind where
  | fileNotFound
  | notADirectory
  | permission
  | isADirectory
  | other
deriving DecidableEq, Repr, Inhabited

/-- The kind of a system error with a given error number. -/
def SystemKind.ofErrno (n : Int) : SystemKind :=
  if n = 2 then .fileNotFound
  else if n = 20 then .notADirectory
  else if n = 1 ∨ n = 13 then .permission
  else if n = 21 then .isADirectory
  else .other

/-- What went wrong on the way from a URI to its text. -/
inductive ReadError where
  /-- The file is larger than allowed. -/
  | tooLarge (size limit : Nat)
  /-- The URI names no local file. -/
  | badUri (e : UriError)
  /-- A text could not be encoded or decoded. -/
  | unicode
  /-- The system refused, with its kind and error number. -/
  | system (kind : SystemKind) (errno : Option Int)
  /-- Another invalid value, such as a NUL in a path or a URI that cannot be split. -/
  | badValue
  /-- Anything else. -/
  | other
deriving DecidableEq, Repr

/-- What the system says of a fault met at a path: the error number, its description and the path,
quoted. -/
def SystemFault.message (f : SystemFault) (path : Text) : Text :=
  Text.ofString ("[Errno " ++ toString f.errno ++ "] " ++ f.describe ++ ": ") ++ Text.quoted path

namespace ReadError

/-- A system fault as a read error. -/
def ofFault (f : SystemFault) : ReadError :=
  .system (SystemKind.ofErrno f.errno) (some (f.errno : Int))

/-- What the size check says of a file over the limit: a system error of number 27, a file too
large. -/
def tooLargeMessage (size limit : Nat) : Text :=
  Text.ofString ("[Errno 27] File size " ++ toString size ++ " exceeds limit " ++ toString limit)

/-- The class of a read error. -/
def classify : ReadError → ReadFailure
  | tooLarge .. => .tooLarge
  | badUri (.malformed _) => .invalidUri
  | badUri (.unencodable _) => .decode
  | badUri _ => .invalidUri
  | unicode => .decode
  | system .fileNotFound _ | system .notADirectory _ => .notFound
  | system .permission _ => .permission
  | system _ (some 2) => .notFound
  | system _ (some 1) | system _ (some 13) => .permission
  | system _ _ => .io
  | badValue => .invalidUri
  | other => .unknown

end ReadError

end LocationDrift
