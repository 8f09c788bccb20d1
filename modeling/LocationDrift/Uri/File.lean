import LocationDrift.Uri.Percent
import LocationDrift.Uri.Split
import LocationDrift.Path.Posix

/-!
# File URIs and local paths

**Joining (`joinUri`).** A relative path joins a workspace-folder URI: backslashes become slashes,
leading slashes are dropped, the rest is quoted, and it follows the folder with its trailing
slashes replaced by one.

**A path's URI (`pathUri`).** The path made absolute against the current directory, its UTF-8 bytes
(with escaped bytes) quoted after `file://`.

**An editor path's URI (`ofEditorPath`).** The empty path has none. A relative path joins the
workspace folder when there is one; any other path gives its own URI.

**The path of a URI (`toPath`).** A URI with no scheme or a one-letter scheme is itself a path and
must be absolute. Otherwise the scheme must be `file`, the location empty or `localhost`, and the
path part non-empty; the path is the unquoted path part.
-/

namespace LocationDrift

/-- Why a URI or path cannot be turned into the other. -/
inductive UriError where
  | emptyPath
  | notAbsolute (uri : Text)
  | unsupportedScheme (uri : Text)
  | remote (uri : Text)
  | noPath (uri : Text)
  /-- The URI cannot even be split. -/
  | malformed (e : SplitError)
  /-- The path has a surrogate that UTF-8 cannot write. -/
  | unencodable (e : Unencodable)
deriving DecidableEq, Repr

namespace UriError

/-- The message of each failure. -/
def message : UriError → Text
  | emptyPath => Text.ofString "Empty file path"
  | notAbsolute uri => Text.ofString "Not an absolute path: " ++ uri
  | unsupportedScheme uri => Text.ofString "Unsupported URI scheme: " ++ uri
  | remote uri => Text.ofString "Remote file URI: " ++ uri
  | noPath uri => Text.ofString "File URI without path: " ++ uri
  | malformed e => e.message
  | unencodable e => e.message

end UriError

namespace FileUri

/-- The `file://` prefix. -/
def prefixText : Text := Text.ofString "file://"

/-- Join a relative path to a workspace-folder URI. -/
def joinUri (folder rel : Text) : Except Unencodable Text :=
  let posix := (rel.map fun c => if c == 92 then 47 else c).dropWhile (· == 47)
  let base := Text.dropRightWhileClass (· == 47) folder
  (fun q => base ++ [47] ++ q) <$> Percent.quote posix

/-- The URI of a path, made absolute against the current directory `cwd`. -/
def pathUri (cwd : PosixPath) (p : Text) : Except Unencodable Text :=
  let path := PosixPath.absolute cwd (PosixPath.ofText p)
  (fun bs => prefixText ++ Percent.quoteBytes bs) <$> Utf8.encodeName? path.toText

/-- The URI of a path an editor reports, joined to the workspace folder when relative. -/
def ofEditorPath (cwd : PosixPath) (p : Text) (folder : Option Text) : Except UriError Text :=
  if p.isEmpty then .error .emptyPath
  else
    let fromPath := (pathUri cwd p).mapError UriError.unencodable
    match folder with
    | some f =>
      if (PosixPath.ofText p).isAbsolute then fromPath
      else (joinUri f p).mapError UriError.unencodable
    | none => fromPath

/-- The local path a URI names. -/
def toPath (uri : Text) : Except UriError PosixPath :=
  match UriParts.split? uri with
  | .error e => .error (.malformed e)
  | .ok parts =>
    if parts.scheme.length ≤ 1 then
      let p := PosixPath.ofText uri
      if p.isAbsolute then .ok p else .error (.notAbsolute uri)
    else if parts.scheme != Text.ofString "file" then .error (.unsupportedScheme uri)
    else if !(parts.netloc.isEmpty || parts.netloc == Text.ofString "localhost") then
      .error (.remote uri)
    else if parts.path.isEmpty then .error (.noPath uri)
    else .ok (PosixPath.ofText (Percent.unquote parts.path))

/-- The unquoted path part of a URI, for display. -/
def displayPath (uri : Text) : Except SplitError Text :=
  (fun parts => Percent.unquote parts.path) <$> UriParts.split? uri

end FileUri

end LocationDrift
