import LocationDrift.Document.Range

/-!
# The display payload

What an editor is asked to show for one issue: the issue's file, message, severity, rule and root
range, and its flows of locations. Each location records whether its code was found locally
(`present`) and whether that code is the code the issue was raised on (`codeMatches`); a location
that matches is always present.

**JSON form.** Keys are camel case (`filePath`, `textRange`, `codeMatches`, and `exists` for
`present`) in the order of the fields here, and a field with no value is left out. A location's
range carries its `hash`; the issue's root range does not.
-/

namespace LocationDrift

/-- One location of a flow, with what was found of it locally. -/
structure Location where
  uri : Option Text
  filePath : Option Text
  message : Option Text
  textRange : Option HashedRange
  /-- The code at the location was found locally. -/
  present : Bool
  /-- The local code is the code the issue was raised on. -/
  codeMatches : Bool
deriving DecidableEq, Repr, Inhabited

/-- A flow: an ordered path of locations through the code. -/
structure Flow where
  locations : List Location
deriving DecidableEq, Repr, Inhabited

/-- The root parameter of the command that shows all locations of an issue. -/
structure DisplayIssue where
  fileUri : Option Text
  message : Text
  severity : Text
  ruleKey : Text
  textRange : Option TextRange
  flows : List Flow
  connectionId : Option Text
  creationDate : Option Text
  codeMatches : Bool
deriving DecidableEq, Repr, Inhabited

namespace DisplayIssue

/-- The number of locations over all flows. -/
def locationCount (d : DisplayIssue) : Nat := (d.flows.map (·.locations.length)).foldr (· + ·) 0

end DisplayIssue

namespace Json

/-- An object of the fields that have a value, in order. -/
def present (fields : List (String × Option Json)) : Json :=
  obj (fields.filterMap fun (k, v) => v.map fun j => (Text.ofString k, j))

end Json

/-- A range as JSON. -/
def TextRange.toJson (r : TextRange) : Json :=
  Json.object [("startLine", .int r.startLine), ("startLineOffset", .int r.startLineOffset),
    ("endLine", .int r.endLine), ("endLineOffset", .int r.endLineOffset)]

/-- A range with its hash as JSON. -/
def HashedRange.toJson (r : HashedRange) : Json :=
  Json.object [("startLine", .int r.range.startLine),
    ("startLineOffset", .int r.range.startLineOffset), ("endLine", .int r.range.endLine),
    ("endLineOffset", .int r.range.endLineOffset), ("hash", .str r.hash)]

/-- A location as JSON. -/
def Location.toJson (l : Location) : Json :=
  Json.present [("uri", l.uri.map .str), ("filePath", l.filePath.map .str),
    ("message", l.message.map .str), ("textRange", l.textRange.map HashedRange.toJson),
    ("exists", some (.bool l.present)), ("codeMatches", some (.bool l.codeMatches))]

/-- A flow as JSON. -/
def Flow.toJson (f : Flow) : Json :=
  Json.object [("locations", .arr (f.locations.map Location.toJson))]

/-- An issue's display parameter as JSON. -/
def DisplayIssue.toJson (d : DisplayIssue) : Json :=
  Json.present [("fileUri", d.fileUri.map .str), ("message", some (.str d.message)),
    ("severity", some (.str d.severity)), ("ruleKey", some (.str d.ruleKey)),
    ("textRange", d.textRange.map TextRange.toJson),
    ("flows", some (.arr (d.flows.map Flow.toJson))),
    ("connectionId", d.connectionId.map .str), ("creationDate", d.creationDate.map .str),
    ("codeMatches", some (.bool d.codeMatches))]

end LocationDrift
