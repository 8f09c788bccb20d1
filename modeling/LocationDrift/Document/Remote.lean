import LocationDrift.Document.Range

/-!
# Remote "show issue" requests

A remote server asks to show an issue it has recorded: the path the editor reported, the root
range, the code snippet as the server last saw it, and flows of further locations, each with its
own path, optional range and optional snippet.

Fields are read in the order written here, each under its camel-case alias or its own name; the
root range is required and may not be null.
-/

namespace LocationDrift

/-- A location of a remote flow. -/
structure RemoteLocation where
  ideFilePath : Text
  textRange : Option TextRange
  codeSnippet : Option Text
  message : Option Text
deriving DecidableEq, Repr, Inhabited

/-- A remote flow: its locations in order. -/
structure RemoteFlow where
  locations : List RemoteLocation
deriving DecidableEq, Repr, Inhabited

/-- The issue a remote server recorded. -/
structure RemoteIssue where
  issueKey : Option Text
  ruleKey : Text
  message : Text
  ideFilePath : Text
  textRange : TextRange
  codeSnippet : Option Text
  creationDate : Option Text
  isTaint : Bool
  flows : List RemoteFlow
deriving DecidableEq, Repr, Inhabited

/-- A request to show a remote issue. -/
structure ShowRequest where
  configScopeId : Option Text
  issueDetails : RemoteIssue
deriving DecidableEq, Repr, Inhabited

namespace RemoteLocation

/-- A remote location object. -/
def decode : Decoder RemoteLocation :=
  Decoder.model "LocationDto" fun fs =>
    let a := Decoder.required fs ⟨"ideFilePath", "ide_file_path"⟩ Lax.str
    let b := Decoder.optional fs ⟨"textRange", "text_range"⟩ TextRange.decode
    let c := Decoder.optional fs ⟨"codeSnippet", "code_snippet"⟩ Lax.str
    let d := Decoder.optional fs ⟨"message", "message"⟩ Lax.str
    ((a.zip b).zip (c.zip d)).map fun ((a, b), (c, d)) => ⟨a, b, c, d⟩

end RemoteLocation

namespace RemoteFlow

/-- A remote flow object. -/
def decode : Decoder RemoteFlow :=
  Decoder.model "FlowDto" fun fs =>
    (Decoder.withDefault fs ⟨"locations", "locations"⟩ [] (Decoder.sequence RemoteLocation.decode)).map
      RemoteFlow.mk

end RemoteFlow

namespace RemoteIssue

/-- A remote issue object. -/
def decode : Decoder RemoteIssue :=
  Decoder.model "IssueDetails" fun fs =>
    let a := Decoder.optional fs ⟨"issueKey", "issue_key"⟩ Lax.str
    let b := Decoder.required fs ⟨"ruleKey", "rule_key"⟩ Lax.str
    let c := Decoder.required fs ⟨"message", "message"⟩ Lax.str
    let d := Decoder.required fs ⟨"ideFilePath", "ide_file_path"⟩ Lax.str
    let e := Decoder.required fs ⟨"textRange", "text_range"⟩ TextRange.decode
    let f := Decoder.optional fs ⟨"codeSnippet", "code_snippet"⟩ Lax.str
    let g := Decoder.optional fs ⟨"creationDate", "creation_date"⟩ Lax.str
    let h := Decoder.withDefault fs ⟨"isTaint", "is_taint"⟩ false Lax.bool
    let i := Decoder.withDefault fs ⟨"flows", "flows"⟩ [] (Decoder.sequence RemoteFlow.decode)
    ((((a.zip b).zip (c.zip d)).zip ((e.zip f).zip (g.zip h))).zip i).map
      fun ((((a, b), (c, d)), ((e, f), (g, h))), i) => ⟨a, b, c, d, e, f, g, h, i⟩

end RemoteIssue

namespace ShowRequest

/-- A show request object. -/
def decode : Decoder ShowRequest :=
  Decoder.model "ShowIssueParams" fun fs =>
    let a := Decoder.optional fs ⟨"configScopeId", "config_scope_id"⟩ Lax.str
    let b := Decoder.required fs ⟨"issueDetails", "issue_details"⟩ RemoteIssue.decode
    (a.zip b).map fun (a, b) => ⟨a, b⟩

end ShowRequest

end LocationDrift
