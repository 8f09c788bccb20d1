import LocationDrift.Document.Range
import LocationDrift.Time.Reading

/-!
# Taint vulnerability records

A tracked vulnerability names its workspace folder, the path of its file relative to it, its root
range with the fingerprint of the code recorded there, the date it was introduced, and flows of
locations, each with an optional relative path and an optional recorded range.

Fields are read in the order written here, each under its camel-case alias or its own name.
-/

namespace LocationDrift

/-- A location of a taint flow. -/
structure TaintLocation where
  filePath : Option Text
  textRange : Option HashedRange
  message : Option Text
deriving DecidableEq, Repr, Inhabited

/-- A taint flow: its locations in order. -/
structure TaintFlow where
  locations : List TaintLocation
deriving DecidableEq, Repr, Inhabited

/-- A tracked taint vulnerability. -/
structure TaintIssue where
  id : Option Text
  workspaceFolderUri : Text
  ideFilePath : Text
  message : Text
  severity : Text
  ruleKey : Text
  textRange : Option HashedRange
  introductionDate : DateTime
  flows : List TaintFlow
deriving DecidableEq, Repr, Inhabited

namespace TaintLocation

/-- A taint location object. -/
def decode : Decoder TaintLocation :=
  Decoder.model "TaintLocation" fun fs =>
    let a := Decoder.optional fs ⟨"filePath", "file_path"⟩ Lax.str
    let b := Decoder.optional fs ⟨"textRange", "text_range"⟩ HashedRange.decode
    let c := Decoder.optional fs ⟨"message", "message"⟩ Lax.str
    ((a.zip b).zip c).map fun ((a, b), c) => ⟨a, b, c⟩

end TaintLocation

namespace TaintFlow

/-- A taint flow object. -/
def decode : Decoder TaintFlow :=
  Decoder.model "TaintFlow" fun fs =>
    (Decoder.withDefault fs ⟨"locations", "locations"⟩ [] (Decoder.sequence TaintLocation.decode)).map
      TaintFlow.mk

end TaintFlow

namespace TaintIssue

/-- A taint issue object. -/
def decode : Decoder TaintIssue :=
  Decoder.model "TaintIssue" fun fs =>
    let a := Decoder.optional fs ⟨"id", "id"⟩ Lax.str
    let b := Decoder.required fs ⟨"workspaceFolderUri", "workspace_folder_uri"⟩ Lax.str
    let c := Decoder.required fs ⟨"ideFilePath", "ide_file_path"⟩ Lax.str
    let d := Decoder.required fs ⟨"message", "message"⟩ Lax.str
    let e := Decoder.required fs ⟨"severity", "severity"⟩ Lax.str
    let f := Decoder.required fs ⟨"ruleKey", "rule_key"⟩ Lax.str
    let g := Decoder.optional fs ⟨"textRange", "text_range"⟩ HashedRange.decode
    let h := Decoder.required fs ⟨"introductionDate", "introduction_date"⟩ DateTime.decode
    let i := Decoder.withDefault fs ⟨"flows", "flows"⟩ [] (Decoder.sequence TaintFlow.decode)
    ((((a.zip b).zip (c.zip d)).zip ((e.zip f).zip (g.zip h))).zip i).map
      fun ((((a, b), (c, d)), ((e, f), (g, h))), i) => ⟨a, b, c, d, e, f, g, h, i⟩

end TaintIssue

end LocationDrift
