import LocationDrift.Document.Range

/-!
# Live analysis issues

An issue just raised by a local analysis names its file by a path on disk, which the analysis has
just read, and carries flows of locations, each with an optional path and an optional range.

Fields are read in the order written here, each under its camel-case alias or its own name.
-/

namespace LocationDrift

/-- A location of a live flow. -/
structure LiveLocation where
  filePath : Option Text
  textRange : Option TextRange
  message : Option Text
deriving DecidableEq, Repr, Inhabited

/-- A live flow: its locations in order. -/
structure LiveFlow where
  locations : List LiveLocation
deriving DecidableEq, Repr, Inhabited

/-- An issue raised by a local analysis. -/
structure LiveIssue where
  filePath : Option Text
  message : Text
  severity : Text
  ruleKey : Text
  textRange : Option TextRange
  flows : List LiveFlow
deriving DecidableEq, Repr, Inhabited

namespace LiveLocation

/-- A live location object. -/
def decode : Decoder LiveLocation :=
  Decoder.model "LiveLocationDocument" fun fs =>
    let a := Decoder.optional fs ⟨"filePath", "file_path"⟩ Lax.str
    let b := Decoder.optional fs ⟨"textRange", "text_range"⟩ TextRange.decode
    let c := Decoder.optional fs ⟨"message", "message"⟩ Lax.str
    ((a.zip b).zip c).map fun ((a, b), c) => ⟨a, b, c⟩

end LiveLocation

namespace LiveFlow

/-- A live flow object. -/
def decode : Decoder LiveFlow :=
  Decoder.model "LiveFlowDocument" fun fs =>
    (Decoder.withDefault fs ⟨"locations", "locations"⟩ [] (Decoder.sequence LiveLocation.decode)).map
      LiveFlow.mk

end LiveFlow

namespace LiveIssue

/-- A live issue object. -/
def decode : Decoder LiveIssue :=
  Decoder.model "LiveIssueDocument" fun fs =>
    let a := Decoder.optional fs ⟨"filePath", "file_path"⟩ Lax.str
    let b := Decoder.required fs ⟨"message", "message"⟩ Lax.str
    let c := Decoder.required fs ⟨"severity", "severity"⟩ Lax.str
    let d := Decoder.required fs ⟨"ruleKey", "rule_key"⟩ Lax.str
    let e := Decoder.optional fs ⟨"textRange", "text_range"⟩ TextRange.decode
    let f := Decoder.withDefault fs ⟨"flows", "flows"⟩ [] (Decoder.sequence LiveFlow.decode)
    (((a.zip b).zip (c.zip d)).zip (e.zip f)).map
      fun (((a, b), (c, d)), (e, f)) => ⟨a, b, c, d, e, f⟩

end LiveIssue

end LocationDrift
