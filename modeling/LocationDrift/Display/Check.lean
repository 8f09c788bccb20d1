import LocationDrift.Display.Basic

/-!
# Reading a display payload back

A display parameter given as JSON is checked like any document: each field under its camel-case
alias or its own name, in order, absent optional fields taking no value, absent flags `false` and
absent flows none. A location that claims its code matches but was not found is refused as a
whole, once its fields are all well formed.
-/

namespace LocationDrift

namespace Location

/-- A location's fields, before the check that a match is present. -/
def readFields (fs : List (Text × Json)) : Checked Location :=
  let a := Decoder.optional fs ⟨"uri", "uri"⟩ Lax.str
  let b := Decoder.optional fs ⟨"filePath", "file_path"⟩ Lax.str
  let c := Decoder.optional fs ⟨"message", "message"⟩ Lax.str
  let d := Decoder.optional fs ⟨"textRange", "text_range"⟩ HashedRange.decode
  let e := Decoder.withDefault fs ⟨"exists", "exists"⟩ false Lax.bool
  let f := Decoder.withDefault fs ⟨"codeMatches", "code_matches"⟩ false Lax.bool
  (((a.zip b).zip (c.zip d)).zip (e.zip f)).map fun (((a, b), (c, d)), (e, f)) => ⟨a, b, c, d, e, f⟩

/-- A location object; a match that is not present is a `valueError` of the whole object. -/
def decode : Decoder Location :=
  Decoder.model "Location" fun fs =>
    (readFields fs).bind fun l =>
      if l.codeMatches && !l.present then
        Checked.fail (.valueError (Text.ofString "code_matches requires exists")) (.obj fs)
      else .ok l

end Location

namespace Flow

/-- A flow object. -/
def decode : Decoder Flow :=
  Decoder.model "Flow" fun fs =>
    (Decoder.withDefault fs ⟨"locations", "locations"⟩ [] (Decoder.sequence Location.decode)).map
      Flow.mk

end Flow

namespace DisplayIssue

/-- A display parameter object. -/
def decode : Decoder DisplayIssue :=
  Decoder.model "DisplayIssue" fun fs =>
    let a := Decoder.optional fs ⟨"fileUri", "file_uri"⟩ Lax.str
    let b := Decoder.required fs ⟨"message", "message"⟩ Lax.str
    let c := Decoder.required fs ⟨"severity", "severity"⟩ Lax.str
    let d := Decoder.required fs ⟨"ruleKey", "rule_key"⟩ Lax.str
    let e := Decoder.optional fs ⟨"textRange", "text_range"⟩ TextRange.decode
    let f := Decoder.withDefault fs ⟨"flows", "flows"⟩ [] (Decoder.sequence Flow.decode)
    let g := Decoder.optional fs ⟨"connectionId", "connection_id"⟩ Lax.str
    let h := Decoder.optional fs ⟨"creationDate", "creation_date"⟩ Lax.str
    let i := Decoder.withDefault fs ⟨"codeMatches", "code_matches"⟩ false Lax.bool
    ((((a.zip b).zip (c.zip d)).zip ((e.zip f).zip (g.zip h))).zip i).map
      fun ((((a, b), (c, d)), ((e, f), (g, h))), i) => ⟨a, b, c, d, e, f, g, h, i⟩

end DisplayIssue

end LocationDrift
