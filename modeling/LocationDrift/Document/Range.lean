import LocationDrift.Text.Range
import LocationDrift.Validation.Lax

/-!
# Ranges in documents

A range in a document is an object with the four integer fields `startLine`, `startLineOffset`,
`endLine` and `endLineOffset`, all required. A recorded range may also carry `hash`, the
fingerprint of the code it anchored when it was recorded, empty when absent.
-/

namespace LocationDrift

/-- A range with the fingerprint of the code it anchored. -/
structure HashedRange where
  range : TextRange
  hash : Text
deriving DecidableEq, Repr, Inhabited

namespace TextRange

/-- The four fields of a range, in their order. -/
def readFields (fs : List (Text × Json)) : Checked TextRange :=
  let sl := Decoder.required fs ⟨"startLine", "start_line"⟩ Lax.int
  let so := Decoder.required fs ⟨"startLineOffset", "start_line_offset"⟩ Lax.int
  let el := Decoder.required fs ⟨"endLine", "end_line"⟩ Lax.int
  let eo := Decoder.required fs ⟨"endLineOffset", "end_line_offset"⟩ Lax.int
  ((sl.zip so).zip (el.zip eo)).map fun ((a, b), (c, d)) => ⟨a, b, c, d⟩

/-- A range object. -/
def decode : Decoder TextRange := Decoder.model "TextRange" readFields

end TextRange

namespace HashedRange

/-- A range object with an optional `hash` string. -/
def decode : Decoder HashedRange :=
  Decoder.model "TextRangeWithHash" fun fs =>
    ((TextRange.readFields fs).zip (Decoder.withDefault fs ⟨"hash", "hash"⟩ [] Lax.str)).map
      fun (r, h) => ⟨r, h⟩

end HashedRange

end LocationDrift
