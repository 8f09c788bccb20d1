import LocationDrift.Text.Utf8

/-!
# Decoding by units

A multi-byte codec reads its input as a sequence of units of one byte or a few, the first bytes
of a unit telling how long it is. A unit reader takes the first byte of a unit and the bytes after
it, and gives the characters of the unit and how many of the bytes after the first it takes; it
gives nothing when no unit of the codec starts there, a unit cut short by the end of the input
included.

**`decodeUnits`.** An input decodes when it splits into units from its start to its end; the text
is the characters of the units in order. A unit takes at least its first byte, so the reading
ends.
-/

namespace LocationDrift

namespace Codec

/-- Decode with a unit reader. -/
def decodeUnits (unit : UInt8 → Bytes → Option (Text × Nat)) : Bytes → Option Text
  | [] => some []
  | b :: rest =>
    match unit b rest with
    | none => none
    | some (cs, n) => (cs ++ ·) <$> decodeUnits unit (rest.drop n)
termination_by bs => bs.length
decreasing_by simp only [List.length_cons, List.length_drop]; omega

/-- A unit of one byte that stands for the character of its value. -/
def single (b : Nat) : Option (Text × Nat) := some ([b], 0)

/-- A unit of one character taking `n` bytes after the first. -/
def unitOf (n : Nat) (c : Option Nat) : Option (Text × Nat) := c.map fun c => ([c], n)

/-- The code of two bytes of the upper half read as a cell of a 94 × 94 set: both bytes from
`0xA1` to `0xFE`, their low seven bits the row and column bytes. -/
def upperCell? (a b : Nat) : Option Nat :=
  if 0xA1 ≤ a ∧ a ≤ 0xFE ∧ 0xA1 ≤ b ∧ b ≤ 0xFE then some ((a - 0x80) * 256 + (b - 0x80)) else none

end Codec

end LocationDrift
