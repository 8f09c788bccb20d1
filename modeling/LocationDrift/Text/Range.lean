import LocationDrift.Text.Lines
import LocationDrift.Text.Utf8

/-!
# Text ranges and the code they span

**Measuring a line.** The UTF-16 length of a line is its length when it is ASCII, and otherwise
half the length of its little-endian UTF-16 bytes, a lone surrogate written as its own unit
(`Text.utf16Len`). A UTF-16 offset becomes an index into the line as the offset itself, clamped to
the length, when the line is ASCII, and otherwise by counting units character by character until
at least the offset is reached, so that an offset inside a surrogate pair lands after that
character (`Text.codePointIndex`).

A range names 1-based lines and 0-based column offsets counted in UTF-16 units, as editors report
them. Start and end line both 0 is the whole-file sentinel; a range with only one of them 0 is
malformed, not whole-file.

**Cutting (`TextRange.cut`).** The range spans nothing when a line is out of bounds, the end comes
before the start, an offset is negative, or the start offset lies past the end of its line. Within
one line the end offset is clamped to the line's length and must not come before the start offset.
Across lines the first line is cut at the start offset, the lines between are kept whole and the
last line is cut at the end offset, all joined by line feeds.
-/

namespace LocationDrift

namespace Utf16

/-- The UTF-16 units of one code point: a value above U+FFFF as a surrogate pair, any other value,
a lone surrogate included, as itself. -/
def unitsOfPoint (c : Nat) : List Nat :=
  if c > 0xFFFF then [0xD800 + (c - 0x10000) / 0x400, 0xDC00 + (c - 0x10000) % 0x400] else [c]

/-- Little-endian UTF-16 bytes of a text; a lone surrogate passes as its own unit. -/
def encodeLe (t : Text) : Bytes :=
  t.flatMap fun c => (unitsOfPoint c).flatMap fun u => [(u % 256).toUInt8, (u / 256).toUInt8]

end Utf16

namespace Text

/-- The UTF-16 length of a line: its length when ASCII, else half its UTF-16 bytes. -/
def utf16Len (line : Text) : Nat :=
  if isAscii line then line.length else (Utf16.encodeLe line).length / 2

/-- The counting loop over a line's characters with their indexes: the first index reached with
at least `offset` units counted before it, or none when the line ends first. -/
def firstIndexWithUnits (offset : Nat) : Nat → List (Nat × Nat) → Option Nat
  | _, [] => none
  | units, (c, index) :: rest =>
    if units ≥ offset then some index else firstIndexWithUnits offset (units + unitsOf c) rest

/-- The index into a line of a UTF-16 offset, clamped to the line's end; an offset inside a
surrogate pair lands after that character. -/
def codePointIndex (line : Text) (offset : Nat) : Nat :=
  if isAscii line then min offset line.length
  else (firstIndexWithUnits offset 0 line.zipIdx).getD line.length

end Text

/-- A range of lines and UTF-16 column offsets; any integers are representable. -/
structure TextRange where
  startLine : Int
  startLineOffset : Int
  endLine : Int
  endLineOffset : Int
deriving DecidableEq, Repr, Inhabited

namespace TextRange

/-- Start and end line both 0: the range stands for the whole file. -/
def isWholeFile (r : TextRange) : Bool := r.startLine == 0 && r.endLine == 0

/-- The code the range spans in a list of lines, or none when it spans nothing. -/
def cut (lines : List Text) (r : TextRange) : Option Text :=
  if r.startLine < 1 ∨ r.endLine < r.startLine ∨ r.endLine > lines.length then none
  else if r.startLineOffset < 0 ∨ r.endLineOffset < 0 then none
  else
    let first := lines.getD (r.startLine.toNat - 1) []
    let firstUnits := Text.utf16Len first
    if r.startLineOffset > firstUnits then none
    else
      let startOffset := r.startLineOffset.toNat
      let begin := Text.codePointIndex first startOffset
      if r.startLine = r.endLine then
        let stop := min r.endLineOffset.toNat firstUnits
        if stop < startOffset then none
        else some ((first.take (Text.codePointIndex first stop)).drop begin)
      else
        let last := lines.getD (r.endLine.toNat - 1) []
        let middle := (lines.drop r.startLine.toNat).take (r.endLine.toNat - 1 - r.startLine.toNat)
        let stop := Text.codePointIndex last r.endLineOffset.toNat
        some (Text.intercalate [10] (first.drop begin :: middle ++ [last.take stop]))

/-- The code of a range in a whole text: all of it for the sentinel, else the cut of its lines. -/
def codeIn (content : Text) (r : TextRange) : Option Text :=
  if r.isWholeFile then some content else cut (Text.splitLines content) r

end TextRange

end LocationDrift
