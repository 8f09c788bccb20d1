import LocationDrift.Unicode.Normalization
import LocationDrift.Unicode.StringprepData

/-!
# Name preparation

`Stringprep.nameprep?` prepares a label as the nameprep profile of stringprep (RFC 3491) does,
unassigned code points allowed:

1. **Map.** The code points of table B.1 are dropped and every other one is replaced by its case
   folding of table B.2 (itself when it has none).
2. **Normalize.** The text is put in normalization form KC (`Normalization.nfkc`).
3. **Prohibit.** A code point of tables C.1.2, C.2.2 and C.3 to C.9 refuses the label.
4. **Check bidirectional text.** When some code point is of table D.1 (right to left), none may
   be of table D.2 (left to right), and the first and the last code point must be of D.1.
-/

namespace LocationDrift

namespace Stringprep

/-- The case foldings of table B.2, by code point. -/
def caseFolds : Array (Nat × List Nat) :=
  ((Normalization.entriesOf caseFoldLines).filterMap Normalization.mappingOf?).toArray

/-- The ranges of table D.2. -/
def leftToRightRanges : List (Nat × Nat) :=
  (Normalization.entriesOf leftToRightLines).filterMap Normalization.rangeOf?

/-- A code point lies in one of the ranges. -/
def inRanges (ranges : List (Nat × Nat)) (c : Nat) : Bool :=
  ranges.any fun (lo, hi) => lo ≤ c && c ≤ hi

/-- Step 1: drop and fold. -/
def mapLabel (label : Text) : Text :=
  label.flatMap fun c =>
    if mappedToNothing.contains c then [] else (Normalization.lookup? caseFolds c).getD [c]

/-- Step 4: the bidirectional rule holds. -/
def bidiAllowed (t : Text) : Bool :=
  if t.any (inRanges rightToLeftRanges) then
    !t.any (inRanges leftToRightRanges) &&
      (t.head?.map (inRanges rightToLeftRanges)).getD false &&
      (t.getLast?.map (inRanges rightToLeftRanges)).getD false
  else true

/-- The prepared label, or none when the label is refused. -/
def nameprep? (label : Text) : Option Text :=
  let t := Normalization.nfkc (mapLabel label)
  if t.any (inRanges prohibitedRanges) || !bidiAllowed t then none else some t

end Stringprep

end LocationDrift
