import LocationDrift.Text.Basic

/-!
# Code tables

A coded character set maps codes to characters. The codes of a two-byte set are its byte pairs,
each written as one number with the first byte high: the cell of row byte `0x30` and column byte
`0x21` has the code `0x3021`.

**Runs.** The data of a set is a list of runs: a run gives a code and the characters of that
code and of the codes after it, one character each. `CodeTable.ofRuns` places them in an array
indexed from the table's first code, where zero marks a code without a character (no set here
maps a two-byte code to U+0000). A code outside the array is ignored when the runs are placed and
has no character when it is looked up.

**Lookups (`CodeTable.get?`).** The character of a code, when the table has one.
-/

namespace LocationDrift

namespace Charset

/-- A table of characters by code: the first code and the characters from it on, zero marking a
code without a character. -/
structure CodeTable where
  first : Nat
  cells : Array Nat
deriving Inhabited

/-- Place the characters of a run from `code` on. -/
def placeRun (first : Nat) : Array Nat → Nat → List Char → Array Nat
  | cells, _, [] => cells
  | cells, code, c :: cs =>
    placeRun first (if code < first then cells else cells.setIfInBounds (code - first) c.toNat)
      (code + 1) cs

/-- The table of the codes from `first` on, `size` of them, that the runs give. -/
def CodeTable.ofRuns (first size : Nat) (runs : List (Nat × String)) : CodeTable :=
  ⟨first, runs.foldl (fun cells (code, chars) => placeRun first cells code chars.toList)
    (Array.replicate size 0)⟩

/-- The character of a code. -/
def CodeTable.get? (t : CodeTable) (code : Nat) : Option Nat :=
  if code < t.first then none
  else
    match t.cells[code - t.first]? with
    | some c => if c = 0 then none else some c
    | none => none

/-- The table of the cells of a 94 × 94 set, codes `0x2121` to `0x7E7E`. -/
def CodeTable.ofGrid (runs : List (Nat × String)) : CodeTable := ofRuns 0x2121 0x5D5E runs

/-- The table of the cells of a byte-pair set whose lead bytes are at least `0x80`. -/
def CodeTable.ofPairs (runs : List (Nat × String)) : CodeTable := ofRuns 0x8000 0x8000 runs

/-- The characters of a cell that holds two: the code and the two characters. -/
def pairAt? (pairs : List (Nat × Nat × Nat)) (code : Nat) : Option Text :=
  (pairs.find? (·.1 == code)).map fun (_, a, b) => [a, b]

end Charset

end LocationDrift
