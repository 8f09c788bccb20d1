import LocationDrift.Text.Basic
import LocationDrift.Unicode.NormalizationData

/-!
# Compatibility normalization

`Normalization.nfkc` puts a text in normalization form KC the way name preparation does:
decompositions of Unicode 3.2, with the combining classes and compositions of Unicode 15.0.

**Decomposition (`nfkd`).** Every code point is replaced by its full compatibility decomposition
(a Hangul syllable by its leading consonant, vowel and final consonant jamo); then each run of
marks (code points of nonzero class) is sorted by class, marks of equal class keeping their order.

**Composition (`compose`).** From left to right, a leading consonant jamo followed by a vowel jamo
becomes their syllable, and a final consonant jamo after them joins it. Any other code point
takes in, in order, each later code point that composes with it and is not blocked: a code point
is blocked when a mark before it that did not compose has a class at least its own, and the scan
ends at the first code point of class 0 that does not compose. The code points taken in are
dropped.

**Data.** `decompositionLines`, `combiningClassLines` and `compositionLines`, read once into
sorted arrays and a list of ranges.
-/

namespace LocationDrift

namespace Normalization

/-- The value of hexadecimal digits; none for an empty text or any other character. -/
def hexValue? (s : String) : Option Nat :=
  if s.isEmpty then none
  else s.toList.foldlM (fun acc c => (Text.hexValue? c.toNat).map (acc * 16 + ·)) 0

/-- The entries of lines whose entries are separated by `;`. -/
def entriesOf (lines : List String) : List String := lines.flatMap (·.splitOn ";")

/-- A mapping entry `c>d₁ d₂ …`. -/
def mappingOf? (entry : String) : Option (Nat × List Nat) :=
  match entry.splitOn ">" with
  | [k, v] => do
    let c ← hexValue? k
    let ds ← (v.splitOn " ").mapM hexValue?
    some (c, ds)
  | _ => none

/-- A range entry `a` or `a-b`. -/
def rangeOf? (entry : String) : Option (Nat × Nat) :=
  match entry.splitOn "-" with
  | [a] => (hexValue? a).map fun v => (v, v)
  | [a, b] => do
    let lo ← hexValue? a
    let hi ← hexValue? b
    some (lo, hi)
  | _ => none

/-- The value a table of mappings, sorted by key, gives a code point. -/
def lookup? (table : Array (Nat × List Nat)) (c : Nat) : Option (List Nat) :=
  (table.binSearch (c, []) fun a b => a.1 < b.1).map (·.2)

/-- The decompositions, by code point. -/
def decompositions : Array (Nat × List Nat) :=
  ((entriesOf decompositionLines).filterMap mappingOf?).toArray

/-- The combining classes, as ranges with their class. -/
def combiningClasses : List (Nat × Nat × Nat) :=
  (entriesOf combiningClassLines).filterMap fun e =>
    match e.splitOn "=" with
    | [r, k] => do
      let (lo, hi) ← rangeOf? r
      let k ← k.toNat?
      some (lo, hi, k)
    | _ => none

/-- The combining class of a code point. -/
def combiningClass (c : Nat) : Nat :=
  ((combiningClasses.find? fun (lo, hi, _) => lo ≤ c ∧ c ≤ hi).map (·.2.2)).getD 0

/-- The canonical compositions, sorted by the pair. -/
def compositions : Array (Nat × Nat × Nat) :=
  ((entriesOf compositionLines).filterMap fun e =>
    match e.splitOn ">" with
    | [k, v] =>
      match (k.splitOn " ").mapM hexValue?, hexValue? v with
      | some [a, b], some c => some (a, b, c)
      | _, _ => none
    | _ => none).toArray

/-- Pairs in the order of their first, then their second member. -/
def pairLt (x y : Nat × Nat × Nat) : Bool := x.1 < y.1 || (x.1 == y.1 && x.2.1 < y.2.1)

/-- What two code points compose to. -/
def compose? (a b : Nat) : Option Nat :=
  (compositions.binSearch (a, b, 0) pairLt).map (·.2.2)

/-- The first Hangul syllable. -/
def syllableBase : Nat := 0xAC00

/-- The first leading consonant jamo. -/
def leadBase : Nat := 0x1100

/-- The first vowel jamo. -/
def vowelBase : Nat := 0x1161

/-- The code point before the first final consonant jamo. -/
def tailBase : Nat := 0x11A7

/-- The full decomposition of a code point. -/
def decompose (c : Nat) : List Nat :=
  if syllableBase ≤ c ∧ c < syllableBase + 11172 then
    let i := c - syllableBase
    [leadBase + i / 588, vowelBase + i % 588 / 28] ++ (if i % 28 = 0 then [] else [tailBase + i % 28])
  else (lookup? decompositions c).getD [c]

/-- Put a code point of class `k` after the reversed output `acc`, moving it before the marks of
a greater class that end it. -/
def insertMark (c k : Nat) : List Nat → List Nat
  | [] => [c]
  | p :: ps =>
    let kp := combiningClass p
    if k = 0 ∨ kp = 0 ∨ kp ≤ k then c :: p :: ps else p :: insertMark c k ps

/-- Sort each run of marks by class, stably. -/
def reorder (t : List Nat) : List Nat :=
  (t.foldl (fun acc c => insertMark c (combiningClass c) acc) []).reverse

/-- The compatibility decomposition of a text, in canonical order. -/
def nfkd (t : List Nat) : List Nat := reorder (t.flatMap decompose)

/-- Take into `cur` the code points of `rest` that compose with it; `blocking` is the class of
the last mark that did not. The result is what `cur` becomes and the code points left. -/
def absorb (cur blocking : Nat) : List Nat → Nat × List Nat
  | [] => (cur, [])
  | y :: ys =>
    let k := combiningClass y
    if blocking ≠ 0 ∧ k = 0 then (cur, y :: ys)
    else if blocking ≠ 0 ∧ blocking ≥ k then
      let r := absorb cur blocking ys
      (r.1, y :: r.2)
    else
      match compose? cur y with
      | some c => absorb c blocking ys
      | none =>
        if k = 0 then (cur, y :: ys)
        else
          let r := absorb cur k ys
          (r.1, y :: r.2)

/-- `absorb` leaves no more code points than it was given. -/
theorem absorb_length :
    ∀ (cur blocking : Nat) (l : List Nat), (absorb cur blocking l).2.length ≤ l.length
  | _, _, [] => by simp [absorb]
  | cur, blocking, y :: ys => by
    have h1 := absorb_length cur blocking ys
    have h2 := absorb_length cur (combiningClass y) ys
    rw [absorb]
    split
    · simp
    · split
      · simp only [List.length_cons]; omega
      · split
        · next c _ =>
          have := absorb_length c blocking ys
          simp only [List.length_cons]; omega
        · split
          · simp
          · simp only [List.length_cons]; omega

/-- The syllable a leading consonant jamo `x` makes with the jamo after it, and how many of them
it takes: a vowel, and a final consonant after the vowel when there is one. -/
def syllableOf? (x : Nat) : List Nat → Option (Nat × Nat)
  | v :: more =>
    if leadBase ≤ x ∧ x < leadBase + 19 ∧ vowelBase ≤ v ∧ v < vowelBase + 21 then
      let s := syllableBase + ((x - leadBase) * 21 + (v - vowelBase)) * 28
      match more with
      | f :: _ => if tailBase < f ∧ f < tailBase + 28 then some (s + (f - tailBase), 2) else some (s, 1)
      | [] => some (s, 1)
    else none
  | [] => none

/-- Compose a decomposed text. -/
def compose : List Nat → List Nat
  | [] => []
  | x :: rest =>
    match syllableOf? x rest with
    | some (s, n) => s :: compose (rest.drop n)
    | none =>
      let r := absorb x 0 rest
      r.1 :: compose r.2
termination_by t => t.length
decreasing_by
  · simp only [List.length_cons, List.length_drop]; omega
  · have := absorb_length x 0 rest
    simp only [List.length_cons]
    omega

/-- Normalization form KC. -/
def nfkc (t : List Nat) : List Nat := compose (nfkd t)

end Normalization

end LocationDrift
