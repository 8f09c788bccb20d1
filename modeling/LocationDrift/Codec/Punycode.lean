import LocationDrift.Text.Utf8

/-!
# Punycode

The bootstring encoding of RFC 3492 with its Punycode parameters: base 36, digits `a`–`z` for 0
to 25 and `0`–`9` for 26 to 35, thresholds between 1 and 26, skew 38, damp 700, initial bias 72
and initial code point U+0080.

**Decoding (`Punycode.decode?`).** Every byte must be ASCII. The bytes before the last `-` are the
basic code points, taken as they are (there is no basic part without a `-`); the bytes after it
are read as variable-length numbers, each digit in either case, each number the step `delta` of
the insertion state. A step moves the insertion point by `delta + 1` places round the text, and
every full turn of the text raises the code point being inserted by one. A digit outside the
alphabet, a number cut short by the end, and a code point above U+10FFFF are refused; a code
point in the surrogate range is inserted like any other.

**Encoding (`Punycode.encode`).** The basic code points in order, then `-` when there are any,
then the steps that insert the other code points, smallest first and each of its occurrences
from left to right, written with lowercase digits.

**Termination.** A number takes at least one digit, so decoding recurses on a shorter input
(`Punycode.readNumber_shorter`); an encoded number's value divides by at least ten per digit.
-/

namespace LocationDrift

namespace Punycode

/-- The value of a digit: `A`–`Z` and `a`–`z` are 0 to 25, `0`–`9` are 26 to 35. -/
def digitValue? (c : Nat) : Option Nat :=
  if 65 ≤ c ∧ c ≤ 90 then some (c - 65)
  else if 97 ≤ c ∧ c ≤ 122 then some (c - 97)
  else if 48 ≤ c ∧ c ≤ 57 then some (c - 22)
  else none

/-- The character of a digit value below 36, lowercase. -/
def digitChar (d : Nat) : Nat := if d < 26 then 97 + d else d + 22

/-- The threshold of the digit at position `k` (a multiple of 36), between 1 and 26. -/
def threshold (k bias : Nat) : Nat :=
  if k ≤ bias then 1 else if bias + 26 ≤ k then 26 else k - bias

theorem threshold_pos (k bias : Nat) : 1 ≤ threshold k bias := by
  unfold threshold
  split
  · omega
  · split <;> omega

theorem threshold_le (k bias : Nat) : threshold k bias ≤ 26 := by
  unfold threshold
  split
  · omega
  · split <;> omega

/-- Divide by 35 until at most 455 remains, counting 36 per division. -/
def shrink (delta k : Nat) : Nat × Nat :=
  if 455 < delta then shrink (delta / 35) (k + 36) else (delta, k)
termination_by delta
decreasing_by exact Nat.div_lt_self (by omega) (by omega)

/-- The bias after a step of `delta`, the text holding `numPoints` code points after it. -/
def adapt (delta numPoints : Nat) (first : Bool) : Nat :=
  let d := if first then delta / 700 else delta / 2
  let (d, k) := shrink (d + d / numPoints) 0
  k + 36 * d / (d + 38)

/-- Read one variable-length number at position `k` with weight `w` and the value `acc` read so
far; its value and the rest of the input. -/
def readNumber (bias : Nat) : Text → Nat → Nat → Nat → Option (Nat × Text)
  | [], _, _, _ => none
  | c :: rest, k, w, acc =>
    match digitValue? c with
    | none => none
    | some d =>
      let t := threshold k bias
      if d < t then some (acc + d * w, rest)
      else readNumber bias rest (k + 36) (w * (36 - t)) (acc + d * w)

/-- A number is read from at least one digit. -/
theorem readNumber_shorter (bias : Nat) :
    ∀ (l : Text) (k w acc : Nat) (r : Nat × Text),
      readNumber bias l k w acc = some r → r.2.length < l.length
  | [], _, _, _, _, h => by simp [readNumber] at h
  | c :: rest, k, w, acc, r, h => by
    rw [readNumber] at h
    split at h
    · simp at h
    · dsimp only at h
      split at h
      · rw [← Option.some.inj h]; simp
      · have := readNumber_shorter bias rest (k + 36) _ _ r h
        simp only [List.length_cons]; omega

/-- Insert the code points the steps of `input` give into `out`; `n` is the code point being
inserted and `q` one past the last insertion point. -/
def insertAll (bias n q : Nat) (first : Bool) (out : Text) : Text → Option Text
  | [] => some out
  | c :: rest =>
    match h : readNumber bias (c :: rest) 36 1 0 with
    | none => none
    | some (delta, more) =>
      -- the steps left are shorter, which bounds the recursion
      have : more.length < rest.length + 1 := by
        simpa using readNumber_shorter bias (c :: rest) 36 1 0 (delta, more) h
      let cur := q + delta
      let size := out.length + 1
      let code := n + cur / size
      if code > 0x10FFFF then none
      else
        let pos := cur % size
        insertAll (adapt delta size first) code (pos + 1) false
          (out.take pos ++ code :: out.drop pos) more
termination_by l => l.length

/-- The text before the last `-` and the text after it; all of it is after when there is none. -/
def splitLast (t : Text) : Text × Text :=
  match t.reverse.span (· != 45) with
  | (after, []) => ([], after.reverse)
  | (after, _ :: before) => (before.reverse, after.reverse)

/-- Decode Punycode bytes. -/
def decode? (bs : Bytes) : Option Text :=
  if bs.all (· < 128) then
    let (basic, steps) := splitLast (bs.map UInt8.toNat)
    insertAll 72 128 0 true basic steps
  else none

/-- The digits of the number `q` from position `k` on. -/
def numberDigits (bias k q : Nat) : Text :=
  let t := threshold k bias
  if q < t then [digitChar q]
  else digitChar (t + (q - t) % (36 - t)) :: numberDigits bias (k + 36) ((q - t) / (36 - t))
termination_by q
decreasing_by
  have _h1 := threshold_pos k bias
  have _h2 := threshold_le k bias
  calc (q - threshold k bias) / (36 - threshold k bias)
      ≤ q - threshold k bias := Nat.div_le_self _ _
    _ < q := by omega

/-- The state of encoding: the digits written, the pending step, the bias and the number of code
points handled. -/
structure EncodeState where
  out : Text
  delta : Nat
  bias : Nat
  handled : Nat

/-- Pass one character of the input while inserting the code point `m`; `b` is the number of
basic code points. -/
def passOne (b m : Nat) (s : EncodeState) (c : Nat) : EncodeState :=
  if c < m then { s with delta := s.delta + 1 }
  else if c == m then
    { out := s.out ++ numberDigits s.bias 36 s.delta, delta := 0,
      bias := adapt s.delta (s.handled + 1) (s.handled == b), handled := s.handled + 1 }
  else s

/-- Insert the code points `ms`, in order, from the code point `n` on. -/
def insertSteps (input : Text) (b : Nat) : List Nat → Nat → EncodeState → EncodeState
  | [], _, s => s
  | m :: rest, n, s =>
    let s := { s with delta := s.delta + (m - n) * (s.handled + 1) }
    let s := input.foldl (passOne b m) s
    insertSteps input b rest (m + 1) { s with delta := s.delta + 1 }

/-- Insert into an increasing list without repeats. -/
def insertSorted (x : Nat) : List Nat → List Nat
  | [] => [x]
  | y :: ys => if x < y then x :: y :: ys else if x == y then y :: ys else y :: insertSorted x ys

/-- The distinct values of a list, increasing. -/
def sortedDistinct (xs : List Nat) : List Nat := xs.foldr insertSorted []

/-- Encode a text with Punycode. -/
def encode (input : Text) : Text :=
  let basic := input.filter (· < 128)
  let b := basic.length
  let steps := (insertSteps input b (sortedDistinct (input.filter (· ≥ 128))) 128
    ⟨[], 0, 72, b⟩).out
  if basic.isEmpty then steps else basic ++ [45] ++ steps

end Punycode

end LocationDrift
