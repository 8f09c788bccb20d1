import LocationDrift.Proofs.UnitCounting

/-!
# The code a range spans, as positions in the joined lines

A range names its ends by line and UTF-16 column. Read against the text of its lines joined by
line feeds, each end is one UTF-16 position of that text, and the range's code is the part of the
text between the two positions.

**Positions (`Text.unitIndex`, `TextRange.unitPosition`).** Column `o` of the 1-based line `l`
is the position that counts every earlier line with its line feed, then `o`. A position becomes
a code-point index as the least index whose prefix spans at least that many units
(`Text.unitIndex`): a position inside a surrogate pair lands just after that character. This is
the index cutting computes character by character (`unitIndex_eq_indexOfUnits`).

**When a range spans nothing (`TextRange.SpansNothing`).** A line is out of bounds or the end
comes before the start; an offset is negative; the start offset lies past its line; or, within
one line, the end offset clamped to the line comes before the start offset.

**Theorem (`cut_between_units`).** Cutting a range from a list of lines gives nothing exactly when
the range spans nothing, and otherwise the part of the joined lines between the position of its
start and the position of its end offset clamped to its end line. The code of a range in a whole
text is the text for start and end line 0, whatever the offsets, and the cut of its lines
otherwise.
-/

namespace LocationDrift

namespace Text

/-- The code-point index of the UTF-16 position `o` of a text: the least index whose prefix spans
at least `o` units, or the length when the whole text spans fewer. -/
def unitIndex (t : Text) (o : Nat) : Nat :=
  ((List.range (t.length + 1)).find? fun i => o ≤ units16 (t.take i)).getD t.length

/-- The part of a text between two UTF-16 positions. -/
def betweenUnits (t : Text) (a b : Nat) : Text := (t.take (unitIndex t b)).drop (unitIndex t a)

end Text

namespace TextRange

/-- The UTF-16 units of the 1-based line `l`; an absent line has none. -/
def lineUnits (lines : List Text) (l : Int) : Nat := Text.units16 (lines.getD (l.toNat - 1) [])

/-- The UTF-16 position, in the lines joined by line feeds, of column `o` of the 1-based line
`l`: every earlier line with its line feed, then `o`. -/
def unitPosition (lines : List Text) (l o : Nat) : Nat :=
  ((lines.take (l - 1)).map fun x => Text.units16 x + 1).sum + o

/-- The range spans nothing in the lines: a line out of bounds or the end before the start, a
negative offset, a start offset past its line, or, within one line, the end offset clamped to the
line before the start offset. -/
def SpansNothing (lines : List Text) (r : TextRange) : Prop :=
  r.startLine < 1 ∨ r.endLine < r.startLine ∨ r.endLine > lines.length ∨ r.startLineOffset < 0 ∨
    r.endLineOffset < 0 ∨ r.startLineOffset > lineUnits lines r.startLine ∨
    (r.startLine = r.endLine ∧
      min r.endLineOffset (lineUnits lines r.startLine) < r.startLineOffset)

instance (lines : List Text) (r : TextRange) : Decidable (r.SpansNothing lines) :=
  inferInstanceAs (Decidable (_ ∨ _))

/-- The part of the lines joined by line feeds between the position of the range's start and the
position of its end offset clamped to its end line. -/
def joinedSpan (lines : List Text) (r : TextRange) : Text :=
  Text.betweenUnits (List.intercalate [10] lines)
    (unitPosition lines r.startLine.toNat r.startLineOffset.toNat)
    (unitPosition lines r.endLine.toNat (min r.endLineOffset.toNat (lineUnits lines r.endLine)))

end TextRange

/-! ## Code-point indexes of UTF-16 positions -/

namespace Text

/-- Past the position 0, the least index is found one character further along the tail. -/
theorem unitIndex_cons (c : Nat) (t : Text) (o : Nat) :
    unitIndex (c :: t) o = if o = 0 then 0 else unitIndex t (o - unitsOf c) + 1 := by
  have hshift : ((fun i => decide (o ≤ units16 ((c :: t).take i))) ∘ Nat.succ) =
      fun i => decide (o - unitsOf c ≤ units16 (t.take i)) := by
    funext i
    simp only [Function.comp, List.take_succ_cons, units16, decide_eq_decide]
    omega
  unfold unitIndex
  rw [List.length_cons, List.range_succ_eq_map, List.find?_cons]
  by_cases ho : o = 0
  · simp [ho]
  · have hzero : decide (o ≤ units16 ((c :: t).take 0)) = false := by
      simp only [List.take_zero, units16, decide_eq_false_iff_not]
      omega
    rw [hzero, if_neg ho]
    dsimp only
    rw [List.find?_map, hshift]
    exact Option.getD_map Nat.succ t.length _

/-- The least index is the one cutting computes character by character. -/
theorem unitIndex_eq_indexOfUnits (t : Text) (o : Nat) : unitIndex t o = indexOfUnits t o := by
  induction t generalizing o with
  | nil =>
    simp only [unitIndex, List.length_nil, Nat.zero_add, List.range_one, List.find?_cons,
      List.take_nil, units16, Nat.le_zero, List.find?_nil, indexOfUnits]
    split <;> rfl
  | cons c t ih => rw [unitIndex_cons, ih, indexOfUnits]

/-- Clamping a position to the end of the text does not move its index. -/
theorem indexOfUnits_min (t : Text) (o : Nat) :
    indexOfUnits t (min o (units16 t)) = indexOfUnits t o := by
  by_cases h : o ≤ units16 t
  · rw [Nat.min_eq_left h]
  · rw [Nat.min_eq_right (by omega), indexOfUnits_of_units16_le (Nat.le_refl _),
      indexOfUnits_of_units16_le (by omega)]

/-- A position within a text has the same index whatever follows the text. -/
theorem indexOfUnits_append_of_le {a : Text} {o : Nat} (h : o ≤ units16 a) (b : Text) :
    indexOfUnits (a ++ b) o = indexOfUnits a o := by
  induction a generalizing o with
  | nil =>
    have ho : o = 0 := by simpa [units16] using h
    simp [ho]
  | cons c a ih =>
    simp only [units16] at h
    rw [List.cons_append, indexOfUnits, indexOfUnits, ih (by omega)]

/-- A position past a whole text is found in what follows it, shifted by its length. -/
theorem indexOfUnits_append_units (a b : Text) (o : Nat) :
    indexOfUnits (a ++ b) (units16 a + o) = a.length + indexOfUnits b o := by
  induction a with
  | nil => simp [units16]
  | cons c a ih =>
    have hc := unitsOf_pos c
    have hsub : unitsOf c + units16 a + o - unitsOf c = units16 a + o := by omega
    rw [List.cons_append, indexOfUnits, units16, if_neg (by omega), hsub, ih, List.length_cons]
    omega

end Text

/-! ## Lines joined by line feeds -/

namespace Text

/-- The model's join is the library's. -/
theorem intercalate_eq (sep : Text) (ts : List Text) :
    intercalate sep ts = List.intercalate sep ts := by
  induction ts with
  | nil => rfl
  | cons t ts ih =>
    cases ts with
    | nil => simp [intercalate]
    | cons u us =>
      rw [intercalate, ih, List.intercalate_cons_cons]
      exact List.cons_ne_nil u us

/-- The lines before a given one come each with its separator. -/
theorem intercalate_append_cons (sep : Text) (xs : List Text) (y : Text) (ys : List Text) :
    List.intercalate sep (xs ++ y :: ys) =
      (xs.map (· ++ sep)).flatten ++ List.intercalate sep (y :: ys) := by
  induction xs with
  | nil => simp
  | cons x xs ih =>
    rw [List.cons_append, List.intercalate_cons_of_ne_nil (by simp), ih]
    simp

/-- The lines after a given one come each after its separator. -/
theorem intercalate_cons (sep x : Text) (ys : List Text) :
    List.intercalate sep (x :: ys) = x ++ (ys.map (sep ++ ·)).flatten := by
  induction ys generalizing x with
  | nil => simp
  | cons y ys ih => rw [List.intercalate_cons_cons, ih]; simp

/-- The units of lines each ended by a line feed. -/
theorem units16_terminated (xs : List Text) :
    units16 (xs.map (· ++ [10])).flatten = (xs.map fun x => units16 x + 1).sum := by
  induction xs with
  | nil => rfl
  | cons x xs ih => simp [ih, units16, unitsOf, Nat.add_assoc]

end Text

namespace TextRange

open Text

theorem unitPosition_eq (lines : List Text) (l o : Nat) :
    unitPosition lines l o = units16 ((lines.take (l - 1)).map (· ++ [10])).flatten + o := by
  rw [unitPosition, units16_terminated]

/-- Two positions within one line: the part between them is that line's part between their
columns. -/
theorem betweenUnits_within_line (pre post : List Text) (x : Text) {i j : Nat}
    (hi : i ≤ units16 x) (hj : j ≤ units16 x) :
    betweenUnits (List.intercalate [10] (pre ++ x :: post))
        (units16 (pre.map (· ++ [10])).flatten + i) (units16 (pre.map (· ++ [10])).flatten + j) =
      (x.take (indexOfUnits x j)).drop (indexOfUnits x i) := by
  -- the joined text is the earlier lines with their line feeds, this line, then the rest
  have hjoin : List.intercalate [10] (pre ++ x :: post) =
      (pre.map (· ++ [10])).flatten ++ (x ++ (post.map ([10] ++ ·)).flatten) := by
    rw [intercalate_append_cons, intercalate_cons]
  have hle : indexOfUnits x j ≤ x.length := indexOfUnits_le_length x j
  rw [hjoin, betweenUnits, unitIndex_eq_indexOfUnits, unitIndex_eq_indexOfUnits,
    indexOfUnits_append_units, indexOfUnits_append_units, indexOfUnits_append_of_le hi,
    indexOfUnits_append_of_le hj, List.take_length_add_append, List.drop_length_add_append,
    List.take_append_of_le_length hle]

/-- A position in one line and a later one in a later line: the part between them is the first
line from its column, the lines between, and the last line up to its column. -/
theorem betweenUnits_across_lines (pre mid post : List Text) (x y : Text) {i j : Nat}
    (hi : i ≤ units16 x) (hj : j ≤ units16 y) :
    betweenUnits (List.intercalate [10] (pre ++ x :: (mid ++ y :: post)))
        (units16 (pre.map (· ++ [10])).flatten + i)
        (units16 ((pre ++ x :: mid).map (· ++ [10])).flatten + j) =
      List.intercalate [10] (x.drop (indexOfUnits x i) :: mid ++ [y.take (indexOfUnits y j)]) := by
  -- the joined text: the lines before the first, the first line to the last, and the rest
  have hT : ((pre ++ x :: mid).map (· ++ [10])).flatten =
      (pre.map (· ++ [10])).flatten ++ (x ++ 10 :: (mid.map (· ++ [10])).flatten) := by
    simp
  have hjoin : List.intercalate [10] (pre ++ x :: (mid ++ y :: post)) =
      (pre.map (· ++ [10])).flatten ++ (x ++ 10 :: (mid.map (· ++ [10])).flatten) ++
        (y ++ (post.map ([10] ++ ·)).flatten) := by
    rw [show pre ++ x :: (mid ++ y :: post) = (pre ++ x :: mid) ++ y :: post by simp,
      intercalate_append_cons, intercalate_cons, hT]
  have hlast : List.intercalate [10]
      (x.drop (indexOfUnits x i) :: mid ++ [y.take (indexOfUnits y j)]) =
      x.drop (indexOfUnits x i) ++ 10 :: (mid.map (· ++ [10])).flatten ++
        y.take (indexOfUnits y j) := by
    rw [intercalate_append_cons, List.intercalate_singleton]
    simp
  rw [hjoin, hT, hlast, betweenUnits, unitIndex_eq_indexOfUnits, unitIndex_eq_indexOfUnits]
  generalize (pre.map (· ++ [10])).flatten = A
  generalize (mid.map (· ++ [10])).flatten = M
  generalize (post.map ([10] ++ ·)).flatten = R
  -- the end lies in the last line, the start in the first
  have hend : indexOfUnits (A ++ (x ++ 10 :: M) ++ (y ++ R)) (units16 (A ++ (x ++ 10 :: M)) + j) =
      (A ++ (x ++ 10 :: M)).length + indexOfUnits y j := by
    rw [indexOfUnits_append_units, indexOfUnits_append_of_le hj]
  have hstart : indexOfUnits (A ++ (x ++ 10 :: M) ++ (y ++ R)) (units16 A + i) =
      A.length + indexOfUnits x i := by
    rw [List.append_assoc, indexOfUnits_append_units, List.append_assoc,
      indexOfUnits_append_of_le hi]
  rw [hend, hstart, List.take_length_add_append,
    List.take_append_of_le_length (indexOfUnits_le_length y j), List.append_assoc,
    List.drop_length_add_append, List.append_assoc,
    List.drop_append_of_le_length (indexOfUnits_le_length x i)]
  simp

/-! ## Cutting a range -/

/-- A list splits around each of its positions. -/
theorem exists_split {α : Type} {l : List α} {n : Nat} (h : n < l.length) :
    ∃ pre x post, l = pre ++ x :: post ∧ pre.length = n :=
  ⟨l.take n, l[n], l.drop (n + 1), by rw [List.getElem_cons_drop, List.take_append_drop],
    by simp; omega⟩

theorem getD_split (pre post : List Text) (x : Text) :
    (pre ++ x :: post).getD pre.length [] = x := by
  simp [List.getD_eq_getElem?_getD]

/-- A range that spans nothing cuts nothing. -/
theorem cut_of_spansNothing {lines : List Text} {r : TextRange} (h : r.SpansNothing lines) :
    cut lines r = none := by
  unfold SpansNothing lineUnits at h
  unfold cut
  simp only [utf16Len_eq_units16, codePointIndex_eq_indexOfUnits]
  by_cases hb : r.startLine < 1 ∨ r.endLine < r.startLine ∨ r.endLine > lines.length
  · rw [if_pos hb]
  rw [if_neg hb]
  by_cases ho : r.startLineOffset < 0 ∨ r.endLineOffset < 0
  · rw [if_pos ho]
  rw [if_neg ho]
  by_cases hf : r.startLineOffset > (units16 (lines.getD (r.startLine.toNat - 1) []) : Int)
  · rw [if_pos hf]
  rw [if_neg hf]
  -- what is left is one line whose clamped end offset comes before the start offset
  have hone : r.startLine = r.endLine ∧
      min r.endLineOffset (units16 (lines.getD (r.startLine.toNat - 1) []) : Int) <
        r.startLineOffset := by
    omega
  rw [if_pos hone.1, if_pos (by omega)]

/-- Within one line, cutting takes the part of the joined lines between the two positions. -/
theorem cut_within_line (pre post : List Text) (x : Text) {r : TextRange}
    (hl : r.startLine.toNat - 1 = pre.length) (hsame : r.startLine = r.endLine)
    (h1 : 1 ≤ r.startLine) (hso : 0 ≤ r.startLineOffset) (heo : 0 ≤ r.endLineOffset)
    (hfirst : r.startLineOffset ≤ units16 x)
    (hone : r.startLineOffset ≤ min r.endLineOffset (units16 x : Int)) :
    cut (pre ++ x :: post) r = some (joinedSpan (pre ++ x :: post) r) := by
  have hx : (pre ++ x :: post).getD (r.startLine.toNat - 1) [] = x := by rw [hl, getD_split]
  have htake : (pre ++ x :: post).take (r.startLine.toNat - 1) = pre := by
    rw [hl, List.take_left' rfl]
  unfold cut
  simp only [utf16Len_eq_units16, codePointIndex_eq_indexOfUnits]
  rw [if_neg (by simp; omega), if_neg (by omega), hx, if_neg (by omega), if_pos hsame,
    if_neg (by omega), joinedSpan, unitPosition_eq, unitPosition_eq, ← hsame, htake, lineUnits, hx,
    betweenUnits_within_line pre post x (by omega) (by omega)]

/-- Across lines, cutting takes the part of the joined lines between the two positions. -/
theorem cut_across_lines (pre mid post : List Text) (x y : Text) {r : TextRange}
    (hsl : r.startLine.toNat - 1 = pre.length)
    (hel : r.endLine.toNat - 1 = pre.length + 1 + mid.length) (h1 : 1 ≤ r.startLine)
    (hso : 0 ≤ r.startLineOffset) (heo : 0 ≤ r.endLineOffset)
    (hfirst : r.startLineOffset ≤ units16 x) :
    cut (pre ++ x :: (mid ++ y :: post)) r =
      some (joinedSpan (pre ++ x :: (mid ++ y :: post)) r) := by
  have hlines : pre ++ x :: (mid ++ y :: post) = (pre ++ x :: mid) ++ y :: post := by simp
  have hx : (pre ++ x :: (mid ++ y :: post)).getD (r.startLine.toNat - 1) [] = x := by
    rw [hsl, getD_split]
  have hy : (pre ++ x :: (mid ++ y :: post)).getD (r.endLine.toNat - 1) [] = y := by
    rw [hlines, hel, show pre.length + 1 + mid.length = (pre ++ x :: mid).length by simp; omega,
      getD_split]
  have hmid : ((pre ++ x :: (mid ++ y :: post)).drop r.startLine.toNat).take
      (r.endLine.toNat - 1 - r.startLine.toNat) = mid := by
    rw [show r.startLine.toNat = pre.length + 1 by omega,
      show r.endLine.toNat - 1 - (pre.length + 1) = mid.length by omega,
      List.drop_length_add_append, List.drop_one, List.tail_cons, List.take_left' rfl]
  have htake_start : (pre ++ x :: (mid ++ y :: post)).take (r.startLine.toNat - 1) = pre := by
    rw [hsl, List.take_left' rfl]
  have htake_end :
      (pre ++ x :: (mid ++ y :: post)).take (r.endLine.toNat - 1) = pre ++ x :: mid := by
    rw [hlines, hel, List.take_left' (by simp; omega)]
  unfold cut
  simp only [utf16Len_eq_units16, codePointIndex_eq_indexOfUnits]
  rw [if_neg (by simp; omega), if_neg (by omega), hx, if_neg (by omega), if_neg (by omega), hy,
    hmid, joinedSpan, unitPosition_eq, unitPosition_eq, htake_start, htake_end, lineUnits, hy,
    betweenUnits_across_lines pre mid post x y (by omega) (Nat.min_le_right _ _),
    indexOfUnits_min, intercalate_eq]

/-- A range that spans something cuts the part of the joined lines between its two positions. -/
theorem cut_of_not_spansNothing {lines : List Text} {r : TextRange} (h : ¬ r.SpansNothing lines) :
    cut lines r = some (r.joinedSpan lines) := by
  simp only [SpansNothing, lineUnits, not_or, not_and, Int.not_lt] at h
  obtain ⟨hsl, hel, hlen, hso, heo, hfirst, hone⟩ := h
  -- split the lines at the start line, and again at the end line when it is a later one
  obtain ⟨pre, x, rest, rfl, hpre⟩ := exists_split (l := lines) (n := r.startLine.toNat - 1)
    (by omega)
  rw [← hpre, getD_split] at hfirst hone
  by_cases hsame : r.startLine = r.endLine
  · exact cut_within_line pre rest x (by omega) hsame hsl hso heo hfirst (hone hsame)
  · obtain ⟨mid, y, post, rfl, hmid⟩ :=
      exists_split (l := rest) (n := r.endLine.toNat - 1 - pre.length - 1) (by simp at hlen; omega)
    exact cut_across_lines pre mid post x y (by omega) (by omega) hsl hso heo hfirst

/-- **Cutting a range is slicing the joined lines.** The cut of a range from a list of lines is
nothing exactly when the range spans nothing, and otherwise the part of the lines joined by line
feeds between the UTF-16 position of its start and that of its end offset clamped to its end
line, each position inside a surrogate pair moved after that character. The code of a range in a
whole text is the text for start and end line 0, whatever the offsets, and otherwise the cut of
its lines. -/
theorem cut_between_units (lines : List Text) (r : TextRange) :
    cut lines r = (if r.SpansNothing lines then none else some (r.joinedSpan lines)) ∧
      ∀ content, r.codeIn content =
        if r.startLine = 0 ∧ r.endLine = 0 then some content else cut (splitLines content) r := by
  refine ⟨?_, fun content => ?_⟩
  · by_cases h : r.SpansNothing lines
    · rw [if_pos h, cut_of_spansNothing h]
    · rw [if_neg h, cut_of_not_spansNothing h]
  · simp [codeIn, isWholeFile]

/-- A character above U+FFFF spans two units: the column 1 inside it moves after it, so the cut
from there to column 1 of the next line is a line feed and one character. -/
example : cut [[0x1F600, 97], [98]] ⟨1, 1, 2, 1⟩ = some [97, 10, 98] := by decide

end TextRange

end LocationDrift
