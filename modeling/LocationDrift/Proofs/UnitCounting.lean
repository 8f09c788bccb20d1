import LocationDrift.Text.Range
import Mathlib

/-!
# Measuring a line in UTF-16 units

Editors count columns in UTF-16 units, and a line is measured in two ways: its UTF-16 length, and
the index of a UTF-16 offset into it. Each has a fast path for ASCII lines; otherwise the length
comes from the line's UTF-16 bytes and the index from a loop that counts units character by
character.

Both measures are the ones `Text.units16` and `Text.indexOfUnits` give, on either path: the bytes
hold two per unit (`encodeLe_length`), an ASCII character is one unit (`units16_of_isAscii`), and
the loop run from any count and index is the recursion shifted by them
(`firstIndexWithUnits_zipIdx`).

**Theorem (`utf16_measures`).** The UTF-16 length of a line is the sum over its code points of
two for those above U+FFFF and one for every other, a lone surrogate included. The index of an
offset is the least index at most the line's length whose prefix spans at least the offset, or the
line's length when there is none.
-/

namespace LocationDrift

namespace Text

/-! ## Units of a text -/

@[simp] theorem units16_append (a b : Text) : units16 (a ++ b) = units16 a + units16 b := by
  induction a with
  | nil => simp [units16]
  | cons c a ih => simp [units16, ih, Nat.add_assoc]

theorem unitsOf_pos (c : Nat) : 0 < unitsOf c := by
  unfold unitsOf
  split <;> omega

theorem units16_eq_sum (t : Text) : units16 t = (t.map unitsOf).sum := by
  induction t with
  | nil => rfl
  | cons c t ih => simp [units16, ih]

/-- A prefix spans no more units than the whole text. -/
theorem units16_take_le (t : Text) (i : Nat) : units16 (t.take i) ≤ units16 t := by
  have h := units16_append (t.take i) (t.drop i)
  rw [List.take_append_drop] at h
  omega

/-- An ASCII text spans one unit per character. -/
theorem units16_of_isAscii {t : Text} (h : isAscii t = true) : units16 t = t.length := by
  induction t with
  | nil => rfl
  | cons c t ih =>
    simp only [isAscii, List.all_cons, Bool.and_eq_true, decide_eq_true_eq] at h
    rw [units16, ih h.2, unitsOf, if_neg (by omega), List.length_cons, Nat.add_comm]

/-! ## The UTF-16 length -/

theorem Utf16.length_unitsOfPoint (c : Nat) : (Utf16.unitsOfPoint c).length = unitsOf c := by
  unfold Utf16.unitsOfPoint unitsOf
  split <;> rfl

/-- Every UTF-16 unit takes two bytes. -/
theorem Utf16.length_unitBytes (us : List Nat) :
    (us.flatMap fun u => [(u % 256).toUInt8, (u / 256).toUInt8]).length = 2 * us.length := by
  simp [List.length_flatMap, List.map_const', Nat.mul_comm]

theorem Utf16.encodeLe_cons (c : Nat) (t : Text) :
    Utf16.encodeLe (c :: t) =
      ((Utf16.unitsOfPoint c).flatMap fun u => [(u % 256).toUInt8, (u / 256).toUInt8]) ++
        Utf16.encodeLe t := rfl

/-- A text's UTF-16 bytes are twice its units. -/
theorem encodeLe_length (t : Text) : (Utf16.encodeLe t).length = 2 * units16 t := by
  induction t with
  | nil => rfl
  | cons c t ih =>
    rw [Utf16.encodeLe_cons, List.length_append, Utf16.length_unitBytes,
      Utf16.length_unitsOfPoint, ih, units16]
    omega

/-- Both paths of the UTF-16 length count units. -/
theorem utf16Len_eq_units16 (t : Text) : utf16Len t = units16 t := by
  unfold utf16Len
  split
  · next h => rw [units16_of_isAscii h]
  · rw [encodeLe_length]
    omega

/-! ## The index of an offset -/

@[simp] theorem indexOfUnits_zero (t : Text) : indexOfUnits t 0 = 0 := by
  cases t <;> simp [indexOfUnits]

theorem indexOfUnits_le_length (t : Text) (o : Nat) : indexOfUnits t o ≤ t.length := by
  induction t generalizing o with
  | nil => simp [indexOfUnits]
  | cons c t ih =>
    unfold indexOfUnits
    split
    · omega
    · have := ih (o - unitsOf c)
      simp only [List.length_cons]
      omega

/-- A position at or past the end of a text is its length. -/
theorem indexOfUnits_of_units16_le {t : Text} {o : Nat} (h : units16 t ≤ o) :
    indexOfUnits t o = t.length := by
  induction t generalizing o with
  | nil => simp [indexOfUnits]
  | cons c t ih =>
    have hc := unitsOf_pos c
    simp only [units16] at h
    rw [indexOfUnits, if_neg (by omega), ih (by omega), List.length_cons]

/-- The counting loop, started at index `i` with `u` units counted, finds the index the recursion
finds for the units still missing, shifted by `i`; running off the end gives the end. -/
theorem firstIndexWithUnits_zipIdx (o u i : Nat) (t : Text) :
    (firstIndexWithUnits o u (t.zipIdx i)).getD (i + t.length) = i + indexOfUnits t (o - u) := by
  induction t generalizing u i with
  | nil => simp [firstIndexWithUnits, indexOfUnits]
  | cons c t ih =>
    rw [List.zipIdx_cons, firstIndexWithUnits]
    by_cases hu : u ≥ o
    · rw [if_pos hu, Nat.sub_eq_zero_of_le hu, indexOfUnits_zero]
      rfl
    · rw [if_neg hu, List.length_cons, show i + (t.length + 1) = i + 1 + t.length by omega, ih,
        indexOfUnits, if_neg (by omega), Nat.sub_sub]
      omega

/-- On an ASCII text an offset is its own index, clamped to the length. -/
theorem indexOfUnits_of_isAscii {t : Text} (h : isAscii t = true) (o : Nat) :
    indexOfUnits t o = min o t.length := by
  induction t generalizing o with
  | nil => simp [indexOfUnits]
  | cons c t ih =>
    simp only [isAscii, List.all_cons, Bool.and_eq_true, decide_eq_true_eq] at h
    have hc : unitsOf c = 1 := by rw [unitsOf, if_neg (by omega)]
    rw [indexOfUnits, hc, ih h.2, List.length_cons]
    split <;> omega

/-- Both paths of the index of an offset find the index the recursion finds. -/
theorem codePointIndex_eq_indexOfUnits (t : Text) (o : Nat) :
    codePointIndex t o = indexOfUnits t o := by
  unfold codePointIndex
  split
  · next h => rw [indexOfUnits_of_isAscii h]
  · simpa using firstIndexWithUnits_zipIdx o 0 0 t

/-! ## The least index spanning an offset -/

/-- Every prefix shorter than the index of an offset spans fewer units than the offset. -/
theorem units16_take_lt_of_lt_indexOfUnits {t : Text} {o j : Nat} (h : j < indexOfUnits t o) :
    units16 (t.take j) < o := by
  induction t generalizing o j with
  | nil => simp [indexOfUnits] at h
  | cons c t ih =>
    rw [indexOfUnits] at h
    split at h
    · omega
    · cases j with
      | zero => simp [units16]; omega
      | succ j =>
        have := ih (o := o - unitsOf c) (j := j) (by omega)
        rw [List.take_succ_cons, units16]
        omega

/-- Within a text's span, the prefix up to the index of an offset spans the offset. -/
theorem le_units16_take_indexOfUnits {t : Text} {o : Nat} (h : o ≤ units16 t) :
    o ≤ units16 (t.take (indexOfUnits t o)) := by
  induction t generalizing o with
  | nil => simpa [indexOfUnits] using h
  | cons c t ih =>
    rw [indexOfUnits]
    split
    · simp_all
    · simp only [units16] at h
      have := ih (o := o - unitsOf c) (by omega)
      rw [List.take_succ_cons, units16]
      omega

/-- The index of an offset is the least index at most the length whose prefix spans the offset,
or the length when no prefix does. -/
theorem codePointIndex_eq_find (s : Text) (o : Nat) :
    codePointIndex s o =
      if h : ∃ i, i ≤ s.length ∧ o ≤ utf16Len (s.take i) then Nat.find h else s.length := by
  simp only [codePointIndex_eq_indexOfUnits, utf16Len_eq_units16]
  split
  · next h =>
    -- some prefix spans the offset, so the whole text does, and the index is the least such
    obtain ⟨i, -, hi⟩ := h
    have hspan : o ≤ units16 s := Nat.le_trans hi (units16_take_le s i)
    refine ((Nat.find_eq_iff _).2 ⟨⟨indexOfUnits_le_length s o,
      le_units16_take_indexOfUnits hspan⟩, fun j hj => ?_⟩).symm
    exact fun hj' => absurd hj'.2 (Nat.not_le.2 (units16_take_lt_of_lt_indexOfUnits hj))
  · next h =>
    -- no prefix spans the offset, so neither does the whole text, whose index is its length
    have hspan : units16 s < o := by
      refine Nat.lt_of_not_le fun hle => h ⟨s.length, Nat.le_refl _, ?_⟩
      rwa [List.take_length]
    exact indexOfUnits_of_units16_le (Nat.le_of_lt hspan)

/-- **Lines are measured in UTF-16 units on every path.** The UTF-16 length of a line is the sum
over its code points of two for those above U+FFFF and one for every other, lone surrogates
included; the index of an offset is the least index at most the line's length whose prefix is at
least that long, or the line's length when there is none. -/
theorem utf16_measures (s : Text) :
    utf16Len s = (s.map fun c => if c > 0xFFFF then 2 else 1).sum ∧
      ∀ o, codePointIndex s o =
        if h : ∃ i, i ≤ s.length ∧ o ≤ utf16Len (s.take i) then Nat.find h else s.length :=
  ⟨by rw [utf16Len_eq_units16, units16_eq_sum]; rfl, codePointIndex_eq_find s⟩

/-- An offset inside a surrogate pair lands after the pair: column 1 of a line that opens with
U+1F600 is index 1. -/
example : codePointIndex [0x1F600, 97] 1 = 1 := by decide

end Text

end LocationDrift
