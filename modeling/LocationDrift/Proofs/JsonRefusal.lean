import LocationDrift.Json.Reader

/-!
# Where the JSON reader stops

The reader refuses a text at the first character the grammar rules out, and its message gives that
place as a line, a column and a character index (`Json.Refusal.message`). The index is computed
from the length of the text left at the place, so it is the place's index only when that text is a
suffix of the whole. It always is.

**Placed results (`Json.Placed`).** What a reader of the text `s` returns is placed within `s`
when the text it leaves after a value, and the place of its refusal, are suffixes of `s`. Blanks,
digits and words are read off the front; a number is read in stages, each from what the stage
before it left (`readNumber_placed`); a string is refused at its opening quote or within it
(`readChars_placed`). The value, item and member readers each take one step from readers that are
placed (`readValue_step`, `readItems_step`, `readFields_step`), so by induction on their fuel all
three are placed (`readers_placed`).

**Theorem (`refusal_message_names_place`).** When a whole text is refused for a flaw, the text is
what precedes the place followed by the text from the place on, and the message names the flaw,
the line (one more than the line feeds before the place), the column (one more than the characters
since the last of them) and the index of the place (the length of what precedes it).
-/

namespace LocationDrift

namespace Json

/-- A refusal is placed within `s` when the place of its flaw is a suffix of `s`; the refusals of
a long integer or of a nesting too deep have no place. -/
def Refusal.Within (s : Text) : Refusal → Prop
  | .invalid _ r => r <:+ s
  | .tooManyDigits _ | .tooDeep _ => True

/-- What a reader of the text `s` returns stays within `s`: the text it leaves after a value, or
its refusal. -/
def Placed {α : Type} (s : Text) : Except Refusal (α × Text) → Prop
  | .ok (_, rest) => rest <:+ s
  | .error e => e.Within s

theorem Refusal.Within.mono {s s' : Text} {e : Refusal} (hs : s <:+ s') (h : e.Within s) :
    e.Within s' := by
  cases e with
  | invalid _ r => exact h.trans hs
  | tooManyDigits _ => trivial
  | tooDeep _ => trivial

theorem Placed.mono {α : Type} {s s' : Text} {res : Except Refusal (α × Text)} (hs : s <:+ s')
    (h : Placed s res) : Placed s' res := by
  match res, h with
  | .ok (_, _), h => exact h.trans hs
  | .error e, h => exact Refusal.Within.mono (e := e) hs h

/-- Turning what was read into a value keeps the result placed. -/
theorem Placed.map_value {α β : Type} {s : Text} {res : Except Refusal (α × Text)} (g : α → β)
    (h : Placed s res) : Placed s (res.map fun p => (g p.1, p.2)) := by
  match res, h with
  | .ok (_, _), h => exact h
  | .error _, h => exact h

/-! ## Reading off the front -/

theorem skipBlank_suffix (s : Text) : skipBlank s <:+ s := by
  induction s with
  | nil => exact List.suffix_refl []
  | cons c r ih =>
    unfold skipBlank
    split
    · exact ih.trans (List.suffix_cons c r)
    · exact List.suffix_refl _

theorem spanDigits_suffix (s : Text) : (spanDigits s).2 <:+ s := by
  induction s with
  | nil => exact List.suffix_refl []
  | cons c r ih =>
    unfold spanDigits
    split
    · exact ih.trans (List.suffix_cons c r)
    · exact List.suffix_refl _

theorem dropWord_suffix {w : String} {t rest : Text} (h : dropWord w t = some rest) :
    rest <:+ t := by
  unfold dropWord at h
  dsimp only at h
  split at h
  · cases h
    exact List.drop_suffix _ t
  · cases h

theorem readWord_placed (w : String) (v : Json) (s : Text) : Placed s (readWord w v s) := by
  unfold readWord
  split
  · exact dropWord_suffix ‹_›
  · exact List.suffix_refl s

/-- A number is read in stages: a sign, the integer digits, a fraction and an exponent, each from
what the stage before it left; with no integer digits it is refused where it starts. -/
theorem readNumber_placed (s : Text) : Placed s (readNumber s) := by
  unfold readNumber
  -- each stage's rest is the second component of the pair it makes
  split
  rename_i negative s1 h1
  have hs1 : s1 <:+ s := by
    rw [show s1 = _ from congrArg Prod.snd h1.symm]
    split
    · exact List.suffix_cons 45 _
    · exact List.suffix_refl _
  split
  rename_i intDigits s2 h2
  have hs2 : s2 <:+ s1 := by
    rw [show s2 = _ from congrArg Prod.snd h2.symm]
    split
    · exact List.suffix_cons 48 _
    · exact spanDigits_suffix _
  split
  · exact List.suffix_refl s
  split
  rename_i fracDigits s3 h3
  have hs3 : s3 <:+ s2 := by
    rw [show s3 = _ from congrArg Prod.snd h3.symm]
    split
    · split
      · exact (spanDigits_suffix _).trans (List.suffix_cons 46 _)
      · exact List.suffix_refl _
    · exact List.suffix_refl _
  split
  rename_i expPart s4 h4
  have hs4 : s4 <:+ s3 := by
    rw [show s4 = _ from congrArg Prod.snd h4.symm]
    split
    · rename_i e r
      split
      · -- an exponent: an optional sign, then digits; without digits the number ends before it
        split
        rename_i expNeg r1 hsign
        have hr1 : r1 <:+ r := by
          rw [show r1 = _ from congrArg Prod.snd hsign.symm]
          split
          · exact List.suffix_cons 45 _
          · exact List.suffix_cons 43 _
          · exact List.suffix_refl _
        split
        · exact List.suffix_refl _
        · rename_i ds rest _ hspan
          have hrest : rest <:+ r1 := by
            rw [show rest = _ from congrArg Prod.snd hspan.symm]
            exact spanDigits_suffix r1
          exact hrest.trans (hr1.trans (List.suffix_cons e r))
      · exact List.suffix_refl _
    · exact List.suffix_refl _
  have hs : s4 <:+ s := hs4.trans (hs3.trans (hs2.trans hs1))
  split
  · split
    · trivial
    · exact hs
  · exact hs

/-- The characters of a string, read from a suffix `s` of the text from its opening quote on. Each
case reads on after the characters it took (one, an escape of two, a `\u` escape of six or a
surrogate pair of twelve), or is refused at one of them. -/
theorem readChars_placed {quote : Text} (acc s : Text) (h : s <:+ quote) :
    Placed quote (readChars quote acc s) := by
  fun_induction readChars quote acc s with
  -- the text ends inside the string
  | case1 => exact List.suffix_refl quote
  | case2 => exact ((List.drop_suffix 1 _).trans h :)
  -- a `\u` escape that is refused is refused at its `u`
  | case3 | case4 | case12 => exact ((List.drop_suffix 1 _).trans h :)
  | case6 => exact ((List.drop_suffix 7 _).trans h :)
  -- an unknown escape and a control character are refused where they start
  | case13 | case14 => exact h
  | case5 | case8 | case9 | case10 => rename_i ih; exact ih ((List.drop_suffix 6 _).trans h :)
  | case7 => rename_i ih; exact ih ((List.drop_suffix 12 _).trans h :)
  | case11 => rename_i ih; exact ih ((List.drop_suffix 2 _).trans h :)
  | case15 => rename_i ih; exact ih ((List.drop_suffix 1 _).trans h :)

/-! ## Values, arrays and objects -/

section Readers

variable {fuel : Nat}

/-- One step of the value reader, from item and member readers that are placed. -/
theorem readValue_step (hi : ∀ room acc s, Placed s (readItems fuel room acc s))
    (hf : ∀ room acc s, Placed s (readFields fuel room acc s)) (room : Nat) (s : Text) :
    Placed s (readValue (fuel + 1) room s) := by
  rw [readValue.eq_def]
  dsimp only
  split
  · exact (readChars_placed [] _ (List.suffix_cons 34 _)).map_value str
  · -- an object: empty, or its members after the blanks that follow the brace
    rename_i r
    have hr : skipBlank r <:+ 123 :: r := (skipBlank_suffix r).trans (List.suffix_cons 123 r)
    split
    · trivial
    · generalize skipBlank r = u at hr ⊢
      split
      · exact (List.suffix_cons 125 _).trans hr
      · exact (hf _ _ _).mono hr
  · rename_i r
    have hr : skipBlank r <:+ 91 :: r := (skipBlank_suffix r).trans (List.suffix_cons 91 r)
    split
    · trivial
    · generalize skipBlank r = u at hr ⊢
      split
      · exact (List.suffix_cons 93 _).trans hr
      · exact (hi _ _ _).mono hr
  · exact readWord_placed _ _ _
  · exact readWord_placed _ _ _
  · exact readWord_placed _ _ _
  · exact readWord_placed _ _ _
  · exact readWord_placed _ _ _
  · split
    · exact dropWord_suffix ‹_›
    · exact readNumber_placed _
  · exact readNumber_placed _

/-- One step of the item reader, from value and item readers that are placed. -/
theorem readItems_step (hv : ∀ room s, Placed s (readValue fuel room s))
    (hi : ∀ room acc s, Placed s (readItems fuel room acc s)) (room : Nat) (acc : List Json)
    (s : Text) : Placed s (readItems (fuel + 1) room acc s) := by
  rw [readItems]
  have hvs := hv room s
  cases h : readValue fuel room s with
  | error e => rw [h] at hvs; exact hvs
  | ok p =>
    obtain ⟨v, rest⟩ := p
    rw [h] at hvs
    -- the item is followed by a comma, the closing bracket, or a refusal
    have hr : skipBlank rest <:+ s := (skipBlank_suffix rest).trans hvs
    dsimp only
    generalize skipBlank rest = u at hr ⊢
    split
    · exact (hi _ _ _).mono ((skipBlank_suffix _).trans ((List.suffix_cons 44 _).trans hr))
    · exact (List.suffix_cons 93 _).trans hr
    · exact hr

/-- One step of the member reader, from value and member readers that are placed. -/
theorem readFields_step (hv : ∀ room s, Placed s (readValue fuel room s))
    (hf : ∀ room acc s, Placed s (readFields fuel room acc s)) (room : Nat)
    (acc : List (Text × Json)) (s : Text) : Placed s (readFields (fuel + 1) room acc s) := by
  rw [readFields.eq_def]
  dsimp only
  split
  · rename_i r
    have hc := readChars_placed [] r (List.suffix_cons 34 r)
    cases h : readChars (34 :: r) [] r with
    | error e => rw [h] at hc; exact hc
    | ok p =>
      obtain ⟨key, rest⟩ := p
      rw [h] at hc
      -- the name is followed by a colon and a value, or refused at what follows it
      have hr : skipBlank rest <:+ 34 :: r := (skipBlank_suffix rest).trans hc
      dsimp only
      generalize skipBlank rest = u at hr ⊢
      split
      · rename_i r1
        have hr1 : skipBlank r1 <:+ 34 :: r :=
          (skipBlank_suffix r1).trans ((List.suffix_cons 58 r1).trans hr)
        have hvs := hv room (skipBlank r1)
        cases h' : readValue fuel room (skipBlank r1) with
        | error e => rw [h'] at hvs; exact hvs.mono hr1
        | ok q =>
          obtain ⟨v, r2⟩ := q
          rw [h'] at hvs
          have hr2 : skipBlank r2 <:+ 34 :: r := (skipBlank_suffix r2).trans (hvs.trans hr1)
          dsimp only
          generalize skipBlank r2 = u at hr2 ⊢
          split
          · exact (hf _ _ _).mono ((skipBlank_suffix _).trans ((List.suffix_cons 44 _).trans hr2))
          · exact (List.suffix_cons 125 _).trans hr2
          · exact hr2
      · exact hr
  · exact List.suffix_refl s

end Readers

/-- With any fuel, the value, item and member readers are placed. -/
theorem readers_placed (fuel : Nat) :
    (∀ room s, Placed s (readValue fuel room s)) ∧
      (∀ room acc s, Placed s (readItems fuel room acc s)) ∧
      ∀ room acc s, Placed s (readFields fuel room acc s) := by
  induction fuel with
  | zero =>
    -- out of fuel, each refuses the text it was given
    refine ⟨fun room s => ?_, fun room acc s => ?_, fun room acc s => ?_⟩
    · rw [readValue]; exact List.suffix_refl s
    · rw [readItems]; exact List.suffix_refl s
    · rw [readFields]; exact List.suffix_refl s
  | succ fuel ih =>
    obtain ⟨hv, hi, hf⟩ := ih
    exact ⟨readValue_step hi hf, readItems_step hv hi, readFields_step hv hf⟩

/-- A text refused for a flaw is refused at a suffix of it: at its start for a byte order mark, at
what follows the value for extra data, and where the value reader stopped otherwise. -/
theorem readWithin_place {room : Nat} {t rest : Text} {f : Flaw}
    (h : readWithin room t = .error (.invalid f rest)) : rest <:+ t := by
  unfold readWithin at h
  split at h
  · cases h
    exact List.suffix_refl _
  · have hv := (readers_placed (2 * t.length + 2)).1 room (skipBlank t)
    cases hr : readValue (2 * t.length + 2) room (skipBlank t) with
    | error e =>
      rw [hr] at h hv
      cases h
      exact hv.trans (skipBlank_suffix t)
    | ok p =>
      obtain ⟨v, r⟩ := p
      rw [hr] at h hv
      dsimp only at h
      split at h
      · cases h
      · cases h
        exact (skipBlank_suffix r).trans (hv.trans (skipBlank_suffix t))

/-- **A refusal names its place.** When the reader refuses a whole text for a flaw, the text is
what precedes the place followed by the text from the place on, and the message gives the flaw
with the line, the column and the index of the place, all counted in what precedes it. -/
theorem refusal_message_names_place {room : Nat} {t rest : Text} {f : Flaw}
    (h : readWithin room t = .error (.invalid f rest)) :
    ∃ before, t = before ++ rest ∧
      (Refusal.invalid f rest).message t =
        Text.ofString (f.text ++ ": line " ++ toString (before.count 10 + 1) ++ " column " ++
          toString ((before.reverse.takeWhile (· != 10)).length + 1) ++ " (char " ++
          toString before.length ++ ")") := by
  obtain ⟨before, rfl⟩ := readWithin_place h
  refine ⟨before, rfl, ?_⟩
  -- the place's index is the length of what precedes it, which is all the message counts in
  have hpos : (before ++ rest).length - rest.length = before.length := by simp
  simp only [Refusal.message, hpos, place, List.take_left']

/-- An array whose last item, on the second line, is missing after the comma. -/
example : readWithin 10 [91, 49, 44, 10, 93] = .error (.invalid .value [93]) := rfl

example : (Refusal.invalid .value [93]).message [91, 49, 44, 10, 93] =
    Text.ofString "Expecting value: line 2 column 1 (char 4)" := by rfl

end Json

end LocationDrift
