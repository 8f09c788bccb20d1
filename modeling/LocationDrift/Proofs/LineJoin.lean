import LocationDrift.Proofs.Reading

/-!
# Lines joined by line feeds

A text is cut into lines at each carriage return and line feed pair, each lone carriage return
and each lone line feed, and one empty last line is dropped. Read through universal newlines,
the cut is the library's split at line feeds (`pieces_eq_splitOn`), and dropping the empty last
line takes off the last element exactly when it is empty (`dropEmptyLast_eq`). The two laws of
the library's split, `List.intercalate_splitOn` and `List.splitOn_intercalate`, then carry the
rest.

**Theorem (`splitLines_join_inverse`).** A text has no lines exactly when it is empty; no line
holds a carriage return or a line feed; the lines joined by line feeds are the text with every
line break written as a line feed and one final line feed dropped; and lines without breaks
whose last one is not empty are cut back out of their join.
-/

namespace LocationDrift

namespace Text

/-- The text without its last character when that is a line feed. -/
def dropFinalFeed (t : Text) : Text := if t.getLast? = some 10 then t.dropLast else t

/-- A text without line breaks: no carriage return and no line feed. -/
def Unbroken (t : Text) : Prop := 13 ∉ t ∧ 10 ∉ t

instance (t : Text) : Decidable t.Unbroken := inferInstanceAs (Decidable (_ ∧ _))

/-! ## The cut is the split at line feeds -/

theorem pieces_eq_splitOn (t : Text) : pieces t = List.splitOn 10 (translateNewlines t) := by
  fun_induction translateNewlines t with
  | case1 => rfl
  | case2 r ih => simp [pieces, ih, List.splitOn_cons_eq_if_modifyHead]
  | case3 r hr ih =>
    -- a lone carriage return ends the line as a line feed does
    have hcr : pieces (13 :: r) = [] :: pieces r := by
      cases r with
      | nil => rfl
      | cons d r' =>
        have hd : d ≠ 10 := fun h => hr r' (by rw [h])
        simp only [pieces]
    rw [hcr, ih, List.splitOn_cons_eq_if_modifyHead]
    simp
  | case4 c r _ h13 ih =>
    by_cases h10 : c = 10
    · subst h10
      simp [pieces, ih, List.splitOn_cons_eq_if_modifyHead]
    · rw [pieces.eq_5 c r (fun _ h => absurd h h13) h13 h10, ih,
        List.splitOn_cons_eq_if_modifyHead, if_neg (by simpa using h10)]
      -- the split is never empty, so its first piece takes the character
      obtain ⟨p, ps, hps⟩ :=
        List.exists_cons_of_ne_nil (List.splitOn_ne_nil 10 (translateNewlines r))
      rw [hps]
      rfl

theorem pieces_ne_nil (t : Text) : pieces t ≠ [] := by
  rw [pieces_eq_splitOn]
  exact List.splitOn_ne_nil 10 _

/-- No piece holds a line break. -/
theorem unbroken_of_mem_pieces (t : Text) : ∀ l ∈ pieces t, Unbroken l := by
  fun_induction pieces t with
  | case1 => simp [Unbroken]
  | case2 r ih | case3 r _ ih | case4 r ih =>
    intro l hl
    rcases List.mem_cons.mp hl with rfl | hl
    · simp [Unbroken]
    · exact ih l hl
  | case5 c r _ _ _ hnil => exact absurd hnil (pieces_ne_nil r)
  | case6 c r _ h13 h10 p ps hps ih =>
    -- the character joins the first piece of the rest, which has no break
    rw [hps] at ih
    intro l hl
    rcases List.mem_cons.mp hl with rfl | hl
    · obtain ⟨hp13, hp10⟩ := ih p List.mem_cons_self
      simp only [Unbroken, List.mem_cons, not_or]
      exact ⟨⟨Ne.symm h13, hp13⟩, ⟨Ne.symm h10, hp10⟩⟩
    · exact ih l (List.mem_cons_of_mem _ hl)

/-! ## Dropping the empty last line -/

theorem dropEmptyLast_eq (ts : List Text) :
    dropEmptyLast ts = if ts.getLast? = some [] then ts.dropLast else ts := by
  fun_induction dropEmptyLast ts with
  | case1 => rfl
  | case2 => rfl
  | case3 t ht => simpa using ht
  | case4 t ts _ hts ih =>
    obtain ⟨u, us, rfl⟩ := List.exists_cons_of_ne_nil hts
    rw [ih, List.getLast?_cons_cons]
    split <;> simp

theorem dropEmptyLast_sublist (ts : List Text) : List.Sublist (dropEmptyLast ts) ts := by
  rw [dropEmptyLast_eq]
  split
  · exact List.dropLast_sublist ts
  · exact List.Sublist.refl ts

/-! ## Universal newlines and joins -/

theorem translateNewlines_eq_nil {t : Text} : translateNewlines t = [] ↔ t = [] := by
  constructor
  · intro h
    fun_cases translateNewlines t <;> simp_all [translateNewlines]
  · rintro rfl
    rfl

theorem translateNewlines_of_not_mem {t : Text} (h : 13 ∉ t) : translateNewlines t = t := by
  fun_induction translateNewlines t with
  | case1 => rfl
  | case2 r _ | case3 r _ _ => simp at h
  | case4 c r _ _ ih => rw [ih (fun hr => h (List.mem_cons_of_mem c hr))]

theorem not_mem_intercalate {a b : Nat} (hab : a ≠ b) :
    ∀ {ts : List Text}, (∀ t ∈ ts, a ∉ t) → a ∉ List.intercalate [b] ts
  | [], _ => by simp
  | [t], h => by simpa using h t List.mem_cons_self
  | t :: t' :: ts, h => by
    rw [List.intercalate_cons_cons]
    simp only [List.mem_append, List.mem_singleton, not_or]
    exact ⟨⟨h t List.mem_cons_self, hab⟩,
      not_mem_intercalate hab fun x hx => h x (List.mem_cons_of_mem t hx)⟩

theorem intercalate_append_nil (sep : Text) {ts : List Text} (hts : ts ≠ []) :
    List.intercalate sep (ts ++ [[]]) = List.intercalate sep ts ++ sep := by
  induction ts with
  | nil => exact absurd rfl hts
  | cons t ts ih =>
    cases ts with
    | nil => simp
    | cons t' ts' =>
      have h := ih (List.cons_ne_nil t' ts')
      rw [List.cons_append] at h
      simp only [List.cons_append, List.intercalate_cons_cons, h, List.append_assoc]

/-! ## Lines -/

theorem splitLines_eq (t : Text) :
    splitLines t = dropEmptyLast (List.splitOn 10 (translateNewlines t)) := by
  rw [splitLines, pieces_eq_splitOn]

theorem splitLines_eq_nil_iff (t : Text) : splitLines t = [] ↔ t = [] := by
  constructor
  · intro h
    rw [splitLines_eq, dropEmptyLast_eq] at h
    split at h
    · next hlast =>
      -- an empty last piece that is also the only one is the split of the empty text
      obtain ⟨init, hinit⟩ := List.getLast?_eq_some_iff.mp hlast
      rw [hinit, List.dropLast_concat] at h
      subst h
      have hjoin : List.intercalate [10] (List.splitOn 10 (translateNewlines t)) =
          translateNewlines t := List.intercalate_splitOn 10
      rw [hinit] at hjoin
      exact translateNewlines_eq_nil.mp (by simpa using hjoin.symm)
    · exact absurd h (List.splitOn_ne_nil 10 _)
  · rintro rfl
    rfl

theorem unbroken_of_mem_splitLines (t : Text) : ∀ l ∈ splitLines t, Unbroken l :=
  fun l hl => unbroken_of_mem_pieces t l ((dropEmptyLast_sublist _).subset hl)

/-- The lines joined by line feeds are the text with universal newlines, less one final line
feed. -/
theorem join_splitLines (t : Text) :
    List.intercalate [10] (splitLines t) = dropFinalFeed (translateNewlines t) := by
  have hjoin : List.intercalate [10] (List.splitOn 10 (translateNewlines t)) =
      translateNewlines t := List.intercalate_splitOn 10
  rw [splitLines_eq, dropEmptyLast_eq]
  generalize translateNewlines t = u at hjoin ⊢
  split
  · next hlast =>
    -- the split ends with an empty piece: the text is empty or ends with a line feed
    obtain ⟨init, hinit⟩ := List.getLast?_eq_some_iff.mp hlast
    rw [hinit, List.dropLast_concat]
    rw [hinit] at hjoin
    by_cases hnil : init = []
    · subst hnil
      simp only [List.nil_append, List.intercalate_singleton] at hjoin
      subst hjoin
      rfl
    · rw [intercalate_append_nil _ hnil] at hjoin
      simp [← hjoin, dropFinalFeed]
  · next hlast =>
    -- otherwise the text cannot end with a line feed, whose split ends with an empty piece
    rw [hjoin, dropFinalFeed, if_neg]
    intro hend
    obtain ⟨v, rfl⟩ := List.getLast?_eq_some_iff.mp hend
    apply hlast
    rw [List.splitOn_append_cons_self, List.splitOn_nil]
    exact List.getLast?_concat

/-- Lines without breaks, the last of them not empty, are cut back out of their join. -/
theorem splitLines_join {ls : List Text} (hls : ∀ l ∈ ls, Unbroken l)
    (hlast : ∀ l ∈ ls.getLast?, l ≠ []) : splitLines (List.intercalate [10] ls) = ls := by
  by_cases hnil : ls = []
  · subst hnil
    rfl
  · have hcr : 13 ∉ List.intercalate [10] ls :=
      not_mem_intercalate (by decide) fun l hl => (hls l hl).1
    rw [splitLines_eq, translateNewlines_of_not_mem hcr,
      List.splitOn_intercalate 10 (fun l hl => (hls l hl).2) hnil, dropEmptyLast_eq, if_neg]
    exact fun h => hlast [] h rfl

/-- **Lines and their join.** A text has no lines exactly when it is empty; no line holds a
break; the lines joined by line feeds are the text with universal newlines less one final line
feed; and lines without breaks, the last not empty, are cut back out of their join. -/
theorem splitLines_join_inverse :
    (∀ t : Text, splitLines t = [] ↔ t = []) ∧
    (∀ t : Text, ∀ l ∈ splitLines t, Unbroken l) ∧
    (∀ t : Text, List.intercalate [10] (splitLines t) = dropFinalFeed (translateNewlines t)) ∧
    (∀ ls : List Text, (∀ l ∈ ls, Unbroken l) → (∀ l ∈ ls.getLast?, l ≠ []) →
      splitLines (List.intercalate [10] ls) = ls) :=
  ⟨splitLines_eq_nil_iff, unbroken_of_mem_splitLines, join_splitLines,
    fun _ hls hlast => splitLines_join hls hlast⟩

/-- Three lines, the middle one empty, are cut back out of `a`, line feed, line feed, `b`. -/
theorem splitLines_join_inverse_on_blank_line :
    splitLines (List.intercalate [10] [[97], [], [98]]) = [[97], [], [98]] :=
  splitLines_join_inverse.2.2.2 [[97], [], [98]] (by decide) (by decide)

end Text

end LocationDrift
