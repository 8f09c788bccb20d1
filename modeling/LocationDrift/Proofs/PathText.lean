import LocationDrift.Path.Posix
import Mathlib.Data.List.TakeWhile

/-!
# Path texts read back

Reading a path text splits it at slashes and keeps the names that are neither empty nor `.`; the
root is read from the count of leading slashes. The split is the library's split at `/`
(`Text.splitOn_eq_list`), so the library's laws for splitting a join carry the rest.

**Normal paths.** Every name of a path read from a text is *normal*: not empty, not `.`, and
without a slash (`ofText_normal`), and a normal directory keeps every path read after it normal
(`absolute_normal`).

**Theorem (`ofText_toText`).** A normal path is read back from its text.

**Appending after a slash.** When a text holds a character other than a slash, its root is read
before that character, so a slash and more text add names and leave the root
(`ofText_append_slash`), and trailing slashes change nothing (`ofText_append_replicate`). Whatever
the text, a slash followed by text that does not begin with one adds that text's names to the path
read with the slash alone (`ofText_append_slash_cons`).
-/

namespace LocationDrift

namespace Text

theorem splitOn_eq_list (sep : Nat) (t : Text) : splitOn sep t = List.splitOn sep t := by
  induction t with
  | nil => rfl
  | cons c t ih =>
    rw [List.splitOn_cons_eq_if_modifyHead]
    by_cases hc : c = sep
    · simp [splitOn, hc, ih]
    · -- the character joins the first piece of the split of the rest, which is never empty
      obtain ⟨p, ps, hps⟩ := List.exists_cons_of_ne_nil (List.splitOn_ne_nil sep t)
      rw [← ih] at hps
      simp [splitOn, hc, hps, ← ih]

theorem intercalate_eq_list (sep : Text) (ts : List Text) :
    intercalate sep ts = List.intercalate sep ts := by
  fun_induction intercalate sep ts with
  | case1 => rfl
  | case2 t => simp
  | case3 t ts hts ih =>
    obtain ⟨t', ts', rfl⟩ := List.exists_cons_of_ne_nil hts
    rw [List.intercalate_cons_cons, ih, List.append_assoc]

end Text

namespace PosixPath

/-- A name as reading a text leaves it: not empty, not `.`, and without a slash. -/
def NormalName (n : Text) : Prop := n ≠ [] ∧ n ≠ [46] ∧ 47 ∉ n

instance (n : Text) : Decidable (NormalName n) := inferInstanceAs (Decidable (_ ∧ _ ∧ _))

/-- A path whose names are all normal. -/
def Normal (p : PosixPath) : Prop := ∀ n ∈ p.names, NormalName n

instance (p : PosixPath) : Decidable p.Normal :=
  inferInstanceAs (Decidable (∀ n ∈ p.names, NormalName n))

/-! ## Names -/

theorem namesOf_eq (t : Text) :
    namesOf t = (List.splitOn 47 t).filter fun n => !n.isEmpty && n != [46] := by
  rw [namesOf, Text.splitOn_eq_list]

theorem not_mem_of_mem_splitOn {sep : Nat} {t n : Text} (h : n ∈ Text.splitOn sep t) : sep ∉ n := by
  induction t generalizing n with
  | nil => simp_all [Text.splitOn]
  | cons c t ih =>
    unfold Text.splitOn at h
    split at h
    · rcases List.mem_cons.mp h with rfl | h
      · simp
      · exact ih h
    · -- the character joins the first piece, and it is not the separator
      next hc =>
      split at h
      · next hnil => exact absurd hnil (by rw [Text.splitOn_eq_list]; exact List.splitOn_ne_nil _ _)
      · next p ps hps =>
        rcases List.mem_cons.mp h with rfl | h
        · have hp := ih (n := p) (by rw [hps]; exact List.mem_cons_self)
          simp only [List.mem_cons, not_or]
          exact ⟨Ne.symm hc, hp⟩
        · exact ih (by rw [hps]; exact List.mem_cons_of_mem p h)

theorem normalName_of_mem_namesOf {t n : Text} (h : n ∈ namesOf t) : NormalName n := by
  unfold namesOf at h
  obtain ⟨hmem, hkeep⟩ := List.mem_filter.mp h
  simp only [Bool.and_eq_true, Bool.not_eq_true', List.isEmpty_eq_false_iff, bne_iff_ne,
    ne_eq] at hkeep
  exact ⟨hkeep.1, hkeep.2, not_mem_of_mem_splitOn hmem⟩

theorem ofText_normal (t : Text) : (ofText t).Normal := fun _ => normalName_of_mem_namesOf

theorem absolute_normal {cwd p : PosixPath} (hcwd : cwd.Normal) (hp : p.Normal) :
    (absolute cwd p).Normal := by
  unfold absolute
  split
  · exact hp
  · intro n hn
    rcases List.mem_append.mp hn with hn | hn
    · exact hcwd n hn
    · exact hp n hn

theorem isAbsolute_absolute {cwd : PosixPath} (hcwd : cwd.isAbsolute = true) (p : PosixPath) :
    (absolute cwd p).isAbsolute = true := by
  unfold absolute
  split
  · assumption
  · exact hcwd

theorem namesOf_slash_cons (t : Text) : namesOf (47 :: t) = namesOf t := by
  simp [namesOf, Text.splitOn]

theorem namesOf_intercalate {names : List Text} (h : ∀ n ∈ names, NormalName n) :
    namesOf (List.intercalate [47] names) = names := by
  cases names with
  | nil => rfl
  | cons n ns =>
    rw [namesOf_eq, List.splitOn_intercalate 47 (fun m hm => (h m hm).2.2) (List.cons_ne_nil n ns),
      List.filter_eq_self]
    intro m hm
    obtain ⟨hne, hdot, -⟩ := h m hm
    simp [hne, hdot]

theorem namesOf_append_slash (a b : Text) : namesOf (a ++ 47 :: b) = namesOf a ++ namesOf b := by
  rw [namesOf_eq, namesOf_eq, namesOf_eq, List.splitOn_append_cons_self, List.filter_append]

theorem namesOf_replicate_slash (k : Nat) : namesOf (List.replicate k 47) = [] := by
  induction k with
  | zero => rfl
  | succ k ih => rw [List.replicate_succ, namesOf_slash_cons, ih]

/-! ## Reading a path's text back -/

/-- The join of normal names does not start with a slash. -/
theorem takeWhile_slash_intercalate {names : List Text} (h : ∀ n ∈ names, NormalName n) :
    (List.intercalate [47] names).takeWhile (· == 47) = [] := by
  cases names with
  | nil => rfl
  | cons n ns =>
    obtain ⟨hne, -, hslash⟩ := h n List.mem_cons_self
    obtain ⟨c, n', rfl⟩ := List.exists_cons_of_ne_nil hne
    have hc : c ≠ 47 := fun hc => hslash (hc ▸ List.mem_cons_self)
    cases ns with
    | nil => simp [hc]
    | cons m ms => simp [List.intercalate_cons_cons, hc]

theorem ofText_toText {p : PosixPath} (hp : p.Normal) : ofText p.toText = p := by
  obtain ⟨root, names⟩ := p
  have hstart := takeWhile_slash_intercalate hp
  have hnames := namesOf_intercalate hp
  cases root with
  | relative =>
    cases names with
    | nil => rfl
    | cons n ns =>
      -- no slash before the first name: the path stays relative
      simp only [toText, ofText, List.nil_append, Text.intercalate_eq_list, hstart, hnames]
      rfl
  | single =>
    simp only [toText, ofText, Text.intercalate_eq_list, List.singleton_append,
      namesOf_slash_cons, hnames]
    simp [hstart]
  | double =>
    simp only [toText, ofText, Text.intercalate_eq_list, List.cons_append, List.nil_append,
      namesOf_slash_cons, hnames]
    simp [hstart]

/-! ## Appending after a slash -/

theorem ofText_append_of_not_slash {a : Text} (ha : ∃ c ∈ a, c ≠ 47) (b : Text) :
    ofText (a ++ b) = ⟨(ofText a).root, namesOf (a ++ b)⟩ := by
  -- the leading slashes end inside the first text
  have hshort : (a.takeWhile (· == 47)).length ≠ a.length := by
    intro hlen
    obtain ⟨c, hc, hne⟩ := ha
    have hall := List.takeWhile_eq_self_iff.mp
      (List.IsPrefix.eq_of_length (List.takeWhile_prefix _) hlen)
    simpa [hne] using hall c hc
  simp only [ofText, List.takeWhile_append, if_neg hshort]

theorem ofText_append_slash {a : Text} (ha : ∃ c ∈ a, c ≠ 47) (b : Text) :
    ofText (a ++ 47 :: b) = (ofText a).append (namesOf b) := by
  rw [ofText_append_of_not_slash ha, namesOf_append_slash]
  rfl

/-- A slash followed by text that does not begin with a slash ends the leading slashes where a
slash alone would. -/
theorem takeWhile_slash_append_cons (a : Text) {b : Text} (hb : b.head? ≠ some 47) :
    (a ++ 47 :: b).takeWhile (· == 47) = (a ++ [47]).takeWhile (· == 47) := by
  induction a with
  | nil =>
    cases b with
    | nil => rfl
    | cons c b =>
      have hc : (c == 47) = false := by simpa using hb
      simp [List.takeWhile, hc]
  | cons c a ih => by_cases hc : c = 47 <;> simp [hc, ih]

/-- Whatever the text before it, a slash and text that does not begin with a slash add that
text's names to the path read with the slash alone: the root is read from the same slashes. -/
theorem ofText_append_slash_cons (a : Text) {b : Text} (hb : b.head? ≠ some 47) :
    ofText (a ++ 47 :: b) = (ofText (a ++ [47])).append (namesOf b) := by
  have hnil : namesOf [] = [] := namesOf_replicate_slash 0
  simp only [ofText, append, takeWhile_slash_append_cons a hb, namesOf_append_slash, hnil,
    List.append_nil]

/-- A character other than a slash before trailing slashes stands before them. -/
theorem exists_ne_slash_of_append_replicate {a : Text} {k : Nat}
    (h : ∃ c ∈ a ++ List.replicate k 47, c ≠ 47) : ∃ c ∈ a, c ≠ 47 := by
  obtain ⟨c, hc, hne⟩ := h
  rcases List.mem_append.mp hc with hc | hc
  · exact ⟨c, hc, hne⟩
  · exact absurd (List.eq_of_mem_replicate hc) hne

theorem ofText_append_replicate {a : Text} (ha : ∃ c ∈ a, c ≠ 47) (k : Nat) :
    ofText (a ++ List.replicate k 47) = ofText a := by
  rw [ofText_append_of_not_slash ha]
  cases k with
  | zero => simp only [List.replicate_zero, List.append_nil]; rfl
  | succ k =>
    rw [List.replicate_succ, namesOf_append_slash, namesOf_replicate_slash, List.append_nil]
    rfl

end PosixPath

end LocationDrift
