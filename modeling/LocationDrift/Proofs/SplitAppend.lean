import LocationDrift.Uri.Split
import Mathlib.Data.List.TakeDrop
import Mathlib.Data.List.TakeWhile

/-!
# Appending to the path of a URI

Splitting a URI runs in stages: the text is cleaned, the scheme is cut off, the network location
is read after two slashes (`locate`), and the rest is cut into path, query and fragment
(`assemble`); `split?_eq` says the split is these stages in turn.

**Theorem (`split?_append`).** A text that starts with a slash and holds no tab, line break,
colon, `?` or `#`, appended to a URI that has no `?` or `#` after its scheme, and where it cannot
start a network location, lands at the end of the path part: every other part stays. Each stage
passes the appended text through: cleaning keeps it (`cleaned_append`), the scheme ends before it
(`schemeOf?_append`), the network location ends at its slash (`locate_append`), and no `?` or `#`
cuts it (`assemble_append`).
-/

namespace LocationDrift

/-! ## Spans of appended lists -/

theorem span_of_all {α : Type} {p : α → Bool} {xs : List α} (h : ∀ x ∈ xs, p x = true) :
    xs.span p = (xs, []) := by
  rw [List.span_eq_takeWhile_dropWhile, List.takeWhile_eq_self_iff.mpr h,
    List.dropWhile_eq_nil_iff.mpr h]

theorem span_append_of_stop {α : Type} {p : α → Bool} {xs : List α} (h : ∃ x ∈ xs, p x = false)
    (t : List α) : (xs ++ t).span p = ((xs.span p).1, (xs.span p).2 ++ t) := by
  rw [List.span_eq_takeWhile_dropWhile, List.span_eq_takeWhile_dropWhile]
  induction xs with
  | nil => simp at h
  | cons x xs ih =>
    by_cases hx : p x = true
    · have h' : ∃ y ∈ xs, p y = false := by
        obtain ⟨y, hy, hpy⟩ := h
        rcases List.mem_cons.mp hy with rfl | hy
        · simp [hx] at hpy
        · exact ⟨y, hy, hpy⟩
      simp only [List.cons_append, List.takeWhile_cons, List.dropWhile_cons, hx, ↓reduceIte,
        Prod.mk.injEq] at ih ⊢
      exact ⟨by rw [(ih h').1], (ih h').2⟩
    · simp [hx]

theorem span_append_of_all {α : Type} {p : α → Bool} {xs : List α} (h : ∀ x ∈ xs, p x = true)
    (t : List α) : (xs ++ t).span p = (xs ++ (t.span p).1, (t.span p).2) := by
  rw [List.span_eq_takeWhile_dropWhile, List.span_eq_takeWhile_dropWhile,
    List.takeWhile_append_of_pos h, List.dropWhile_append_of_pos h]

theorem span_append_of_head {α : Type} {p : α → Bool} (xs : List α) {t : List α}
    (ht : ∀ x ∈ t.head?, p x = false) : (xs ++ t).span p = ((xs.span p).1, (xs.span p).2 ++ t) := by
  by_cases h : ∃ x ∈ xs, p x = false
  · exact span_append_of_stop h t
  · -- all of the list passes, and the span stops at the head of what follows
    have hall : ∀ x ∈ xs, p x = true := by simpa using h
    rw [span_append_of_all hall, span_of_all hall]
    cases t with
    | nil => simp
    | cons y t' => simp [List.span_eq_takeWhile_dropWhile, ht y rfl]

namespace UriParts

/-! ## The stages of a split -/

/-- The text a URI is split from: leading blanks and control characters dropped, tabs and line
breaks removed. -/
def cleaned (raw : Text) : Text :=
  (raw.dropWhile (· ≤ 32)).filter fun c => c != 9 && c != 10 && c != 13

/-- What follows the scheme and its colon in a cleaned URI; all of it when there is no scheme. -/
def afterScheme (raw : Text) : Text := ((schemeOf? (cleaned raw)).getD ([], cleaned raw)).2

/-- A character that splitting leaves in the path part wherever it stands after the location: no
tab, line break, colon, `?` or `#`. -/
def pathSafe (c : Nat) : Bool := c != 9 && c != 10 && c != 13 && c != 58 && c != 35 && c != 63

/-- The network location and what follows it, read from the text after the scheme. -/
def locate (rest : Text) : Except SplitError (Text × Text) :=
  let netlocSplit : Option (Text × Text) := match rest with
    | 47 :: 47 :: r => some (r.span fun c => c != 47 && c != 63 && c != 35)
    | _ => none
  match netlocSplit with
  | some (netloc, r) => (checkNetloc netloc).map fun _ => (netloc, r)
  | none => .ok ([], rest)

/-- The parts of a URI, from its scheme, its network location and what follows that. -/
def assemble (scheme : Text) (located : Text × Text) : Except SplitError UriParts :=
  let (netloc, r) := located
  let (beforeHash, fragment) := cutAt 35 r
  let (path, query) := cutAt 63 beforeHash
  if !Text.isAscii netloc && netloc.any hidesDelimiter then .error (.hiddenDelimiter netloc)
  else .ok ⟨scheme, netloc, path, query.getD [], fragment.getD []⟩

theorem split?_eq (raw : Text) :
    split? raw = (locate (afterScheme raw)).bind
      (assemble ((schemeOf? (cleaned raw)).getD ([], cleaned raw)).1) := rfl

/-! ## Cleaning and the scheme -/

theorem schemeOf?_append {url t : Text} (ht : 58 ∉ t) :
    schemeOf? (url ++ t) = (schemeOf? url).map fun sr => (sr.1, sr.2 ++ t) := by
  by_cases hall : ∀ x ∈ url, (x != 58) = true
  · -- no colon anywhere: neither text has a scheme
    have hall' : ∀ x ∈ url ++ t, (x != 58) = true := by
      intro x hx
      rcases List.mem_append.mp hx with hx | hx
      · exact hall x hx
      · simpa using fun h : x = 58 => ht (h ▸ hx)
    rw [schemeOf?, schemeOf?, span_of_all hall, span_of_all hall']
    simp
  · -- the first colon lies in the text, and what follows joins the rest
    have hstop : ∃ x ∈ url, (x != 58) = false := by
      push Not at hall
      obtain ⟨x, hx, hne⟩ := hall
      exact ⟨x, hx, by simpa using hne⟩
    have hB : url.dropWhile (· != 58) ≠ [] := fun h =>
      hall (List.dropWhile_eq_nil_iff.mp h)
    have hhead := List.head_dropWhile_not (· != 58) hB
    rw [schemeOf?, schemeOf?, span_append_of_stop hstop t, List.span_eq_takeWhile_dropWhile]
    generalize url.takeWhile (· != 58) = A
    revert hB hhead
    generalize url.dropWhile (· != 58) = B
    intro hB hhead
    obtain ⟨b, B', rfl⟩ := List.exists_cons_of_ne_nil hB
    have hb : b = 58 := by simpa using hhead
    subst hb
    cases A with
    | nil => rfl
    | cons c pre =>
      -- both matches see the same prefix before the colon
      show (if _ then _ else _) = Option.map _ (if _ then _ else _)
      split <;> rfl

theorem cleaned_append {raw t : Text} (ht : ∀ c ∈ t, pathSafe c) (hhead : ∀ c ∈ t.head?, c = 47) :
    cleaned (raw ++ t) = cleaned raw ++ t := by
  have hdrop : t.dropWhile (· ≤ 32) = t := by
    cases t with
    | nil => rfl
    | cons c t' =>
      rw [hhead c rfl]
      rfl
  have hkeep : t.filter (fun c => c != 9 && c != 10 && c != 13) = t := by
    rw [List.filter_eq_self]
    intro c hc
    have hsafe := ht c hc
    simp only [pathSafe, Bool.and_eq_true] at hsafe
    obtain ⟨⟨⟨⟨⟨h9, h10⟩, h13⟩, -⟩, -⟩, -⟩ := hsafe
    simp [h9, h10, h13]
  unfold cleaned
  rw [List.dropWhile_append]
  split
  · next hempty =>
    rw [List.isEmpty_iff.mp hempty, hdrop, hkeep]
    rfl
  · rw [List.filter_append, hkeep]

/-- Appending such a text leaves the scheme and extends what follows it. -/
theorem schemeSplit_append (raw : Text) {t : Text} (ht : ∀ c ∈ t, pathSafe c)
    (hhead : ∀ c ∈ t.head?, c = 47) :
    (schemeOf? (cleaned (raw ++ t))).getD ([], cleaned (raw ++ t)) =
      (((schemeOf? (cleaned raw)).getD ([], cleaned raw)).1, afterScheme raw ++ t) := by
  have hcolon : 58 ∉ t := fun h => by simpa [pathSafe] using ht 58 h
  unfold afterScheme
  rw [cleaned_append ht hhead, schemeOf?_append hcolon]
  cases schemeOf? (cleaned raw) <;> rfl

theorem afterScheme_append (raw : Text) {t : Text} (ht : ∀ c ∈ t, pathSafe c)
    (hhead : ∀ c ∈ t.head?, c = 47) : afterScheme (raw ++ t) = afterScheme raw ++ t :=
  congrArg Prod.snd (schemeSplit_append raw ht hhead)

theorem pathSafe_replicate_slash (k : Nat) : ∀ c ∈ List.replicate k 47, pathSafe c :=
  fun c hc => by
    rw [List.eq_of_mem_replicate hc]
    rfl

theorem head_replicate_slash (k : Nat) : ∀ c ∈ (List.replicate k 47).head?, c = 47 :=
  fun _ hc => List.eq_of_mem_replicate (List.mem_of_mem_head? hc)

/-! ## The network location -/

theorem locate_slashes (r : Text) :
    locate (47 :: 47 :: r) = (checkNetloc (r.span fun c => c != 47 && c != 63 && c != 35).1).map
      fun _ => r.span fun c => c != 47 && c != 63 && c != 35 := rfl

theorem locate_of_not_slashes {rest : Text} (h : ∀ r, rest ≠ 47 :: 47 :: r) :
    locate rest = .ok ([], rest) := by
  unfold locate
  split
  · next r => exact absurd rfl (h r)
  · rfl

/-- What follows the network location is a suffix of the text it is read from. -/
theorem locate_suffix {rest : Text} {x : Text × Text} (h : locate rest = .ok x) : x.2 <:+ rest := by
  by_cases hslash : ∃ r, rest = 47 :: 47 :: r
  · obtain ⟨r, rfl⟩ := hslash
    rw [locate_slashes] at h
    cases hc : checkNetloc (r.span fun c => c != 47 && c != 63 && c != 35).1 with
    | error e => rw [hc] at h; cases h
    | ok u =>
      rw [hc] at h
      cases h
      rw [List.span_eq_takeWhile_dropWhile]
      exact (List.dropWhile_suffix _).trans ((List.suffix_cons _ _).trans (List.suffix_cons _ _))
  · rw [locate_of_not_slashes fun r h => hslash ⟨r, h⟩] at h
    cases h
    exact List.suffix_refl rest

/-- A text starting with a slash, appended where it cannot start a network location, extends
what follows the location. -/
theorem locate_append {rest t : Text}
    (hauth : ∀ r, rest ++ t = 47 :: 47 :: r → ∃ r', rest = 47 :: 47 :: r')
    (hhead : ∀ c ∈ t.head?, c = 47) :
    locate (rest ++ t) = (locate rest).map fun x => (x.1, x.2 ++ t) := by
  by_cases hslash : ∃ r, rest = 47 :: 47 :: r
  · -- the location ends before the appended slash
    obtain ⟨r, rfl⟩ := hslash
    have hspan := span_append_of_head (p := fun c => c != 47 && c != 63 && c != 35) r
      (t := t) fun c hc => by simp [hhead c hc]
    rw [List.cons_append, List.cons_append, locate_slashes, locate_slashes, hspan]
    cases checkNetloc (r.span fun c => c != 47 && c != 63 && c != 35).1 <;> rfl
  · rw [locate_of_not_slashes fun r h => hslash ⟨r, h⟩,
      locate_of_not_slashes fun r h => hslash (hauth r h)]
    rfl

/-! ## The path -/

theorem cutAt_of_not_mem {d : Nat} {x : Text} (h : d ∉ x) : cutAt d x = (x, none) := by
  have hall : ∀ c ∈ x, (c != d) = true := fun c hc => by
    simpa using fun h' : c = d => h (h' ▸ hc)
  unfold cutAt
  rw [span_of_all hall]

theorem cutAt_fst_isPrefix (d : Nat) (x : Text) : (cutAt d x).1 <+: x := by
  have h : (x.span (· != d)).1 <+: x := by
    rw [List.span_eq_takeWhile_dropWhile]
    exact List.takeWhile_prefix _
  unfold cutAt
  split <;> next heq => rw [heq] at h; exact h

theorem assemble_path_isPrefix {scheme : Text} {x : Text × Text} {parts : UriParts}
    (h : assemble scheme x = .ok parts) : parts.path <+: x.2 := by
  obtain ⟨netloc, r⟩ := x
  simp only [assemble] at h
  split at h
  · cases h
  · cases h
    exact (cutAt_fst_isPrefix 63 _).trans (cutAt_fst_isPrefix 35 r)

theorem assemble_append (scheme netloc : Text) {r t : Text} (hr : 35 ∉ r ∧ 63 ∉ r)
    (ht : 35 ∉ t ∧ 63 ∉ t) :
    assemble scheme (netloc, r ++ t) =
      (assemble scheme (netloc, r)).map fun parts => { parts with path := parts.path ++ t } := by
  have h35 : 35 ∉ r ++ t := by simp [hr.1, ht.1]
  have h63 : 63 ∉ r ++ t := by simp [hr.2, ht.2]
  simp only [assemble, cutAt_of_not_mem hr.1, cutAt_of_not_mem h35, cutAt_of_not_mem hr.2,
    cutAt_of_not_mem h63]
  split <;> rfl

/-- The path part of a URI is read from what follows its scheme. -/
theorem path_subset_afterScheme {raw : Text} {parts : UriParts} (h : split? raw = .ok parts) :
    parts.path ⊆ afterScheme raw := by
  rw [split?_eq] at h
  cases hl : locate (afterScheme raw) with
  | error e => rw [hl] at h; cases h
  | ok x =>
    rw [hl] at h
    exact ((assemble_path_isPrefix h).sublist.trans (locate_suffix hl).sublist).subset

/-- The scheme of a URI is the one its cleaned text begins with. -/
theorem scheme_of_split? {raw : Text} {parts : UriParts} (h : split? raw = .ok parts) :
    parts.scheme = ((schemeOf? (cleaned raw)).getD ([], cleaned raw)).1 := by
  rw [split?_eq] at h
  cases hl : locate (afterScheme raw) with
  | error e => rw [hl] at h; cases h
  | ok x =>
    rw [hl] at h
    simp only [Except.bind, assemble] at h
    split at h
    · cases h
    · cases h
      rfl

/-- A text other than one slash, followed by a slash and text that does not begin with a slash,
starts with two slashes only when it does so on its own. -/
theorem slashes_of_append_slash {R q : Text} (hR : R ≠ [47]) (hq : q.head? ≠ some 47) :
    ∀ r, R ++ 47 :: q = 47 :: 47 :: r → ∃ r', R = 47 :: 47 :: r' := by
  intro r hr
  match R, hR, hr with
  | [], _, hr =>
    simp only [List.nil_append, List.cons.injEq, true_and] at hr
    simp [hr] at hq
  | [x], hR, hr =>
    simp only [List.cons_append, List.nil_append, List.cons.injEq] at hr
    exact absurd (by rw [hr.1]) hR
  | x :: y :: rest, _, hr =>
    simp only [List.cons_append, List.cons.injEq] at hr
    exact ⟨rest, by rw [hr.1, hr.2.1]⟩

/-- A text with a character other than a slash starts two slashes only when it does so on its
own, whatever follows it. -/
theorem slashes_of_append {R t : Text} (h : ∃ c ∈ R, c ≠ 47) :
    ∀ r, R ++ t = 47 :: 47 :: r → ∃ r', R = 47 :: 47 :: r' := by
  intro r hr
  match R, h, hr with
  | [], h, _ => simp at h
  | [x], h, hr =>
    simp only [List.mem_singleton, exists_eq_left] at h
    simp only [List.cons_append, List.nil_append, List.cons.injEq] at hr
    exact absurd hr.1 h
  | x :: y :: rest, _, hr =>
    simp only [List.cons_append, List.cons.injEq] at hr
    exact ⟨rest, by rw [hr.1, hr.2.1]⟩

/-! ## Appending to the path -/

/-- **Appending to the path.** A text of path-safe characters that starts with a slash, appended
to a URI with no query or fragment where it cannot open a network location, extends the path
part and leaves every other part. -/
theorem split?_append {raw t : Text} (hafter : 35 ∉ afterScheme raw ∧ 63 ∉ afterScheme raw)
    (hauth : ∀ r, afterScheme raw ++ t = 47 :: 47 :: r → ∃ r', afterScheme raw = 47 :: 47 :: r')
    (ht : ∀ c ∈ t, pathSafe c) (hhead : ∀ c ∈ t.head?, c = 47) :
    split? (raw ++ t) = (split? raw).map fun parts => { parts with path := parts.path ++ t } := by
  have ht' : 35 ∉ t ∧ 63 ∉ t :=
    ⟨fun h => by simpa [pathSafe] using ht 35 h, fun h => by simpa [pathSafe] using ht 63 h⟩
  rw [split?_eq, split?_eq, congrArg Prod.fst (schemeSplit_append raw ht hhead),
    afterScheme_append raw ht hhead, locate_append hauth hhead]
  cases hl : locate (afterScheme raw) with
  | error e => rfl
  | ok x =>
    have hx := (locate_suffix hl).subset
    exact assemble_append _ x.1 ⟨fun h => hafter.1 (hx h), fun h => hafter.2 (hx h)⟩ ht'

end UriParts

end LocationDrift
