import Mathlib
import LocationDrift.Proofs.PercentCoding
import LocationDrift.Proofs.PathText
import LocationDrift.Proofs.SplitAppend

/-!
# Local paths of URIs

**Which URIs name a local path (`toPath_eq_ok`).** A URI that splits names a path in two ways:
with no scheme or a one-letter one, the URI itself is the path and must be absolute; with the
scheme `file`, an empty or `localhost` location and a non-empty path part, the path is the
unquoted path part.

**Theorem (`toPath_accepts_local_uris`).** A URI has a path exactly in those two cases, and the path
is absolute exactly when the URI is itself the path or its unquoted path part begins with a slash.
A `file` URI without a location whose path part is relative, such as `file:a`, so gives a
relative path (`toPath_relative_file_uri`).

**Theorem (`uri_of_path_names_it`).** The URI of a path is `file://` and the quoted UTF-8 bytes of
its absolute form. After `file://`, quoted text is all path (`FileUri.split?_prefixText_append`),
and it unquotes to the text it quotes when that has no lone surrogate; a normal path is read back
from its text. So the URI names the absolute path. A lone surrogate that stands for an escaped
byte is quoted as that byte, which unquoting replaces (`uri_of_escaped_byte_path_misnames_it`).

**Theorem (`joined_uri_names_joined_path`).** Joining drops the folder's trailing slashes and
appends a slash and the quoted relative path, which does not begin with a slash. Splitting appends
that path to the path part of the folder written with one trailing slash
(`UriParts.split?_append`), and unquoting appends the relative path after the slash, where it
adds names and leaves the root (`PosixPath.ofText_append_slash_cons`). So a joined URI names the
path of the one-slash folder followed by the relative path's names (`FileUri.toPath_joinUri`), and
the joined path is the folder's own path followed by them, for every relative path, exactly when
the one-slash folder names the folder's path. Every folder whose unquoted path holds more than
slashes does (`FileUri.toPath_withOneSlash`), and so does the root folder `file:///`. A bare folder
path is never unquoted, and a folder whose path is only slashes can change its root when written
with one slash, `file:////` and `file:%2F` among them (`joined_uri_misnames_bare_or_root_path`).
-/

namespace LocationDrift

/-! ## Absolute paths -/

theorem PosixPath.isAbsolute_ofText (t : Text) :
    (PosixPath.ofText t).isAbsolute = true ↔ t.head? = some 47 := by
  cases t with
  | nil => simp [PosixPath.ofText, PosixPath.isAbsolute]
  | cons c r =>
    by_cases hc : c = 47
    · subst hc
      simp [PosixPath.ofText, PosixPath.isAbsolute]
      split <;> simp
    · simp [PosixPath.ofText, PosixPath.isAbsolute, hc]

/-! ## The path of a URI -/

/-- The path of a URI is the URI itself, absolute, when it has at most a one-letter scheme, or
the unquoted path part of a `file` URI with an empty or `localhost` location and a non-empty
path part. -/
theorem FileUri.toPath_eq_ok {u : Text} {p : PosixPath} :
    FileUri.toPath u = .ok p ↔ ∃ parts, UriParts.split? u = .ok parts ∧
      ((parts.scheme.length ≤ 1 ∧ (PosixPath.ofText u).isAbsolute ∧ p = PosixPath.ofText u) ∨
        (parts.scheme = Text.ofString "file" ∧
          (parts.netloc = [] ∨ parts.netloc = Text.ofString "localhost") ∧ parts.path ≠ [] ∧
          p = PosixPath.ofText (Percent.unquote parts.path))) := by
  have hfile : ¬ (Text.ofString "file").length ≤ 1 := by decide
  constructor
  · -- follow the checks in order; each refusal is an error, not a path
    intro h
    unfold FileUri.toPath at h
    split at h
    · cases h
    · next parts hs =>
      refine ⟨parts, hs, ?_⟩
      split at h
      · next hlen =>
        dsimp only at h
        split at h
        · next habs => exact .inl ⟨hlen, habs, (Except.ok.inj h).symm⟩
        · cases h
      · split at h
        · cases h
        · next hsch =>
          split at h
          · cases h
          · next hnet =>
            split at h
            · cases h
            · next hpath =>
              refine .inr ⟨by simpa using hsch, ?_, by simpa using hpath, (Except.ok.inj h).symm⟩
              exact Decidable.or_iff_not_imp_left.mpr (by simpa using hnet)
  · rintro ⟨parts, hs, ⟨hlen, habs, rfl⟩ | ⟨hsch, hnet, hpath, rfl⟩⟩
    · simp [FileUri.toPath, hs, hlen, habs]
    · have hloc : (parts.netloc.isEmpty || parts.netloc == Text.ofString "localhost") = true := by
        rcases hnet with h | h <;> simp [h]
      simp [FileUri.toPath, hs, hsch, hfile, hloc, hpath]

/-- **Which URIs name a local path.** A URI has a path exactly when it splits and either has at
most a one-letter scheme and is itself an absolute path, or has the scheme `file`, an empty or
`localhost` location and a non-empty path part. The path is absolute exactly when the URI is
itself the path or its unquoted path part begins with a slash. -/
theorem toPath_accepts_local_uris (u : Text) :
    ((∃ p, FileUri.toPath u = .ok p) ↔ ∃ parts, UriParts.split? u = .ok parts ∧
      ((parts.scheme.length ≤ 1 ∧ (PosixPath.ofText u).isAbsolute) ∨
        (parts.scheme = Text.ofString "file" ∧
          (parts.netloc = [] ∨ parts.netloc = Text.ofString "localhost") ∧ parts.path ≠ []))) ∧
    ∀ parts p, UriParts.split? u = .ok parts → FileUri.toPath u = .ok p →
      (p.isAbsolute ↔ parts.scheme.length ≤ 1 ∨ (Percent.unquote parts.path).head? = some 47) := by
  constructor
  · constructor
    · rintro ⟨p, hp⟩
      obtain ⟨parts, hs, hbare | hfile⟩ := FileUri.toPath_eq_ok.mp hp
      · exact ⟨parts, hs, .inl ⟨hbare.1, hbare.2.1⟩⟩
      · exact ⟨parts, hs, .inr ⟨hfile.1, hfile.2.1, hfile.2.2.1⟩⟩
    · rintro ⟨parts, hs, hbare | hfile⟩
      · exact ⟨_, FileUri.toPath_eq_ok.mpr ⟨parts, hs, .inl ⟨hbare.1, hbare.2, rfl⟩⟩⟩
      · exact ⟨_, FileUri.toPath_eq_ok.mpr ⟨parts, hs, .inr ⟨hfile.1, hfile.2.1, hfile.2.2, rfl⟩⟩⟩
  · intro parts p hs hp
    obtain ⟨parts', hs', hbare | hfile⟩ := FileUri.toPath_eq_ok.mp hp
    all_goals
      rw [hs] at hs'
      cases hs'
    · -- the URI is itself the path, which is absolute
      obtain ⟨hlen, habs, rfl⟩ := hbare
      simp [habs, hlen]
    · -- a `file` URI's path is absolute when its unquoted path part begins with a slash
      obtain ⟨hscheme, -, -, rfl⟩ := hfile
      rw [PosixPath.isAbsolute_ofText, hscheme]
      simp [Text.ofString]

/-- A `file` URI without a location and with the relative path part `a` names the relative path
`a`. -/
theorem toPath_relative_file_uri :
    FileUri.toPath (Text.ofString "file:a") = .ok (PosixPath.ofText (Text.ofString "a")) ∧
      (PosixPath.ofText (Text.ofString "a")).isAbsolute = false := by
  constructor
  · cbv
  · decide

/-- The URI `file:///a` names a path, the absolute path `/a`. -/
theorem toPath_accepts_slash_a :
    ((∃ p, FileUri.toPath (Text.ofString "file:///a") = .ok p) ↔
      ∃ parts, UriParts.split? (Text.ofString "file:///a") = .ok parts ∧
        ((parts.scheme.length ≤ 1 ∧ (PosixPath.ofText (Text.ofString "file:///a")).isAbsolute) ∨
          (parts.scheme = Text.ofString "file" ∧
            (parts.netloc = [] ∨ parts.netloc = Text.ofString "localhost") ∧ parts.path ≠ []))) ∧
      ∀ parts p, UriParts.split? (Text.ofString "file:///a") = .ok parts →
        FileUri.toPath (Text.ofString "file:///a") = .ok p →
        (p.isAbsolute ↔ parts.scheme.length ≤ 1 ∨ (Percent.unquote parts.path).head? = some 47) :=
  toPath_accepts_local_uris (Text.ofString "file:///a")

/-! ## File URIs of quoted paths -/

theorem Percent.pathSafe_of_quotedChar {c : Nat} (h : quotedChar c = true) :
    UriParts.pathSafe c = true := by
  simp only [quotedChar, Text.isAsciiLetter, Text.isDigit, Bool.or_eq_true, Bool.and_eq_true,
    decide_eq_true_eq, beq_iff_eq] at h
  simp only [UriParts.pathSafe, Bool.and_eq_true, bne_iff_ne, ne_eq]
  omega

theorem Percent.quote_quotedChar {t q : Text} (h : quote t = .ok q) : ∀ c ∈ q, quotedChar c := by
  unfold quote at h
  cases he : Utf8.encode? t with
  | error e => rw [he] at h; cases h
  | ok bs =>
    rw [he] at h
    cases h
    exact quoteBytes_quotedChar bs

theorem FileUri.afterScheme_prefixText : UriParts.afterScheme FileUri.prefixText = [47, 47] := by
  decide

theorem FileUri.split?_prefixText :
    UriParts.split? FileUri.prefixText = .ok ⟨Text.ofString "file", [], [], [], []⟩ := by
  decide

/-- After `file://`, a path-safe text that starts with a slash is all path. -/
theorem FileUri.split?_prefixText_append {q : Text} (hq : ∀ c ∈ q, UriParts.pathSafe c)
    (hhead : ∀ c ∈ q.head?, c = 47) :
    UriParts.split? (FileUri.prefixText ++ q) = .ok ⟨Text.ofString "file", [], q, [], []⟩ := by
  rw [UriParts.split?_append (by rw [afterScheme_prefixText]; decide)
    (fun _ _ => ⟨[], afterScheme_prefixText⟩) hq hhead, split?_prefixText]
  rfl

theorem FileUri.toPath_prefixText_append {q : Text} (hq : ∀ c ∈ q, UriParts.pathSafe c)
    (hhead : q.head? = some 47) :
    FileUri.toPath (FileUri.prefixText ++ q) = .ok (PosixPath.ofText (Percent.unquote q)) ∧
      FileUri.displayPath (FileUri.prefixText ++ q) = .ok (Percent.unquote q) := by
  have hsplit := split?_prefixText_append hq fun c hc => by
    rw [hhead, Option.mem_some_iff] at hc
    exact hc.symm
  have hne : q ≠ [] := by
    rintro rfl
    cases hhead
  constructor
  · exact toPath_eq_ok.mpr ⟨_, hsplit, .inr ⟨rfl, .inl rfl, hne, rfl⟩⟩
  · simp [displayPath, hsplit, Functor.map, Except.map]

/-! ## The URI of a path -/

theorem PosixPath.toText_head {p : PosixPath} (h : p.isAbsolute = true) : p.toText.head? = some 47 := by
  obtain ⟨root, names⟩ := p
  cases root with
  | relative => cases h
  | single => cases names <;> rfl
  | double => cases names <;> rfl

theorem Except.mapError_eq_ok {ε ε' α : Type} {e : Except ε α} {f : ε → ε'} {a : α} :
    e.mapError f = .ok a ↔ e = .ok a := by
  cases e <;> simp [Except.mapError]

/-- The URI of an absolute path whose text has no lone surrogate is `file://` followed by a
path-safe text that starts with a slash and unquotes to the path's text. -/
theorem FileUri.pathUri_quoted {cwd : PosixPath} {p u : Text}
    (habs : (PosixPath.absolute cwd (PosixPath.ofText p)).isAbsolute = true)
    (hs : (PosixPath.absolute cwd (PosixPath.ofText p)).toText.Scalar)
    (hu : FileUri.pathUri cwd p = .ok u) :
    ∃ q, u = FileUri.prefixText ++ q ∧ (∀ c ∈ q, UriParts.pathSafe c) ∧ q.head? = some 47 ∧
      Percent.unquote q = (PosixPath.absolute cwd (PosixPath.ofText p)).toText := by
  obtain ⟨bs, hbs, rfl⟩ := pathUri_eq_ok.mp hu
  have hhead := PosixPath.toText_head habs
  generalize (PosixPath.absolute cwd (PosixPath.ofText p)).toText = t at hhead hs hbs ⊢
  -- without surrogates to escape, the bytes are the UTF-8 form of the text
  have hflat : bs = t.flatMap Utf8.encodePoint := by
    have := Utf8.encodeFrom_eq_flatMap true hs.noSurrogate 0
    rw [Utf8.encodeName?, this] at hbs
    exact (Except.ok.inj hbs).symm
  subst hflat
  refine ⟨_, rfl, fun c hc => Percent.pathSafe_of_quotedChar (Percent.quoteBytes_quotedChar _ c hc),
    ?_, by rw [Percent.unquote_quoteBytes, Utf8.decodeReplacing_flatMap hs]⟩
  obtain ⟨rest, rfl⟩ := List.head?_eq_some_iff.mp hhead
  rfl

/-- The URI of a path names the absolute path, when the working directory is absolute and normal
and the absolute path's text has no lone surrogate. -/
theorem FileUri.toPath_pathUri {cwd : PosixPath} (hcwd : cwd.isAbsolute = true) (hnorm : cwd.Normal)
    {p u : Text} (hs : (PosixPath.absolute cwd (PosixPath.ofText p)).toText.Scalar)
    (hu : FileUri.pathUri cwd p = .ok u) :
    FileUri.toPath u = .ok (PosixPath.absolute cwd (PosixPath.ofText p)) ∧
      FileUri.displayPath u = .ok (PosixPath.absolute cwd (PosixPath.ofText p)).toText := by
  have hnormal := PosixPath.absolute_normal hnorm (PosixPath.ofText_normal p)
  obtain ⟨q, rfl, hq, hhead, hunquote⟩ :=
    pathUri_quoted (PosixPath.isAbsolute_absolute hcwd _) hs hu
  obtain ⟨htoPath, hdisplay⟩ := toPath_prefixText_append hq hhead
  rw [hunquote, PosixPath.ofText_toText hnormal] at htoPath
  rw [hunquote] at hdisplay
  exact ⟨htoPath, hdisplay⟩

/-- With no folder to join it to, or when it is absolute, an editor path's URI is the path's. -/
theorem FileUri.ofEditorPath_eq_pathUri {cwd : PosixPath} {p u : Text} {folder : Option Text}
    (hfolder : folder = none ∨ (PosixPath.ofText p).isAbsolute = true)
    (hu : FileUri.ofEditorPath cwd p folder = .ok u) : FileUri.pathUri cwd p = .ok u := by
  unfold FileUri.ofEditorPath at hu
  split at hu
  · cases hu
  · dsimp only at hu
    cases folder with
    | none => exact Except.mapError_eq_ok.mp hu
    | some f =>
      have habs : (PosixPath.ofText p).isAbsolute = true := by simpa using hfolder
      simp only [habs, if_true] at hu
      exact Except.mapError_eq_ok.mp hu

/-- **The URI of a path names that path.** Against an absolute normal working directory, when the
absolute form of a path text is written without lone surrogates, the URI of the path names
exactly that absolute path and displays its text; so does the URI an editor reports for the
path when there is no workspace folder to join it to or the path is itself absolute. -/
theorem uri_of_path_names_it {cwd : PosixPath} (hcwd : cwd.isAbsolute = true) (hnorm : cwd.Normal)
    {p : Text} (hs : (PosixPath.absolute cwd (PosixPath.ofText p)).toText.Scalar) :
    (∀ u, FileUri.pathUri cwd p = .ok u →
      FileUri.toPath u = .ok (PosixPath.absolute cwd (PosixPath.ofText p)) ∧
        FileUri.displayPath u = .ok (PosixPath.absolute cwd (PosixPath.ofText p)).toText) ∧
    (∀ folder u, (folder = none ∨ (PosixPath.ofText p).isAbsolute = true) →
      FileUri.ofEditorPath cwd p folder = .ok u →
      FileUri.toPath u = .ok (PosixPath.absolute cwd (PosixPath.ofText p)) ∧
        FileUri.displayPath u = .ok (PosixPath.absolute cwd (PosixPath.ofText p)).toText) :=
  ⟨fun _ hu => FileUri.toPath_pathUri hcwd hnorm hs hu,
    fun _ _ hfolder hu =>
      FileUri.toPath_pathUri hcwd hnorm hs (FileUri.ofEditorPath_eq_pathUri hfolder hu)⟩

/-- In the directory `/ws`, the path `a b` has a URI naming `/ws/a b`. -/
theorem uri_of_spaced_path_names_it :
    (∀ u, FileUri.pathUri (PosixPath.ofText (Text.ofString "/ws")) (Text.ofString "a b") = .ok u →
      FileUri.toPath u = .ok (PosixPath.absolute (PosixPath.ofText (Text.ofString "/ws"))
        (PosixPath.ofText (Text.ofString "a b"))) ∧
      FileUri.displayPath u = .ok (PosixPath.absolute (PosixPath.ofText (Text.ofString "/ws"))
        (PosixPath.ofText (Text.ofString "a b"))).toText) ∧
    (∀ folder u, (folder = none ∨ (PosixPath.ofText (Text.ofString "a b")).isAbsolute = true) →
      FileUri.ofEditorPath (PosixPath.ofText (Text.ofString "/ws")) (Text.ofString "a b") folder =
        .ok u →
      FileUri.toPath u = .ok (PosixPath.absolute (PosixPath.ofText (Text.ofString "/ws"))
        (PosixPath.ofText (Text.ofString "a b"))) ∧
      FileUri.displayPath u = .ok (PosixPath.absolute (PosixPath.ofText (Text.ofString "/ws"))
        (PosixPath.ofText (Text.ofString "a b"))).toText) :=
  uri_of_path_names_it (by decide) (by decide) (by decide)

/-- A path holding the escaped byte `0xFF` gets a URI naming another path: the byte is unquoted
as UTF-8, which replaces it. -/
theorem uri_of_escaped_byte_path_misnames_it :
    FileUri.ofEditorPath (PosixPath.ofText (Text.ofString "/ws")) [47, 0xDCFF] none =
        .ok (Text.ofString "file:///%FF") ∧
      FileUri.toPath (Text.ofString "file:///%FF") = .ok (PosixPath.ofText [47, 0xFFFD]) ∧
      FileUri.displayPath (Text.ofString "file:///%FF") = .ok [47, 0xFFFD] ∧
      PosixPath.ofText [47, 0xFFFD] ≠
        PosixPath.absolute (PosixPath.ofText (Text.ofString "/ws")) (PosixPath.ofText [47, 0xDCFF]) := by
  refine ⟨by cbv, by cbv, by cbv, by decide⟩

/-! ## Joining a relative path to a folder -/

/-- The relative path as joining writes it: backslashes as slashes, leading slashes dropped. -/
def FileUri.relativePart (rel : Text) : Text :=
  (rel.map fun c => if c == 92 then 47 else c).dropWhile (· == 47)

theorem FileUri.joinUri_eq_ok {folder rel u : Text} :
    FileUri.joinUri folder rel = .ok u ↔ ∃ q, Percent.quote (relativePart rel) = .ok q ∧
      u = Text.dropRightWhileClass (· == 47) folder ++ 47 :: q := by
  show (fun q => Text.dropRightWhileClass (· == 47) folder ++ [47] ++ q) <$>
    Percent.quote (relativePart rel) = .ok u ↔ _
  cases Percent.quote (relativePart rel) with
  | error e => simp [Functor.map, Except.map]
  | ok q => simp [Functor.map, Except.map, eq_comm]

theorem FileUri.relativePart_scalar {rel : Text} (h : rel.Scalar) : (relativePart rel).Scalar := by
  intro c hc
  obtain ⟨d, hd, rfl⟩ := List.mem_map.mp ((List.dropWhile_sublist _).subset hc)
  by_cases h92 : d = 92
  · subst h92
    decide
  · simpa [h92] using h d hd

/-- A text is its part before its trailing slashes, followed by those slashes. -/
theorem Text.dropRightWhileClass_slash (t : Text) :
    ∃ k, t = Text.dropRightWhileClass (· == 47) t ++ List.replicate k 47 := by
  -- the trailing slashes are the leading slashes of the reversed text
  have hslashes : t.reverse.takeWhile (· == 47) =
      List.replicate (t.reverse.takeWhile (· == 47)).length 47 :=
    List.eq_replicate_iff.mpr ⟨rfl, fun c hc => by simpa using List.mem_takeWhile_imp hc⟩
  refine ⟨(t.reverse.takeWhile (· == 47)).length, ?_⟩
  calc t = (t.reverse.takeWhile (· == 47) ++ t.reverse.dropWhile (· == 47)).reverse := by
        rw [List.takeWhile_append_dropWhile, List.reverse_reverse]
    _ = (t.reverse.dropWhile (· == 47)).reverse ++ (t.reverse.takeWhile (· == 47)).reverse :=
        List.reverse_append
    _ = Text.dropRightWhileClass (· == 47) t ++
          List.replicate (t.reverse.takeWhile (· == 47)).length 47 := by
        rw [hslashes, List.reverse_replicate, List.length_replicate]
        rfl

theorem UriParts.afterScheme_subset (raw : Text) : ∀ c ∈ afterScheme raw, c ∈ raw := by
  have hclean : ∀ c ∈ cleaned raw, c ∈ raw := fun c hc =>
    (List.dropWhile_sublist _).subset (List.mem_filter.mp hc).1
  intro c hc
  unfold afterScheme at hc
  cases hs : schemeOf? (cleaned raw) with
  | none =>
    rw [hs] at hc
    exact hclean c hc
  | some sr =>
    obtain ⟨scheme, rest⟩ := sr
    rw [hs] at hc
    exact hclean c ((schemeOf?_rest_suffix hs).subset hc)

/-- The folder as every URI joined to it begins: without its trailing slashes, then one slash. -/
def FileUri.withOneSlash (folder : Text) : Text := Text.dropRightWhileClass (· == 47) folder ++ [47]

/-- The relative part never begins with a slash. -/
theorem FileUri.relativePart_head (rel : Text) : (relativePart rel).head? ≠ some 47 := by
  intro h
  have hnot := List.head?_dropWhile_not (· == 47) (rel.map fun c => if c == 92 then 47 else c)
  unfold relativePart at h
  rw [h] at hnot
  simp at hnot

/-- Nor does its quoted form, which unquotes back to it. -/
theorem FileUri.quote_relativePart_head {rel q : Text} (hrel : rel.Scalar)
    (hq : Percent.quote (relativePart rel) = .ok q) : q.head? ≠ some 47 := by
  intro h
  obtain ⟨r, rfl⟩ : ∃ r, q = 47 :: r := by
    cases q with
    | nil => cases h
    | cons c r => exact ⟨r, by simpa using h⟩
  have hascii : ∀ c ∈ r, c < 128 := fun c hc =>
    Percent.lt128_of_quotedChar (Percent.quote_quotedChar hq c (List.mem_cons_of_mem _ hc))
  have hback := Percent.unquote_quote (relativePart_scalar hrel) hq
  rw [← List.nil_append (47 :: r), Percent.unquote_append_slash [] hascii,
    Percent.unquote_nil] at hback
  exact relativePart_head rel (by rw [← hback]; rfl)

/-- A URI joined to a `file` folder with no `?` or `#` names the path of the folder written with
one trailing slash, followed by the names of the relative path. The quoted relative path is
path-safe ASCII that does not begin with a slash, so splitting appends it to the path part of the
one-slash folder, and unquoting appends the relative path after the slash. -/
theorem FileUri.toPath_joinUri {folder p u : Text} {parts : UriParts} {base : PosixPath}
    (hsplit : UriParts.split? folder = .ok parts) (hfile : parts.scheme = Text.ofString "file")
    (hdelim : 35 ∉ folder ∧ 63 ∉ folder) (hone : FileUri.toPath (withOneSlash folder) = .ok base)
    (hp : p.Scalar) (hu : FileUri.joinUri folder p = .ok u) :
    FileUri.toPath u = .ok (base.append (PosixPath.namesOf (relativePart p))) := by
  obtain ⟨q, hq, rfl⟩ := FileUri.joinUri_eq_ok.mp hu
  unfold withOneSlash at hone
  obtain ⟨k, hk⟩ := Text.dropRightWhileClass_slash folder
  generalize Text.dropRightWhileClass (· == 47) folder = f at hk hone ⊢
  subst hk
  -- the quoted relative path is path-safe ASCII and does not begin with a slash
  have hqchar := Percent.quote_quotedChar hq
  have hascii : ∀ c ∈ q, c < 128 := fun c hc => Percent.lt128_of_quotedChar (hqchar c hc)
  have hslash : ∀ c ∈ 47 :: q, UriParts.pathSafe c := by
    intro c hc
    rcases List.mem_cons.mp hc with rfl | hc
    · rfl
    · exact Percent.pathSafe_of_quotedChar (hqchar c hc)
  have hqhead := quote_relativePart_head hp hq
  have hdelim' : 35 ∉ UriParts.afterScheme f ∧ 63 ∉ UriParts.afterScheme f :=
    ⟨fun h => hdelim.1 (List.mem_append_left _ (UriParts.afterScheme_subset f 35 h)),
      fun h => hdelim.2 (List.mem_append_left _ (UriParts.afterScheme_subset f 63 h))⟩
  -- the folder's scheme is read before its trailing slashes
  have hone_safe : ∀ c ∈ [47], UriParts.pathSafe c := UriParts.pathSafe_replicate_slash 1
  have hone_head : ∀ c ∈ [47].head?, c = 47 := UriParts.head_replicate_slash 1
  have hscheme : ((UriParts.schemeOf? (UriParts.cleaned f)).getD ([], UriParts.cleaned f)).1 =
      Text.ofString "file" := by
    rw [← hfile, UriParts.scheme_of_split? hsplit, congrArg Prod.fst
      (UriParts.schemeSplit_append f (UriParts.pathSafe_replicate_slash k)
        (UriParts.head_replicate_slash k))]
  by_cases hA : UriParts.afterScheme f = [47]
  · -- a lone slash after the scheme and the added one open an empty location with no path
    exfalso
    have hsplit1 : UriParts.split? (f ++ [47]) = .ok ⟨Text.ofString "file", [], [], [], []⟩ := by
      rw [UriParts.split?_eq, congrArg Prod.fst (UriParts.schemeSplit_append f hone_safe hone_head),
        UriParts.afterScheme_append f hone_safe hone_head, hA, hscheme]
      rfl
    obtain ⟨parts1, hs1, hbare | hfile1⟩ := FileUri.toPath_eq_ok.mp hone
    · rw [hsplit1] at hs1
      cases hs1
      exact absurd hbare.1 (by decide)
    · rw [hsplit1] at hs1
      cases hs1
      exact hfile1.2.2.1 rfl
  · -- otherwise the one-slash folder and the joined URI both split as the folder before its
    -- trailing slashes, with the path part extended
    have h1 := UriParts.split?_append hdelim' (UriParts.slashes_of_append_slash hA (q := []) (by simp))
      hone_safe hone_head
    have h2 := UriParts.split?_append hdelim' (UriParts.slashes_of_append_slash hA hqhead) hslash
      fun c hc => (Option.mem_some_iff.mp hc).symm
    cases hf : UriParts.split? f with
    | error e =>
      rw [hf] at h1
      obtain ⟨parts1, hs1, -⟩ := FileUri.toPath_eq_ok.mp hone
      rw [h1] at hs1
      cases hs1
    | ok parts' =>
      rw [hf] at h1 h2
      have hscheme' : parts'.scheme = Text.ofString "file" := by
        rw [UriParts.scheme_of_split? hf, hscheme]
      obtain ⟨parts1, hs1, hbare | ⟨-, hnet, -, rfl⟩⟩ := FileUri.toPath_eq_ok.mp hone
      all_goals
        rw [h1] at hs1
        cases hs1
      · exact absurd hbare.1 (by simp only [hscheme']; decide)
      · refine FileUri.toPath_eq_ok.mpr ⟨_, h2, .inr ⟨hscheme', hnet, by simp, ?_⟩⟩
        rw [Percent.unquote_append_slash _ hascii, Percent.unquote_append_slash _ (Q := []) (by simp),
          Percent.unquote_nil, Percent.unquote_quote (relativePart_scalar hp) hq]
        exact (PosixPath.ofText_append_slash_cons _ (relativePart_head p)).symm

/-- A `file` folder with no `?` or `#` whose unquoted path holds more than slashes names the same
path written with one trailing slash: its root is read before its last name, and trailing
slashes add no name. -/
theorem FileUri.toPath_withOneSlash {folder : Text} {parts : UriParts} {base : PosixPath}
    (hsplit : UriParts.split? folder = .ok parts) (hfile : parts.scheme = Text.ofString "file")
    (hbase : FileUri.toPath folder = .ok base) (hdelim : 35 ∉ folder ∧ 63 ∉ folder)
    (hdir : ∃ c ∈ Percent.unquote parts.path, c ≠ 47) :
    FileUri.toPath (withOneSlash folder) = .ok base := by
  unfold withOneSlash
  obtain ⟨k, hk⟩ := Text.dropRightWhileClass_slash folder
  generalize Text.dropRightWhileClass (· == 47) folder = f at hk ⊢
  subst hk
  -- the folder's path holds a character other than a slash, before its trailing slashes
  have hnonslash : ∃ c ∈ UriParts.afterScheme f, c ≠ 47 := by
    obtain ⟨c, hc, hne⟩ := Percent.exists_ne_slash_of_unquote hdir
    have hc' := UriParts.path_subset_afterScheme hsplit hc
    rw [UriParts.afterScheme_append f (UriParts.pathSafe_replicate_slash k)
      (UriParts.head_replicate_slash k)] at hc'
    exact PosixPath.exists_ne_slash_of_append_replicate ⟨c, hc', hne⟩
  have hdelim' : 35 ∉ UriParts.afterScheme f ∧ 63 ∉ UriParts.afterScheme f :=
    ⟨fun h => hdelim.1 (List.mem_append_left _ (UriParts.afterScheme_subset f 35 h)),
      fun h => hdelim.2 (List.mem_append_left _ (UriParts.afterScheme_subset f 63 h))⟩
  -- with any number of trailing slashes the folder splits as it does without them
  have htrail : ∀ n, UriParts.split? (f ++ List.replicate n 47) =
      (UriParts.split? f).map fun parts => { parts with path := parts.path ++ List.replicate n 47 } :=
    fun n => UriParts.split?_append hdelim' (UriParts.slashes_of_append hnonslash)
      (UriParts.pathSafe_replicate_slash n) (UriParts.head_replicate_slash n)
  rw [htrail k] at hsplit
  cases hf : UriParts.split? f with
  | error e => rw [hf] at hsplit; cases hsplit
  | ok parts' =>
    rw [hf] at hsplit
    cases hsplit
    have hscheme : parts'.scheme = Text.ofString "file" := hfile
    have hone : UriParts.split? (f ++ [47]) = .ok { parts' with path := parts'.path ++ [47] } := by
      rw [show [47] = List.replicate 1 47 from rfl, htrail 1, hf]
      rfl
    obtain ⟨parts1, hs1, hbare | ⟨-, hnet, -, rfl⟩⟩ := FileUri.toPath_eq_ok.mp hbase
    all_goals
      rw [htrail k, hf] at hs1
      cases hs1
    · exact absurd hbare.1 (by show ¬ parts'.scheme.length ≤ 1; rw [hscheme]; decide)
    · -- trailing slashes add no name to a path that holds one
      rw [Percent.unquote_append_replicate] at hdir
      have hfound := PosixPath.exists_ne_slash_of_append_replicate hdir
      have hpath : ∀ n, PosixPath.ofText (Percent.unquote (parts'.path ++ List.replicate n 47)) =
          PosixPath.ofText (Percent.unquote parts'.path) := fun n => by
        rw [Percent.unquote_append_replicate, PosixPath.ofText_append_replicate hfound]
      refine FileUri.toPath_eq_ok.mpr ⟨_, hone, .inr ⟨hscheme, hnet, by simp, ?_⟩⟩
      rw [show [47] = List.replicate 1 47 from rfl, hpath, hpath]

/-- **A joined URI names the joined path, exactly for folders that keep their path with one
trailing slash.** For a `file` folder URI with no `?` or `#`: every relative path without a lone
surrogate, joined to the folder, gives a URI naming the folder's path followed by the names of
the relative path, with backslashes read as slashes, if and only if the folder written with one
trailing slash names the same path as the folder. Trailing slashes and the quoting of the relative path
then change nothing. -/
theorem joined_uri_names_joined_path {folder : Text} {parts : UriParts} {base : PosixPath}
    (hsplit : UriParts.split? folder = .ok parts) (hfile : parts.scheme = Text.ofString "file")
    (hbase : FileUri.toPath folder = .ok base) (hdelim : 35 ∉ folder ∧ 63 ∉ folder) :
    (∀ p u, p.Scalar → FileUri.joinUri folder p = .ok u →
        FileUri.toPath u = .ok (base.append (PosixPath.namesOf (FileUri.relativePart p)))) ↔
      FileUri.toPath (FileUri.withOneSlash folder) = FileUri.toPath folder := by
  rw [hbase]
  constructor
  · -- the empty relative path is joined as the folder with one slash
    intro hlaw
    have hjoin : FileUri.joinUri folder [] = .ok (FileUri.withOneSlash folder) :=
      FileUri.joinUri_eq_ok.mpr ⟨[], rfl, rfl⟩
    have hnil : PosixPath.namesOf (FileUri.relativePart []) = [] := PosixPath.namesOf_replicate_slash 0
    have h := hlaw [] _ (fun _ h => nomatch h) hjoin
    rwa [hnil, PosixPath.append, List.append_nil] at h
  · intro hone p u hp hu
    exact FileUri.toPath_joinUri hsplit hfile hdelim hone hp hu

/-- The root folder `file:///` keeps its path with one trailing slash, as `file:/`, so the path
`a b` joined to it names `/a b`. -/
theorem joined_uri_names_path_under_root :
    FileUri.toPath (FileUri.withOneSlash (Text.ofString "file:///")) =
        FileUri.toPath (Text.ofString "file:///") ∧
      FileUri.toPath (Text.ofString "file:/a%20b") =
        .ok ((PosixPath.ofText (Text.ofString "/")).append
          (PosixPath.namesOf (FileUri.relativePart (Text.ofString "a b")))) := by
  have hone : FileUri.toPath (FileUri.withOneSlash (Text.ofString "file:///")) =
      FileUri.toPath (Text.ofString "file:///") := by
    cbv
  exact ⟨hone, (@joined_uri_names_joined_path (Text.ofString "file:///")
    ⟨Text.ofString "file", [], Text.ofString "/", [], []⟩ (PosixPath.ofText (Text.ofString "/"))
    (by cbv) rfl (by cbv) (by decide)).mpr hone (Text.ofString "a b") _ (by decide) (by cbv)⟩

/-- A bare folder path is not unquoted, so a joined space stays quoted. A `file` folder whose
path is only slashes can lose its root when joined: `file:////` names `//` but its one-slash form
`file:/` names `/`; and `file:%2F` names `/` but its one-slash form `file:%2F/` names `//`. -/
theorem joined_uri_misnames_bare_or_root_path :
    (FileUri.joinUri (Text.ofString "/ws") (Text.ofString "a b") = .ok (Text.ofString "/ws/a%20b") ∧
      FileUri.toPath (Text.ofString "/ws") = .ok (PosixPath.ofText (Text.ofString "/ws")) ∧
      FileUri.toPath (Text.ofString "/ws/a%20b") =
        .ok (PosixPath.ofText (Text.ofString "/ws/a%20b")) ∧
      PosixPath.ofText (Text.ofString "/ws/a%20b") ≠ (PosixPath.ofText (Text.ofString "/ws")).append
        (PosixPath.namesOf (FileUri.relativePart (Text.ofString "a b")))) ∧
    (FileUri.joinUri (Text.ofString "file:////") (Text.ofString "a") = .ok (Text.ofString "file:/a") ∧
      FileUri.toPath (Text.ofString "file:////") = .ok (PosixPath.ofText (Text.ofString "//")) ∧
      FileUri.toPath (Text.ofString "file:/a") = .ok (PosixPath.ofText (Text.ofString "/a")) ∧
      PosixPath.ofText (Text.ofString "/a") ≠ (PosixPath.ofText (Text.ofString "//")).append
        (PosixPath.namesOf (FileUri.relativePart (Text.ofString "a")))) ∧
    (FileUri.joinUri (Text.ofString "file:%2F") (Text.ofString "a") =
        .ok (Text.ofString "file:%2F/a") ∧
      FileUri.toPath (Text.ofString "file:%2F") = .ok (PosixPath.ofText (Text.ofString "/")) ∧
      FileUri.toPath (Text.ofString "file:%2F/a") = .ok (PosixPath.ofText (Text.ofString "//a")) ∧
      PosixPath.ofText (Text.ofString "//a") ≠ (PosixPath.ofText (Text.ofString "/")).append
        (PosixPath.namesOf (FileUri.relativePart (Text.ofString "a")))) :=
  ⟨⟨by cbv, by cbv, by cbv, by decide⟩, ⟨by cbv, by cbv, by cbv, by decide⟩,
    ⟨by cbv, by cbv, by cbv, by decide⟩⟩

end LocationDrift
