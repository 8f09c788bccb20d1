import LocationDrift.Display.Live
import LocationDrift.Proofs.Cache
import Mathlib.Data.List.TakeDrop

/-!
# Reading files and fingerprinting their code

**Surrogates (`Text.NoSurrogate`).** Strict UTF-8 writes every code point but a surrogate, so
encoding, quoting, joining a path to a folder and fingerprinting stop exactly on a text with a
surrogate (`encode?_isOk`, `quote_isOk`, `joinUri_isOk`, `fingerprint_isOk`). A fingerprint that
is found is never empty.

**Universal newlines.** Turning every line break into a line feed changes neither the lines of a
text nor the text without its blanks (`splitLines_translateNewlines`,
`withoutBlanks_translateNewlines`), so the code of any range has one fingerprint whether its file
is read as text or its bytes are decoded (`codeIn_translateNewlines`).

**URIs of paths (`displayPath_pathUri`).** Splitting a URI stops only at a square bracket in its
network location or at a character outside ASCII there. The URI of a path is `file://` followed by
quoted bytes, which are ASCII and never a bracket, so its display path is always found.

**A file on the disk (`read_of_file`, `readText_of_file`).** When a path names a file, a read of a
URI of that path within the size limit decodes its bytes, and reading the path directly decodes
them too and writes every line break as a line feed.
-/

namespace LocationDrift

namespace Text

/-- A text with no surrogate, which strict UTF-8 can write. -/
def NoSurrogate (t : Text) : Prop := ∀ c ∈ t, isSurrogate c = false

instance (t : Text) : Decidable t.NoSurrogate :=
  inferInstanceAs (Decidable (∀ c ∈ t, isSurrogate c = false))

theorem noSurrogate_cons {c : Nat} {t : Text} :
    NoSurrogate (c :: t) ↔ isSurrogate c = false ∧ NoSurrogate t := by
  simp [NoSurrogate]

end Text

/-! ## Surrogates stop encoding -/

theorem Utf8.encodeFrom_isOk (i : Nat) (t : Text) :
    (Utf8.encodeFrom false i t).isOk ↔ t.NoSurrogate := by
  induction t generalizing i with
  | nil => simp [Utf8.encodeFrom, Text.NoSurrogate, Except.isOk, Except.toBool]
  | cons c rest ih =>
    rw [Text.noSurrogate_cons, ← ih (i + 1)]
    cases hc : Text.isSurrogate c with
    | true => simp [Utf8.encodeFrom, hc, Except.isOk, Except.toBool]
    | false =>
      simp only [Utf8.encodeFrom, hc, Bool.false_eq_true, ↓reduceIte, true_and]
      cases Utf8.encodeFrom false (i + 1) rest <;> rfl

theorem Utf8.encode?_isOk (t : Text) : (Utf8.encode? t).isOk ↔ t.NoSurrogate :=
  Utf8.encodeFrom_isOk 0 t

theorem Percent.quote_isOk (t : Text) : (Percent.quote t).isOk ↔ t.NoSurrogate := by
  rw [Percent.quote, ← Utf8.encode?_isOk]
  cases Utf8.encode? t <;> rfl

theorem noSurrogate_withoutBlanks (t : Text) : t.withoutBlanks.NoSurrogate ↔ t.NoSurrogate := by
  induction t with
  | nil => simp [Text.withoutBlanks, Text.NoSurrogate]
  | cons c rest ih =>
    -- a blank is no surrogate, so dropping blanks keeps every surrogate
    by_cases hb : Text.isAsciiBlank c = true
    · have hs : Text.isSurrogate c = false := by
        simp only [Text.isAsciiBlank, Bool.or_eq_true, beq_iff_eq, Bool.and_eq_true,
          decide_eq_true_eq] at hb
        simp only [Text.isSurrogate, Bool.and_eq_false_iff, decide_eq_false_iff_not, Nat.not_le]
        omega
      simp only [Text.withoutBlanks, List.filter_cons, hb, Bool.not_true, Bool.false_eq_true,
        ↓reduceIte, Text.noSurrogate_cons, hs, true_and] at ih ⊢
      exact ih
    · simp only [Text.withoutBlanks, List.filter_cons, Bool.not_eq_true] at hb ih ⊢
      simp only [hb, Bool.not_false, ↓reduceIte, Text.noSurrogate_cons, ih]

/-! ## Fingerprints -/

/-- A piece of code has a fingerprint exactly when it has no surrogate. -/
theorem fingerprint_isOk (code : Text) : (fingerprint code).isOk ↔ code.NoSurrogate := by
  rw [fingerprint, ← noSurrogate_withoutBlanks, ← Utf8.encode?_isOk]
  cases Utf8.encode? code.withoutBlanks <;> rfl

/-- Two pieces of code equal but for their blanks have one fingerprint. -/
theorem fingerprint_congr {a b : Text} (h : a.withoutBlanks = b.withoutBlanks) :
    fingerprint a = fingerprint b := by
  rw [fingerprint, fingerprint, h]

theorem Md5.wordHex_ne_nil (w : UInt32) : Md5.wordHex w ≠ [] := by
  simp [Md5.wordHex, Md5.littleEndian, Text.hexLower, Nat.toDigits_ne_nil]

/-- A fingerprint that is found is never empty. -/
theorem fingerprint_ne_nil {code h : Text} (hf : fingerprint code = .ok h) : h ≠ [] := by
  rw [fingerprint] at hf
  cases he : Utf8.encode? code.withoutBlanks with
  | error e => rw [he] at hf; cases hf
  | ok bs =>
    rw [he] at hf
    cases hf
    simp [Md5.hexDigest, Md5.wordHex_ne_nil]

/-! ## Joining a path to a folder -/

theorem noSurrogate_dropWhile_slash (t : Text) :
    Text.NoSurrogate (t.dropWhile (· == 47)) ↔ t.NoSurrogate := by
  induction t with
  | nil => rfl
  | cons c rest ih =>
    by_cases hc : c = 47
    · subst hc
      simp [ih, Text.noSurrogate_cons, Text.isSurrogate]
    · simp [hc]

/-- Joining a relative path to a folder stops exactly on a surrogate in the path. -/
theorem FileUri.joinUri_isOk (folder rel : Text) :
    (FileUri.joinUri folder rel).isOk ↔ rel.NoSurrogate := by
  have hposix :
      Text.NoSurrogate ((rel.map fun c => if c == 92 then 47 else c).dropWhile (· == 47)) ↔
        rel.NoSurrogate := by
    rw [noSurrogate_dropWhile_slash]
    simp only [Text.NoSurrogate, List.mem_map, forall_exists_index, and_imp,
      forall_apply_eq_imp_iff₂]
    refine forall₂_congr fun c _ => ?_
    by_cases hc : c = 92
    · subst hc; simp [Text.isSurrogate]
    · simp [hc]
  rw [FileUri.joinUri, ← hposix, ← Percent.quote_isOk]
  cases Percent.quote _ <;> rfl

/-! ## Universal newlines -/

namespace Text

theorem pieces_translateNewlines (t : Text) : pieces (translateNewlines t) = pieces t := by
  fun_induction translateNewlines t with
  | case1 => rfl
  | case2 r ih => simp [pieces, ih]
  | case3 r hr ih =>
    -- a carriage return not followed by a line feed breaks the line as a line feed does
    cases r with
    | nil => simp [pieces, translateNewlines]
    | cons d r' =>
      have hd : d ≠ 10 := fun h => hr r' (by rw [h])
      simp [pieces, ih]
  | case4 c r _ h13 ih =>
    by_cases h10 : c = 10
    · subst h10
      simp [pieces, ih]
    · rw [pieces.eq_5 c _ (fun _ h => absurd h h13) h13 h10,
        pieces.eq_5 c _ (fun _ h => absurd h h13) h13 h10, ih]

theorem splitLines_translateNewlines (t : Text) :
    splitLines (translateNewlines t) = splitLines t := by
  rw [splitLines, splitLines, pieces_translateNewlines]

theorem withoutBlanks_translateNewlines (t : Text) :
    (translateNewlines t).withoutBlanks = t.withoutBlanks := by
  fun_induction translateNewlines t with
  | case1 => rfl
  | case2 r ih => simpa [Text.withoutBlanks, isAsciiBlank] using ih
  | case3 r _ ih => simpa [Text.withoutBlanks, isAsciiBlank] using ih
  | case4 c r _ _ ih =>
    simp only [Text.withoutBlanks, List.filter_cons] at ih ⊢
    rw [ih]

end Text

/-- The code of a range has one fingerprint whether its file is read as text, with universal
newlines, or its bytes are decoded: the lines are the same, and a whole-file range differs only in
line breaks, which fingerprints ignore. -/
theorem codeIn_translateNewlines (t : Text) (r : TextRange) :
    (r.codeIn (Text.translateNewlines t)).map fingerprint = (r.codeIn t).map fingerprint := by
  unfold TextRange.codeIn
  split
  · simp only [Option.map_some]
    rw [fingerprint_congr (Text.withoutBlanks_translateNewlines t)]
  · rw [Text.splitLines_translateNewlines]

/-! ## URIs of paths split -/

namespace UriParts

/-- A character that splitting a URI never stops at: ASCII and no square bracket. -/
def plainChar (c : Nat) : Bool := c < 128 && c != 91 && c != 93

theorem schemeOf?_rest_suffix {url scheme rest : Text} (h : schemeOf? url = some (scheme, rest)) :
    rest <:+ url := by
  unfold schemeOf? at h
  split at h
  · next c pre rest' hs =>
    split at h
    · simp only [Option.some.injEq, Prod.mk.injEq] at h
      obtain ⟨-, rfl⟩ := h
      rw [List.span_eq_takeWhile_dropWhile, Prod.mk.injEq] at hs
      have hd : 58 :: rest' <:+ url := by rw [← hs.2]; exact List.dropWhile_suffix _
      exact (List.suffix_cons _ _).trans hd
    · cases h
  · cases h

theorem contains_eq_false_of_plain {t : Text} (h : ∀ c ∈ t, plainChar c = true) {b : Nat}
    (hb : plainChar b = false) : t.contains b = false := by
  rw [Bool.eq_false_iff, ne_eq, List.contains_iff_mem]
  intro hm
  rw [h b hm] at hb
  cases hb

theorem checkNetloc_of_plain {netloc : Text} (h : ∀ c ∈ netloc, plainChar c = true) :
    checkNetloc netloc = .ok () := by
  unfold checkNetloc
  simp only [contains_eq_false_of_plain h (b := 91) rfl, contains_eq_false_of_plain h (b := 93) rfl]
  rfl

/-- What follows the scheme is part of the URI. -/
theorem rest_plain {url : Text} (h : ∀ c ∈ url, plainChar c = true) :
    ∀ c ∈ ((schemeOf? url).getD ([], url)).2, plainChar c = true := by
  cases hs : schemeOf? url with
  | none => exact h
  | some p => exact fun c hc => h c ((schemeOf?_rest_suffix hs).subset hc)

/-- A URI of plain characters always splits. -/
theorem split?_isOk {raw : Text} (h : ∀ c ∈ raw, plainChar c = true) : (split? raw).isOk := by
  unfold split?
  simp only
  generalize hurl : List.filter (fun c => c != 9 && c != 10 && c != 13)
    (List.dropWhile (fun x => decide (x ≤ 32)) raw) = url
  have hplain : ∀ c ∈ url, plainChar c = true := by
    rw [← hurl]
    exact fun c hc => h c ((List.dropWhile_sublist _).subset (List.mem_filter.mp hc).1)
  have hrest := rest_plain hplain
  generalize ((schemeOf? url).getD ([], url)) = sr at hrest ⊢
  split
  · next netloc r heq =>
    split at heq
    · next r' hsr =>
      -- the network location is a prefix of what follows the two slashes
      rw [Option.some.injEq, List.span_eq_takeWhile_dropWhile, Prod.mk.injEq] at heq
      have hn : ∀ c ∈ netloc, plainChar c = true := by
        rw [← heq.1]
        intro c hc
        exact hrest c (by rw [hsr]; exact List.mem_cons_of_mem _ (List.mem_cons_of_mem _
          ((List.takeWhile_sublist _).subset hc)))
      have hascii : Text.isAscii netloc = true := by
        simp only [Text.isAscii, List.all_eq_true, decide_eq_true_eq]
        intro c hc
        have := hn c hc
        simp only [plainChar, Bool.and_eq_true, decide_eq_true_eq] at this
        exact this.1.1
      simp [checkNetloc_of_plain hn, Except.map, Except.bind, hascii, Except.isOk, Except.toBool]
    · cases heq
  · simp [Except.bind, Text.isAscii, Except.isOk, Except.toBool]

end UriParts

/-- A character quoting writes: an ASCII letter or digit, one of `_ . - ~ /`, or a percent
sign. -/
def Percent.quotedChar (c : Nat) : Bool :=
  Text.isAsciiLetter c || Text.isDigit c || c == 95 || c == 46 || c == 45 || c == 126 ||
    c == 47 || c == 37

theorem Percent.quoteBytes_quotedChar (bs : Bytes) :
    ∀ c ∈ Percent.quoteBytes bs, quotedChar c := by
  intro c hc
  simp only [Percent.quoteBytes, List.mem_flatMap] at hc
  obtain ⟨b, -, hb⟩ := hc
  have hb256 := b.toNat_lt
  unfold Percent.quoteByte at hb
  split at hb
  · next hk =>
    -- a kept byte is a letter, a digit or one of `_ . - ~ /`
    rw [List.mem_singleton] at hb
    subst hb
    simp only [Percent.isKept] at hk
    simp only [quotedChar, hk, Bool.true_or]
  · -- an escape is a percent sign and two upper-case hexadecimal digits
    simp only [List.mem_cons, List.not_mem_nil, or_false] at hb
    rcases hb with rfl | rfl | rfl
    · rfl
    all_goals
      unfold Text.hexDigitUpper
      split <;>
        simp only [quotedChar, Text.isAsciiLetter, Text.isDigit, Bool.or_eq_true,
          Bool.and_eq_true, decide_eq_true_eq, beq_iff_eq] <;> omega

theorem UriParts.plainChar_of_quotedChar {c : Nat} (h : Percent.quotedChar c = true) :
    plainChar c = true := by
  simp only [Percent.quotedChar, Text.isAsciiLetter, Text.isDigit, Bool.or_eq_true,
    Bool.and_eq_true, decide_eq_true_eq, beq_iff_eq] at h
  simp only [plainChar, Bool.and_eq_true, decide_eq_true_eq, bne_iff_ne, ne_eq]
  omega

theorem Percent.quoteBytes_plain (bs : Bytes) :
    ∀ c ∈ Percent.quoteBytes bs, UriParts.plainChar c = true :=
  fun c hc => UriParts.plainChar_of_quotedChar (quoteBytes_quotedChar bs c hc)

theorem FileUri.prefixText_plain : ∀ c ∈ FileUri.prefixText, UriParts.plainChar c = true := by
  decide

/-- The URI of a path is found exactly when its text can be handed to the system as bytes. -/
theorem FileUri.pathUri_eq_ok {cwd : PosixPath} {p u : Text} :
    FileUri.pathUri cwd p = .ok u ↔ ∃ bs,
      Utf8.encodeName? (PosixPath.absolute cwd (PosixPath.ofText p)).toText = .ok bs ∧
        u = FileUri.prefixText ++ Percent.quoteBytes bs := by
  unfold FileUri.pathUri
  simp only [Functor.map, Except.map]
  split
  · next e he => simp [he]
  · next bs he => simp [he, eq_comm]

/-- The display path of the URI of a path is always found. -/
theorem FileUri.displayPath_pathUri {cwd : PosixPath} {p u : Text}
    (h : FileUri.pathUri cwd p = .ok u) : (FileUri.displayPath u).isOk := by
  obtain ⟨bs, -, rfl⟩ := FileUri.pathUri_eq_ok.mp h
  have hsplit : (UriParts.split? (FileUri.prefixText ++ Percent.quoteBytes bs)).isOk := by
    apply UriParts.split?_isOk
    intro c hc
    rcases List.mem_append.mp hc with hc | hc
    · exact FileUri.prefixText_plain c hc
    · exact Percent.quoteBytes_plain bs c hc
  unfold FileUri.displayPath
  cases hs : UriParts.split? (FileUri.prefixText ++ Percent.quoteBytes bs) with
  | error e => rw [hs] at hsplit; cases hsplit
  | ok parts => rfl

/-- A path the system can be handed has a URI. -/
theorem FileUri.pathUri_of_systemNames {cwd : PosixPath} {p : Text} {names : List Bytes}
    (h : (PosixPath.absolute cwd (PosixPath.ofText p)).systemNames? = .ok names) :
    ∃ u, FileUri.pathUri cwd p = .ok u := by
  unfold PosixPath.systemNames? at h
  cases he : Utf8.encodeName? (PosixPath.absolute cwd (PosixPath.ofText p)).toText with
  | error e => rw [he] at h; cases h
  | ok bs => exact ⟨_, FileUri.pathUri_eq_ok.mpr ⟨bs, he, rfl⟩⟩

/-! ## A file on the disk -/

section File

variable {st : Settings} {cd : Codec} {disk : Disk} {path : PosixPath} {names loc : List Bytes}
  {bs : Bytes} {t : Text} {e : Entry}

/-- An entry that resolves is read by opening it. -/
theorem Disk.readBytes_of_resolve (hres : disk.resolve names = .ok (loc, e)) :
    disk.readBytes names = e.bytes := by
  rw [Disk.readBytes, hres]
  rfl

/-- A codec that decodes text gives a readable snapshot of the bytes it decodes. -/
theorem Snapshot.decodeWith_of_decode (hcd : st.codec? = some cd) (htext : cd.isText = true)
    (hdecode : cd.decode? bs = some t) :
    (Snapshot.decodeWith st bs).map Snapshot.ofReading = .ok (.readable t) := by
  simp [Snapshot.decodeWith, hcd, htext, hdecode, Except.map, Snapshot.ofReading]

/-- A read of a URI that names a file within the size limit decodes the file's bytes. -/
theorem Snapshot.read_of_file {uri : Text} (hpath : FileUri.toPath uri = .ok path)
    (hnames : path.systemNames? = .ok names) (hfile : disk.resolve names = .ok (loc, .file bs))
    (hsize : bs.length ≤ st.maxFileSizeBytes) :
    Snapshot.read st disk uri = (Snapshot.decodeWith st bs).map Snapshot.ofReading := by
  have hle : ¬ (Entry.file bs).size > st.maxFileSizeBytes := by
    simp only [Entry.size, gt_iff_lt, Nat.not_lt]
    exact hsize
  simp only [Snapshot.read, Snapshot.take, hpath, hnames, hfile, hle, ↓reduceIte]
  rfl

/-- Reading a path that names a file directly decodes its bytes, with universal newlines. -/
theorem Workspace.readText_of_file {w : Workspace} {p : Text} (hcd : st.codec? = some cd)
    (htext : cd.isText = true)
    (hnames : (PosixPath.absolute w.cwd (PosixPath.ofText p)).systemNames? = .ok names)
    (hfile : w.disk.resolve names = .ok (loc, .file bs)) :
    w.readText st p = .ok ((cd.decode? bs).map Text.translateNewlines) := by
  simp only [Workspace.readText, Workspace.readDirect, hnames, Disk.readBytes_of_resolve hfile,
    Entry.bytes, Access.full, hcd, htext, Bool.not_true, Bool.false_eq_true, ↓reduceIte]
  cases cd.decode? bs <;> rfl

end File

end LocationDrift
