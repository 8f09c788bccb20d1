import LocationDrift.Display.Taint
import LocationDrift.Proofs.Reading
import LocationDrift.Proofs.Sharing

/-!
# Live hashes are what the taint check compares

A local analysis records, for each range of a live location, the fingerprint of the code the range
has in the file read directly by its path (`Workspace.liveHash`); a taint location is checked by
finding the code of its range through the snapshot cache, which decodes the file's bytes, and
comparing its fingerprint with the recorded hash (`Location.ofTaint`). The two read the file
differently: reading a path directly writes every line break as a line feed.

**Each side as a function of the code's fingerprint.** Once its file is read, a live location
carries the fingerprint of the code its range has, or an empty hash when there is no such code
(`Location.ofLive_of_text`); a taint location is present when its range has code, and matches when
the fingerprint of that code is its hash (`Location.ofTaint_of_text`). Both stop on a surrogate in
the code.

**Theorem (`live_hash_agrees_with_taint_check`).** For a file within the size limit whose bytes the
codec decodes, named by a path on the live side and by a folder and a relative path on the taint
side: both sides stop exactly when the code of the range has a surrogate; otherwise the live hash is
non-empty exactly when the taint location with that hash is present, and then it matches. The
lines of a text and its blanks do not depend on how its line breaks are written
(`codeIn_translateNewlines`), so the two fingerprints are one.
-/

namespace LocationDrift

/-- The outcome of fingerprinting the code of a range: none when the range has no code. -/
def TextRange.codePrint (r : TextRange) (t : Text) : Option (Except Unencodable Text) :=
  (r.codeIn t).map fingerprint

theorem TextRange.codePrint_translateNewlines (r : TextRange) (t : Text) :
    r.codePrint (Text.translateNewlines t) = r.codePrint t :=
  codeIn_translateNewlines t r

/-- Every code of a range has no surrogate exactly when its fingerprint is found. -/
theorem TextRange.noSurrogate_iff_codePrint (r : TextRange) (t : Text) :
    (∀ code ∈ r.codeIn t, code.NoSurrogate) ↔ ∀ e ∈ r.codePrint t, e.isOk := by
  unfold codePrint
  cases r.codeIn t with
  | none => simp
  | some code => simp [fingerprint_isOk]

/-- A fingerprint that is found is never empty. -/
theorem TextRange.ne_nil_of_codePrint {r : TextRange} {t f : Text}
    (h : r.codePrint t = some (.ok f)) : f ≠ [] := by
  obtain ⟨code, -, hf⟩ := Option.map_eq_some_iff.mp h
  exact fingerprint_ne_nil hf

/-! ## The live side -/

/-- The hash of a range in a file read directly is the fingerprint of its code, if it has any. -/
theorem Workspace.liveHash_of_text {w : Workspace} {st : Settings} {p t : Text} (r : TextRange)
    (hread : w.readText st p = .ok (some t)) :
    w.liveHash st (some p) r =
      match r.codePrint t with
      | none => .ok []
      | some e => e.mapError .unencodable := by
  rw [Workspace.liveHash, hread]
  simp only [Except.bind, Option.bind_eq_bind, Option.bind_some]
  unfold TextRange.codePrint
  cases r.codeIn t <;> rfl

/-- A file that cannot be read as text gives every range the empty hash. -/
theorem Workspace.liveHash_of_unread {w : Workspace} {st : Settings} {p : Text} (r : TextRange)
    (hread : w.readText st p = .ok none) : w.liveHash st (some p) r = .ok [] := by
  rw [Workspace.liveHash, hread]
  rfl

/-- A live location with a path that has a URI is present and never matches; its range carries
the live hash. -/
theorem Location.ofLive_of_path {w : Workspace} {st : Settings} {p u : Text} (r : TextRange)
    (m : Option Text) (hu : FileUri.pathUri w.cwd p = .ok u) :
    ∃ d, Location.ofLive w st ⟨some p, some r, m⟩ =
      (fun h => ⟨some u, some d, m, some ⟨r, h⟩, true, false⟩) <$> w.liveHash st (some p) r := by
  have hd := FileUri.displayPath_pathUri hu
  cases hsplit : FileUri.displayPath u with
  | error e => rw [hsplit] at hd; cases hd
  | ok d =>
    refine ⟨d, ?_⟩
    cases hl : w.liveHash st (some p) r <;>
      simp [Location.ofLive, hu, hsplit, hl, Except.mapError, Functor.map, Except.map, bind,
        Except.bind, pure, Except.pure]

/-! ## The taint side -/

/-- A taint location whose file reads as a text is present when its range has code there, and
matches when the fingerprint of that code is its hash. -/
theorem Location.ofTaint_of_text {w : Workspace} {folder q u t h : Text} {c : Cache}
    (r : TextRange) (m : Option Text) (hu : FileUri.joinUri folder q = .ok u)
    (hc : c.Consistent w.disk) (hread : Snapshot.read c.settings w.disk u = .ok (.readable t)) :
    ∃ c', Location.ofTaint w folder ⟨some q, some ⟨r, h⟩, m⟩ c =
      (match r.codePrint t with
        | none => (Except.ok ⟨some u, some q, m, some ⟨r, h⟩, false, false⟩ : Except Fault Location)
        | some e =>
          (fun f => ⟨some u, some q, m, some ⟨r, h⟩, true, f == h⟩) <$>
            e.mapError Fault.unencodable).map
        (·, c') := by
  -- the cache answers with the code of the range in the text a fresh read gives
  obtain ⟨c', hca⟩ := hc.codeAt_of_read (r := some r) hread
  have hcode : (Snapshot.readable t).codeOf (some r) = r.codeIn t := rfl
  rw [hcode] at hca
  -- the location then logs whether its code was found
  refine ⟨c'.note (Location.taintMissRecords u (r.codeIn t)), ?_⟩
  simp only [Location.ofTaint, Build.bind_apply, Build.ofExcept, hu, Except.mapError, Except.map,
    Build.codeAt, Option.map_some, hca, TextRange.codePrint]
  cases r.codeIn t with
  | none => rfl
  | some code =>
    cases hf : fingerprint code <;>
      simp [Build.fingerprint, Build.ofExcept, Build.bind_apply, Build.map_apply, hf,
        Except.mapError, Except.map]

/-! ## The two sides agree -/

/-- **The live hash is what the taint check compares.** A file within the size limit whose bytes
the codec decodes to `t` is named by a path `p` on the live side and by a relative path `q` in a
folder on the taint side. Both sides stop exactly when the code of the range has a surrogate;
otherwise the live location carries a hash that is non-empty exactly when the taint location with
that hash finds the range's code, and then matches. -/
theorem live_hash_agrees_with_taint_check {w : Workspace} {st : Settings} {cd : Codec}
    {names loc : List Bytes} {bs : Bytes} {t p folder q u : Text} {c : Cache}
    (hcd : st.codec? = some cd) (htext : cd.isText = true)
    (hu : FileUri.joinUri folder q = .ok u)
    (hpath : FileUri.toPath u = .ok (PosixPath.absolute w.cwd (PosixPath.ofText p)))
    (hnames : (PosixPath.absolute w.cwd (PosixPath.ofText p)).systemNames? = .ok names)
    (hfile : w.disk.resolve names = .ok (loc, .file bs))
    (hsize : bs.length ≤ st.maxFileSizeBytes) (hdecode : cd.decode? bs = some t)
    (hc : c.Consistent w.disk) (hst : c.settings = st) (r : TextRange) (m m' : Option Text) :
    ((Location.ofLive w st ⟨some p, some r, m⟩).isOk ↔ ∀ code ∈ r.codeIn t, code.NoSurrogate) ∧
    (∀ h, (Location.ofTaint w folder ⟨some q, some ⟨r, h⟩, m'⟩ c).isOk ↔
      ∀ code ∈ r.codeIn t, code.NoSurrogate) ∧
    ∀ l, Location.ofLive w st ⟨some p, some r, m⟩ = .ok l →
      ∃ h, l.textRange = some ⟨r, h⟩ ∧
        ∃ l' c', Location.ofTaint w folder ⟨some q, some ⟨r, h⟩, m'⟩ c = .ok (l', c') ∧
          l'.present = !h.isEmpty ∧ l'.codeMatches = !h.isEmpty := by
  -- the cache decodes the file's bytes; reading the path directly also translates line breaks
  have hread : Snapshot.read c.settings w.disk u = .ok (.readable t) := by
    rw [hst, Snapshot.read_of_file hpath hnames hfile hsize,
      Snapshot.decodeWith_of_decode hcd htext hdecode]
  have hlive : w.readText st p = .ok (some (Text.translateNewlines t)) := by
    rw [Workspace.readText_of_file hcd htext hnames hfile, hdecode]
    rfl
  obtain ⟨uri, huri⟩ := FileUri.pathUri_of_systemNames hnames
  obtain ⟨d, hl⟩ : ∃ d, Location.ofLive w st ⟨some p, some r, m⟩ = _ :=
    Location.ofLive_of_path r m huri
  rw [Workspace.liveHash_of_text r hlive, TextRange.codePrint_translateNewlines] at hl
  have ht := fun h => Location.ofTaint_of_text (h := h) r m' hu hc hread
  have hne := @TextRange.ne_nil_of_codePrint r t
  rw [TextRange.noSurrogate_iff_codePrint, hl]
  -- both sides are now functions of the fingerprint of the range's code
  generalize r.codePrint t = o at ht hne ⊢
  cases o with
  | none =>
    refine ⟨by simp [Except.isOk, Except.toBool], fun h => ?_, ?_⟩
    · obtain ⟨c', hc'⟩ := ht h
      simp [hc', Except.isOk, Except.toBool, Except.map]
    · intro l hl'
      cases hl'
      obtain ⟨c', hc'⟩ := ht []
      exact ⟨[], rfl, _, c', hc', rfl, rfl⟩
  | some e =>
    cases e with
    | error e =>
      refine ⟨by simp [Except.isOk, Except.toBool, Except.mapError], fun h => ?_, ?_⟩
      · obtain ⟨c', hc'⟩ := ht h
        simp [hc', Except.isOk, Except.toBool, Except.map, Except.mapError]
      · intro l hl'
        cases hl'
    | ok f =>
      have hf : f.isEmpty = false := List.isEmpty_eq_false_iff.mpr (hne rfl)
      refine ⟨by simp [Except.isOk, Except.toBool, Except.mapError], fun h => ?_, ?_⟩
      · obtain ⟨c', hc'⟩ := ht h
        simp [hc', Except.isOk, Except.toBool, Except.map, Except.mapError]
      · intro l hl'
        cases hl'
        obtain ⟨c', hc'⟩ := ht f
        exact ⟨f, rfl, _, c', hc', by simp [hf], by simp [hf]⟩

/-- A workspace whose one file `/a` holds `x`, a carriage return and line feed, and `y`. -/
def crlfWorkspace : Workspace := ⟨⟨[([[97]], .file [120, 13, 10, 121])]⟩, PosixPath.ofText [47]⟩

/-- The default settings, reading files as UTF-8 under the name `utf8`. -/
def utf8Settings : Settings := { Settings.default with fileEncoding := Text.ofString "utf8" }

theorem utf8Settings_codec : utf8Settings.codec? = some ⟨"utf_8"⟩ := by
  have h : Codec.normalize? (Text.ofString "utf8") = some "utf8" := by decide
  show Codec.lookup? (Text.ofString "utf8") = _
  rw [Codec.lookup?, h, Option.bind_eq_bind, Option.bind_some, Codec.resolve?]
  simp only [String.contains_char_eq]
  decide

/-- The file `/a`, named `a` in the folder `file:///` on the taint side: over both of its lines,
the live hash and the taint check agree although the two sides see different line breaks. -/
theorem live_hash_agrees_on_crlf_file :
    ((Location.ofLive crlfWorkspace utf8Settings ⟨some [97], some ⟨1, 0, 2, 1⟩, none⟩).isOk ↔
        ∀ code ∈ TextRange.codeIn [120, 13, 10, 121] ⟨1, 0, 2, 1⟩, code.NoSurrogate) ∧
      (∀ h, (Location.ofTaint crlfWorkspace (Text.ofString "file:///")
          ⟨some [97], some ⟨⟨1, 0, 2, 1⟩, h⟩, none⟩ (Cache.empty utf8Settings)).isOk ↔
        ∀ code ∈ TextRange.codeIn [120, 13, 10, 121] ⟨1, 0, 2, 1⟩, code.NoSurrogate) ∧
      ∀ l, Location.ofLive crlfWorkspace utf8Settings ⟨some [97], some ⟨1, 0, 2, 1⟩, none⟩ = .ok l →
        ∃ h, l.textRange = some ⟨⟨1, 0, 2, 1⟩, h⟩ ∧
          ∃ l' c', Location.ofTaint crlfWorkspace (Text.ofString "file:///")
              ⟨some [97], some ⟨⟨1, 0, 2, 1⟩, h⟩, none⟩ (Cache.empty utf8Settings) = .ok (l', c') ∧
            l'.present = !h.isEmpty ∧ l'.codeMatches = !h.isEmpty :=
  live_hash_agrees_with_taint_check utf8Settings_codec
    (by decide) (by rfl) (by cbv) (by rfl) (by rfl) (by decide) (by cbv)
    (Cache.consistent_empty utf8Settings) rfl ⟨1, 0, 2, 1⟩ none none

end LocationDrift
