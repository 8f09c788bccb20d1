import Mathlib
import LocationDrift.Proofs.RemoteVerdict

/-!
# The drift verdict of a taint location

A taint location names its file by a path relative to the workspace folder and records, with its
range, the fingerprint of the code that was there. The verdict on it fingerprints the local code of
the range, found through the snapshot cache, and compares the two.

**What building a location does (`Location.ofTaint_of_none`, `Location.ofTaint_of_joined`).**
Without a path nothing is looked up and the cache is left as it was. With one, the path is joined
to the folder, the code of the range is looked up through the cache, and the code's agreement with
the recorded hash (`TaintLocation.agreement`) is taken: only code found at a range is
fingerprinted, so the fingerprint is the one step that can stop.

**Theorem (`taint_location_verdict`).** With a codec that decodes text, from any cache, for a
location whose path has no surrogate: the location is built exactly when the code it fingerprints
has no surrogate, and then it meets `Location.TaintVerdict`: its URI joins its path to the folder,
its file path is the path as given or the placeholder, its range and recorded hash are kept, it is
present exactly when the cache's snapshot of the URI is readable and has code at the range, and it
matches exactly when it also has a range whose hash is the fingerprint of that code. Without a path
the cache is unchanged; a match is present; a range with no hash never matches, since no
fingerprint is empty; and code that differs from the recorded code only in ASCII blanks matches.
-/

namespace LocationDrift

namespace TaintLocation

/-- Whether the code found for a taint location agrees with its recorded hash: only code found at
a range is fingerprinted, and a fingerprint stops on a surrogate. -/
def agreement (code : Option Text) (r : Option HashedRange) : Except Unencodable Bool :=
  match code, r with
  | some t, some r => (fingerprint t).map (· == r.hash)
  | _, _ => .ok false

/-- The agreement is taken exactly when the code it fingerprints has no surrogate. -/
theorem agreement_isOk (code : Option Text) (r : Option HashedRange) :
    (agreement code r).isOk ↔ ∀ t ∈ code, r.isSome → t.NoSurrogate := by
  cases code with
  | none => simp [agreement]
  | some t =>
    cases r with
    | none => simp [agreement]
    | some r =>
      simp only [agreement, Option.mem_def, Option.some.injEq, forall_eq', Option.isSome_some,
        forall_const, ← fingerprint_isOk]
      cases fingerprint t <;> rfl

/-- The code agrees exactly when it was found at a range whose hash is its fingerprint. -/
theorem agreement_eq_ok_true {code : Option Text} {r : Option HashedRange} :
    agreement code r = .ok true ↔
      ∃ t hr, code = some t ∧ r = some hr ∧ fingerprint t = .ok hr.hash := by
  cases code with
  | none => simp [agreement]
  | some t =>
    cases r with
    | none => simp [agreement]
    | some r =>
      simp only [agreement, Option.some.injEq, exists_and_left, exists_eq_left']
      cases hf : fingerprint t with
      | error e => simp [Except.map]
      | ok f => simp [Except.map]

/-- The local code a taint location fingerprints, the code of its range in the snapshot the cache
holds or reads for its URI, has no surrogate. -/
def FingerprintableFrom (w : Workspace) (c : Cache) (folder : Text) (l : TaintLocation) : Prop :=
  ∀ p ∈ l.filePath, ∀ r ∈ l.textRange, ∀ u s c₁, FileUri.joinUri folder p = .ok u →
    c.get w.disk u = .ok (s, c₁) → ∀ code ∈ s.codeAt r.range, code.NoSurrogate

end TaintLocation

namespace Snapshot

/-- The code a snapshot shows at a recorded range is the range's code in its text. -/
theorem codeOf_range_eq_some (s : Snapshot) (r : HashedRange) (code : Text) :
    s.codeOf (some r.range) = some code ↔ ∃ t, s.content? = some t ∧ r.range.codeIn t = some code :=
  Option.bind_eq_some_iff

/-- A snapshot shows code for an optional recorded range exactly when it has a text in which the
range, if any, spans code. -/
theorem codeOf_map_range_isSome (s : Snapshot) (r : Option HashedRange) :
    (s.codeOf (r.map (·.range))).isSome ↔
      ∃ t, s.content? = some t ∧ ∀ hr ∈ r, (hr.range.codeIn t).isSome := by
  rw [codeOf_isSome]
  cases r <;> simp

end Snapshot

/-! ## Building a taint location -/

section Building

variable {w : Workspace} {folder : Text} {l : TaintLocation}

/-- Without a path a taint location looks nothing up: it shows the placeholder, keeps its range,
and is neither present nor matching. -/
theorem Location.ofTaint_of_none (hp : l.filePath = none) (c : Cache) :
    Location.ofTaint w folder l c =
      .ok (⟨none, some c.settings.unresolvedFilePlaceholder, l.message, l.textRange, false, false⟩,
        c) := by
  simp [Location.ofTaint, hp, Build.bind_apply, Build.settings]

/-- A path that cannot be joined to the folder stops the build. -/
theorem Location.ofTaint_of_unjoined {p : Text} {e : Unencodable} (hp : l.filePath = some p)
    (hu : FileUri.joinUri folder p = .error e) (c : Cache) :
    Location.ofTaint w folder l c = .error (.unencodable e) := by
  simp [Location.ofTaint, hp, hu, Build.bind_apply, Build.ofExcept, Except.mapError, Except.map]

/-- With a joined path, building a taint location looks up the code of its range through the
cache, then takes the code's agreement with the recorded hash, and logs a miss. -/
theorem Location.ofTaint_of_joined {p u : Text} (hp : l.filePath = some p)
    (hu : FileUri.joinUri folder p = .ok u) (c : Cache) :
    Location.ofTaint w folder l c =
      match c.codeAt w.disk (some u) (l.textRange.map (·.range)) with
      | .error e => .error e
      | .ok (code, c') =>
        ((TaintLocation.agreement code l.textRange).mapError Fault.unencodable).map fun agrees =>
          (⟨some u, some p, l.message, l.textRange, code.isSome, agrees⟩,
            c'.note (Location.taintMissRecords u code)) := by
  obtain ⟨p', r, m⟩ := l
  simp only at hp
  subst hp
  simp only [Location.ofTaint, Build.bind_apply, Build.ofExcept, hu, Except.mapError, Except.map,
    Build.codeAt, Build.fingerprint]
  cases c.codeAt w.disk (some u) (r.map (·.range)) with
  | error e => rfl
  | ok q =>
    obtain ⟨code, c'⟩ := q
    -- only code found at a range is fingerprinted
    cases code with
    | none => cases r <;> rfl
    | some t =>
      cases r with
      | none => rfl
      | some r =>
        cases hf : fingerprint t <;> simp only [TaintLocation.agreement, hf] <;> rfl

/-- With a codec that decodes text, building a taint location whose path has no surrogate, from
any cache, stops only on the fingerprint of its code. -/
theorem Location.ofTaint_isOk_from_any {c : Cache} {cd : Codec} (hcd : c.settings.codec? = some cd)
    (htext : cd.isText = true) (hpath : ∀ p ∈ l.filePath, p.NoSurrogate) :
    (Location.ofTaint w folder l c).isOk ↔ l.FingerprintableFrom w c folder := by
  cases hp : l.filePath with
  | none =>
    rw [Location.ofTaint_of_none hp]
    simp [TaintLocation.FingerprintableFrom, hp]
  | some p =>
    obtain ⟨u, hu⟩ := Except.isOk_iff.mp ((FileUri.joinUri_isOk folder p).mpr (hpath p hp))
    obtain ⟨s, c₁, hg⟩ : ∃ s c₁, c.get w.disk u = .ok (s, c₁) := Cache.get_isOk hcd htext
    have hca : c.codeAt w.disk (some u) (l.textRange.map (·.range)) =
        .ok (s.codeOf (l.textRange.map (·.range)), c₁) :=
      Cache.codeAt_some_eq_ok.mpr ⟨s, hg, rfl⟩
    -- the path and the snapshot are the only ones the condition can speak of
    have hcond : l.FingerprintableFrom w c folder ↔
        ∀ r ∈ l.textRange, ∀ code ∈ s.codeAt r.range, code.NoSurrogate := by
      constructor
      · intro h r hr
        exact h p hp r hr u s c₁ hu hg
      · intro h p' hp' r hr u' s' c₂ hu' hg'
        rw [hp, Option.mem_def, Option.some.injEq] at hp'
        subst hp'
        rw [hu, Except.ok.injEq] at hu'
        subst hu'
        cases Cache.get_unique hg hg'
        exact h r hr
    rw [Location.ofTaint_of_joined hp hu, hca, hcond]
    dsimp only
    rw [Except.isOk_map, Except.isOk_mapError, TaintLocation.agreement_isOk]
    cases l.textRange with
    | none => simp
    | some r => simp [Snapshot.codeOf]

end Building

/-! ## The verdict -/

/-- The drift verdict on a taint location, read against the cache it was built from: the URI
joining its path to the folder, none without a path; its path as given, or the placeholder; its
message; its range with its recorded hash; present exactly when the cache's snapshot of the URI is
readable and the range, if any, has code in its text; matching exactly when there is also a range
whose hash is the fingerprint of that code. -/
structure Location.TaintVerdict (w : Workspace) (c : Cache) (folder : Text) (l : TaintLocation)
    (loc : Location) : Prop where
  uri : loc.uri = l.filePath.bind fun p => (FileUri.joinUri folder p).toOption
  filePath : loc.filePath = some (l.filePath.getD c.settings.unresolvedFilePlaceholder)
  message : loc.message = l.message
  range : loc.textRange = l.textRange
  present_iff : loc.present = true ↔ ∃ u s c₁ t, loc.uri = some u ∧ c.get w.disk u = .ok (s, c₁) ∧
    s.content? = some t ∧ ∀ r ∈ l.textRange, (r.range.codeIn t).isSome
  codeMatches_iff : loc.codeMatches = true ↔ ∃ u s c₁ t r code, loc.uri = some u ∧
    c.get w.disk u = .ok (s, c₁) ∧ s.content? = some t ∧ l.textRange = some r ∧
    r.range.codeIn t = some code ∧ fingerprint code = .ok r.hash

section Verdict

variable {w : Workspace} {c c' : Cache} {folder : Text} {l : TaintLocation} {loc : Location}

/-- A built taint location meets its verdict, from any cache. -/
theorem Location.taintVerdict_of_eq_ok (h : Location.ofTaint w folder l c = .ok (loc, c')) :
    loc.TaintVerdict w c folder l := by
  cases hp : l.filePath with
  | none =>
    rw [Location.ofTaint_of_none hp, Except.ok.injEq, Prod.mk.injEq] at h
    obtain ⟨rfl, -⟩ := h
    refine ⟨by simp [hp], by simp [hp], rfl, rfl, ?_, ?_⟩ <;> simp
  | some p =>
    cases hu : FileUri.joinUri folder p with
    | error e =>
      rw [Location.ofTaint_of_unjoined hp hu] at h
      cases h
    | ok u =>
      rw [Location.ofTaint_of_joined hp hu] at h
      cases hca : c.codeAt w.disk (some u) (l.textRange.map (·.range)) with
      | error e =>
        rw [hca] at h
        cases h
      | ok q =>
        obtain ⟨code, c₁⟩ := q
        obtain ⟨s, hg, rfl⟩ := Cache.codeAt_some_eq_ok.mp hca
        rw [hca] at h
        dsimp only at h
        cases hag : TaintLocation.agreement (s.codeOf (l.textRange.map (·.range))) l.textRange with
        | error e =>
          rw [hag] at h
          cases h
        | ok agrees =>
          rw [hag] at h
          cases h
          refine ⟨by simp [hp, hu, Except.toOption], by simp [hp], rfl, rfl, ?_, ?_⟩
          · -- present: the snapshot the lookup found has code at the range
            show (s.codeOf (l.textRange.map (·.range))).isSome = true ↔ _
            rw [Snapshot.codeOf_map_range_isSome]
            constructor
            · rintro ⟨t, ht, hcode⟩
              exact ⟨u, s, c₁, t, rfl, hg, ht, hcode⟩
            · rintro ⟨u', s', c₂, t, hu', hg', ht, hcode⟩
              cases hu'
              cases Cache.get_unique hg hg'
              exact ⟨t, ht, hcode⟩
          · -- matching: the agreement is true exactly when the fingerprint is the recorded hash
            show agrees = true ↔ _
            rw [← Except.ok.injEq (ε := Unencodable), ← hag, TaintLocation.agreement_eq_ok_true]
            constructor
            · rintro ⟨code, r, hcode, hr, hf⟩
              rw [hr, Option.map_some, Snapshot.codeOf_range_eq_some] at hcode
              obtain ⟨t, ht, hct⟩ := hcode
              exact ⟨u, s, c₁, t, r, code, rfl, hg, ht, hr, hct, hf⟩
            · rintro ⟨u', s', c₂, t, r, code, hu', hg', ht, hr, hct, hf⟩
              cases hu'
              cases Cache.get_unique hg hg'
              refine ⟨code, r, ?_, hr, hf⟩
              rw [hr, Option.map_some, Snapshot.codeOf_range_eq_some]
              exact ⟨t, ht, hct⟩

namespace Location.TaintVerdict

/-- A match is present, so the location passes the check of its flags. -/
theorem flags_checked (hv : loc.TaintVerdict w c folder l) :
    (loc.codeMatches && !loc.present) = false := by
  cases hm : loc.codeMatches with
  | false => rfl
  | true =>
    obtain ⟨u, s, c₁, t, r, code, hu, hg, ht, hr, hct, -⟩ := hv.codeMatches_iff.mp hm
    have hp : loc.present = true := by
      refine hv.present_iff.mpr ⟨u, s, c₁, t, hu, hg, ht, fun r' hr' => ?_⟩
      rw [hr, Option.mem_def, Option.some.injEq] at hr'
      subst hr'
      simp [hct]
    simp [hp]

/-- A range recorded with no hash never matches: no fingerprint is empty. -/
theorem codeMatches_of_empty_hash (hv : loc.TaintVerdict w c folder l) {r : HashedRange}
    (hr : l.textRange = some r) (hempty : r.hash = []) : loc.codeMatches = false := by
  cases hm : loc.codeMatches with
  | false => rfl
  | true =>
    obtain ⟨u, s, c₁, t, r', code, -, -, -, hr', -, hf⟩ := hv.codeMatches_iff.mp hm
    rw [hr, Option.some.injEq] at hr'
    subst hr'
    exact absurd hempty (fingerprint_ne_nil hf)

/-- Local code that differs from the recorded code only in ASCII blanks matches. -/
theorem codeMatches_of_blanks (hv : loc.TaintVerdict w c folder l) {r : HashedRange}
    (hr : l.textRange = some r) {recorded : Text} (hrec : fingerprint recorded = .ok r.hash)
    {u t code : Text} {s : Snapshot} {c₁ : Cache} (hu : loc.uri = some u)
    (hg : c.get w.disk u = .ok (s, c₁)) (ht : s.content? = some t)
    (hcode : r.range.codeIn t = some code) (hblanks : code.withoutBlanks = recorded.withoutBlanks) :
    loc.codeMatches = true :=
  hv.codeMatches_iff.mpr ⟨u, s, c₁, t, r, code, hu, hg, ht, hr, hcode,
    (fingerprint_congr hblanks).trans hrec⟩

end Location.TaintVerdict

/-- **The verdict on a taint location.** With a codec that decodes text, from any cache, held
snapshots and stale ones alike, for a location whose path has no surrogate: the location is built
exactly when the code it fingerprints has no surrogate; a built location meets its verdict
(`Location.TaintVerdict`); without a path the cache is left as it was; a match is present; a range
with no hash never matches; and local code that differs from the recorded code only in ASCII
blanks matches. -/
theorem taint_location_verdict {cd : Codec} (hcd : c.settings.codec? = some cd)
    (htext : cd.isText = true) (folder : Text) (l : TaintLocation)
    (hpath : ∀ p ∈ l.filePath, p.NoSurrogate) :
    ((Location.ofTaint w folder l c).isOk ↔ l.FingerprintableFrom w c folder) ∧
      ∀ loc c', Location.ofTaint w folder l c = .ok (loc, c') →
        loc.TaintVerdict w c folder l ∧ (l.filePath = none → c' = c) ∧
          (loc.codeMatches && !loc.present) = false ∧
          ∀ r ∈ l.textRange, (r.hash = [] → loc.codeMatches = false) ∧
            ∀ recorded u s c₁ t code, fingerprint recorded = .ok r.hash → loc.uri = some u →
              c.get w.disk u = .ok (s, c₁) → s.content? = some t → r.range.codeIn t = some code →
              code.withoutBlanks = recorded.withoutBlanks → loc.codeMatches = true := by
  refine ⟨Location.ofTaint_isOk_from_any hcd htext hpath, fun loc c' h => ?_⟩
  have hv := Location.taintVerdict_of_eq_ok h
  refine ⟨hv, fun hp => ?_, hv.flags_checked, fun r hr => ⟨hv.codeMatches_of_empty_hash hr,
    fun recorded u s c₁ t code hrec hu hg ht hcode hblanks =>
      hv.codeMatches_of_blanks hr hrec hu hg ht hcode hblanks⟩⟩
  rw [Location.ofTaint_of_none hp, Except.ok.injEq, Prod.mk.injEq] at h
  exact h.2.symm

end Verdict

/-- The first character of the file `a` of a workspace, with no recorded hash. -/
def firstCharTaint : TaintLocation := ⟨some [97], some ⟨⟨1, 0, 1, 1⟩, []⟩, none⟩

/-- The verdict on the first character of the file `/a` of the workspace, whose text is `x`, a
carriage return and line feed, and `y`, named `a` in the folder `file:///`. -/
theorem taint_location_verdict_on_crlf_file :
    ((Location.ofTaint crlfWorkspace (Text.ofString "file:///") firstCharTaint
        (Cache.empty utf8Settings)).isOk ↔
        firstCharTaint.FingerprintableFrom crlfWorkspace (Cache.empty utf8Settings)
          (Text.ofString "file:///")) ∧
      ∀ loc c', Location.ofTaint crlfWorkspace (Text.ofString "file:///") firstCharTaint
          (Cache.empty utf8Settings) = .ok (loc, c') →
        loc.TaintVerdict crlfWorkspace (Cache.empty utf8Settings) (Text.ofString "file:///")
            firstCharTaint ∧
          (firstCharTaint.filePath = none → c' = Cache.empty utf8Settings) ∧
          (loc.codeMatches && !loc.present) = false ∧
          ∀ r ∈ firstCharTaint.textRange, (r.hash = [] → loc.codeMatches = false) ∧
            ∀ recorded u s c₁ t code, fingerprint recorded = .ok r.hash → loc.uri = some u →
              (Cache.empty utf8Settings).get crlfWorkspace.disk u = .ok (s, c₁) →
              s.content? = some t → r.range.codeIn t = some code →
              code.withoutBlanks = recorded.withoutBlanks → loc.codeMatches = true :=
  taint_location_verdict utf8Settings_codec (by decide) (Text.ofString "file:///") firstCharTaint
    (by decide)

/-- A workspace whose one file `/a` holds the UTF-7 text `+2AA-`, a lone high surrogate. -/
def loneSurrogateWorkspace : Workspace :=
  ⟨⟨[([[97]], .file [43, 50, 65, 65, 45])]⟩, PosixPath.ofText [47]⟩

/-- The default settings, reading files as UTF-7 under the name `utf7`. -/
def utf7Settings : Settings := { Settings.default with fileEncoding := Text.ofString "utf7" }

theorem utf7Settings_codec : utf7Settings.codec? = some ⟨"utf_7"⟩ := by
  have h : Codec.normalize? (Text.ofString "utf7") = some "utf7" := by decide
  show Codec.lookup? (Text.ofString "utf7") = _
  rw [Codec.lookup?, h, Option.bind_eq_bind, Option.bind_some, Codec.resolve?]
  simp only [String.contains_char_eq]
  decide

/-- UTF-7 lets a lone surrogate through: the file `/a` reads as a lone high surrogate. -/
theorem read_lone_surrogate_file :
    Snapshot.read utf7Settings loneSurrogateWorkspace.disk (Text.ofString "file:/a") =
      .ok (.readable [0xD800]) := by
  have hpath :
      FileUri.toPath (Text.ofString "file:/a") = .ok (PosixPath.ofText (Text.ofString "/a")) := by
    cbv
  have hnames : (PosixPath.ofText (Text.ofString "/a")).systemNames? = .ok [[97]] := by rfl
  have hfile :
      loneSurrogateWorkspace.disk.resolve [[97]] = .ok ([[97]], .file [43, 50, 65, 65, 45]) := by
    rfl
  rw [Snapshot.read_of_file hpath hnames hfile (by decide),
    Snapshot.decodeWith_of_decode utf7Settings_codec (by decide) (by cbv)]

/-- A taint location is not built from every file: the code of its whole-file range is a lone
surrogate, which has no fingerprint, and building the location stops. -/
theorem taint_location_faults_on_lone_surrogate :
    Location.ofTaint loneSurrogateWorkspace (Text.ofString "file:///")
        ⟨some [97], some ⟨⟨0, 0, 0, 0⟩, []⟩, none⟩ (Cache.empty utf7Settings) =
      .error (.unencodable ⟨0, 1, 0xD800⟩) := by
  have hget : (Cache.empty utf7Settings).get loneSurrogateWorkspace.disk (Text.ofString "file:/a") =
      .ok (.readable [0xD800],
        (Cache.empty utf7Settings).remember (Text.ofString "file:/a") (.readable [0xD800])) := by
    rw [Cache.get_of_find?_none (Cache.find?_empty _ _), Cache.settings_empty,
      Snapshot.take_of_read_readable read_lone_surrogate_file]
    rfl
  rw [Location.ofTaint_of_joined (p := [97]) (u := Text.ofString "file:/a") rfl (by rfl),
    Cache.codeAt_some_eq_ok.mpr ⟨_, hget, rfl⟩]
  rfl

end LocationDrift
