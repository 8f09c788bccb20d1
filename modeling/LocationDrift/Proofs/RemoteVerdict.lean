import LocationDrift.Proofs.Faults

/-!
# The drift verdict of a remote location

A remote location carries the snippet of code the server last saw, and the verdict on it compares
that snippet with the local code of its range, found through the snapshot cache, by exact equality.

**What building a location does (`Location.ofRemote_eq_ok`).** It hashes the snippet when there is
a range (`RemoteLocation.hashedRange`), looks up the code of the range through the cache, and
assembles the location from the two. The hash stops on a lone surrogate in the snippet; with a codec
that decodes text the lookup answers from any cache (`Cache.codeAt_isOk`), held snapshots and stale
ones alike, so nothing else stops it. What it logs on the way does not change what the lookup sees
(`Cache.get_note_eq_ok`).

**Theorem (`remote_location_verdict`).** With a codec that decodes text, from any cache, a remote
location is built exactly when the snippet it hashes has no surrogate, and then it meets
`Location.RemoteVerdict`: its URI is that of its editor path, its file path that URI or the
placeholder, its range carries the snippet's fingerprint, and it is present exactly when the
cache's snapshot of the URI is readable and has code at the range, and matches exactly when it also
has a range and a snippet equal to that code. Hence a match is present, so the location passes the
check of its flags; the whole-file sentinel compares the snippet with the whole text; a range with
only one line 0 is never present.

**Theorem (`root_verdict_eq_location_verdict`).** The root of a remote issue is judged as the
location of its path, range and snippet would be, from the same cache: same URI, same verdict.
-/

namespace LocationDrift

/-! ## Ranges and their code -/

namespace TextRange

/-- The whole-file sentinel spans all of a text. -/
theorem codeIn_of_isWholeFile {r : TextRange} (h : r.isWholeFile = true) (t : Text) :
    r.codeIn t = some t := by
  simp [codeIn, h]

/-- A range with one line 0 and not the other spans nothing. -/
theorem codeIn_of_half_sentinel {r : TextRange} (h : (r.startLine = 0) ≠ (r.endLine = 0))
    (t : Text) : r.codeIn t = none := by
  have hwhole : r.isWholeFile = false := by
    simp only [isWholeFile, Bool.and_eq_false_iff, beq_eq_false_iff_ne, ne_eq]
    by_cases hs : r.startLine = 0
    · exact .inr fun he => h (by simp [hs, he])
    · exact .inl hs
  -- a line 0 at the start is out of bounds, and at the end it comes before the start
  have hbounds : r.startLine < 1 ∨ r.endLine < r.startLine := by
    by_cases hs : r.startLine = 0
    · omega
    · have he : r.endLine = 0 := by
        by_contra he
        exact h (by simp [hs, he])
      omega
  rw [codeIn, if_neg (by simp [hwhole]), cut,
    if_pos (hbounds.elim Or.inl fun hlt => Or.inr (Or.inl hlt))]

end TextRange

namespace Snapshot

@[simp] theorem codeOf_none (s : Snapshot) : s.codeOf none = s.content? := rfl

theorem codeOf_some (s : Snapshot) (r : TextRange) : s.codeOf (some r) = s.content? >>= r.codeIn :=
  rfl

/-- A snapshot shows code for an optional range exactly when it has a text in which the range, if
any, spans code. -/
theorem codeOf_isSome (s : Snapshot) (r : Option TextRange) :
    (s.codeOf r).isSome ↔ ∃ t, s.content? = some t ∧ ∀ r' ∈ r, (r'.codeIn t).isSome := by
  cases s with
  | readable t => cases r <;> simp [codeOf, codeAt]
  | unreadable f => cases r <;> simp [codeOf, codeAt]

end Snapshot

/-! ## Building a remote location -/

namespace RemoteLocation

/-- The hash a remote range carries: the fingerprint of the snippet, empty without one. -/
def snippetHash (l : RemoteLocation) : Except Unencodable Text :=
  l.codeSnippet.elim (.ok []) fingerprint

/-- A remote location's range with the hash of its snippet; without a range nothing is hashed. -/
def hashedRange (l : RemoteLocation) : Except Unencodable (Option HashedRange) :=
  match l.textRange with
  | none => .ok none
  | some r => (fun h => some ⟨r, h⟩) <$> l.snippetHash

/-- The range's hash is taken exactly when the snippet it hashes has no surrogate. -/
theorem hashedRange_isOk (l : RemoteLocation) : l.hashedRange.isOk ↔ l.Fingerprintable := by
  unfold hashedRange Fingerprintable snippetHash
  cases hr : l.textRange with
  | none => simp
  | some r =>
    cases hs : l.codeSnippet with
    | none => simp [Functor.map, Except.map]
    | some s =>
      simp only [Option.elim, Option.isSome_some, Option.mem_def, Option.some.injEq, forall_eq',
        forall_const, ← fingerprint_isOk]
      cases fingerprint s <;> rfl

/-- A hashed range is the location's range with the snippet's hash. -/
theorem hashedRange_spec {l : RemoteLocation} {hashed : Option HashedRange}
    (h : l.hashedRange = .ok hashed) :
    hashed.map (·.range) = l.textRange ∧ ∀ hr ∈ hashed, l.snippetHash = .ok hr.hash := by
  unfold hashedRange at h
  cases hr : l.textRange with
  | none =>
    rw [hr] at h
    cases h
    simp
  | some r =>
    rw [hr] at h
    cases hs : l.snippetHash with
    | error e => rw [hs] at h; cases h
    | ok k =>
      rw [hs] at h
      cases h
      simp

end RemoteLocation

section Building

variable {w : Workspace} {folder : Option Text} {l : RemoteLocation} {c c' : Cache}

/-- Building a remote location is one computation whatever its range and snippet: resolve its
path, hash the range, look up its code, log a miss, read the settings, assemble. -/
theorem Location.ofRemote_eq_bind (w : Workspace) (folder : Option Text) (l : RemoteLocation) :
    Location.ofRemote w folder l =
      Build.editorUri Build.normalizerLogger w.cwd l.ideFilePath folder >>= fun uri =>
        Build.ofExcept (l.hashedRange.mapError Fault.unencodable) >>= fun hashed =>
          Build.codeAt w uri l.textRange >>= fun code =>
            Build.logAll (Location.remoteMissRecords uri code) >>= fun _ =>
              Build.settings >>= fun settings =>
                pure ⟨uri, some (uri.getD settings.unresolvedFilePlaceholder), l.message, hashed,
                  code.isSome,
                  code.isSome && l.textRange.isSome && l.codeSnippet.isSome &&
                    l.codeSnippet == code⟩ := by
  obtain ⟨p, range, snippet, m⟩ := l
  cases range with
  | none => rfl
  | some r =>
    cases snippet with
    | none => rfl
    | some s =>
      -- only a fingerprint can stop, and it stops the same way on both sides
      funext c
      simp only [Location.ofRemote, RemoteLocation.hashedRange, RemoteLocation.snippetHash,
        Option.elim, Build.fingerprint]
      rw [Build.editorUri_bind_apply, Build.editorUri_bind_apply, Build.bind_apply,
        Build.bind_apply, Build.map_apply]
      cases fingerprint s <;> rfl

/-- **Building a remote location** takes its range's hash, looks up the code of the range through
the cache, after the records of resolving its path, and assembles the location from the two; a
miss is logged last. -/
theorem Location.ofRemote_eq_ok {loc : Location} :
    Location.ofRemote w folder l c = .ok (loc, c') ↔
      ∃ hashed code c₁, l.hashedRange = .ok hashed ∧
        (c.note (FileUri.resolveRecords Build.normalizerLogger w.cwd l.ideFilePath folder)).codeAt
          w.disk (FileUri.ofEditorPath? w.cwd l.ideFilePath folder) l.textRange = .ok (code, c₁) ∧
        c' = c₁.note (Location.remoteMissRecords (FileUri.ofEditorPath? w.cwd l.ideFilePath folder)
          code) ∧
        loc = ⟨FileUri.ofEditorPath? w.cwd l.ideFilePath folder,
          some ((FileUri.ofEditorPath? w.cwd l.ideFilePath folder).getD
            c.settings.unresolvedFilePlaceholder),
          l.message, hashed, code.isSome,
          code.isSome && l.textRange.isSome && l.codeSnippet.isSome && l.codeSnippet == code⟩ := by
  rw [Location.ofRemote_eq_bind, Build.editorUri_bind_apply, Build.bind_apply]
  cases hh : l.hashedRange with
  | error e => simp [Build.ofExcept, Except.mapError, Except.map]
  | ok hashed =>
    simp only [Build.ofExcept, Except.mapError, Except.map, Build.bind_apply, Build.codeAt]
    cases hca : (c.note (FileUri.resolveRecords Build.normalizerLogger w.cwd l.ideFilePath
        folder)).codeAt w.disk (FileUri.ofEditorPath? w.cwd l.ideFilePath folder) l.textRange with
    | error e => simp
    | ok p =>
      obtain ⟨code, c₁⟩ := p
      have hst : c₁.settings = c.settings := by rw [Cache.settings_of_codeAt hca, Cache.note_settings]
      simp only [Build.logAll_apply, Build.settings, Build.pure_apply, Except.ok.injEq,
        Prod.mk.injEq, Cache.note_settings, hst]
      constructor
      · rintro ⟨rfl, rfl⟩
        exact ⟨hashed, code, c₁, rfl, ⟨rfl, rfl⟩, rfl, rfl⟩
      · rintro ⟨_, _, _, rfl, ⟨rfl, rfl⟩, rfl, rfl⟩
        exact ⟨rfl, rfl⟩

/-- With a codec that decodes text, building a remote location from any cache stops only on its
range's hash. -/
theorem Location.ofRemote_isOk_from_any {cd : Codec} (hcd : c.settings.codec? = some cd)
    (htext : cd.isText = true) : (Location.ofRemote w folder l c).isOk ↔ l.Fingerprintable := by
  rw [← RemoteLocation.hashedRange_isOk]
  constructor
  · intro h
    obtain ⟨⟨loc, c₁⟩, hl⟩ := Except.isOk_iff.mp h
    obtain ⟨hashed, -, -, hh, -⟩ := Location.ofRemote_eq_ok.mp hl
    rw [hh]
    rfl
  · intro h
    obtain ⟨hashed, hh⟩ := Except.isOk_iff.mp h
    obtain ⟨code, c₁, hca⟩ : ∃ code c₁, (c.note (FileUri.resolveRecords Build.normalizerLogger
        w.cwd l.ideFilePath folder)).codeAt w.disk
        (FileUri.ofEditorPath? w.cwd l.ideFilePath folder) l.textRange = .ok (code, c₁) :=
      Cache.codeAt_isOk (c := c.note _) hcd htext _ _
    rw [Location.ofRemote_eq_ok.mpr ⟨hashed, code, c₁, hh, hca, rfl, rfl⟩]
    rfl

end Building

/-! ## The verdict -/

/-- The drift verdict on a remote location, read against the cache it was built from: the URI of
its editor path, or the placeholder as its file path without one; its message; its range carrying
the snippet's fingerprint; present exactly when the cache's snapshot of the URI is readable and the
range, if any, has code in its text; matching exactly when there is also a range and a snippet equal
to that code. -/
structure Location.RemoteVerdict (w : Workspace) (c : Cache) (folder : Option Text)
    (l : RemoteLocation) (loc : Location) : Prop where
  uri : loc.uri = FileUri.ofEditorPath? w.cwd l.ideFilePath folder
  filePath : loc.filePath = some (loc.uri.getD c.settings.unresolvedFilePlaceholder)
  message : loc.message = l.message
  range : loc.textRange.map (·.range) = l.textRange
  hash : ∀ hr ∈ loc.textRange, l.snippetHash = .ok hr.hash
  present_iff : loc.present = true ↔ ∃ u s c₁ t, loc.uri = some u ∧ c.get w.disk u = .ok (s, c₁) ∧
    s.content? = some t ∧ ∀ r ∈ l.textRange, (r.codeIn t).isSome
  codeMatches_iff : loc.codeMatches = true ↔ ∃ u s c₁ t r, loc.uri = some u ∧
    c.get w.disk u = .ok (s, c₁) ∧ s.content? = some t ∧ l.textRange = some r ∧
    l.codeSnippet.isSome ∧ l.codeSnippet = r.codeIn t

namespace Snapshot

/-- The flag a remote location computes from the code its snapshot shows: there is a range, a
snippet, and the snippet is that code. -/
theorem codeOf_matches (s : Snapshot) (r : Option TextRange) (snippet : Option Text) :
    ((s.codeOf r).isSome && r.isSome && snippet.isSome && snippet == s.codeOf r) = true ↔
      ∃ t r', s.content? = some t ∧ r = some r' ∧ snippet.isSome ∧ snippet = r'.codeIn t := by
  cases s with
  | unreadable f => cases r <;> simp [codeOf, codeAt]
  | readable t =>
    cases r with
    | none => simp
    | some r' =>
      cases snippet with
      | none => simp
      | some x =>
        simp only [codeOf, codeAt, content?_readable, Option.bind_eq_bind, Option.bind_some,
          Option.isSome_some, Bool.and_true, beq_iff_eq, Bool.and_eq_true, Option.some.injEq,
          exists_and_left, exists_eq_left', true_and]
        constructor
        · rintro ⟨-, h⟩
          exact h
        · intro h
          rw [← h]
          exact ⟨rfl, rfl⟩

end Snapshot

section Verdict

variable {w : Workspace} {c c' : Cache} {folder : Option Text} {l : RemoteLocation} {loc : Location}

/-- Two lookups of one URI from one cache see one snapshot. -/
theorem Cache.get_unique {disk : Disk} {u : Text} {s s' : Snapshot} {c₁ c₂ : Cache}
    (h : c.get disk u = .ok (s, c₁)) (h' : c.get disk u = .ok (s', c₂)) : s' = s := by
  rw [h] at h'
  cases h'
  rfl

/-- A built remote location meets its verdict, from any cache. -/
theorem Location.remoteVerdict_of_eq_ok (h : Location.ofRemote w folder l c = .ok (loc, c')) :
    loc.RemoteVerdict w c folder l := by
  obtain ⟨hashed, code, c₁, hh, hca, -, rfl⟩ := Location.ofRemote_eq_ok.mp h
  obtain ⟨hrange, hhash⟩ := RemoteLocation.hashedRange_spec hh
  -- the flags read the code the lookup found, which is none without a URI
  cases huri : FileUri.ofEditorPath? w.cwd l.ideFilePath folder with
  | none =>
    rw [huri, Cache.codeAt_none] at hca
    cases hca
    refine ⟨huri.symm, rfl, rfl, hrange, hhash, ?_, ?_⟩ <;> simp
  | some u =>
    rw [huri] at hca
    obtain ⟨s, hg₁, rfl⟩ := Cache.codeAt_some_eq_ok.mp hca
    -- the records of resolving the path do not change the snapshot the lookup sees
    obtain ⟨c', hg⟩ := (Cache.get_note_eq_ok _).mp ⟨c₁, hg₁⟩
    refine ⟨huri.symm, rfl, rfl, hrange, hhash, ?_, ?_⟩
    · show (s.codeOf l.textRange).isSome = true ↔ _
      rw [Snapshot.codeOf_isSome]
      constructor
      · rintro ⟨t, ht, hcode⟩
        exact ⟨u, s, c', t, rfl, hg, ht, hcode⟩
      · rintro ⟨u', s', c₁, t, hu, hg', ht, hcode⟩
        cases hu
        cases Cache.get_unique hg hg'
        exact ⟨t, ht, hcode⟩
    · show ((s.codeOf l.textRange).isSome && l.textRange.isSome && l.codeSnippet.isSome &&
        l.codeSnippet == s.codeOf l.textRange) = true ↔ _
      rw [Snapshot.codeOf_matches]
      constructor
      · rintro ⟨t, r, ht, hr, hsnip, heq⟩
        exact ⟨u, s, c', t, r, rfl, hg, ht, hr, hsnip, heq⟩
      · rintro ⟨u', s', c₁, t, r, hu, hg', ht, hr, hsnip, heq⟩
        cases hu
        cases Cache.get_unique hg hg'
        exact ⟨t, r, ht, hr, hsnip, heq⟩

namespace Location.RemoteVerdict

/-- A match is present, so the location passes the check of its flags. -/
theorem flags_checked (hv : loc.RemoteVerdict w c folder l) :
    (loc.codeMatches && !loc.present) = false := by
  cases hm : loc.codeMatches with
  | false => rfl
  | true =>
    obtain ⟨u, s, c₁, t, r, hu, hg, ht, hr, hsnip, heq⟩ := hv.codeMatches_iff.mp hm
    have hp : loc.present = true := by
      refine hv.present_iff.mpr ⟨u, s, c₁, t, hu, hg, ht, fun r' hr' => ?_⟩
      rw [hr, Option.mem_def, Option.some.injEq] at hr'
      subst hr'
      rwa [← heq]
    simp [hp]

/-- A range with one line 0 and not the other is never present. -/
theorem present_of_half_sentinel (hv : loc.RemoteVerdict w c folder l) {r : TextRange}
    (hr : l.textRange = some r) (hhalf : (r.startLine = 0) ≠ (r.endLine = 0)) :
    loc.present = false := by
  cases hp : loc.present with
  | false => rfl
  | true =>
    obtain ⟨u, s, c₁, t, -, -, -, hcode⟩ := hv.present_iff.mp hp
    have := hcode r hr
    rw [TextRange.codeIn_of_half_sentinel hhalf] at this
    cases this

/-- The whole-file sentinel compares the snippet with the whole text of the snapshot. -/
theorem codeMatches_whole_file (hv : loc.RemoteVerdict w c folder l) {r : TextRange}
    (hr : l.textRange = some r) (hwhole : r.isWholeFile = true) :
    loc.codeMatches = true ↔ ∃ u s c₁, loc.uri = some u ∧ c.get w.disk u = .ok (s, c₁) ∧
      l.codeSnippet.isSome ∧ l.codeSnippet = s.content? := by
  rw [hv.codeMatches_iff]
  constructor
  · rintro ⟨u, s, c₁, t, r', hu, hg, ht, hr', hsnip, heq⟩
    rw [hr, Option.some.injEq] at hr'
    subst hr'
    rw [TextRange.codeIn_of_isWholeFile hwhole] at heq
    exact ⟨u, s, c₁, hu, hg, hsnip, heq.trans ht.symm⟩
  · rintro ⟨u, s, c₁, hu, hg, hsnip, heq⟩
    obtain ⟨x, hx⟩ := Option.isSome_iff_exists.mp hsnip
    refine ⟨u, s, c₁, x, r, hu, hg, by rw [← heq, hx], hr, hsnip, ?_⟩
    rw [TextRange.codeIn_of_isWholeFile hwhole, hx]

end Location.RemoteVerdict

/-- **The verdict on a remote location.** With a codec that decodes text, from any cache, held
snapshots and stale ones alike: a remote location is built exactly when the snippet it hashes has
no surrogate; a built location meets its verdict (`Location.RemoteVerdict`); a match is present, so
the check of its flags passes; a range with one line 0 and not the other is never present; and the
whole-file sentinel compares the snippet with the whole text. -/
theorem remote_location_verdict {cd : Codec} (hcd : c.settings.codec? = some cd)
    (htext : cd.isText = true) (folder : Option Text) (l : RemoteLocation) :
    ((Location.ofRemote w folder l c).isOk ↔ l.Fingerprintable) ∧
      ∀ loc c', Location.ofRemote w folder l c = .ok (loc, c') →
        loc.RemoteVerdict w c folder l ∧ (loc.codeMatches && !loc.present) = false ∧
          ∀ r ∈ l.textRange, ((r.startLine = 0) ≠ (r.endLine = 0) → loc.present = false) ∧
            (r.isWholeFile = true → (loc.codeMatches = true ↔ ∃ u s c₁, loc.uri = some u ∧
              c.get w.disk u = .ok (s, c₁) ∧ l.codeSnippet.isSome ∧
                l.codeSnippet = s.content?)) := by
  refine ⟨Location.ofRemote_isOk_from_any hcd htext, fun loc c' h => ?_⟩
  have hv := Location.remoteVerdict_of_eq_ok h
  exact ⟨hv, hv.flags_checked, fun r hr =>
    ⟨hv.present_of_half_sentinel hr, hv.codeMatches_whole_file hr⟩⟩

end Verdict

/-- The file `a` of the workspace with the file `/a`, its first character as the range and `x` as
the snippet. -/
def firstCharLocation : RemoteLocation := ⟨[97], some ⟨1, 0, 1, 1⟩, some [120], none⟩

/-- The verdict on the first character of the file `/a` of the workspace, whose text is `x`, a
carriage return and line feed, and `y`; its snippet `x` has no surrogate. -/
theorem remote_location_verdict_on_crlf_file :
    ((Location.ofRemote crlfWorkspace none firstCharLocation (Cache.empty utf8Settings)).isOk ↔
        firstCharLocation.Fingerprintable) ∧
      ∀ loc c', Location.ofRemote crlfWorkspace none firstCharLocation (Cache.empty utf8Settings) =
          .ok (loc, c') →
        loc.RemoteVerdict crlfWorkspace (Cache.empty utf8Settings) none firstCharLocation ∧
          (loc.codeMatches && !loc.present) = false ∧
          ∀ r ∈ firstCharLocation.textRange,
            ((r.startLine = 0) ≠ (r.endLine = 0) → loc.present = false) ∧
            (r.isWholeFile = true → (loc.codeMatches = true ↔ ∃ u s c₁, loc.uri = some u ∧
              (Cache.empty utf8Settings).get crlfWorkspace.disk u = .ok (s, c₁) ∧
                firstCharLocation.codeSnippet.isSome ∧
                firstCharLocation.codeSnippet = s.content?)) :=
  remote_location_verdict utf8Settings_codec (by decide) none firstCharLocation

/-- A remote location on no path whose one-character range carries a snippet that is a lone high
surrogate. -/
def highSurrogateLocation : RemoteLocation := ⟨[], some ⟨1, 0, 1, 1⟩, some [0xD800], none⟩

/-- A remote location is not built from every snippet: one with a lone surrogate has no
fingerprint, and building the location stops. -/
theorem remote_location_faults_on_high_surrogate :
    Location.ofRemote default none highSurrogateLocation (Cache.empty Settings.default) =
      .error (.unencodable ⟨0, 1, 0xD800⟩) := by
  rfl

/-! ## The root of a remote issue -/

/-- The root of a remote issue as a location: its path, its range and its snippet, with no
message. -/
def RemoteIssue.rootLocation (d : RemoteIssue) : RemoteLocation :=
  ⟨d.ideFilePath, some d.textRange, d.codeSnippet, none⟩

/-- A remote issue's file is the URI of its path, and its verdict reads the code that the lookup of
its root range finds, before its flows are built. -/
theorem DisplayIssue.ofRemote_root {w : Workspace} {folder connectionId : Option Text}
    {req : ShowRequest} {c c₁ : Cache} {issue : DisplayIssue}
    (h : DisplayIssue.ofRemote w folder connectionId req c = .ok (issue, c₁)) :
    ∃ code c₀, (c.note (FileUri.resolveRecords Build.paramsLogger w.cwd
        req.issueDetails.ideFilePath folder)).codeAt w.disk
        (FileUri.ofEditorPath? w.cwd req.issueDetails.ideFilePath folder)
        (some req.issueDetails.textRange) = .ok (code, c₀) ∧
      issue.fileUri = FileUri.ofEditorPath? w.cwd req.issueDetails.ideFilePath folder ∧
      issue.codeMatches = (code.isSome && req.issueDetails.codeSnippet.isSome &&
        req.issueDetails.codeSnippet == code) := by
  unfold DisplayIssue.ofRemote at h
  rw [Build.editorUri_bind_apply] at h
  obtain ⟨code, c₀, hroot, hrest⟩ := Build.bind_eq_ok h
  obtain ⟨flows, c₂, -, hpure⟩ := Build.bind_eq_ok hrest
  cases hpure
  exact ⟨code, c₀, hroot, rfl, rfl⟩

/-- **The root verdict is the location verdict.** From any cache, when a remote issue is built and
so is the location of its path, root range and snippet, the two have one URI and one verdict: the
root is judged as that location would be, for every path, range and snippet. -/
theorem root_verdict_eq_location_verdict (w : Workspace) (folder connectionId : Option Text)
    (req : ShowRequest) (c : Cache) {issue : DisplayIssue} {loc : Location} {c₁ c₂ : Cache}
    (hissue : DisplayIssue.ofRemote w folder connectionId req c = .ok (issue, c₁))
    (hloc : Location.ofRemote w folder req.issueDetails.rootLocation c = .ok (loc, c₂)) :
    issue.fileUri = loc.uri ∧ issue.codeMatches = loc.codeMatches := by
  obtain ⟨code, c₀, hroot, hfile, hmatch⟩ := DisplayIssue.ofRemote_root hissue
  obtain ⟨hashed, code', c₃, -, hca, -, rfl⟩ := Location.ofRemote_eq_ok.mp hloc
  -- both look up the same URI at the same range, from the same cache but for what it logged
  have hcode : code' = code := by
    obtain ⟨c₄, hca'⟩ := (Cache.codeAt_note_eq_ok _).mp ⟨c₃, hca⟩
    obtain ⟨c₅, hroot'⟩ := (Cache.codeAt_note_eq_ok _).mp ⟨c₀, hroot⟩
    have hsame := hca'.symm.trans hroot'
    rw [Except.ok.injEq, Prod.mk.injEq] at hsame
    exact hsame.1
  subst hcode
  refine ⟨hfile, ?_⟩
  rw [hmatch]
  simp [RemoteIssue.rootLocation]

/-- A request to show an issue at the first character of the file `a`, with the snippet `x`. -/
def firstCharRequest : ShowRequest :=
  ⟨none, ⟨none, Text.ofString "r", Text.ofString "m", [97], ⟨1, 0, 1, 1⟩, some [120], none, false,
    []⟩⟩

/-- The issue at the first character of the file `/a` and the location of its root are both built
from an empty cache, and have one URI and one verdict. -/
theorem root_verdict_on_crlf_file :
    ∃ issue c₁ loc c₂,
      DisplayIssue.ofRemote crlfWorkspace none none firstCharRequest (Cache.empty utf8Settings) =
        .ok (issue, c₁) ∧
      Location.ofRemote crlfWorkspace none firstCharRequest.issueDetails.rootLocation
        (Cache.empty utf8Settings) = .ok (loc, c₂) ∧
      issue.fileUri = loc.uri ∧ issue.codeMatches = loc.codeMatches := by
  have hissue : (DisplayIssue.ofRemote crlfWorkspace none none firstCharRequest
      (Cache.empty utf8Settings)).isOk :=
    (DisplayIssue.ofRemote_isOk utf8Settings_codec (by decide) (Cache.consistent_empty _) none none
      firstCharRequest).mpr (by simp [firstCharRequest])
  have hloc : (Location.ofRemote crlfWorkspace none firstCharRequest.issueDetails.rootLocation
      (Cache.empty utf8Settings)).isOk :=
    (Location.ofRemote_isOk_from_any utf8Settings_codec (by decide)).mpr (fun _ s hs => by
      simp only [firstCharRequest, RemoteIssue.rootLocation, Option.mem_def,
        Option.some.injEq] at hs
      subst hs
      decide)
  obtain ⟨⟨issue, c₁⟩, hi⟩ := Except.isOk_iff.mp hissue
  obtain ⟨⟨loc, c₂⟩, hl⟩ := Except.isOk_iff.mp hloc
  exact ⟨issue, c₁, loc, c₂, hi, hl,
    root_verdict_eq_location_verdict crlfWorkspace none none firstCharRequest _ hi hl⟩

end LocationDrift
