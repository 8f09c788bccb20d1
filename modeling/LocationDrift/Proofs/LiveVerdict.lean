import LocationDrift.Proofs.TaintVerdict

/-!
# What a live location records

A local analysis has just read the files it reports, so a live location is present and is
compared with nothing: its range carries the fingerprint of the code it spans in the file read
again by its path, for a later taint check to compare.

**The hash of a range (`Workspace.liveHash_spec`).** It is empty without a path, when the file
cannot be read as text (the path cannot be encoded, does not resolve, names a directory, or its
bytes do not decode), and when the range spans no code there; otherwise it is the fingerprint of
the range's code.

**Theorem (`live_location_verdict`).** With a codec that decodes text, for a location whose path
can be encoded: the location is built exactly when the code it fingerprints has no surrogate, and
then it meets `Location.LiveVerdict`: present, never matching, its URI that of its path made
absolute and its file path the path part of that URI (none without a path), its message, and its
range carrying the hash above. A live issue that is built has no connection, no creation date and
no match at its root, and keeps its root range without a hash.
-/

namespace LocationDrift

section Hash

variable {w : Workspace} {st : Settings}

/-- The hash of a range: empty without a path, without a text, or without code at the range in
the text; otherwise the fingerprint of that code. -/
theorem Workspace.liveHash_spec {p : Option Text} {r : TextRange} {hash : Text}
    (h : w.liveHash st p r = .ok hash) :
    (p = none → hash = []) ∧ ∀ q ∈ p, (w.readText st q = .ok none → hash = []) ∧
      ∀ t, w.readText st q = .ok (some t) →
        (r.codeIn t = none → hash = []) ∧
          ∀ code, r.codeIn t = some code → fingerprint code = .ok hash := by
  cases p with
  | none =>
    cases h
    simp
  | some q =>
    refine ⟨(fun hp => nomatch hp), fun q' hq => ?_⟩
    cases hq
    refine ⟨fun hread => ?_, fun t hread => ?_⟩
    · rw [Workspace.liveHash_of_unread r hread, Except.ok.injEq] at h
      exact h.symm
    · rw [Workspace.liveHash_of_text r hread] at h
      unfold TextRange.codePrint at h
      cases hcode : r.codeIn t with
      | none =>
        rw [hcode] at h
        cases h
        simp
      | some code =>
        rw [hcode, Option.map_some] at h
        refine ⟨(fun hne => nomatch hne), fun code' hcode' => ?_⟩
        cases hcode'
        -- the hash is found, so the fingerprint is found and is the hash
        cases hf : fingerprint code with
        | error e =>
          rw [hf] at h
          cases h
        | ok f =>
          rw [hf] at h
          cases h
          rfl

end Hash

/-! ## Building a live location -/

/-- The verdict on a live location: present and never matching; its URI that of its path made
absolute and its file path the path part of that URI, both none without a path; its message; its
range carrying the hash of its code, empty without a path, without a text or without code at the
range. -/
structure Location.LiveVerdict (w : Workspace) (st : Settings) (l : LiveLocation) (loc : Location) :
    Prop where
  present : loc.present = true
  codeMatches : loc.codeMatches = false
  uri : loc.uri = l.filePath.bind fun p => (FileUri.pathUri w.cwd p).toOption
  filePath : loc.filePath = loc.uri.bind fun u => (FileUri.displayPath u).toOption
  message : loc.message = l.message
  range : loc.textRange.map (·.range) = l.textRange
  hash_of_no_path : ∀ hr ∈ loc.textRange, l.filePath = none → hr.hash = []
  hash_of_unread : ∀ hr ∈ loc.textRange, ∀ p ∈ l.filePath, w.readText st p = .ok none → hr.hash = []
  hash_of_text : ∀ hr ∈ loc.textRange, ∀ p ∈ l.filePath, ∀ t, w.readText st p = .ok (some t) →
    (hr.range.codeIn t = none → hr.hash = []) ∧
      ∀ code, hr.range.codeIn t = some code → fingerprint code = .ok hr.hash

section Verdict

variable {w : Workspace} {st : Settings} {l : LiveLocation} {loc : Location}

/-- A built live location is its path's URI and display path, its message, and its range with the
live hash, present and not matching. -/
theorem Location.ofLive_eq_ok (h : Location.ofLive w st l = .ok loc) :
    ∃ hashed, (∀ hr ∈ hashed, w.liveHash st l.filePath hr.range = .ok hr.hash) ∧
      hashed.map (·.range) = l.textRange ∧
      loc = ⟨l.filePath.bind fun p => (FileUri.pathUri w.cwd p).toOption,
        (l.filePath.bind fun p => (FileUri.pathUri w.cwd p).toOption).bind
          fun u => (FileUri.displayPath u).toOption,
        l.message, hashed, true, false⟩ := by
  have hok : (Location.ofLive w st l).isOk := by rw [h]; rfl
  obtain ⟨huri, hhash⟩ := (Location.ofLive_isOk_iff l).mp hok
  obtain ⟨fp, tr, m⟩ := l
  -- the range, if any, is hashed; the path, if any, has a URI, which has a display path
  cases tr with
  | none =>
    refine ⟨none, by simp, rfl, ?_⟩
    cases fp with
    | none => simp [Location.ofLive, bind, Except.bind, pure, Except.pure] at h; simp [← h]
    | some p =>
      obtain ⟨u, hu⟩ := Except.isOk_iff.mp (huri p rfl)
      obtain ⟨d, hd⟩ := Except.isOk_iff.mp (FileUri.displayPath_pathUri hu)
      simp [Location.ofLive, hu, hd, bind, Except.bind, Except.mapError, pure, Except.pure,
        Functor.map, Except.map] at h
      simp [← h, hu, hd, Except.toOption]
  | some r =>
    obtain ⟨k, hk⟩ := Except.isOk_iff.mp (hhash r rfl)
    refine ⟨some ⟨r, k⟩, by simpa using hk, rfl, ?_⟩
    cases fp with
    | none =>
      simp [Location.ofLive, hk, bind, Except.bind, pure, Except.pure, Functor.map,
        Except.map] at h
      simp [← h]
    | some p =>
      obtain ⟨u, hu⟩ := Except.isOk_iff.mp (huri p rfl)
      obtain ⟨d, hd⟩ := Except.isOk_iff.mp (FileUri.displayPath_pathUri hu)
      simp [Location.ofLive, hu, hd, hk, bind, Except.bind, Except.mapError, pure, Except.pure,
        Functor.map, Except.map] at h
      simp [← h, hu, hd, Except.toOption]

/-- A built live location meets its verdict. -/
theorem Location.liveVerdict_of_eq_ok (h : Location.ofLive w st l = .ok loc) :
    loc.LiveVerdict w st l := by
  obtain ⟨hashed, hh, hrange, rfl⟩ := Location.ofLive_eq_ok h
  refine ⟨rfl, rfl, rfl, rfl, rfl, hrange, fun hr hmem hp => ?_, fun hr hmem p hp hread => ?_,
    fun hr hmem p hp t hread => ?_⟩
  · exact (Workspace.liveHash_spec (hh hr hmem)).1 hp
  · exact ((Workspace.liveHash_spec (hh hr hmem)).2 p hp).1 hread
  · exact ((Workspace.liveHash_spec (hh hr hmem)).2 p hp).2 t hread

/-- A built live issue has no connection, no creation date and no match at its root, and keeps
its root range, which carries no hash. -/
theorem DisplayIssue.ofLive_root {i : LiveIssue} {issue : DisplayIssue}
    (h : DisplayIssue.ofLive w st i = .ok issue) :
    issue.codeMatches = false ∧ issue.connectionId = none ∧ issue.creationDate = none ∧
      issue.textRange = i.textRange := by
  unfold DisplayIssue.ofLive at h
  -- whatever the URI and flows, the root is written with the issue's range and no match
  split at h <;>
  · obtain ⟨uri, -, h⟩ := Except.bind_eq_ok h
    obtain ⟨flows, -, h⟩ := Except.bind_eq_ok h
    cases h
    exact ⟨rfl, rfl, rfl, rfl⟩

/-- **What a live location records.** With a codec that decodes text, for a location whose path
can be encoded: the location is built exactly when the code it fingerprints has no surrogate, and
a built location meets its verdict (`Location.LiveVerdict`): present and never matching, its URI
and display path those of its path, and its range carrying the hash of its code, empty without a
path, a text or code at the range. A live issue whose paths can be encoded is built exactly when
the code its flows fingerprint has no surrogate, and a built one has no match, connection or
creation date at its root and keeps its root range unhashed. -/
theorem live_location_verdict {cd : Codec} (hcd : st.codec? = some cd) (htext : cd.isText = true)
    (l : LiveLocation) (hpath : l.PathEncodable w) :
    ((Location.ofLive w st l).isOk ↔ l.Fingerprintable w st) ∧
      (∀ loc, Location.ofLive w st l = .ok loc → loc.LiveVerdict w st l) ∧
      ∀ i : LiveIssue, (∀ p ∈ i.filePath, (FileUri.pathUri w.cwd p).isOk) →
        (∀ f ∈ i.flows, ∀ l ∈ f.locations, l.PathEncodable w) →
        ((DisplayIssue.ofLive w st i).isOk ↔
          ∀ f ∈ i.flows, ∀ l ∈ f.locations, l.Fingerprintable w st) ∧
        ∀ issue, DisplayIssue.ofLive w st i = .ok issue →
          issue.codeMatches = false ∧ issue.connectionId = none ∧ issue.creationDate = none ∧
            issue.textRange = i.textRange :=
  ⟨Location.ofLive_isOk hcd htext l hpath, fun _ h => Location.liveVerdict_of_eq_ok h,
    fun i hroot hflows => ⟨DisplayIssue.ofLive_isOk hcd htext i hroot hflows,
      fun _ h => DisplayIssue.ofLive_root h⟩⟩

end Verdict

/-- The first character of the file `a` of a workspace. -/
def firstCharLive : LiveLocation := ⟨some [97], some ⟨1, 0, 1, 1⟩, none⟩

/-- The verdict on the first character of the file `/a` of the workspace, whose text is `x`, a
carriage return and line feed, and `y`, named `a` relative to the root. -/
theorem live_location_verdict_on_crlf_file :
    ((Location.ofLive crlfWorkspace utf8Settings firstCharLive).isOk ↔
        firstCharLive.Fingerprintable crlfWorkspace utf8Settings) ∧
      (∀ loc, Location.ofLive crlfWorkspace utf8Settings firstCharLive = .ok loc →
        loc.LiveVerdict crlfWorkspace utf8Settings firstCharLive) ∧
      ∀ i : LiveIssue, (∀ p ∈ i.filePath, (FileUri.pathUri crlfWorkspace.cwd p).isOk) →
        (∀ f ∈ i.flows, ∀ l ∈ f.locations, l.PathEncodable crlfWorkspace) →
        ((DisplayIssue.ofLive crlfWorkspace utf8Settings i).isOk ↔
          ∀ f ∈ i.flows, ∀ l ∈ f.locations, l.Fingerprintable crlfWorkspace utf8Settings) ∧
        ∀ issue, DisplayIssue.ofLive crlfWorkspace utf8Settings i = .ok issue →
          issue.codeMatches = false ∧ issue.connectionId = none ∧ issue.creationDate = none ∧
            issue.textRange = i.textRange :=
  live_location_verdict utf8Settings_codec (by decide) firstCharLive
    (fun p hp => by cases hp; exact ⟨rfl, fun _ h => by cases h⟩)

/-- A live location is not built from every file: read as UTF-7, the file `/a` is a lone
surrogate, which is the code of the whole-file range and has no fingerprint, and building the
location stops. -/
theorem live_location_faults_on_lone_surrogate :
    Location.ofLive loneSurrogateWorkspace utf7Settings ⟨some [97], some ⟨0, 0, 0, 0⟩, none⟩ =
      .error (.unencodable ⟨0, 1, 0xD800⟩) := by
  have hread : loneSurrogateWorkspace.readText utf7Settings [97] = .ok (some [0xD800]) := by
    have hnames :
        (PosixPath.absolute loneSurrogateWorkspace.cwd (PosixPath.ofText [97])).systemNames? =
          .ok [[97]] := by rfl
    have hfile : loneSurrogateWorkspace.disk.resolve [[97]] =
        .ok ([[97]], .file [43, 50, 65, 65, 45]) := by rfl
    rw [Workspace.readText_of_file utf7Settings_codec (by decide) hnames hfile]
    cbv
  obtain ⟨d, hd⟩ := @Location.ofLive_of_path loneSurrogateWorkspace utf7Settings [97]
    (Text.ofString "file:///a") ⟨0, 0, 0, 0⟩ none (by cbv)
  rw [hd, Workspace.liveHash_of_text _ hread]
  rfl

end LocationDrift
