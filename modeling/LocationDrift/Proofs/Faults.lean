import LocationDrift.Proofs.LiveHash

/-!
# What stops a batch

Building display parameters stops with a fault only where a text must be fingerprinted, a date
converted to UTC, or a path written as a URI or handed to the system. A file that is missing,
unreadable, too large or undecodable, a URI that names no local file and a range that spans
nothing end instead in a location that is not present, does not match, or carries an empty hash.

**Paths (`IssueDocument.PathsEncodable`).** A taint path is joined to its folder, which stops on a
surrogate in it; a live path is written as a URI, which stops on a surrogate that stands for no
byte, and handed to the system when its range is hashed, which stops on a NUL character. These
are stated as hypotheses: a remote path with the same defects leaves its location out instead.

**Fingerprints and dates (`IssueDocument.Buildable`).** A remote location with a range
fingerprints its snippet; a taint or live location with a range fingerprints the code the range
has in its file; a taint vulnerability writes its introduction date in UTC. A fingerprint stops
on a surrogate, and the date on a UTC year outside 1 to 9999.

**Theorem (`batch_isOk_iff_buildable`).** With a codec that decodes text and documents whose
paths can be encoded, a batch built through a consistent cache completes exactly when every
document is buildable. A batch of one remote issue whose flow holds a snippet with a lone
surrogate stops (`batch_faults_on_surrogate_snippet`).
-/

namespace LocationDrift

/-! ## Paths, fingerprints and dates -/

/-- A live location's path has a URI, and can be handed to the system when its range is hashed. -/
def LiveLocation.PathEncodable (w : Workspace) (l : LiveLocation) : Prop :=
  ∀ p ∈ l.filePath, (FileUri.pathUri w.cwd p).isOk ∧
    (l.textRange.isSome →
      (PosixPath.absolute w.cwd (PosixPath.ofText p)).systemNames? ≠ .error .nul)

/-- The paths of a document can be joined to its folder, written as URIs and handed to the
system. -/
def IssueDocument.PathsEncodable (w : Workspace) : IssueDocument → Prop
  | .remote _ => True
  | .taint t => t.ideFilePath.NoSurrogate ∧
      ∀ f ∈ t.flows, ∀ l ∈ f.locations, ∀ p ∈ l.filePath, p.NoSurrogate
  | .live i => (∀ p ∈ i.filePath, (FileUri.pathUri w.cwd p).isOk) ∧
      ∀ f ∈ i.flows, ∀ l ∈ f.locations, l.PathEncodable w

/-- The snippet a remote location fingerprints, when it has a range, has no surrogate. -/
def RemoteLocation.Fingerprintable (l : RemoteLocation) : Prop :=
  l.textRange.isSome → ∀ s ∈ l.codeSnippet, s.NoSurrogate

/-- The local code a taint location fingerprints, the code of its range in its file, has no
surrogate. -/
def TaintLocation.Fingerprintable (w : Workspace) (st : Settings) (folder : Text)
    (l : TaintLocation) : Prop :=
  ∀ p ∈ l.filePath, ∀ r ∈ l.textRange, ∀ u s, FileUri.joinUri folder p = .ok u →
    Snapshot.read st w.disk u = .ok s → ∀ code ∈ s.codeAt r.range, code.NoSurrogate

/-- The code a live location fingerprints, the code of its range in its file read directly, has
no surrogate. -/
def LiveLocation.Fingerprintable (w : Workspace) (st : Settings) (l : LiveLocation) : Prop :=
  ∀ p ∈ l.filePath, ∀ r ∈ l.textRange, ∀ t, w.readText st p = .ok (some t) →
    ∀ code ∈ r.codeIn t, code.NoSurrogate

/-- Every fingerprint a document takes has no surrogate, and a taint vulnerability's date has a
UTC form. -/
def IssueDocument.Buildable (w : Workspace) (st : Settings) : IssueDocument → Prop
  | .remote r => ∀ f ∈ r.issueDetails.flows, ∀ l ∈ f.locations, l.Fingerprintable
  | .taint t => t.introductionDate.toUtc?.isSome ∧
      ∀ f ∈ t.flows, ∀ l ∈ f.locations, l.Fingerprintable w st t.workspaceFolderUri
  | .live i => ∀ f ∈ i.flows, ∀ l ∈ f.locations, l.Fingerprintable w st

/-! ## Results of builds -/

namespace Build

variable {α β : Type} {m : Build α} {f : α → Build β} {c c' : Cache}

theorem isOk_bind_of_ok {a : α} (h : m c = .ok (a, c')) : ((m >>= f) c).isOk = (f a c').isOk := by
  rw [bind_apply, h]

/-- A bind whose second part completes, from whatever the first gives, exactly when `P` holds. -/
theorem isOk_bind_iff {P : Prop} (hf : ∀ a c', m c = .ok (a, c') → ((f a c').isOk ↔ P)) :
    ((m >>= f) c).isOk ↔ (m c).isOk ∧ P := by
  rw [bind_apply]
  cases h : m c with
  | error e => simp
  | ok p =>
    obtain ⟨a, c₁⟩ := p
    simp only [Except.isOk_ok, true_and]
    exact hf a c₁ h

theorem isOk_map (g : α → β) (m : Build α) (c : Cache) : ((g <$> m) c).isOk = (m c).isOk := by
  rw [map_apply, Except.isOk_map]

theorem isOk_ofExcept (e : Except Fault α) (c : Cache) : (ofExcept e c).isOk = e.isOk :=
  Except.isOk_map _ e

/-- From a consistent cache, mapping an oblivious computation over a list completes exactly when
each element completes alone. -/
theorem Oblivious.mapM_isOk {disk : Disk} {xs : List α} (hf : ∀ x, Oblivious disk (f x))
    (hc : c.Consistent disk) :
    (xs.mapM f c).isOk ↔ ∀ x ∈ xs, (f x (Cache.empty c.settings)).isOk := by
  have h : ((xs.mapM f c).map Prod.fst).isOk =
      (xs.mapM fun x => (f x (Cache.empty c.settings)).map Prod.fst).isOk :=
    congrArg Except.isOk (mapM_value hf hc)
  rw [Except.isOk_map] at h
  rw [h, Except.mapM_isOk]
  simp only [Except.isOk_map]

end Build

theorem DateTime.creationText_isOk (v : DateTime) : v.creationText.isOk ↔ v.toUtc?.isSome := by
  unfold DateTime.creationText
  cases v.toUtc? <;> simp

/-! ## Locations -/

section Locations

variable {w : Workspace} {c : Cache} {cd : Codec}

/-- **A remote location stops only on its snippet.** -/
theorem Location.ofRemote_isOk (hcd : c.settings.codec? = some cd) (htext : cd.isText = true)
    (hc : c.Consistent w.disk) (folder : Option Text) (l : RemoteLocation) :
    (Location.ofRemote w folder l c).isOk ↔ l.Fingerprintable := by
  -- resolving the path only logs, and the lookup, the log and the settings always answer; only
  -- the hash of the range can stop
  obtain ⟨code, c', hca⟩ :=
    (hc.note (FileUri.resolveRecords Build.normalizerLogger w.cwd l.ideFilePath folder)).codeAt_isOk
      hcd htext (FileUri.ofEditorPath? w.cwd l.ideFilePath folder) l.textRange
  unfold Location.ofRemote RemoteLocation.Fingerprintable
  dsimp only
  cases hr : l.textRange with
  | none =>
    rw [hr] at hca
    simp [Build.bind_apply, Build.map_apply, Build.codeAt, hca, Build.settings, Except.map]
  | some r =>
    rw [hr] at hca
    cases hs : l.codeSnippet with
    | none =>
      simp [Build.bind_apply, Build.map_apply, Build.codeAt, hca, Build.settings, Except.map]
    | some s =>
      simp only [Option.isSome_some, Option.mem_def, Option.some.injEq, forall_eq', forall_const,
        ← fingerprint_isOk]
      cases hf : fingerprint s <;>
        simp [Build.bind_apply, Build.map_apply, Build.fingerprint, Build.ofExcept, hf,
          Build.codeAt, hca, Build.settings, Except.mapError, Except.map]

/-- **A taint location whose path has no surrogate stops only on the fingerprint of its code.** -/
theorem Location.ofTaint_isOk (hcd : c.settings.codec? = some cd) (htext : cd.isText = true)
    (hc : c.Consistent w.disk) (folder : Text) (l : TaintLocation)
    (hpath : ∀ p ∈ l.filePath, p.NoSurrogate) :
    (Location.ofTaint w folder l c).isOk ↔ l.Fingerprintable w c.settings folder := by
  unfold Location.ofTaint TaintLocation.Fingerprintable
  cases hp : l.filePath with
  | none => simp [Build.bind_apply, Build.settings]
  | some p =>
    rw [hp] at hpath
    -- the path joins, and the lookup cuts the code of the range from a fresh read
    obtain ⟨u, hu⟩ := Except.isOk_iff.mp ((FileUri.joinUri_isOk folder p).mpr (hpath p rfl))
    obtain ⟨s, hs⟩ := Except.isOk_iff.mp (Snapshot.read_isOk hcd htext w.disk u)
    obtain ⟨c', hca⟩ := hc.codeAt_of_read (r := l.textRange.map (·.range)) hs
    have hrhs : (∀ p' ∈ some p, ∀ r ∈ l.textRange, ∀ u' s', FileUri.joinUri folder p' = .ok u' →
        Snapshot.read c.settings w.disk u' = .ok s' →
          ∀ code ∈ s'.codeAt r.range, code.NoSurrogate) ↔
        ∀ r ∈ l.textRange, ∀ code ∈ s.codeAt r.range, code.NoSurrogate := by
      constructor
      · intro h r hr
        exact h p rfl r hr u s hu hs
      · intro h p' hp' r hr u' s' hu' hs'
        rw [Option.mem_def, Option.some.injEq] at hp'
        subst hp'
        rw [hu, Except.ok.injEq] at hu'
        subst hu'
        rw [hs, Except.ok.injEq] at hs'
        subst hs'
        exact h r hr
    simp only [Build.bind_apply, Build.ofExcept, hu, Except.mapError, Except.map, Build.codeAt, hca,
      hrhs]
    cases hr : l.textRange with
    | none => simp [Snapshot.codeOf, Build.bind_apply, Build.map_apply]
    | some r =>
      cases hcode : s.codeAt r.range with
      | none => simp [Snapshot.codeOf, hcode, Build.bind_apply, Build.map_apply]
      | some code =>
        simp only [Snapshot.codeOf, Option.map_some, hcode, Option.mem_def, Option.some.injEq,
          forall_eq', ← fingerprint_isOk]
        cases hf : fingerprint code <;>
          simp [Build.bind_apply, Build.map_apply, Build.fingerprint, Build.ofExcept, hf,
            Except.mapError, Except.map]

end Locations

/-! ## Live locations -/

section Live

variable {w : Workspace} {st : Settings} {cd : Codec}

/-- A live location stops only on writing its path as a URI and on hashing its range: the display
path of a path's URI is always found. -/
theorem Location.ofLive_isOk_iff (l : LiveLocation) :
    (Location.ofLive w st l).isOk ↔ (∀ p ∈ l.filePath, (FileUri.pathUri w.cwd p).isOk) ∧
      ∀ r ∈ l.textRange, (w.liveHash st l.filePath r).isOk := by
  obtain ⟨fp, tr, m⟩ := l
  cases fp with
  | none =>
    cases tr <;> simp [Location.ofLive, Workspace.liveHash, bind, Except.bind, pure, Except.pure]
  | some p =>
    cases hu : FileUri.pathUri w.cwd p with
    | error e => simp [Location.ofLive, hu, bind, Except.bind, Except.mapError]
    | ok u =>
      obtain ⟨d, hd⟩ := Except.isOk_iff.mp (FileUri.displayPath_pathUri hu)
      cases tr with
      | none =>
        simp [Location.ofLive, hu, hd, bind, Except.bind, Except.mapError, pure, Except.pure]
      | some r =>
        cases hh : w.liveHash st (some p) r <;>
          simp [Location.ofLive, hu, hd, hh, bind, Except.bind, Except.mapError, pure,
            Except.pure, Functor.map, Except.map]

/-- With a codec that decodes text, reading a path directly stops only on a NUL character. -/
theorem Workspace.readDirect_isOk (hcd : st.codec? = some cd) (htext : cd.isText = true) {p : Text}
    (hnul : (PosixPath.absolute w.cwd (PosixPath.ofText p)).systemNames? ≠ .error .nul) :
    (w.readDirect st p).isOk := by
  unfold Workspace.readDirect
  dsimp only
  cases hn : (PosixPath.absolute w.cwd (PosixPath.ofText p)).systemNames? with
  | error e =>
    cases e with
    | unencodable e => rfl
    | nul => exact absurd hn hnul
  | ok names =>
    -- a path that does not open gives its error; bytes that open are decoded
    dsimp only
    cases w.disk.readBytes names with
    | error f => rfl
    | ok bs =>
      simp only [hcd, htext, Bool.not_true, Bool.false_eq_true, ↓reduceIte]
      cases cd.decode? bs <;> rfl

/-- With a codec that decodes text, reading a path directly for its text stops only on a NUL
character. -/
theorem Workspace.readText_isOk (hcd : st.codec? = some cd) (htext : cd.isText = true) {p : Text}
    (hnul : (PosixPath.absolute w.cwd (PosixPath.ofText p)).systemNames? ≠ .error .nul) :
    (w.readText st p).isOk := by
  rw [Workspace.readText, Except.isOk_map]
  exact w.readDirect_isOk hcd htext hnul

/-- Hashing a range of a path that can be read stops only on a surrogate in the range's code. -/
theorem Workspace.liveHash_isOk (hcd : st.codec? = some cd) (htext : cd.isText = true) {p : Text}
    (r : TextRange)
    (hnul : (PosixPath.absolute w.cwd (PosixPath.ofText p)).systemNames? ≠ .error .nul) :
    (w.liveHash st (some p) r).isOk ↔
      ∀ t, w.readText st p = .ok (some t) → ∀ code ∈ r.codeIn t, code.NoSurrogate := by
  obtain ⟨content, hread⟩ := Except.isOk_iff.mp (w.readText_isOk hcd htext hnul)
  cases content with
  | none =>
    -- a file that cannot be read has the empty hash
    simp [Workspace.liveHash_of_unread r hread, hread]
  | some t =>
    have hiff : (∀ t', w.readText st p = .ok (some t') → ∀ code ∈ r.codeIn t', code.NoSurrogate) ↔
        ∀ code ∈ r.codeIn t, code.NoSurrogate := by
      simp [hread]
    rw [Workspace.liveHash_of_text r hread, hiff, TextRange.noSurrogate_iff_codePrint]
    cases r.codePrint t <;> simp

/-- **A live location whose path can be encoded stops only on the fingerprint of its code.** -/
theorem Location.ofLive_isOk (hcd : st.codec? = some cd) (htext : cd.isText = true)
    (l : LiveLocation) (hpath : l.PathEncodable w) :
    (Location.ofLive w st l).isOk ↔ l.Fingerprintable w st := by
  rw [Location.ofLive_isOk_iff]
  obtain ⟨fp, tr, m⟩ := l
  cases fp with
  | none => simp [LiveLocation.Fingerprintable, Workspace.liveHash]
  | some p =>
    obtain ⟨huri, hnul⟩ := hpath p rfl
    cases tr with
    | none => simp [LiveLocation.Fingerprintable, huri]
    | some r =>
      have hhash := Workspace.liveHash_isOk hcd htext r (hnul rfl)
      simp only [LiveLocation.Fingerprintable, Option.mem_def, Option.some.injEq, forall_eq',
        huri, true_and, hhash]

end Live

/-! ## Flows and issues -/

section Issues

variable {w : Workspace} {c : Cache} {cd : Codec}

theorem Flow.ofRemote_isOk (hcd : c.settings.codec? = some cd) (htext : cd.isText = true)
    (hc : c.Consistent w.disk) (folder : Option Text) (fl : RemoteFlow) :
    (Flow.ofRemote w folder fl c).isOk ↔ ∀ l ∈ fl.locations, l.Fingerprintable := by
  rw [Flow.ofRemote, Build.isOk_map,
    Build.Oblivious.mapM_isOk (fun l => oblivious_locationOfRemote w folder l) hc]
  exact forall₂_congr fun l _ =>
    Location.ofRemote_isOk (c := Cache.empty c.settings) hcd htext (Cache.consistent_empty _)
      folder l

theorem Flow.ofTaint_isOk (hcd : c.settings.codec? = some cd) (htext : cd.isText = true)
    (hc : c.Consistent w.disk) (folder : Text) (fl : TaintFlow)
    (hpath : ∀ l ∈ fl.locations, ∀ p ∈ l.filePath, p.NoSurrogate) :
    (Flow.ofTaint w folder fl c).isOk ↔
      ∀ l ∈ fl.locations, l.Fingerprintable w c.settings folder := by
  rw [Flow.ofTaint, Build.isOk_map,
    Build.Oblivious.mapM_isOk (fun l => oblivious_locationOfTaint w folder l) hc]
  exact forall₂_congr fun l hl =>
    Location.ofTaint_isOk (c := Cache.empty c.settings) hcd htext (Cache.consistent_empty _)
      folder l (hpath l hl)

theorem Flow.ofLive_isOk {st : Settings} (hcd : st.codec? = some cd) (htext : cd.isText = true)
    (fl : LiveFlow) (hpath : ∀ l ∈ fl.locations, l.PathEncodable w) :
    (Flow.ofLive w st fl).isOk ↔ ∀ l ∈ fl.locations, l.Fingerprintable w st := by
  show (Except.map Flow.mk (fl.locations.mapM (Location.ofLive w st))).isOk ↔ _
  rw [Except.isOk_map, Except.mapM_isOk]
  exact forall₂_congr fun l hl => Location.ofLive_isOk hcd htext l (hpath l hl)

/-- **A remote issue stops only on the snippets of its flows.** Its own file is looked up, which
always answers. -/
theorem DisplayIssue.ofRemote_isOk (hcd : c.settings.codec? = some cd) (htext : cd.isText = true)
    (hc : c.Consistent w.disk) (folder connectionId : Option Text) (req : ShowRequest) :
    (DisplayIssue.ofRemote w folder connectionId req c).isOk ↔
      ∀ f ∈ req.issueDetails.flows, ∀ l ∈ f.locations, l.Fingerprintable := by
  -- resolving the issue's path only logs, and its lookup always answers
  have hc₀ := hc.note (FileUri.resolveRecords Build.paramsLogger w.cwd req.issueDetails.ideFilePath
    folder)
  obtain ⟨code, c₁, hca⟩ := hc₀.codeAt_isOk hcd htext
    (FileUri.ofEditorPath? w.cwd req.issueDetails.ideFilePath folder)
    (some req.issueDetails.textRange)
  obtain ⟨hc₁, hs₁⟩ := hc₀.codeAt_ok hca
  have hcd₁ : (Cache.empty c₁.settings).settings.codec? = some cd := by
    rw [Cache.settings_empty, hs₁, Cache.note_settings]
    exact hcd
  unfold DisplayIssue.ofRemote
  rw [Build.editorUri_bind_apply, Build.isOk_bind_of_ok (m := Build.codeAt w _ _) hca,
    Build.isOk_bind_iff (P := True) (fun _ _ _ => by simp), and_true,
    Build.Oblivious.mapM_isOk (fun f => oblivious_flowOfRemote w folder f) hc₁]
  exact forall₂_congr fun f _ =>
    Flow.ofRemote_isOk hcd₁ htext (Cache.consistent_empty _) folder f

/-- **A taint vulnerability whose paths have no surrogate stops only on its date and on the
fingerprints of its local code.** -/
theorem DisplayIssue.ofTaint_isOk (hcd : c.settings.codec? = some cd) (htext : cd.isText = true)
    (hc : c.Consistent w.disk) (connectionId : Option Text) (t : TaintIssue)
    (hroot : t.ideFilePath.NoSurrogate)
    (hpath : ∀ f ∈ t.flows, ∀ l ∈ f.locations, ∀ p ∈ l.filePath, p.NoSurrogate) :
    (DisplayIssue.ofTaint w connectionId t c).isOk ↔ t.introductionDate.toUtc?.isSome ∧
      ∀ f ∈ t.flows, ∀ l ∈ f.locations, l.Fingerprintable w c.settings t.workspaceFolderUri := by
  obtain ⟨u, hu⟩ :=
    Except.isOk_iff.mp ((FileUri.joinUri_isOk t.workspaceFolderUri t.ideFilePath).mpr hroot)
  have hjoin : Build.ofExcept ((FileUri.joinUri t.workspaceFolderUri t.ideFilePath).mapError
      Fault.unencodable) c = .ok (u, c) := by
    simp [Build.ofExcept, hu, Except.mapError, Except.map]
  -- the date is written last, whatever the flows gave
  have hdate : ∀ (flows : List Flow) (c₁ : Cache),
      ((Build.ofExcept t.introductionDate.creationText >>= fun date =>
        pure (⟨some u, t.message, t.severity, t.ruleKey, t.textRange.map (·.range), flows,
          connectionId, some date, false⟩ : DisplayIssue)) c₁).isOk ↔
        t.introductionDate.toUtc?.isSome := by
    intro flows c₁
    rw [Build.isOk_bind_iff (P := True) (fun _ _ _ => by simp), and_true, Build.isOk_ofExcept,
      DateTime.creationText_isOk]
  unfold DisplayIssue.ofTaint
  rw [Build.isOk_bind_of_ok hjoin, Build.isOk_bind_iff fun flows c₁ _ => hdate flows c₁, and_comm,
    Build.Oblivious.mapM_isOk (fun f => oblivious_flowOfTaint w t.workspaceFolderUri f) hc]
  exact and_congr_right fun _ => forall₂_congr fun f hf =>
    Flow.ofTaint_isOk (c := Cache.empty c.settings) hcd htext (Cache.consistent_empty _) _ f
      (hpath f hf)

/-- **A live issue whose paths can be encoded stops only on the fingerprints of its code.** -/
theorem DisplayIssue.ofLive_isOk {st : Settings} (hcd : st.codec? = some cd)
    (htext : cd.isText = true) (i : LiveIssue)
    (hroot : ∀ p ∈ i.filePath, (FileUri.pathUri w.cwd p).isOk)
    (hpath : ∀ f ∈ i.flows, ∀ l ∈ f.locations, l.PathEncodable w) :
    (DisplayIssue.ofLive w st i).isOk ↔
      ∀ f ∈ i.flows, ∀ l ∈ f.locations, l.Fingerprintable w st := by
  have hflows : (i.flows.mapM (Flow.ofLive w st)).isOk ↔
      ∀ f ∈ i.flows, ∀ l ∈ f.locations, l.Fingerprintable w st := by
    rw [Except.mapM_isOk]
    exact forall₂_congr fun f hf => Flow.ofLive_isOk hcd htext f (hpath f hf)
  rw [← hflows]
  unfold DisplayIssue.ofLive
  cases hp : i.filePath with
  | none =>
    cases i.flows.mapM (Flow.ofLive w st) <;> rfl
  | some p =>
    obtain ⟨u, hu⟩ := Except.isOk_iff.mp (hroot p (by rw [hp]; rfl))
    cases i.flows.mapM (Flow.ofLive w st) <;>
      simp [hu, bind, Except.bind, Except.mapError, Functor.map, Except.map, pure, Except.pure]

end Issues

/-! ## Batches -/

section Batch

variable {ctx : BatchContext} {c : Cache} {cd : Codec}

/-- A document whose paths can be encoded builds exactly when it is buildable. -/
theorem DisplayIssue.build_isOk (hcd : c.settings.codec? = some cd) (htext : cd.isText = true)
    (hc : c.Consistent ctx.workspace.disk) (d : IssueDocument)
    (hpaths : d.PathsEncodable ctx.workspace) :
    (DisplayIssue.build ctx d c).isOk ↔ d.Buildable ctx.workspace c.settings := by
  -- logging the built display parameter always answers
  rw [DisplayIssue.build_eq, Except.isOk_map]
  cases d with
  | remote r => exact DisplayIssue.ofRemote_isOk hcd htext hc ctx.folder ctx.connectionId r
  | taint t => exact DisplayIssue.ofTaint_isOk hcd htext hc ctx.connectionId t hpaths.1 hpaths.2
  | live i =>
    -- a live issue reads the settings and then only logs
    simp only [DisplayIssue.buildBy]
    rw [Build.isOk_bind_of_ok (rfl : Build.settings c = .ok (c.settings, c)),
      Build.isOk_bind_iff (P := True) (fun _ _ _ => by simp [Build.bind_apply]), and_true,
      Build.isOk_ofExcept]
    exact DisplayIssue.ofLive_isOk hcd htext i hpaths.1 hpaths.2

/-- **A batch stops only on a fingerprint or a date.** With a codec that decodes text, a batch of
documents whose paths can be encoded, built through a consistent cache, completes exactly when
every document is buildable: every snippet and every piece of local code it fingerprints is free
of surrogates, and every taint date has a UTC form. -/
theorem batch_isOk_iff_buildable {docs : List IssueDocument} (hcd : c.settings.codec? = some cd)
    (htext : cd.isText = true) (hc : c.Consistent ctx.workspace.disk)
    (hpaths : ∀ d ∈ docs, d.PathsEncodable ctx.workspace) :
    (DisplayIssue.batch ctx docs c).isOk ↔ ∀ d ∈ docs, d.Buildable ctx.workspace c.settings := by
  rw [DisplayIssue.batch, Build.Oblivious.mapM_isOk (oblivious_build ctx) hc]
  exact forall₂_congr fun d hd =>
    DisplayIssue.build_isOk (c := Cache.empty c.settings) hcd htext (Cache.consistent_empty _) d
      (hpaths d hd)

/-- A remote issue whose one flow location has a range and a snippet holding a lone low
surrogate; neither path has a URI. -/
def surrogateSnippetIssue : IssueDocument :=
  .remote ⟨none, ⟨none, Text.ofString "r", Text.ofString "m", [], ⟨1, 0, 1, 1⟩, none, none, false,
    [⟨[⟨[], some ⟨1, 0, 1, 1⟩, some [0xDFFF], none⟩]⟩]⟩⟩

/-- A taint vulnerability on the file `a` of the folder `file:///`, with a naive date. -/
def taintOnFileA : IssueDocument :=
  .taint ⟨none, Text.ofString "file:///", [97], Text.ofString "m", Text.ofString "s",
    Text.ofString "r", none, ⟨2024, 1, 1, 0, 0, 0, 0, none⟩,
    [⟨[⟨some [97], some ⟨⟨1, 0, 1, 1⟩, []⟩, none⟩]⟩]⟩

/-- A live issue on the file `a`, with one located flow. -/
def liveOnFileA : IssueDocument :=
  .live ⟨some [97], Text.ofString "m", Text.ofString "s", Text.ofString "r", none,
    [⟨[⟨some [97], some ⟨1, 0, 1, 1⟩, none⟩]⟩]⟩

/-- The three shapes in one batch against the workspace with the file `/a`: their paths can be
encoded, and the batch completes exactly when all three are buildable. -/
theorem batch_isOk_iff_buildable_mixed :
    (DisplayIssue.batch ⟨crlfWorkspace, none, none⟩
        [surrogateSnippetIssue, taintOnFileA, liveOnFileA] (Cache.empty utf8Settings)).isOk ↔
      ∀ d ∈ [surrogateSnippetIssue, taintOnFileA, liveOnFileA],
        d.Buildable crlfWorkspace utf8Settings :=
  batch_isOk_iff_buildable utf8Settings_codec (by decide) (Cache.consistent_empty _) (by
    simp only [List.mem_cons, List.not_mem_nil, or_false, forall_eq_or_imp, forall_eq]
    refine ⟨trivial, ⟨by decide, ?_⟩, ?_⟩
    · simp only [List.mem_cons, List.not_mem_nil, or_false, forall_eq, Option.mem_def,
        Option.some.injEq, forall_eq']
      decide
    · refine ⟨fun p hp => ?_, ?_⟩
      · rw [Option.mem_def, Option.some.injEq] at hp
        subst hp
        rfl
      · simp only [List.mem_cons, List.not_mem_nil, or_false, forall_eq, LiveLocation.PathEncodable,
          Option.mem_def, Option.some.injEq, forall_eq']
        exact ⟨rfl, fun _ h => by cases h⟩)

/-- A batch does not always complete: the snippet of a remote location is fingerprinted, and a
lone surrogate in it stops the whole batch. -/
theorem batch_faults_on_surrogate_snippet :
    DisplayIssue.batch default [surrogateSnippetIssue] (Cache.empty Settings.default) =
      .error (.unencodable ⟨0, 1, 0xDFFF⟩) := by
  rfl

end Batch

end LocationDrift
