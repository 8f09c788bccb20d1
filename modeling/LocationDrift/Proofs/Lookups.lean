import Mathlib.Data.List.Nodup
import LocationDrift.Proofs.RemoteVerdict

/-!
# Which files a batch looks up

Building display parameters looks files up only through the snapshot cache, and a lookup adds its
URI to the cache's keys when the URI is not held yet. So the keys a batch leaves in a fresh cache
tell exactly which files it read.

**Lookups of a computation (`Build.LooksUp`).** A computation looks up a list of URIs when, from
any cache, whenever it completes, the cache's keys afterwards are its keys before with each of
those URIs added in order unless already held (`Cache.addLookups`). Lookups compose along `bind`,
`map` and `mapM` by appending; pure values, the settings, fingerprints and dates look up nothing.

**The lookups of a document (`IssueDocument.lookups`).** A remote issue looks up the URI of its
own path and then those of its flow locations' paths, in order, each only where the path has a
URI; a taint vulnerability looks up the join of its folder with the path of each flow location that
has one, and never its own path; a live issue looks up nothing, since it reads its files directly.

**Theorem (`batch_lookups`).** When a batch completes from a fresh cache, the cache's keys are the
documents' lookups in order of first lookup, each once, and a URI is held exactly when some
document looks it up.
-/

namespace LocationDrift

namespace Cache

/-- The keys after looking up `us` in order from the keys `ks`: each URI not yet held is added at
the end. -/
def addLookups (ks us : List Text) : List Text :=
  us.foldl (fun ks u => if u ∈ ks then ks else ks ++ [u]) ks

@[simp] theorem addLookups_nil (ks : List Text) : addLookups ks [] = ks := rfl

theorem addLookups_append (ks us vs : List Text) :
    addLookups ks (us ++ vs) = addLookups (addLookups ks us) vs :=
  List.foldl_append

/-- Looking URIs up keeps every key and holds every URI looked up, and nothing else. -/
theorem mem_addLookups {ks us : List Text} {u : Text} : u ∈ addLookups ks us ↔ u ∈ ks ∨ u ∈ us := by
  induction us generalizing ks with
  | nil => simp
  | cons v us ih =>
    show u ∈ addLookups (if v ∈ ks then ks else ks ++ [v]) us ↔ _
    rw [ih]
    by_cases hv : v ∈ ks
    · rw [if_pos hv]
      constructor
      · rintro (h | h)
        · exact .inl h
        · exact .inr (List.mem_cons_of_mem v h)
      · rintro (h | h)
        · exact .inl h
        · rcases List.mem_cons.mp h with rfl | h
          · exact .inl hv
          · exact .inr h
    · rw [if_neg hv]
      simp only [List.mem_append, List.mem_cons]
      tauto

/-- Looking URIs up adds each at most once. -/
theorem nodup_addLookups {ks : List Text} (hks : ks.Nodup) (us : List Text) :
    (addLookups ks us).Nodup := by
  induction us generalizing ks with
  | nil => exact hks
  | cons v us ih =>
    apply ih
    show (if v ∈ ks then ks else ks ++ [v]).Nodup
    by_cases hv : v ∈ ks
    · rw [if_pos hv]
      exact hks
    · rw [if_neg hv, List.nodup_append]
      refine ⟨hks, List.nodup_singleton v, fun a ha b hb => ?_⟩
      rw [List.mem_singleton] at hb
      subst hb
      rintro rfl
      exact hv ha

variable {disk : Disk} {c c' : Cache} {u : Text} {s : Snapshot}

/-- A lookup adds its URI to the keys unless it is held. -/
theorem keys_of_get (h : c.get disk u = .ok (s, c')) : c'.keys = addLookups c.keys [u] := by
  rcases get_eq_ok.mp h with ⟨hf, hc⟩ | ⟨hf, r, -, -, hc⟩
  · have hu : u ∈ c.keys := mem_keys.mpr (by rw [hf]; rfl)
    simp [hc, addLookups, hu]
  · have hu : u ∉ c.keys := by
      rw [mem_keys, hf]
      exact Bool.false_ne_true
    simp [hc, addLookups, hu]

/-- Cutting code looks up its URI, if there is one. -/
theorem keys_of_codeAt {uri : Option Text} {r : Option TextRange} {code : Option Text}
    (h : c.codeAt disk uri r = .ok (code, c')) : c'.keys = addLookups c.keys uri.toList := by
  cases uri with
  | none =>
    cases h
    rfl
  | some u =>
    obtain ⟨s, hg, -⟩ := codeAt_some_eq_ok.mp h
    exact keys_of_get hg

end Cache

/-! ## Lookups of computations -/

namespace Build

variable {α β : Type}

/-- Whenever the computation completes, it has looked up `us` in order. -/
def LooksUp (m : Build α) (us : List Text) : Prop :=
  ∀ c a c', m c = .ok (a, c') → c'.keys = Cache.addLookups c.keys us

namespace LooksUp

variable {m : Build α} {f : α → Build β} {us vs : List Text}

theorem of_eq (h : LooksUp m us) (he : us = vs) : LooksUp m vs := he ▸ h

/-- A computation that keeps the cache's keys looks up nothing. -/
theorem of_keys (h : ∀ c a c', m c = .ok (a, c') → c'.keys = c.keys) : LooksUp m [] :=
  fun c a c' hm => h c a c' hm

theorem pure (a : α) : LooksUp (Pure.pure a : Build α) [] :=
  of_keys fun _ _ _ h => by cases h; rfl

theorem ofExcept (e : Except Fault α) : LooksUp (Build.ofExcept e) [] :=
  of_keys fun _ _ _ h => by
    cases e with
    | error f => cases h
    | ok a₀ => cases h; rfl

theorem settings : LooksUp Build.settings [] :=
  of_keys fun _ _ _ h => by cases h; rfl

/-- Logging looks nothing up. -/
theorem logAll (rs : List LogRecord) : LooksUp (Build.logAll rs) [] :=
  of_keys fun _ _ _ h => by cases h; rfl

theorem fingerprint (code : Text) : LooksUp (Build.fingerprint code) [] := ofExcept _

theorem codeAt (w : Workspace) (uri : Option Text) (r : Option TextRange) :
    LooksUp (Build.codeAt w uri r) uri.toList :=
  fun _ _ _ h => Cache.keys_of_codeAt h

theorem bind (hm : LooksUp m us) (hf : ∀ a, LooksUp (f a) vs) : LooksUp (m >>= f) (us ++ vs) := by
  intro c b c' h
  obtain ⟨a, c₁, h₁, h₂⟩ := Build.bind_eq_ok h
  rw [hf a c₁ b c' h₂, hm c a c₁ h₁, Cache.addLookups_append]

/-- A step whose value is known when it completes: only the continuation at that value counts. -/
theorem ofExcept_bind {e : Except Fault α} (hf : ∀ a, e = .ok a → LooksUp (f a) vs) :
    LooksUp (Build.ofExcept e >>= f) vs := by
  intro c b c' h
  obtain ⟨a, c₁, h₁, h₂⟩ := Build.bind_eq_ok h
  cases e with
  | error f => cases h₁
  | ok a₀ =>
    cases h₁
    exact hf a rfl c b c' h₂

/-- Resolving an editor path looks nothing up, and its value is the path's URI. -/
theorem editorUri_bind {logger : String} {cwd : PosixPath} {p : Text} {folder : Option Text}
    {f : Option Text → Build β} (hf : LooksUp (f (FileUri.ofEditorPath? cwd p folder)) vs) :
    LooksUp (Build.editorUri logger cwd p folder >>= f) vs := by
  intro c b c' h
  rw [Build.editorUri_bind_apply] at h
  exact hf (c.note _) b c' h

theorem map (g : α → β) (hm : LooksUp m us) : LooksUp (g <$> m) us := by
  rw [map_eq_pure_bind]
  exact (hm.bind fun a => pure (g a)).of_eq (List.append_nil us)

theorem mapM {xs : List α} {f : α → Build β} {L : α → List Text}
    (hf : ∀ x, LooksUp (f x) (L x)) : LooksUp (xs.mapM f) (xs.flatMap L) := by
  induction xs with
  | nil => exact pure []
  | cons x xs ih =>
    rw [List.mapM_cons, List.flatMap_cons]
    exact ((hf x).bind fun b => ih.bind fun bs => pure (b :: bs)).of_eq (by simp)

/-- Mapping over locations that each look up the URI they have, if any, looks up those URIs. -/
theorem mapM_filterMap {xs : List α} {f : α → Build β} {g : α → Option Text}
    (hf : ∀ x, LooksUp (f x) (g x).toList) : LooksUp (xs.mapM f) (xs.filterMap g) := by
  rw [List.filterMap_eq_flatMap_toList]
  exact mapM hf

end LooksUp

end Build

/-! ## Lookups of documents -/

section Builders

variable (w : Workspace)

theorem Location.ofRemote_looksUp (folder : Option Text) (l : RemoteLocation) :
    Build.LooksUp (Location.ofRemote w folder l)
      (FileUri.ofEditorPath? w.cwd l.ideFilePath folder).toList := by
  rw [Location.ofRemote_eq_bind]
  exact .editorUri_bind ((Build.LooksUp.bind (.ofExcept _) fun _ =>
    .bind (.codeAt _ _ _) fun _ => .bind (.logAll _) fun _ => .bind .settings fun _ =>
      .pure _).of_eq (by simp))

theorem Flow.ofRemote_looksUp (folder : Option Text) (f : RemoteFlow) :
    Build.LooksUp (Flow.ofRemote w folder f)
      (f.locations.filterMap fun l => FileUri.ofEditorPath? w.cwd l.ideFilePath folder) :=
  .map _ (.mapM_filterMap fun l => Location.ofRemote_looksUp w folder l)

/-- The URI a taint location is looked up by: its path joined to the folder, if it has a path. -/
def TaintLocation.lookup? (folder : Text) (l : TaintLocation) : Option Text :=
  l.filePath.bind fun p => (FileUri.joinUri folder p).toOption

theorem Location.ofTaint_looksUp (folder : Text) (l : TaintLocation) :
    Build.LooksUp (Location.ofTaint w folder l) (l.lookup? folder).toList := by
  unfold Location.ofTaint TaintLocation.lookup?
  cases hp : l.filePath with
  | none => exact .bind .settings fun _ => .pure _
  | some p =>
    -- the join's value is the URI looked up; a join that stops completes nothing
    refine .ofExcept_bind fun u hu => ?_
    have hj : FileUri.joinUri folder p = .ok u := by
      cases hj : FileUri.joinUri folder p with
      | error e => rw [hj] at hu; cases hu
      | ok u₀ => rw [hj] at hu; cases hu; rfl
    rw [Option.bind_some, hj, Except.toOption, Option.toList_some]
    refine Build.LooksUp.of_eq (.bind (.codeAt _ _ _) fun _ => ?_) (List.append_nil [u])
    dsimp only
    -- whether the code is fingerprinted or not, nothing more is looked up
    split
    · exact .bind (.map _ (.fingerprint _)) fun _ => .bind (.logAll _) fun _ => .pure _
    · exact .bind (.pure _) fun _ => .bind (.logAll _) fun _ => .pure _

theorem Flow.ofTaint_looksUp (folder : Text) (f : TaintFlow) :
    Build.LooksUp (Flow.ofTaint w folder f)
      (f.locations.filterMap (TaintLocation.lookup? folder)) :=
  .map _ (.mapM_filterMap fun l => Location.ofTaint_looksUp w folder l)

end Builders

/-- The URIs building a document looks up, in order: a remote issue the URI of its own path, then
those of its flow locations' paths, each where the path has one; a taint vulnerability the join of
its folder with the path of each flow location that has one; a live issue none. -/
def IssueDocument.lookups (ctx : BatchContext) : IssueDocument → List Text
  | .remote r =>
    (FileUri.ofEditorPath? ctx.workspace.cwd r.issueDetails.ideFilePath ctx.folder).toList ++
      r.issueDetails.flows.flatMap fun f =>
        f.locations.filterMap fun l =>
          FileUri.ofEditorPath? ctx.workspace.cwd l.ideFilePath ctx.folder
  | .taint t =>
    t.flows.flatMap fun f => f.locations.filterMap (TaintLocation.lookup? t.workspaceFolderUri)
  | .live _ => []

theorem DisplayIssue.buildBy_looksUp (ctx : BatchContext) :
    ∀ d, Build.LooksUp (DisplayIssue.buildBy ctx d) (d.lookups ctx)
  | .remote r => by
    show Build.LooksUp (DisplayIssue.ofRemote ctx.workspace ctx.folder ctx.connectionId r) _
    exact .editorUri_bind ((Build.LooksUp.bind (.codeAt _ _ _) fun _ =>
      .bind (.mapM fun f => Flow.ofRemote_looksUp ctx.workspace ctx.folder f) fun _ =>
        .pure _).of_eq (by simp [IssueDocument.lookups]))
  | .taint t => by
    show Build.LooksUp (DisplayIssue.ofTaint ctx.workspace ctx.connectionId t) _
    -- the issue's own path is joined but never looked up; its date looks nothing up
    exact (Build.LooksUp.bind (.ofExcept _) fun _ =>
      .bind (.mapM fun f => Flow.ofTaint_looksUp ctx.workspace t.workspaceFolderUri f) fun _ =>
        .bind (.ofExcept _) fun _ => .pure _).of_eq (by simp [IssueDocument.lookups])
  | .live _ => .bind .settings fun _ => .bind (.ofExcept _) fun _ => .bind (.logAll _) fun _ =>
      .pure _

theorem DisplayIssue.build_looksUp (ctx : BatchContext) (d : IssueDocument) :
    Build.LooksUp (DisplayIssue.build ctx d) (d.lookups ctx) :=
  ((DisplayIssue.buildBy_looksUp ctx d).bind fun _ => .bind (.logAll _) fun _ => .pure _).of_eq
    (by simp)

/-- **The files a batch reads.** When a batch completes from a fresh cache, the cache holds the
URIs its documents look up, in the order of their first lookups and each once: for a remote issue
the URIs of its own path and of its flow locations' paths, where a path has one; for a taint
vulnerability its folder joined with the path of each flow location that has one; nothing for a
live issue, a taint vulnerability's own path, a taint location without a path or a path with no
URI. A URI is held exactly when some document looks it up. -/
theorem batch_lookups (ctx : BatchContext) (st : Settings) (docs : List IssueDocument)
    {issues : List DisplayIssue} {c : Cache}
    (h : DisplayIssue.batch ctx docs (Cache.empty st) = .ok (issues, c)) :
    c.keys = Cache.addLookups [] (docs.flatMap (·.lookups ctx)) ∧ c.keys.Nodup ∧
      ∀ u, c.contains u = true ↔ ∃ d ∈ docs, u ∈ d.lookups ctx := by
  have hkeys : c.keys = Cache.addLookups [] (docs.flatMap (·.lookups ctx)) :=
    Build.LooksUp.mapM (DisplayIssue.build_looksUp ctx) _ _ _ h
  refine ⟨hkeys, hkeys ▸ Cache.nodup_addLookups List.nodup_nil _, fun u => ?_⟩
  rw [Cache.contains_iff, ← Cache.mem_keys, hkeys, Cache.mem_addLookups]
  simp


/-- One document of each source: a remote issue on `a` with a flow through `b`, a taint
vulnerability of the folder `file:///ws` on `a` with a flow through `c` and through a location
without a path, and a live issue on `a`. -/
def oneOfEachSource : List IssueDocument :=
  [.remote ⟨none, ⟨none, Text.ofString "r", Text.ofString "m", [97], ⟨1, 0, 1, 1⟩, none, none,
      false, [⟨[⟨[98], none, none, none⟩]⟩]⟩⟩,
   .taint ⟨none, Text.ofString "file:///ws", [97], Text.ofString "m", Text.ofString "s",
      Text.ofString "r", none, ⟨2024, 1, 1, 0, 0, 0, 0, none⟩,
      [⟨[⟨some [99], none, none⟩, ⟨none, none, none⟩]⟩]⟩,
   .live ⟨some [97], Text.ofString "m", Text.ofString "s", Text.ofString "r", none, []⟩]

/-- The batch of one document of each source completes against the workspace with the file `/a`,
and leaves exactly its lookups in the cache. -/
theorem batch_lookups_one_of_each :
    ∃ issues c, DisplayIssue.batch ⟨crlfWorkspace, none, none⟩ oneOfEachSource
        (Cache.empty utf8Settings) = .ok (issues, c) ∧
      c.keys = Cache.addLookups []
        (oneOfEachSource.flatMap (·.lookups ⟨crlfWorkspace, none, none⟩)) ∧
      c.keys.Nodup ∧ ∀ u, c.contains u = true ↔
        ∃ d ∈ oneOfEachSource, u ∈ d.lookups ⟨crlfWorkspace, none, none⟩ := by
  -- the paths have no surrogate, and no location has a range, so nothing is fingerprinted
  have hpaths : ∀ d ∈ oneOfEachSource, d.PathsEncodable crlfWorkspace := by
    simp only [oneOfEachSource, List.mem_cons, List.not_mem_nil, or_false, forall_eq_or_imp,
      forall_eq, IssueDocument.PathsEncodable]
    refine ⟨trivial, ⟨by decide, ?_⟩, fun p hp => ?_, fun _ h => by cases h⟩
    · exact ⟨fun p hp => by cases hp; decide, fun _ h => by cases h⟩
    · cases hp
      rfl
  have hbuildable : ∀ d ∈ oneOfEachSource, d.Buildable crlfWorkspace utf8Settings := by
    simp only [oneOfEachSource, List.mem_cons, List.not_mem_nil, or_false, forall_eq_or_imp,
      forall_eq]
    refine ⟨?_, ?_, ?_⟩
    · simp [IssueDocument.Buildable, RemoteLocation.Fingerprintable]
    · simp [IssueDocument.Buildable, TaintLocation.Fingerprintable]
      decide
    · simp [IssueDocument.Buildable]
  have hok : (DisplayIssue.batch ⟨crlfWorkspace, none, none⟩ oneOfEachSource
      (Cache.empty utf8Settings)).isOk := by
    rw [DisplayIssue.batch,
      Build.Oblivious.mapM_isOk (oblivious_build _) (Cache.consistent_empty _)]
    intro d hd
    rw [Cache.settings_empty]
    refine (DisplayIssue.build_isOk (c := Cache.empty utf8Settings) utf8Settings_codec (by decide)
      (Cache.consistent_empty _) d ?_).mpr ?_
    exacts [hpaths d hd, hbuildable d hd]
  obtain ⟨⟨issues, c⟩, h⟩ := Except.isOk_iff.mp hok
  exact ⟨issues, c, h, batch_lookups _ _ _ h⟩

example : oneOfEachSource.flatMap (·.lookups ⟨crlfWorkspace, none, none⟩) =
    [Text.ofString "file:///a", Text.ofString "file:///b", Text.ofString "file:///ws/c"] := by
  decide

end LocationDrift
