import LocationDrift.Display.Batch
import LocationDrift.Proofs.Cache

/-!
# Sharing one cache across a batch is unobservable

A batch builds the display parameters of its documents in order, all through one snapshot cache,
against a disk that does not change while it runs.

**Oblivious computations (`Build.Oblivious`).** A computation over the cache is oblivious when,
from any cache consistent with the disk, it gives what it gives from an empty cache with the same
settings, and it leaves a consistent cache with those settings. Lookups are oblivious because a
consistent cache answers like a fresh read (`Cache.Consistent.codeAt`); pure values, the settings
and fingerprints do not touch the cache; and obliviousness is kept by `bind` and by `mapM`, so every
builder is oblivious (`oblivious_build`).

**Theorem (`batch_eq_fresh_builds`).** From an empty cache, a batch gives what building each
document alone against a fresh cache gives, in order, the first fault included; so it does not
depend on which documents share the cache, and a permutation of the documents permutes the
display parameters. Each display parameter's flows are the document's flows with each location
built alone (`IssueDocument.freshFlows`): as many flows, as many locations in each, in order.
-/

namespace LocationDrift

namespace Build

variable {α β : Type}

@[simp] theorem pure_apply (a : α) (c : Cache) : (pure a : Build α) c = .ok (a, c) := rfl

@[simp] theorem logAll_apply (rs : List LogRecord) (c : Cache) :
    Build.logAll rs c = .ok ((), c.note rs) := rfl

/-- Resolving an editor path gives its URI and logs why it has none. -/
@[simp] theorem editorUri_apply (logger : String) (cwd : PosixPath) (p : Text)
    (folder : Option Text) (c : Cache) :
    Build.editorUri logger cwd p folder c =
      .ok (FileUri.ofEditorPath? cwd p folder, c.note (FileUri.resolveRecords logger cwd p folder)) :=
  rfl

theorem bind_apply (m : Build α) (f : α → Build β) (c : Cache) :
    (m >>= f) c =
      match m c with
      | .ok (a, c') => f a c'
      | .error e => .error e := by
  show StateT.bind m f c = _
  simp only [StateT.bind, bind, Except.bind]
  cases m c <;> rfl

/-- What follows resolving an editor path starts from the path's URI, with its records logged. -/
theorem editorUri_bind_apply (logger : String) (cwd : PosixPath) (p : Text) (folder : Option Text)
    (f : Option Text → Build β) (c : Cache) :
    (Build.editorUri logger cwd p folder >>= f) c =
      f (FileUri.ofEditorPath? cwd p folder) (c.note (FileUri.resolveRecords logger cwd p folder)) := by
  rw [bind_apply, editorUri_apply]

theorem map_apply (g : α → β) (m : Build α) (c : Cache) :
    (g <$> m) c = (m c).map fun (a, c') => (g a, c') := by
  show StateT.map g m c = _
  simp only [StateT.map, bind, Except.bind]
  cases m c <;> rfl

/-- A bind that completes completed both of its parts. -/
theorem bind_eq_ok {m : Build α} {f : α → Build β} {c c' : Cache} {b : β}
    (h : (m >>= f) c = .ok (b, c')) : ∃ a c₁, m c = .ok (a, c₁) ∧ f a c₁ = .ok (b, c') := by
  rw [bind_apply] at h
  cases hm : m c with
  | error e => rw [hm] at h; cases h
  | ok p => rw [hm] at h; exact ⟨p.1, p.2, rfl, h⟩

/-! ## Oblivious computations -/

/-- A computation that reads the cache only through lookups a consistent cache answers like a
fresh read: from a consistent cache it gives what it gives from an empty one with the same
settings, and it leaves a consistent cache with those settings. -/
structure Oblivious (disk : Disk) (m : Build α) : Prop where
  value : ∀ c, c.Consistent disk → (m c).map Prod.fst = (m (Cache.empty c.settings)).map Prod.fst
  keeps : ∀ c a c', c.Consistent disk → m c = .ok (a, c') →
    c'.Consistent disk ∧ c'.settings = c.settings

namespace Oblivious

variable {disk : Disk} {m : Build α} {f : α → Build β}

theorem pure (a : α) : Oblivious disk (Pure.pure a : Build α) :=
  ⟨fun _ _ => rfl, fun _ _ _ hc h => by cases h; exact ⟨hc, rfl⟩⟩

theorem ofExcept (e : Except Fault α) : Oblivious disk (Build.ofExcept e) := by
  refine ⟨fun c _ => by cases e <;> rfl, fun c a c' hc h => ?_⟩
  cases e with
  | error f => cases h
  | ok a₀ => cases h; exact ⟨hc, rfl⟩

theorem settings : Oblivious disk Build.settings :=
  ⟨fun _ _ => rfl, fun _ _ _ hc h => by cases h; exact ⟨hc, rfl⟩⟩

theorem fingerprint (code : Text) : Oblivious disk (Build.fingerprint code) := ofExcept _

/-- Logging touches neither the snapshots nor the settings. -/
theorem logAll (rs : List LogRecord) : Oblivious disk (Build.logAll rs) :=
  ⟨fun _ _ => rfl, fun _ _ _ hc h => by cases h; exact ⟨hc.note rs, rfl⟩⟩

theorem codeAt (w : Workspace) (uri : Option Text) (r : Option TextRange) :
    Oblivious w.disk (Build.codeAt w uri r) :=
  ⟨fun c hc => by
    show (c.codeAt w.disk uri r).map Prod.fst =
      ((Cache.empty c.settings).codeAt w.disk uri r).map Prod.fst
    rw [hc.codeAt, (Cache.consistent_empty c.settings).codeAt]
    rfl,
  fun _ _ _ hc h => hc.codeAt_ok h⟩

/-- From a consistent cache, a bind of oblivious computations gives what its two parts give from
empty caches: the first part gives its fresh value and leaves a consistent cache with the same
settings, from which the second part gives its fresh value too. -/
theorem bind_value (hm : Oblivious disk m) (hf : ∀ a, Oblivious disk (f a)) {c : Cache}
    (hc : c.Consistent disk) :
    ((m >>= f) c).map Prod.fst =
      (m (Cache.empty c.settings)).map Prod.fst >>= fun a =>
        (f a (Cache.empty c.settings)).map Prod.fst := by
  have hv := hm.value c hc
  rw [bind_apply]
  cases h₁ : m c with
  | error e =>
    rw [h₁] at hv
    rw [← hv]
    rfl
  | ok p =>
    obtain ⟨a, c₁⟩ := p
    rw [h₁] at hv
    rw [← hv]
    obtain ⟨hc₁, hs₁⟩ := hm.keeps c a c₁ hc h₁
    show (f a c₁).map Prod.fst = _
    rw [(hf a).value c₁ hc₁, hs₁]
    rfl

theorem map_value (g : α → β) (m : Build α) (c : Cache) :
    ((g <$> m) c).map Prod.fst = g <$> (m c).map Prod.fst := by
  rw [map_apply]
  cases m c <;> rfl

/-- Binding oblivious computations is oblivious. -/
theorem bind (hm : Oblivious disk m) (hf : ∀ a, Oblivious disk (f a)) :
    Oblivious disk (m >>= f) := by
  constructor
  · intro c hc
    rw [hm.bind_value hf hc, hm.bind_value hf (Cache.consistent_empty c.settings)]
    rfl
  · intro c b c' hc h
    rw [bind_apply] at h
    cases h₁ : m c with
    | error e => rw [h₁] at h; cases h
    | ok p =>
      obtain ⟨a, c₁⟩ := p
      rw [h₁] at h
      obtain ⟨hc₁, hs₁⟩ := hm.keeps c a c₁ hc h₁
      obtain ⟨hc', hs'⟩ := (hf a).keeps c₁ b c' hc₁ h
      exact ⟨hc', hs'.trans hs₁⟩

theorem map (g : α → β) (hm : Oblivious disk m) : Oblivious disk (g <$> m) := by
  rw [map_eq_pure_bind]
  exact hm.bind fun a => pure (g a)

theorem editorUri (logger : String) (cwd : PosixPath) (p : Text) (folder : Option Text) :
    Oblivious disk (Build.editorUri logger cwd p folder) :=
  (logAll _).bind fun _ => pure _

theorem mapM {xs : List α} (hf : ∀ x, Oblivious disk (f x)) : Oblivious disk (xs.mapM f) := by
  induction xs with
  | nil => exact pure []
  | cons x xs ih =>
    rw [List.mapM_cons]
    exact (hf x).bind fun b => ih.bind fun bs => pure (b :: bs)

/-- From a consistent cache, mapping an oblivious computation over a list gives what each element
gives alone from an empty cache, the first fault included. -/
theorem mapM_value {xs : List α} (hf : ∀ x, Oblivious disk (f x)) {c : Cache}
    (hc : c.Consistent disk) :
    (xs.mapM f c).map Prod.fst = xs.mapM fun x => (f x (Cache.empty c.settings)).map Prod.fst := by
  induction xs generalizing c with
  | nil => rfl
  | cons x xs ih =>
    have hrest : ∀ b, ((xs.mapM f >>= fun bs => Pure.pure (b :: bs)) (Cache.empty c.settings)).map
        Prod.fst = (xs.mapM fun x => (f x (Cache.empty c.settings)).map Prod.fst) >>= fun bs =>
          Except.ok (b :: bs) := by
      intro b
      have hxs := ih (Cache.consistent_empty c.settings : (Cache.empty c.settings).Consistent disk)
      rw [Cache.settings_empty] at hxs
      rw [(mapM hf).bind_value (fun bs => pure (b :: bs)) (Cache.consistent_empty c.settings),
        Cache.settings_empty, hxs]
      rfl
    rw [List.mapM_cons, (hf x).bind_value (fun b => (mapM hf).bind fun bs => pure (b :: bs)) hc,
      List.mapM_cons]
    simp only [hrest]
    rfl

end Oblivious

end Build

/-! ## Lists of results -/

namespace Except

variable {ε α β : Type} {g : α → Except ε β}

/-- A bind that completes completed both of its parts. -/
theorem bind_eq_ok {x : Except ε α} {f : α → Except ε β} {b : β} (h : (x >>= f) = .ok b) :
    ∃ a, x = .ok a ∧ f a = .ok b := by
  cases x with
  | error e => cases h
  | ok a => exact ⟨a, rfl, h⟩

/-- A traversal that completes completed at its head and along its tail. -/
theorem mapM_cons_eq_ok {x : α} {xs : List α} {bs : List β} :
    (x :: xs).mapM g = .ok bs ↔ ∃ b bs', g x = .ok b ∧ xs.mapM g = .ok bs' ∧ bs = b :: bs' := by
  rw [List.mapM_cons]
  cases hx : g x with
  | error e => simp [bind, Except.bind]
  | ok b =>
    cases hxs : xs.mapM g with
    | error e => simp [bind, Except.bind]
    | ok bs' => simp [bind, Except.bind, pure, Except.pure, eq_comm]

/-- A traversal completes exactly when every element does. -/
theorem mapM_isOk {xs : List α} : (xs.mapM g).isOk ↔ ∀ x ∈ xs, (g x).isOk := by
  induction xs with
  | nil => simp [Except.isOk, Except.toBool, pure, Except.pure]
  | cons x xs ih =>
    rw [List.mapM_cons, List.forall_mem_cons, ← ih]
    cases g x <;> cases xs.mapM g <;>
      simp [bind, Except.bind, pure, Except.pure, Except.isOk, Except.toBool]

/-- Traversing a permutation of a list that completes completes with a permutation of the
results. -/
theorem mapM_perm {xs ys : List α} (hp : xs.Perm ys) {bs : List β} (h : xs.mapM g = .ok bs) :
    ∃ bs', ys.mapM g = .ok bs' ∧ bs'.Perm bs := by
  induction hp generalizing bs with
  | nil => exact ⟨bs, h, List.Perm.refl bs⟩
  | cons x _ ih =>
    obtain ⟨b, bs₁, hx, hxs, rfl⟩ := mapM_cons_eq_ok.mp h
    obtain ⟨bs₂, hys, hperm⟩ := ih hxs
    exact ⟨b :: bs₂, mapM_cons_eq_ok.mpr ⟨b, bs₂, hx, hys, rfl⟩, hperm.cons b⟩
  | swap x y l =>
    obtain ⟨b, bs₁, hy, hrest, rfl⟩ := mapM_cons_eq_ok.mp h
    obtain ⟨a, bs₂, hx, hl, rfl⟩ := mapM_cons_eq_ok.mp hrest
    refine ⟨a :: b :: bs₂, ?_, List.Perm.swap b a bs₂⟩
    exact mapM_cons_eq_ok.mpr ⟨a, b :: bs₂, hx, mapM_cons_eq_ok.mpr ⟨b, bs₂, hy, hl, rfl⟩, rfl⟩
  | trans _ _ ih₁ ih₂ =>
    obtain ⟨bs₁, h₁, hp₁⟩ := ih₁ h
    obtain ⟨bs₂, h₂, hp₂⟩ := ih₂ h₁
    exact ⟨bs₂, h₂, hp₂.trans hp₁⟩

end Except

/-! ## Building a document -/

/-- A document's display parameter is what its source's builder gives, with the built record
logged after. -/
theorem DisplayIssue.build_eq (ctx : BatchContext) (d : IssueDocument) (c : Cache) :
    DisplayIssue.build ctx d c =
      (DisplayIssue.buildBy ctx d c).map fun (issue, c') => (issue, c'.note [issue.builtRecord d.kind]) := by
  rw [DisplayIssue.build, Build.bind_apply]
  cases DisplayIssue.buildBy ctx d c <;> rfl

/-- A built display parameter is the one its source's builder gives. -/
theorem DisplayIssue.buildBy_of_build {ctx : BatchContext} {d : IssueDocument} {c c' : Cache}
    {issue : DisplayIssue} (h : DisplayIssue.build ctx d c = .ok (issue, c')) :
    ∃ c₀, DisplayIssue.buildBy ctx d c = .ok (issue, c₀) := by
  rw [DisplayIssue.build_eq] at h
  cases hb : DisplayIssue.buildBy ctx d c with
  | error e => rw [hb] at h; cases h
  | ok p =>
    rw [hb] at h
    cases h
    exact ⟨p.2, rfl⟩

/-! ## Every builder is oblivious -/

section Builders

variable (w : Workspace)

theorem oblivious_locationOfRemote (folder : Option Text) (l : RemoteLocation) :
    Build.Oblivious w.disk (Location.ofRemote w folder l) := by
  unfold Location.ofRemote
  refine .bind (.editorUri ..) fun _ => ?_
  dsimp only
  -- the range's hash in its three cases, each followed by the same lookup and log
  split
  · exact .bind (.pure _) fun _ => .bind (.codeAt ..) fun _ =>
      .bind (.logAll _) fun _ => .bind .settings fun _ => .pure _
  · split
    · exact .bind (.pure _) fun _ => .bind (.codeAt ..) fun _ =>
        .bind (.logAll _) fun _ => .bind .settings fun _ => .pure _
    · exact .bind (.map _ (.fingerprint _)) fun _ => .bind (.codeAt ..) fun _ =>
        .bind (.logAll _) fun _ => .bind .settings fun _ => .pure _

theorem oblivious_flowOfRemote (folder : Option Text) (f : RemoteFlow) :
    Build.Oblivious w.disk (Flow.ofRemote w folder f) :=
  .map _ (.mapM fun l => oblivious_locationOfRemote w folder l)

theorem oblivious_ofRemote (folder connectionId : Option Text) (req : ShowRequest) :
    Build.Oblivious w.disk (DisplayIssue.ofRemote w folder connectionId req) :=
  .bind (.editorUri ..) fun _ => .bind (.codeAt ..) fun _ =>
    .bind (.mapM fun f => oblivious_flowOfRemote w folder f) fun _ => .pure _

theorem oblivious_locationOfTaint (folder : Text) (l : TaintLocation) :
    Build.Oblivious w.disk (Location.ofTaint w folder l) := by
  unfold Location.ofTaint
  split
  · exact .bind .settings fun _ => .pure _
  · refine .bind (.ofExcept _) fun _ => .bind (.codeAt ..) fun _ => ?_
    dsimp only
    split
    · exact .bind (.map _ (.fingerprint _)) fun _ => .bind (.logAll _) fun _ => .pure _
    · exact .bind (.pure _) fun _ => .bind (.logAll _) fun _ => .pure _

theorem oblivious_flowOfTaint (folder : Text) (f : TaintFlow) :
    Build.Oblivious w.disk (Flow.ofTaint w folder f) :=
  .map _ (.mapM fun l => oblivious_locationOfTaint w folder l)

theorem oblivious_ofTaint (connectionId : Option Text) (t : TaintIssue) :
    Build.Oblivious w.disk (DisplayIssue.ofTaint w connectionId t) :=
  .bind (.ofExcept _) fun _ =>
    .bind (.mapM fun f => oblivious_flowOfTaint w t.workspaceFolderUri f) fun _ =>
      .bind (.ofExcept _) fun _ => .pure _

theorem oblivious_buildBy (ctx : BatchContext) :
    ∀ d, Build.Oblivious ctx.workspace.disk (DisplayIssue.buildBy ctx d)
  | .remote r => oblivious_ofRemote ctx.workspace ctx.folder ctx.connectionId r
  | .taint t => oblivious_ofTaint ctx.workspace ctx.connectionId t
  | .live _ => .bind .settings fun _ => .bind (.ofExcept _) fun _ => .bind (.logAll _) fun _ => .pure _

theorem oblivious_build (ctx : BatchContext) (d : IssueDocument) :
    Build.Oblivious ctx.workspace.disk (DisplayIssue.build ctx d) :=
  .bind (oblivious_buildBy ctx d) fun _ => .bind (.logAll _) fun _ => .pure _

end Builders

/-! ## Flows location by location -/

/-- The flows of a document with each location built alone, against a fresh cache with the given
settings: the shape's builder applied to each location of each flow, in order. -/
def IssueDocument.freshFlows (ctx : BatchContext) (st : Settings) :
    IssueDocument → Except Fault (List Flow)
  | .remote r => r.issueDetails.flows.mapM fun f => Flow.mk <$> f.locations.mapM fun l =>
      (Location.ofRemote ctx.workspace ctx.folder l (Cache.empty st)).map Prod.fst
  | .taint t => t.flows.mapM fun f => Flow.mk <$> f.locations.mapM fun l =>
      (Location.ofTaint ctx.workspace t.workspaceFolderUri l (Cache.empty st)).map Prod.fst
  | .live i => i.flows.mapM fun f => Flow.mk <$> f.locations.mapM (Location.ofLive ctx.workspace st)

section Flows

variable (w : Workspace)

/-- From a consistent cache, a remote flow has its locations each built alone. -/
theorem flowOfRemote_value (folder : Option Text) (f : RemoteFlow) {c : Cache}
    (hc : c.Consistent w.disk) :
    (Flow.ofRemote w folder f c).map Prod.fst = Flow.mk <$> f.locations.mapM fun l =>
      (Location.ofRemote w folder l (Cache.empty c.settings)).map Prod.fst := by
  rw [Flow.ofRemote, Build.Oblivious.map_value,
    Build.Oblivious.mapM_value (fun l => oblivious_locationOfRemote w folder l) hc]

/-- From a consistent cache, a taint flow has its locations each built alone. -/
theorem flowOfTaint_value (folder : Text) (f : TaintFlow) {c : Cache} (hc : c.Consistent w.disk) :
    (Flow.ofTaint w folder f c).map Prod.fst = Flow.mk <$> f.locations.mapM fun l =>
      (Location.ofTaint w folder l (Cache.empty c.settings)).map Prod.fst := by
  rw [Flow.ofTaint, Build.Oblivious.map_value,
    Build.Oblivious.mapM_value (fun l => oblivious_locationOfTaint w folder l) hc]

end Flows

/-- A display parameter built from a fresh cache has the document's flows with each location
built alone: the same number of flows and of locations in each, in order. -/
theorem freshFlows_of_build (ctx : BatchContext) (st : Settings) {d : IssueDocument}
    {issue : DisplayIssue} {c : Cache}
    (h : DisplayIssue.build ctx d (Cache.empty st) = .ok (issue, c)) :
    d.freshFlows ctx st = .ok issue.flows := by
  have he : (Cache.empty st).Consistent ctx.workspace.disk := Cache.consistent_empty st
  obtain ⟨c₀, h⟩ := DisplayIssue.buildBy_of_build h
  cases d with
  | remote r =>
    obtain ⟨_, c₁, h₀, h₁⟩ := Build.bind_eq_ok h
    obtain ⟨_, c₂, h₂, h₃⟩ := Build.bind_eq_ok h₁
    obtain ⟨flows, c₃, h₄, h₅⟩ := Build.bind_eq_ok h₃
    cases h₅
    obtain ⟨hc₁, hs₁⟩ := (Build.Oblivious.editorUri ..).keeps _ _ _ he h₀
    obtain ⟨hc₂, hs₂⟩ := (Build.Oblivious.codeAt ..).keeps _ _ _ hc₁ h₂
    have hv : (r.issueDetails.flows.mapM (Flow.ofRemote ctx.workspace ctx.folder) c₂).map
        Prod.fst = _ :=
      Build.Oblivious.mapM_value (fun f => oblivious_flowOfRemote ctx.workspace ctx.folder f) hc₂
    rw [h₄, hs₂, hs₁, Cache.settings_empty] at hv
    simp only [IssueDocument.freshFlows]
    refine Eq.trans ?_ hv.symm
    congr 1
    funext f
    rw [flowOfRemote_value ctx.workspace _ f he, Cache.settings_empty]
  | taint t =>
    obtain ⟨_, c₁, h₁, h₂⟩ := Build.bind_eq_ok h
    obtain ⟨flows, c₂, h₃, h₄⟩ := Build.bind_eq_ok h₂
    obtain ⟨_, c₃, -, h₅⟩ := Build.bind_eq_ok h₄
    cases h₅
    obtain ⟨hc₁, hs₁⟩ := (Build.Oblivious.ofExcept _).keeps _ _ _ he h₁
    have hv :
        (t.flows.mapM (Flow.ofTaint ctx.workspace t.workspaceFolderUri) c₁).map Prod.fst = _ :=
      Build.Oblivious.mapM_value
        (fun f => oblivious_flowOfTaint ctx.workspace t.workspaceFolderUri f)
        hc₁
    rw [h₃, hs₁, Cache.settings_empty] at hv
    simp only [IssueDocument.freshFlows]
    refine Eq.trans ?_ hv.symm
    congr 1
    funext f
    rw [flowOfTaint_value ctx.workspace _ f he, Cache.settings_empty]
  | live i =>
    obtain ⟨_, c₁, h₁, h₂⟩ := Build.bind_eq_ok h
    cases h₁
    obtain ⟨v, c₂, h₃, h₄⟩ := Build.bind_eq_ok h₂
    obtain ⟨_, c₃, -, h₅⟩ := Build.bind_eq_ok h₄
    cases h₅
    have hl : DisplayIssue.ofLive ctx.workspace st i = .ok issue := by
      cases hi : DisplayIssue.ofLive ctx.workspace st i with
      | error e => rw [Cache.settings_empty, hi] at h₃; cases h₃
      | ok v' => rw [Cache.settings_empty, hi] at h₃; cases h₃; rfl
    unfold DisplayIssue.ofLive at hl
    dsimp only at hl
    -- with or without a path of its own, the issue goes on to the same flows
    split at hl <;>
    · obtain ⟨_, -, h₆⟩ := Except.bind_eq_ok hl
      obtain ⟨flows, h₇, h₈⟩ := Except.bind_eq_ok h₆
      cases h₈
      exact h₇

/-- **Sharing one cache is unobservable.** From an empty cache, a batch gives, in order, what
building each document alone against a fresh cache with the same settings gives, the first fault
included; each display parameter's flows are the document's flows with each location built alone;
and a permutation of the documents gives a permutation of the display parameters. -/
theorem batch_eq_fresh_builds (ctx : BatchContext) (st : Settings) (docs : List IssueDocument) :
    (DisplayIssue.batch ctx docs (Cache.empty st)).map Prod.fst =
        docs.mapM (fun d => (DisplayIssue.build ctx d (Cache.empty st)).map Prod.fst) ∧
      (∀ d issue c, DisplayIssue.build ctx d (Cache.empty st) = .ok (issue, c) →
        d.freshFlows ctx st = .ok issue.flows) ∧
      ∀ docs' issues c, docs'.Perm docs →
        DisplayIssue.batch ctx docs (Cache.empty st) = .ok (issues, c) →
        ∃ issues' c', DisplayIssue.batch ctx docs' (Cache.empty st) = .ok (issues', c') ∧
          issues'.Perm issues := by
  have hfresh : ∀ ds : List IssueDocument,
      (DisplayIssue.batch ctx ds (Cache.empty st)).map Prod.fst =
        ds.mapM (fun d => (DisplayIssue.build ctx d (Cache.empty st)).map Prod.fst) := fun ds =>
    Build.Oblivious.mapM_value (oblivious_build ctx) (Cache.consistent_empty st)
  refine ⟨hfresh docs, fun d issue c h => freshFlows_of_build ctx st h, ?_⟩
  intro docs' issues c hp h
  have hv := hfresh docs
  rw [h] at hv
  obtain ⟨issues', h', hperm⟩ := Except.mapM_perm hp.symm hv.symm
  have hv' := hfresh docs'
  rw [h'] at hv'
  cases hb : DisplayIssue.batch ctx docs' (Cache.empty st) with
  | error e => rw [hb] at hv'; cases hv'
  | ok p =>
    rw [hb] at hv'
    cases hv'
    exact ⟨p.1, p.2, rfl, hperm⟩

end LocationDrift
