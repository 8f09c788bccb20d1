import Mathlib.Data.List.Dedup
import LocationDrift.Proofs.Cache

/-!
# A snapshot cache is a write-once map

**Sessions.** A caller asks a cache for the snapshot of a URI (`get`), for the text of a readable
snapshot (`resolve`), for the code of a range (`codeAt`), whether a URI was looked up (`contains`)
and how many were (`size`). Between two requests the disk may change in any way, files written
or deleted, so each request is served against the disk of its own moment. A request that stops
with a fault leaves the cache as it was, and the caller goes on.

**The map.** The specification never mentions the cache. A URI becomes a key at its first lookup
that completes, and its value is the snapshot that lookup read, on the disk of that moment
(`firstRead`). The map answers every later request about the URI from that snapshot, whatever the
disk holds by then; `resolve` and `codeAt` without a URI look nothing up (`expected`).

**Theorem (`session_write_once`).** Over any session from an empty cache, every answer is the
map's answer, the cache holds exactly the map's keys, each once and with its value, and its size
is their number.

The proof is a simulation. The invariant `Holds` says the cache is the map of the requests so far;
one request keeps it (`Holds.step`), so a whole session does (`Holds.session`).
-/

namespace LocationDrift

namespace Cache

/-- A request to a cache. -/
inductive Request where
  | get (uri : Text)
  | resolve (uri : Option Text)
  | codeAt (uri : Option Text) (range : Option TextRange)
  | contains (uri : Text)
  | size
deriving DecidableEq, Repr

/-- The URI a request looks up, if it looks one up. -/
def Request.lookup? : Request → Option Text
  | .get u => some u
  | .resolve u => u
  | .codeAt u _ => u
  | .contains _ => none
  | .size => none

/-- An answer of a cache. -/
inductive Answer where
  | snapshot (s : Snapshot)
  | text (t : Option Text)
  | flag (b : Bool)
  | count (n : Nat)
deriving DecidableEq, Repr

/-- Serve one request against the disk of its moment. -/
def serve (disk : Disk) : Request → Cache → Except Fault (Answer × Cache)
  | .get u, c => (c.get disk u).map fun (s, c') => (.snapshot s, c')
  | .resolve u, c => (c.resolve disk u).map fun (t, c') => (.text t, c')
  | .codeAt u r, c => (c.codeAt disk u r).map fun (t, c') => (.text t, c')
  | .contains u, c => .ok (.flag (c.contains u), c)
  | .size, c => .ok (.count c.size, c)

/-- One request of a session: its answer, and the cache after it, unchanged by a fault. -/
def step (disk : Disk) (q : Request) (c : Cache) : Except Fault Answer × Cache :=
  match serve disk q c with
  | .ok (a, c') => (.ok a, c')
  | .error f => (.error f, c)

/-- The answers to requests served in order, each against its own disk, and the cache after
them. -/
def session : List (Disk × Request) → Cache → List (Except Fault Answer) × Cache
  | [], c => ([], c)
  | (d, q) :: rest, c =>
    let (a, c₁) := step d q c
    let (as, c₂) := session rest c₁
    (a :: as, c₂)

/-! ## The write-once map -/

section Map

variable (st : Settings)

/-- The snapshot of the first lookup of `u` that completed, read on the disk of its moment. -/
def firstRead (u : Text) : List (Disk × Request) → Option Snapshot
  | [] => none
  | (d, q) :: rest =>
    if q.lookup? = some u then (Snapshot.read st d u).toOption.or (firstRead u rest)
    else firstRead u rest

/-- The URIs a session looks up, in order, with repeats. -/
def lookups (trace : List (Disk × Request)) : List Text := trace.filterMap (·.2.lookup?)

/-- The keys of the map: the URIs with a lookup that completed, each once. -/
def mapKeys (trace : List (Disk × Request)) : List Text :=
  (lookups trace).dedup.filter fun u => (firstRead st u trace).isSome

/-- The snapshot the map holds for `u`, or the read a first lookup takes now. -/
def held (before : List (Disk × Request)) (d : Disk) (u : Text) : Except Fault Snapshot :=
  match firstRead st u before with
  | some s => .ok s
  | none => Snapshot.read st d u

/-- What the map answers a request on the disk `d`, after the requests `before`. -/
def expected (before : List (Disk × Request)) (d : Disk) : Request → Except Fault Answer
  | .get u => .snapshot <$> held st before d u
  | .resolve none => .ok (.text none)
  | .resolve (some u) => (fun s => .text s.content?) <$> held st before d u
  | .codeAt none _ => .ok (.text none)
  | .codeAt (some u) r => (fun s => .text (s.codeOf r)) <$> held st before d u
  | .contains u => .ok (.flag (firstRead st u before).isSome)
  | .size => .ok (.count (mapKeys st before).length)

/-- The map's answers to a session, each after the requests before it. -/
def expectedAll (before : List (Disk × Request)) :
    List (Disk × Request) → List (Except Fault Answer)
  | [] => []
  | (d, q) :: rest => expected st before d q :: expectedAll (before ++ [(d, q)]) rest

end Map

/-! ## First reads -/

section FirstRead

variable {st : Settings} {u : Text} {d : Disk} {q : Request} {before : List (Disk × Request)}

/-- A request adds to the map only the URI it looks up, and only when nothing is held for it. -/
theorem firstRead_snoc :
    firstRead st u (before ++ [(d, q)]) =
      (firstRead st u before).or
        (if q.lookup? = some u then (Snapshot.read st d u).toOption else none) := by
  induction before with
  | nil => by_cases h : q.lookup? = some u <;> simp [firstRead, h]
  | cons p rest ih =>
    obtain ⟨d₀, q₀⟩ := p
    by_cases h₀ : q₀.lookup? = some u
    · simp only [List.cons_append, firstRead, h₀, ↓reduceIte, ih, Option.or_assoc]
    · simp only [List.cons_append, firstRead, h₀, ↓reduceIte, ih]

theorem mem_lookups_of_firstRead (h : (firstRead st u before).isSome) : u ∈ lookups before := by
  induction before with
  | nil => simp [firstRead] at h
  | cons p rest ih =>
    obtain ⟨d₀, q₀⟩ := p
    simp only [lookups, List.filterMap_cons] at ih ⊢
    by_cases h₀ : q₀.lookup? = some u
    · simp [h₀]
    · simp only [firstRead, h₀, ↓reduceIte] at h
      cases hq : q₀.lookup? <;> simp [ih h]

theorem mem_mapKeys : u ∈ mapKeys st before ↔ (firstRead st u before).isSome := by
  simp only [mapKeys, List.mem_filter, List.mem_dedup]
  exact ⟨fun h => h.2, fun h => ⟨mem_lookups_of_firstRead h, h⟩⟩

theorem nodup_mapKeys : (mapKeys st before).Nodup :=
  (List.nodup_dedup _).filter _

end FirstRead

/-! ## The simulation -/

/-- The cache is the map of the requests `before`: the same settings, each key's snapshot its
first read, and each key held once. -/
structure Holds (st : Settings) (before : List (Disk × Request)) (c : Cache) : Prop where
  settings : c.settings = st
  find : ∀ u, c.find? u = firstRead st u before
  nodup : c.keys.Nodup

namespace Holds

variable {st : Settings} {before : List (Disk × Request)} {c : Cache}

theorem empty (st : Settings) : Holds st [] (Cache.empty st) :=
  ⟨rfl, fun _ => rfl, List.nodup_nil⟩

/-- The cache's keys are the map's keys. -/
theorem mem_keys (h : Holds st before c) (u : Text) : u ∈ c.keys ↔ u ∈ mapKeys st before := by
  rw [Cache.mem_keys, mem_mapKeys, h.find]

/-- The cache holds as many URIs as the map has keys. -/
theorem size_eq (h : Holds st before c) : c.size = (mapKeys st before).length := by
  rw [size_eq_length_keys]
  exact ((List.perm_ext_iff_of_nodup h.nodup nodup_mapKeys).mpr (h.mem_keys ·)).length_eq

/-- A request that looks nothing up leaves the map as it was. -/
theorem snoc_of_lookup_none (h : Holds st before c) {d : Disk} {q : Request}
    (hq : q.lookup? = none) : Holds st (before ++ [(d, q)]) c :=
  ⟨h.settings, fun u => by rw [h.find, firstRead_snoc, hq]; simp, h.nodup⟩

/-- A lookup of `u` answers what the map holds, or reads and adds it. -/
theorem get (h : Holds st before c) (d : Disk) (u : Text) :
    (c.get d u).map Prod.fst = held st before d u ∧
      ∀ q, q.lookup? = some u → ∀ s c', c.get d u = .ok (s, c') →
        Holds st (before ++ [(d, q)]) c' := by
  have hu : ∀ q, q.lookup? = some u → ∀ v, firstRead st v (before ++ [(d, q)]) =
      (firstRead st v before).or (if v = u then (Snapshot.read st d u).toOption else none) := by
    intro q hq v
    rw [firstRead_snoc, hq]
    by_cases hv : v = u
    · subst hv; simp
    · simp [hv, Ne.symm hv]
  cases hf : c.find? u with
  | some s₀ =>
    have hr : firstRead st u before = some s₀ := (h.find u).symm.trans hf
    refine ⟨by rw [get_of_find?_some hf, held, hr]; rfl, fun q hq s c' hg => ?_⟩
    rw [get_of_find?_some hf] at hg
    cases hg
    refine ⟨h.settings, fun v => ?_, h.nodup⟩
    rw [hu q hq, h.find]
    by_cases hv : v = u
    · subst hv; simp [hr]
    · simp [hv]
  | none =>
    have hr : firstRead st u before = none := (h.find u).symm.trans hf
    refine ⟨by rw [get_map_fst_of_find?_none hf, held, hr, h.settings], fun q hq s c' hg => ?_⟩
    rcases get_eq_ok.mp hg with ⟨hs, -⟩ | ⟨-, r, htake, rfl, rfl⟩
    · rw [hf] at hs; cases hs
    · have hread := Snapshot.read_of_take htake
      rw [h.settings] at hread
      refine ⟨h.settings, fun v => ?_, ?_⟩
      · rw [hu q hq, find?_note, find?_remember, h.find]
        by_cases hv : v = u
        · subst hv; simp [hr, hread, Except.toOption]
        · simp [hv]
      · rw [keys_note, keys_remember, List.nodup_append]
        refine ⟨h.nodup, List.nodup_singleton u, fun a ha b hb => ?_⟩
        rw [List.mem_singleton] at hb
        subst hb
        rintro rfl
        rw [Cache.mem_keys, hf] at ha
        cases ha

/-- A request whose lookup stops leaves the map as it was. -/
theorem get_error (h : Holds st before c) {d : Disk} {u : Text} {f : Fault}
    (hg : c.get d u = .error f) (q : Request) (hq : q.lookup? = some u) :
    Holds st (before ++ [(d, q)]) c := by
  obtain ⟨hf, hread⟩ := get_eq_error.mp hg
  refine ⟨h.settings, fun v => ?_, h.nodup⟩
  rw [h.find, firstRead_snoc, hq]
  by_cases hv : v = u
  · subst hv
    rw [h.settings] at hread
    simp [hread, Except.toOption]
  · simp [Ne.symm hv]


/-- A request that looks up `u` and answers from its snapshot answers as the map does, and keeps
the simulation. -/
theorem lookup_step (h : Holds st before c) {d : Disk} {u : Text} {q : Request}
    (hq : q.lookup? = some u) (g : Snapshot → Answer)
    (hs : serve d q c = (c.get d u).map fun (s, c') => (g s, c'))
    (he : expected st before d q = g <$> held st before d u) :
    (step d q c).1 = expected st before d q ∧ Holds st (before ++ [(d, q)]) (step d q c).2 := by
  obtain ⟨hval, hnext⟩ := h.get d u
  rw [he, step, hs]
  cases hg : c.get d u with
  | error f =>
    have hheld : held st before d u = .error f := by rw [← hval, hg]; rfl
    exact ⟨by rw [hheld]; rfl, h.get_error hg q hq⟩
  | ok p =>
    obtain ⟨s, c'⟩ := p
    have hheld : held st before d u = .ok s := by rw [← hval, hg]; rfl
    exact ⟨by rw [hheld]; rfl, hnext q hq s c' hg⟩

/-- One request answers as the map does and keeps the simulation. -/
theorem step_spec (h : Holds st before c) (d : Disk) :
    ∀ q, (step d q c).1 = expected st before d q ∧ Holds st (before ++ [(d, q)]) (step d q c).2
  | .get u => h.lookup_step rfl .snapshot rfl rfl
  | .resolve none => ⟨rfl, h.snoc_of_lookup_none rfl⟩
  | .resolve (some u) =>
    h.lookup_step rfl (fun s => .text s.content?)
      (by rw [serve, resolve_some]; cases c.get d u <;> rfl) rfl
  | .codeAt none _ => ⟨rfl, h.snoc_of_lookup_none rfl⟩
  | .codeAt (some u) r =>
    h.lookup_step rfl (fun s => .text (s.codeOf r))
      (by rw [serve, codeAt_some]; cases c.get d u <;> rfl) rfl
  | .contains u =>
    ⟨by simp [step, serve, expected, Cache.contains, h.find], h.snoc_of_lookup_none rfl⟩
  | .size => ⟨by simp [step, serve, expected, h.size_eq], h.snoc_of_lookup_none rfl⟩

/-- A whole session answers as the map does and keeps the simulation. -/
theorem session_spec (h : Holds st before c) (trace : List (Disk × Request)) :
    (session trace c).1 = expectedAll st before trace ∧
      Holds st (before ++ trace) (session trace c).2 := by
  induction trace generalizing before c with
  | nil => exact ⟨rfl, by simpa [session] using h⟩
  | cons p rest ih =>
    obtain ⟨d, q⟩ := p
    obtain ⟨ha, hs⟩ := h.step_spec d q
    obtain ⟨has, hrest⟩ := ih hs
    refine ⟨?_, by simpa [session] using hrest⟩
    simp only [session, expectedAll, ha, has]

end Holds

/-- **The cache is a write-once map.** Over any session of requests from an empty cache, each
served against the disk of its own moment: every answer is the answer of the map whose keys are
the URIs with a completed lookup and whose values are the snapshots their first completed lookups
read; the cache holds exactly those keys, each with its value, and its size is their number; and
every snapshot held is readable exactly when it has no failure, exactly when it has a text. -/
theorem session_write_once (st : Settings) (trace : List (Disk × Request)) :
    let result := session trace (Cache.empty st)
    result.1 = expectedAll st [] trace ∧
      (∀ u, result.2.find? u = firstRead st u trace) ∧
      (∀ u, result.2.contains u = true ↔ u ∈ mapKeys st trace) ∧
      result.2.size = (mapKeys st trace).length ∧
      ∀ u s, result.2.find? u = some s →
        (s.isReadable = true ↔ s.failure? = none) ∧ (s.failure? = none ↔ s.content?.isSome) := by
  intro result
  obtain ⟨hanswers, hholds⟩ := (Holds.empty st).session_spec trace
  rw [List.nil_append] at hholds
  refine ⟨hanswers, hholds.find, fun u => ?_, hholds.size_eq, fun u s _ => s.isReadable_iff⟩
  rw [contains_iff, ← Cache.mem_keys]
  exact hholds.mem_keys u

end Cache

end LocationDrift
