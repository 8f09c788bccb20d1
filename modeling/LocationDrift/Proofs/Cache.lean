import LocationDrift.Snapshot.Cache

/-!
# The snapshot cache, operation by operation

The lemmas here say once what each cache operation can do, so that later proofs never unfold
`Cache.get`, `Cache.resolve` or `Cache.codeAt`.

**A lookup (`get_eq_ok`, `get_eq_error`).** A lookup answers from the cache when the URI is held;
otherwise it reads the disk, remembers what it read and logs the read's records, or stops with the
read's fault and leaves the cache as it was. Logging changes nothing but the log.

**Consistency (`Consistent`).** A cache is consistent with a disk when every snapshot it holds is
what a read of its URI gives on that disk now. While the disk does not change, every operation
keeps a cache consistent, and a consistent cache answers exactly what a fresh read answers
(`Consistent.get`, `Consistent.codeAt`): the cache saves reads and changes nothing else.

**Reads that cannot stop (`read_isOk`).** A read stops with a fault only through the codec: with a
codec that decodes text, every read gives a snapshot.
-/

namespace LocationDrift

namespace Except

variable {ε ε' α β : Type}

@[simp] theorem isOk_ok (a : α) : (Except.ok a : Except ε α).isOk = true := rfl

@[simp] theorem isOk_error (e : ε) : (Except.error e : Except ε α).isOk = false := rfl

/-- A result completes exactly when it holds a value. -/
theorem isOk_iff {x : Except ε α} : x.isOk ↔ ∃ a, x = .ok a := by
  cases x <;> simp [Except.isOk, Except.toBool]

@[simp] theorem isOk_map (g : α → β) (x : Except ε α) : (x.map g).isOk = x.isOk := by
  cases x <;> rfl

@[simp] theorem isOk_mapError (f : ε → ε') (x : Except ε α) : (x.mapError f).isOk = x.isOk := by
  cases x <;> rfl

end Except

namespace Snapshot

/-- A read gives the snapshot of what it met. -/
theorem read_of_take {st : Settings} {disk : Disk} {u : Text} {r : Except (ReadError × Text) Text}
    (h : take st disk u = .ok r) : read st disk u = .ok (ofReading r) := by
  rw [read, h]
  rfl

/-- A read that gives a text met that text. -/
theorem take_of_read_readable {st : Settings} {disk : Disk} {u : Text} {t : Text}
    (h : read st disk u = .ok (readable t)) : take st disk u = .ok (.ok t) := by
  rw [read] at h
  cases ht : take st disk u with
  | error f => rw [ht] at h; cases h
  | ok r =>
    rw [ht] at h
    cases r with
    | ok t' => cases h; rfl
    | error p => cases h

/-- The code a snapshot shows for an optional range: all of its text when there is no range. -/
def codeOf (s : Snapshot) : Option TextRange → Option Text
  | none => s.content?
  | some r => s.codeAt r

@[simp] theorem content?_readable (t : Text) : (readable t).content? = some t := rfl

@[simp] theorem content?_unreadable (f : ReadFailure) : (unreadable f).content? = none := rfl

/-- A snapshot is readable exactly when it has no failure, exactly when it has a text. -/
theorem isReadable_iff (s : Snapshot) :
    (s.isReadable = true ↔ s.failure? = none) ∧ (s.failure? = none ↔ s.content?.isSome) := by
  cases s <;> simp [isReadable, failure?, content?]

/-- With a codec that decodes text, decoding gives the text or the codec's refusal. -/
theorem decodeWith_isOk {st : Settings} {cd : Codec} (hcd : st.codec? = some cd)
    (htext : cd.isText = true) (bs : Bytes) : (decodeWith st bs).isOk := by
  unfold decodeWith
  rw [hcd]
  simp only [htext, Bool.not_true, Bool.false_eq_true, ↓reduceIte]
  cases cd.decode? bs <;> rfl

/-- With a codec that decodes text, every read reaches a stage that fails or the text: only the
codec can stop a read. -/
theorem take_isOk {st : Settings} {cd : Codec} (hcd : st.codec? = some cd)
    (htext : cd.isText = true) (disk : Disk) (u : Text) : (take st disk u).isOk := by
  unfold take
  split
  · rfl
  · split
    · rfl
    · rfl
    · split
      · rfl
      · split
        · rfl
        · split
          · rfl
          · exact decodeWith_isOk hcd htext _

/-- With a codec that decodes text, every read gives a snapshot. -/
theorem read_isOk {st : Settings} {cd : Codec} (hcd : st.codec? = some cd)
    (htext : cd.isText = true) (disk : Disk) (u : Text) : (read st disk u).isOk := by
  rw [read, Except.isOk_map]
  exact take_isOk hcd htext disk u

end Snapshot

namespace Cache

variable {disk : Disk} {c c' : Cache} {u v : Text} {s : Snapshot}

/-- The cache with a snapshot remembered for a URI, after all that it holds. -/
def remember (c : Cache) (u : Text) (s : Snapshot) : Cache :=
  { c with entries := c.entries ++ [(u, s)] }

@[simp] theorem remember_settings : (c.remember u s).settings = c.settings := rfl

/-! Logging changes the log only. -/

@[simp] theorem note_settings (rs : List LogRecord) : (c.note rs).settings = c.settings := rfl

@[simp] theorem find?_note (rs : List LogRecord) : (c.note rs).find? = c.find? := rfl

@[simp] theorem log_note (rs : List LogRecord) : (c.note rs).log = c.log ++ rs := rfl

@[simp] theorem settings_empty (st : Settings) : (Cache.empty st).settings = st := rfl

@[simp] theorem find?_empty (st : Settings) (u : Text) : (Cache.empty st).find? u = none := rfl

theorem find?_remember :
    (c.remember u s).find? v = (c.find? v).or (if v = u then some s else none) := by
  simp only [find?, remember, List.lookup_append, List.lookup_cons, List.lookup_nil]
  by_cases h : v = u
  · subst h
    simp
  · simp [h, beq_false_of_ne h]

/-- The URIs a cache holds, in the order of their first lookups. -/
def keys (c : Cache) : List Text := c.entries.map Prod.fst

theorem mem_keys : u ∈ c.keys ↔ (c.find? u).isSome := by
  simp only [keys, find?, List.lookup_isSome_iff, beq_iff_eq, List.mem_map]
  constructor
  · rintro ⟨p, hp, rfl⟩
    exact ⟨p, hp, rfl⟩
  · rintro ⟨p, hp, rfl⟩
    exact ⟨p, hp, rfl⟩

@[simp] theorem keys_remember : (c.remember u s).keys = c.keys ++ [u] := by
  simp [keys, remember]

@[simp] theorem keys_note (rs : List LogRecord) : (c.note rs).keys = c.keys := rfl

theorem size_eq_length_keys : c.size = c.keys.length := by
  simp [size, keys]

theorem contains_iff : c.contains u = true ↔ (c.find? u).isSome := Iff.rfl

/-! ## Lookups -/

theorem get_of_find?_some (h : c.find? u = some s) : c.get disk u = .ok (s, c) := by
  simp [get, h]

theorem get_of_find?_none (h : c.find? u = none) :
    c.get disk u = (Snapshot.take c.settings disk u).map fun r =>
      (Snapshot.ofReading r, (c.remember u (Snapshot.ofReading r)).note (Snapshot.readRecords u r)) := by
  simp [get, h, remember, note]

/-- A lookup answers from the cache, or reads the disk, remembers what it read and logs the read. -/
theorem get_eq_ok :
    c.get disk u = .ok (s, c') ↔
      (c.find? u = some s ∧ c' = c) ∨
        (c.find? u = none ∧ ∃ r, Snapshot.take c.settings disk u = .ok r ∧
          s = Snapshot.ofReading r ∧ c' = (c.remember u s).note (Snapshot.readRecords u r)) := by
  cases hf : c.find? u with
  | some s₀ =>
    rw [get_of_find?_some hf]
    simp only [Except.ok.injEq, Prod.mk.injEq, Option.some.injEq, reduceCtorEq, false_and,
      or_false]
    constructor
    · rintro ⟨rfl, rfl⟩
      exact ⟨rfl, rfl⟩
    · rintro ⟨rfl, rfl⟩
      exact ⟨rfl, rfl⟩
  | none =>
    rw [get_of_find?_none hf]
    cases hr : Snapshot.take c.settings disk u with
    | error f => simp [Except.map]
    | ok r₀ =>
      simp only [Except.map, Except.ok.injEq, Prod.mk.injEq, reduceCtorEq, false_and, true_and,
        false_or, exists_eq_left']
      constructor
      · rintro ⟨rfl, rfl⟩
        exact ⟨rfl, rfl⟩
      · rintro ⟨rfl, rfl⟩
        exact ⟨rfl, rfl⟩

/-- A lookup stops only at a first read that stops. -/
theorem get_eq_error {f : Fault} :
    c.get disk u = .error f ↔ c.find? u = none ∧ Snapshot.read c.settings disk u = .error f := by
  cases hf : c.find? u with
  | some s₀ => simp [get_of_find?_some hf]
  | none =>
    rw [get_of_find?_none hf, Snapshot.read]
    cases Snapshot.take c.settings disk u <;> simp [Except.map]

/-- A lookup of a URI the cache does not hold sees a fresh read. -/
theorem get_map_fst_of_find?_none (h : c.find? u = none) :
    (c.get disk u).map Prod.fst = Snapshot.read c.settings disk u := by
  rw [get_of_find?_none h, Snapshot.read]
  cases Snapshot.take c.settings disk u <;> rfl

/-- Resolving and cutting code are a lookup followed by reading its snapshot. -/
theorem codeAt_some (r : Option TextRange) :
    c.codeAt disk (some u) r = (c.get disk u).map fun (s, c') => (s.codeOf r, c') := by
  simp only [codeAt, resolve]
  cases c.get disk u with
  | error f => rfl
  | ok p =>
    obtain ⟨s, c'⟩ := p
    cases r <;> cases s <;> rfl

@[simp] theorem codeAt_none (r : Option TextRange) : c.codeAt disk none r = .ok (none, c) := rfl

theorem resolve_some :
    c.resolve disk (some u) = (c.get disk u).map fun (s, c') => (s.content?, c') :=
  rfl

/-- Cutting code at a URI is a lookup of the URI, read at the range. -/
theorem codeAt_some_eq_ok {r : Option TextRange} {code : Option Text} :
    c.codeAt disk (some u) r = .ok (code, c') ↔ ∃ s, c.get disk u = .ok (s, c') ∧ code = s.codeOf r := by
  rw [codeAt_some]
  cases c.get disk u with
  | error e => simp [Except.map]
  | ok p =>
    obtain ⟨s₀, c₀⟩ := p
    simp only [Except.map, Except.ok.injEq, Prod.mk.injEq]
    constructor
    · rintro ⟨rfl, rfl⟩
      exact ⟨s₀, ⟨rfl, rfl⟩, rfl⟩
    · rintro ⟨s, ⟨rfl, rfl⟩, rfl⟩
      exact ⟨rfl, rfl⟩

/-- A lookup keeps the cache's settings. -/
theorem settings_of_get (h : c.get disk u = .ok (s, c')) : c'.settings = c.settings := by
  rcases get_eq_ok.mp h with ⟨-, rfl⟩ | ⟨-, -, -, -, rfl⟩ <;> rfl

/-- Cutting code keeps the cache's settings. -/
theorem settings_of_codeAt {uri : Option Text} {r : Option TextRange} {code : Option Text}
    (h : c.codeAt disk uri r = .ok (code, c')) : c'.settings = c.settings := by
  cases uri with
  | none =>
    cases h
    rfl
  | some u =>
    obtain ⟨s, hg, -⟩ := codeAt_some_eq_ok.mp h
    exact settings_of_get hg

/-- What was logged before a lookup does not change the snapshot it sees. -/
theorem get_note_eq_ok (rs : List LogRecord) :
    (∃ c₁, (c.note rs).get disk u = .ok (s, c₁)) ↔ ∃ c₁, c.get disk u = .ok (s, c₁) := by
  simp only [get_eq_ok, find?_note, note_settings]
  constructor
  · rintro ⟨c₁, ⟨hf, -⟩ | ⟨hf, r, hr, hs, -⟩⟩
    · exact ⟨c, .inl ⟨hf, rfl⟩⟩
    · exact ⟨_, .inr ⟨hf, r, hr, hs, rfl⟩⟩
  · rintro ⟨c₁, ⟨hf, -⟩ | ⟨hf, r, hr, hs, -⟩⟩
    · exact ⟨c.note rs, .inl ⟨hf, rfl⟩⟩
    · exact ⟨_, .inr ⟨hf, r, hr, hs, rfl⟩⟩

/-- Nor the code it cuts. -/
theorem codeAt_note_eq_ok (rs : List LogRecord) {uri : Option Text} {r : Option TextRange}
    {code : Option Text} :
    (∃ c₁, (c.note rs).codeAt disk uri r = .ok (code, c₁)) ↔
      ∃ c₁, c.codeAt disk uri r = .ok (code, c₁) := by
  cases uri with
  | none => simp
  | some u =>
    simp only [codeAt_some_eq_ok]
    constructor
    · rintro ⟨c₁, s, hg, rfl⟩
      obtain ⟨c₀, hg₀⟩ := (get_note_eq_ok rs).mp ⟨c₁, hg⟩
      exact ⟨c₀, s, hg₀, rfl⟩
    · rintro ⟨c₀, s, hg₀, rfl⟩
      obtain ⟨c₁, hg⟩ := (get_note_eq_ok rs).mpr ⟨c₀, hg₀⟩
      exact ⟨c₁, s, hg, rfl⟩

/-- With a codec that decodes text, a lookup answers from any cache, held or not. -/
theorem get_isOk {cd : Codec} (hcd : c.settings.codec? = some cd) (htext : cd.isText = true) :
    ∃ s c', c.get disk u = .ok (s, c') := by
  cases hf : c.find? u with
  | some s => exact ⟨s, c, get_of_find?_some hf⟩
  | none =>
    obtain ⟨r, hr⟩ := Except.isOk_iff.mp (Snapshot.take_isOk hcd htext disk u)
    refine ⟨Snapshot.ofReading r, (c.remember u (Snapshot.ofReading r)).note
      (Snapshot.readRecords u r), ?_⟩
    rw [get_of_find?_none hf, hr]
    rfl

/-- With a codec that decodes text, cutting code answers from any cache. -/
theorem codeAt_isOk {cd : Codec} (hcd : c.settings.codec? = some cd) (htext : cd.isText = true)
    (uri : Option Text) (r : Option TextRange) : ∃ code c', c.codeAt disk uri r = .ok (code, c') := by
  cases uri with
  | none => exact ⟨none, c, rfl⟩
  | some u =>
    obtain ⟨s, c', hg⟩ : ∃ s c', c.get disk u = .ok (s, c') := get_isOk hcd htext
    exact ⟨s.codeOf r, c', codeAt_some_eq_ok.mpr ⟨s, hg, rfl⟩⟩

/-! ## Consistency with a disk -/

/-- Every snapshot the cache holds is what a read of its URI gives on the disk now. -/
def Consistent (disk : Disk) (c : Cache) : Prop :=
  ∀ u s, c.find? u = some s → Snapshot.read c.settings disk u = .ok s

theorem consistent_empty (st : Settings) : (Cache.empty st).Consistent disk := by
  intro u s h
  simp at h

theorem Consistent.remember (hc : c.Consistent disk)
    (hs : Snapshot.read c.settings disk u = .ok s) :
    (c.remember u s).Consistent disk := by
  intro v t hv
  rw [find?_remember] at hv
  cases hfv : c.find? v with
  | some t₀ =>
    rw [hfv, Option.some_or, Option.some.injEq] at hv
    subst hv
    exact hc v _ hfv
  | none =>
    rw [hfv, Option.none_or] at hv
    split at hv
    · subst v
      cases hv
      exact hs
    · cases hv

/-- Logging keeps a cache consistent. -/
theorem Consistent.note (hc : c.Consistent disk) (rs : List LogRecord) : (c.note rs).Consistent disk :=
  hc

/-- A consistent cache answers a lookup with a fresh read of the disk. -/
theorem Consistent.get (hc : c.Consistent disk) :
    (c.get disk u).map Prod.fst = Snapshot.read c.settings disk u := by
  cases hf : c.find? u with
  | some s₀ => rw [get_of_find?_some hf, hc u s₀ hf]; rfl
  | none => exact get_map_fst_of_find?_none hf

/-- A lookup keeps a cache consistent, with its settings. -/
theorem Consistent.get_ok (hc : c.Consistent disk) (h : c.get disk u = .ok (s, c')) :
    c'.Consistent disk ∧ c'.settings = c.settings := by
  rcases get_eq_ok.mp h with ⟨-, rfl⟩ | ⟨-, r, hr, rfl, rfl⟩
  · exact ⟨hc, rfl⟩
  · exact ⟨(hc.remember (Snapshot.read_of_take hr)).note _, rfl⟩

/-- A consistent cache gives the code of a fresh read. -/
theorem Consistent.codeAt (hc : c.Consistent disk) (uri : Option Text) (r : Option TextRange) :
    (c.codeAt disk uri r).map Prod.fst =
      match uri with
      | none => .ok none
      | some u => (Snapshot.read c.settings disk u).map (·.codeOf r) := by
  cases uri with
  | none => rfl
  | some u =>
    show _ = (Snapshot.read c.settings disk u).map (·.codeOf r)
    rw [codeAt_some, ← hc.get]
    cases c.get disk u <;> rfl

/-- From a consistent cache, the code of a URI is cut from the snapshot a fresh read gives. -/
theorem Consistent.codeAt_of_read (hc : c.Consistent disk) {r : Option TextRange}
    (hs : Snapshot.read c.settings disk u = .ok s) :
    ∃ c', c.codeAt disk (some u) r = .ok (s.codeOf r, c') := by
  have hv : (c.codeAt disk (some u) r).map Prod.fst = .ok (s.codeOf r) := by
    rw [hc.codeAt]
    show (Snapshot.read c.settings disk u).map (·.codeOf r) = _
    rw [hs]
    rfl
  cases hca : c.codeAt disk (some u) r with
  | error e => rw [hca] at hv; cases hv
  | ok p =>
    rw [hca] at hv
    exact ⟨p.2, by rw [← Except.ok.inj hv]⟩

/-- With a codec that decodes text, cutting code from a consistent cache always answers. -/
theorem Consistent.codeAt_isOk {cd : Codec} (hc : c.Consistent disk)
    (hcd : c.settings.codec? = some cd) (htext : cd.isText = true) (uri : Option Text)
    (r : Option TextRange) : ∃ code c', c.codeAt disk uri r = .ok (code, c') := by
  cases uri with
  | none => exact ⟨none, c, rfl⟩
  | some u =>
    obtain ⟨s, hs⟩ := Except.isOk_iff.mp (Snapshot.read_isOk hcd htext disk u)
    obtain ⟨c', h⟩ := hc.codeAt_of_read (r := r) hs
    exact ⟨_, c', h⟩

/-- Cutting code keeps a cache consistent, with its settings. -/
theorem Consistent.codeAt_ok (hc : c.Consistent disk) {uri : Option Text} {r : Option TextRange}
    {t : Option Text} (h : c.codeAt disk uri r = .ok (t, c')) :
    c'.Consistent disk ∧ c'.settings = c.settings := by
  cases uri with
  | none =>
    cases h
    exact ⟨hc, rfl⟩
  | some u =>
    rw [codeAt_some] at h
    cases hg : c.get disk u with
    | error f => rw [hg] at h; cases h
    | ok p =>
      obtain ⟨s, c₁⟩ := p
      rw [hg] at h
      cases h
      exact hc.get_ok hg

end Cache

end LocationDrift
