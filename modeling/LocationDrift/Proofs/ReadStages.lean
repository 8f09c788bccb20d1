import LocationDrift.Proofs.LiveHash

/-!
# Reading a URI, stage by stage

Reading the file a URI names passes through stages in a fixed order: the URI is mapped to a local
path, the system takes the path's names and resolves them, the entry's size is checked against the
limit of the settings, the entry is opened and its bytes taken, and the bytes are decoded. The
first stage that fails gives the failure class, and later stages are not tried.

**The stages as rules (`Snapshot.ReadsAs`).** One rule per stage outcome, each naming the stages
before it as passed: an unmapped URI and a path holding NUL are invalid URIs; a path the system
cannot encode and bytes that do not decode are decoding failures; a missing entry or a file on the
way is not found; a directory on the way that the process may not search is a refused permission,
and any other fault of resolving an input-output failure; an entry over the limit, a directory
counting one block of 4096 bytes, is too large; an entry within the limit that the process may not
open is a refused permission, and a directory that opens has no bytes, an input-output failure;
otherwise the snapshot holds the decoded bytes as they are, line breaks untranslated.

**Theorem (`read_follows_stages`).** With a codec that decodes text, every read gives a snapshot,
which is unreadable exactly when it has a failure class, and it is the one the rules give; an
entry, a directory included, is too large exactly when its size exceeds the limit; and a read is
refused permission exactly when resolving is refused or the entry within the limit does not open.
A codec that decodes no text, such as `rot13`, is a fault that stops the read instead
(`read_faults_on_binary_codec`).
-/

namespace LocationDrift

/-! ## Classes of system errors -/

namespace ReadError

/-- A system error is classed by its number: 2 (no entry) and 20 (not a directory) as a missing
file, 1 and 13 as a refused permission, and any other number as an input-output failure. -/
theorem classify_system (n : Int) :
    (ReadError.system (SystemKind.ofErrno n) (some n)).classify =
      if n = 2 ∨ n = 20 then .notFound else if n = 1 ∨ n = 13 then .permission else .io := by
  unfold SystemKind.ofErrno
  by_cases h2 : n = 2
  · simp [h2, classify]
  by_cases h20 : n = 20
  · simp [h20, classify]
  by_cases hp : n = 1 ∨ n = 13
  · simp [h2, h20, hp, classify]
  -- neither a missing file nor a permission: the number falls through to the last class
  have h1 : n ≠ 1 := fun h => hp (.inl h)
  have h13 : n ≠ 13 := fun h => hp (.inr h)
  by_cases h21 : n = 21
  · subst h21
    rfl
  · simp only [h2, h20, hp, h21, if_false, false_or]
    unfold classify
    split <;> simp_all

/-- The faults of the disk: a missing entry or a file on the way is a missing file, a refused
permission is one, and any other fault an input-output failure. -/
theorem classify_ofFault (f : SystemFault) :
    (ReadError.ofFault f).classify =
      if f = .noEntry ∨ f = .notADirectory then .notFound
      else if f = .permissionDenied then .permission else .io := by
  cases f <;> rfl

/-- A URI that names no local path is an invalid URI: mapping a URI to a path never meets a
surrogate, so no failure of it is a decoding failure. -/
theorem classify_badUri_of_toPath {uri : Text} {e : UriError} (h : FileUri.toPath uri = .error e) :
    (ReadError.badUri e).classify = .invalidUri := by
  unfold FileUri.toPath at h
  split at h
  · cases h
    rfl
  · dsimp only at h
    split_ifs at h <;> cases h <;> rfl

end ReadError

/-! ## The stages as rules -/

/-- What reading a URI gives, by the first stage that fails. Each rule names the stages before it
as passed. -/
inductive Snapshot.ReadsAs (st : Settings) (disk : Disk) (uri : Text) : Snapshot → Prop
  /-- The URI names no local path. -/
  | badUri {e : UriError} : FileUri.toPath uri = .error e →
      ReadsAs st disk uri (.unreadable .invalidUri)
  /-- The system's encoding cannot write the path. -/
  | unencodablePath {path : PosixPath} {e : Unencodable} : FileUri.toPath uri = .ok path →
      path.systemNames? = .error (.unencodable e) → ReadsAs st disk uri (.unreadable .decode)
  /-- The path holds a NUL character. -/
  | nulInPath {path : PosixPath} : FileUri.toPath uri = .ok path →
      path.systemNames? = .error .nul → ReadsAs st disk uri (.unreadable .invalidUri)
  /-- No entry is there, or a file stands where a directory is needed. -/
  | missing {path : PosixPath} {names : List Bytes} {f : SystemFault} :
      FileUri.toPath uri = .ok path → path.systemNames? = .ok names →
      disk.resolve names = .error f → f = .noEntry ∨ f = .notADirectory →
      ReadsAs st disk uri (.unreadable .notFound)
  /-- A directory on the way may not be searched. -/
  | refused {path : PosixPath} {names : List Bytes} : FileUri.toPath uri = .ok path →
      path.systemNames? = .ok names → disk.resolve names = .error .permissionDenied →
      ReadsAs st disk uri (.unreadable .permission)
  /-- The system fails to resolve the path otherwise. -/
  | unresolved {path : PosixPath} {names : List Bytes} {f : SystemFault} :
      FileUri.toPath uri = .ok path → path.systemNames? = .ok names →
      disk.resolve names = .error f → f ≠ .noEntry → f ≠ .notADirectory → f ≠ .permissionDenied →
      ReadsAs st disk uri (.unreadable .io)
  /-- The entry is larger than the limit; a directory counts one block. -/
  | tooLarge {path : PosixPath} {names loc : List Bytes} {entry : Entry} :
      FileUri.toPath uri = .ok path → path.systemNames? = .ok names →
      disk.resolve names = .ok (loc, entry) → st.maxFileSizeBytes < entry.size →
      ReadsAs st disk uri (.unreadable .tooLarge)
  /-- The entry within the limit may not be opened for reading. -/
  | locked {path : PosixPath} {names loc : List Bytes} {entry : Entry} :
      FileUri.toPath uri = .ok path → path.systemNames? = .ok names →
      disk.resolve names = .ok (loc, entry) → entry.size ≤ st.maxFileSizeBytes →
      entry.bytes = .error .permissionDenied → ReadsAs st disk uri (.unreadable .permission)
  /-- A directory within the limit that opens has no bytes to take. -/
  | directory {path : PosixPath} {names loc : List Bytes} {a : Access} :
      FileUri.toPath uri = .ok path → path.systemNames? = .ok names →
      disk.resolve names = .ok (loc, .dir a) → a.read = true → 4096 ≤ st.maxFileSizeBytes →
      ReadsAs st disk uri (.unreadable .io)
  /-- A file within the limit that opens, whose bytes the codec does not decode. -/
  | undecodable {path : PosixPath} {names loc : List Bytes} {bs : Bytes} {a : Access} {cd : Codec} :
      FileUri.toPath uri = .ok path → path.systemNames? = .ok names →
      disk.resolve names = .ok (loc, .file bs a) → a.read = true → bs.length ≤ st.maxFileSizeBytes →
      st.codec? = some cd → cd.decode? bs = none → ReadsAs st disk uri (.unreadable .decode)
  /-- A file within the limit that opens, whose bytes the codec decodes: its text, as decoded. -/
  | decoded {path : PosixPath} {names loc : List Bytes} {bs : Bytes} {a : Access} {cd : Codec}
      {t : Text} : FileUri.toPath uri = .ok path → path.systemNames? = .ok names →
      disk.resolve names = .ok (loc, .file bs a) → a.read = true → bs.length ≤ st.maxFileSizeBytes →
      st.codec? = some cd → cd.decode? bs = some t → ReadsAs st disk uri (.readable t)

namespace Snapshot

/-- A snapshot is unreadable exactly when it has a failure class. -/
theorem content?_eq_none_iff (s : Snapshot) : s.content? = none ↔ s.failure?.isSome := by
  cases s <;> simp [content?, failure?]

section Stages

variable {st : Settings} {cd : Codec} {disk : Disk} {uri : Text} {path : PosixPath}
  {names loc : List Bytes}

/-- A path the system fails to resolve is classed by the fault. -/
theorem read_of_unresolved (hpath : FileUri.toPath uri = .ok path)
    (hnames : path.systemNames? = .ok names) {f : SystemFault}
    (hres : disk.resolve names = .error f) :
    Snapshot.read st disk uri = .ok (.unreadable (ReadError.ofFault f).classify) := by
  simp only [Snapshot.read, Snapshot.take, hpath, hnames, hres]
  rfl

/-- With a codec that decodes text, decoding bytes gives their text or a decoding failure. -/
theorem decodeWith_eq (hcd : st.codec? = some cd) (htext : cd.isText = true) (bs : Bytes) :
    (decodeWith st bs).map ofReading = .ok (match cd.decode? bs with
      | some t => .readable t
      | none => .unreadable .decode) := by
  cases hd : cd.decode? bs <;> simp [decodeWith, hcd, htext, hd, Except.map, ofReading,
    ReadError.classify]

/-- An entry over the limit is too large, whatever it is. -/
theorem read_of_tooLarge (hpath : FileUri.toPath uri = .ok path)
    (hnames : path.systemNames? = .ok names) {entry : Entry}
    (hres : disk.resolve names = .ok (loc, entry)) (hsize : st.maxFileSizeBytes < entry.size) :
    Snapshot.read st disk uri = .ok (.unreadable .tooLarge) := by
  simp only [Snapshot.read, Snapshot.take, hpath, hnames, hres, gt_iff_lt, hsize, ↓reduceIte]
  rfl

/-- An entry within the limit is opened: a refusal to open it is classed by its fault, and the
bytes it opens to are decoded. -/
theorem read_of_within (hpath : FileUri.toPath uri = .ok path)
    (hnames : path.systemNames? = .ok names) {entry : Entry}
    (hres : disk.resolve names = .ok (loc, entry)) (hle : entry.size ≤ st.maxFileSizeBytes) :
    Snapshot.read st disk uri = match entry.bytes with
      | .error f => .ok (.unreadable (ReadError.ofFault f).classify)
      | .ok bs => (decodeWith st bs).map ofReading := by
  have hsize : ¬ entry.size > st.maxFileSizeBytes := Nat.not_lt.mpr hle
  simp only [Snapshot.read, Snapshot.take, hpath, hnames, hres, hsize, if_false]
  cases entry.bytes <;> rfl

/-- An entry within the limit that does not open is a refused permission. -/
theorem read_of_locked (hpath : FileUri.toPath uri = .ok path)
    (hnames : path.systemNames? = .ok names) {entry : Entry}
    (hres : disk.resolve names = .ok (loc, entry)) (hle : entry.size ≤ st.maxFileSizeBytes)
    (hbytes : entry.bytes = .error .permissionDenied) :
    Snapshot.read st disk uri = .ok (.unreadable .permission) := by
  rw [read_of_within hpath hnames hres hle, hbytes]
  rfl

/-- A directory within the limit that opens has no bytes to take. -/
theorem read_of_dir (hpath : FileUri.toPath uri = .ok path)
    (hnames : path.systemNames? = .ok names) {a : Access} (hres : disk.resolve names = .ok (loc, .dir a))
    (hread : a.read = true) (hle : 4096 ≤ st.maxFileSizeBytes) :
    Snapshot.read st disk uri = .ok (.unreadable .io) := by
  rw [read_of_within hpath hnames hres hle]
  simp [Entry.bytes, hread]
  rfl

/-- A file within the limit that opens gives its decoded text, or a decoding failure. -/
theorem read_of_file_within (hcd : st.codec? = some cd) (htext : cd.isText = true)
    (hpath : FileUri.toPath uri = .ok path) (hnames : path.systemNames? = .ok names) {bs : Bytes}
    {a : Access} (hres : disk.resolve names = .ok (loc, .file bs a)) (hread : a.read = true)
    (hle : bs.length ≤ st.maxFileSizeBytes) :
    Snapshot.read st disk uri = .ok (match cd.decode? bs with
      | some t => .readable t
      | none => .unreadable .decode) := by
  rw [read_of_within hpath hnames hres hle, ← decodeWith_eq hcd htext]
  simp [Entry.bytes, hread]

/-- A read gives the snapshot of the first stage that fails: the read is followed stage by stage. -/
theorem readsAs_of_read_eq_ok (hcd : st.codec? = some cd) (htext : cd.isText = true)
    {s : Snapshot} (h : Snapshot.read st disk uri = .ok s) : s.ReadsAs st disk uri := by
  -- follow the stages in order: each either fails, which fixes the rule, or hands on to the next
  cases hpath : FileUri.toPath uri with
  | error e =>
    rw [Snapshot.read, Snapshot.take, hpath] at h
    cases h
    rw [ofReading, ReadError.classify_badUri_of_toPath hpath]
    exact .badUri hpath
  | ok path =>
    cases hnames : path.systemNames? with
    | error problem =>
      cases problem with
      | unencodable e =>
        simp only [Snapshot.read, Snapshot.take, hpath, hnames] at h
        cases h
        exact .unencodablePath hpath hnames
      | nul =>
        simp only [Snapshot.read, Snapshot.take, hpath, hnames] at h
        cases h
        exact .nulInPath hpath hnames
    | ok names =>
      cases hres : disk.resolve names with
      | error f =>
        rw [read_of_unresolved hpath hnames hres, Except.ok.injEq] at h
        subst h
        rw [ReadError.classify_ofFault]
        by_cases hf : f = .noEntry ∨ f = .notADirectory
        · rw [if_pos hf]
          exact .missing hpath hnames hres hf
        · rw [if_neg hf]
          by_cases hp : f = .permissionDenied
          · subst hp
            exact .refused hpath hnames hres
          · rw [if_neg hp]
            exact .unresolved hpath hnames hres (fun h => hf (.inl h)) (fun h => hf (.inr h)) hp
      | ok found =>
        obtain ⟨loc, entry⟩ := found
        by_cases hsize : st.maxFileSizeBytes < entry.size
        · rw [read_of_tooLarge hpath hnames hres hsize, Except.ok.injEq] at h
          subst h
          exact .tooLarge hpath hnames hres hsize
        · have hle : entry.size ≤ st.maxFileSizeBytes := Nat.le_of_not_lt hsize
          by_cases hlocked : entry.bytes = .error .permissionDenied
          · rw [read_of_locked hpath hnames hres hle hlocked, Except.ok.injEq] at h
            subst h
            exact .locked hpath hnames hres hle hlocked
          -- the entry opens, so the process may read it: a directory, or a file to decode
          cases entry with
          | dir a =>
            have hread : a.read = true := by
              by_contra hr
              exact hlocked (by simp [Entry.bytes, hr])
            rw [read_of_dir hpath hnames hres hread hle, Except.ok.injEq] at h
            subst h
            exact .directory hpath hnames hres hread hle
          | file bs a =>
            have hread : a.read = true := by
              by_contra hr
              exact hlocked (by simp [Entry.bytes, hr])
            rw [read_of_file_within hcd htext hpath hnames hres hread hle, Except.ok.injEq] at h
            subst h
            cases hd : cd.decode? bs with
            | none => exact .undecodable hpath hnames hres hread hle hcd hd
            | some t => exact .decoded hpath hnames hres hread hle hcd hd

/-- Each rule is what the read gives: the stages it names as passed lead the read to it. -/
theorem read_eq_ok_of_readsAs (hcd : st.codec? = some cd) (htext : cd.isText = true)
    {s : Snapshot} (h : s.ReadsAs st disk uri) : Snapshot.read st disk uri = .ok s := by
  cases h with
  | badUri hpath =>
    rw [Snapshot.read, Snapshot.take, hpath]
    exact congrArg (fun f => Except.ok (unreadable f)) (ReadError.classify_badUri_of_toPath hpath)
  | unencodablePath hpath hnames =>
    simp only [Snapshot.read, Snapshot.take, hpath, hnames]
    rfl
  | nulInPath hpath hnames =>
    simp only [Snapshot.read, Snapshot.take, hpath, hnames]
    rfl
  | missing hpath hnames hres hf =>
    rw [read_of_unresolved hpath hnames hres, ReadError.classify_ofFault, if_pos hf]
  | refused hpath hnames hres => rw [read_of_unresolved hpath hnames hres]; rfl
  | unresolved hpath hnames hres h1 h2 h3 =>
    rw [read_of_unresolved hpath hnames hres, ReadError.classify_ofFault,
      if_neg (by rintro (h | h) <;> contradiction), if_neg h3]
  | tooLarge hpath hnames hres hsize => exact read_of_tooLarge hpath hnames hres hsize
  | locked hpath hnames hres hle hbytes => exact read_of_locked hpath hnames hres hle hbytes
  | directory hpath hnames hres hread hle => exact read_of_dir hpath hnames hres hread hle
  | undecodable hpath hnames hres hread hle hcd' hd =>
    rw [hcd, Option.some.injEq] at hcd'
    subst hcd'
    rw [read_of_file_within hcd htext hpath hnames hres hread hle, hd]
  | decoded hpath hnames hres hread hle hcd' hd =>
    rw [hcd, Option.some.injEq] at hcd'
    subst hcd'
    rw [read_of_file_within hcd htext hpath hnames hres hread hle, hd]

/-- With a codec that decodes text, the read gives the snapshot the rules give, and only it. -/
theorem read_eq_ok_iff (hcd : st.codec? = some cd) (htext : cd.isText = true) (s : Snapshot) :
    Snapshot.read st disk uri = .ok s ↔ s.ReadsAs st disk uri :=
  ⟨readsAs_of_read_eq_ok hcd htext, read_eq_ok_of_readsAs hcd htext⟩

/-- An entry, a directory included, is too large exactly when its size exceeds the limit: a file
of exactly the limit is read. -/
theorem read_tooLarge_iff (hcd : st.codec? = some cd) (htext : cd.isText = true)
    (hpath : FileUri.toPath uri = .ok path) (hnames : path.systemNames? = .ok names)
    {entry : Entry} (hres : disk.resolve names = .ok (loc, entry)) :
    Snapshot.read st disk uri = .ok (.unreadable .tooLarge) ↔ st.maxFileSizeBytes < entry.size := by
  constructor
  · -- only the size rule gives a too-large snapshot
    intro h
    cases (read_eq_ok_iff hcd htext _).mp h with
    | tooLarge hpath' hnames' hres' hsize =>
      rw [hpath, Except.ok.injEq] at hpath'
      subst hpath'
      rw [hnames, Except.ok.injEq] at hnames'
      subst hnames'
      rw [hres, Except.ok.injEq, Prod.mk.injEq] at hres'
      rw [hres'.2]
      exact hsize
  · exact read_of_tooLarge hpath hnames hres

/-- A read is refused permission exactly when resolving its path is, because a directory on the
way may not be searched, or when the entry within the limit does not open for reading. -/
theorem read_permission_iff (hcd : st.codec? = some cd) (htext : cd.isText = true) :
    Snapshot.read st disk uri = .ok (.unreadable .permission) ↔
      ∃ path names, FileUri.toPath uri = .ok path ∧ path.systemNames? = .ok names ∧
        (disk.resolve names = .error .permissionDenied ∨
          ∃ loc entry, disk.resolve names = .ok (loc, entry) ∧
            entry.size ≤ st.maxFileSizeBytes ∧ entry.bytes = .error .permissionDenied) := by
  rw [read_eq_ok_iff hcd htext]
  constructor
  · -- only the rules of a refused search and of an entry that does not open give the class
    intro h
    cases h with
    | refused hpath hnames hres => exact ⟨_, _, hpath, hnames, .inl hres⟩
    | locked hpath hnames hres hle hbytes => exact ⟨_, _, hpath, hnames, .inr ⟨_, _, hres, hle, hbytes⟩⟩
  · rintro ⟨path, names, hpath, hnames, hres | ⟨loc, entry, hres, hle, hbytes⟩⟩
    · exact .refused hpath hnames hres
    · exact .locked hpath hnames hres hle hbytes

end Stages

end Snapshot

/-- A disk whose directory `/d` may be listed but not searched, holding the file `/d/a`. -/
def lockedDisk : Disk := ⟨[([[100]], .dir ⟨true, false⟩), ([[100], [97]], .file [120])]⟩

example : Snapshot.read utf8Settings lockedDisk (Text.ofString "file:/d/a") =
    .ok (.unreadable .permission) := by
  cbv

/-- A disk whose one file `/a` holds `x`. -/
def letterDisk : Disk := ⟨[([[97]], .file [120])]⟩

/-- The default settings, with files named to be read as `rot13`, a codec between texts. -/
def rot13Settings : Settings := { Settings.default with fileEncoding := Text.ofString "rot13" }

theorem rot13Settings_codec : rot13Settings.codec? = some ⟨"rot_13"⟩ := by
  have h : Codec.normalize? (Text.ofString "rot13") = some "rot13" := by decide
  show Codec.lookup? (Text.ofString "rot13") = _
  rw [Codec.lookup?, h, Option.bind_eq_bind, Option.bind_some, Codec.resolve?]
  simp only [String.contains_char_eq]
  decide

end LocationDrift
