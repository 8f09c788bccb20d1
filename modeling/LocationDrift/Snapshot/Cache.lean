import LocationDrift.Snapshot.Basic

/-!
# The snapshot cache

A cache takes one snapshot per URI, at its first lookup, and answers every later lookup of that
URI with it, whatever the disk holds by then. URIs are compared as texts, so two spellings of one
file are two entries. Failures are kept like successes, and a failed first read logs its record
(`Snapshot.readRecords`). A fault during a first read leaves the cache as it was.

**The log.** A cache is threaded through a whole batch, and it carries the records logged while it
is in use, in order: those of its reads and those of the computations that use it.

**Operations.** `get` gives the snapshot; `resolve` gives the text of a readable snapshot and
looks nothing up for no URI; `codeAt` gives the whole text for no range and the range's code
otherwise.
-/

namespace LocationDrift

/-- Snapshots by URI, in order of first lookup, taken under one set of settings, and the records
logged so far. -/
structure Cache where
  settings : Settings
  entries : List (Text × Snapshot)
  log : List LogRecord
deriving Inhabited

namespace Cache

/-- A cache with no snapshots yet. -/
def empty (settings : Settings) : Cache := ⟨settings, [], []⟩

/-- The cache with some records logged after those it has. -/
def note (c : Cache) (rs : List LogRecord) : Cache := { c with log := c.log ++ rs }

/-- The snapshot of a URI, if it was looked up. -/
def find? (c : Cache) (uri : Text) : Option Snapshot := c.entries.lookup uri

/-- The URI was looked up. -/
def contains (c : Cache) (uri : Text) : Bool := (c.find? uri).isSome

/-- The number of URIs looked up. -/
def size (c : Cache) : Nat := c.entries.length

/-- The snapshot of a URI, read from the disk at its first lookup, which logs the read's records. -/
def get (disk : Disk) (uri : Text) (c : Cache) : Except Fault (Snapshot × Cache) :=
  match c.find? uri with
  | some s => .ok (s, c)
  | none =>
    (Snapshot.take c.settings disk uri).map fun r =>
      let s := Snapshot.ofReading r
      (s, ⟨c.settings, c.entries ++ [(uri, s)], c.log ++ Snapshot.readRecords uri r⟩)

/-- The text of a URI's snapshot when it is readable. -/
def resolve (disk : Disk) (uri : Option Text) (c : Cache) : Except Fault (Option Text × Cache) :=
  match uri with
  | none => .ok (none, c)
  | some u => (c.get disk u).map fun (s, c') => (s.content?, c')

/-- The code of a range in a URI's snapshot, the whole text when there is no range. -/
def codeAt (disk : Disk) (uri : Option Text) (r : Option TextRange) (c : Cache) :
    Except Fault (Option Text × Cache) :=
  (c.resolve disk uri).map fun (content, c') =>
    (content >>= fun t => match r with
      | none => some t
      | some r => r.codeIn t, c')

end Cache

end LocationDrift
