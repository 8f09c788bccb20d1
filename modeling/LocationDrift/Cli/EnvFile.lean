import LocationDrift.Text.Blank

/-!
# Environment files

An environment file binds keys to values, one binding after another, blank space (line breaks
included) between them.

**A binding.** An optional `export` and blanks; a key, either between single quotes or a run of
characters other than `=`, `#` and blanks; optionally `=` and a value; optionally blanks, `#` and a
comment; the end of the line. A key without `=` is bound to no value. A line that does not read so
is skipped to its end, and a line starting with `#` binds nothing.

**A value.** After `=` and any blanks: between single quotes, where `\\` and `\'` stand for `\` and
`'`; between double quotes, possibly over several lines, where `\\`, `\'`, `\"`, `\a`, `\b`, `\f`,
`\n`, `\r`, `\t` and `\v` stand for their characters; empty at the end of the line; or else the rest
of the line, cut at the first blanks followed by `#`, trailing blanks dropped, and empty when a `#`
follows the blanks after `=` at once. Inside quotes a backslash takes the next character with it,
whatever it is, except a line feed, which leaves the value unclosed; an unclosed value skips the
line.

**Expansion (`EnvFile.read`).** Each `${NAME}` or `${NAME:-default}` in a value is replaced by the
value of `NAME` among the bindings read so far and the environment, the bindings first, or by the
default (empty when none is given). A byte order mark at the start of the file is ignored.
-/

namespace LocationDrift

namespace EnvFile

/-- A blank that does not break the line. -/
def isInlineBlank (c : Nat) : Bool := Text.isSpace c && c != 10 && c != 13

/-- A line break. -/
def isBreak (c : Nat) : Bool := c == 10 || c == 13

/-- The text after the rest of the current line and its break. -/
def skipLine (t : Text) : Text :=
  match t.dropWhile (fun c => !isBreak c) with
  | _ :: r => r
  | [] => []

/-- The text after an `export` followed by blanks, when there is one. -/
def skipExport (t : Text) : Text :=
  let after := t.drop 6
  let blanks := after.takeWhile isInlineBlank
  if Text.startsWith t (Text.ofString "export") && !blanks.isEmpty then after.drop blanks.length
  else t

/-- A key and the text after it; no key before a comment; none when no key can be read. -/
def readKey (t : Text) : Option (Option Text × Text) :=
  match t with
  | 35 :: _ => some (none, t)
  | 39 :: rest =>
    let k := rest.takeWhile (· != 39)
    match rest.drop k.length with
    | 39 :: r => if k.isEmpty then none else some (some k, r)
    | _ => none
  | _ =>
    let k := t.takeWhile fun c => c != 61 && c != 35 && !Text.isSpace c
    if k.isEmpty then none else some (some k, t.drop k.length)

/-- The body of a value quoted by `q`, and the text after its closing quote: a backslash and the
character after it belong to the body together, unless that character is a line feed. -/
def quotedBody (q : Nat) : Text → Option (Text × Text)
  | [] => none
  | [92] => none
  | 92 :: c :: rest =>
    if c == 10 then none else (quotedBody q rest).map fun (b, r) => (92 :: c :: b, r)
  | c :: rest => if c == q then some ([], rest) else (quotedBody q rest).map fun (b, r) => (c :: b, r)

/-- The character a backslash escape stands for. -/
def escapeValue (c : Nat) : Nat :=
  if c == 97 then 7 else if c == 98 then 8 else if c == 102 then 12 else if c == 110 then 10
  else if c == 114 then 13 else if c == 116 then 9 else if c == 118 then 11 else c

/-- Replace, from the left, each backslash followed by one of `allowed` by what it stands for. -/
def unescape (allowed : List Nat) : Text → Text
  | 92 :: tail@(c :: rest) =>
    if allowed.contains c then escapeValue c :: unescape allowed rest else 92 :: unescape allowed tail
  | c :: rest => c :: unescape allowed rest
  | [] => []

/-- The escapes of single-quoted values. -/
def singleEscapes : List Nat := [92, 39]

/-- The escapes of double-quoted values. -/
def doubleEscapes : List Nat := [92, 39, 34, 97, 98, 102, 110, 114, 116, 118]

/-- A text cut at the first blanks that are followed by `#`. -/
def cutComment : Text → Text
  | [] => []
  | c :: rest =>
    if Text.isSpace c && (rest.dropWhile Text.isSpace).head? == some 35 then [] else c :: cutComment rest

/-- A value and the text after it, from the text right after `=`; none for a quoted value that is
never closed. -/
def readValue (t : Text) : Option (Text × Text) :=
  let blanks := t.takeWhile isInlineBlank
  let t := t.drop blanks.length
  match t with
  | 39 :: rest => (quotedBody 39 rest).map fun (b, r) => (unescape singleEscapes b, r)
  | 34 :: rest => (quotedBody 34 rest).map fun (b, r) => (unescape doubleEscapes b, r)
  | [] => some ([], [])
  | c :: _ =>
    if isBreak c then some ([], t)
    else
      let line := t.takeWhile fun c => !isBreak c
      let value := if !blanks.isEmpty && c == 35 then []
        else Text.dropRightWhileClass Text.isSpace (cutComment line)
      some (value, t.drop line.length)

/-- The text after an optional comment. -/
def skipComment (t : Text) : Text :=
  let blanks := t.takeWhile isInlineBlank
  match t.drop blanks.length with
  | 35 :: r => r.dropWhile fun c => !isBreak c
  | _ => t

/-- The text after the end of the line, if only blanks stand before it. -/
def endOfLine (t : Text) : Option Text :=
  match t.dropWhile isInlineBlank with
  | 13 :: 10 :: r => some r
  | 10 :: r => some r
  | 13 :: r => some r
  | [] => some []
  | _ => none

/-- One binding (none for a comment or a skipped line) and the text after it. -/
def readBinding (t : Text) : Option (Text × Option Text) × Text :=
  let t := skipExport t
  match readKey t with
  | none => (none, skipLine t)
  | some (key, t) =>
    let t := t.dropWhile isInlineBlank
    let value? : Option (Option Text × Text) := match t with
      | 61 :: r => (readValue r).map fun (v, r) => (some v, r)
      | _ => some (none, t)
    match value? with
    | none => (none, skipLine t)
    | some (value, t) =>
      let t := skipComment t
      match endOfLine t with
      | none => (none, skipLine t)
      | some t => (key.map fun k => (k, value), t)

/-- The bindings of a text, in order. -/
def bindings : Nat → Text → List (Text × Option Text)
  | 0, _ => []
  | fuel + 1, t =>
    match t.dropWhile Text.isSpace with
    | [] => []
    | t =>
      let (b, rest) := readBinding t
      match b with
      | some b => b :: bindings fuel rest
      | none => bindings fuel rest

/-- Bind a key in an ordered table: a key bound before keeps its place and takes the new value. -/
def assign {α : Type} (table : List (Text × α)) (k : Text) (v : α) : List (Text × α) :=
  if table.any (·.1 == k) then table.map fun (k', v') => if k' == k then (k', v) else (k', v')
  else table ++ [(k, v)]

/-- The value of a name: the table's first, then the environment's, else none. -/
def lookupName (table : List (Text × Option Text)) (env : List (Text × Text)) (name : Text) :
    Option (Option Text) :=
  match table.lookup name with
  | some v => some v
  | none => (env.lookup name).map some

/-- A reference `{NAME}` or `{NAME:-default}` after a `$`: the name, the default, and the rest. -/
def reference (t : Text) : Option (Text × Option Text × Text) :=
  match t with
  | 123 :: rest =>
    let name := rest.takeWhile fun c => c != 125 && c != 58
    match rest.drop name.length with
    | 125 :: r => some (name, none, r)
    | 58 :: 45 :: r =>
      let dflt := r.takeWhile (· != 125)
      match r.drop dflt.length with
      | 125 :: r => some (name, some dflt, r)
      | _ => none
    | _ => none
  | _ => none

/-- Expand the references of a value. -/
def expand (table : List (Text × Option Text)) (env : List (Text × Text)) : Nat → Text → Text
  | 0, t => t
  | _, [] => []
  | fuel + 1, 36 :: rest =>
    match reference rest with
    | some (name, dflt, r) =>
      let v := match lookupName table env name with
        | some v => v.getD []
        | none => dflt.getD []
      v ++ expand table env fuel r
    | none => 36 :: expand table env fuel rest
  | fuel + 1, c :: rest => c :: expand table env fuel rest

/-- The text of an environment file without a byte order mark at its start. -/
def withoutMark : Text → Text
  | 0xFEFF :: rest => rest
  | t => t

/-- The table of an environment file: its bindings with their references expanded, each key once,
in the order keys first appear, with its last value. -/
def read (env : List (Text × Text)) (t : Text) : List (Text × Option Text) :=
  let t := withoutMark t
  (bindings (t.length + 1) t).foldl
    (fun table (k, v) => assign table k (v.map fun v => expand table env (v.length + 1) v))
    []

end EnvFile

end LocationDrift
