import LocationDrift.Text.Quoted

/-!
# The command line

The program takes `--version` or `-h`/`--help`, then a subcommand; the only subcommand, `show`,
takes an issue file and the options `-s`/`--source` (one of `live`, `remote`, `taint`),
`-w`/`--workspace-folder`, `-c`/`--connection-id`, `--compact`, `-v`/`--verbose` and `-h`/`--help`.

**Reading an argument (`Parser.readingOf`).** The first `--` is a separator and every argument after
it is plain. Otherwise an argument is an option when it starts with `-`, is not `-` alone and names
an option: exactly, as `--name=value` or `-nvalue`, or by a unique prefix of a long name (several
matching names are an error). A negative number or a text with a space is plain; any other text
starting with `-` is an unknown option.

**Parsing (`Parser.parse`).** Arguments are taken from the left. An option takes its value from its
own text or from the next plain argument (a separator before or after it is dropped); a flag may
be followed, in its own text, by further one-letter flags or options. A plain argument fills the
positional while it is free: the issue file, or the subcommand, which takes every remaining
argument for itself. Unknown options and plain arguments left over are unrecognised, which is an
error once everything else has been read; help stops parsing at once.
-/

namespace LocationDrift

namespace Cli

/-- What an option sets. -/
inductive Target where
  | help
  | version
  | source
  | workspaceFolder
  | connectionId
  | compact
  | verbose
deriving DecidableEq, Repr, Inhabited

/-- An option: its spellings, what it sets, and whether it takes a value. -/
structure OptionSpec where
  spellings : List String
  target : Target
  takesValue : Bool
deriving Repr, Inhabited

/-- The name of an option in messages: its spellings joined by `/`. -/
def OptionSpec.display (o : OptionSpec) : Text := Text.ofString (String.intercalate "/" o.spellings)

/-- The positional argument of a parser. -/
inductive Positional where
  /-- A subcommand name; the subcommand takes the arguments after it. -/
  | command
  /-- The issue file. -/
  | issueFile
deriving DecidableEq, Repr, Inhabited

/-- A parser: its program name, its options in order and its positional. -/
structure Parser where
  prog : String
  options : List OptionSpec
  positional : Positional
deriving Repr, Inhabited

/-- The sources an issue file may hold, in the order messages list them. -/
def sourceChoices : List String := ["live", "remote", "taint"]

/-- The subcommands. -/
def commandChoices : List String := ["show"]

/-- The program's own parser. -/
def topParser : Parser :=
  ⟨"driftscope", [⟨["-h", "--help"], .help, false⟩, ⟨["--version"], .version, false⟩], .command⟩

/-- The parser of `show`. -/
def showParser : Parser :=
  ⟨"driftscope show",
    [⟨["-h", "--help"], .help, false⟩, ⟨["--source", "-s"], .source, true⟩,
      ⟨["--workspace-folder", "-w"], .workspaceFolder, true⟩,
      ⟨["--connection-id", "-c"], .connectionId, true⟩, ⟨["--compact"], .compact, false⟩,
      ⟨["--verbose", "-v"], .verbose, false⟩],
    .issueFile⟩

/-- What the command line says, each setting at its default until given. -/
structure Arguments where
  version : Bool
  command : Option Text
  issueFile : Option Text
  source : Text
  workspaceFolder : Option Text
  connectionId : Option Text
  compact : Bool
  verbose : Bool
deriving DecidableEq, Repr, Inhabited

/-- Nothing given. -/
def Arguments.initial : Arguments :=
  ⟨false, none, none, Text.ofString "remote", none, none, false, false⟩

/-- Why a command line is refused. -/
inductive UsageError where
  /-- A prefix of several options. -/
  | ambiguous (arg : Text) (spellings : List Text)
  /-- An option without its value. -/
  | expectedOne (option : Text)
  /-- A value given to an option that takes none. -/
  | ignoredExplicit (option : Text) (value : Text)
  /-- A value outside the choices. -/
  | invalidChoice (argument : Text) (value : Text) (choices : List String)
  /-- Positionals that were never given. -/
  | required (names : List String)
  /-- Arguments nothing took. -/
  | unrecognized (args : List Text)
deriving DecidableEq, Repr

namespace UsageError

/-- The message of each error. -/
def message : UsageError → Text
  | ambiguous arg spellings =>
    Text.ofString "ambiguous option: " ++ arg ++ Text.ofString " could match " ++
      Text.intercalate (Text.ofString ", ") spellings
  | expectedOne option => Text.ofString "argument " ++ option ++ Text.ofString ": expected one argument"
  | ignoredExplicit option value =>
    Text.ofString "argument " ++ option ++ Text.ofString ": ignored explicit argument " ++
      Text.quoted value
  | invalidChoice argument value choices =>
    Text.ofString "argument " ++ argument ++ Text.ofString ": invalid choice: " ++ Text.quoted value ++
      Text.ofString " (choose from " ++
      Text.intercalate (Text.ofString ", ") (choices.map fun c => Text.quoted (Text.ofString c)) ++
      Text.ofString ")"
  | required names =>
    Text.ofString ("the following arguments are required: " ++ String.intercalate ", " names)
  | unrecognized args =>
    Text.ofString "unrecognized arguments: " ++ Text.intercalate [32] args

end UsageError

/-- Why parsing stopped before its end. -/
inductive Stop where
  /-- Help was asked for, of the named program. -/
  | help (prog : String)
  /-- The command line was refused by the named program. -/
  | usage (prog : String) (e : UsageError)
deriving DecidableEq, Repr

/-- How one argument reads. -/
inductive Reading where
  /-- A plain argument. -/
  | plain
  /-- The first `--`. -/
  | separator
  /-- An option, when one is named, with the spelling used and a value in the same text. -/
  | option (spec : Option OptionSpec) (spelling : Text) (explicit : Option Text)
deriving Repr, Inhabited

namespace Parser

/-- Every spelling with its option, in order. -/
def spellings (p : Parser) : List (Text × OptionSpec) :=
  p.options.flatMap fun o => o.spellings.map fun s => (Text.ofString s, o)

/-- The option spelled exactly so. -/
def optionNamed? (p : Parser) (t : Text) : Option OptionSpec := (p.spellings.lookup t)

/-- A text up to its first `=` and the text after it. -/
def splitAtEquals (t : Text) : Option (Text × Text) :=
  if t.contains 61 then some (t.takeWhile (· != 61), (t.dropWhile (· != 61)).drop 1) else none

/-- The options an argument may abbreviate or start. -/
def prefixMatches (p : Parser) (arg : Text) : List (OptionSpec × Text × Option Text) :=
  match arg with
  | 45 :: 45 :: _ =>
    let (pre, explicit) := match splitAtEquals arg with
      | some (o, e) => (o, some e)
      | none => (arg, none)
    p.spellings.filterMap fun (s, o) => if Text.startsWith s pre then some (o, s, explicit) else none
  | _ =>
    let short := arg.take 2
    p.spellings.filterMap fun (s, o) =>
      if s == short then some (o, s, some (arg.drop 2))
      else if Text.startsWith s arg then some (o, s, none)
      else none

/-- A negative number: `-` and digits, or `-`, digits, `.` and digits, maybe with a final line feed. -/
def isNegativeNumber (arg : Text) : Bool :=
  let body := if arg.getLast? == some 10 then arg.dropLast else arg
  match body with
  | 45 :: rest =>
    let whole := rest.takeWhile Text.isDigit
    let after := rest.drop whole.length
    (after.isEmpty && !whole.isEmpty) ||
      (match after with
        | 46 :: frac => !frac.isEmpty && frac.all Text.isDigit
        | _ => false)
  | _ => false

/-- How an argument other than the first `--` reads. -/
def readingOf (p : Parser) (arg : Text) : Except UsageError Reading :=
  match arg with
  | [] => .ok .plain
  | c :: rest =>
    if c != 45 then .ok .plain
    else match p.optionNamed? arg with
      | some o => .ok (.option (some o) arg none)
      | none =>
        if rest.isEmpty then .ok .plain
        else
          let byEquals := (splitAtEquals arg).bind fun (o, e) => (p.optionNamed? o).map fun spec => (spec, o, e)
          match byEquals with
          | some (spec, o, e) => .ok (.option (some spec) o (some e))
          | none =>
            match p.prefixMatches arg with
            | [(spec, s, e)] => .ok (.option (some spec) s e)
            | [] =>
              if isNegativeNumber arg || arg.contains 32 then .ok .plain
              else .ok (.option none arg none)
            | many => .error (.ambiguous arg (many.map fun (_, s, _) => s))

/-- How every argument reads: all are plain after the first `--`. -/
def readings (p : Parser) : List Text → Except UsageError (List (Text × Reading))
  | [] => .ok []
  | a :: rest =>
    if a == Text.ofString "--" then .ok ((a, .separator) :: rest.map fun r => (r, .plain))
    else do
      let r ← p.readingOf a
      let more ← p.readings rest
      pure ((a, r) :: more)

end Parser

/-- The number of separators at the front. -/
def leadingSeparators : List (Text × Reading) → Nat
  | (_, .separator) :: rest => leadingSeparators rest + 1
  | _ => 0

/-- The length of one value at the front: separators, a plain argument, separators. -/
def oneValue? (args : List (Text × Reading)) : Option Nat :=
  let d := leadingSeparators args
  match args.drop d with
  | (_, .plain) :: rest => some (d + 1 + leadingSeparators rest)
  | _ => none

/-- The texts of some arguments with the first `--` removed. -/
def withoutSeparator (ts : List Text) : List Text := ts.erase (Text.ofString "--")

/-- Set what an option targets, checking choices; help stops. -/
def Arguments.apply (a : Arguments) (prog : String) (o : OptionSpec) (value : Text) :
    Except Stop Arguments :=
  match o.target with
  | .help => .error (.help prog)
  | .version => .ok { a with version := true }
  | .source =>
    if sourceChoices.any (fun c => value == Text.ofString c) then .ok { a with source := value }
    else .error (.usage prog (.invalidChoice o.display value sourceChoices))
  | .workspaceFolder => .ok { a with workspaceFolder := some value }
  | .connectionId => .ok { a with connectionId := some value }
  | .compact => .ok { a with compact := true }
  | .verbose => .ok { a with verbose := true }

/-- Set, in order, what each of some options targets. -/
def Arguments.applyAll (a : Arguments) (prog : String) : List (OptionSpec × Text) → Except Stop Arguments
  | [] => .ok a
  | (o, v) :: rest => (a.apply prog o v).bind fun a => a.applyAll prog rest

/-- The options one option text names, with their values, and the count of following arguments
the last of them takes. Flags may be followed, in the same text, by further one-letter options. -/
def packed (p : Parser) (spec : OptionSpec) (spelling : Text) :
    Option Text → List (Text × Reading) → Nat → Except Stop (List (OptionSpec × Text) × Nat)
  | some e, rest, fuel =>
    if spec.takesValue then .ok ([(spec, e)], 0)
    else
      match spelling, e, fuel with
      | 45 :: c :: _, f :: more, fuel + 1 =>
        if c == 45 then .error (.usage p.prog (.ignoredExplicit spec.display e))
        else
          match p.optionNamed? [45, f] with
          | some next =>
            (packed p next [45, f] (if more.isEmpty then none else some more) rest fuel).map
              fun (taken, n) => ((spec, []) :: taken, n)
          | none => .error (.usage p.prog (.ignoredExplicit spec.display e))
      | _, _, _ => .error (.usage p.prog (.ignoredExplicit spec.display e))
  | none, rest, _ =>
    if spec.takesValue then
      match oneValue? rest with
      | some n =>
        match withoutSeparator ((rest.take n).map (·.1)) with
        | [v] => .ok ([(spec, v)], n)
        | _ => .error (.usage p.prog (.expectedOne spec.display))
      | none => .error (.usage p.prog (.expectedOne spec.display))
    else .ok ([(spec, [])], leadingSeparators rest)

/-- What a parser makes of its arguments: the settings, whether the positional was taken, and the
unrecognised arguments. The positional's handler receives the texts it takes and gives back the
settings and any arguments it did not recognise. -/
def Parser.consume (p : Parser)
    (takePositional : Arguments → List Text → Except Stop (Arguments × List Text)) :
    Nat → List (Text × Reading) → Arguments → Bool → List Text → Except Stop (Arguments × Bool × List Text)
  | 0, _, a, done, extras => .ok (a, done, extras)
  | _, [], a, done, extras => .ok (a, done, extras)
  | fuel + 1, (arg, .option none _ _) :: rest, a, done, extras =>
    p.consume takePositional fuel rest a done (extras ++ [arg])
  | fuel + 1, (_, .option (some spec) spelling explicit) :: rest, a, done, extras =>
    match packed p spec spelling explicit rest (spelling.length + (explicit.map (·.length)).getD 0) with
    | .error s => .error s
    | .ok (taken, n) =>
      match a.applyAll p.prog taken with
      | .error s => .error s
      | .ok a => p.consume takePositional fuel (rest.drop n) a done extras
  | fuel + 1, args@((arg, _) :: rest), a, done, extras =>
    let taken? : Option Nat := if done then none else
      match p.positional with
      | .command => if (oneValue? args).isSome then some args.length else none
      | .issueFile => oneValue? args
    match taken? with
    | none => p.consume takePositional fuel rest a done (extras ++ [arg])
    | some n =>
      match takePositional a ((args.take n).map (·.1)) with
      | .error s => .error s
      | .ok (a, more) => p.consume takePositional fuel (args.drop n) a true (extras ++ more)

/-- Parse with a parser: its settings and unrecognised arguments, or why it stopped. -/
def Parser.parse (p : Parser)
    (takePositional : Arguments → List Text → Except Stop (Arguments × List Text))
    (args : List Text) (start : Arguments) : Except Stop (Arguments × List Text) :=
  match p.readings args with
  | .error e => .error (.usage p.prog e)
  | .ok rs =>
    (p.consume takePositional (rs.length + 1) rs start false []).bind fun (a, done, extras) =>
      if !done && p.positional == .issueFile then .error (.usage p.prog (.required ["issue_file"]))
      else .ok (a, extras)

/-- The issue file's texts: one, with a separator dropped. -/
def takeIssueFile (a : Arguments) (ts : List Text) : Except Stop (Arguments × List Text) :=
  match withoutSeparator ts with
  | v :: _ => .ok ({ a with issueFile := some v }, [])
  | [] => .ok (a, [])

/-- The subcommand's texts: its name, then its own arguments for its parser. -/
def takeCommand (a : Arguments) (ts : List Text) : Except Stop (Arguments × List Text) :=
  match ts with
  | [] => .ok (a, [])
  | name :: rest =>
    if name == Text.ofString "show" then showParser.parse takeIssueFile rest { a with command := some name }
    else .error (.usage topParser.prog (.invalidChoice (Text.ofString "command") name commandChoices))

/-- What a command line says, or why it stops. -/
def parseArguments (args : List Text) : Except Stop Arguments :=
  (topParser.parse takeCommand args Arguments.initial).bind fun (a, extras) =>
    if extras.isEmpty then .ok a else .error (.usage topParser.prog (.unrecognized extras))

end Cli

end LocationDrift
