import LocationDrift.Uri.Address
import LocationDrift.Text.Quoted

/-!
# Splitting a URI into its parts

A URI splits into scheme, network location, path, query and fragment.

**Cleaning.** Leading characters up to U+0020 are dropped and every tab, line feed and carriage
return is removed first.

**Scheme.** When the text has a `:` after at least one character, starts with an ASCII letter and
has only letters, digits, `+`, `-` and `.` before the first `:`, that prefix in lower case is the
scheme and the rest follows the colon. Otherwise the scheme is empty.

**Location.** After `//`, the network location runs to the first `/`, `?` or `#`. A bracket
without its partner is refused. When both occur, the host is read from the part after the last
`@`: when that part holds a `[`, nothing may stand before it, the host runs to the next `]`, and
only a `:` may follow that bracket; otherwise the host runs to the first `:`. The host must then
be an IPv6 address or an IPvFuture form (`v`, hexadecimal digits, a dot, at least one more
character); an IPv4 address is refused. A location outside ASCII is refused when compatibility
normalisation would put one of `/ ? # @ :` into it.

**Fragment and query.** The fragment follows the first `#`; the query follows the first `?` of what
is left. The path is the rest.
-/

namespace LocationDrift

/-- The five parts of a URI. -/
structure UriParts where
  scheme : Text
  netloc : Text
  path : Text
  query : Text
  fragment : Text
deriving DecidableEq, Repr, Inhabited

/-- Why a URI cannot be split. -/
inductive SplitError where
  /-- A `[` without `]` or the reverse. -/
  | unbalancedBracket
  /-- Text before the opening bracket of the host, or between its closing bracket and the port. -/
  | strayText
  /-- A bracketed host starting with `v` that is no IPvFuture form. -/
  | badFutureAddress
  /-- A bracketed IPv4 address. -/
  | bracketedIPv4
  /-- A bracketed host that is no address. -/
  | notAnAddress (host : Text)
  /-- A location that normalises into a delimiter. -/
  | hiddenDelimiter (netloc : Text)
deriving DecidableEq, Repr

namespace SplitError

/-- The message of each refusal. -/
def message : SplitError → Text
  | unbalancedBracket | strayText => Text.ofString "Invalid IPv6 URL"
  | badFutureAddress => Text.ofString "IPvFuture address is invalid"
  | bracketedIPv4 => Text.ofString "An IPv4 address cannot be in brackets"
  | notAnAddress host =>
    Text.quoted host ++ Text.ofString " does not appear to be an IPv4 or IPv6 address"
  | hiddenDelimiter netloc =>
    Text.ofString "netloc '" ++ netloc ++
      Text.ofString "' contains invalid characters under NFKC normalization"

end SplitError

namespace UriParts

/-- A character allowed in a scheme. -/
def isSchemeChar (c : Nat) : Bool :=
  Text.isAsciiLetter c || Text.isDigit c || c == 43 || c == 45 || c == 46

/-- The characters outside ASCII whose compatibility form holds one of `/ ? # @ :`. -/
def hidesDelimiter (c : Nat) : Bool :=
  [0x2047, 0x2048, 0x2049, 0x2100, 0x2101, 0x2105, 0x2106, 0x2A74, 0xFE13, 0xFE16, 0xFE55,
    0xFE56, 0xFE5F, 0xFE6B, 0xFF03, 0xFF0F, 0xFF1A, 0xFF1F, 0xFF20].contains c

/-- An IPvFuture host: `v`, hexadecimal digits, a dot, at least one more character. -/
def isFutureAddress : Text → Bool
  | 118 :: rest =>
    match rest.span fun c => (Text.hexValue? c).isSome with
    | (_ :: _, 46 :: _ :: _) => true
    | _ => false
  | _ => false

/-- Check the host between brackets. -/
def checkBracketedHost (host : Text) : Except SplitError Unit :=
  match host with
  | 118 :: _ => if isFutureAddress host then .ok () else .error .badFutureAddress
  | _ =>
    if Address.isIPv4 host then .error .bracketedIPv4
    else if Address.isIPv6 host then .ok ()
    else .error (.notAnAddress host)

/-- The part before the first `d` and the part after it, when `d` occurs. -/
def cutAt (d : Nat) (t : Text) : Text × Option Text :=
  match t.span (· != d) with
  | (before, _ :: after) => (before, some after)
  | (before, []) => (before, none)

/-- The text after the last `d`, or all of it when there is none. -/
def afterLast (d : Nat) (t : Text) : Text := (t.reverse.takeWhile (· != d)).reverse

/-- Check a network location. -/
def checkNetloc (netloc : Text) : Except SplitError Unit :=
  let opens := netloc.contains 91
  let closes := netloc.contains 93
  if opens != closes then .error .unbalancedBracket
  else if opens then
    let hostAndPort := afterLast 64 netloc
    match cutAt 91 hostAndPort with
    | (before, some bracketed) =>
      if !before.isEmpty then .error .strayText
      else
        match cutAt 93 bracketed with
        | (host, some (c :: _)) => if c != 58 then .error .strayText else checkBracketedHost host
        | (host, _) => checkBracketedHost host
    | (_, none) => checkBracketedHost (hostAndPort.takeWhile (· != 58))
  else .ok ()

/-- The scheme and the rest, when the text has one. -/
def schemeOf? (url : Text) : Option (Text × Text) :=
  match url.span (· != 58) with
  | (c :: pre, 58 :: rest) =>
    if Text.isAsciiLetter c && (c :: pre).all isSchemeChar then
      some ((c :: pre).map Text.lowerAscii, rest)
    else none
  | _ => none

/-- Split a URI into its parts. -/
def split? (raw : Text) : Except SplitError UriParts :=
  let url := (raw.dropWhile (· ≤ 32)).filter fun c => c != 9 && c != 10 && c != 13
  let (scheme, rest) := (schemeOf? url).getD ([], url)
  let netlocSplit : Option (Text × Text) := match rest with
    | 47 :: 47 :: r => some (r.span fun c => c != 47 && c != 63 && c != 35)
    | _ => none
  let checked : Except SplitError (Text × Text) := match netlocSplit with
    | some (netloc, r) => (checkNetloc netloc).map fun _ => (netloc, r)
    | none => .ok ([], rest)
  checked.bind fun (netloc, r) =>
    let (beforeHash, fragment) := cutAt 35 r
    let (path, query) := cutAt 63 beforeHash
    if !Text.isAscii netloc && netloc.any hidesDelimiter then .error (.hiddenDelimiter netloc)
    else .ok ⟨scheme, netloc, path, query.getD [], fragment.getD []⟩

end UriParts

end LocationDrift
