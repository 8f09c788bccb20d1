import LocationDrift.Text.Basic

/-!
# Internet addresses in URI hosts

A host in brackets must be an IPv6 address (or an IPvFuture form); these are the textual address
forms that decide it.

**IPv4.** Exactly four dot-separated decimal octets, each one to three ASCII digits with no leading
zero and a value at most 255.

**IPv6.** An optional zone after the first `%`, which must be non-empty and hold no other `%`.
The address has at least three and at most nine colon-separated parts, the last of which may be
an IPv4 address standing for two groups. At most one empty part inside marks a run of zero groups,
which must stand for at least one group; without it there are exactly eight groups. Each group is
one to four hexadecimal digits. No `/` may appear anywhere.
-/

namespace LocationDrift

namespace Address

/-- One IPv4 octet. -/
def isOctet (t : Text) : Bool :=
  !t.isEmpty && t.all Text.isDigit && t.length ≤ 3 && !(t.length > 1 && t.head? == some 48) &&
    t.foldl (fun n d => n * 10 + (d - 48)) 0 ≤ 255

/-- A dotted IPv4 address. -/
def isIPv4 (t : Text) : Bool :=
  !t.contains 47 &&
    match Text.splitOn 46 t with
    | [a, b, c, d] => isOctet a && isOctet b && isOctet c && isOctet d
    | _ => false

/-- One IPv6 group of hexadecimal digits. -/
def isGroup (t : Text) : Bool :=
  !t.isEmpty && t.length ≤ 4 && t.all fun c => (Text.hexValue? c).isSome

/-- The parts of an IPv6 address after an IPv4 suffix is turned into two groups, or none when the
suffix is no IPv4 address. -/
def expandSuffix (parts : List Text) : Option (List Text) :=
  match parts.getLast? with
  | some last =>
    if last.contains 46 then
      if isIPv4 last then some (parts.dropLast ++ [Text.ofString "0", Text.ofString "0"]) else none
    else some parts
  | none => some parts

/-- Positions of empty parts strictly inside the list. -/
def innerEmpty (parts : List Text) : List Nat :=
  ((List.range parts.length).filter fun i => 0 < i && i + 1 < parts.length &&
    (parts.getD i []).isEmpty)

/-- The groups an IPv6 address (without zone) is made of are well formed. -/
def isIPv6Address (t : Text) : Bool :=
  if t.isEmpty then false
  else
    let parts := Text.splitOn 58 t
    if parts.length < 3 then false
    else
      match expandSuffix parts with
      | none => false
      | some parts =>
        if parts.length > 9 then false
        else
          let n := parts.length
          let firstEmpty := (parts.headD []).isEmpty
          let lastEmpty := (parts.getLastD []).isEmpty
          match innerEmpty parts with
          | [] =>
            n == 8 && !firstEmpty && !lastEmpty && parts.all isGroup
          | [skip] =>
            let hi := skip
            let lo := n - skip - 1
            let hi' := if firstEmpty then hi - 1 else hi
            let lo' := if lastEmpty then lo - 1 else lo
            let fine := (!firstEmpty || hi' == 0) && (!lastEmpty || lo' == 0) && hi' + lo' < 8
            let used := (parts.take skip).drop (if firstEmpty then 1 else 0) ++
              (parts.drop (skip + 1)).take lo'
            fine && used.all isGroup
          | _ => false

/-- An IPv6 address with an optional zone. -/
def isIPv6 (t : Text) : Bool :=
  if t.contains 47 then false
  else
    match t.span (· != 37) with
    | (addr, []) => isIPv6Address addr
    | (addr, _ :: zone) => !zone.isEmpty && !zone.contains 37 && isIPv6Address addr

end Address

end LocationDrift
