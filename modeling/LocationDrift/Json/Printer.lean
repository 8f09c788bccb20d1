import LocationDrift.Json.Basic

/-!
# Writing JSON text

A `Style` says how values are laid out: on one line with `", "` between items and `": "` after
keys, or one item per line indented by a number of spaces with `","` ending each line but the
last. Strings always escape the quote, the backslash and the control characters below U+0020
(`\b`, `\f`, `\n`, `\r`, `\t` by letter, the rest as `\u00XX`); an ASCII-only style also writes
every code point above U+007F as `\uXXXX`, one above U+FFFF as its surrogate pair. Hexadecimal
digits are lower case. An empty array or object is `[]` or `{}` in every style.
-/

namespace LocationDrift

namespace Json

/-- How a value is laid out. -/
structure Style where
  /-- Spaces per level, or none for one line. -/
  indent : Option Nat
  /-- Escape everything outside ASCII. -/
  asciiOnly : Bool
deriving Repr

/-- `\uXXXX` for one UTF-16 unit. -/
def unitEscape (u : Nat) : Text := [92, 117] ++ Text.hexLower 4 u

/-- The written form of one code point inside a string. -/
def escapeChar (asciiOnly : Bool) (c : Nat) : Text :=
  if c == 34 then [92, 34]
  else if c == 92 then [92, 92]
  else if c == 10 then [92, 110]
  else if c == 13 then [92, 114]
  else if c == 9 then [92, 116]
  else if c == 8 then [92, 98]
  else if c == 12 then [92, 102]
  else if c < 32 then unitEscape c
  else if asciiOnly && c > 127 then
    if c > 0xFFFF then
      let v := c - 0x10000
      unitEscape (0xD800 + v / 0x400) ++ unitEscape (0xDC00 + v % 0x400)
    else unitEscape c
  else [c]

/-- A quoted string. -/
def quote (asciiOnly : Bool) (t : Text) : Text :=
  34 :: (t.flatMap (escapeChar asciiOnly)) ++ [34]

/-- The exact decimal expansion of `m · 2^e`, with a fraction part. -/
def decimalOfBinary (m : Nat) (e : Int) : Text :=
  if e ≥ 0 then Text.ofNat (m * Nat.pow 2 e.toNat) ++ Text.ofString ".0"
  else
    let places := (-e).toNat
    let scaled := m * Nat.pow 5 places
    let ds := Text.ofNat scaled
    let ds := List.replicate (places + 1 - ds.length) 48 ++ ds
    ds.take (ds.length - places) ++ [46] ++ ds.drop (ds.length - places)

/-- Finite binary64 values are written as their exact decimal expansion. -/
def numberText : Binary64 → Text
  | .finite negative m e => (if negative then [45] else []) ++ decimalOfBinary m e
  | .infinite negative => Text.ofString (if negative then "-Infinity" else "Infinity")
  | .nan => Text.ofString "NaN"

/-- A line break and the indentation of a level, or nothing on one line. -/
def breakAt (style : Style) (level : Nat) : Text :=
  match style.indent with
  | some n => 10 :: List.replicate (n * level) 32
  | none => []

/-- What stands between two items. -/
def itemSeparator (style : Style) : Text :=
  match style.indent with
  | some _ => [44]
  | none => [44, 32]

mutual

/-- The text of a value at a nesting level. -/
def render (style : Style) (level : Nat) : Json → Text
  | null => Text.ofString "null"
  | bool b => Text.ofString (if b then "true" else "false")
  | int n => Text.ofInt n
  | float x => numberText x
  | str s => quote style.asciiOnly s
  | arr [] => [91, 93]
  | arr (v :: vs) =>
    [91] ++ breakAt style (level + 1) ++ render style (level + 1) v ++
      renderItems style (level + 1) vs ++ breakAt style level ++ [93]
  | obj [] => [123, 125]
  | obj ((k, v) :: kvs) =>
    [123] ++ breakAt style (level + 1) ++ quote style.asciiOnly k ++ [58, 32] ++
      render style (level + 1) v ++ renderFields style (level + 1) kvs ++
      breakAt style level ++ [125]

/-- The items after the first, each after a separator. -/
def renderItems (style : Style) (level : Nat) : List Json → Text
  | [] => []
  | v :: vs =>
    itemSeparator style ++ breakAt style level ++ render style level v ++
      renderItems style level vs

/-- The fields after the first, each after a separator. -/
def renderFields (style : Style) (level : Nat) : List (Text × Json) → Text
  | [] => []
  | (k, v) :: kvs =>
    itemSeparator style ++ breakAt style level ++ quote style.asciiOnly k ++ [58, 32] ++
      render style level v ++ renderFields style level kvs

end

/-- The text of a value. -/
def print (style : Style) (j : Json) : Text := render style 0 j

end Json

end LocationDrift
