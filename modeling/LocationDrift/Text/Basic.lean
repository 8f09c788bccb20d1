/-!
# Text as a list of code points

Recorded documents may carry lone surrogates (U+D800 to U+DFFF), which no `Char` can hold, so a
text here is a list of code points. Editors count columns in UTF-16 units, so the two measures
that matter are the code-point index and the UTF-16 offset.

**Units.** `unitsOf c` is two for a code point above U+FFFF and one for every other, a lone
surrogate included; `units16` sums them over a text.

**Index of an offset (`indexOfUnits`).** The least index `i` whose prefix has at least `o` units,
or the length when there is none: an offset that falls inside a surrogate pair lands after that
character.
-/

namespace LocationDrift

/-- A text: code points below U+110000, lone surrogates allowed. -/
abbrev Text := List Nat

namespace Text

/-- The code points of a string. -/
def ofString (s : String) : Text := s.toList.map Char.toNat

/-- The string of a text; a surrogate, which no `Char` holds, becomes U+0000. -/
def toString (t : Text) : String := String.ofList (t.map Char.ofNat)

/-- UTF-16 units of one code point. -/
def unitsOf (c : Nat) : Nat := if c > 0xFFFF then 2 else 1

/-- UTF-16 length of a text. -/
def units16 : Text → Nat
  | [] => 0
  | c :: t => unitsOf c + units16 t

/-- The least index whose prefix spans at least `o` UTF-16 units, clamped to the length. -/
def indexOfUnits : Text → Nat → Nat
  | [], _ => 0
  | c :: t, o => if o = 0 then 0 else indexOfUnits t (o - unitsOf c) + 1

/-- A code point is a surrogate, paired or not. -/
def isSurrogate (c : Nat) : Bool := 0xD800 ≤ c && c ≤ 0xDFFF

/-- The blanks that code fingerprints ignore: space, tab, line feed, vertical tab, form feed and
carriage return. -/
def isAsciiBlank (c : Nat) : Bool := c == 32 || (9 ≤ c && c ≤ 13)

/-- An ASCII digit. -/
def isDigit (c : Nat) : Bool := 48 ≤ c && c ≤ 57

/-- An ASCII letter. -/
def isAsciiLetter (c : Nat) : Bool := (65 ≤ c && c ≤ 90) || (97 ≤ c && c ≤ 122)

/-- ASCII lower case; every other code point is kept. -/
def lowerAscii (c : Nat) : Nat := if 65 ≤ c && c ≤ 90 then c + 32 else c

/-- ASCII upper case; every other code point is kept. -/
def upperAscii (c : Nat) : Nat := if 97 ≤ c && c ≤ 122 then c - 32 else c

/-- Every code point is below U+0080. -/
def isAscii (t : Text) : Bool := t.all (· < 128)

/-- `t` starts with `p`. -/
def startsWith : Text → Text → Bool
  | _, [] => true
  | [], _ :: _ => false
  | c :: t, d :: p => c == d && startsWith t p

/-- Replace every occurrence of a non-empty `pat`, scanning left to right without overlap. -/
def replaceAll (pat rep : Text) : Text → Text
  | [] => []
  | c :: t =>
    if pat ≠ [] && startsWith (c :: t) pat then
      rep ++ replaceAll pat rep ((c :: t).drop pat.length)
    else c :: replaceAll pat rep t
termination_by t => t.length
decreasing_by
  all_goals simp_wf
  all_goals
    first
    | omega
    | (have : pat.length ≥ 1 := by
         cases pat with
         | nil => simp_all
         | cons _ _ => simp
       omega)

/-- Lexicographic order by code point, a prefix first. -/
def lexLe : Text → Text → Bool
  | [], _ => true
  | _ :: _, [] => false
  | c :: t, d :: u => c < d || (c == d && lexLe t u)

/-- Drop leading code points in the class. -/
def dropWhileClass (p : Nat → Bool) (t : Text) : Text := t.dropWhile p

/-- Drop trailing code points in the class. -/
def dropRightWhileClass (p : Nat → Bool) (t : Text) : Text :=
  (t.reverse.dropWhile p).reverse

/-- Split at every occurrence of the code point `sep`; the pieces keep empty ones. -/
def splitOn (sep : Nat) : Text → List Text
  | [] => [[]]
  | c :: t =>
    if c = sep then [] :: splitOn sep t
    else match splitOn sep t with
      | [] => [[c]]
      | p :: ps => (c :: p) :: ps

/-- Join texts with a separator between neighbours. -/
def intercalate (sep : Text) : List Text → Text
  | [] => []
  | [t] => t
  | t :: ts => t ++ sep ++ intercalate sep ts

/-- Lower-case hexadecimal digit of a value below 16. -/
def hexDigitLower (n : Nat) : Nat := if n < 10 then 48 + n else 87 + n

/-- Upper-case hexadecimal digit of a value below 16. -/
def hexDigitUpper (n : Nat) : Nat := if n < 10 then 48 + n else 55 + n

/-- The value of a hexadecimal digit of either case. -/
def hexValue? (c : Nat) : Option Nat :=
  if 48 ≤ c && c ≤ 57 then some (c - 48)
  else if 65 ≤ c && c ≤ 70 then some (c - 55)
  else if 97 ≤ c && c ≤ 102 then some (c - 87)
  else none

/-- `n` in lower-case hexadecimal with at least `width` digits. -/
def hexLower (width n : Nat) : Text :=
  let ds := (Nat.toDigits 16 n).map Char.toNat
  List.replicate (width - ds.length) 48 ++ ds

/-- Decimal digits of a natural number. -/
def ofNat (n : Nat) : Text := (Nat.repr n).toList.map Char.toNat

/-- The most decimal digits a text is converted to an integer from. -/
def digitLimit : Nat := 4300

/-- Number of UTF-8 bytes of a text (a surrogate counts three). -/
def utf8Size (t : Text) : Nat :=
  (t.map fun c => if c < 0x80 then 1 else if c < 0x800 then 2 else if c < 0x10000 then 3 else 4).foldr (· + ·) 0

/-- Decimal text of an integer, with a minus sign when negative. -/
def ofInt (n : Int) : Text :=
  match n with
  | .ofNat k => ofNat k
  | .negSucc k => 45 :: ofNat (k + 1)

end Text

end LocationDrift
