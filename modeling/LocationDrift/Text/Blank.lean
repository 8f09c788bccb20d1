import LocationDrift.Text.Basic

/-!
# Blank characters and trimming

Two classes of blank are in use. `isSpace` is the class of characters with a blank bidirectional
type or the space-separator category, which includes the four information separators
U+001C to U+001F; it is what settings trim. `isWhiteSpace` is the Unicode White_Space property,
which lacks those four; it is what numeric text in documents is trimmed of. Both tables are for
Unicode 14.0.
-/

namespace LocationDrift

namespace Text

/-- Characters outside ASCII that both classes share. -/
def isWideBlank (c : Nat) : Bool :=
  c == 0x85 || c == 0xA0 || c == 0x1680 || (0x2000 ≤ c && c ≤ 0x200A) || c == 0x2028 ||
    c == 0x2029 || c == 0x202F || c == 0x205F || c == 0x3000

/-- The Unicode White_Space property. -/
def isWhiteSpace (c : Nat) : Bool := c == 32 || (9 ≤ c && c ≤ 13) || isWideBlank c

/-- White_Space together with the information separators U+001C to U+001F. -/
def isSpace (c : Nat) : Bool := isWhiteSpace c || (0x1C ≤ c && c ≤ 0x1F)

/-- Drop characters of a class from both ends. -/
def trimBy (p : Nat → Bool) (t : Text) : Text := dropRightWhileClass p (t.dropWhile p)

/-- Upper case as far as it decides whether a text is an ASCII word: ASCII letters and the ten
characters outside ASCII whose upper case is ASCII (sharp s, dotless i, long s and the Latin
ligatures) are mapped; every other character is kept and so never matches an ASCII word. -/
def upperToAscii (c : Nat) : Text :=
  if 97 ≤ c && c ≤ 122 then [c - 32]
  else if c == 0xDF then ofString "SS"
  else if c == 0x131 then ofString "I"
  else if c == 0x17F then ofString "S"
  else if c == 0xFB00 then ofString "FF"
  else if c == 0xFB01 then ofString "FI"
  else if c == 0xFB02 then ofString "FL"
  else if c == 0xFB03 then ofString "FFI"
  else if c == 0xFB04 then ofString "FFL"
  else if c == 0xFB05 || c == 0xFB06 then ofString "ST"
  else [c]

/-- Upper case of a text, exact wherever the result is ASCII. -/
def upper (t : Text) : Text := t.flatMap upperToAscii

end Text

end LocationDrift
