import LocationDrift.Text.Printable

/-!
# Quoted texts in messages

Messages show a text between single quotes, or between double quotes when the text holds a single
quote and no double quote. Inside, the backslash and the chosen quote are escaped with a backslash;
tab, line feed and carriage return are `\t`, `\n`, `\r`; any other character that is not printable
is `\xhh`, `\uhhhh` or `\Uhhhhhhhh` by its size; printable characters stand as they are.
-/

namespace LocationDrift

namespace Text

/-- The written form of one character between the given quotes. -/
def quotedChar (q : Nat) (c : Nat) : Text :=
  if c == 92 then [92, 92]
  else if c == q then [92, q]
  else if c == 9 then [92, 116]
  else if c == 10 then [92, 110]
  else if c == 13 then [92, 114]
  else if isPrintable c then [c]
  else if c ≤ 0xFF then [92, 120] ++ hexLower 2 c
  else if c ≤ 0xFFFF then [92, 117] ++ hexLower 4 c
  else [92, 85] ++ hexLower 8 c

/-- A text between quotes, as messages show it. -/
def quoted (t : Text) : Text :=
  let q := if t.contains 39 && !t.contains 34 then 34 else 39
  q :: t.flatMap (quotedChar q) ++ [q]

end Text

end LocationDrift
