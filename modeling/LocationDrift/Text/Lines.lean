import LocationDrift.Text.Basic

/-!
# Lines of a text

A line ends at a carriage return and line feed pair, a lone carriage return or a lone line feed.
`pieces` cuts a text at every break and keeps the piece after the last one, empty or not;
`splitLines` drops that last piece when it is empty, so a trailing break adds no line and the
empty text has no lines.

**Universal newlines.** A file read as text has each carriage return and line feed pair, and each
lone carriage return, turned into a line feed (`translateNewlines`).
-/

namespace LocationDrift

namespace Text

/-- Pieces between line breaks, the piece after the last break included. -/
def pieces : Text → List Text
  | [] => [[]]
  | 13 :: 10 :: r => [] :: pieces r
  | 13 :: r => [] :: pieces r
  | 10 :: r => [] :: pieces r
  | c :: r =>
    match pieces r with
    | [] => [[c]]
    | p :: ps => (c :: p) :: ps

/-- Drop the last element when it is the empty text. -/
def dropEmptyLast : List Text → List Text
  | [] => []
  | [[]] => []
  | [t] => [t]
  | t :: ts => t :: dropEmptyLast ts

/-- The lines of a text; a trailing break adds no line. -/
def splitLines (t : Text) : List Text := dropEmptyLast (pieces t)

/-- Every line break written as a line feed, as a file read as text has them. -/
def translateNewlines : Text → Text
  | [] => []
  | 13 :: 10 :: r => 10 :: translateNewlines r
  | 13 :: r => 10 :: translateNewlines r
  | c :: r => c :: translateNewlines r

end Text

end LocationDrift
