import LocationDrift.Json.Basic

/-!
# Reading JSON text

The grammar is JSON's, with three more literals (`NaN`, `Infinity`, `-Infinity`) and the
strict string rule: a control character below U+0020 must be escaped. A `\u` escape of a high
surrogate followed by a `\u` escape of a low surrogate makes one code point; any other surrogate
escape stays a lone code point. A number without fraction and exponent is an exact integer of at
most 4300 digits; any other is rounded to binary64. A repeated key keeps its first place and takes
its last value. Blanks are space, tab, line feed and carriage return; a text that opens with a
byte order mark is refused.

Nesting is read with a budget that the entry point sets from the length of the text, and every
step of a value, an array or an object spends one unit of it while it consumes text, so the budget
never runs out on a text that the grammar accepts.

**Nesting room.** A reader may also have only so many levels of arrays and objects left to enter
(`readWithin`): opening one more is refused as too deep, before anything after the bracket is
read, unless the text already broke the grammar before that point. With as much room as the text
has characters, nothing is too deep (`parse`).

**Refusals.** The reader stops at the first character the grammar rules out and says what it
expected there (`Flaw`), with the place as a line, a column and a character index
(`Refusal.message`): a value, a property name, a `:` or `,` delimiter, the end of the text; a
string that does not end, a control character in a string, an unknown escape, a `\u` escape
without four hexadecimal digits after it and a character after those. An integer literal of more
than 4300 digits is refused by its number of digits, with no place.
-/

namespace LocationDrift

namespace Json

/-- Skip the blanks of the format. -/
def skipBlank : Text → Text
  | c :: r => if c == 32 || c == 9 || c == 10 || c == 13 then skipBlank r else c :: r
  | [] => []

/-- The value of four hexadecimal digits. -/
def hexQuad (a b c d : Nat) : Option Nat := do
  let a ← Text.hexValue? a
  let b ← Text.hexValue? b
  let c ← Text.hexValue? c
  let d ← Text.hexValue? d
  pure (((a * 16 + b) * 16 + c) * 16 + d)

/-- The code point of a high and a low surrogate. -/
def joinSurrogates (hi lo : Nat) : Nat := 0x10000 + (hi - 0xD800) * 0x400 + (lo - 0xDC00)

/-- The escape letter's code point, for the one-letter escapes. -/
def simpleEscape? (c : Nat) : Option Nat :=
  if c == 34 then some 34 else if c == 92 then some 92 else if c == 47 then some 47
  else if c == 98 then some 8 else if c == 102 then some 12 else if c == 110 then some 10
  else if c == 114 then some 13 else if c == 116 then some 9 else none

/-- What the reader complains of where it stops. -/
inductive Flaw where
  /-- No value starts here. -/
  | value
  /-- An object's member does not start with a quoted name. -/
  | propertyName
  /-- A member's name is not followed by `:`. -/
  | colon
  /-- An item or a member is not followed by `,` or the closing bracket. -/
  | comma
  /-- A string does not end; the place is its opening quote. -/
  | unterminated
  /-- A string holds a character below U+0020. -/
  | controlCharacter
  /-- A backslash is followed by no escape letter; the place is the backslash. -/
  | escape
  /-- A `\u` escape lacks its four hexadecimal digits and a character after them; the place is
  the `u`. -/
  | unicodeEscape
  /-- Something follows the value. -/
  | extraData
  /-- The text opens with a byte order mark. -/
  | byteOrderMark
deriving DecidableEq, Repr

/-- The complaint as the reader words it. -/
def Flaw.text : Flaw → String
  | value => "Expecting value"
  | propertyName => "Expecting property name enclosed in double quotes"
  | colon => "Expecting ':' delimiter"
  | comma => "Expecting ',' delimiter"
  | unterminated => "Unterminated string starting at"
  | controlCharacter => "Invalid control character at"
  | escape => "Invalid \\escape"
  | unicodeEscape => "Invalid \\uXXXX escape"
  | extraData => "Extra data"
  | byteOrderMark => "Unexpected UTF-8 BOM (decode using utf-8-sig)"

/-- Why a text is not read as one value. -/
inductive Refusal where
  /-- The text breaks the grammar where `rest`, a suffix of it, begins. -/
  | invalid (flaw : Flaw) (rest : Text)
  /-- An integer literal has more digits than an integer may be read from. -/
  | tooManyDigits (digits : Nat)
  /-- An array, or an object when `isObject`, opens where no nesting room is left. -/
  | tooDeep (isObject : Bool)
deriving DecidableEq, Repr

/-- The characters of a string up to its closing quote, in reverse in `acc`; `quote` is the text
from the opening quote on. Returns the string and the text after the closing quote. -/
def readChars (quote : Text) (acc : Text) : Text → Except Refusal (Text × Text)
  | [] => .error (.invalid .unterminated quote)
  | 34 :: r => .ok (acc.reverse, r)
  | 92 :: 117 :: a :: b :: c :: d :: rest =>
    match hexQuad a b c d with
    | none => .error (.invalid .unicodeEscape (117 :: a :: b :: c :: d :: rest))
    | some v =>
      if rest = [] then .error (.invalid .unicodeEscape (117 :: a :: b :: c :: d :: rest))
      else if 0xD800 ≤ v ∧ v ≤ 0xDBFF then
        match _hr : rest with
        | 92 :: 117 :: a2 :: b2 :: c2 :: d2 :: rest2 =>
          -- a pair needs a character after it, or the low half is read as an escape of its own
          if rest2 = [] then readChars quote (v :: acc) rest
          else
            match hexQuad a2 b2 c2 d2 with
            | none => .error (.invalid .unicodeEscape (117 :: a2 :: b2 :: c2 :: d2 :: rest2))
            | some w =>
              if 0xDC00 ≤ w ∧ w ≤ 0xDFFF then readChars quote (joinSurrogates v w :: acc) rest2
              else readChars quote (v :: acc) rest
        | _ => readChars quote (v :: acc) rest
      else readChars quote (v :: acc) rest
  | 92 :: e :: rest =>
    match simpleEscape? e with
    | some c => readChars quote (c :: acc) rest
    | none =>
      if e = 117 then .error (.invalid .unicodeEscape (e :: rest))
      else .error (.invalid .escape (92 :: e :: rest))
  -- a backslash that ends the text is read on, and the string stays unterminated
  | c :: rest =>
    if c < 32 then .error (.invalid .controlCharacter (c :: rest))
    else readChars quote (c :: acc) rest
termination_by s => s.length
decreasing_by all_goals (try subst_vars); all_goals (simp only [List.length_cons]; omega)

/-- Leading ASCII digits and the rest. -/
def spanDigits : Text → Text × Text
  | c :: r =>
    if Text.isDigit c then
      let (ds, rest) := spanDigits r
      (c :: ds, rest)
    else ([], c :: r)
  | [] => ([], [])

/-- The value of a list of ASCII digits. -/
def digitsValue (ds : Text) : Nat := ds.foldl (fun n d => n * 10 + (d - 48)) 0

/-- A number literal: `-?(0|[1-9][0-9]*)(\.[0-9]+)?([eE][-+]?[0-9]+)?`. A text that does not
start with one has no value at its start. -/
def readNumber (s : Text) : Except Refusal (Json × Text) :=
  let (negative, s1) := match s with
    | 45 :: r => (true, r)
    | r => (false, r)
  let (intDigits, s2) := match s1 with
    | 48 :: r => ([48], r)
    | r => spanDigits r
  if intDigits.isEmpty then .error (.invalid .value s)
  else
    let (fracDigits, s3) := match s2 with
      | 46 :: d :: r => if Text.isDigit d then spanDigits (d :: r) else ([], s2)
      | _ => ([], s2)
    let (expPart, s4) : Option (Bool × Text) × Text := match s3 with
      | e :: r =>
        if e == 101 || e == 69 then
          let (expNeg, r1) := match r with
            | 45 :: t => (true, t)
            | 43 :: t => (false, t)
            | t => (false, t)
          match spanDigits r1 with
          | ([], _) => (none, s3)
          | (ds, rest) => (some (expNeg, ds), rest)
        else (none, s3)
      | [] => (none, s3)
    if fracDigits.isEmpty && expPart.isNone then
      if intDigits.length > Text.digitLimit then .error (.tooManyDigits intDigits.length)
      else
        let n : Int := digitsValue intDigits
        .ok (int (if negative then -n else n), s4)
    else
      let mantissa := digitsValue (intDigits ++ fracDigits)
      let exp10 : Int := match expPart with
        | some (expNeg, ds) => if expNeg then -(digitsValue ds : Int) else digitsValue ds
        | none => 0
      .ok (float (Binary64.ofDecimal negative mantissa (exp10 - fracDigits.length)), s4)

/-- `t` starts with the characters of the string `w`; the rest after them. -/
def dropWord (w : String) (t : Text) : Option Text :=
  let p := Text.ofString w
  if Text.startsWith t p then some (t.drop p.length) else none

/-- A word at the start of the text, with its value; no value starts there otherwise. -/
def readWord (w : String) (v : Json) (s : Text) : Except Refusal (Json × Text) :=
  match dropWord w s with
  | some rest => .ok (v, rest)
  | none => .error (.invalid .value s)

mutual

/-- A value at the start of the text (blanks already skipped), with `room` levels of nesting left. -/
def readValue : Nat → Nat → Text → Except Refusal (Json × Text)
  | 0, _, s => .error (.invalid .value s)
  | fuel + 1, room, s =>
    match s with
    | 34 :: r => (readChars s [] r).map fun (t, rest) => (str t, rest)
    | 123 :: r =>
      match room with
      | 0 => .error (.tooDeep true)
      | room + 1 =>
        match skipBlank r with
        | 125 :: rest => .ok (obj [], rest)
        | r' => readFields fuel room [] r'
    | 91 :: r =>
      match room with
      | 0 => .error (.tooDeep false)
      | room + 1 =>
        match skipBlank r with
        | 93 :: rest => .ok (arr [], rest)
        | r' => readItems fuel room [] r'
    | 110 :: _ => readWord "null" null s
    | 116 :: _ => readWord "true" (bool true) s
    | 102 :: _ => readWord "false" (bool false) s
    | 78 :: _ => readWord "NaN" (float .nan) s
    | 73 :: _ => readWord "Infinity" (float (.infinite false)) s
    -- a minus sign that does not start `-Infinity` starts a number
    | 45 :: 73 :: _ =>
      match dropWord "-Infinity" s with
      | some rest => .ok (float (.infinite true), rest)
      | none => readNumber s
    | _ => readNumber s

/-- Array items after the opening bracket, in reverse in `acc`. -/
def readItems : Nat → Nat → List Json → Text → Except Refusal (Json × Text)
  | 0, _, _, s => .error (.invalid .value s)
  | fuel + 1, room, acc, s =>
    match readValue fuel room s with
    | .error e => .error e
    | .ok (v, rest) =>
      match skipBlank rest with
      | 44 :: r => readItems fuel room (v :: acc) (skipBlank r)
      | 93 :: r => .ok (arr (v :: acc).reverse, r)
      | r => .error (.invalid .comma r)

/-- Object fields after the opening brace, in `acc`. -/
def readFields : Nat → Nat → List (Text × Json) → Text → Except Refusal (Json × Text)
  | 0, _, _, s => .error (.invalid .propertyName s)
  | fuel + 1, room, acc, s =>
    match s with
    | 34 :: r =>
      match readChars s [] r with
      | .error e => .error e
      | .ok (key, rest) =>
        match skipBlank rest with
        | 58 :: r1 =>
          match readValue fuel room (skipBlank r1) with
          | .error e => .error e
          | .ok (v, r2) =>
            match skipBlank r2 with
            | 44 :: r3 => readFields fuel room (setField acc key v) (skipBlank r3)
            | 125 :: r3 => .ok (obj (setField acc key v), r3)
            | r3 => .error (.invalid .comma r3)
        | r1 => .error (.invalid .colon r1)
    | _ => .error (.invalid .propertyName s)

end

/-- Read a whole text as one JSON value, with `room` levels of nesting allowed. -/
def readWithin (room : Nat) (t : Text) : Except Refusal Json :=
  match t with
  | 0xFEFF :: _ => .error (.invalid .byteOrderMark t)
  | _ =>
    match readValue (2 * t.length + 2) room (skipBlank t) with
    | .ok (v, rest) =>
      match skipBlank rest with
      | [] => .ok v
      | r => .error (.invalid .extraData r)
    | .error e => .error e

/-- Read a whole text as one JSON value, or none when it is not one. Every level of nesting opens
with a character of the text, so this much room is never used up. -/
def parse (t : Text) : Option Json := (readWithin t.length t).toOption

/-- The line and the column of the character at index `pos` of a text, both counted from one. -/
def place (t : Text) (pos : Nat) : Nat × Nat :=
  let before := t.take pos
  (before.count 10 + 1, (before.reverse.takeWhile (· != 10)).length + 1)

/-- What the runtime says when an array, or an object when `isObject`, nests past the reader's
room. -/
def tooDeepMessage (isObject : Bool) : Text :=
  Text.ofString ("maximum recursion depth exceeded while decoding a JSON " ++
    (if isObject then "object" else "array") ++ " from a unicode string")

/-- What is said when the text `t` is refused: the reader's complaint with its place, the
runtime's refusal of a long integer, or of a nesting too deep. -/
def Refusal.message (t : Text) : Refusal → Text
  | .invalid flaw rest =>
    let pos := t.length - rest.length
    let (line, column) := place t pos
    Text.ofString (flaw.text ++ ": line " ++ toString line ++ " column " ++ toString column ++
      " (char " ++ toString pos ++ ")")
  | .tooManyDigits n =>
    Text.ofString ("Exceeds the limit (" ++ toString Text.digitLimit ++
      " digits) for integer string conversion: value has " ++ toString n ++
      " digits; use sys.set_int_max_str_digits() to increase the limit")
  | .tooDeep isObject => tooDeepMessage isObject

end Json

end LocationDrift
