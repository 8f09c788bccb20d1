import LocationDrift.Validation.Basic
import LocationDrift.Text.Blank

/-!
# Lenient scalar checks

Documents are read leniently, as editors and servers write them.

**Strings** accept only strings.

**Integers** accept integers, booleans (true is 1), binary64 values that are whole and lie strictly
between `-2^63` and `2^63` (a whole value outside is `intParsingSize`), and text trimmed of
White_Space. A text is first read as a plain literal: a minus sign or none, then `0` alone or
digits that do not start with `0`; such a literal whose run of digits is longer than 4300 is
`intParsingSize`, whatever follows it. Any other text may have a sign, digits that single
underscores separate, leading zeros, and a point followed by one or more zeros; it holds at most
4300 digits besides its leading zeros. A fraction is `intFromFloat`, an infinity or NaN
`finiteNumber`, other text `intParsing`, every other value `intType`.

**Booleans** accept booleans, the integers 0 and 1, whole binary64 values 0 and 1, and the words
`0 f n no off false` and `1 t y on yes true` in any ASCII case. Another integer of 64 bits, another
whole value of 64 bits or another word is `boolParsing`; everything else is `boolType`.
-/

namespace LocationDrift

namespace Lax

/-- Digits that single underscores may separate, with none first or last. -/
def separatedDigits? : Text → Option Nat
  | [] => none
  | c :: rest =>
    if Text.isDigit c then go (c - 48) rest else none
where
  go (acc : Nat) : Text → Option Nat
    | [] => some acc
    | 95 :: d :: rest => if Text.isDigit d then go (acc * 10 + (d - 48)) rest else none
    | d :: rest => if Text.isDigit d then go (acc * 10 + (d - 48)) rest else none

/-- A sign and separated digits. -/
def signedInt? : Text → Option Int
  | 45 :: rest => (separatedDigits? rest).map fun n => -(n : Int)
  | 43 :: rest => (separatedDigits? rest).map fun n => (n : Int)
  | rest => (separatedDigits? rest).map fun n => (n : Int)

/-- The part before the first point, when one or more zeros and nothing else follow it. -/
def beforeZeroFraction? (t : Text) : Option Text :=
  match t.span (· != 46) with
  | (whole, 46 :: fraction) => if !fraction.isEmpty && fraction.all (· == 48) then some whole else none
  | _ => none

/-- The value of ASCII digits. -/
def digitsValue (ds : Text) : Nat := ds.foldl (fun acc d => acc * 10 + (d - 48)) 0

/-- A text read as a plain literal: a minus sign or none, then `0` alone or digits that do not
start with `0`. None when the text is not such a literal; a literal whose run of digits is longer
than the limit fails, whatever follows the run. -/
def plainLiteral? (input : Json) (s : Text) : Option (Checked Int) :=
  let (negative, body) : Bool × Text := match s with
    | 45 :: rest => (true, rest)
    | rest => (false, rest)
  match body with
  | 48 :: rest => if rest.isEmpty then some (.ok 0) else none
  | c :: _ =>
    if Text.isDigit c then
      let run := body.takeWhile Text.isDigit
      if run.length > Text.digitLimit then some (Checked.fail .intParsingSize input)
      else if run.length == body.length then
        let n : Int := digitsValue run
        some (.ok (if negative then -n else n))
      else none
    else none
  | [] => none

/-- A text read leniently: a sign, separated digits with any leading zeros, and a point followed
by zeros; at most the limit of digits besides the leading zeros. -/
def lenientLiteral? (s : Text) : Option Int :=
  let (negative, body) : Bool × Text := match s with
    | 45 :: rest => (true, rest)
    | 43 :: rest => (false, rest)
    | rest => (false, rest)
  let whole := (beforeZeroFraction? body).getD body
  match separatedDigits? whole with
  | some n => if n < Nat.pow 10 Text.digitLimit then some (if negative then -(n : Int) else n) else none
  | none => none

/-- An integer written as text. -/
def intOfText (t : Text) : Checked Int :=
  let s := Text.trimBy Text.isWhiteSpace t
  match plainLiteral? (.str t) s with
  | some r => r
  | none =>
    match lenientLiteral? s with
    | some n => .ok n
    | none => Checked.fail .intParsing (.str t)

/-- An integer strictly between `-2^63` and `2^63`. -/
def isStrictWord (n : Int) : Bool := -Int.pow 2 63 < n && n < Int.pow 2 63

/-- The integer a binary64 value stands for: whole and strictly inside 64 bits. -/
def intOfBinary (x : Binary64) : Checked Int :=
  match x.toInt? with
  | some n => if isStrictWord n then .ok n else Checked.fail .intParsingSize (.float x)
  | none => Checked.fail (if x.isFinite then .intFromFloat else .finiteNumber) (.float x)

/-- A lenient integer. -/
def int : Decoder Int
  | .int n => .ok n
  | .bool b => .ok (if b then 1 else 0)
  | .float x => intOfBinary x
  | .str t => intOfText t
  | v => Checked.fail .intType v

/-- A string. -/
def str : Decoder Text
  | .str t => .ok t
  | v => Checked.fail .stringType v

/-- The boolean an integer stands for, `input` being the value it was read from. -/
def boolOfInt (input : Json) (n : Int) : Checked Bool :=
  if n = 0 then .ok false else if n = 1 then .ok true else Checked.fail .boolParsing input

/-- The words for false. -/
def falseWords : List String := ["0", "f", "n", "no", "off", "false"]

/-- The words for true. -/
def trueWords : List String := ["1", "t", "y", "on", "yes", "true"]

/-- A text equals a word, ignoring ASCII case. -/
def isWord (t : Text) (w : String) : Bool := t.map Text.lowerAscii == Text.ofString w

/-- A lenient boolean. -/
def bool : Decoder Bool
  | .bool b => .ok b
  | .int n =>
    if -Int.pow 2 63 ≤ n ∧ n < Int.pow 2 63 then boolOfInt (.int n) n
    else Checked.fail .boolType (.int n)
  | .float x =>
    match intOfBinary x with
    | .ok n => boolOfInt (.float x) n
    | .error _ => Checked.fail .boolType (.float x)
  | .str t =>
    if falseWords.any (isWord t) then .ok false
    else if trueWords.any (isWord t) then .ok true
    else Checked.fail .boolParsing (.str t)
  | v => Checked.fail .boolType v

end Lax

end LocationDrift
