import LocationDrift.Time.DateTime
import LocationDrift.Validation.Lax

/-!
# Reading dates leniently

A document's date may be a text or a number.

**Texts.** `YYYY-MM-DD`, a separator (`T`, `t`, a space or `_`), `HH:MM`, optionally `:SS` and a
fraction after `.` or `,` (digits past the sixth are dropped), and optionally an offset: `Z`, `z`,
or a sign (`+`, `-` or U+2212) with `HH:MM` or `HHMM`, less than a day. Month, day, hour (below 24),
minute and second (below 60) must exist. A text that is a date alone is midnight of that date,
without offset. A text that is a number is read as a Unix time, like a number.

**Numbers.** A Unix time counts seconds, or milliseconds when its magnitude exceeds `2 · 10^10`,
and must fall within 0000-01-01 and 9999-12-31T23:59:59; it is UTC. A binary64 value must be
finite; its seconds are its floor, saturated to 64 bits, and its microseconds are the fraction
above the floor, times a million, rounded half away from zero, each step in binary64 arithmetic.
A text is a number when it is a sign and ASCII digits (within 64 bits), or such digits, a point
and a fraction that may carry an exponent; the value of the fraction is added to the digits.

**Failures.** A text that is neither a date and time, nor a number in range, nor a date is
`datetimeFromDateParsing`; a number out of range is `datetimeParsing`, and so is any value in the
year 0, which a date value cannot hold; a boolean or any other value is `datetimeType`. A failure
says why (`dateFlaw`, `timestampFlaw`): for a text, what the date reader met first (the text's
length in bytes, each character of `YYYY-MM-DD` in order, the month, the day, anything after the
date), or which end of the range a number passes; for a number, which end it passes, or that it
is not a number.
-/

namespace LocationDrift

namespace DateTime

/-- `n` ASCII digits at the front and their value. -/
def readDigits (n : Nat) (t : Text) : Option (Nat × Text) :=
  let ds := t.take n
  if ds.length = n ∧ ds.all Text.isDigit then
    some (ds.foldl (fun acc d => acc * 10 + (d - 48)) 0, t.drop n)
  else none

/-- The text after a given first character. -/
def expect (c : Nat) : Text → Option Text
  | d :: rest => if c == d then some rest else none
  | [] => none

/-- A calendar date `YYYY-MM-DD` at the front. -/
def readDate (t : Text) : Option ((Int × Nat × Nat) × Text) := do
  let (y, t) ← readDigits 4 t
  let t ← expect 45 t
  let (m, t) ← readDigits 2 t
  let t ← expect 45 t
  let (d, t) ← readDigits 2 t
  if 1 ≤ m ∧ m ≤ 12 ∧ 1 ≤ d ∧ d ≤ Civil.daysInMonth y m then some ((y, m, d), t) else none

/-- The microseconds of fraction digits, the first six of them counting. -/
def fractionMicros (ds : Text) : Nat :=
  let six := ds.take 6
  six.foldl (fun acc d => acc * 10 + (d - 48)) 0 * Nat.pow 10 (6 - six.length)

/-- A time of day `HH:MM[:SS[.ffffff]]` at the front. -/
def readTime (t : Text) : Option ((Nat × Nat × Nat × Nat) × Text) := do
  let (h, t) ← readDigits 2 t
  let t ← expect 58 t
  let (mi, t) ← readDigits 2 t
  if h > 23 ∨ mi > 59 then none
  else
    match t with
    | 58 :: rest =>
      let (s, rest) ← readDigits 2 rest
      if s > 59 then none
      else
        match rest with
        | sep :: more =>
          if sep == 46 || sep == 44 then
            let ds := more.takeWhile Text.isDigit
            if ds.isEmpty then none
            else some ((h, mi, s, fractionMicros ds), more.drop ds.length)
          else some ((h, mi, s, 0), rest)
        | [] => some ((h, mi, s, 0), [])
    | _ => some ((h, mi, 0, 0), t)

/-- An offset that ends the text: none when the text is empty. -/
def readOffset : Text → Option (Option Int)
  | [] => some none
  | [90] | [122] => some (some 0)
  | sign :: rest =>
    let negative := sign == 45 || sign == 0x2212
    if !(negative || sign == 43) then none
    else do
      let (h, rest) ← readDigits 2 rest
      let rest := match rest with
        | 58 :: r => r
        | r => r
      let (m, rest) ← readDigits 2 rest
      if !rest.isEmpty ∨ m ≥ 60 ∨ h * 3600 + m * 60 ≥ 86400 then none
      else
        let o : Int := h * 3600 + m * 60
        some (some (if negative then -o else o))

/-- A date and time text. -/
def ofText? (t : Text) : Option DateTime := do
  let ((y, mo, d), rest) ← readDate t
  match rest with
  | sep :: rest =>
    if sep == 84 || sep == 116 || sep == 32 || sep == 95 then
      let ((h, mi, s, us), rest) ← readTime rest
      let off ← readOffset rest
      some ⟨y, mo, d, h, mi, s, us, off⟩
    else none
  | [] => none

/-- A date text alone, as midnight without offset. -/
def ofDateText? (t : Text) : Option DateTime :=
  match readDate t with
  | some ((y, m, d), []) => some ⟨y, m, d, 0, 0, 0, 0, none⟩
  | _ => none

/-- The earliest second a Unix time may name: 0000-01-01T00:00:00. -/
def earliestSecond : Int := -62167219200

/-- The latest second a Unix time may name: 9999-12-31T23:59:59. -/
def latestSecond : Int := 253402300799

/-- A Unix time in seconds, or in milliseconds beyond `2 · 10^10`, with extra microseconds. -/
def ofUnix? (t : Int) (micro : Nat) : Option DateTime :=
  let (secs, extra) : Int × Nat :=
    if t.natAbs ≤ 20000000000 then (t, 0) else (t / 1000, (t % 1000).toNat * 1000)
  let total := micro + extra
  let secs := secs + (total / 1000000 : Nat)
  if secs < earliestSecond ∨ secs > latestSecond then none
  else some (ofSeconds secs (total % 1000000) (some 0))

/-- The range of a 64-bit signed integer, to which a floor saturates. -/
def saturate (n : Int) : Int := max (-Int.pow 2 63) (min n (Int.pow 2 63 - 1))

/-- A non-negative rational rounded half away from zero. -/
def roundHalfAway (num den : Nat) : Nat := (2 * num + den) / (2 * den)

/-- The seconds and microseconds of a finite binary64 Unix time: the floor, and the fraction above
it scaled to microseconds, rounded to binary64 after the subtraction and after the scaling, then
rounded half away from zero. -/
def secondsOfBinary? (x : Binary64) : Option (Int × Nat) :=
  match x.floorAndFraction? with
  | none => none
  | some (floor, fn, fd) =>
    let micros : Nat := match Binary64.ofRatio false fn fd with
      | .finite _ m e =>
        let (num, den) : Nat × Nat :=
          if e ≥ 0 then (m * Nat.pow 2 e.toNat * 1000000, 1) else (m * 1000000, Nat.pow 2 (-e).toNat)
        match Binary64.ofRatio false num den with
        | .finite _ m2 e2 =>
          if e2 ≥ 0 then m2 * Nat.pow 2 e2.toNat else roundHalfAway m2 (Nat.pow 2 (-e2).toNat)
        | _ => 0
      | _ => 0
    some (saturate floor, micros)

/-- A binary64 Unix time. -/
def ofBinary? (x : Binary64) : Option DateTime :=
  (secondsOfBinary? x).bind fun (secs, micros) => ofUnix? secs micros

/-- An integer Unix time; beyond 64 bits it goes through binary64, which no range admits. -/
def ofInteger? (n : Int) : Option DateTime :=
  if -Int.pow 2 63 ≤ n ∧ n < Int.pow 2 63 then ofUnix? n 0 else none

/-- The value of ASCII digits. -/
def digitsValue (ds : Text) : Nat := ds.foldl (fun acc d => acc * 10 + (d - 48)) 0

/-- The exponent that may end a fraction: `e` or `E`, a sign, digits; zero when there is none. -/
def fractionExponent? : Text → Option Int
  | [] => some 0
  | e :: rest =>
    if e == 101 || e == 69 then
      let (negative, ds) : Bool × Text := match rest with
        | 45 :: s => (true, s)
        | 43 :: s => (false, s)
        | s => (false, s)
      if !ds.isEmpty && ds.all Text.isDigit then
        let v : Int := digitsValue ds
        some (if negative then -v else v)
      else none
    else none

/-- The sum of two finite non-negative binary64 values, rounded to binary64. -/
def addBinary (a b : Binary64) : Binary64 :=
  match a, b with
  | .finite _ ma ea, .finite _ mb eb =>
    let low := min ea eb
    let scaled (m : Nat) (e : Int) : Nat := m * Nat.pow 2 (e - low).toNat
    let total := scaled ma ea + scaled mb eb
    if low ≥ 0 then Binary64.ofRatio false (total * Nat.pow 2 low.toNat) 1
    else Binary64.ofRatio false total (Nat.pow 2 (-low).toNat)
  | .finite .., other => other
  | other, _ => other

/-- The negation of a binary64 value. -/
def negate : Binary64 → Binary64
  | .finite negative m e => .finite (!negative) m e
  | .infinite negative => .infinite (!negative)
  | .nan => .nan

/-- A number written as text: a sign and digits within 64 bits, or digits, a point and a fraction
that may carry an exponent, the fraction read as binary64 and added to the digits. -/
def numberOfText? (t : Text) : Option (Int ⊕ Binary64) :=
  let (negative, body) : Bool × Text := match t with
    | 45 :: r => (true, r)
    | 43 :: r => (false, r)
    | r => (false, r)
  let whole := body.takeWhile Text.isDigit
  let n := digitsValue whole
  if whole.isEmpty ∨ n ≥ Nat.pow 2 63 then none
  else
    match body.drop whole.length with
    | [] => some (.inl (if negative then -(n : Int) else n))
    | 46 :: rest =>
      let frac := rest.takeWhile Text.isDigit
      match fractionExponent? (rest.drop frac.length) with
      | none => none
      | some e =>
        let fraction := Binary64.ofDecimal false (digitsValue frac) (e - frac.length)
        let value := addBinary (Binary64.ofRatio false n 1) fraction
        some (.inr (if negative then negate value else value))
    | _ => none

/-- A date given as text. -/
def ofAnyText? (t : Text) : Option DateTime :=
  match ofText? t with
  | some v => some v
  | none =>
    let asNumber := match numberOfText? t with
      | some (.inl n) => ofInteger? n
      | some (.inr x) => ofBinary? x
      | none => none
    match asNumber with
    | some v => some v
    | none => ofDateText? t

/-- Why a text is no date `YYYY-MM-DD`, as the date reader says it: the length in bytes first,
then each character in order, then the month and the day, then anything after the date. -/
def dateFlaw (t : Text) : String :=
  let char (i : Nat) : Nat := t.getD i 0
  let digits (is : List Nat) : Bool := is.all fun i => Text.isDigit (char i)
  let value (is : List Nat) : Nat := is.foldl (fun acc i => acc * 10 + (char i - 48)) 0
  if Text.utf8Size t < 10 then "input is too short"
  else if !digits [0, 1, 2, 3] then "invalid character in year"
  else if char 4 != 45 then "invalid date separator, expected `-`"
  else if !digits [5, 6] then "invalid character in month"
  else if char 7 != 45 then "invalid date separator, expected `-`"
  else if !digits [8, 9] then "invalid character in day"
  else if value [5, 6] < 1 ∨ value [5, 6] > 12 then "month value is outside expected range of 1-12"
  else if value [8, 9] < 1 ∨ value [8, 9] > Civil.daysInMonth (value [0, 1, 2, 3]) (value [5, 6]) then
    "day value is outside expected range"
  else "unexpected extra characters at the end of the input"

/-- Why a Unix time is out of range: the end it passes. -/
def timestampFlaw (negative : Bool) : String :=
  if negative then "dates before 0000 are not supported as unix timestamps"
  else "dates after 9999 are not supported as unix timestamps"

/-- A value a date can hold: no year 0. -/
def inCalendar (input : Json) (v : DateTime) : Checked DateTime :=
  if v.year = 0 then Checked.fail (.datetimeParsing "year 0 is out of range") input else .ok v

/-- A lenient date. -/
def decode : Decoder DateTime
  | .str t =>
    match ofAnyText? t with
    | some v => inCalendar (.str t) v
    | none =>
      -- a number out of range is refused by its range, any other text as a date
      let why := match numberOfText? t with
        | some (.inl n) => timestampFlaw (n < 0)
        | some (.inr x) => timestampFlaw x.isNegative
        | none => dateFlaw t
      Checked.fail (.datetimeFromDateParsing why) (.str t)
  | .int n =>
    match ofInteger? n with
    | some v => inCalendar (.int n) v
    | none =>
      match Binary64.ofRatio (n < 0) n.natAbs 1 with
      | .finite .. => Checked.fail (.datetimeParsing (timestampFlaw (n < 0))) (.int n)
      | _ => Checked.fail .datetimeType (.int n)
  | .float x =>
    match ofBinary? x with
    | some v => inCalendar (.float x) v
    | none =>
      let why := if x = .nan then "NaN values not permitted" else timestampFlaw x.isNegative
      Checked.fail (.datetimeParsing why) (.float x)
  | v => Checked.fail .datetimeType v

end DateTime

end LocationDrift
