import LocationDrift.Time.Civil
import LocationDrift.Text.Basic
import LocationDrift.Fault

/-!
# Dates with times of day

A value is a calendar date and a time of day, to the microsecond, with a fixed offset from UTC in
seconds or none at all (a naive value, which counts as UTC).

**Creation dates (`DateTime.creationText`).** A naive value is written as it is. A value with an
offset is first moved to UTC, which must leave it within the years 1 to 9999. The text is the
year without padding, then month, day, hour, minute and second on two digits each, as
`Y-MM-DDTHH:MM:SSZ`; microseconds are dropped, never rounded.
-/

namespace LocationDrift

/-- A date and time of day, with an offset from UTC in seconds or none. -/
structure DateTime where
  year : Int
  month : Nat
  day : Nat
  hour : Nat
  minute : Nat
  second : Nat
  microsecond : Nat
  offset : Option Int
deriving DecidableEq, Repr, Inhabited

namespace DateTime

/-- Seconds since 1970-01-01T00:00:00 of the value's own date and time, its offset ignored. -/
def localSeconds (v : DateTime) : Int :=
  Civil.daysFromCivil v.year v.month v.day * 86400 + (v.hour * 3600 + v.minute * 60 + v.second : Nat)

/-- The value with a given count of seconds since 1970-01-01T00:00:00. -/
def ofSeconds (s : Int) (micro : Nat) (offset : Option Int) : DateTime :=
  let days := s / 86400
  let sod := (s % 86400).toNat
  let (y, m, d) := Civil.civilFromDays days
  ⟨y, m, d, sod / 3600, sod % 3600 / 60, sod % 60, micro, offset⟩

/-- The same instant in UTC, within the years 1 to 9999; a naive value stays as it is. -/
def toUtc? (v : DateTime) : Option DateTime :=
  match v.offset with
  | none => some v
  | some o =>
    let u := ofSeconds (v.localSeconds - o) v.microsecond (some 0)
    if 1 ≤ u.year ∧ u.year ≤ 9999 then some u else none

/-- A number on two digits. -/
def twoDigits (n : Nat) : Text := [48 + n / 10 % 10, 48 + n % 10]

/-- The creation-date text of a value. -/
def creationText (v : DateTime) : Except Fault Text :=
  match v.toUtc? with
  | none => .error .dateOutOfRange
  | some u =>
    .ok (Text.ofInt u.year ++ [45] ++ twoDigits u.month ++ [45] ++ twoDigits u.day ++ [84] ++
      twoDigits u.hour ++ [58] ++ twoDigits u.minute ++ [58] ++ twoDigits u.second ++ [90])

end DateTime

end LocationDrift
