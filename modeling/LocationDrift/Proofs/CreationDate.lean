import LocationDrift.Proofs.CalendarDays
import LocationDrift.Time.DateTime

/-!
# Creation dates are the UTC instant to the second

A date and time with an offset from UTC denotes the instant of its own date and time less the
offset; a naive value denotes its own date and time, read as UTC. The creation date of a value is
that instant written in UTC as `Y-MM-DDTHH:MM:SSZ` (`DateTime.isoStamp`), or the fault
`dateOutOfRange` when the instant falls outside the years 1 to 9999.

Instants are counted in microseconds (`DateTime.utcMicros`), and a value of the calendar reads its
own fields as UTC (`DateTime.localMicros`). Two values of the calendar that read as the same
instant have the same fields (`IsCalendar.eq_of_localMicros`), since a day count gives its date
back; and the UTC value that writing computes is one of the calendar (`ofSeconds_isCalendar`), since
every day count is the count of a date.

**Theorem (`creation_date_is_utc_instant`).** For a value a date field holds (a date and time of
the calendar in the years 1 to 9999, with any offset or none): its instant is that of a value of the
calendar; for every such value `u`, the creation date is the fault exactly when `u` lies outside the
years 1 to 9999, and otherwise `u` written as `Y-MM-DDTHH:MM:SSZ`, the microsecond dropped; and
every other such value that denotes the same instant has the same creation date.
-/

namespace LocationDrift

namespace Text

/-- `n` in decimal on at least `width` digits, padded with zeros in front. -/
def padDecimal (width n : Nat) : Text :=
  List.replicate (width - (ofNat n).length) 48 ++ ofNat n

end Text

namespace DateTime

/-- A value of the calendar: a date, a time of day and a microsecond below a million. -/
@[mk_iff] structure IsCalendar (v : DateTime) : Prop where
  date : Civil.IsDate v.year v.month v.day
  hour_lt : v.hour < 24
  minute_lt : v.minute < 60
  second_lt : v.second < 60
  micro_lt : v.microsecond < 1000000

instance (v : DateTime) : Decidable v.IsCalendar := decidable_of_iff _ (isCalendar_iff v).symm

/-- A value a date field holds: one of the calendar in the years 1 to 9999, with or without an
offset. -/
@[mk_iff] structure InRange (v : DateTime) : Prop extends IsCalendar v where
  year_pos : 1 ≤ v.year
  year_le : v.year ≤ 9999

instance (v : DateTime) : Decidable v.InRange := decidable_of_iff _ (inRange_iff v).symm

/-- Microseconds since 1970-01-01T00:00:00 of the value's own date and time, its offset ignored. -/
def localMicros (v : DateTime) : Int := v.localSeconds * 1000000 + v.microsecond

/-- The instant a value denotes, in microseconds since 1970-01-01T00:00:00 UTC: its own date and
time less its offset, a naive value read as UTC. -/
def utcMicros (v : DateTime) : Int := v.localMicros - v.offset.getD 0 * 1000000

/-- `Y-MM-DDTHH:MM:SSZ`: the year in decimal without padding, every other field in decimal on two
digits; the microsecond is not written. -/
def isoStamp (u : DateTime) : Text :=
  Text.ofInt u.year ++ Text.ofString "-" ++ Text.padDecimal 2 u.month ++ Text.ofString "-" ++
    Text.padDecimal 2 u.day ++ Text.ofString "T" ++ Text.padDecimal 2 u.hour ++
    Text.ofString ":" ++ Text.padDecimal 2 u.minute ++ Text.ofString ":" ++
    Text.padDecimal 2 u.second ++ Text.ofString "Z"

/-! ## Reading a value's fields back from its instant -/

theorem localMicros_withOffset (v : DateTime) (o : Option Int) :
    ({ v with offset := o } : DateTime).localMicros = v.localMicros := rfl

theorem IsCalendar.withOffset {v : DateTime} (h : v.IsCalendar) (o : Option Int) :
    ({ v with offset := o } : DateTime).IsCalendar :=
  ⟨h.date, h.hour_lt, h.minute_lt, h.second_lt, h.micro_lt⟩

/-- Two values of the calendar that read as the same instant, with the same offset, are one. -/
theorem IsCalendar.eq_of_localMicros {u w : DateTime} (hu : u.IsCalendar) (hw : w.IsCalendar)
    (h : u.localMicros = w.localMicros) (ho : u.offset = w.offset) : u = w := by
  obtain ⟨hud, hh, hmi, hs, hmu⟩ := hu
  obtain ⟨hwd, hh', hmi', hs', hmu'⟩ := hw
  unfold localMicros localSeconds at h
  -- a microsecond and a second of the day are below their units, so the days agree, then the rest
  have hdays : Civil.daysFromCivil u.year u.month u.day = Civil.daysFromCivil w.year w.month w.day :=
    by omega
  have hdate := Civil.civilFromDays_daysFromCivil hud
  rw [hdays, Civil.civilFromDays_daysFromCivil hwd] at hdate
  simp only [Prod.mk.injEq] at hdate
  obtain ⟨hy, hm, hd⟩ := hdate
  -- the microsecond, then the second of the day, then hour, minute and second
  have hsod : u.hour * 3600 + u.minute * 60 + u.second = w.hour * 3600 + w.minute * 60 + w.second ∧
      u.microsecond = w.microsecond := by
    omega
  have hhour : u.hour = w.hour := by omega
  have hmin : u.minute = w.minute := by omega
  have hsec : u.second = w.second := by omega
  cases u
  cases w
  simp only at hy hm hd ho hsod hhour hmin hsec ⊢
  rw [hy, hm, hd, ho, hhour, hmin, hsec, hsod.2]

/-- The value at a count of seconds is one of the calendar, and reads as that count. -/
theorem ofSeconds_isCalendar (s : Int) {micro : Nat} (h : micro < 1000000) (o : Option Int) :
    (ofSeconds s micro o).IsCalendar ∧ (ofSeconds s micro o).localMicros = s * 1000000 + micro ∧
      (ofSeconds s micro o).offset = o := by
  obtain ⟨y, m, d, hc⟩ : ∃ y m d, Civil.civilFromDays (s / 86400) = (y, m, d) :=
    ⟨_, _, _, rfl⟩
  obtain ⟨hdate, hdays⟩ := Civil.isDate_of_civilFromDays hc
  simp only [ofSeconds, hc]
  refine ⟨⟨hdate, by dsimp only; omega, by dsimp only; omega, by dsimp only; omega, h⟩, ?_, trivial⟩
  simp only [localMicros, localSeconds, hdays]
  omega

/-! ## Writing the UTC value -/

/-- The UTC value of the instant a value denotes, as writing computes it. -/
def utcValue (v : DateTime) : DateTime :=
  ofSeconds (v.localSeconds - v.offset.getD 0) v.microsecond (some 0)

theorem utcValue_spec {v : DateTime} (hv : v.IsCalendar) :
    v.utcValue.IsCalendar ∧ v.utcValue.localMicros = v.utcMicros ∧ v.utcValue.offset = some 0 := by
  obtain ⟨hc, hmicros, ho⟩ := ofSeconds_isCalendar (v.localSeconds - v.offset.getD 0)
    hv.micro_lt (some 0)
  refine ⟨hc, ?_, ho⟩
  rw [utcValue, hmicros, utcMicros, localMicros]
  omega

/-- A field below 100 is written on two digits. -/
theorem twoDigits_eq_padDecimal {n : Nat} (h : n < 100) : twoDigits n = Text.padDecimal 2 n := by
  have hall : ∀ n < 100, twoDigits n = Text.padDecimal 2 n := by decide
  exact hall n h

/-- The text written for a value of the calendar is its stamp. -/
theorem creationText_of_toUtc {v u : DateTime} (h : v.toUtc? = some u) (hu : u.IsCalendar) :
    v.creationText = .ok u.isoStamp := by
  have hmonth : u.month < 100 := by have := hu.date.month_le; omega
  have hday : u.day < 100 := by
    have := hu.date.day_le
    have : Civil.daysInMonth u.year u.month ≤ 31 := by
      unfold Civil.daysInMonth; split_ifs <;> simp
    omega
  simp only [creationText, h]
  rw [isoStamp, twoDigits_eq_padDecimal hmonth, twoDigits_eq_padDecimal hday,
    twoDigits_eq_padDecimal (by have := hu.hour_lt; omega),
    twoDigits_eq_padDecimal (by have := hu.minute_lt; omega),
    twoDigits_eq_padDecimal (by have := hu.second_lt; omega)]
  rfl

/-- The creation date of a value a date field holds is its UTC value written out, or the fault
when that value lies outside the years 1 to 9999. -/
theorem creationText_eq_utcValue {v : DateTime} (hv : v.InRange) :
    v.creationText = if 1 ≤ v.utcValue.year ∧ v.utcValue.year ≤ 9999 then .ok v.utcValue.isoStamp
      else .error .dateOutOfRange := by
  obtain ⟨hc, hmicros, ho⟩ := utcValue_spec hv.toIsCalendar
  cases hoff : v.offset with
  | none =>
    -- a naive value is written as it is, and is its own UTC value
    have hsame : v.utcValue = { v with offset := some 0 } := by
      refine IsCalendar.eq_of_localMicros hc (hv.toIsCalendar.withOffset _) ?_ ho
      rw [hmicros, localMicros_withOffset, utcMicros, hoff, Option.getD_none]
      omega
    have htoUtc : v.toUtc? = some v := by rw [toUtc?, hoff]
    rw [creationText_of_toUtc htoUtc hv.toIsCalendar, hsame]
    simp only [if_pos (And.intro hv.year_pos hv.year_le)]
    rfl
  | some o =>
    -- a value with an offset is moved to UTC and checked against the years 1 to 9999
    by_cases hyear : 1 ≤ v.utcValue.year ∧ v.utcValue.year ≤ 9999
    · have htoUtc : v.toUtc? = some v.utcValue := by
        simp only [toUtc?, hoff]
        rw [if_pos (by simpa [utcValue, hoff] using hyear)]
        simp [utcValue, hoff]
      rw [creationText_of_toUtc htoUtc hc, if_pos hyear]
    · have htoUtc : v.toUtc? = none := by
        simp only [toUtc?, hoff]
        rw [if_neg (by simpa [utcValue, hoff] using hyear)]
      rw [creationText, htoUtc, if_neg hyear]

/-- **The creation date is the UTC instant to the second.** A value a date field holds denotes the
instant of a value of the calendar; for every value `u` of the calendar at that instant, its
creation date is the fault exactly when `u` lies outside the years 1 to 9999, and otherwise `u`
written as `Y-MM-DDTHH:MM:SSZ` with the microsecond dropped; and any two values a date field holds
that denote the same instant have the same creation date. -/
theorem creation_date_is_utc_instant {v : DateTime} (hv : v.InRange) :
    (∃ u : DateTime, u.IsCalendar ∧ u.localMicros = v.utcMicros) ∧
      (∀ u : DateTime, u.IsCalendar → u.localMicros = v.utcMicros →
        v.creationText =
          if 1 ≤ u.year ∧ u.year ≤ 9999 then .ok u.isoStamp else .error .dateOutOfRange) ∧
      (∀ w : DateTime, w.InRange → w.utcMicros = v.utcMicros → w.creationText = v.creationText) := by
  obtain ⟨hc, hmicros, ho⟩ := utcValue_spec hv.toIsCalendar
  refine ⟨⟨v.utcValue, hc, hmicros⟩, fun u hu hu' => ?_, fun w hw hw' => ?_⟩
  · -- `u` is the UTC value up to its offset
    have hsame : { u with offset := some 0 } = v.utcValue :=
      IsCalendar.eq_of_localMicros (hu.withOffset _) hc (by rw [localMicros_withOffset, hu', hmicros])
        ho.symm
    rw [creationText_eq_utcValue hv, ← hsame]
    rfl
  · -- the two UTC values read as the same instant, so they are one
    obtain ⟨hcw, hmicrosw, how⟩ := utcValue_spec hw.toIsCalendar
    have hsame : w.utcValue = v.utcValue :=
      IsCalendar.eq_of_localMicros hcw hc (by rw [hmicrosw, hmicros, hw']) (by rw [how, ho])
    rw [creationText_eq_utcValue hw, creationText_eq_utcValue hv, hsame]

/-- At 14:30:05 on 2024-03-01 two hours ahead of UTC, the creation date is 12:30:05 in UTC. -/
theorem creation_date_two_hours_ahead :
    (⟨2024, 3, 1, 14, 30, 5, 0, some 7200⟩ : DateTime).creationText =
      .ok (Text.ofString "2024-03-01T12:30:05Z") := by
  have hv : (⟨2024, 3, 1, 14, 30, 5, 0, some 7200⟩ : DateTime).InRange := by decide
  have hu : (⟨2024, 3, 1, 12, 30, 5, 0, none⟩ : DateTime).IsCalendar := by decide
  rw [(creation_date_is_utc_instant hv).2.1 _ hu (by decide)]
  decide

end DateTime

end LocationDrift
