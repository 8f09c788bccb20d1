/-!
# Binary64 values of decimal literals

A JSON reader turns a literal with a fraction or an exponent into the nearest binary64 value,
ties to the even significand, overflowing to an infinity and underflowing to a signed zero. The
value is kept exactly, as a significand and a power of two, so that later checks (is it whole,
what is its floor) are plain integer arithmetic.

**Canonical form.** `finite neg m e` stands for `±m · 2^e` with `m < 2^53` and
`-1074 ≤ e ≤ 971`; zero is `finite neg 0 0`.
-/

namespace LocationDrift

/-- A binary64 value: finite `±significand · 2^exponent`, an infinity, or not a number. -/
inductive Binary64 where
  | finite (negative : Bool) (significand : Nat) (exponent : Int)
  | infinite (negative : Bool)
  | nan
deriving DecidableEq, Repr, Inhabited

namespace Binary64

/-- Number of binary digits of `n` (zero has none). -/
def bitLength (n : Nat) : Nat := if n = 0 then 0 else Nat.log2 n + 1

/-- `n / d` rounded to the nearest integer, a tie to the even one. -/
def roundHalfEven (n d : Nat) : Nat :=
  let q := n / d
  let r := n % d
  if 2 * r > d ∨ (2 * r = d ∧ q % 2 = 1) then q + 1 else q

/-- The binary64 nearest to `num / den` (both positive), with the given sign. -/
def ofRatio (negative : Bool) (num den : Nat) : Binary64 :=
  let k : Int := (bitLength num : Int) - bitLength den
  -- `floorLog` is the exponent of the leading binary digit of `num / den`
  let floorLog : Int :=
    if k ≥ 0 then (if num ≥ den * Nat.pow 2 k.toNat then k else k - 1)
    else (if num * Nat.pow 2 (-k).toNat ≥ den then k else k - 1)
  let e : Int := max (floorLog - 52) (-1074)
  let q :=
    if e ≥ 0 then roundHalfEven num (den * Nat.pow 2 e.toNat)
    else roundHalfEven (num * Nat.pow 2 (-e).toNat) den
  let (q, e) := if q = Nat.pow 2 53 then (Nat.pow 2 52, e + 1) else (q, e)
  if e > 971 then infinite negative
  else if q = 0 then finite negative 0 0
  else finite negative q e

/-- The binary64 nearest to `±digits · 10^exp10`. Literals far beyond the range of the format go
straight to an infinity or a zero, without computing their powers of ten. -/
def ofDecimal (negative : Bool) (digits : Nat) (exp10 : Int) : Binary64 :=
  if digits = 0 then finite negative 0 0
  else
    let magnitude : Int := exp10 + (Nat.repr digits).length
    if magnitude > 400 then infinite negative
    else if magnitude < -400 then finite negative 0 0
    else if exp10 ≥ 0 then ofRatio negative (digits * Nat.pow 10 exp10.toNat) 1
    else ofRatio negative digits (Nat.pow 10 (-exp10).toNat)

/-- The integer a finite value equals, when it is whole. -/
def toInt? : Binary64 → Option Int
  | finite negative m e =>
    let magnitude : Option Nat :=
      if e ≥ 0 then some (m * Nat.pow 2 e.toNat)
      else if m % Nat.pow 2 (-e).toNat = 0 then some (m / Nat.pow 2 (-e).toNat)
      else none
    magnitude.map fun n => if negative then -(n : Int) else n
  | _ => none

/-- A finite value. -/
def isFinite : Binary64 → Bool
  | finite .. => true
  | _ => false

/-- A value with a minus sign; not a number has none. -/
def isNegative : Binary64 → Bool
  | finite negative .. => negative
  | infinite negative => negative
  | nan => false

/-- The largest integer not above a finite value, and the fraction left over as
`(numerator, denominator)` with `0 ≤ numerator < denominator`. -/
def floorAndFraction? : Binary64 → Option (Int × Nat × Nat)
  | finite negative m e =>
    if e ≥ 0 then
      let n : Int := m * Int.pow 2 e.toNat
      some (if negative then -n else n, 0, 1)
    else
      let d := Nat.pow 2 (-e).toNat
      let whole := m / d
      let rest := m % d
      if !negative then some (whole, rest, d)
      else if rest = 0 then some (-(whole : Int), 0, d)
      else some (-(whole : Int) - 1, d - rest, d)
  | _ => none

end Binary64

end LocationDrift
