import LocationDrift.Json.Basic
import LocationDrift.Text.Quoted

/-!
# JSON values in messages

Messages show a decoded value as the program's own literal syntax writes it: `None`, `True`,
`False`, integers in decimal, strings quoted as `Text.quoted` does, lists as `[a, b]` and objects
as `{'k': v}`, with `", "` between items.

**Binary64 values (`Binary64.shownText`).** The shortest decimal that reads back as the same value
(the closest one when several are as short), written with a point: `0.0001`, `1.5`, `100.0`.
When the decimal point would stand more than 16 digits after the first digit or more than 4
zeros before it, the value is written as a mantissa and a signed exponent of at least two
digits: `1e+16`, `1.5e-05`. The non-finite values are `inf`, `-inf` and `nan`.
-/

namespace LocationDrift

namespace Binary64

/-- For a ratio below one, the number of zeros between the point and its first digit. -/
def zerosAfterPoint (num den : Nat) : Nat → Nat → Nat
  | 0, j => j
  | fuel + 1, j => if num * Nat.pow 10 (j + 1) ≥ den then j else zerosAfterPoint num den fuel (j + 1)

/-- The `k` with `10^(k-1) ≤ num / den < 10^k`, for a positive ratio. -/
def decimalPoint (num den : Nat) : Int :=
  if num ≥ den then ((Text.ofNat (num / den)).length : Int)
  else -((zerosAfterPoint num den 1100 0 : Nat) : Int)

/-- The decimals with `p` significant digits nearest below and above the positive value
`m · 2^e`, that read back as that value, the closer first (the even one on a tie): each as its
digits and its power of ten. -/
def roundTrips (m : Nat) (e : Int) (p : Nat) : List (Nat × Int) :=
  let (num, den) : Nat × Nat := if e ≥ 0 then (m * Nat.pow 2 e.toNat, 1) else (m, Nat.pow 2 (-e).toNat)
  let shift : Int := (p : Int) - decimalPoint num den
  let (sn, sd) : Nat × Nat :=
    if shift ≥ 0 then (num * Nat.pow 10 shift.toNat, den) else (num, den * Nat.pow 10 (-shift).toNat)
  let below := sn / sd
  let above := below + 1
  let ordered :=
    if sn - below * sd < above * sd - sn then [below, above]
    else if sn - below * sd > above * sd - sn then [above, below]
    else if below % 2 = 0 then [below, above] else [above, below]
  (ordered.filter fun c => c > 0 && ofDecimal false c (-shift) == finite false m e).map
    fun c => (c, -shift)

/-- The shortest decimal that reads back as the positive value `m · 2^e`. -/
def shortestDecimal (m : Nat) (e : Int) : Nat × Int :=
  match ((List.range 17).map (· + 1)).findSome? fun p => (roundTrips m e p).head? with
  | some d => d
  | none => (m, 0)

/-- Digits and a power of ten with the digits' trailing zeros moved into the power. -/
def dropTrailingZeros : Nat → Nat × Int → Nat × Int
  | 0, d => d
  | fuel + 1, (c, x) => if c > 0 && c % 10 = 0 then dropTrailingZeros fuel (c / 10, x + 1) else (c, x)

/-- A number of zeros. -/
def zeros (n : Nat) : Text := List.replicate n 48

/-- The text of a binary64 value in messages. -/
def shownText : Binary64 → Text
  | nan => Text.ofString "nan"
  | infinite negative => Text.ofString (if negative then "-inf" else "inf")
  | finite negative m e =>
    let sign : Text := if negative then [45] else []
    if m = 0 then sign ++ Text.ofString "0.0"
    else
      let (c, x) := dropTrailingZeros 400 (shortestDecimal m e)
      let ds := Text.ofNat c
      let n := ds.length
      let point : Int := n + x
      let body :=
        if point ≤ -4 ∨ point > 16 then
          let exp := point - 1
          let mantissa := ds.take 1 ++ (if n > 1 then [46] ++ ds.drop 1 else [])
          let digits := Text.ofNat exp.natAbs
          mantissa ++ [101, if exp < 0 then 45 else 43] ++ zeros (2 - digits.length) ++ digits
        else if point ≤ 0 then Text.ofString "0." ++ zeros (-point).toNat ++ ds
        else if point ≥ n then ds ++ zeros (point.toNat - n) ++ Text.ofString ".0"
        else ds.take point.toNat ++ [46] ++ ds.drop point.toNat
      sign ++ body

end Binary64

namespace Json

mutual

/-- The text of a value in messages. -/
def shownText : Json → Text
  | null => Text.ofString "None"
  | bool b => Text.ofString (if b then "True" else "False")
  | int n => Text.ofInt n
  | float x => x.shownText
  | str s => Text.quoted s
  | arr vs => [91] ++ shownItems vs ++ [93]
  | obj fs => [123] ++ shownFields fs ++ [125]

/-- The items of a list, separated by commas. -/
def shownItems : List Json → Text
  | [] => []
  | [v] => shownText v
  | v :: vs => shownText v ++ [44, 32] ++ shownItems vs

/-- The fields of an object, separated by commas. -/
def shownFields : List (Text × Json) → Text
  | [] => []
  | [(k, v)] => Text.quoted k ++ [58, 32] ++ shownText v
  | (k, v) :: kvs => Text.quoted k ++ [58, 32] ++ shownText v ++ [44, 32] ++ shownFields kvs

end

end Json

end LocationDrift
