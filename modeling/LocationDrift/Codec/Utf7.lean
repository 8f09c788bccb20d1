import LocationDrift.Text.Utf8

/-!
# UTF-7

ASCII bytes other than `+` stand for themselves. `+-` stands for `+`; any other `+` opens a shift
sequence of modified base-64 digits (`A`-`Z`, `a`-`z`, `0`-`9`, `+`, `/`), each adding six bits,
every sixteen bits one UTF-16 unit: a high surrogate followed by a low one makes one code point,
and a surrogate otherwise stands alone. The first byte that is no such digit closes the sequence
(a `-` is then dropped, any other byte read as usual); the bits left over must be fewer than six
and all zero. A `+` followed by a byte that is neither `-` nor a digit, a byte above `0x7F` outside
a sequence, and a sequence that the end of the bytes leaves open with a surrogate or bits still
to read are refused.
-/

namespace LocationDrift

namespace Codec

/-- The value of a modified base-64 digit. -/
def base64Value? (b : UInt8) : Option Nat :=
  let n := b.toNat
  if 65 ≤ n && n ≤ 90 then some (n - 65)
  else if 97 ≤ n && n ≤ 122 then some (n - 71)
  else if 48 ≤ n && n ≤ 57 then some (n + 4)
  else if n == 43 then some 62
  else if n == 47 then some 63
  else none

/-- What a shift sequence holds so far: its pending bits, their count, and a high surrogate
waiting for its low half. -/
structure ShiftState where
  buffer : Nat
  bits : Nat
  pending : Option Nat
deriving DecidableEq, Repr

/-- A high surrogate. -/
def isHighSurrogate (u : Nat) : Bool := 0xD800 ≤ u && u ≤ 0xDBFF

/-- A low surrogate. -/
def isLowSurrogate (u : Nat) : Bool := 0xDC00 ≤ u && u ≤ 0xDFFF

/-- Take one UTF-16 unit into the output and the waiting surrogate. -/
def takeUnit (pending : Option Nat) (u : Nat) : Text × Option Nat :=
  match pending with
  | some hi =>
    if isLowSurrogate u then ([0x10000 + (hi - 0xD800) * 0x400 + (u - 0xDC00)], none)
    else if isHighSurrogate u then ([hi], some u) else ([hi, u], none)
  | none => if isHighSurrogate u then ([], some u) else ([u], none)

mutual

/-- Decode outside a shift sequence. -/
def decodeDirect : Bytes → Option Text
  | [] => some []
  | 43 :: 45 :: rest => (43 :: ·) <$> decodeDirect rest
  | 43 :: rest =>
    if (rest.head?.map fun b => (base64Value? b).isSome).getD true then decodeShifted ⟨0, 0, none⟩ rest
    else none
  | b :: rest => if b < 0x80 then (b.toNat :: ·) <$> decodeDirect rest else none
termination_by bs => 2 * bs.length
decreasing_by all_goals (simp only [List.length_cons]; omega)

/-- Decode inside a shift sequence. -/
def decodeShifted (st : ShiftState) : Bytes → Option Text
  | [] =>
    if st.pending.isSome || st.bits ≥ 6 || (st.bits > 0 && st.buffer != 0) then none else some []
  | b :: rest =>
    match base64Value? b with
    | some v =>
      let buffer := st.buffer * 64 + v
      let bits := st.bits + 6
      if bits ≥ 16 then
        let u := buffer / Nat.pow 2 (bits - 16)
        let (out, pending) := takeUnit st.pending u
        (out ++ ·) <$> decodeShifted ⟨buffer % Nat.pow 2 (bits - 16), bits - 16, pending⟩ rest
      else decodeShifted ⟨buffer, bits, st.pending⟩ rest
    | none =>
      if st.bits ≥ 6 || (st.bits > 0 && st.buffer != 0) then none
      else
        let lone := if b < 0x80 && b != 43 then st.pending.toList else []
        if b == 45 then (lone ++ ·) <$> decodeDirect rest
        else (lone ++ ·) <$> decodeDirect (b :: rest)
termination_by bs => 2 * bs.length + 1
decreasing_by all_goals (simp only [List.length_cons]; omega)

end

end Codec

end LocationDrift
