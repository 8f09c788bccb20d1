import LocationDrift.Text.Basic
import LocationDrift.Text.Utf8
import LocationDrift.Unicode.Names

/-!
# Backslash-escaped text

Bytes stand for the characters U+0000 to U+00FF, except where a backslash starts an escape.

**Full escapes (`decodeEscaped`).** `\\`, `\'`, `\"`, `\a`, `\b`, `\f`, `\n`, `\r`, `\t`, `\v`
stand for their characters; a backslash before a line feed stands for nothing; one to three
octal digits give a character below U+0200; `\x`, `\u` and `\U` take exactly two, four and eight
hexadecimal digits, at most U+10FFFF; `\N` takes a character name between braces, one that
`CharacterNames.codeOf?` knows. A backslash before any other character stands for itself. A
backslash at the end, a short or bad hexadecimal escape, and a named escape without braces, with
an empty or unknown name, or without its closing brace are refused.

**Raw escapes (`decodeRawEscaped`).** Only `\u` with four and `\U` with eight hexadecimal digits
are escapes, and only after an odd run of backslashes, the last of which starts the escape; every
other byte, backslashes included, stands for itself.
-/

namespace LocationDrift

namespace Codec

/-- The value of some ASCII hexadecimal digits, when they are all such digits. -/
def hexValue? (ds : Bytes) : Option Nat :=
  ds.foldlM (fun acc d => (Text.hexValue? d.toNat).map fun v => acc * 16 + v) 0

/-- An octal digit. -/
def isOctal (b : UInt8) : Bool := 48 ≤ b && b ≤ 55

/-- The character of a one-letter escape. -/
def letterEscape? (b : UInt8) : Option Nat :=
  match b.toNat with
  | 92 => some 92 | 39 => some 39 | 34 => some 34 | 97 => some 7 | 98 => some 8
  | 102 => some 12 | 110 => some 10 | 114 => some 13 | 116 => some 9 | 118 => some 11
  | _ => none

/-- The value of `n` hexadecimal digits at the front, when there are that many and the value is a
code point. -/
def hexEscape? (n : Nat) (rest : Bytes) : Option Nat :=
  let ds := rest.take n
  if ds.length < n then none
  else (hexValue? ds).bind fun v => if v > 0x10FFFF then none else some v

/-- The width of the hexadecimal escape a letter starts: `x`, `u`, `U`; zero for any other. -/
def hexWidth (e : UInt8) : Nat := if e == 120 then 2 else if e == 117 then 4 else if e == 85 then 8 else 0

/-- Decode with the full escapes. -/
def decodeEscaped : Bytes → Option Text
  | [] => some []
  | 92 :: [] => none
  | 92 :: e :: more =>
    if e == 10 then decodeEscaped more
    else match letterEscape? e with
      | some c => (c :: ·) <$> decodeEscaped more
      | none =>
        if isOctal e then
          let ds := (more.take 2).takeWhile isOctal
          let v := ds.foldl (fun acc d => acc * 8 + (d.toNat - 48)) (e.toNat - 48)
          (v :: ·) <$> decodeEscaped (more.drop ds.length)
        else if hexWidth e > 0 then
          match hexEscape? (hexWidth e) more with
          | some v => (v :: ·) <$> decodeEscaped (more.drop (hexWidth e))
          | none => none
        else if e == 78 then
          let name := (more.drop 1).takeWhile (· != 125)
          if more.take 1 != [123] || name.isEmpty || name.length + 1 = more.length then none
          else
            match CharacterNames.codeOf? (name.map UInt8.toNat) with
            | some c => (c :: ·) <$> decodeEscaped (more.drop (name.length + 2))
            | none => none
        else ([92, e.toNat] ++ ·) <$> decodeEscaped more
  | b :: rest => (b.toNat :: ·) <$> decodeEscaped rest
termination_by bs => bs.length
decreasing_by all_goals (simp only [List.length_cons, List.length_drop]; omega)

/-- Decode with the raw escapes. -/
def decodeRawEscaped : Bytes → Option Text
  | [] => some []
  | 92 :: rest =>
    let run := (rest.takeWhile (· == 92)).length + 1
    match h : rest.drop (run - 1) with
    | e :: more =>
      if run % 2 = 1 && (e == 117 || e == 85) then
        let width := if e == 117 then 4 else 8
        match hexEscape? width more with
        | some v => (List.replicate (run - 1) 92 ++ [v] ++ ·) <$> decodeRawEscaped (more.drop width)
        | none => none
      else (List.replicate run 92 ++ ·) <$> decodeRawEscaped (e :: more)
    | [] => some (List.replicate run 92)
  | b :: rest => (b.toNat :: ·) <$> decodeRawEscaped rest
termination_by bs => bs.length
decreasing_by
  all_goals first
    | (have hl := congrArg List.length h
       simp only [List.length_cons, List.length_drop] at hl ⊢
       omega)
    | (simp only [List.length_cons]; omega)

end Codec

end LocationDrift
