import LocationDrift.Proofs.Reading

/-!
# Quoting and unquoting

**Scalar texts (`Text.Scalar`).** A text of Unicode scalar values: every code point below
U+110000, as in every string, and none a surrogate.

**UTF-8 (`decodeReplacing_flatMap`).** A scalar text is written byte for byte by both encoders,
and the replacing decoder reads exactly that text back. Each code point is checked on its own
(`decodeWith_encodePoint`): its lead byte admits its second byte, so that neither an overlong form
nor a surrogate is read, and the bytes' low bits give the code point again.

**Percent-encoding (`unquote_quote`).** Unquoting turns the escapes of quoted bytes back into the
bytes and decodes them, so a quoted scalar text unquotes to itself.

**Slashes (`unquote_append_slash`).** A slash is a byte of its own in every stage of unquoting:
it ends no escape and continues no UTF-8 sequence. Unquoting a text, a slash and ASCII text is
therefore unquoting the two parts on their own and putting the slash between them.
-/

namespace LocationDrift

namespace Text

/-- A text of Unicode scalar values: every code point below U+110000 and none a surrogate. -/
def Scalar (t : Text) : Prop := ∀ c ∈ t, c < 0x110000 ∧ isSurrogate c = false

instance (t : Text) : Decidable t.Scalar :=
  inferInstanceAs (Decidable (∀ c ∈ t, c < 0x110000 ∧ isSurrogate c = false))

theorem Scalar.noSurrogate {t : Text} (h : t.Scalar) : t.NoSurrogate := fun c hc => (h c hc).2

end Text

/-! ## UTF-8 of scalar texts -/

namespace Utf8

theorem toNat_toUInt8 {n : Nat} (h : n < 256) : n.toUInt8.toNat = n := by
  simp only [Nat.toUInt8_eq, UInt8.toNat_ofNat']
  omega

theorem lt128_iff {b : UInt8} : b < 128 ↔ b.toNat < 128 := UInt8.lt_iff_toNat_lt

theorem validConts_zero (lo hi : UInt8) (bs : Bytes) : validConts lo hi 0 bs = 0 := by
  cases bs <;> simp [validConts]

/-- Continuation bytes, the first within `lo` to `hi` and the others within `0x80` to `0xBF`, are
all counted. -/
theorem validConts_of_conts {conts : Bytes} :
    ∀ {lo hi : UInt8}, (∀ b ∈ conts.head?, lo ≤ b ∧ b ≤ hi) →
      (∀ b ∈ conts.tail, 0x80 ≤ b ∧ b ≤ 0xBF) →
      ∀ rest, validConts lo hi conts.length (conts ++ rest) = conts.length := by
  induction conts with
  | nil => intro lo hi _ _ rest; exact validConts_zero lo hi rest
  | cons b bs ih =>
    intro lo hi hfirst hrest rest
    obtain ⟨hlo, hhi⟩ := hfirst b rfl
    -- from the second byte on, the bounds are those of every continuation byte
    have hbs := ih (fun x hx => hrest x (by cases bs <;> simp_all))
      (fun x hx => hrest x (List.mem_of_mem_tail hx)) rest
    simp [validConts, hlo, hhi, hbs, Nat.add_comm]

/-- A lead byte and its continuation bytes decode to one code point. -/
theorem decodeWith_sequence {r : Nat} {b : UInt8} {conts : Bytes} {lo hi : UInt8}
    (hb : ¬ b < 128) (hlead : leadShape b = some (lo, hi, conts.length))
    (hfirst : ∀ x ∈ conts.head?, lo ≤ x ∧ x ≤ hi) (hrest : ∀ x ∈ conts.tail, 0x80 ≤ x ∧ x ≤ 0xBF)
    (rest : Bytes) :
    decodeWith (some r) (b :: (conts ++ rest)) =
      (sequenceValue b conts :: ·) <$> decodeWith (some r) rest := by
  rw [decodeWith.eq_2, if_neg hb, hlead]
  dsimp only
  rw [validConts_of_conts hfirst hrest, if_pos rfl, List.take_left, List.drop_left]

theorem leadShape_two {b : UInt8} (h : 0xC2 ≤ b.toNat ∧ b.toNat ≤ 0xDF) :
    leadShape b = some (0x80, 0xBF, 1) := by
  simp only [leadShape, UInt8.lt_iff_toNat_lt, UInt8.le_iff_toNat_le, UInt8.toNat_ofNat,
    Nat.reducePow, Nat.reduceMod]
  rw [if_neg (by omega), if_pos (by omega)]

/-- A three-byte lead byte admits every second byte that UTF-8 writes after it for a scalar value:
the range narrows only after `E0`, against overlong forms, and after `ED`, against surrogates. -/
theorem leadShape_three {b1 b2 : UInt8} (h1 : 0xE0 ≤ b1.toNat ∧ b1.toNat ≤ 0xEF)
    (h2 : 0x80 ≤ b2.toNat ∧ b2.toNat ≤ 0xBF) (hover : b1.toNat = 0xE0 → 0xA0 ≤ b2.toNat)
    (hsurr : b1.toNat = 0xED → b2.toNat ≤ 0x9F) :
    ∃ lo hi, leadShape b1 = some (lo, hi, 2) ∧ lo ≤ b2 ∧ b2 ≤ hi := by
  simp only [leadShape, UInt8.lt_iff_toNat_lt, UInt8.le_iff_toNat_le, beq_iff_eq, UInt8.ext_iff,
    UInt8.toNat_ofNat, Nat.reducePow, Nat.reduceMod]
  rw [if_neg (by omega), if_neg (by omega)]
  by_cases hE0 : b1.toNat = 224
  · rw [if_pos hE0]
    refine ⟨_, _, rfl, ?_, ?_⟩ <;> simp only [UInt8.toNat_ofNat] <;> omega
  rw [if_neg hE0]
  by_cases hED : b1.toNat = 237
  · rw [if_pos hED]
    refine ⟨_, _, rfl, ?_, ?_⟩ <;> simp only [UInt8.toNat_ofNat] <;> omega
  rw [if_neg hED, if_pos h1.2]
  refine ⟨_, _, rfl, ?_, ?_⟩ <;> simp only [UInt8.toNat_ofNat] <;> omega

/-- A four-byte lead byte admits every second byte that UTF-8 writes after it for a scalar value:
the range narrows only after `F0`, against overlong forms, and after `F4`, against values past
U+10FFFF. -/
theorem leadShape_four {b1 b2 : UInt8} (h1 : 0xF0 ≤ b1.toNat ∧ b1.toNat ≤ 0xF4)
    (h2 : 0x80 ≤ b2.toNat ∧ b2.toNat ≤ 0xBF) (hover : b1.toNat = 0xF0 → 0x90 ≤ b2.toNat)
    (hmax : b1.toNat = 0xF4 → b2.toNat ≤ 0x8F) :
    ∃ lo hi, leadShape b1 = some (lo, hi, 3) ∧ lo ≤ b2 ∧ b2 ≤ hi := by
  simp only [leadShape, UInt8.lt_iff_toNat_lt, UInt8.le_iff_toNat_le, beq_iff_eq, UInt8.ext_iff,
    UInt8.toNat_ofNat, Nat.reducePow, Nat.reduceMod]
  rw [if_neg (by omega), if_neg (by omega), if_neg (by omega), if_neg (by omega), if_neg (by omega)]
  by_cases hF0 : b1.toNat = 240
  · rw [if_pos hF0]
    refine ⟨_, _, rfl, ?_, ?_⟩ <;> simp only [UInt8.toNat_ofNat] <;> omega
  rw [if_neg hF0]
  by_cases hF3 : b1.toNat ≤ 243
  · rw [if_pos hF3]
    refine ⟨_, _, rfl, ?_, ?_⟩ <;> simp only [UInt8.toNat_ofNat] <;> omega
  rw [if_neg hF3, if_pos (by omega)]
  refine ⟨_, _, rfl, ?_, ?_⟩ <;> simp only [UInt8.toNat_ofNat] <;> omega

/-- The bytes of a scalar value decode to it. -/
theorem decodeWith_encodePoint {r c : Nat} (hc : c < 0x110000) (hs : Text.isSurrogate c = false)
    (rest : Bytes) :
    decodeWith (some r) (encodePoint c ++ rest) = (c :: ·) <$> decodeWith (some r) rest := by
  have hs' : ¬ (0xD800 ≤ c ∧ c ≤ 0xDFFF) := by simpa [Text.isSurrogate] using hs
  unfold encodePoint
  split_ifs with h1 h2 h3
  · -- one byte
    have hb := toNat_toUInt8 (n := c) (by omega)
    rw [List.singleton_append, decodeWith.eq_2, if_pos (by rw [lt128_iff, hb]; omega), hb]
  · -- two bytes
    have hb1 := toNat_toUInt8 (n := 0xC0 + c / 64) (by omega)
    have hb2 := toNat_toUInt8 (n := 0x80 + c % 64) (by omega)
    generalize (0xC0 + c / 64).toUInt8 = b1 at hb1 ⊢
    generalize (0x80 + c % 64).toUInt8 = b2 at hb2 ⊢
    have hlead : leadShape b1 = some (0x80, 0xBF, [b2].length) :=
      leadShape_two (by omega)
    rw [List.cons_append, decodeWith_sequence (by rw [lt128_iff, hb1]; omega) hlead
      (by simp [UInt8.le_iff_toNat_le, hb2]; omega) (by simp)]
    simp only [sequenceValue, List.length_singleton, List.foldl_cons, List.foldl_nil, hb1, hb2]
    rw [show (0xC0 + c / 64) % 32 * 64 + (0x80 + c % 64) % 64 = c by omega]
  · -- three bytes
    have hb1 := toNat_toUInt8 (n := 0xE0 + c / 4096) (by omega)
    have hb2 := toNat_toUInt8 (n := 0x80 + c / 64 % 64) (by omega)
    have hb3 := toNat_toUInt8 (n := 0x80 + c % 64) (by omega)
    generalize (0xE0 + c / 4096).toUInt8 = b1 at hb1 ⊢
    generalize (0x80 + c / 64 % 64).toUInt8 = b2 at hb2 ⊢
    generalize (0x80 + c % 64).toUInt8 = b3 at hb3 ⊢
    -- the lead byte bounds the second byte so that no overlong form and no surrogate is read
    obtain ⟨lo, hi, hlead, hlo, hhi⟩ :=
      @leadShape_three b1 b2 (by omega) (by omega) (by omega) (by omega)
    rw [List.cons_append, decodeWith_sequence (by rw [lt128_iff, hb1]; omega) hlead
      (by simp [hlo, hhi]) (by simp [UInt8.le_iff_toNat_le, hb3]; omega)]
    simp only [sequenceValue, List.length_cons, List.length_nil, List.foldl_cons, List.foldl_nil,
      hb1, hb2, hb3]
    rw [show ((0xE0 + c / 4096) % 16 * 64 + (0x80 + c / 64 % 64) % 64) * 64 + (0x80 + c % 64) % 64
      = c by omega]
  · -- four bytes
    have hb1 := toNat_toUInt8 (n := 0xF0 + c / 262144) (by omega)
    have hb2 := toNat_toUInt8 (n := 0x80 + c / 4096 % 64) (by omega)
    have hb3 := toNat_toUInt8 (n := 0x80 + c / 64 % 64) (by omega)
    have hb4 := toNat_toUInt8 (n := 0x80 + c % 64) (by omega)
    generalize (0xF0 + c / 262144).toUInt8 = b1 at hb1 ⊢
    generalize (0x80 + c / 4096 % 64).toUInt8 = b2 at hb2 ⊢
    generalize (0x80 + c / 64 % 64).toUInt8 = b3 at hb3 ⊢
    generalize (0x80 + c % 64).toUInt8 = b4 at hb4 ⊢
    -- the lead byte bounds the second byte so that nothing overlong or above U+10FFFF is read
    obtain ⟨lo, hi, hlead, hlo, hhi⟩ :=
      @leadShape_four b1 b2 (by omega) (by omega) (by omega) (by omega)
    rw [List.cons_append, decodeWith_sequence (by rw [lt128_iff, hb1]; omega) hlead
      (by simp [hlo, hhi]) (by simp [UInt8.le_iff_toNat_le, hb3, hb4]; omega)]
    simp only [sequenceValue, List.length_cons, List.length_nil, List.foldl_cons, List.foldl_nil,
      hb1, hb2, hb3, hb4]
    rw [show (((0xF0 + c / 262144) % 8 * 64 + (0x80 + c / 4096 % 64) % 64) * 64 +
      (0x80 + c / 64 % 64) % 64) * 64 + (0x80 + c % 64) % 64 = c by omega]

/-- A text without surrogates is written code point by code point, escaping or not. -/
theorem encodeFrom_eq_flatMap (escaping : Bool) {t : Text} (h : t.NoSurrogate) :
    ∀ i, encodeFrom escaping i t = .ok (t.flatMap encodePoint) := by
  induction t with
  | nil => intro i; rfl
  | cons c rest ih =>
    intro i
    obtain ⟨hc, hrest⟩ := Text.noSurrogate_cons.mp h
    simp [encodeFrom, hc, ih hrest (i + 1), Functor.map, Except.map]

/-- The bytes of a scalar text decode to it. -/
theorem decodeWith_flatMap {r : Nat} {t : Text} (h : t.Scalar) (rest : Bytes) :
    decodeWith (some r) (t.flatMap encodePoint ++ rest) = (t ++ ·) <$> decodeWith (some r) rest := by
  induction t with
  | nil => simp
  | cons c t ih =>
    have hc := h c List.mem_cons_self
    rw [List.flatMap_cons, List.append_assoc, decodeWith_encodePoint hc.1 hc.2,
      ih fun x hx => h x (List.mem_cons_of_mem c hx)]
    cases decodeWith (some r) rest <;> rfl

theorem decodeReplacing_flatMap {t : Text} (h : t.Scalar) :
    decodeReplacing (t.flatMap encodePoint) = t := by
  have hd := decodeWith_flatMap (r := 0xFFFD) h []
  rw [List.append_nil] at hd
  simp [decodeReplacing, hd, decodeWith.eq_1]

/-! ## Decoding around an ASCII byte -/

theorem validConts_le_length (lo hi : UInt8) (need : Nat) :
    ∀ bs : Bytes, validConts lo hi need bs ≤ bs.length
  | [] => by simp [validConts]
  | b :: bs => by
    have := validConts_le_length 0x80 0xBF (need - 1) bs
    simp only [validConts, List.length_cons]
    split_ifs <;> omega

theorem leadShape_lo {b lo hi : UInt8} {need : Nat} (h : leadShape b = some (lo, hi, need)) :
    128 ≤ lo := by
  simp only [leadShape, UInt8.lt_iff_toNat_lt, UInt8.le_iff_toNat_le, beq_iff_eq, UInt8.ext_iff,
    UInt8.toNat_ofNat, Nat.reducePow, Nat.reduceMod] at h
  repeat' split at h
  all_goals cases h
  all_goals decide

/-- An ASCII byte continues no sequence. -/
theorem validConts_append_ascii {b : UInt8} (hb : b < 128) (cs : Bytes) :
    ∀ (rest : Bytes) (lo hi : UInt8) (need : Nat), 128 ≤ lo →
      validConts lo hi need (rest ++ b :: cs) = validConts lo hi need rest
  | [], lo, hi, need, hlo => by
    have hblo : ¬ lo ≤ b := by
      rw [UInt8.le_iff_toNat_le]
      rw [UInt8.le_iff_toNat_le] at hlo
      rw [lt128_iff] at hb
      simp at hlo
      omega
    simp [validConts, hblo]
  | x :: rest, lo, hi, need, hlo => by
    simp only [List.cons_append, validConts,
      validConts_append_ascii hb cs rest 0x80 0xBF (need - 1) (by decide)]

theorem decodeWith_isSome (r : Nat) (bs : Bytes) : (decodeWith (some r) bs).isSome := by
  fun_induction decodeWith (some r) bs with
  | case1 => rfl
  | case2 b rest hb ih => simpa using ih
  | case3 b rest hb hlead r' hbad ih =>
    cases hbad
    simpa using ih
  | case4 b rest hb hlead hbad => cases hbad
  | case5 b rest hb lo hi need hlead k hk ih => simpa using ih
  | case6 b rest hb lo hi need hlead k hk r' hbad ih =>
    cases hbad
    simpa using ih
  | case7 b rest hb lo hi need hlead k hk hbad => cases hbad

/-- UTF-8 decoding splits at an ASCII byte. -/
theorem decodeWith_append_ascii {r : Nat} {b : UInt8} (hb : b < 128) (cs : Bytes) (bs : Bytes) :
    decodeWith (some r) (bs ++ b :: cs) =
      (decodeWith (some r) bs).bind fun x => (fun y => x ++ b.toNat :: y) <$> decodeWith (some r) cs := by
  fun_induction decodeWith (some r) bs with
  | case1 =>
    rw [List.nil_append, decodeWith.eq_2, if_pos hb]
    rfl
  | case2 b' rest hb' ih =>
    rw [List.cons_append, decodeWith.eq_2, if_pos hb', ih]
    cases decodeWith (some r) rest <;> cases decodeWith (some r) cs <;> rfl
  | case3 b' rest hb' hlead r' hbad ih =>
    cases hbad
    rw [List.cons_append, decodeWith.eq_2, if_neg hb', hlead]
    dsimp only
    rw [ih]
    cases decodeWith (some r) rest <;> cases decodeWith (some r) cs <;> rfl
  | case4 b' rest hb' hlead hbad => cases hbad
  | case5 b' rest hb' lo hi need hlead k hk ih =>
    -- the sequence lies wholly before the ASCII byte
    have hlen : need ≤ rest.length := hk ▸ validConts_le_length lo hi need rest
    rw [List.cons_append, decodeWith.eq_2, if_neg hb', hlead]
    dsimp only
    rw [validConts_append_ascii hb cs rest lo hi need (leadShape_lo hlead), if_pos hk,
      List.take_append_of_le_length hlen, List.drop_append_of_le_length hlen, ih]
    cases decodeWith (some r) (rest.drop need) <;> cases decodeWith (some r) cs <;> rfl
  | case6 b' rest hb' lo hi need hlead k hk r' hbad ih =>
    cases hbad
    have hlen : k ≤ rest.length := validConts_le_length lo hi need rest
    rw [List.cons_append, decodeWith.eq_2, if_neg hb', hlead]
    dsimp only
    rw [validConts_append_ascii hb cs rest lo hi need (leadShape_lo hlead), if_neg hk,
      List.drop_append_of_le_length hlen, ih]
    cases decodeWith (some r) (rest.drop k) <;> cases decodeWith (some r) cs <;> rfl
  | case7 b' rest hb' lo hi need hlead k hk hbad => cases hbad

theorem decodeReplacing_append_ascii {b : UInt8} (hb : b < 128) (bs cs : Bytes) :
    decodeReplacing (bs ++ b :: cs) = decodeReplacing bs ++ b.toNat :: decodeReplacing cs := by
  obtain ⟨x, hx⟩ := Option.isSome_iff_exists.mp (decodeWith_isSome 0xFFFD bs)
  obtain ⟨y, hy⟩ := Option.isSome_iff_exists.mp (decodeWith_isSome 0xFFFD cs)
  simp [decodeReplacing, decodeWith_append_ascii hb, hx, hy]

end Utf8

/-! ## Unquoting quoted bytes -/

namespace Percent

theorem hexValue?_hexDigitUpper {n : Nat} (h : n < 16) :
    Text.hexValue? (Text.hexDigitUpper n) = some n := by
  unfold Text.hexDigitUpper Text.hexValue?
  split_ifs <;> simp_all <;> omega

/-- A character other than `%` is a byte of its own. -/
theorem unescapeBytes_cons_of_ne {c : Nat} (h : c ≠ 37) (rest : Text) :
    unescapeBytes (c :: rest) = c.toUInt8 :: unescapeBytes rest :=
  unescapeBytes.eq_2 c rest fun _ _ _ hc _ => h hc

/-- The written form of a byte unescapes to that byte. -/
theorem unescapeBytes_quoteByte (b : UInt8) (rest : Text) :
    unescapeBytes (quoteByte b ++ rest) = b :: unescapeBytes rest := by
  have hb := b.toNat_lt
  unfold quoteByte
  split
  · next hk =>
    -- a kept byte is not `%`, which quoting always escapes
    have h37 : b.toNat ≠ 37 := by
      intro h
      simp [isKept, h, Text.isAsciiLetter, Text.isDigit] at hk
    rw [List.singleton_append, unescapeBytes_cons_of_ne h37]
    simp
  · rw [List.cons_append, List.cons_append, List.cons_append, List.nil_append, unescapeBytes,
      hexValue?_hexDigitUpper (by omega), hexValue?_hexDigitUpper (by omega)]
    simp only [List.cons.injEq, and_true, UInt8.ext_iff]
    rw [Utf8.toNat_toUInt8 (by omega)]
    omega

theorem unescapeBytes_quoteBytes (bs : Bytes) (rest : Text) :
    unescapeBytes (quoteBytes bs ++ rest) = bs ++ unescapeBytes rest := by
  induction bs with
  | nil => rfl
  | cons b bs ih =>
    rw [quoteBytes, List.flatMap_cons, List.append_assoc, unescapeBytes_quoteByte, ← quoteBytes,
      ih, List.cons_append]

/-- Unquoting ASCII text is decoding its unescaped bytes. -/
theorem unquoteFrom_ascii {t : Text} (h : ∀ c ∈ t, c < 128) (run : Text) :
    unquoteFrom run t = Utf8.decodeReplacing (unescapeBytes (run.reverse ++ t)) := by
  induction t generalizing run with
  | nil => simp [unquoteFrom]
  | cons c t ih =>
    have hc := h c List.mem_cons_self
    rw [unquoteFrom, if_pos hc, ih (fun x hx => h x (List.mem_cons_of_mem c hx))]
    simp

theorem lt128_of_quotedChar {c : Nat} (h : quotedChar c = true) : c < 128 := by
  simp only [quotedChar, Text.isAsciiLetter, Text.isDigit, Bool.or_eq_true, Bool.and_eq_true,
    decide_eq_true_eq, beq_iff_eq] at h
  omega

theorem unquote_quoteBytes (bs : Bytes) : unquote (quoteBytes bs) = Utf8.decodeReplacing bs := by
  have hascii : ∀ c ∈ quoteBytes bs, c < 128 := fun c hc =>
    lt128_of_quotedChar (quoteBytes_quotedChar bs c hc)
  have hun := unescapeBytes_quoteBytes bs []
  rw [List.append_nil, unescapeBytes.eq_3, List.append_nil] at hun
  rw [unquote, unquoteFrom_ascii hascii, List.reverse_nil, List.nil_append, hun]

/-- **A quoted scalar text unquotes to itself.** -/
theorem unquote_quote {t q : Text} (h : t.Scalar) (hq : quote t = .ok q) : unquote q = t := by
  rw [quote, Utf8.encode?, Utf8.encodeFrom_eq_flatMap false h.noSurrogate 0] at hq
  cases hq
  rw [unquote_quoteBytes, Utf8.decodeReplacing_flatMap h]

/-! ## Slashes in unquoting -/

/-- A `%` before a character that is no hexadecimal digit stays as it is. -/
theorem unescapeBytes_percent_of_not_hex {h : Nat} (hh : Text.hexValue? h = none) (rest : Text) :
    unescapeBytes (37 :: h :: rest) = 37 :: unescapeBytes (h :: rest) := by
  cases rest with
  | nil => rfl
  | cons l rest => rw [unescapeBytes.eq_1, hh]

/-- A slash ends no escape: unescaping around it is unescaping each side. -/
theorem unescapeBytes_append_slash (ys : Text) (xs : Text) :
    unescapeBytes (xs ++ 47 :: ys) = unescapeBytes xs ++ 47 :: unescapeBytes ys := by
  have hslash : Text.hexValue? 47 = none := rfl
  fun_induction unescapeBytes xs with
  | case1 h l rest a b ha hb ih =>
    rw [List.cons_append, List.cons_append, List.cons_append, unescapeBytes.eq_1, ha, hb, ih]
    rfl
  | case2 h l rest hnot ih =>
    rw [List.cons_append, List.cons_append, List.cons_append, unescapeBytes.eq_1]
    split
    · next a b ha hb => exact absurd hb (hnot a b ha)
    · rw [← List.cons_append, ← List.cons_append, ih]
      rfl
  | case3 c rest hnot ih =>
    by_cases hc : c = 37
    · -- a `%` too near the end to start an escape: the slash is its first or second follower
      subst hc
      match rest, hnot with
      | [], _ =>
        rw [List.singleton_append, unescapeBytes_percent_of_not_hex hslash,
          unescapeBytes_cons_of_ne (by decide)]
        rfl
      | [b], _ =>
        rw [List.cons_append, List.cons_append, List.nil_append, unescapeBytes.eq_1, hslash]
        have ih' : unescapeBytes (b :: 47 :: ys) = unescapeBytes [b] ++ 47 :: unescapeBytes ys := ih
        cases Text.hexValue? b <;> (dsimp only; rw [ih']; rfl)
      | _ :: _ :: _, hnot => exact absurd rfl (hnot _ _ _ rfl)
    · rw [List.cons_append, unescapeBytes_cons_of_ne hc, ih]
      rfl
  | case4 => exact unescapeBytes_cons_of_ne (by decide) ys

theorem unquoteFrom_cons_ascii {c : Nat} (hc : c < 128) (run t : Text) :
    unquoteFrom run (c :: t) = unquoteFrom (c :: run) t := by
  rw [unquoteFrom, if_pos hc]

theorem unquote_nil : unquote [] = [] := by
  simp [unquote, unquoteFrom, unescapeBytes.eq_3, Utf8.decodeReplacing, Utf8.decodeWith.eq_1]

/-- Unquoting a text, a slash and ASCII text unquotes the two parts on their own. -/
theorem unquoteFrom_append_slash {Q : Text} (hQ : ∀ c ∈ Q, c < 128) :
    ∀ (P run : Text), unquoteFrom run (P ++ 47 :: Q) = unquoteFrom run P ++ 47 :: unquote Q
  | [], run => by
    rw [List.nil_append, unquoteFrom_cons_ascii (by decide), unquoteFrom_ascii hQ, unquote,
      unquoteFrom_ascii hQ, unquoteFrom.eq_1, List.reverse_cons, List.append_assoc,
      List.singleton_append, unescapeBytes_append_slash,
      Utf8.decodeReplacing_append_ascii (by decide), List.reverse_nil, List.nil_append]
    rfl
  | c :: P, run => by
    by_cases hc : c < 128
    · rw [List.cons_append, unquoteFrom_cons_ascii hc, unquoteFrom_cons_ascii hc]
      exact unquoteFrom_append_slash hQ P (c :: run)
    · rw [List.cons_append, unquoteFrom, unquoteFrom, if_neg hc, if_neg hc,
        unquoteFrom_append_slash hQ P [], List.append_assoc, List.cons_append]

theorem unquote_append_slash (P : Text) {Q : Text} (hQ : ∀ c ∈ Q, c < 128) :
    unquote (P ++ 47 :: Q) = unquote P ++ 47 :: unquote Q :=
  unquoteFrom_append_slash hQ P []

theorem replicate_slash_ascii (k : Nat) : ∀ c ∈ List.replicate k 47, c < 128 := fun c hc => by
  rw [List.eq_of_mem_replicate hc]
  decide

/-- Slashes unquote to themselves. -/
theorem unquote_replicate_slash (k : Nat) : unquote (List.replicate k 47) = List.replicate k 47 := by
  induction k with
  | zero => exact unquote_nil
  | succ k ih =>
    rw [List.replicate_succ, ← List.nil_append (47 :: _),
      unquote_append_slash [] (replicate_slash_ascii k), ih, unquote_nil]

theorem unquote_append_replicate (P : Text) (k : Nat) :
    unquote (P ++ List.replicate k 47) = unquote P ++ List.replicate k 47 := by
  cases k with
  | zero => simp
  | succ k =>
    rw [List.replicate_succ, unquote_append_slash P (replicate_slash_ascii k),
      unquote_replicate_slash]

/-- A text that unquotes to more than slashes holds more than slashes. -/
theorem exists_ne_slash_of_unquote {P : Text} (h : ∃ c ∈ unquote P, c ≠ 47) :
    ∃ c ∈ P, c ≠ 47 := by
  by_contra hall
  push Not at hall
  obtain ⟨c, hc, hne⟩ := h
  rw [List.eq_replicate_iff.mpr ⟨rfl, hall⟩, unquote_replicate_slash] at hc
  exact hne (List.eq_of_mem_replicate hc)

end Percent

end LocationDrift
