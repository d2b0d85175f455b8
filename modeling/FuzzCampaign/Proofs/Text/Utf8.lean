import FuzzCampaign.Text.Utf8
set_option autoImplicit false

/-! # Lossy decoding and encoding

Lossy decoding cuts bytes into the encodings of characters and into pieces that encode none
(`Decoded`). What was encoded is read back whatever follows it, and a text without replacement characters
is only read where its encoding stands. -/

namespace FuzzCampaign.Text

open String (utf8EncodeChar)

/-! ## Encoded characters -/

theorem encode_eq_flatMap (text : String) : encode text = text.toList.flatMap utf8EncodeChar := by
  have hbytes : text.toByteArray = (text.toList.flatMap utf8EncodeChar).toByteArray :=
    String.utf8Encode_toList.symm
  rw [encode, String.toUTF8_eq_toByteArray, hbytes, List.toList_data_toByteArray]

theorem encode_append (a b : String) : encode (a ++ b) = encode a ++ encode b := by
  simp [encode_eq_flatMap]

/-- What was encoded is well formed and decoded as what it was. -/
theorem decode?_encode (text : String) : decode? (encode text) = some text := by
  rw [decode?, encode, Array.toArray_toList, String.toUTF8_eq_toByteArray]
  exact dif_pos text.isValidUTF8

theorem val_ofNat {n : Nat} (h : n.isValidChar) : (Char.ofNat n).val.toNat = n := by
  rw [Char.ofNat, dif_pos h]
  rfl

theorem encodeChar_one {n : Nat} {a : UInt8} (hn : n < 0x80) (ha : a.toNat = n) :
    [a] = utf8EncodeChar (Char.ofNat n) := by
  have hval : (Char.ofNat n).val.toNat = n := val_ofNat (Or.inl (by omega))
  simp only [utf8EncodeChar, hval]
  rw [if_pos (by omega), ← ha, UInt8.ofNat_toNat]

theorem encodeChar_two {n : Nat} {a b : UInt8} (hn : 0x80 ≤ n) (hn' : n < 0x800)
    (ha : a.toNat = n / 64 + 0xC0) (hb : b.toNat = n % 64 + 0x80) :
    [a, b] = utf8EncodeChar (Char.ofNat n) := by
  have hval : (Char.ofNat n).val.toNat = n := val_ofNat (Or.inl (by omega))
  simp only [utf8EncodeChar, hval]
  rw [if_neg (by omega), if_pos (by omega), Nat.mod_eq_of_lt (by omega), ← ha, ← hb,
    UInt8.ofNat_toNat, UInt8.ofNat_toNat]

theorem encodeChar_three {n : Nat} {a b c : UInt8} (hn : 0x800 ≤ n) (hn' : n < 0x10000)
    (hvalid : n < 0xD800 ∨ 0xE000 ≤ n) (ha : a.toNat = n / 4096 + 0xE0)
    (hb : b.toNat = n / 64 % 64 + 0x80) (hc : c.toNat = n % 64 + 0x80) :
    [a, b, c] = utf8EncodeChar (Char.ofNat n) := by
  have hval : (Char.ofNat n).val.toNat = n := by
    refine val_ofNat ?_
    simp only [Nat.isValidChar]
    omega
  simp only [utf8EncodeChar, hval]
  rw [if_neg (by omega), if_neg (by omega), if_pos (by omega), Nat.mod_eq_of_lt (a := n / 4096) (by omega),
    ← ha, ← hb, ← hc, UInt8.ofNat_toNat, UInt8.ofNat_toNat, UInt8.ofNat_toNat]

theorem encodeChar_four {n : Nat} {a b c d : UInt8} (hn : 0x10000 ≤ n) (hn' : n < 0x110000)
    (ha : a.toNat = n / 262144 + 0xF0) (hb : b.toNat = n / 4096 % 64 + 0x80)
    (hc : c.toNat = n / 64 % 64 + 0x80) (hd : d.toNat = n % 64 + 0x80) :
    [a, b, c, d] = utf8EncodeChar (Char.ofNat n) := by
  have hval : (Char.ofNat n).val.toNat = n := by
    refine val_ofNat ?_
    simp only [Nat.isValidChar]
    omega
  simp only [utf8EncodeChar, hval]
  rw [if_neg (by omega), if_neg (by omega), if_neg (by omega),
    Nat.mod_eq_of_lt (a := n / 262144) (by omega), ← ha, ← hb, ← hc, ← hd,
    UInt8.ofNat_toNat, UInt8.ofNat_toNat, UInt8.ofNat_toNat, UInt8.ofNat_toNat]

/-! ## Characters that have begun -/

/-- What has begun with the bytes `p` is a character: whichever bytes of their ranges follow, `missing` of
them, finish the encoding of one. -/
def Begun : Nat → List UInt8 → Nat → Nat → Nat → Prop
  | 0, _, _, _, _ => False
  | 1, p, bits, low, high => ∀ b : UInt8, low ≤ b.toNat → b.toNat ≤ high →
      p ++ [b] = utf8EncodeChar (Char.ofNat (bits * 64 + b.toNat % 64))
  | missing + 2, p, bits, low, high => ∀ b : UInt8, low ≤ b.toNat → b.toNat ≤ high →
      Begun (missing + 1) (p ++ [b]) (bits * 64 + b.toNat % 64) 0x80 0xBF

/-- What a first byte promises, by the number of bytes that must follow it. -/
theorem lead?_eq_some {b : UInt8} {missing bits low high : Nat}
    (h : lead? b = some (missing, bits, low, high)) :
    (missing = 0 ∧ b.toNat < 0x80 ∧ bits = b.toNat) ∨
    (0x80 ≤ low ∧ high ≤ 0xBF ∧
      ((missing = 1 ∧ 0xC2 ≤ b.toNat ∧ b.toNat ≤ 0xDF ∧ bits = b.toNat - 0xC0) ∨
      (missing = 2 ∧ 0xE0 ≤ b.toNat ∧ b.toNat ≤ 0xEF ∧ bits = b.toNat - 0xE0 ∧
        (b.toNat = 0xE0 → 0xA0 ≤ low) ∧ (b.toNat = 0xED → high ≤ 0x9F)) ∨
      (missing = 3 ∧ 0xF0 ≤ b.toNat ∧ b.toNat ≤ 0xF4 ∧ bits = b.toNat - 0xF0 ∧
        (b.toNat = 0xF0 → 0x90 ≤ low) ∧ (b.toNat = 0xF4 → high ≤ 0x8F)))) := by
  simp only [lead?] at h
  repeat' split at h
  all_goals simp only [Option.some.injEq, Prod.mk.injEq, reduceCtorEq] at h
  all_goals omega

/-- The first byte of a character says what it needs. -/
theorem begun_of_lead? {b : UInt8} {missing bits low high : Nat}
    (h : lead? b = some (missing + 1, bits, low, high)) : Begun (missing + 1) [b] bits low high := by
  rcases lead?_eq_some h with h | ⟨hlow, hhigh, ⟨hm, h⟩ | ⟨hm, h⟩ | ⟨hm, h⟩⟩
  · omega
  · obtain rfl : missing = 0 := by omega
    intro c hc hc'
    exact encodeChar_two (by omega) (by omega) (by omega) (by omega)
  · obtain rfl : missing = 1 := by omega
    intro c hc hc' d hd hd'
    exact encodeChar_three (by omega) (by omega) (by omega) (by omega) (by omega) (by omega)
  · obtain rfl : missing = 2 := by omega
    intro c hc hc' d hd hd' e he he'
    exact encodeChar_four (by omega) (by omega) (by omega) (by omega) (by omega) (by omega)

/-! ## What lossy decoding reads -/

/-- A reading of bytes: each character stands for its encoding, and a replacement character also for any
other piece. -/
inductive Decoded : List UInt8 → List Char → Prop where
  | nil : Decoded [] []
  | char (c : Char) {bytes : List UInt8} {cs : List Char} :
      Decoded bytes cs → Decoded (utf8EncodeChar c ++ bytes) (c :: cs)
  | broken {piece bytes : List UInt8} {cs : List Char} :
      piece ≠ [] → Decoded bytes cs → Decoded (piece ++ bytes) (replacement :: cs)

/-- A character that another byte does not go on with is given up, and the byte starts anew. -/
theorem decodeLossyFrom_some (b : UInt8) (rest : List UInt8) (part : Unfinished) :
    decodeLossyFrom (b :: rest) (some part) =
      if part.low ≤ b.toNat ∧ b.toNat ≤ part.high then
        if part.missing ≤ 1 then
          Char.ofNat (part.bits * 64 + b.toNat % 64) :: decodeLossyFrom rest none
        else decodeLossyFrom rest
          (some ⟨part.bits * 64 + b.toNat % 64, part.missing - 1, 0x80, 0xBF⟩)
      else replacement :: decodeLossyFrom (b :: rest) none := by
  simp only [decodeLossyFrom]
  by_cases hrange : part.low ≤ b.toNat ∧ b.toNat ≤ part.high
  · rw [if_pos hrange, if_pos hrange]
  · rw [if_neg hrange, if_neg hrange]
    split <;> rfl

theorem decoded_decodeLossyFrom (bytes : List UInt8) :
    Decoded bytes (decodeLossyFrom bytes none) ∧
      ∀ (p : List UInt8) (part : Unfinished), p ≠ [] →
        Begun part.missing p part.bits part.low part.high →
        Decoded (p ++ bytes) (decodeLossyFrom bytes (some part)) := by
  induction bytes with
  | nil =>
    refine ⟨.nil, fun p part hp _ => ?_⟩
    exact .broken hp .nil
  | cons b rest ih =>
    obtain ⟨ihnone, ihsome⟩ := ih
    have hnone : Decoded (b :: rest) (decodeLossyFrom (b :: rest) none) := by
      rw [decodeLossyFrom]
      split
      · exact .broken (List.cons_ne_nil b []) ihnone
      · next bits low high hlead =>
        rcases lead?_eq_some hlead with ⟨-, hb, hbits⟩ | ⟨-, -, h | h | h⟩
        · have hchar := encodeChar_one (hbits ▸ hb) hbits.symm
          rw [← List.singleton_append, hchar]
          exact .char _ ihnone
        all_goals omega
      · next missing bits low high hsome hlead =>
        obtain ⟨n, rfl⟩ := Nat.exists_eq_succ_of_ne_zero hsome
        exact ihsome [b] ⟨bits, n + 1, low, high⟩ (by simp) (begun_of_lead? hlead)
    refine ⟨hnone, fun p part hp hbegun => ?_⟩
    rw [decodeLossyFrom_some]
    split
    · next hrange =>
      obtain ⟨bits, missing, low, high⟩ := part
      match missing, hbegun with
      | 1, hbegun =>
        rw [if_pos (Nat.le_refl 1), List.append_cons, hbegun b hrange.1 hrange.2]
        exact .char _ ihnone
      | n + 2, hbegun =>
        rw [if_neg (by simp), List.append_cons]
        exact ihsome _ _ (by simp) (hbegun b hrange.1 hrange.2)
    · exact .broken hp hnone

/-- What lossy decoding reads is a reading of the bytes. -/
theorem decoded_decodeLossy (bytes : List UInt8) : Decoded bytes (decodeLossy bytes) :=
  (decoded_decodeLossyFrom bytes).1

theorem Decoded.eq_nil {bytes : List UInt8} (h : Decoded bytes []) : bytes = [] := by
  cases h
  rfl

/-- A text at the front of a reading stands encoded at the front of the bytes. -/
theorem Decoded.encoded_front {text rest : List Char} (htext : replacement ∉ text) :
    ∀ {bytes : List UInt8}, Decoded bytes (text ++ rest) →
      ∃ after, bytes = text.flatMap utf8EncodeChar ++ after := by
  induction text with
  | nil => exact fun {bytes} _ => ⟨bytes, rfl⟩
  | cons c cs ih =>
    intro bytes h
    rw [List.mem_cons, not_or] at htext
    rw [List.cons_append] at h
    cases h with
    | char _ h =>
      obtain ⟨after, rfl⟩ := ih htext.2 h
      exact ⟨after, by simp⟩
    | broken _ _ => exact absurd rfl htext.1

/-- **A text without replacement characters is only read where its encoding stands.** -/
theorem Decoded.encoded_within {bytes : List UInt8} {cs text : List Char} (h : Decoded bytes cs)
    (htext : replacement ∉ text) (hwithin : text <:+: cs) : text.flatMap utf8EncodeChar <:+: bytes := by
  obtain ⟨before, after, rfl⟩ := hwithin
  rw [List.append_assoc] at h
  generalize hcs : before ++ (text ++ after) = cs at h
  induction h generalizing before with
  | nil =>
    obtain ⟨rfl, rfl, rfl⟩ : before = [] ∧ text = [] ∧ after = [] := by simpa using hcs
    exact List.infix_refl _
  | @char c bytes cs h ih =>
    cases before with
    | nil =>
      obtain ⟨rest, hrest⟩ := Decoded.encoded_front htext (hcs ▸ Decoded.char c h)
      exact ⟨[], rest, hrest.symm⟩
    | cons d before =>
      obtain ⟨-, hcs⟩ := List.cons.inj hcs
      exact (ih before hcs).trans (List.suffix_append _ _).isInfix
  | @broken piece bytes cs hpiece h ih =>
    cases before with
    | nil =>
      obtain ⟨rest, hrest⟩ := Decoded.encoded_front htext (hcs ▸ Decoded.broken hpiece h)
      exact ⟨[], rest, hrest.symm⟩
    | cons d before =>
      obtain ⟨-, hcs⟩ := List.cons.inj hcs
      exact (ih before hcs).trans (List.suffix_append _ _).isInfix

/-! ## Reading what was encoded -/

/-- A byte of ASCII ends whatever had begun before it. -/
theorem decodeLossyFrom_append_ascii {b : UInt8} (hb : b.toNat < 0x80) (rest bytes : List UInt8) :
    decodeLossyFrom (bytes ++ b :: rest) none =
        decodeLossyFrom bytes none ++ decodeLossyFrom (b :: rest) none ∧
      ∀ part : Unfinished, 0x80 ≤ part.low →
        decodeLossyFrom (bytes ++ b :: rest) (some part) =
          decodeLossyFrom bytes (some part) ++ decodeLossyFrom (b :: rest) none := by
  induction bytes with
  | nil =>
    refine ⟨rfl, fun part hlow => ?_⟩
    rw [List.nil_append, decodeLossyFrom_some, if_neg (by omega)]
    rfl
  | cons a bytes ih =>
    obtain ⟨ihnone, ihsome⟩ := ih
    have hnone : decodeLossyFrom (a :: bytes ++ b :: rest) none =
        decodeLossyFrom (a :: bytes) none ++ decodeLossyFrom (b :: rest) none := by
      rw [List.cons_append, decodeLossyFrom, decodeLossyFrom]
      split
      · rw [ihnone, List.cons_append]
      · rw [ihnone, List.cons_append]
      · next missing bits low high hsome hlead =>
        rcases lead?_eq_some hlead with ⟨rfl, -⟩ | ⟨hlow, -⟩
        · exact absurd rfl hsome
        · exact ihsome _ hlow
    refine ⟨hnone, fun part hlow => ?_⟩
    rw [List.cons_append, decodeLossyFrom_some, decodeLossyFrom_some]
    split
    · split
      · rw [ihnone, List.cons_append]
      · exact ihsome _ (Nat.le_refl _)
    · rw [← List.cons_append, hnone, List.cons_append]

theorem decodeLossy_append_ascii {b : UInt8} (hb : b.toNat < 0x80) (bytes rest : List UInt8) :
    decodeLossy (bytes ++ b :: rest) = decodeLossy bytes ++ decodeLossy (b :: rest) :=
  (decodeLossyFrom_append_ascii hb rest bytes).1

/-- A first byte that promises more bytes is remembered. -/
theorem decodeLossyFrom_lead {b : UInt8} {missing bits low high : Nat} (rest : List UInt8)
    (h : lead? b = some (missing + 1, bits, low, high)) :
    decodeLossyFrom (b :: rest) none = decodeLossyFrom rest (some ⟨bits, missing + 1, low, high⟩) := by
  simp only [decodeLossyFrom, h]

/-- The last byte of a character finishes it. -/
theorem decodeLossyFrom_last {b : UInt8} {bits low high : Nat} (rest : List UInt8)
    (hlow : low ≤ b.toNat) (hhigh : b.toNat ≤ high) :
    decodeLossyFrom (b :: rest) (some ⟨bits, 1, low, high⟩) =
      Char.ofNat (bits * 64 + b.toNat % 64) :: decodeLossyFrom rest none := by
  rw [decodeLossyFrom_some, if_pos ⟨hlow, hhigh⟩, if_pos (Nat.le_refl 1)]

/-- Another byte of a character is taken in. -/
theorem decodeLossyFrom_next {b : UInt8} {bits missing low high : Nat} (rest : List UInt8)
    (hlow : low ≤ b.toNat) (hhigh : b.toNat ≤ high) :
    decodeLossyFrom (b :: rest) (some ⟨bits, missing + 2, low, high⟩) =
      decodeLossyFrom rest (some ⟨bits * 64 + b.toNat % 64, missing + 1, 0x80, 0xBF⟩) := by
  rw [decodeLossyFrom_some, if_pos ⟨hlow, hhigh⟩, if_neg (by simp)]
  rfl

theorem lead?_two {b : UInt8} (hb : 0xC2 ≤ b.toNat) (hb' : b.toNat ≤ 0xDF) :
    lead? b = some (1, b.toNat - 0xC0, 0x80, 0xBF) := by
  simp only [lead?]
  rw [if_neg (by omega), if_pos ⟨hb, hb'⟩]

theorem lead?_three {b : UInt8} (hb : 0xE0 ≤ b.toNat) (hb' : b.toNat ≤ 0xEF) :
    lead? b = some (2, b.toNat - 0xE0, if b.toNat = 0xE0 then 0xA0 else 0x80,
      if b.toNat = 0xED then 0x9F else 0xBF) := by
  simp only [lead?]
  rw [if_neg (by omega), if_neg (by omega)]
  by_cases h0 : b.toNat = 0xE0
  · simp [h0]
  by_cases hd : b.toNat = 0xED
  · simp [hd]
  rw [if_neg h0, if_neg hd, if_pos (by omega), if_neg h0, if_neg hd]

theorem lead?_four {b : UInt8} (hb : 0xF0 ≤ b.toNat) (hb' : b.toNat ≤ 0xF4) :
    lead? b = some (3, b.toNat - 0xF0, if b.toNat = 0xF0 then 0x90 else 0x80,
      if b.toNat = 0xF4 then 0x8F else 0xBF) := by
  simp only [lead?]
  rw [if_neg (by omega), if_neg (by omega), if_neg (by omega), if_neg (by omega), if_neg (by omega)]
  by_cases h0 : b.toNat = 0xF0
  · simp [h0]
  by_cases h4 : b.toNat = 0xF4
  · simp [h4]
  rw [if_neg h0, if_pos (by omega), if_neg h0, if_neg h4]

/-- **An encoded character is read back, whatever follows it.** -/
theorem decodeLossy_encodeChar (c : Char) (rest : List UInt8) :
    decodeLossy (utf8EncodeChar c ++ rest) = c :: decodeLossy rest := by
  have hvalid : c.toNat < 0xD800 ∨ 0xDFFF < c.toNat ∧ c.toNat < 0x110000 := c.valid
  have hc : Char.ofNat c.toNat = c := Char.ofNat_toNat c
  unfold decodeLossy utf8EncodeChar
  rw [← Char.toNat]
  dsimp only
  generalize c.toNat = n at hvalid hc
  have htoNat : ∀ k < 256, (UInt8.ofNat k).toNat = k := fun k hk => UInt8.toNat_ofNat_of_lt' hk
  split
  · have ha := htoNat n (by omega)
    have hlead : lead? (UInt8.ofNat n) = some (0, n, 0, 0) := by
      simp only [lead?, ha]
      rw [if_pos (by omega)]
    simp only [List.cons_append, List.nil_append, decodeLossyFrom, hlead, hc]
  split
  · have ha := htoNat (n / 64 % 32 + 0xC0) (by omega)
    have hb := htoNat (n % 64 + 0x80) (by omega)
    simp only [List.cons_append, List.nil_append]
    rw [decodeLossyFrom_lead _ (lead?_two (by omega) (by omega)),
      decodeLossyFrom_last _ (by omega) (by omega), ha, hb]
    rw [show (n / 64 % 32 + 0xC0 - 0xC0) * 64 + (n % 64 + 0x80) % 64 = n by omega, hc]
  split
  · have ha := htoNat (n / 4096 % 16 + 0xE0) (by omega)
    have hb := htoNat (n / 64 % 64 + 0x80) (by omega)
    have hd := htoNat (n % 64 + 0x80) (by omega)
    simp only [List.cons_append, List.nil_append]
    rw [decodeLossyFrom_lead _ (lead?_three (by omega) (by omega)),
      decodeLossyFrom_next _ (by split <;> omega) (by split <;> omega),
      decodeLossyFrom_last _ (by omega) (by omega), ha, hb, hd]
    rw [show ((n / 4096 % 16 + 0xE0 - 0xE0) * 64 + (n / 64 % 64 + 0x80) % 64) * 64 +
      (n % 64 + 0x80) % 64 = n by omega, hc]
  · have ha := htoNat (n / 262144 % 8 + 0xF0) (by omega)
    have hb := htoNat (n / 4096 % 64 + 0x80) (by omega)
    have hd := htoNat (n / 64 % 64 + 0x80) (by omega)
    have he := htoNat (n % 64 + 0x80) (by omega)
    simp only [List.cons_append, List.nil_append]
    rw [decodeLossyFrom_lead _ (lead?_four (by omega) (by omega)),
      decodeLossyFrom_next _ (by split <;> omega) (by split <;> omega),
      decodeLossyFrom_next _ (by omega) (by omega),
      decodeLossyFrom_last _ (by omega) (by omega), ha, hb, hd, he]
    rw [show (((n / 262144 % 8 + 0xF0 - 0xF0) * 64 + (n / 4096 % 64 + 0x80) % 64) * 64 +
      (n / 64 % 64 + 0x80) % 64) * 64 + (n % 64 + 0x80) % 64 = n by omega, hc]

theorem decodeLossy_encode (text : String) (rest : List UInt8) :
    decodeLossy (encode text ++ rest) = text.toList ++ decodeLossy rest := by
  rw [encode_eq_flatMap]
  induction text.toList with
  | nil => rfl
  | cons c cs ih => rw [List.flatMap_cons, List.append_assoc, decodeLossy_encodeChar, ih, List.cons_append]

/-- What was encoded is read back after any bytes, when a character of ASCII begins it. -/
theorem decodeLossy_append_encode {text : String} {c : Char} {cs : List Char} (hc : c.toNat < 0x80)
    (htext : text.toList = c :: cs) (bytes : List UInt8) :
    decodeLossy (bytes ++ encode text) = decodeLossy bytes ++ text.toList := by
  have hbyte : (UInt8.ofNat c.toNat).toNat = c.toNat := UInt8.toNat_ofNat_of_lt' (Nat.lt_trans hc (by decide))
  have hfront : encode text = UInt8.ofNat c.toNat :: cs.flatMap utf8EncodeChar := by
    have hone := encodeChar_one hc hbyte
    rw [Char.ofNat_toNat] at hone
    rw [encode_eq_flatMap, htext, List.flatMap_cons, ← hone, List.singleton_append]
  have hread := decodeLossy_encode text []
  rw [List.append_nil] at hread
  rw [hfront, decodeLossy_append_ascii (by omega), ← hfront, hread]
  simp [decodeLossy, decodeLossyFrom]

/-- A byte of ASCII in an encoding stands for itself. -/
theorem mem_of_ascii_mem_encode {text : String} {b : UInt8} (hb : b.toNat < 0x80) (h : b ∈ encode text) :
    Char.ofNat b.toNat ∈ text.toList := by
  obtain ⟨before, after, hbytes⟩ := List.append_of_mem h
  have hread := decodeLossy_encode text []
  rw [hbytes, List.append_nil, decodeLossy_append_ascii hb, ← List.singleton_append,
    encodeChar_one hb rfl, decodeLossy_encodeChar] at hread
  have hmem : Char.ofNat b.toNat ∈ text.toList ++ decodeLossy [] := by simp [← hread]
  simpa [decodeLossy, decodeLossyFrom] using hmem

end FuzzCampaign.Text
