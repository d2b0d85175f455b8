set_option autoImplicit false

/-! # UTF-8

Bytes and text. Strict decoding refuses what is not well formed; lossy decoding puts a replacement
character for each longest run of bytes that starts a character but does not finish it. -/

namespace FuzzCampaign.Text

/-- The bytes of a text. -/
def encode (text : String) : List UInt8 := text.toUTF8.data.toList

/-- The text of well-formed bytes. -/
def decode? (bytes : List UInt8) : Option String := String.fromUTF8? ⟨bytes.toArray⟩

/-- What the first byte of a character promises: the number of continuation bytes, the bits it
contributes, and the range of the byte that follows it. -/
def lead? (b : UInt8) : Option (Nat × Nat × Nat × Nat) :=
  let n := b.toNat
  if n < 0x80 then some (0, n, 0, 0)
  else if 0xC2 ≤ n ∧ n ≤ 0xDF then some (1, n - 0xC0, 0x80, 0xBF)
  else if n = 0xE0 then some (2, 0, 0xA0, 0xBF)
  else if n = 0xED then some (2, 0xD, 0x80, 0x9F)
  else if 0xE1 ≤ n ∧ n ≤ 0xEF then some (2, n - 0xE0, 0x80, 0xBF)
  else if n = 0xF0 then some (3, 0, 0x90, 0xBF)
  else if 0xF1 ≤ n ∧ n ≤ 0xF3 then some (3, n - 0xF0, 0x80, 0xBF)
  else if n = 0xF4 then some (3, 4, 0x80, 0x8F)
  else none

/-- A character that has begun: bits so far, continuation bytes missing, range of the next byte. -/
structure Unfinished where
  bits : Nat
  missing : Nat
  low : Nat
  high : Nat

/-- The character that stands for bytes that are not well formed. -/
def replacement : Char := '\uFFFD'

/-- The characters of bytes of any content. -/
def decodeLossyFrom : List UInt8 → Option Unfinished → List Char
  | [], none => []
  | [], some _ => [replacement]
  | b :: rest, none =>
    match lead? b with
    | none => replacement :: decodeLossyFrom rest none
    | some (0, bits, _, _) => Char.ofNat bits :: decodeLossyFrom rest none
    | some (missing, bits, low, high) => decodeLossyFrom rest (some ⟨bits, missing, low, high⟩)
  | b :: rest, some part =>
    if part.low ≤ b.toNat ∧ b.toNat ≤ part.high then
      let bits := part.bits * 64 + b.toNat % 64
      if part.missing ≤ 1 then Char.ofNat bits :: decodeLossyFrom rest none
      else decodeLossyFrom rest (some ⟨bits, part.missing - 1, 0x80, 0xBF⟩)
    else
      match lead? b with
      | none => replacement :: replacement :: decodeLossyFrom rest none
      | some (0, bits, _, _) => replacement :: Char.ofNat bits :: decodeLossyFrom rest none
      | some (missing, bits, low, high) =>
        replacement :: decodeLossyFrom rest (some ⟨bits, missing, low, high⟩)

/-- The text of bytes of any content. -/
def decodeLossy (bytes : List UInt8) : List Char := decodeLossyFrom bytes none

end FuzzCampaign.Text
