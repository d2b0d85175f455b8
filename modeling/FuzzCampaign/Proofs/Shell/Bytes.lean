import FuzzCampaign.Proofs.Shell.Words
import FuzzCampaign.Proofs.Text.Utf8
set_option autoImplicit false

/-! # Bytes of texts

The shell sees the bytes of a text. A byte of ASCII stands for itself wherever it is, so quoting a text quotes its
bytes, and both go on as many lines. -/

namespace FuzzCampaign.Shell

/-- The bytes of a character. -/
def bytesOf (c : Char) : Str := (String.utf8EncodeChar c).map fun b => Char.ofNat b.toNat

theorem Str.ofString_eq_flatMap (s : String) : Str.ofString s = s.toList.flatMap bytesOf := by
  rw [Str.ofString, Text.encode_eq_flatMap, List.map_flatMap]
  rfl

theorem Str.ofString_append (a b : String) : Str.ofString (a ++ b) = Str.ofString a ++ Str.ofString b := by
  rw [Str.ofString, Text.encode_append, List.map_append]
  rfl

theorem toNat_byte (b : UInt8) : (Char.ofNat b.toNat).toNat = b.toNat := by
  have hlt := b.toNat_lt
  exact Text.val_ofNat (.inl (by omega))

theorem toNat_lt_of_mem_bytesOf {c d : Char} (hd : d ∈ bytesOf c) : d.toNat < 256 := by
  obtain ⟨b, -, rfl⟩ := List.mem_map.1 hd
  rw [toNat_byte]
  exact b.toNat_lt

theorem Str.toNat_lt {s : String} : ∀ c ∈ Str.ofString s, c.toNat < 256 := by
  intro d hd
  rw [Str.ofString_eq_flatMap] at hd
  obtain ⟨c, -, hd⟩ := List.mem_flatMap.1 hd
  exact toNat_lt_of_mem_bytesOf hd

/-- A byte of ASCII belongs to the character that it stands for. -/
theorem eq_of_mem_bytesOf {c d : Char} (hd : d ∈ bytesOf c) (hlt : d.toNat < 0x80) : d = c := by
  obtain ⟨b, hb, rfl⟩ := List.mem_map.1 hd
  rw [toNat_byte] at hlt
  have hencoded : b ∈ Text.encode (String.singleton c) := by
    rw [Text.encode_eq_flatMap]
    simpa using hb
  simpa using Text.mem_of_ascii_mem_encode hlt hencoded

theorem bytesOf_ascii {c : Char} (h : c.toNat < 0x80) : bytesOf c = [c] := by
  have hone := Text.encodeChar_one (a := UInt8.ofNat c.toNat) h (by simp; omega)
  rw [Char.ofNat_toNat] at hone
  have hnumber : (UInt8.ofNat c.toNat).toNat = c.toNat := by
    simp
    omega
  rw [bytesOf, ← hone, List.map_singleton, hnumber, Char.ofNat_toNat]

theorem flatMap_bytesOf_ascii {text : List Char} (h : text.all (·.toNat < 0x80) = true) :
    text.flatMap bytesOf = text := by
  induction text with
  | nil => rfl
  | cons c text ih =>
    rw [List.all_cons, Bool.and_eq_true] at h
    rw [List.flatMap_cons, bytesOf_ascii (of_decide_eq_true h.1), ih h.2, List.singleton_append]

theorem Str.ofString_ascii {s : String} (h : s.toList.all (·.toNat < 0x80) = true) :
    Str.ofString s = s.toList :=
  (Str.ofString_eq_flatMap s).trans (flatMap_bytesOf_ascii h)

theorem flatMap_shellQuoteChar {text : Str} (h : '\x27' ∉ text) : text.flatMap Lifecycle.shellQuoteChar = text := by
  induction text with
  | nil => rfl
  | cons c text ih =>
    rw [List.mem_cons, not_or] at h
    have hkept : Lifecycle.shellQuoteChar c = [c] := if_neg fun heq => h.1 heq.symm
    rw [List.flatMap_cons, hkept, ih h.2, List.singleton_append]

/-- Quoting a text quotes its bytes, because no byte of another character is a quote. -/
theorem Str.ofString_shellQuote (s : String) : Str.ofString (Lifecycle.shellQuote s) = quotedText (Str.ofString s) := by
  have hmark : bytesOf Lifecycle.quoteMark = ['\x27'] := bytesOf_ascii (by decide)
  have hchar : ∀ c, (Lifecycle.shellQuoteChar c).flatMap bytesOf = (bytesOf c).flatMap Lifecycle.shellQuoteChar := by
    intro c
    by_cases hc : c = Lifecycle.quoteMark
    · have hescape : Lifecycle.shellQuoteChar c = ['\x27', '\\', '\x27', '\x27'] := if_pos hc
      rw [hescape, flatMap_bytesOf_ascii (by decide), hc, hmark]
      rfl
    · have hkept : Lifecycle.shellQuoteChar c = [c] := if_neg hc
      have hfree : '\x27' ∉ bytesOf c := fun hmem => hc (eq_of_mem_bytesOf hmem (by decide)).symm
      rw [hkept, flatMap_shellQuoteChar hfree, List.flatMap_singleton]
  have hall : ∀ text : List Char, (text.flatMap Lifecycle.shellQuoteChar).flatMap bytesOf =
      (text.flatMap bytesOf).flatMap Lifecycle.shellQuoteChar := by
    intro text
    induction text with
    | nil => rfl
    | cons c text ih => rw [List.flatMap_cons, List.flatMap_append, ih, hchar, List.flatMap_cons, List.flatMap_append]
  rw [Str.ofString_eq_flatMap, Str.ofString_eq_flatMap, Lifecycle.shellQuote, String.toList_ofList, quotedText, ← hall]
  simp [hmark]

/-- The bytes of a text go on as many lines as the text. -/
theorem linesOf_ofString (s : String) : Parse.linesOf (Str.ofString s) = s.toList.count '\n' := by
  rw [Str.ofString_eq_flatMap]
  induction s.toList with
  | nil => rfl
  | cons c text ih =>
    rw [List.flatMap_cons, Parse.linesOf_append, ih, List.count_cons, Nat.add_comm]
    congr 1
    by_cases hc : c = '\n'
    · rw [hc]
      rfl
    · -- no byte of another character ends a line, and no byte is a mark
      have hzero : Parse.linesOf (bytesOf c) = 0 := by
        refine Parse.linesOf_eq_zero fun d hd => ⟨fun heq => ?_, toNat_lt_of_mem_bytesOf hd⟩
        rw [heq] at hd
        exact hc (eq_of_mem_bytesOf hd (by decide)).symm
      rw [hzero, if_neg (by simpa using hc)]

theorem linesOf_quotedText (text : Str) : Parse.linesOf (quotedText text) = Parse.linesOf text := by
  have hmark : Parse.linesOf ['\x27'] = 0 := rfl
  have hchar : ∀ c, Parse.linesOf (Lifecycle.shellQuoteChar c) = Parse.linesOf [c] := by
    intro c
    rw [Lifecycle.shellQuoteChar]
    split
    · next hc => rw [hc]; rfl
    · rfl
  have hall : Parse.linesOf (text.flatMap Lifecycle.shellQuoteChar) = Parse.linesOf text := by
    induction text with
    | nil => rfl
    | cons c text ih =>
      rw [List.flatMap_cons, Parse.linesOf_append, ih, hchar, ← Parse.linesOf_append, List.singleton_append]
  rw [quotedText, ← List.singleton_append, List.append_assoc, Parse.linesOf_append, Parse.linesOf_append, hall, hmark,
    Nat.zero_add, Nat.add_zero]

end FuzzCampaign.Shell
