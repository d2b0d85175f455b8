import FuzzCampaign.Campaign.Timestamp
import FuzzCampaign.Campaign.Uuid
import FuzzCampaign.Proofs.Number.Text
set_option autoImplicit false

/-! # Identifiers and instants are read back

The written form of an identifier is always read as the identifier. The written form of an instant is read
as the instant unless it is inside a leap second that no minute ends with: such an instant is written like
one of the second after. -/

namespace FuzzCampaign

/-! ## Identifiers -/

namespace Uuid

theorem hexValue?_digit {n : Nat} (h : n < 16) : Json.hexValue? (digit n) = some n := by
  have hall : ∀ n, n < 16 → Json.hexValue? (digit n) = some n := by decide
  exact hall n h

theorem length_digits (count n : Nat) : (digits count n).length = count := by
  induction count generalizing n with
  | zero => rfl
  | succ count ih => rw [digits, List.length_append, ih, List.length_singleton]

/-- The last digits of a number make its remainder. -/
theorem foldl_digits (count n start : Nat) :
    (digits count n).foldl (fun n c => n.bind fun n => (Json.hexValue? c).map (n * 16 + ·)) (some start) =
      some (start * 16 ^ count + n % 16 ^ count) := by
  induction count generalizing n with
  | zero => simp [digits, Nat.mod_one]
  | succ count ih =>
    rw [digits, List.foldl_append, ih, List.foldl_cons, List.foldl_nil, Option.bind_some,
      hexValue?_digit (Nat.mod_lt n (by decide)), Option.map_some, Nat.pow_succ, Nat.mul_comm (16 ^ count) 16,
      Nat.mod_mul, Nat.mul_left_comm start 16]
    congr 1
    omega

theorem ofDigits?_simple (id : Uuid) : ofDigits? id.simple = some id := by
  have hlength : id.simple.length = 32 := length_digits 32 _
  have hbits : id.bits.toNat % 16 ^ 32 = id.bits.toNat := Nat.mod_eq_of_lt id.bits.isLt
  rw [ofDigits?, if_pos hlength, simple, foldl_digits, hbits]
  simp

/-- The hyphens between the groups are passed over. -/
theorem ofHyphenated?_groups {a b c d e : List Char} (ha : a.length = 8) (hb : b.length = 4) (hc : c.length = 4)
    (hd : d.length = 4) (he : e.length = 12) :
    ofHyphenated? (a ++ '-' :: (b ++ '-' :: (c ++ '-' :: (d ++ '-' :: e)))) = ofDigits? (a ++ b ++ c ++ d ++ e) := by
  simp [ofHyphenated?, List.drop_append, List.drop_eq_nil_of_le, ha, hb, hc, hd, he]

/-- The written form of an identifier is read as the identifier. -/
theorem ofText?_toText (id : Uuid) : ofText? id.toText = some id := by
  have hsimple := ofDigits?_simple id
  have hlength : id.simple.length = 32 := length_digits 32 _
  have hgroup : ∀ n, (id.simple.drop n).take 4 ++ id.simple.drop (n + 4) = id.simple.drop n := fun n => by
    rw [← List.drop_drop, List.take_append_drop]
  have hjoined : id.simple.take 8 ++ (id.simple.drop 8).take 4 ++ (id.simple.drop 12).take 4 ++
      (id.simple.drop 16).take 4 ++ id.simple.drop 20 = id.simple := by
    rw [List.append_assoc, hgroup 16, List.append_assoc, hgroup 12, List.append_assoc, hgroup 8,
      List.take_append_drop]
  have hgroups := ofHyphenated?_groups (a := id.simple.take 8) (b := (id.simple.drop 8).take 4)
    (c := (id.simple.drop 12).take 4) (d := (id.simple.drop 16).take 4) (e := id.simple.drop 20)
    (by simp [hlength]) (by simp [hlength]) (by simp [hlength]) (by simp [hlength]) (by simp [hlength])
  have htext : id.toText.toList = id.simple.take 8 ++ '-' :: ((id.simple.drop 8).take 4 ++
      '-' :: ((id.simple.drop 12).take 4 ++ '-' :: ((id.simple.drop 16).take 4 ++ '-' :: id.simple.drop 20))) := by
    simp [toText, hyphenated]
  have hwritten : id.toText.toList.length = 36 := by simp [htext, hlength]
  rw [← htext, hjoined, hsimple] at hgroups
  simp only [ofText?, hwritten, hgroups]
  rfl

end Uuid

/-! ## Digits of a fixed number -/

namespace Decimal

theorem length_ofNat_le {width n : Nat} (hwidth : 0 < width) (h : n < 10 ^ width) : (ofNat n).length ≤ width := by
  induction width generalizing n with
  | zero => exact absurd hwidth (Nat.lt_irrefl 0)
  | succ width ih =>
    rw [ofNat]
    split
    · exact Nat.succ_le_succ (Nat.zero_le _)
    · next hlarge =>
      rw [Nat.pow_succ] at h
      have hwide : 0 < width := by
        refine Nat.pos_of_ne_zero ?_
        rintro rfl
        omega
      rw [List.length_append, List.length_singleton]
      exact Nat.succ_le_succ (ih hwide (by omega))

theorem length_padded {width n : Nat} (hwidth : 0 < width) (h : n < 10 ^ width) : (padded width n).length = width := by
  have hlength := length_ofNat_le hwidth h
  simp only [padded, List.length_append, List.length_replicate]
  omega

theorem isDigit_of_mem_padded (width n : Nat) {c : Char} (h : c ∈ padded width n) : c.isDigit = true := by
  simp only [padded, List.mem_append] at h
  rcases h with h | h
  · rw [List.eq_of_mem_replicate h]
    rfl
  · exact isDigit_of_mem_ofNat h

theorem padded_ne_nil (width n : Nat) : padded width n ≠ [] := by simp [padded, ofNat_ne_nil]

theorem valueFrom_padded (width n : Nat) : valueFrom 0 (padded width n) = n := by
  have hzeros : ∀ k, (List.replicate k '0').foldl (fun n c => 10 * n + (c.toNat - 48)) 0 = 0 := by
    intro k
    induction k with
    | zero => rfl
    | succ k ih => rw [List.replicate_succ, List.foldl_cons]; exact ih
  have hvalue := valueFrom_ofNat n
  simp only [valueFrom] at hvalue
  simp only [padded, valueFrom, List.foldl_append, hzeros, hvalue]

end Decimal

/-! ## Instants -/

namespace Timestamp

open Text (trimStart isBlank)

theorem isBlank_of_isDigit {c : Char} (h : c.isDigit = true) : isBlank c = false := by
  have hall : ∀ n, n < 58 → 48 ≤ n → isBlank (Char.ofNat n) = false := by decide
  have hrange : 48 ≤ c.toNat ∧ c.toNat ≤ 57 := by simpa [Char.isDigit, UInt32.le_iff_toNat_le] using h
  have hblank := hall c.toNat (by omega) hrange.1
  rwa [Char.ofNat_toNat] at hblank

theorem trimStart_cons {c : Char} (h : isBlank c = false) (cs : List Char) : trimStart (c :: cs) = c :: cs := by
  rw [trimStart, List.dropWhile_cons_of_neg (by rw [h]; exact Bool.false_ne_true)]

/-- Digits at the front are no blanks. -/
theorem trimStart_padded (width n : Nat) (rest : List Char) :
    trimStart (Decimal.padded width n ++ rest) = Decimal.padded width n ++ rest := by
  obtain ⟨c, cs, hcs⟩ := List.exists_cons_of_ne_nil (Decimal.padded_ne_nil width n)
  have hc : c.isDigit = true := Decimal.isDigit_of_mem_padded width n (by simp [hcs])
  rw [hcs, List.cons_append, trimStart_cons (isBlank_of_isDigit hc)]

theorem readMark?_cons (mark : Char) (h : isBlank mark = false) (rest : List Char) :
    readMark? mark (mark :: rest) = some rest := by
  rw [readMark?, trimStart_cons h]
  exact if_pos rfl

/-- The digits of a number and the first other character are told apart. -/
theorem digits_padded (width n : Nat) {c : Char} (hc : c.isDigit = false) (rest : List Char) :
    (Decimal.padded width n ++ c :: rest).takeWhile Char.isDigit = Decimal.padded width n ∧
      (Decimal.padded width n ++ c :: rest).dropWhile Char.isDigit = c :: rest := by
  have hall : ∀ d ∈ Decimal.padded width n, d.isDigit = true := fun d hd => Decimal.isDigit_of_mem_padded width n hd
  rw [List.takeWhile_append_of_pos hall, List.dropWhile_append_of_pos hall]
  simp [hc]

theorem readNumber?_padded (width n : Nat) (hwidth : 0 < width) (h : n < 10 ^ width) (rest : List Char) :
    readNumber? width (Decimal.padded width n ++ rest) = some (n, rest) := by
  have hlength := Decimal.length_padded hwidth h
  have htake : (Decimal.padded width n ++ rest).take width = Decimal.padded width n := by
    rw [List.take_append_of_le_length (Nat.le_of_eq hlength.symm), List.take_of_length_le (Nat.le_of_eq hlength)]
  have hall : (Decimal.padded width n).takeWhile Char.isDigit = Decimal.padded width n := by
    rw [← List.append_nil (Decimal.padded width n), List.takeWhile_append_of_pos fun c hc =>
      Decimal.isDigit_of_mem_padded width n hc, List.takeWhile_nil]
  simp only [readNumber?, htake, hall, List.isEmpty_iff, Decimal.padded_ne_nil, if_false, Decimal.valueFrom_padded,
    List.drop_left]

theorem readField?_padded {n : Nat} (h : n < 100) (rest : List Char) :
    readField? (Decimal.padded 2 n ++ rest) = some (n, rest) := by
  rw [readField?, trimStart_padded, readNumber?_padded 2 n (by decide) h]

/-- Any number of digits may be a number: a hyphen ends it. -/
theorem readNumber?_hyphen (n : Nat) (rest : List Char) :
    readNumber? (Decimal.padded 4 n ++ '-' :: rest).length (Decimal.padded 4 n ++ '-' :: rest) =
      some (n, '-' :: rest) := by
  simp only [readNumber?, List.take_length, (digits_padded 4 n (c := '-') rfl rest).1, List.isEmpty_iff,
    Decimal.padded_ne_nil, if_false, Decimal.valueFrom_padded, List.drop_left]

/-- A year without a sign has four digits at most. -/
theorem readYear?_digit {c : Char} (h : c.isDigit = true) (cs : List Char) :
    readYear? (c :: cs) = (readNumber? 4 (c :: cs)).map fun (n, rest) => ((n : Int), rest) := by
  rw [readYear?, trimStart_cons (isBlank_of_isDigit h)]
  split
  · next heq =>
    obtain ⟨rfl, -⟩ := List.cons.inj heq
    exact absurd h (by decide)
  · next heq =>
    obtain ⟨rfl, -⟩ := List.cons.inj heq
    exact absurd h (by decide)
  · rfl

/-- A year is read up to the hyphen, with its sign if it has one. -/
theorem readYear?_yearText (year : Int) (rest : List Char) :
    readYear? (yearText year ++ '-' :: rest) = some (year, '-' :: rest) := by
  unfold yearText
  split
  · next hrange =>
    obtain ⟨c, cs, hcs⟩ := List.exists_cons_of_ne_nil (Decimal.padded_ne_nil 4 year.toNat)
    have hc : c.isDigit = true := Decimal.isDigit_of_mem_padded 4 year.toNat (by simp [hcs])
    have hread := readNumber?_padded 4 year.toNat (by decide) (by omega) ('-' :: rest)
    have hyear : (year.toNat : Int) = year := by omega
    rw [hcs, List.cons_append] at hread ⊢
    rw [readYear?_digit hc, hread]
    exact congrArg some (Prod.ext hyear rfl)
  · next hrange =>
    have hread := readNumber?_hyphen year.natAbs rest
    split
    · next hneg =>
      have hyear : -(year.natAbs : Int) = year := by omega
      rw [readYear?, List.cons_append, trimStart_cons rfl]
      show (readNumber? (Decimal.padded 4 year.natAbs ++ '-' :: rest).length _).map _ = _
      rw [hread]
      exact congrArg some (Prod.ext hyear rfl)
    · next hpos =>
      have hyear : (year.natAbs : Int) = year := by omega
      rw [readYear?, List.cons_append, trimStart_cons rfl]
      show (readNumber? (Decimal.padded 4 year.natAbs ++ '-' :: rest).length _).map _ = _
      rw [hread]
      exact congrArg some (Prod.ext hyear rfl)

/-- Decimals of a second, from the first to one of the ninth. -/
theorem readNanos?_padded {width n : Nat} (hwidth : 0 < width) (hnine : width ≤ 9) (h : n < 10 ^ width)
    (rest : List Char) :
    readNanos? ('.' :: (Decimal.padded width n ++ 'Z' :: rest)) = some (n * 10 ^ (9 - width), 'Z' :: rest) := by
  have hlength := Decimal.length_padded hwidth h
  obtain ⟨htake, hdrop⟩ := digits_padded width n (c := 'Z') rfl rest
  have hkept : (Decimal.padded width n).take 9 = Decimal.padded width n := List.take_of_length_le (by omega)
  simp only [readNanos?, htake, hdrop, List.isEmpty_iff, Decimal.padded_ne_nil, if_false, hkept,
    Decimal.valueFrom_padded, hlength]

theorem readNanos?_fractionText {nanos : Nat} (h : nanos < 1000000000) (rest : List Char) :
    readNanos? (fractionText nanos ++ 'Z' :: rest) = some (nanos, 'Z' :: rest) := by
  unfold fractionText
  split
  · next hzero =>
    rw [hzero]
    rfl
  · split
    · next hmilli =>
      have hnanos : nanos / 1000000 * 10 ^ (9 - 3) = nanos := by omega
      rw [List.cons_append, readNanos?_padded (by decide) (by decide) (by omega), hnanos]
    · split
      · next hmicro =>
        have hnanos : nanos / 1000 * 10 ^ (9 - 6) = nanos := by omega
        rw [List.cons_append, readNanos?_padded (by decide) (by decide) (by omega), hnanos]
      · have hnanos : nanos * 10 ^ (9 - 9) = nanos := by omega
        rw [List.cons_append, readNanos?_padded (by decide) (by decide) (by omega), hnanos]

theorem of?_self (t : Timestamp) : of? t.year t.month t.day t.hour t.minute t.second t.nanos = some t := by
  rw [of?, dif_pos t.valid]

theorem nanos_of?_eq_some {year : Int} {month day hour minute second nanos : Nat} {t : Timestamp}
    (h : of? year month day hour minute second nanos = some t) : t.nanos = nanos := by
  rw [of?] at h
  split at h
  · cases h
    rfl
  · cases h

/-- In universal time nothing is moved. -/
theorem ofLocal?_zero (year : Int) (month day hour minute second nanos : Nat) :
    ofLocal? year month day hour minute second nanos 0 = of? year month day hour minute second nanos := by
  rw [ofLocal?]
  cases hstart : of? year month day hour minute second nanos with
  | none => rfl
  | some t =>
    obtain ⟨-, -, -, hhour, hminute, -, -⟩ := t.valid
    have hself := of?_self t
    have hnone : ¬ ((t.hour * 60 + t.minute : Nat) : Int) - 0 < 0 := by omega
    have hday : ¬ 1440 ≤ ((t.hour * 60 + t.minute : Nat) : Int) - 0 := by omega
    have hminutes : ((((t.hour * 60 + t.minute : Nat) : Int) - 0) % 1440).toNat = t.hour * 60 + t.minute := by omega
    have hhours : (t.hour * 60 + t.minute) / 60 = t.hour := by omega
    have hrest : (t.hour * 60 + t.minute) % 60 = t.minute := by omega
    simp only [bind, Option.bind, if_neg hnone, if_neg hday, hminutes, hhours, hrest]
    exact hself

/-- The characters of a written form, one field after the other. -/
theorem readFields?_toChars {year : Int} {month day hour minute second nanos : Nat} (hmonth : month < 100)
    (hday : day < 100) (hhour : hour < 100) (hminute : minute < 100) (hsecond : second < 100)
    (hnanos : nanos < 1000000000) :
    ofText? (String.ofList (yearText year ++ '-' :: Decimal.padded 2 month ++ '-' :: Decimal.padded 2 day ++
        'T' :: Decimal.padded 2 hour ++ ':' :: Decimal.padded 2 minute ++
        ':' :: Decimal.padded 2 second ++ fractionText nanos ++ ['Z'])) =
      if second = 60 then of? year month day hour minute 59 (nanos + 1000000000)
      else of? year month day hour minute second nanos := by
  have hoffset : readOffset? ['Z'] = some (0, []) := rfl
  have hend : (Text.trimStart []).isEmpty = true := rfl
  simp only [ofText?, String.toList_ofList, List.append_assoc, List.cons_append, bind, Option.bind,
    readYear?_yearText, readMark?_cons '-' rfl, readMark?_cons ':' rfl,
    readField?_padded hmonth, readField?_padded hday, readField?_padded hhour, readField?_padded hminute,
    readField?_padded hsecond, readNanos?_fractionText hnanos, hoffset, hend, if_true, true_or, ofLocal?_zero]

/-- The instants that are read back. -/
theorem ofText?_toText_iff (t : Timestamp) :
    ofText? t.toText = some t ↔ t.nanos < 1000000000 ∨ t.second = 59 := by
  obtain ⟨-, ⟨-, hmonth⟩, ⟨-, hday⟩, hhour, hminute, hsecond, hnanos⟩ := t.valid
  have hself := of?_self t
  have hdays : Calendar.monthDays t.year t.month ≤ 31 := by
    unfold Calendar.monthDays
    repeat' split
    all_goals omega
  unfold toText toChars
  by_cases hleap : 1000000000 ≤ t.nanos
  · simp only [if_pos hleap]
    rw [readFields?_toChars (by omega) (by omega) (by omega) (by omega) (by omega) (by omega)]
    by_cases hlast : t.second = 59
    · rw [if_pos (by omega), Nat.sub_add_cancel hleap, ← hlast, hself]
      exact iff_of_true rfl (.inr rfl)
    · -- written as the second after, and read as that one
      rw [if_neg (by omega)]
      refine iff_of_false (fun hread => ?_) (by omega)
      have hnext := nanos_of?_eq_some hread
      omega
  · simp only [if_neg hleap]
    rw [readFields?_toChars (by omega) (by omega) (by omega) (by omega) (by omega) (by omega),
      if_neg (by omega), hself]
    exact iff_of_true rfl (.inl (by omega))

end Timestamp

end FuzzCampaign
