import FuzzCampaign.Json.Term
import FuzzCampaign.Proofs.Number.Text
set_option autoImplicit false

/-! # The text of a number in a document

A number is digits, then a point and more digits, then a power of ten, the last two only when they are written.
Such a text is read as these parts, whatever may follow a value in a document, and every number that is printed
has such a text. An integer is its digits and so is read back as itself. A binary64 number has a point or a power
of ten; it is read back as what its shortest digits make, which depends on the number alone (`reread?`). -/

namespace FuzzCampaign

/-! ## Digits -/

namespace Decimal

theorem le_valueFrom (start : Nat) (digits : List Char) : start ≤ valueFrom start digits := by
  induction digits generalizing start with
  | nil => exact Nat.le_refl start
  | cons c rest ih =>
    have hrest := ih (10 * start + (c.toNat - 48))
    simp only [valueFrom, List.foldl_cons] at hrest ⊢
    omega

/-- No number begins with a zero but zero itself. -/
theorem head?_ofNat {n : Nat} (h : 0 < n) : (ofNat n).head? ≠ some '0' := by
  induction n using ofNat.induct with
  | case1 n hsmall =>
    have hall : ∀ d, d < 10 → 0 < d → digitChar d ≠ '0' := by decide
    rw [ofNat, if_pos hsmall]
    simpa using hall n hsmall h
  | case2 n hlarge ih =>
    obtain ⟨c, rest, hfront⟩ := List.exists_cons_of_ne_nil (ofNat_ne_nil (n / 10))
    have hfirst := ih (by omega)
    rw [hfront] at hfirst
    rwa [ofNat, if_neg hlarge, hfront]

end Decimal

namespace Json

/-- Digits, at least one. -/
structure IsDigits (digits : List Char) : Prop where
  ne_nil : digits ≠ []
  isDigit : ∀ c ∈ digits, c.isDigit = true

theorem isDigits_ofNat (n : Nat) : IsDigits (Decimal.ofNat n) :=
  ⟨Decimal.ofNat_ne_nil n, fun _ => Decimal.isDigit_of_mem_ofNat⟩

theorem isDigits_zero : IsDigits ['0'] := by
  refine ⟨List.cons_ne_nil _ _, fun c hc => ?_⟩
  rw [List.mem_singleton.1 hc]
  rfl

theorem isDigit_of_mem_zeros {n : Nat} {c : Char} (h : c ∈ List.replicate n '0') : c.isDigit = true := by
  rw [List.eq_of_mem_replicate h]
  rfl

/-- No digit stands first. -/
def Stops (rest : List Char) : Prop := ∀ c ∈ rest.head?, c.isDigit = false

theorem takeWhile_digits {digits rest : List Char} (hdigits : IsDigits digits) (hrest : Stops rest) :
    (digits ++ rest).takeWhile Char.isDigit = digits ∧ (digits ++ rest).dropWhile Char.isDigit = rest := by
  have hend : rest.takeWhile Char.isDigit = [] ∧ rest.dropWhile Char.isDigit = rest := by
    cases rest with
    | nil => exact ⟨rfl, rfl⟩
    | cons c rest => simp [hrest c rfl]
  rw [List.takeWhile_append_of_pos hdigits.isDigit, List.dropWhile_append_of_pos hdigits.isDigit, hend.1, hend.2]
  simp

/-- What may follow a value in a document. -/
def Follows (rest : List Char) : Prop := ∀ c ∈ rest.head?, c = ',' ∨ c = ']' ∨ c = '\x7d'

theorem follows_nil : Follows [] := by simp [Follows]

theorem follows_cons {c : Char} {rest : List Char} (h : c = ',' ∨ c = ']' ∨ c = '\x7d') : Follows (c :: rest) := by
  simpa [Follows] using h

theorem Follows.stops {rest : List Char} (h : Follows rest) : Stops rest := by
  intro c hc
  rcases h c hc with rfl | rfl | rfl <;> rfl

/-! ## The parts of a number -/

/-- A number without its sign: the digits before the point, those after it, and the power of ten with its sign. -/
structure NumberText where
  whole : List Char
  fraction : Option (List Char)
  power : Option (Bool × List Char)

namespace NumberText

/-- What is written of the digits after the point. -/
def fractionChars : Option (List Char) → List Char
  | none => []
  | some digits => '.' :: digits

/-- What is written of the power of ten. -/
def powerChars : Option (Bool × List Char) → List Char
  | none => []
  | some (down, digits) => 'e' :: (if down then '-' else '+') :: digits

/-- The text. -/
def chars (t : NumberText) : List Char := t.whole ++ (fractionChars t.fraction ++ powerChars t.power)

/-- Digits stand where they have to, without a zero before others. -/
structure Legal (t : NumberText) : Prop where
  whole : IsDigits t.whole
  front : ∀ d rest, t.whole ≠ '0' :: d :: rest
  fraction : ∀ digits ∈ t.fraction, IsDigits digits
  power : ∀ p ∈ t.power, IsDigits p.2

/-- Not an integer. -/
def Marked (t : NumberText) : Prop := t.fraction.isSome = true ∨ t.power.isSome = true

end NumberText

section
open NumberText
variable {cs whole rest : List Char} {power : Option (Bool × List Char)}

theorem stops_powerChars (power : Option (Bool × List Char)) (hrest : Follows rest) : Stops (powerChars power ++ rest) := by
  cases power with
  | none => exact hrest.stops
  | some p => simp [powerChars, Stops]

/-- Digits, and a power of ten or none. -/
theorem readNumber_whole (hsign : ∀ ds, cs ≠ '-' :: ds) (htake : cs.takeWhile Char.isDigit = whole)
    (hdrop : cs.dropWhile Char.isDigit = powerChars power ++ rest) (hwhole : IsDigits whole)
    (hfront : ∀ d ds, whole ≠ '0' :: d :: ds) (hpower : ∀ p ∈ power, IsDigits p.2) (hrest : Follows rest) :
    readNumber cs = some (ofParts false whole none power, rest) ∧
      readNumber ('-' :: cs) = some (ofParts true whole none power, rest) := by
  constructor
  all_goals
    simp only [readNumber]
    rw [htake, hdrop]
    split
    · exact absurd rfl hwhole.ne_nil
    · next d ds => exact absurd rfl (hfront d ds)
    cases power with
    | none =>
      -- what follows the digits is neither a point nor a power of ten
      rcases rest with _ | ⟨c, cs⟩
      · rfl
      · rcases hrest c rfl with rfl | rfl | rfl <;> rfl
    | some p =>
      obtain ⟨down, digits⟩ := p
      have hdigits : IsDigits digits := hpower _ rfl
      have hne := hdigits.ne_nil
      obtain ⟨hptake, hpdrop⟩ := takeWhile_digits hdigits hrest.stops
      cases down <;>
        simp only [powerChars, List.cons_append, List.cons.injEq, Char.reduceEq, Bool.false_eq_true, reduceIte,
          false_and, imp_self, implies_true, or_false, Option.pure_def, Option.bind_eq_bind, Option.bind_none,
          Option.bind_some, List.isEmpty_iff, hptake, hpdrop, hne]

/-- Digits, a point and more digits, and a power of ten or none. -/
theorem readNumber_fraction {places : List Char} (hsign : ∀ ds, cs ≠ '-' :: ds)
    (htake : cs.takeWhile Char.isDigit = whole)
    (hdrop : cs.dropWhile Char.isDigit = '.' :: (places ++ (powerChars power ++ rest))) (hwhole : IsDigits whole)
    (hfront : ∀ d ds, whole ≠ '0' :: d :: ds) (hplaces : IsDigits places) (hpower : ∀ p ∈ power, IsDigits p.2)
    (hrest : Follows rest) :
    readNumber cs = some (ofParts false whole (some places) power, rest) ∧
      readNumber ('-' :: cs) = some (ofParts true whole (some places) power, rest) := by
  have hne := hplaces.ne_nil
  obtain ⟨hftake, hfdrop⟩ := takeWhile_digits hplaces (stops_powerChars power hrest)
  constructor
  all_goals
    simp only [readNumber]
    rw [htake, hdrop]
    split
    · exact absurd rfl hwhole.ne_nil
    · next d ds => exact absurd rfl (hfront d ds)
    simp only [hftake, hfdrop, List.isEmpty_iff, hne, if_false]
    cases power with
    | none =>
      rcases rest with _ | ⟨c, cs⟩
      · rfl
      · rcases hrest c rfl with rfl | rfl | rfl <;> rfl
    | some p =>
      obtain ⟨down, digits⟩ := p
      have hdigits : IsDigits digits := hpower _ rfl
      have hpne := hdigits.ne_nil
      obtain ⟨hptake, hpdrop⟩ := takeWhile_digits hdigits hrest.stops
      cases down <;>
        simp only [powerChars, List.cons_append, Char.reduceEq, Bool.false_eq_true, reduceIte, or_false,
          Option.pure_def, Option.bind_eq_bind, Option.bind_none, Option.bind_some, hptake, hpdrop, hpne]

/-- **The text of a number is read as its parts**, with a sign before it or without. -/
theorem readNumber_chars {t : NumberText} (h : t.Legal) (hrest : Follows rest) :
    readNumber (t.chars ++ rest) = some (ofParts false t.whole t.fraction t.power, rest) ∧
      readNumber ('-' :: (t.chars ++ rest)) = some (ofParts true t.whole t.fraction t.power, rest) := by
  obtain ⟨whole, fraction, power⟩ := t
  obtain ⟨hwhole, hfront, hfraction, hpower⟩ := h
  dsimp only at hwhole hfront hfraction hpower
  have hstops : Stops (fractionChars fraction ++ (powerChars power ++ rest)) := by
    cases fraction with
    | none => exact stops_powerChars power hrest
    | some places => simp [fractionChars, Stops]
  obtain ⟨htake, hdrop⟩ := takeWhile_digits hwhole hstops
  have hsign : ∀ ds, whole ++ (fractionChars fraction ++ (powerChars power ++ rest)) ≠ '-' :: ds := by
    intro ds heq
    obtain ⟨c, cs, rfl⟩ := List.exists_cons_of_ne_nil hwhole.ne_nil
    obtain ⟨rfl, -⟩ := List.cons.inj heq
    exact absurd (hwhole.isDigit '-' List.mem_cons_self) (by decide)
  simp only [chars, List.append_assoc]
  cases fraction with
  | none => exact readNumber_whole hsign htake hdrop hwhole hfront hpower hrest
  | some places => exact readNumber_fraction hsign htake hdrop hwhole hfront (hfraction places rfl) hpower hrest

end

/-! ## Integers -/

theorem takeDigits_eq (digits : List Char) (start taken : Nat) (h : Decimal.valueFrom start digits < 2 ^ 64) :
    takeDigits digits start taken = (Decimal.valueFrom start digits, taken + digits.length, []) := by
  induction digits generalizing start taken with
  | nil => rfl
  | cons c rest ih =>
    have hnext : start * 10 + (c.toNat - 48) = 10 * start + (c.toNat - 48) := by omega
    have hvalue : Decimal.valueFrom start (c :: rest) =
        Decimal.valueFrom (10 * start + (c.toNat - 48)) rest := rfl
    have hle := Decimal.le_valueFrom (10 * start + (c.toNat - 48)) rest
    rw [hvalue] at h ⊢
    rw [takeDigits, hnext, if_pos (by omega), ih _ (taken + 1) h, List.length_cons]
    congr 2
    omega

/-- The digits of an integer and its sign make the integer. -/
theorem ofParts_ofNat (n : WireInt) :
    ofParts (decide (n.val < 0)) (Decimal.ofNat n.val.natAbs) none none = .int n := by
  have hlower := n.lower
  have hupper := n.upper
  have hdigits := takeDigits_eq (Decimal.ofNat n.val.natAbs) 0 0
    (by rw [Decimal.valueFrom_ofNat]; omega)
  rw [Decimal.valueFrom_ofNat] at hdigits
  have hint : WireInt.ofInt? n.val = some n := by rw [WireInt.ofInt?, dif_pos ⟨hlower, hupper⟩]
  simp only [ofParts, hdigits, Option.isNone_none, List.isEmpty_nil, decide_eq_true_eq]
  by_cases hneg : n.val < 0
  · have hvalue : (-(n.val.natAbs : Int)) = n.val := by omega
    rw [if_pos ⟨trivial, trivial, trivial⟩, if_pos hneg, if_neg (by omega), hvalue, hint]
  · have hvalue : (n.val.natAbs : Int) = n.val := by omega
    rw [if_pos ⟨trivial, trivial, trivial⟩, if_neg hneg, hvalue, hint]

theorem front_ofNat (n : Nat) (d : Char) (rest : List Char) : Decimal.ofNat n ≠ '0' :: d :: rest := by
  intro h
  rcases Nat.eq_zero_or_pos n with rfl | hpos
  · rw [Decimal.ofNat, if_pos (by decide)] at h
    cases h
  · exact Decimal.head?_ofNat hpos (by rw [h]; rfl)

/-- The text of an integer is read as the integer. -/
theorem readNumber_ofInt (n : WireInt) {rest : List Char} (hrest : Follows rest) :
    readNumber (Decimal.ofInt n.val ++ rest) = some (.int n, rest) := by
  have hlegal : NumberText.Legal ⟨Decimal.ofNat n.val.natAbs, none, none⟩ :=
    ⟨isDigits_ofNat _, front_ofNat _, by simp, by simp⟩
  obtain ⟨hplain, hminus⟩ := readNumber_chars hlegal hrest
  have hparts := ofParts_ofNat n
  simp only [NumberText.chars, NumberText.fractionChars, NumberText.powerChars, List.append_nil] at hplain hminus
  unfold Decimal.ofInt
  by_cases hneg : n.val < 0
  · rw [decide_eq_true hneg] at hparts
    rw [if_pos hneg, List.cons_append, hminus, hparts]
  · rw [decide_eq_false hneg] at hparts
    rw [if_neg hneg, hplain, hparts]

/-! ## Binary64 numbers -/

/-- What has a point or a power of ten is read as a binary64 number. -/
theorem ofParts_of_marked {t : NumberText} (h : t.Marked) (negative : Bool) :
    ∃ x, ofParts negative t.whole t.fraction t.power = .float x := by
  unfold ofParts
  dsimp only
  rw [if_neg]
  · exact ⟨_, rfl⟩
  · rintro ⟨hfraction, hpower, -⟩
    rcases h with h | h
    · simp [Option.isNone_iff_eq_none.1 hfraction] at h
    · simp [Option.isNone_iff_eq_none.1 hpower] at h

end Json

namespace Binary64

open Json (NumberText IsDigits isDigits_ofNat isDigits_zero isDigit_of_mem_zeros front_ofNat)

/-- Digits without trailing zeros are zero only as the digit zero. -/
theorem Digits.exponent_trim (value : Nat) (exponent : Int) (h : (Digits.trim value exponent).value = 0) :
    (Digits.trim value exponent).exponent = 0 := by
  induction value, exponent using Digits.trim.induct with
  | case1 exponent =>
    rw [Digits.trim, if_pos rfl]
  | case2 value exponent hne hmod ih =>
    rw [Digits.trim, if_neg hne, if_pos hmod] at h ⊢
    exact ih h
  | case3 value exponent hne hmod =>
    rw [Digits.trim, if_neg hne, if_neg hmod] at h
    exact absurd h hne

theorem exponent_shortest (x : Binary64) (h : x.shortest.value = 0) : x.shortest.exponent = 0 := by
  revert h
  unfold shortest
  split
  · exact fun _ => rfl
  · exact Digits.exponent_trim _ _

/-- Digits before the point and behind it. -/
theorem positional {whole fraction : List Char} (hwhole : IsDigits whole) (hfront : ∀ d ds, whole ≠ '0' :: d :: ds)
    (hfraction : IsDigits fraction) :
    ∃ t : NumberText, t.Legal ∧ t.Marked ∧ whole ++ '.' :: fraction = t.chars :=
  ⟨⟨whole, some fraction, none⟩, ⟨hwhole, hfront, by simpa using hfraction, by simp⟩, Or.inl rfl,
    by simp [NumberText.chars, NumberText.fractionChars, NumberText.powerChars]⟩

/-- One digit before the point, the others behind it, and a power of ten. -/
theorem scientific {digits : List Char} (hdigits : IsDigits digits) (leading : Int) :
    ∃ t : NumberText, t.Legal ∧ t.Marked ∧
      digits.take 1 ++ (if (digits.drop 1).isEmpty then [] else '.' :: digits.drop 1) ++
        'e' :: (if leading < 0 then '-' :: Decimal.ofNat leading.natAbs
          else ['+'] ++ Decimal.ofNat leading.natAbs) = t.chars := by
  obtain ⟨c, cs, rfl⟩ := List.exists_cons_of_ne_nil hdigits.ne_nil
  obtain ⟨hc, hcs⟩ := List.forall_mem_cons.1 hdigits.isDigit
  refine ⟨⟨[c], if cs.isEmpty then none else some cs, some (decide (leading < 0), Decimal.ofNat leading.natAbs)⟩,
    ⟨⟨List.cons_ne_nil _ _, by simpa using hc⟩, by simp, ?_, ?_⟩, Or.inr rfl, ?_⟩
  · cases cs with
    | nil => simp
    | cons next cs => simpa using ⟨List.cons_ne_nil next cs, hcs⟩
  · simpa using isDigits_ofNat leading.natAbs
  · cases cs <;> by_cases hneg : leading < 0 <;>
      simp [NumberText.chars, NumberText.fractionChars, NumberText.powerChars, hneg]

theorem front_append_zeros {digits : List Char} {n : Nat} (hdigits : IsDigits digits)
    (hfront : ∀ d ds, digits ≠ '0' :: d :: ds) (hzero : digits = ['0'] → n = 0) (d : Char) (ds : List Char) :
    digits ++ List.replicate n '0' ≠ '0' :: d :: ds := by
  intro heq
  obtain ⟨first, more, rfl⟩ := List.exists_cons_of_ne_nil hdigits.ne_nil
  obtain ⟨rfl, hmore⟩ := List.cons.inj heq
  cases more with
  | nil =>
    rw [hzero rfl] at hmore
    cases hmore
  | cons next more => exact hfront next more rfl

theorem front_take {digits : List Char} (hfront : ∀ d ds, digits ≠ '0' :: d :: ds) (n : Nat) (d : Char)
    (ds : List Char) : digits.take n ≠ '0' :: d :: ds := by
  intro heq
  have hwhole := List.take_append_drop n digits
  rw [heq] at hwhole
  exact hfront d _ hwhole.symm

/-- Every layout of digits is the text of a number that has a mark. -/
theorem apply_eq_chars {d : Digits} (h : d.value = 0 → d.exponent = 0) :
    ∃ t : NumberText, t.Legal ∧ t.Marked ∧ Layout.json.apply d = t.chars := by
  have hdigits := isDigits_ofNat d.value
  have hfront := front_ofNat d.value
  -- a zero is laid out without a power of ten, so no other zero is put behind it
  have hzero : Decimal.ofNat d.value = ['0'] → d.exponent.toNat = 0 := by
    intro hdigit
    have hvalue := Decimal.valueFrom_ofNat d.value
    rw [hdigit] at hvalue
    rw [h hvalue.symm]
    rfl
  unfold Layout.apply
  generalize Decimal.ofNat d.value = digits at hdigits hfront hzero
  have hlength : 0 < digits.length := List.length_pos_iff.2 hdigits.ne_nil
  dsimp only
  split
  · exact scientific hdigits _
  split
  · exact positional ⟨by simp [hdigits.ne_nil],
      List.forall_mem_append.2 ⟨hdigits.isDigit, fun _ => isDigit_of_mem_zeros⟩⟩
      (front_append_zeros hdigits hfront hzero) isDigits_zero
  next hexponent =>
  split
  · next hleading =>
    refine positional ⟨?_, fun c hc => hdigits.isDigit c (List.mem_of_mem_take hc)⟩ (front_take hfront _)
      ⟨?_, fun c hc => hdigits.isDigit c (List.mem_of_mem_drop hc)⟩
    · rw [ne_eq, List.take_eq_nil_iff, not_or]
      exact ⟨by omega, hdigits.ne_nil⟩
    · rw [ne_eq, List.drop_eq_nil_iff]
      omega
  · exact positional isDigits_zero (by simp) ⟨by simp [hdigits.ne_nil],
      List.forall_mem_append.2 ⟨fun _ => isDigit_of_mem_zeros, hdigits.isDigit⟩⟩

/-- The number that the text of a number is read as, when the text is not taken for one beyond the largest. -/
def reread? (x : Binary64) : Option Binary64 :=
  match Json.readNumber x.toChars with
  | some (.float y, _) => y
  | _ => none

end Binary64

namespace Json

/-- The text of a binary64 number is read as one, whatever may follow a value. -/
theorem readNumber_toChars (x : Binary64) {rest : List Char} (hrest : Follows rest) :
    readNumber (x.toChars ++ rest) = some (.float x.reread?, rest) := by
  obtain ⟨t, hlegal, hmarked, hchars⟩ := Binary64.apply_eq_chars x.exponent_shortest
  obtain ⟨y, hparts⟩ := ofParts_of_marked hmarked x.negative
  -- the parts do not depend on what follows, so the text alone is read as the same number
  have hread : ∀ rest, Follows rest → readNumber (x.toChars ++ rest) = some (.float y, rest) := by
    intro rest hrest
    obtain ⟨hplain, hminus⟩ := readNumber_chars hlegal hrest
    unfold Binary64.toChars
    rw [hchars]
    cases hnegative : x.negative with
    | false =>
      rw [hnegative] at hparts
      simpa [hparts] using hplain
    | true =>
      rw [hnegative] at hparts
      simpa [hparts] using hminus
  have halone := hread [] follows_nil
  rw [List.append_nil] at halone
  rw [hread rest hrest, Binary64.reread?, halone]

end Json

end FuzzCampaign
