import FuzzCampaign.Number.Decimal
import Mathlib.Logic.Basic
set_option autoImplicit false

/-! # The text of numbers

Which characters the text of a number is made of, and what it says about the number: the digits of a natural
number read back as it, so no two integers have one text, and no integer has the text of a binary64 number,
which always has a point or a power of ten. -/

namespace FuzzCampaign

namespace Decimal

/-! ## Digits -/

theorem isDigit_digitChar {d : Nat} (h : d < 10) : (digitChar d).isDigit = true := by
  have hall : ∀ d, d < 10 → (digitChar d).isDigit = true := by decide
  exact hall d h

theorem toNat_digitChar {d : Nat} (h : d < 10) : (digitChar d).toNat - 48 = d := by
  have hall : ∀ d, d < 10 → (digitChar d).toNat - 48 = d := by decide
  exact hall d h

theorem isDigit_of_mem_ofNat {n : Nat} {c : Char} (h : c ∈ ofNat n) : c.isDigit = true := by
  induction n using ofNat.induct with
  | case1 n hsmall =>
    rw [ofNat, if_pos hsmall, List.mem_singleton] at h
    exact h ▸ isDigit_digitChar hsmall
  | case2 n hlarge ih =>
    rw [ofNat, if_neg hlarge, List.mem_append, List.mem_singleton] at h
    rcases h with h | rfl
    · exact ih h
    · exact isDigit_digitChar (Nat.mod_lt n (by decide))

theorem ofNat_ne_nil (n : Nat) : ofNat n ≠ [] := by
  rw [ofNat]
  split <;> simp

/-- Reading the digits of a number gives the number. -/
theorem valueFrom_ofNat (n : Nat) : valueFrom 0 (ofNat n) = n := by
  induction n using ofNat.induct with
  | case1 n hsmall =>
    rw [ofNat, if_pos hsmall]
    simp [valueFrom, toNat_digitChar hsmall]
  | case2 n hlarge ih =>
    have hdigit := toNat_digitChar (Nat.mod_lt n (show 0 < 10 by decide))
    rw [ofNat, if_neg hlarge]
    simp only [valueFrom, List.foldl_append, List.foldl_cons, List.foldl_nil] at ih ⊢
    rw [ih, hdigit]
    omega

theorem ofNat_injective {m n : Nat} (h : ofNat m = ofNat n) : m = n := by
  rw [← valueFrom_ofNat m, h, valueFrom_ofNat]

/-! ## Integers -/

theorem mem_ofInt {n : Int} {c : Char} (h : c ∈ ofInt n) : c.isDigit = true ∨ c = '-' := by
  unfold ofInt at h
  split at h
  · rcases List.mem_cons.1 h with h | h
    · exact Or.inr h
    · exact Or.inl (isDigit_of_mem_ofNat h)
  · exact Or.inl (isDigit_of_mem_ofNat h)

theorem ofInt_ne_nil (n : Int) : ofInt n ≠ [] := by
  unfold ofInt
  split
  · exact List.cons_ne_nil _ _
  · exact ofNat_ne_nil _

/-- The text of a natural number does not begin with a sign. -/
theorem ofNat_ne_signed (m n : Nat) : '-' :: ofNat m ≠ ofNat n := by
  intro h
  have hminus : '-' ∈ ofNat n := h ▸ List.mem_cons_self
  exact absurd (isDigit_of_mem_ofNat hminus) (by decide)

theorem ofInt_injective {m n : Int} (h : ofInt m = ofInt n) : m = n := by
  unfold ofInt at h
  split at h <;> split at h
  · have habs := ofNat_injective (List.cons.inj h).2
    omega
  · exact absurd h (ofNat_ne_signed _ _)
  · exact absurd h.symm (ofNat_ne_signed _ _)
  · have habs := ofNat_injective h
    omega

end Decimal

namespace Binary64

/-! ## Binary64 numbers -/

/-- The characters of numbers. -/
def isTextChar (c : Char) : Bool := c.isDigit || c == '.' || c == 'e' || c == '+' || c == '-'

/-- Made of the characters of numbers. -/
def OfTextChars (cs : List Char) : Prop := ∀ c ∈ cs, isTextChar c = true

/-- A point or a power of ten. -/
def HasMark (cs : List Char) : Prop := '.' ∈ cs ∨ 'e' ∈ cs

theorem HasMark.ne_nil {cs : List Char} (h : HasMark cs) : cs ≠ [] := by
  rintro rfl
  simp [HasMark] at h

theorem isTextChar_of_isDigit {c : Char} (h : c.isDigit = true) : isTextChar c = true := by
  simp [isTextChar, h]

@[simp] theorem ofTextChars_nil : OfTextChars [] := by simp [OfTextChars]

@[simp] theorem ofTextChars_cons {c : Char} {cs : List Char} :
    OfTextChars (c :: cs) ↔ isTextChar c = true ∧ OfTextChars cs := List.forall_mem_cons

@[simp] theorem ofTextChars_append {cs ds : List Char} :
    OfTextChars (cs ++ ds) ↔ OfTextChars cs ∧ OfTextChars ds := List.forall_mem_append

theorem ofTextChars_ofNat (n : Nat) : OfTextChars (Decimal.ofNat n) :=
  fun _ h => isTextChar_of_isDigit (Decimal.isDigit_of_mem_ofNat h)

theorem ofTextChars_zeros (n : Nat) : OfTextChars (List.replicate n '0') := by
  intro c h
  rw [List.eq_of_mem_replicate h]
  rfl

theorem OfTextChars.take {cs : List Char} (h : OfTextChars cs) (n : Nat) : OfTextChars (cs.take n) :=
  fun c hc => h c (List.mem_of_mem_take hc)

theorem OfTextChars.drop {cs : List Char} (h : OfTextChars cs) (n : Nat) : OfTextChars (cs.drop n) :=
  fun c hc => h c (List.mem_of_mem_drop hc)

theorem ofTextChars_ofInt (n : Int) : OfTextChars (Decimal.ofInt n) := by
  intro c h
  rcases Decimal.mem_ofInt h with h | rfl
  · exact isTextChar_of_isDigit h
  · rfl

/-- The text of an integer has no mark. -/
theorem not_hasMark_ofInt (n : Int) : ¬ HasMark (Decimal.ofInt n) := by
  rintro (h | h)
  · exact absurd (Decimal.mem_ofInt h) (by decide)
  · exact absurd (Decimal.mem_ofInt h) (by decide)

/-- Every layout of a number has a mark. -/
theorem hasMark_apply (layout : Layout) (d : Digits) : HasMark (layout.apply d) := by
  unfold Layout.apply
  dsimp only
  split
  · exact Or.inr (by simp)
  · split
    · exact Or.inl (by simp)
    · split
      · exact Or.inl (by simp)
      · exact Or.inl (by simp)

theorem ofTextChars_apply (d : Digits) : OfTextChars (Layout.json.apply d) := by
  have hdigits := ofTextChars_ofNat d.value
  have hpoint : isTextChar '.' = true := rfl
  have hpower : isTextChar 'e' = true := rfl
  unfold Layout.apply
  dsimp only
  split
  · have htail : OfTextChars (if ((Decimal.ofNat d.value).drop 1).isEmpty then []
        else '.' :: (Decimal.ofNat d.value).drop 1) := by
      split
      · exact ofTextChars_nil
      · exact ofTextChars_cons.2 ⟨hpoint, hdigits.drop 1⟩
    refine ofTextChars_append.2 ⟨ofTextChars_append.2 ⟨hdigits.take 1, htail⟩, ofTextChars_cons.2 ⟨hpower, ?_⟩⟩
    split
    · exact ofTextChars_cons.2 ⟨rfl, ofTextChars_ofNat _⟩
    · exact ofTextChars_cons.2 ⟨rfl, ofTextChars_ofNat _⟩
  · split
    · exact ofTextChars_append.2 ⟨ofTextChars_append.2 ⟨hdigits, ofTextChars_zeros _⟩, by simp [isTextChar]⟩
    · split
      · exact ofTextChars_append.2 ⟨hdigits.take _, ofTextChars_cons.2 ⟨hpoint, hdigits.drop _⟩⟩
      · exact ofTextChars_append.2
          ⟨ofTextChars_cons.2 ⟨rfl, ofTextChars_cons.2 ⟨hpoint, ofTextChars_zeros _⟩⟩, hdigits⟩

/-- The text of a binary64 number is made of digits, points, powers of ten and signs, and has a mark that the
text of an integer has not. -/
theorem toChars_text (x : Binary64) : OfTextChars x.toChars ∧ HasMark x.toChars := by
  have hchars := ofTextChars_apply x.shortest
  have hmark := hasMark_apply Layout.json x.shortest
  unfold toChars
  dsimp only
  split
  · exact ⟨ofTextChars_cons.2 ⟨rfl, hchars⟩, hmark.imp (List.mem_cons_of_mem _) (List.mem_cons_of_mem _)⟩
  · exact ⟨hchars, hmark⟩

theorem display_of_isFinite {x : Binary64} (h : x.isFinite = true) : x.display = String.ofList x.toChars := by
  have hfield : x.exponentField ≠ 2047 := by simpa [isFinite] using h
  simp [display, isNaN, isInfinite, hfield]

theorem display_of_not_isFinite {x : Binary64} (h : x.isFinite = false) :
    x.display = "NaN" ∨ x.display = "inf" ∨ x.display = "-inf" := by
  have hfield : x.exponentField = 2047 := by simpa [isFinite] using h
  unfold display isNaN isInfinite
  by_cases hfraction : x.fraction = 0
  · cases x.negative <;> simp [hfield, hfraction]
  · simp [hfield, hfraction]

/-- No number that is not finite is shown as a finite one is. -/
theorem display_eq_iff {x y : Binary64} (hx : x.isFinite = true) :
    x.display = y.display ↔ y.isFinite = true ∧ x.toChars = y.toChars := by
  rw [display_of_isFinite hx]
  cases hy : y.isFinite with
  | true => simp [display_of_isFinite hy, String.ofList_inj]
  | false =>
    have hchars := (toChars_text x).1
    have hother : ∀ text : String, String.ofList x.toChars = text → OfTextChars text.toList := by
      rintro _ rfl
      rwa [String.toList_ofList]
    refine ⟨fun h => ?_, fun h => absurd h.1 (by decide)⟩
    have hshown := hother _ h
    rcases display_of_not_isFinite hy with hname | hname | hname <;> rw [hname] at hshown
    · exact absurd (hshown 'N' (by decide)) (by decide)
    · exact absurd (hshown 'i' (by decide)) (by decide)
    · exact absurd (hshown 'i' (by decide)) (by decide)

end Binary64

end FuzzCampaign
