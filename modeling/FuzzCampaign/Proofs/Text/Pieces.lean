import FuzzCampaign.Text.Blank
set_option autoImplicit false

/-! # Pieces between separators

How `splitAll` cuts a list: what follows a list without a separator in it only lengthens the last piece,
and a separator begins a new one. -/

namespace FuzzCampaign.Text

section
variable {α : Type} [BEq α] {separator : α}

theorem splitAll_go (items piece : List α) :
    splitAll.go separator items piece = (splitAll separator items).modifyHead (piece.reverse ++ ·) := by
  induction items generalizing piece with
  | nil => simp [splitAll, splitAll.go]
  | cons x rest ih =>
    rw [splitAll, splitAll.go, splitAll.go]
    split
    · simp
    · rw [ih, ih [x], List.modifyHead_modifyHead]
      congr 1
      funext rest
      simp

@[simp]
theorem splitAll_nil : splitAll separator [] = [[]] := rfl

variable [LawfulBEq α]

@[simp]
theorem splitAll_cons_separator (rest : List α) :
    splitAll separator (separator :: rest) = [] :: splitAll separator rest := by
  simp [splitAll, splitAll.go]

theorem splitAll_cons {x : α} (hx : x ≠ separator) (rest : List α) :
    splitAll separator (x :: rest) = (splitAll separator rest).modifyHead (x :: ·) := by
  rw [splitAll, splitAll.go, if_neg (by simpa using hx), splitAll_go]
  rfl

@[simp]
theorem splitAll_ne_nil (items : List α) : splitAll separator items ≠ [] := by
  induction items with
  | nil => simp
  | cons x rest ih =>
    by_cases hx : x = separator
    · subst hx
      simp
    · rw [splitAll_cons hx]
      simpa using ih

theorem splitAll_eq_singleton {items : List α} (h : separator ∉ items) :
    splitAll separator items = [items] := by
  induction items with
  | nil => rfl
  | cons x rest ih =>
    rw [List.mem_cons, not_or] at h
    rw [splitAll_cons (Ne.symm h.1), ih h.2]
    rfl

/-- What follows without a separator lengthens the last piece. -/
theorem splitAll_append {items : List α} {whole : List (List α)} {last : List α}
    (h : splitAll separator items = whole ++ [last]) {more : List α} (hmore : separator ∉ more) :
    splitAll separator (items ++ more) = whole ++ [last ++ more] := by
  induction items generalizing whole last with
  | nil =>
    obtain ⟨rfl, rfl⟩ : whole = [] ∧ last = [] := by
      rw [splitAll_nil, ← List.nil_append [[]]] at h
      have := List.append_inj' h rfl
      simpa [eq_comm] using this
    simpa using splitAll_eq_singleton hmore
  | cons x rest ih =>
    rw [List.cons_append]
    by_cases hx : x = separator
    · subst hx
      rw [splitAll_cons_separator] at h ⊢
      cases whole with
      | nil =>
        have hnone : splitAll x rest = [] := (List.cons.inj h).2
        exact absurd hnone (splitAll_ne_nil rest)
      | cons first whole =>
        obtain ⟨rfl, hwhole⟩ := List.cons.inj h
        rw [ih hwhole, List.cons_append]
    · rw [splitAll_cons hx] at h ⊢
      cases hrest : splitAll separator rest with
      | nil => exact absurd hrest (splitAll_ne_nil rest)
      | cons first pieces =>
        rw [hrest, List.modifyHead_cons] at h
        cases whole with
        | nil =>
          obtain ⟨rfl, rfl⟩ := List.cons.inj h
          rw [ih (hrest.trans (List.nil_append _).symm)]
          rfl
        | cons head whole =>
          obtain ⟨rfl, rfl⟩ := List.cons.inj h
          rw [ih (hrest.trans (List.cons_append).symm)]
          rfl

/-- A separator ends a piece. -/
theorem splitAll_append_separator (items rest : List α) :
    splitAll separator (items ++ separator :: rest) =
      splitAll separator items ++ splitAll separator rest := by
  induction items with
  | nil => simp
  | cons x items ih =>
    rw [List.cons_append]
    by_cases hx : x = separator
    · subst hx
      rw [splitAll_cons_separator, splitAll_cons_separator, ih, List.cons_append]
    · rw [splitAll_cons hx, splitAll_cons hx, ih]
      cases hitems : splitAll separator items with
      | nil => exact absurd hitems (splitAll_ne_nil items)
      | cons first pieces => rfl

/-- Pieces without a separator in them, each ended by one, are told apart by the separators. -/
theorem splitAll_flatMap {pieces : List (List α)} (h : ∀ piece ∈ pieces, separator ∉ piece) :
    splitAll separator (pieces.flatMap (· ++ [separator])) = pieces ++ [[]] := by
  induction pieces with
  | nil => rfl
  | cons piece rest ih =>
    obtain ⟨hpiece, hrest⟩ := List.forall_mem_cons.1 h
    rw [List.flatMap_cons, List.append_assoc, List.singleton_append, splitAll_append_separator,
      splitAll_eq_singleton hpiece, ih hrest]
    rfl

/-- A piece stands somewhere in the list, and no separator in it. -/
theorem splitAll_mem {items piece : List α} (h : piece ∈ splitAll separator items) :
    piece <:+: items ∧ separator ∉ piece := by
  suffices hboth : (∀ p ∈ splitAll separator items, separator ∉ p) ∧
      (∀ p ∈ (splitAll separator items).head?, p <+: items) ∧
      ∀ p ∈ splitAll separator items, p <:+: items from ⟨hboth.2.2 piece h, hboth.1 piece h⟩
  clear h
  induction items with
  | nil => simp
  | cons x rest ih =>
    obtain ⟨ihfree, ihfront, ihwithin⟩ := ih
    by_cases hx : x = separator
    · subst hx
      rw [splitAll_cons_separator]
      simp only [List.mem_cons, forall_eq_or_imp, List.head?_cons, Option.mem_def, Option.some.injEq,
        forall_eq', List.not_mem_nil, not_false_eq_true, true_and, List.nil_prefix, List.nil_infix]
      exact ⟨ihfree, fun p hp => (ihwithin p hp).trans (List.suffix_cons x rest).isInfix⟩
    · rw [splitAll_cons hx]
      cases hrest : splitAll separator rest with
      | nil => exact absurd hrest (splitAll_ne_nil rest)
      | cons first pieces =>
        rw [hrest] at ihfree ihfront ihwithin
        have hfront : x :: first <+: x :: rest := by simpa using ihfront first rfl
        simp only [List.modifyHead_cons, List.mem_cons, forall_eq_or_imp, List.head?_cons,
          Option.mem_def, Option.some.injEq, forall_eq', not_or] at ihfree ihwithin ⊢
        exact ⟨⟨⟨Ne.symm hx, ihfree.1⟩, ihfree.2⟩, hfront, hfront.isInfix,
          fun p hp => (ihwithin.2 p hp).trans (List.suffix_cons x rest).isInfix⟩

/-- The last piece is empty when nothing follows the last separator. -/
theorem getLast?_splitAll_eq_nil_iff (items : List α) :
    (splitAll separator items).getLast? = some [] ↔ items = [] ∨ items.getLast? = some separator := by
  rcases List.eq_nil_or_concat items with rfl | ⟨init, x, rfl⟩
  · simp
  · rw [List.concat_eq_append]
    by_cases hx : x = separator
    · subst hx
      simp [splitAll_append_separator]
    · obtain ⟨whole, last, hinit⟩ : ∃ whole last, splitAll separator init = whole ++ [last] :=
        ⟨_, _, (List.dropLast_concat_getLast (splitAll_ne_nil init)).symm⟩
      rw [splitAll_append hinit (by simpa using Ne.symm hx)]
      simp [hx]

end

/-! ## Lines -/

/-- A text has a line unless it is empty. -/
theorem lines_ne_nil {text : String} (h : text ≠ "") : lines text ≠ [] := by
  have hitems : text.toList ≠ [] := by simpa using h
  unfold lines
  dsimp only
  split
  · next hlast =>
    -- nothing follows the last line feed, so there is one, and a line ends there
    have hempty : (splitAll '\n' text.toList).getLast? = some [] := by
      cases hget : (splitAll '\n' text.toList).getLast? with
      | none => exact absurd (List.getLast?_eq_none_iff.1 hget) (splitAll_ne_nil _)
      | some last => simpa [hget] using hlast
    have hfeed := ((getLast?_splitAll_eq_nil_iff _).1 hempty).resolve_left hitems
    obtain ⟨init, hinit⟩ := List.getLast?_eq_some_iff.1 hfeed
    rw [hinit, splitAll_append_separator]
    simp
  · simp

end FuzzCampaign.Text
