import FuzzCampaign.Proofs.Json.NumberText
import FuzzCampaign.Proofs.Json.Print
set_option autoImplicit false

/-! # Printed values are read back

The text of a value is read as a term that the value tells (`Json.reread`), whatever may follow a value in a
document stands behind it. The term is the one that the value is written as (`Json.toTerm`) but for its floats,
whose shortest digits are read with a rounding of their own (`Binary64.reread?`). The induction is on the
containers that the reader has room for, since elements and members are read with room for one less; a list is
read by one reader for all its elements (`ReadsBack`), and so needs an induction of its own on the elements
only. -/

namespace FuzzCampaign

namespace Json

open Binary64 (isTextChar)

/-! ## The document of a value -/

mutual

/-- The value as it is written. -/
def toTerm : Json → Term
  | .null => .null
  | .bool b => .bool b
  | .int n => .int n
  | .float x => .float (some x)
  | .str s => .str (some s)
  | .arr items => .arr (itemTerms items)
  | .obj members => .obj (memberTerms members)

/-- Elements as they are written. -/
def itemTerms : List Json → List Term
  | [] => []
  | item :: rest => item.toTerm :: itemTerms rest

/-- Members as they are written. -/
def memberTerms : List (String × Json) → List (Option String × Term)
  | [] => []
  | (key, value) :: rest => (some key, value.toTerm) :: memberTerms rest

end

mutual

/-- No number in it is a float. -/
def floatless : Json → Bool
  | .float _ => false
  | .arr items => floatlessItems items
  | .obj members => floatlessMembers members
  | _ => true

/-- No element has a float in it. -/
def floatlessItems : List Json → Bool
  | [] => true
  | item :: rest => item.floatless && floatlessItems rest

/-- No member has a float in it. -/
def floatlessMembers : List (String × Json) → Bool
  | [] => true
  | (_, value) :: rest => value.floatless && floatlessMembers rest

end

mutual

/-- The value as its text is read. -/
def reread : Json → Term
  | .null => .null
  | .bool b => .bool b
  | .int n => .int n
  | .float x => .float x.reread?
  | .str s => .str (some s)
  | .arr items => .arr (rereadItems items)
  | .obj members => .obj (rereadMembers members)

/-- Elements as their text is read. -/
def rereadItems : List Json → List Term
  | [] => []
  | item :: rest => item.reread :: rereadItems rest

/-- Members as their text is read. -/
def rereadMembers : List (String × Json) → List (Option String × Term)
  | [] => []
  | (key, value) :: rest => (some key, value.reread) :: rereadMembers rest

end

mutual

/-- Without floats a value is read as it is written. -/
theorem reread_eq_toTerm {v : Json} (h : v.floatless = true) : v.reread = v.toTerm := by
  cases v with
  | arr items => rw [reread, toTerm, rereadItems_eq_itemTerms h]
  | obj members => rw [reread, toTerm, rereadMembers_eq_memberTerms h]
  | float x => cases h
  | null | bool | int | str => rfl

theorem rereadItems_eq_itemTerms {items : List Json} (h : floatlessItems items = true) :
    rereadItems items = itemTerms items := by
  cases items with
  | nil => rfl
  | cons item rest =>
    rw [floatlessItems, Bool.and_eq_true] at h
    rw [rereadItems, itemTerms, reread_eq_toTerm h.1, rereadItems_eq_itemTerms h.2]

theorem rereadMembers_eq_memberTerms {members : List (String × Json)} (h : floatlessMembers members = true) :
    rereadMembers members = memberTerms members := by
  cases members with
  | nil => rfl
  | cons member rest =>
    obtain ⟨key, value⟩ := member
    rw [floatlessMembers, Bool.and_eq_true] at h
    rw [rereadMembers, memberTerms, reread_eq_toTerm h.1, rereadMembers_eq_memberTerms h.2]

end

/-! ## Where a value begins -/

theorem skipSpace_cons {c : Char} (h : isSpace c = false) (cs : List Char) : skipSpace (c :: cs) = c :: cs := by
  rw [skipSpace, List.dropWhile_cons_of_neg (by rw [h]; exact Bool.false_ne_true)]

theorem isSpace_of_isTextChar {c : Char} (h : isTextChar c = true) : isSpace c = false := by
  rw [← Bool.not_eq_true]
  intro hspace
  simp only [isSpace, Bool.or_eq_true, beq_iff_eq, or_assoc] at hspace
  rcases hspace with rfl | rfl | rfl | rfl <;> exact absurd h (by decide)

/-- No text begins with a blank or a closing bracket. -/
theorem print_front (v : Json) : ∃ c cs, v.print = c :: cs ∧ isSpace c = false ∧ c ≠ ']' := by
  obtain ⟨c, cs, hprint, hlead | ⟨-, hchar⟩⟩ := head_print v
  · refine ⟨c, cs, hprint, ?_⟩
    cases v with
    | int | float => cases hlead
    | bool b => cases b <;> cases hlead <;> decide
    | null | str | arr | obj => cases hlead; decide
  · refine ⟨c, cs, hprint, isSpace_of_isTextChar hchar, ?_⟩
    rintro rfl
    exact absurd hchar (by decide)

theorem readTerm_number (room : Nat) {c : Char} (h : isTextChar c = true) (cs : List Char) :
    readTerm room (c :: cs) = readNumber (c :: cs) := by
  rw [readTerm.eq_def, skipSpace_cons (isSpace_of_isTextChar h)]
  split
  case h_7 => rfl
  all_goals
    next heq =>
    obtain ⟨rfl, -⟩ := List.cons.inj heq
    exact absurd h (by decide)

/-! ## Elements and members -/

/-- A reader that reads back the text of a value, whatever follows a value. -/
def ReadsBack (read : List Char → Option (Term × List Char)) (v : Json) : Prop :=
  ∀ rest, Follows rest → read (v.print ++ rest) = some (v.reread, rest)

theorem follows_itemsTail (items : List Json) (rest : List Char) : Follows (itemsTail items ++ rest) := by
  cases items <;> exact follows_cons (by decide)

theorem follows_membersTail (members : List (String × Json)) (rest : List Char) :
    Follows (membersTail members ++ rest) := by
  cases members <;> exact follows_cons (by decide)

section
variable {read : List Char → Option (Term × List Char)}

/-- The elements of a list are read one after the other. -/
theorem readItems_printItems {items : List Json} (hne : items ≠ []) (hread : ∀ item ∈ items, ReadsBack read item)
    (fuel : Nat) (hfuel : items.length ≤ fuel) (before : List Term) (rest : List Char) :
    readItems read fuel (printItems items ++ rest) before = some (before.reverse ++ rereadItems items, rest) := by
  induction items generalizing fuel before with
  | nil => exact absurd rfl hne
  | cons item more ih =>
    obtain ⟨fuel, rfl⟩ := Nat.exists_eq_add_of_lt (Nat.lt_of_lt_of_le (Nat.succ_pos _) hfuel)
    rw [List.forall_mem_cons] at hread
    rw [Nat.zero_add, readItems, printItems_cons, List.append_assoc, hread.1 _ (follows_itemsTail more rest)]
    dsimp only
    cases more with
    | nil =>
      rw [itemsTail, List.singleton_append, skipSpace_cons rfl]
      simp [rereadItems]
    | cons next more =>
      rw [itemsTail, List.cons_append, skipSpace_cons rfl]
      show readItems read fuel (printItems (next :: more) ++ rest) (item.reread :: before) = _
      rw [ih (List.cons_ne_nil _ _) hread.2 fuel (by simpa using hfuel)]
      simp [rereadItems]

/-- The members of an object are read one after the other. -/
theorem readMembers_printMembers {members : List (String × Json)} (hne : members ≠ [])
    (hread : ∀ member ∈ members, ReadsBack read member.2) (fuel : Nat) (hfuel : members.length ≤ fuel)
    (before : List (Option String × Term)) (rest : List Char) :
    readMembers read fuel (printMembers members ++ rest) before =
      some (before.reverse ++ rereadMembers members, rest) := by
  induction members generalizing fuel before with
  | nil => exact absurd rfl hne
  | cons member more ih =>
    obtain ⟨key, value⟩ := member
    obtain ⟨fuel, rfl⟩ := Nat.exists_eq_add_of_lt (Nat.lt_of_lt_of_le (Nat.succ_pos _) hfuel)
    rw [List.forall_mem_cons] at hread
    obtain ⟨cs, hkey, htext⟩ := readText_printText key (':' :: (value.print ++ (membersTail more ++ rest)))
    rw [Nat.zero_add, readMembers, printMembers_cons, List.append_assoc, List.cons_append, List.append_assoc, hkey,
      skipSpace_cons rfl]
    simp only [htext, skipSpace_cons (c := ':') rfl, hread.1 _ (follows_membersTail more rest)]
    cases more with
    | nil =>
      rw [membersTail, List.singleton_append, skipSpace_cons rfl]
      simp [rereadMembers]
    | cons next more =>
      rw [membersTail, List.cons_append, skipSpace_cons rfl]
      show readMembers read fuel (printMembers (next :: more) ++ rest) ((key, value.reread) :: before) = _
      rw [ih (List.cons_ne_nil _ _) hread.2 fuel (by simpa using hfuel)]
      simp [rereadMembers]

end

/-! ## Values -/

theorem length_le_printItems (items : List Json) : items.length ≤ (printItems items).length := by
  induction items with
  | nil => exact Nat.zero_le _
  | cons item rest ih =>
    rw [printItems_cons]
    cases rest with
    | nil => simp [itemsTail]
    | cons next rest =>
      simp only [itemsTail, List.length_append, List.length_cons] at ih ⊢
      omega

theorem length_le_printMembers (members : List (String × Json)) : members.length ≤ (printMembers members).length := by
  induction members with
  | nil => exact Nat.zero_le _
  | cons member rest ih =>
    obtain ⟨key, value⟩ := member
    rw [printMembers_cons]
    cases rest with
    | nil =>
      simp only [membersTail, List.length_append, List.length_cons, List.length_nil]
      omega
    | cons next rest =>
      simp only [membersTail, List.length_append, List.length_cons] at ih ⊢
      omega

theorem floatlessItems_iff {items : List Json} :
    floatlessItems items = true ↔ ∀ item ∈ items, item.floatless = true := by
  induction items with
  | nil => simp [floatlessItems]
  | cons item rest ih => rw [floatlessItems, Bool.and_eq_true, ih, List.forall_mem_cons]

theorem floatlessMembers_iff {members : List (String × Json)} :
    floatlessMembers members = true ↔ ∀ member ∈ members, member.2.floatless = true := by
  induction members with
  | nil => simp [floatlessMembers]
  | cons member rest ih => rw [floatlessMembers, Bool.and_eq_true, ih, List.forall_mem_cons]

theorem depth_le_depthItems {items : List Json} : ∀ item ∈ items, item.depth ≤ depthItems items := by
  induction items with
  | nil => simp
  | cons item rest ih =>
    rw [depthItems]
    exact List.forall_mem_cons.2 ⟨Nat.le_max_left _ _, fun i hi => Nat.le_trans (ih i hi) (Nat.le_max_right _ _)⟩

/-- Members nest as deep as their values. -/
theorem depthMembers_eq (members : List (String × Json)) : depthMembers members = depthItems (members.map Prod.snd) := by
  induction members with
  | nil => rfl
  | cons member rest ih => rw [depthMembers, List.map_cons, depthItems, ih]

theorem depth_le_depthMembers {members : List (String × Json)} :
    ∀ member ∈ members, member.2.depth ≤ depthMembers members := by
  intro member hmember
  rw [depthMembers_eq]
  exact depth_le_depthItems member.2 (List.mem_map_of_mem hmember)

/-- The text of a number is read as the number is. -/
theorem readsBack_number (room : Nat) {v : Json} (hchars : Binary64.OfTextChars v.print)
    (hne : v.print ≠ [])
    (hread : ∀ rest, Follows rest → readNumber (v.print ++ rest) = some (v.reread, rest)) :
    ReadsBack (readTerm room) v := by
  intro rest hrest
  have hnumber := hread rest hrest
  obtain ⟨c, cs, hprint⟩ := List.exists_cons_of_ne_nil hne
  rw [hprint] at hchars
  rw [hprint, List.cons_append] at hnumber ⊢
  rw [readTerm_number room (Binary64.ofTextChars_cons.1 hchars).1, hnumber]

/-- A value without containers is read in any room. -/
theorem readsBack_scalar {v : Json} (hdepth : v.depth = 0) (room : Nat) : ReadsBack (readTerm room) v := by
  cases v with
  | null =>
    intro rest _
    rw [readTerm.eq_def]
    rfl
  | bool b =>
    intro rest _
    cases b <;> (rw [readTerm.eq_def]; rfl)
  | int n =>
    exact readsBack_number room (Binary64.ofTextChars_ofInt n.val) (Decimal.ofInt_ne_nil n.val)
      fun rest => readNumber_ofInt n
  | float x =>
    obtain ⟨hchars, hmark⟩ := Binary64.toChars_text x
    exact readsBack_number room hchars hmark.ne_nil fun rest => readNumber_toChars x
  | str s =>
    intro rest _
    obtain ⟨cs, hprint, hread⟩ := readText_printText s rest
    rw [print, hprint, readTerm.eq_def, skipSpace_cons rfl]
    simp only [hread, Option.map_some, reread]
  | arr items => cases hdepth
  | obj members => cases hdepth

/-- The text of a list with elements, after its bracket. -/
theorem readTerm_arr (room : Nat) {items : List Json} (hne : items ≠ []) (rest : List Char) :
    readTerm (room + 1) ((arr items).print ++ rest) =
      (readItems (readTerm room) ((printItems items ++ rest).length + 1) (printItems items ++ rest) []).map
        fun (items, rest) => (.arr items, rest) := by
  obtain ⟨item, more, rfl⟩ := List.exists_cons_of_ne_nil hne
  obtain ⟨c, cs, hprint, hspace, hbracket⟩ := print_front item
  have hfront : printItems (item :: more) ++ rest = c :: (cs ++ (itemsTail more ++ rest)) := by
    rw [printItems_cons, hprint, List.append_assoc, List.cons_append]
  rw [print, readTerm.eq_def, List.cons_append, skipSpace_cons rfl]
  dsimp only
  rw [hfront]
  simp only [skipSpace_cons hspace]
  split
  · next heq => exact absurd (List.cons.inj heq).1 hbracket
  · rfl

/-- The text of an object with members, after its brace. -/
theorem readTerm_obj (room : Nat) {members : List (String × Json)} (hne : members ≠ []) (rest : List Char) :
    readTerm (room + 1) ((obj members).print ++ rest) =
      (readMembers (readTerm room) ((printMembers members ++ rest).length + 1) (printMembers members ++ rest) []).map
        fun (members, rest) => (.obj members, rest) := by
  obtain ⟨member, more, rfl⟩ := List.exists_cons_of_ne_nil hne
  have hfront : ∃ cs, printMembers (member :: more) ++ rest = '"' :: cs := by
    rw [printMembers_cons]
    exact ⟨_, rfl⟩
  obtain ⟨cs, hfront⟩ := hfront
  rw [print, readTerm.eq_def, List.cons_append, skipSpace_cons rfl]
  dsimp only
  rw [hfront]
  simp only [skipSpace_cons (c := '"') rfl]
  split
  · next heq => cases heq
  · rfl

theorem readsBack_arr {room : Nat} {items : List Json} (hread : ∀ item ∈ items, ReadsBack (readTerm room) item) :
    ReadsBack (readTerm (room + 1)) (.arr items) := by
  intro rest _
  by_cases hne : items = []
  · subst hne
    rw [readTerm.eq_def]
    rfl
  · have hlength := length_le_printItems items
    rw [readTerm_arr room hne, readItems_printItems hne hread _ (by rw [List.length_append]; omega)]
    rfl

theorem readsBack_obj {room : Nat} {members : List (String × Json)}
    (hread : ∀ member ∈ members, ReadsBack (readTerm room) member.2) :
    ReadsBack (readTerm (room + 1)) (.obj members) := by
  intro rest _
  by_cases hne : members = []
  · subst hne
    rw [readTerm.eq_def]
    rfl
  · have hlength := length_le_printMembers members
    rw [readTerm_obj room hne, readMembers_printMembers hne hread _ (by rw [List.length_append]; omega)]
    rfl

/-- **A printed value is read back by a reader with room for its containers.** -/
theorem readTerm_print {room : Nat} {v : Json} (hdepth : v.depth ≤ room) : ReadsBack (readTerm room) v := by
  induction room generalizing v with
  | zero => exact readsBack_scalar (Nat.le_zero.1 hdepth) 0
  | succ room ih =>
    cases v with
    | arr items =>
      rw [depth] at hdepth
      exact readsBack_arr fun item hitem =>
        ih (Nat.le_trans (depth_le_depthItems item hitem) (Nat.le_of_succ_le_succ hdepth))
    | obj members =>
      rw [depth] at hdepth
      exact readsBack_obj fun member hmember =>
        ih (Nat.le_trans (depth_le_depthMembers member hmember) (Nat.le_of_succ_le_succ hdepth))
    | null | bool | int | float | str => exact readsBack_scalar rfl (room + 1)

/-- The text of a document is read as the value tells. -/
theorem parse?_render_eq_reread {v : Json} (hdepth : v.depth ≤ maxDepth) : Term.parse? v.render = some v.reread := by
  have hread := readTerm_print hdepth [] follows_nil
  rw [List.append_nil] at hread
  rw [Term.parse?, render, String.toList_ofList, hread]
  rfl

/-- The text of a document is read as what was written. -/
theorem parse?_render {v : Json} (hfloat : v.floatless = true) (hdepth : v.depth ≤ maxDepth) :
    Term.parse? v.render = some v.toTerm := by
  rw [parse?_render_eq_reread hdepth, reread_eq_toTerm hfloat]

/-! ## Free JSON -/

mutual

/-- The members of every object are in order. -/
def ordered : Json → Bool
  | .arr items => orderedItems items
  | .obj members => decide (Entries.Sorted members) && orderedMembers members
  | _ => true

/-- Elements in order. -/
def orderedItems : List Json → Bool
  | [] => true
  | item :: rest => item.ordered && orderedItems rest

/-- Members whose values are in order. -/
def orderedMembers : List (String × Json) → Bool
  | [] => true
  | (_, value) :: rest => value.ordered && orderedMembers rest

end

mutual

/-- What is written has a value, and free JSON is its own value. -/
theorem value?_toTerm (v : Json) : ∃ w, v.toTerm.value? = some w ∧ (v.ordered = true → w = v) := by
  cases v with
  | arr items =>
    obtain ⟨ws, hvalues, hsame⟩ := itemValues?_itemTerms items
    refine ⟨.arr ws, by rw [toTerm, Term.value?, hvalues]; rfl, fun h => ?_⟩
    rw [hsame h]
  | obj members =>
    obtain ⟨ws, hvalues, hsame⟩ := memberValues?_memberTerms members
    refine ⟨.obj (Entries.ofList ws), by rw [toTerm, Term.value?, hvalues]; rfl, fun h => ?_⟩
    rw [ordered, Bool.and_eq_true, decide_eq_true_eq] at h
    rw [hsame h.2, Entries.ofList_of_sorted h.1]
  | null | bool | int | float | str => exact ⟨_, rfl, fun _ => rfl⟩

theorem itemValues?_itemTerms (items : List Json) :
    ∃ ws, itemValues? (itemTerms items) = some ws ∧ (orderedItems items = true → ws = items) := by
  cases items with
  | nil => exact ⟨[], rfl, fun _ => rfl⟩
  | cons item rest =>
    obtain ⟨w, hvalue, hsame⟩ := value?_toTerm item
    obtain ⟨ws, hvalues, hsames⟩ := itemValues?_itemTerms rest
    refine ⟨w :: ws, by rw [itemTerms, itemValues?, hvalue, hvalues], fun h => ?_⟩
    rw [orderedItems, Bool.and_eq_true] at h
    rw [hsame h.1, hsames h.2]

theorem memberValues?_memberTerms (members : List (String × Json)) :
    ∃ ws, memberValues? (memberTerms members) = some ws ∧ (orderedMembers members = true → ws = members) := by
  cases members with
  | nil => exact ⟨[], rfl, fun _ => rfl⟩
  | cons member rest =>
    obtain ⟨key, value⟩ := member
    obtain ⟨w, hvalue, hsame⟩ := value?_toTerm value
    obtain ⟨ws, hvalues, hsames⟩ := memberValues?_memberTerms rest
    refine ⟨(key, w) :: ws, by simp only [memberTerms, memberValues?, hvalue, hvalues], fun h => ?_⟩
    rw [orderedMembers, Bool.and_eq_true] at h
    rw [hsame h.1, hsames h.2]

end

theorem orderedMembers_iff {members : List (String × Json)} :
    orderedMembers members = true ↔ ∀ member ∈ members, member.2.ordered = true := by
  induction members with
  | nil => simp [orderedMembers]
  | cons member rest ih => rw [orderedMembers, Bool.and_eq_true, ih, List.forall_mem_cons]

mutual

/-- Free JSON is in order when it was read. -/
theorem ordered_of_value? (t : Term) {v : Json} (h : t.value? = some v) : v.ordered = true := by
  cases t with
  | arr items =>
    rw [Term.value?] at h
    obtain ⟨values, hvalues, rfl⟩ := Option.map_eq_some_iff.1 h
    exact orderedItems_of_itemValues? items hvalues
  | obj members =>
    rw [Term.value?] at h
    obtain ⟨values, hvalues, rfl⟩ := Option.map_eq_some_iff.1 h
    have hall := orderedMembers_iff.1 (orderedMembers_of_memberValues? members hvalues)
    rw [ordered, Bool.and_eq_true, decide_eq_true_eq, orderedMembers_iff]
    exact ⟨Entries.sorted_ofList values, fun member hmember => hall member (Entries.mem_ofList hmember)⟩
  | null | bool | int =>
    cases h
    rfl
  | float x | str x =>
    cases x with
    | none => cases h
    | some x =>
      cases h
      rfl

theorem orderedItems_of_itemValues? (items : List Term) {values : List Json} (h : itemValues? items = some values) :
    orderedItems values = true := by
  cases items with
  | nil =>
    cases h
    rfl
  | cons item rest =>
    rw [itemValues?] at h
    split at h
    · next hvalue hvalues =>
      cases h
      rw [orderedItems, ordered_of_value? item hvalue, orderedItems_of_itemValues? rest hvalues]
      rfl
    · cases h

theorem orderedMembers_of_memberValues? (members : List (Option String × Term)) {values : List (String × Json)}
    (h : memberValues? members = some values) : orderedMembers values = true := by
  cases members with
  | nil =>
    cases h
    rfl
  | cons member rest =>
    obtain ⟨key, value⟩ := member
    rw [memberValues?.eq_def] at h
    dsimp only at h
    split at h
    · next hvalue hvalues =>
      cases h
      rw [orderedMembers, ordered_of_value? value hvalue, orderedMembers_of_memberValues? rest hvalues]
      rfl
    · cases h

end

/-- Free JSON that a document carries unchanged: its numbers are integers, and its objects are in order, as in
all free JSON that was read (`ordered_of_value?`). -/
structure Exact (v : Json) : Prop where
  floatless : v.floatless = true
  ordered : v.ordered = true

theorem Exact.value?_toTerm {v : Json} (h : v.Exact) : v.toTerm.value? = some v := by
  obtain ⟨w, hvalue, hsame⟩ := Json.value?_toTerm v
  rw [hvalue, hsame h.ordered]

/-! ## One line -/

/-- No control characters. -/
def Plain (cs : List Char) : Prop := ∀ c ∈ cs, 32 ≤ c.toNat

theorem plain_cons {c : Char} {cs : List Char} : Plain (c :: cs) ↔ 32 ≤ c.toNat ∧ Plain cs := List.forall_mem_cons

theorem plain_append {cs ds : List Char} : Plain (cs ++ ds) ↔ Plain cs ∧ Plain ds := List.forall_mem_append

theorem plain_escapeChar (c : Char) : Plain (escapeChar c) := by
  rcases escapeChar_cases c with ⟨e, -, hshort, htext⟩ | ⟨hcontrol, htext⟩ | ⟨hplain, -, -, htext⟩
  · have hnone : ∀ n, n < 32 → shortEscape? (Char.ofNat n) = none := by decide
    have he : 32 ≤ e.toNat := by
      refine Nat.le_of_not_lt fun hsmall => ?_
      have hescape := hnone _ hsmall
      rw [Char.ofNat_toNat, hshort] at hescape
      cases hescape
    simpa [htext, Plain] using he
  · have hcode : ∀ n, n < 32 → (escapeCode n).all (fun c => 32 ≤ c.toNat) = true := by decide
    rw [htext]
    exact fun d hd => of_decide_eq_true (List.all_eq_true.1 (hcode _ hcontrol) d hd)
  · simpa [htext, Plain] using hplain

theorem plain_printText (text : String) : Plain (printText text) := by
  have hchars : Plain (text.toList.flatMap escapeChar) := by
    intro c hc
    obtain ⟨d, -, hd⟩ := List.mem_flatMap.1 hc
    exact plain_escapeChar d c hd
  rw [printText, List.cons_append, plain_cons, plain_append]
  exact ⟨by decide, hchars, by simp [Plain]⟩

theorem plain_of_ofTextChars {cs : List Char} (h : Binary64.OfTextChars cs) : Plain cs := by
  have hnone : ∀ n, n < 32 → isTextChar (Char.ofNat n) = false := by decide
  intro c hc
  refine Nat.le_of_not_lt fun hsmall => ?_
  have hchar := hnone _ hsmall
  rw [Char.ofNat_toNat, h c hc] at hchar
  cases hchar

mutual

/-- A value is printed without control characters. -/
theorem plain_print (v : Json) : Plain v.print := by
  cases v with
  | null => simp [print, Plain]
  | bool b => cases b <;> simp [print, Plain]
  | int n => exact plain_of_ofTextChars (Binary64.ofTextChars_ofInt n.val)
  | float x => exact plain_of_ofTextChars (Binary64.toChars_text x).1
  | str s => exact plain_printText s
  | arr items =>
    rw [print, plain_cons]
    exact ⟨by decide, plain_printItems items⟩
  | obj members =>
    rw [print, plain_cons]
    exact ⟨by decide, plain_printMembers members⟩

theorem plain_printItems (items : List Json) : Plain (printItems items) := by
  cases items with
  | nil => simp [printItems, Plain]
  | cons item rest =>
    rw [printItems_cons, plain_append]
    refine ⟨plain_print item, ?_⟩
    cases rest with
    | nil => simp [itemsTail, Plain]
    | cons next rest =>
      rw [itemsTail, plain_cons]
      exact ⟨by decide, plain_printItems (next :: rest)⟩

theorem plain_printMembers (members : List (String × Json)) : Plain (printMembers members) := by
  cases members with
  | nil => simp [printMembers, Plain]
  | cons member rest =>
    obtain ⟨key, value⟩ := member
    rw [printMembers_cons, plain_append, plain_cons, plain_append]
    refine ⟨plain_printText key, by decide, plain_print value, ?_⟩
    cases rest with
    | nil => simp [membersTail, Plain]
    | cons next rest =>
      rw [membersTail, plain_cons]
      exact ⟨by decide, plain_printMembers (next :: rest)⟩

end

end Json

end FuzzCampaign
