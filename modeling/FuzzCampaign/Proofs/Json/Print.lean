import FuzzCampaign.Json.Term
import FuzzCampaign.Proofs.Number.Text
set_option autoImplicit false

/-! # Printing is unambiguous

The text of a value says what the value is, up to floats that have one text, and where the text ends: no text
is the beginning of another, except that a number goes on as long as there are characters of numbers. Strings
are taken apart by the reader, which undoes every escape; numbers end where the first other character stands;
every other value is told by its first character. -/

namespace FuzzCampaign.Json

open Binary64 (isTextChar OfTextChars HasMark toChars_text ofTextChars_cons ofTextChars_ofInt not_hasMark_ofInt)

/-! ## Strings -/

theorem hexQuad?_escapeCode {n : Nat} (h : n < 32) :
    ∃ a b, escapeCode n = ['\\', 'u', '0', '0', a, b] ∧ hexQuad? '0' '0' a b = some n := by
  have hall : ∀ n, n < 32 → hexQuad? '0' '0'
      (if n / 16 < 10 then Char.ofNat (48 + n / 16) else Char.ofNat (87 + n / 16))
      (if n % 16 < 10 then Char.ofNat (48 + n % 16) else Char.ofNat (87 + n % 16)) = some n := by decide
  exact ⟨_, _, rfl, hall n h⟩

/-- A character is written with a short escape, with an escape of four digits or as it is. -/
theorem escapeChar_cases (c : Char) :
    (∃ e, e ≠ 'u' ∧ shortEscape? e = some c ∧ escapeChar c = ['\\', e]) ∨
      (c.toNat < 32 ∧ escapeChar c = escapeCode c.toNat) ∨
      (32 ≤ c.toNat ∧ c ≠ '"' ∧ c ≠ '\\' ∧ escapeChar c = [c]) := by
  have hnamed : ∀ n, c.toNat = n → Char.ofNat n = c := fun n h => h ▸ Char.ofNat_toNat c
  by_cases hquote : c = '"'
  · subst hquote
    exact .inl ⟨'"', by decide, rfl, rfl⟩
  by_cases hslash : c = '\\'
  · subst hslash
    exact .inl ⟨'\\', by decide, rfl, rfl⟩
  by_cases hfeed : c = '\n'
  · subst hfeed
    exact .inl ⟨'n', by decide, rfl, rfl⟩
  by_cases hreturn : c = '\r'
  · subst hreturn
    exact .inl ⟨'r', by decide, rfl, rfl⟩
  by_cases htab : c = '\t'
  · subst htab
    exact .inl ⟨'t', by decide, rfl, rfl⟩
  by_cases hback : c.toNat = 8
  · exact .inl ⟨'b', by decide, hnamed 8 hback ▸ rfl, hnamed 8 hback ▸ rfl⟩
  by_cases hform : c.toNat = 12
  · exact .inl ⟨'f', by decide, hnamed 12 hform ▸ rfl, hnamed 12 hform ▸ rfl⟩
  by_cases hcontrol : c.toNat < 32
  · exact .inr (.inl ⟨hcontrol, by
      simp [escapeChar, hquote, hslash, hfeed, hreturn, htab, hback, hform, hcontrol]⟩)
  · exact .inr (.inr ⟨Nat.le_of_not_lt hcontrol, hquote, hslash, by
      simp [escapeChar, hquote, hslash, hfeed, hreturn, htab, hback, hform, hcontrol]⟩)

/-- The reader takes an escaped character for one element, which stands for the character. -/
theorem readUnits_escapeChar (c : Char) :
    ∃ u, (∀ rest units, readUnits (escapeChar c ++ rest) units = readUnits rest (u :: units)) ∧
      ∀ units text, joinUnits (u :: units) text = joinUnits units (c :: text) := by
  rcases escapeChar_cases c with ⟨e, hne, hshort, htext⟩ | ⟨hcontrol, htext⟩ | ⟨hplain, hquote, hslash, htext⟩
  · refine ⟨.char c, fun rest units => ?_, fun _ _ => rfl⟩
    simp [htext, readUnits, hne, hshort]
  · obtain ⟨a, b, hcode, hvalue⟩ := hexQuad?_escapeCode hcontrol
    refine ⟨.code c.toNat, fun rest units => ?_, fun units text => ?_⟩
    · simp only [htext, hcode, List.cons_append, List.nil_append, readUnits, hvalue]
    · rw [joinUnits.eq_def]
      simp [show ¬ 56320 ≤ c.toNat by omega, show ¬ 55296 ≤ c.toNat by omega]
  · refine ⟨.char c, fun rest units => ?_, fun _ _ => rfl⟩
    simp [htext, readUnits, hslash, Nat.not_lt.2 hplain]

/-- The reader takes an escaped text apart into its characters. -/
theorem readUnits_flatMap (cs : List Char) :
    ∃ us, (∀ rest units, readUnits (cs.flatMap escapeChar ++ rest) units = readUnits rest (us ++ units)) ∧
      ∀ units text, joinUnits (us ++ units) text = joinUnits units (cs ++ text) := by
  induction cs with
  | nil => exact ⟨[], fun _ _ => rfl, fun _ _ => rfl⟩
  | cons c cs ih =>
    obtain ⟨u, hread, hjoin⟩ := readUnits_escapeChar c
    obtain ⟨us, hreads, hjoins⟩ := ih
    refine ⟨us ++ [u], fun rest units => ?_, fun units text => ?_⟩
    · simp [hread, hreads]
    · simp [hjoin, hjoins]

/-- A printed text is read back, and what follows it is left. -/
theorem readText_printText (text : String) (rest : List Char) :
    ∃ cs, printText text ++ rest = '"' :: cs ∧ readText cs = some (some text, rest) := by
  obtain ⟨us, hread, hjoin⟩ := readUnits_flatMap text.toList
  refine ⟨text.toList.flatMap escapeChar ++ '"' :: rest, by simp [printText], ?_⟩
  have hunits := hread ('"' :: rest) []
  have htext := hjoin [] []
  simp only [List.append_nil, joinUnits] at hunits htext
  simp [readText, hunits, readUnits, htext]

theorem printText_append {k l : String} {r s : List Char} :
    printText k ++ r = printText l ++ s ↔ k = l ∧ r = s := by
  obtain ⟨cs, hcs, hread⟩ := readText_printText k r
  obtain ⟨ds, hds, hread'⟩ := readText_printText l s
  constructor
  · intro h
    rw [hcs, hds] at h
    rw [(List.cons.inj h).2, hread'] at hread
    cases hread
    exact ⟨rfl, rfl⟩
  · rintro ⟨rfl, rfl⟩
    rfl

/-! ## Where a number ends -/

/-- No number goes on here. -/
def Ends (rest : List Char) : Prop := ∀ c ∈ rest.head?, isTextChar c = false

theorem append_eq_of_ends {cs ds r s : List Char} (hcs : OfTextChars cs) (hds : OfTextChars ds)
    (hr : Ends r) (hs : Ends s) : cs ++ r = ds ++ s ↔ cs = ds ∧ r = s := by
  induction cs generalizing ds with
  | nil =>
    cases ds with
    | nil => simp
    | cons d ds =>
      refine ⟨fun h => ?_, fun h => absurd h.1 (by simp)⟩
      have hd := hr d (by rw [show r = d :: (ds ++ s) from h]; rfl)
      rw [(ofTextChars_cons.1 hds).1] at hd
      exact absurd hd (by decide)
  | cons c cs ih =>
    cases ds with
    | nil =>
      refine ⟨fun h => ?_, fun h => absurd h.1 (by simp)⟩
      have hc := hs c (by rw [show s = c :: (cs ++ r) from h.symm]; rfl)
      rw [(ofTextChars_cons.1 hcs).1] at hc
      exact absurd hc (by decide)
    | cons d ds =>
      simp [ih (ofTextChars_cons.1 hcs).2 (ofTextChars_cons.1 hds).2, and_assoc]

/-! ## Where a value ends -/

/-- The first character of a text that is not a number. -/
def lead? : Json → Option Char
  | .null => some 'n'
  | .bool true => some 't'
  | .bool false => some 'f'
  | .int _ | .float _ => none
  | .str _ => some '"'
  | .arr _ => some '['
  | .obj _ => some '\x7b'

theorem isTextChar_lead? {v : Json} {c : Char} (h : v.lead? = some c) : isTextChar c = false := by
  cases v with
  | int | float => cases h
  | bool b => cases b <;> cases h <;> rfl
  | null | str | arr | obj => cases h; rfl

/-- A text begins with the character of its sort, the text of a number with one of the characters of numbers. -/
theorem head_print (v : Json) :
    ∃ c cs, v.print = c :: cs ∧ (v.lead? = some c ∨ v.lead? = none ∧ isTextChar c = true) := by
  have hnumber : ∀ {cs : List Char}, OfTextChars cs → cs ≠ [] →
      ∃ c rest, cs = c :: rest ∧ isTextChar c = true := by
    intro cs hcs hne
    obtain ⟨c, rest, rfl⟩ := List.exists_cons_of_ne_nil hne
    exact ⟨c, rest, rfl, (ofTextChars_cons.1 hcs).1⟩
  cases v with
  | int n =>
    obtain ⟨c, cs, hcs, hc⟩ := hnumber (ofTextChars_ofInt n.val) (Decimal.ofInt_ne_nil n.val)
    exact ⟨c, cs, hcs, .inr ⟨rfl, hc⟩⟩
  | float x =>
    obtain ⟨hchars, hmark⟩ := toChars_text x
    obtain ⟨c, cs, hcs, hc⟩ := hnumber hchars hmark.ne_nil
    exact ⟨c, cs, hcs, .inr ⟨rfl, hc⟩⟩
  | bool b => cases b <;> exact ⟨_, _, rfl, .inl rfl⟩
  | null | str | arr | obj => exact ⟨_, _, rfl, .inl rfl⟩

/-- Values whose texts begin alike are of one sort. -/
theorem lead?_eq {v w : Json} {r s : List Char} (h : v.print ++ r = w.print ++ s) : v.lead? = w.lead? := by
  obtain ⟨c, cs, hv, hc⟩ := head_print v
  obtain ⟨d, ds, hw, hd⟩ := head_print w
  rw [hv, hw] at h
  obtain rfl : c = d := (List.cons.inj h).1
  rcases hc with hc | ⟨hc, hchar⟩ <;> rcases hd with hd | ⟨hd, hchar'⟩
  · rw [hc, hd]
  · rw [isTextChar_lead? hc] at hchar'
    cases hchar'
  · rw [isTextChar_lead? hd] at hchar
    cases hchar
  · rw [hc, hd]

/-- No value is printed as a closing bracket. -/
theorem print_append_ne {v : Json} {r s : List Char} {c : Char} (hchar : isTextChar c = false)
    (hlead : v.lead? ≠ some c) : v.print ++ r ≠ c :: s := by
  obtain ⟨d, ds, hv, hd⟩ := head_print v
  intro h
  rw [hv] at h
  obtain rfl : d = c := (List.cons.inj h).1
  rcases hd with hd | ⟨-, hd⟩
  · exact hlead hd
  · rw [hd] at hchar
    cases hchar

/-! ## Alike values -/

mutual

/-- The same text: floats are compared by their texts, everything else exactly. -/
def alike : Json → Json → Bool
  | .null, .null => true
  | .bool a, .bool b => a == b
  | .int a, .int b => a == b
  | .float a, .float b => a.toChars == b.toChars
  | .str a, .str b => a == b
  | .arr a, .arr b => alikeItems a b
  | .obj a, .obj b => alikeMembers a b
  | _, _ => false

/-- Elements pairwise alike. -/
def alikeItems : List Json → List Json → Bool
  | [], [] => true
  | a :: as, b :: bs => alike a b && alikeItems as bs
  | _, _ => false

/-- Members pairwise alike. -/
def alikeMembers : List (String × Json) → List (String × Json) → Bool
  | [], [] => true
  | (k, a) :: as, (l, b) :: bs => k == l && alike a b && alikeMembers as bs
  | _, _ => false

end

/-- Values that are alike are of one sort. -/
theorem lead?_eq_of_alike {v w : Json} (h : v.alike w = true) : v.lead? = w.lead? := by
  cases v with
  | bool a =>
    cases w with
    | bool b =>
      simp only [alike, beq_iff_eq] at h
      rw [h]
    | _ => cases h
  | _ => cases w <;> first | rfl | cases h

/-! ## Values end where they end -/

theorem wireInt_eq {m n : WireInt} (h : m.val = n.val) : m = n := by
  cases m
  cases n
  cases h
  rfl

/-- The texts of numbers. A number with a mark is no integer. -/
theorem number_append {v w : Json} {r s : List Char} (hr : Ends r) (hs : Ends s) (hv : v.lead? = none)
    (hw : w.lead? = none) : v.print ++ r = w.print ++ s ↔ v.alike w = true ∧ r = s := by
  have htext : ∀ u : Json, u.lead? = none → OfTextChars u.print := by
    intro u hu
    cases u with
    | int n => exact ofTextChars_ofInt n.val
    | float x => exact (toChars_text x).1
    | bool b => cases b <;> cases hu
    | null | str | arr | obj => cases hu
  have hmarked : ∀ (n : WireInt) (x : Binary64), Decimal.ofInt n.val ≠ x.toChars := fun n x h =>
    not_hasMark_ofInt n.val (h ▸ (toChars_text x).2)
  rw [append_eq_of_ends (htext v hv) (htext w hw) hr hs]
  refine and_congr_left fun _ => ?_
  cases v with
  | int m =>
    cases w with
    | int n =>
      simp only [print, alike, beq_iff_eq]
      exact ⟨fun h => wireInt_eq (Decimal.ofInt_injective h), fun h => h ▸ rfl⟩
    | float x => simpa [print, alike] using hmarked m x
    | bool b => cases b <;> cases hw
    | null | str | arr | obj => cases hw
  | float x =>
    cases w with
    | int n => simpa [print, alike] using (hmarked n x).symm
    | float y => simp [print, alike]
    | bool b => cases b <;> cases hw
    | null | str | arr | obj => cases hw
  | bool b => cases b <;> cases hv
  | null | str | arr | obj => cases hv

/-- What follows an element up to the end of its list. -/
def itemsTail : List Json → List Char
  | [] => [']']
  | item :: rest => ',' :: printItems (item :: rest)

/-- What follows a member up to the end of its object. -/
def membersTail : List (String × Json) → List Char
  | [] => ['\x7d']
  | member :: rest => ',' :: printMembers (member :: rest)

theorem printItems_cons (item : Json) (rest : List Json) :
    printItems (item :: rest) = item.print ++ itemsTail rest := by
  cases rest <;> rfl

theorem itemsTail_cons (item : Json) (rest : List Json) :
    itemsTail (item :: rest) = ',' :: (item.print ++ itemsTail rest) := by
  rw [itemsTail, printItems_cons]

theorem printMembers_cons (key : String) (value : Json) (rest : List (String × Json)) :
    printMembers ((key, value) :: rest) = printText key ++ (':' :: (value.print ++ membersTail rest)) := by
  cases rest <;> simp [printMembers, membersTail]

theorem membersTail_cons (key : String) (value : Json) (rest : List (String × Json)) :
    membersTail ((key, value) :: rest) =
      ',' :: (printText key ++ (':' :: (value.print ++ membersTail rest))) := by
  rw [membersTail, printMembers_cons]

theorem ends_itemsTail (items : List Json) (r : List Char) : Ends (itemsTail items ++ r) := by
  cases items <;> simp [itemsTail, Ends, isTextChar]

theorem ends_membersTail (members : List (String × Json)) (r : List Char) : Ends (membersTail members ++ r) := by
  cases members <;> simp [membersTail, Ends, isTextChar]

/-- Lists may be told apart as if they stood behind a first element. -/
theorem printItems_append_iff (items items' : List Json) {r s : List Char} :
    printItems items ++ r = printItems items' ++ s ↔ itemsTail items ++ r = itemsTail items' ++ s := by
  have hfirst : ∀ (item : Json) (rest : List Json) (r s : List Char),
      printItems (item :: rest) ++ r ≠ ']' :: s := by
    intro item rest r s
    rw [printItems_cons, List.append_assoc]
    refine print_append_ne rfl ?_
    cases item with
    | bool b => cases b <;> simp [lead?]
    | _ => simp [lead?]
  cases items with
  | nil =>
    cases items' with
    | nil => rfl
    | cons item' rest' => exact iff_of_false (Ne.symm (hfirst item' rest' s r)) (by simp [itemsTail])
  | cons item rest =>
    cases items' with
    | nil => exact iff_of_false (hfirst item rest r s) (by simp [itemsTail])
    | cons item' rest' => simp [itemsTail]

/-- Objects may be told apart as if they stood behind a first member. -/
theorem printMembers_append_iff (members members' : List (String × Json)) {r s : List Char} :
    printMembers members ++ r = printMembers members' ++ s ↔
      membersTail members ++ r = membersTail members' ++ s := by
  have hfirst : ∀ (member : String × Json) (rest : List (String × Json)) (r s : List Char),
      printMembers (member :: rest) ++ r ≠ '\x7d' :: s := by
    rintro ⟨key, value⟩ rest r s
    simp [printMembers_cons, printText]
  cases members with
  | nil =>
    cases members' with
    | nil => rfl
    | cons member' rest' => exact iff_of_false (Ne.symm (hfirst member' rest' s r)) (by simp [membersTail])
  | cons member rest =>
    cases members' with
    | nil => exact iff_of_false (hfirst member rest r s) (by simp [membersTail])
    | cons member' rest' => simp [membersTail]

mutual

/-- The text of a value and what follows it tell the value, as far as texts can, and what follows it. What
follows stays general in the recursion: inside a list it is the rest of the list. -/
theorem print_append (v w : Json) {r s : List Char} (hr : Ends r) (hs : Ends s) :
    v.print ++ r = w.print ++ s ↔ v.alike w = true ∧ r = s := by
  by_cases hlead : v.lead? = w.lead?
  · cases v with
    | null =>
      cases w with
      | null => simp [alike]
      | bool b => cases b <;> cases hlead
      | int | float | str | arr | obj => cases hlead
    | bool a =>
      cases w with
      | bool b => cases a <;> cases b <;> simp [alike, lead?] at hlead ⊢
      | null | int | float | str | arr | obj => cases a <;> cases hlead
    -- the other value is a number as well, of either kind
    | int n => exact number_append hr hs rfl (hlead ▸ rfl)
    | float x => exact number_append hr hs rfl (hlead ▸ rfl)
    | str t =>
      cases w with
      | str u => simp [print, alike, printText_append]
      | bool b => cases b <;> cases hlead
      | null | int | float | arr | obj => cases hlead
    | arr items =>
      cases w with
      | arr items' => simp [print, alike, printItems_append_iff, itemsTail_append items items']
      | bool b => cases b <;> cases hlead
      | null | int | float | str | obj => cases hlead
    | obj members =>
      cases w with
      | obj members' => simp [print, alike, printMembers_append_iff, membersTail_append members members']
      | bool b => cases b <;> cases hlead
      | null | int | float | str | arr => cases hlead
  · exact iff_of_false (fun h => hlead (lead?_eq h)) fun h => hlead (lead?_eq_of_alike h.1)

theorem itemsTail_append (vs ws : List Json) {r s : List Char} :
    itemsTail vs ++ r = itemsTail ws ++ s ↔ alikeItems vs ws = true ∧ r = s := by
  cases vs with
  | nil => cases ws <;> simp [itemsTail, alikeItems]
  | cons v vs =>
    cases ws with
    | nil => simp [itemsTail, alikeItems]
    | cons w ws =>
      simp only [itemsTail_cons, List.cons_append, List.append_assoc, List.cons.injEq, true_and,
        print_append v w (ends_itemsTail vs r) (ends_itemsTail ws s), itemsTail_append vs ws, alikeItems,
        Bool.and_eq_true, and_assoc]

theorem membersTail_append (vs ws : List (String × Json)) {r s : List Char} :
    membersTail vs ++ r = membersTail ws ++ s ↔ alikeMembers vs ws = true ∧ r = s := by
  cases vs with
  | nil => cases ws <;> simp [membersTail, alikeMembers]
  | cons member vs =>
    obtain ⟨k, v⟩ := member
    cases ws with
    | nil => simp [membersTail, alikeMembers]
    | cons member' ws =>
      obtain ⟨l, w⟩ := member'
      simp only [membersTail_cons, List.cons_append, List.append_assoc, List.cons.injEq, true_and,
        printText_append, print_append v w (ends_membersTail vs r) (ends_membersTail ws s),
        membersTail_append vs ws, alikeMembers, Bool.and_eq_true, beq_iff_eq, and_assoc]

end

/-- Two values have one text when they are alike. -/
theorem render_eq_iff {v w : Json} : v.render = w.render ↔ v.alike w = true := by
  have hends : Ends [] := by simp [Ends]
  have htexts := print_append v w hends hends
  simpa [render, String.ofList_inj] using htexts

end FuzzCampaign.Json
