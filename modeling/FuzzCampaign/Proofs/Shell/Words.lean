import FuzzCampaign.Lifecycle.Rendering
import FuzzCampaign.Shell.ReadCommand
set_option autoImplicit false

/-! # How words are read

A word is read piece by piece. A text that is read as certain pieces whatever follows it (`ReadAs`) may stand in
front of another one, so the pieces of a word are put together from those of its parts: characters that mean
nothing to the shell, texts between single quotes, and a quote behind a backslash. -/

namespace FuzzCampaign.Shell

open Parse

/-! ## Steps of a reader -/

namespace Parse

variable {α β : Type} {p : Parse α} {next : α → Parse β} {src mid : Source}

theorem bind_of_ok {x : α} (h : p src = .ok (x, mid)) : (p >>= next) src = next x mid := by
  simp only [bind, StateT.bind, h, Except.bind]

@[simp] theorem get_bind (next : Source → Parse β) : (get >>= next) src = next src src := rfl

@[simp] theorem rest_bind (next : Str → Parse β) : (rest >>= next) src = next src.rest src := rfl

@[simp] theorem line_bind (next : Nat → Parse β) : (line >>= next) src = next src.line src := rfl

@[simp] theorem peek_bind (next : Option Char → Parse β) : (peek >>= next) src = next src.rest.head? src := rfl

@[simp] theorem drop_bind (n : Nat) (next : Unit → Parse β) : (drop n >>= next) src = next () (after n src) := rfl

@[simp] theorem pure_apply (x : α) : (pure x : Parse α) src = .ok (x, src) := rfl

/-- How many lines a text goes on. -/
def linesOf (text : Str) : Nat := text.foldr (fun c lines => (if c == '\n' then 1 else skippedLines c) + lines) 0

@[simp] theorem linesOf_nil : linesOf [] = 0 := rfl

@[simp] theorem linesOf_cons (c : Char) (text : Str) :
    linesOf (c :: text) = (if c == '\n' then 1 else skippedLines c) + linesOf text := rfl

@[simp] theorem linesOf_space (text : Str) : linesOf (' ' :: text) = linesOf text := by
  rw [linesOf_cons]
  exact Nat.zero_add _

@[simp] theorem linesOf_append (text more : Str) : linesOf (text ++ more) = linesOf text + linesOf more := by
  induction text with
  | nil => exact (Nat.zero_add _).symm
  | cons c text ih => rw [List.cons_append, linesOf_cons, linesOf_cons, ih, Nat.add_assoc]

variable {rest text : Str} {line : Nat} {unfinished : List UnfinishedHere}

/-- A text without ends of lines, of bytes alone, stays on its line. -/
theorem linesOf_eq_zero (h : ∀ c ∈ text, c ≠ '\n' ∧ c.toNat < 256) : linesOf text = 0 := by
  induction text with
  | nil => rfl
  | cons c text ih =>
    obtain ⟨⟨hfeed, hlt⟩, htext⟩ := List.forall_mem_cons.1 h
    have hmark : skippedLines c = 0 := Nat.sub_eq_zero_of_le (Nat.le_of_lt hlt)
    rw [linesOf_cons, beq_false_of_ne hfeed, hmark, ih htext]
    rfl

theorem after_append (text rest : Str) (line : Nat) (unfinished : List UnfinishedHere) :
    after text.length ⟨text ++ rest, line, unfinished⟩ = ⟨rest, line + linesOf text, unfinished⟩ := by
  induction text generalizing line with
  | nil => rfl
  | cons c text ih =>
    rw [List.length_cons, List.cons_append, after]
    dsimp only
    rw [ih, linesOf_cons, Nat.add_assoc]

end Parse

/-! ## Pieces of a word -/

/-- Where a word of a command stands. -/
def wordPlace : Place := { stop := isMeta }

/-- A text that is read as pieces of a word, whatever follows it. -/
def ReadAs (readers : WordReaders) (text : Str) (parts : List Part) : Prop :=
  ∃ steps ≤ text.length, ∀ fuel found rest line unfinished,
    allParts readers wordPlace (fuel + steps) found ⟨text ++ rest, line, unfinished⟩ =
      allParts readers wordPlace fuel (found ++ parts) ⟨rest, line + linesOf text, unfinished⟩

section
variable {readers : WordReaders} {text more : Str} {parts others : List Part}

theorem ReadAs.nil : ReadAs readers [] [] :=
  ⟨0, Nat.le_refl 0, fun fuel found rest line unfinished => by simp⟩

theorem ReadAs.append (h : ReadAs readers text parts) (h' : ReadAs readers more others) :
    ReadAs readers (text ++ more) (parts ++ others) := by
  obtain ⟨steps, hsteps, hread⟩ := h
  obtain ⟨steps', hsteps', hread'⟩ := h'
  refine ⟨steps' + steps, by rw [List.length_append]; omega, fun fuel found rest line unfinished => ?_⟩
  rw [← Nat.add_assoc, List.append_assoc, hread, hread', List.append_assoc, linesOf_append, Nat.add_assoc]

/-- A text that is read in one go. -/
theorem ReadAs.of_next (hne : text ≠ [])
    (h : ∀ rest line unfinished, nextParts readers wordPlace ⟨text ++ rest, line, unfinished⟩ =
      .ok (some parts, ⟨rest, line + linesOf text, unfinished⟩)) : ReadAs readers text parts := by
  refine ⟨1, List.length_pos_iff.2 hne, fun fuel found rest line unfinished => ?_⟩
  rw [allParts, bind_of_ok (h rest line unfinished)]

/-! ### Characters that mean nothing -/

/-- Whether a character means nothing to the shell, at least after the front of a word. -/
def isPlain (c : Char) : Bool :=
  !(isMeta c || c == '\\' || c == '$' || c == '\x60' || c == '"' || c == '\x27')

theorem toNat_lt_of_not_isMeta {c : Char} (h : isMeta c = false) : c.toNat < 256 := by
  simp only [isMeta, isBlankChar, Bool.or_eq_false_iff, decide_eq_false_iff_not] at h
  omega

theorem linesOf_of_not_isMeta (h : ∀ c ∈ text, isMeta c = false) : linesOf text = 0 := by
  refine linesOf_eq_zero fun c hc => ⟨fun heq => ?_, toNat_lt_of_not_isMeta (h c hc)⟩
  have hfeed := h c hc
  rw [heq] at hfeed
  cases hfeed

theorem isMeta_of_isPlain {c : Char} (h : isPlain c = true) : isMeta c = false := by
  simp only [isPlain, Bool.not_eq_true', Bool.or_eq_false_iff] at h
  exact h.1.1.1.1.1

theorem readAs_char {c : Char} (h : isPlain c = true) : ReadAs readers [c] [.plain [c]] := by
  refine ReadAs.of_next (by simp) fun rest line unfinished => ?_
  have hmeta := isMeta_of_isPlain h
  have hlines : linesOf [c] = 0 := linesOf_of_not_isMeta (by simpa using hmeta)
  have hafter := after_append [c] rest line unfinished
  simp only [isPlain, Bool.not_eq_true', Bool.or_eq_false_iff, beq_eq_false_iff_ne, ne_eq] at h
  obtain ⟨⟨⟨⟨⟨-, hslash⟩, hdollar⟩, hback⟩, hdouble⟩, hsingle⟩ := h
  rw [nextParts, bind_of_ok (show peek ⟨[c] ++ rest, line, unfinished⟩ = .ok (some c, _) from rfl)]
  simp only [wordPlace, hmeta, hslash, hdollar, hback, hdouble, hsingle, Bool.false_eq_true, if_false, false_and]
  rw [bind_of_ok (show drop 1 ⟨[c] ++ rest, line, unfinished⟩ = .ok ((), _) from
    congrArg (fun src => Except.ok ((), src)) hafter)]
  rfl

theorem readAs_plain (h : text.all isPlain = true) : ReadAs readers text (text.map fun c => .plain [c]) := by
  induction text with
  | nil => exact ReadAs.nil
  | cons c text ih =>
    rw [List.all_cons, Bool.and_eq_true] at h
    exact (readAs_char h.1).append (ih h.2)

/-! ### Quotes -/

theorem takeWhile_append_quote (h : '\x27' ∉ text) (rest : Str) :
    (text ++ '\x27' :: rest).takeWhile (· != '\x27') = text := by
  have hall : ∀ c ∈ text, (c != '\x27') = true := fun c hc => bne_iff_ne.2 fun heq => h (heq ▸ hc)
  rw [List.takeWhile_append_of_pos hall, List.takeWhile_cons_of_neg (by decide), List.append_nil]

theorem singleQuoted_append (h : '\x27' ∉ text) (rest : Str) (line : Nat) (unfinished : List UnfinishedHere) :
    singleQuoted ⟨'\x27' :: (text ++ '\x27' :: rest), line, unfinished⟩ =
      .ok (.quoted text, ⟨rest, line + linesOf text, unfinished⟩) := by
  have hopen : after 1 ⟨'\x27' :: (text ++ '\x27' :: rest), line, unfinished⟩ =
      ⟨text ++ '\x27' :: rest, line, unfinished⟩ := rfl
  have htext : Parse.takeWhile (· != '\x27') ⟨text ++ '\x27' :: rest, line, unfinished⟩ =
      .ok (text, ⟨'\x27' :: rest, line + linesOf text, unfinished⟩) := by
    rw [Parse.takeWhile, takeWhile_append_quote h, after_append]
  have hclose : accept "'" ⟨'\x27' :: rest, line + linesOf text, unfinished⟩ =
      .ok (true, ⟨rest, line + linesOf text, unfinished⟩) := rfl
  rw [singleQuoted, get_bind, drop_bind, hopen, bind_of_ok htext, bind_of_ok hclose]
  rfl

/-- Text between single quotes is read as it stands. -/
theorem readAs_singleQuoted (h : '\x27' ∉ text) :
    ReadAs readers ('\x27' :: text ++ ['\x27']) [.quoted text] := by
  refine ReadAs.of_next (by simp) fun rest line unfinished => ?_
  have hwhole : ('\x27' :: text ++ ['\x27']) ++ rest = '\x27' :: (text ++ '\x27' :: rest) := by simp
  have hlines : linesOf ('\x27' :: text ++ ['\x27']) = linesOf text := by
    rw [linesOf_append]
    exact Nat.zero_add _
  rw [hwhole, hlines, nextParts, peek_bind]
  change (do return some [← singleQuoted] : Parse (Option (List Part))) _ = _
  rw [bind_of_ok (singleQuoted_append h rest line unfinished)]
  rfl

/-- A quote behind a backslash is a quote. -/
theorem readAs_escapedQuote : ReadAs readers ['\\', '\x27'] [.quoted ['\x27']] :=
  ReadAs.of_next (by simp) fun rest line unfinished => rfl

/-- A text as one word: each quote in it ends the quotes, stands behind a backslash and begins them again. -/
def quotedText (text : Str) : Str := '\x27' :: text.flatMap Lifecycle.shellQuoteChar ++ ['\x27']

/-- The rest of a quoted text, when its first characters stand between quotes that are still open. -/
theorem readAs_openQuotes {front : Str} (hfront : '\x27' ∉ front) (text : Str) :
    ∃ texts : List Str, texts ≠ [] ∧ texts.flatten = front ++ text ∧
      ReadAs readers ('\x27' :: front ++ (text.flatMap Lifecycle.shellQuoteChar ++ ['\x27']))
        (texts.map .quoted) := by
  -- the open text grows with each character that is no quote; a quote closes it and opens an empty one
  induction text generalizing front with
  | nil => exact ⟨[front], by simp, by simp, readAs_singleQuoted hfront⟩
  | cons c text ih =>
    by_cases hc : c = '\x27'
    · subst hc
      have hempty : '\x27' ∉ ([] : Str) := List.not_mem_nil
      obtain ⟨texts, hne, hflat, hread⟩ := ih hempty
      refine ⟨front :: ['\x27'] :: texts, by simp, by simp [hflat], ?_⟩
      have hsegment : ReadAs readers ('\x27' :: front ++ ['\x27']) [.quoted front] := readAs_singleQuoted hfront
      have hclosed := hsegment.append (readAs_escapedQuote.append hread)
      have hescape : Lifecycle.shellQuoteChar '\x27' = ['\x27', '\\', '\x27', '\x27'] := rfl
      simpa [hescape] using hclosed
    · have hopen : '\x27' ∉ front ++ [c] := by
        simpa [hfront] using fun heq => hc heq.symm
      obtain ⟨texts, hne, hflat, hread⟩ := ih hopen
      have hkept : Lifecycle.shellQuoteChar c = [c] := if_neg hc
      exact ⟨texts, hne, by simpa using hflat, by simpa [hkept] using hread⟩

theorem readAs_quotedText (readers : WordReaders) (text : Str) : ∃ texts : List Str, texts ≠ [] ∧ texts.flatten = text ∧
    ReadAs readers (quotedText text) (texts.map .quoted) :=
  readAs_openQuotes (List.not_mem_nil) text

/-! ## Words -/

theorem joinParts_quoted {texts : List Str} (h : texts ≠ []) :
    joinParts (texts.map .quoted) = [.quoted texts.flatten] := by
  induction texts with
  | nil => exact absurd rfl h
  | cons text texts ih =>
    cases texts with
    | nil => simp [joinParts, joinPart]
    | cons next texts =>
      have hrest := ih (by simp)
      rw [joinParts] at hrest ⊢
      rw [List.map_cons, List.foldr_cons, hrest]
      rfl

theorem foldr_joinPart_plain (text : Str) (parts : List Part) (h : text ≠ [])
    (hparts : ∀ more rest, parts ≠ .plain more :: rest) :
    (text.map fun c => Part.plain [c]).foldr joinPart parts = .plain text :: parts := by
  induction text with
  | nil => exact absurd rfl h
  | cons c text ih =>
    cases text with
    | nil =>
      cases parts with
      | nil => rfl
      | cons part rest =>
        cases part with
        | plain more => exact absurd rfl (hparts more rest)
        | _ => rfl
    | cons next text =>
      rw [List.map_cons, List.foldr_cons, ih (by simp)]
      rfl

/-- A word ends here: at a character that separates words or at the end of the text. -/
def EndsWord (rest : Str) : Prop := ∀ c ∈ rest.head?, isMeta c = true

theorem endsWord_cons {c : Char} (h : isMeta c = true) (rest : Str) : EndsWord (c :: rest) := by
  rintro _ ⟨⟩
  exact h

theorem nextParts_endsWord {src : Source} (h : EndsWord src.rest) :
    nextParts readers wordPlace src = .ok (none, src) := by
  rw [nextParts, peek_bind]
  cases hhead : src.rest.head? with
  | none => rfl
  | some c =>
    have hstop : isMeta c = true := h c hhead
    simp only [wordPlace, hstop, if_true]
    rfl

theorem allParts_endsWord {src : Source} (h : EndsWord src.rest) (fuel : Nat) (found : List Part) :
    allParts readers wordPlace fuel found src = .ok (found, src) := by
  cases fuel with
  | zero => rfl
  | succ fuel =>
    rw [allParts, bind_of_ok (nextParts_endsWord h)]
    rfl

theorem between_append {rest : Str} (htext : ∀ c ∈ text, c.toNat < 256) (line line' : Nat)
    (unfinished unfinished' : List UnfinishedHere) :
    between ⟨text ++ rest, line, unfinished⟩ ⟨rest, line', unfinished'⟩ = text := by
  have hlen : (text ++ rest).length - rest.length = text.length := by
    rw [List.length_append, Nat.add_sub_cancel]
  rw [between]
  dsimp only
  rw [hlen, List.take_left, List.filter_eq_self]
  exact fun c hc => decide_eq_true (htext c hc)

end

variable {commands : Parse (List Command)} {text rest : Str} {parts : List Part}

/-- A word whose text is read as certain pieces. -/
theorem word_of_readAs (commands : Parse (List Command))
    (h : ReadAs (wordReaders commands (maxWordDepth - 1)) text parts) (hends : EndsWord rest)
    (htext : ∀ c ∈ text, c.toNat < 256) (line : Nat) (unfinished : List UnfinishedHere) :
    word commands ⟨text ++ rest, line, unfinished⟩ =
      .ok (.mk text (joinParts parts), ⟨rest, line + linesOf text, unfinished⟩) := by
  let inner := wordReaders commands (maxWordDepth - 1)
  obtain ⟨steps, hsteps, hread⟩ := h
  have hfuel : (text ++ rest).length + 1 = ((text ++ rest).length + 1 - steps) + steps := by
    rw [List.length_append]
    omega
  have hparts : (wordReaders commands maxWordDepth).parts wordPlace ⟨text ++ rest, line, unfinished⟩ =
      .ok (joinParts parts, ⟨rest, line + linesOf text, unfinished⟩) := by
    change (do return joinParts (← allParts inner wordPlace ((text ++ rest).length + 1) []) : Parse (List Part)) _ = _
    rw [hfuel, bind_of_ok ((hread _ _ _ _ _).trans (allParts_endsWord hends _ _))]
    rfl
  have hraw : withRaw ((wordReaders commands maxWordDepth).parts wordPlace) ⟨text ++ rest, line, unfinished⟩ =
      .ok ((text, joinParts parts), ⟨rest, line + linesOf text, unfinished⟩) := by
    rw [withRaw, hparts]
    dsimp only
    rw [between_append htext]
  rw [word, wordIn]
  exact bind_of_ok hraw

/-! ### Words in front of which an assignment does not begin -/

/-- Whether an array is assigned at the front, as the arguments of declaring commands allow. -/
def assignsArray (text : Str) : Bool :=
  let name := text.takeWhile isNameChar
  isName name && ("=(".toList.isPrefixOf (text.drop name.length) || "+=(".toList.isPrefixOf (text.drop name.length))

/-- Characters with which a word, but no comment, joined line or redirection begins. -/
def startsWord (c : Char) : Bool := !(isMeta c || c == '#' || c == '\\' || c.isDigit)

/-- A word that is read from the text it was written as, wherever it stands in a command. -/
structure Word.IsReadBack (w : Word) : Prop where
  front : ∃ c more, w.raw = c :: more ∧ startsWord c = true
  whole : ∀ commands rest line unfinished, EndsWord rest →
    word commands ⟨w.raw ++ rest, line, unfinished⟩ = .ok (w, ⟨rest, line + linesOf w.raw, unfinished⟩)
  noArray : ∀ rest, EndsWord rest → assignsArray (w.raw ++ rest) = false

theorem isDigit_iff (c : Char) : c.isDigit = true ↔ '0' ≤ c ∧ c ≤ '9' := by
  have hdef : c.isDigit = (decide ('0' ≤ c) && decide (c ≤ '9')) := rfl
  rw [hdef, Bool.and_eq_true, decide_eq_true_eq, decide_eq_true_eq]

theorem isNameStart_iff (c : Char) :
    isNameStart c = true ↔ 'A' ≤ c ∧ c ≤ 'Z' ∨ 'a' ≤ c ∧ c ≤ 'z' ∨ c = '_' := by
  have hdef : isNameStart c =
      (decide ('A' ≤ c ∧ c ≤ 'Z') || (decide ('a' ≤ c) && decide (c ≤ 'z')) || c == '_') := rfl
  rw [hdef]
  simp only [Bool.or_eq_true, Bool.and_eq_true, decide_eq_true_eq, beq_iff_eq, or_assoc]

theorem isNameChar_iff (c : Char) : isNameChar c = true ↔ isNameStart c = true ∨ '0' ≤ c ∧ c ≤ '9' := by
  rw [← isDigit_iff, isNameChar, Char.isAlphanum, isNameStart]
  simp only [Bool.or_eq_true]
  exact or_right_comm

theorem toNat_of_isNameChar {c : Char} (h : isNameChar c = true) : 48 ≤ c.toNat ∧ c.toNat ≤ 122 := by
  rw [isNameChar_iff, isNameStart_iff] at h
  rcases h with (⟨h, h'⟩ | ⟨h, h'⟩ | rfl) | ⟨h, h'⟩
  · exact ⟨Nat.le_trans (by decide) h, Nat.le_trans h' (by decide)⟩
  · exact ⟨Nat.le_trans (by decide) h, Nat.le_trans h' (by decide)⟩
  · decide
  · exact ⟨h, Nat.le_trans h' (by decide)⟩

theorem isNameChar_of_isNameStart {c : Char} (h : isNameStart c = true) : isNameChar c = true :=
  (isNameChar_iff c).2 (.inl h)

theorem isName_all {name : Str} (h : isName name = true) : name.all isNameChar = true := by
  cases name with
  | nil => rfl
  | cons c name =>
    rw [isName, Bool.and_eq_true] at h
    rw [List.all_cons, isNameChar_of_isNameStart h.1, h.2]
    rfl

theorem not_isNameChar_of_isMeta {c : Char} (h : isMeta c = true) : isNameChar c = false := by
  by_cases hname : isNameChar c = true
  · have hbounds := toNat_of_isNameChar hname
    simp only [isMeta, isBlankChar, Bool.or_eq_true, beq_iff_eq, decide_eq_true_eq] at h
    rcases h with (((((((((rfl | rfl) | h) | rfl) | rfl) | rfl) | rfl) | rfl) | rfl) | rfl) | rfl
    · rfl
    · rfl
    · omega
    all_goals rfl
  · exact Bool.not_eq_true _ ▸ hname

theorem takeWhile_name {name : Str} (hname : name.all isNameChar = true)
    (hrest : ∀ c ∈ rest.head?, isNameChar c = false) : (name ++ rest).takeWhile isNameChar = name := by
  rw [List.takeWhile_append_of_pos (List.all_eq_true.1 hname)]
  cases rest with
  | nil => simp
  | cons c rest => rw [List.takeWhile_cons_of_neg (by simp [hrest c rfl]), List.append_nil]

theorem assignsArray_of_front {c : Char} (h : isNameStart c = false) (text : Str) :
    assignsArray (c :: text) = false := by
  have hname : isName ((c :: text).takeWhile isNameChar) = false := by
    rw [List.takeWhile_cons]
    split
    · simp [isName, h]
    · rfl
  rw [assignsArray]
  simp only [hname, Bool.false_and]

theorem assignsArray_of_name {name : Str} (hname : name.all isNameChar = true) (h : EndsWord rest) :
    assignsArray (name ++ rest) = false := by
  have hnone : ∀ c ∈ rest.head?, isNameChar c = false := fun c hc => not_isNameChar_of_isMeta (h c hc)
  rw [assignsArray, takeWhile_name hname hnone, List.drop_left]
  cases rest with
  | nil => simp
  | cons c rest =>
    have hmeta : isMeta c = true := h c rfl
    have hequals : c ≠ '=' := fun heq => absurd hmeta (by simp [heq]; decide)
    have hplus : c ≠ '+' := fun heq => absurd hmeta (by simp [heq]; decide)
    simp [List.isPrefixOf, hequals.symm, hplus.symm]

/-! ### Words of literal text -/

/-- A word without quotes. -/
def plainWord (text : Str) : Word := .mk text [.plain text]

/-- A word that is one quoted text. -/
def quotedWord (text : Str) : Word := .mk (quotedText text) [.quoted text]

/-- A name that is set to a quoted text, as one word. -/
def settingWord (name text : Str) : Word :=
  .mk (name ++ '=' :: quotedText text) [.plain (name ++ ['=']), .quoted text]

theorem isPlain_of_isNameChar {c : Char} (h : isNameChar c = true) : isPlain c = true := by
  have hmeta : isMeta c = false := by
    cases hc : isMeta c with
    | false => rfl
    | true => rw [not_isNameChar_of_isMeta hc] at h; cases h
  have hne : ∀ d, isNameChar d = false → c ≠ d := fun d hd heq => by rw [heq, hd] at h; cases h
  simp only [isPlain, hmeta, Bool.not_eq_true', Bool.or_eq_false_iff, beq_eq_false_iff_ne, true_and]
  exact ⟨⟨⟨⟨hne _ rfl, hne _ rfl⟩, hne _ rfl⟩, hne _ rfl⟩, hne _ rfl⟩

theorem plainWord_isReadBack {c : Char} (hplain : (c :: text).all isPlain = true) (hc : startsWord c = true)
    (hname : isNameStart c = false ∨ (c :: text).all isNameChar = true) : (plainWord (c :: text)).IsReadBack where
  front := ⟨c, text, rfl, hc⟩
  whole := fun commands rest line unfinished hends => by
    have hmeta : ∀ d ∈ c :: text, isMeta d = false := fun d hd => isMeta_of_isPlain (List.all_eq_true.1 hplain d hd)
    have hjoined : joinParts ((c :: text).map fun d => .plain [d]) = [.plain (c :: text)] :=
      foldr_joinPart_plain (c :: text) [] (by simp) (by simp)
    have hword := word_of_readAs commands (readAs_plain hplain) hends
      (fun d hd => toNat_lt_of_not_isMeta (hmeta d hd)) line unfinished
    rwa [hjoined] at hword
  noArray := fun rest hends => by
    rcases hname with hfront | hall
    · exact assignsArray_of_front hfront (text ++ rest)
    · exact assignsArray_of_name hall hends

theorem toNat_lt_of_mem_quotedText (htext : ∀ c ∈ text, c.toNat < 256) : ∀ c ∈ quotedText text, c.toNat < 256 := by
  intro c hc
  simp only [quotedText, List.cons_append, List.mem_cons, List.mem_append, List.mem_flatMap, List.not_mem_nil,
    or_false] at hc
  have hquote : ('\x27').toNat < 256 := by decide
  rcases hc with rfl | ⟨d, hd, hc⟩ | rfl
  · exact hquote
  · rw [Lifecycle.shellQuoteChar] at hc
    split at hc
    · simp only [List.mem_cons, List.not_mem_nil, or_false] at hc
      rcases hc with rfl | rfl | rfl | rfl <;> decide
    · rw [List.mem_singleton.1 hc]
      exact htext d hd
  · exact hquote

theorem quotedWord_isReadBack (htext : ∀ c ∈ text, c.toNat < 256) : (quotedWord text).IsReadBack where
  front := ⟨'\x27', _, rfl, by decide⟩
  whole := fun commands rest line unfinished hends => by
    obtain ⟨texts, hne, hflat, hread⟩ := readAs_quotedText _ text
    have hword := word_of_readAs commands hread hends (toNat_lt_of_mem_quotedText htext) line unfinished
    rwa [joinParts_quoted hne, hflat] at hword
  noArray := fun rest _ => assignsArray_of_front (by decide) _

/-- The text of a setting, read as pieces. -/
theorem readAs_setting {readers : WordReaders} {name : Str} (hname : name.all isNameChar = true) (text : Str) :
    ∃ parts, joinParts parts = [.plain (name ++ ['=']), .quoted text] ∧
      ReadAs readers (name ++ '=' :: quotedText text) parts := by
  obtain ⟨texts, hne, hflat, hread⟩ := readAs_quotedText readers text
  have hplain : (name ++ ['=']).all isPlain = true := by
    rw [List.all_append, Bool.and_eq_true]
    exact ⟨List.all_eq_true.2 fun c hc => isPlain_of_isNameChar (List.all_eq_true.1 hname c hc), by decide⟩
  refine ⟨((name ++ ['=']).map fun c => .plain [c]) ++ texts.map .quoted, ?_,
    by simpa using (readAs_plain hplain).append hread⟩
  have hquoted : (texts.map Part.quoted).foldr joinPart [] = [.quoted text] := by
    have hjoined := joinParts_quoted hne
    rwa [hflat] at hjoined
  rw [joinParts, List.foldr_append, hquoted]
  exact foldr_joinPart_plain (name ++ ['=']) [.quoted text] (by simp) (by simp)

theorem startsWord_of_isNameStart {c : Char} (h : isNameStart c = true) : startsWord c = true := by
  have hplain := isPlain_of_isNameChar (isNameChar_of_isNameStart h)
  have hmeta := isMeta_of_isPlain hplain
  simp only [isPlain, Bool.not_eq_true', Bool.or_eq_false_iff] at hplain
  have hhash : (c == '#') = false := beq_false_of_ne fun heq => by rw [heq] at h; cases h
  have hdigit : c.isDigit = false := by
    cases hc : c.isDigit with
    | false => rfl
    | true =>
      have hle : c ≤ '9' := ((isDigit_iff c).1 hc).2
      rcases (isNameStart_iff c).1 h with ⟨h, -⟩ | ⟨h, -⟩ | rfl
      · exact absurd (Nat.le_trans h hle) (by decide)
      · exact absurd (Nat.le_trans h hle) (by decide)
      · exact absurd hle (by decide)
  simp only [startsWord, hmeta, hhash, hplain.1.1.1.1.2, hdigit, Bool.or_false, Bool.not_false]

theorem settingWord_isReadBack {name : Str} (hname : isName name = true) (htext : ∀ c ∈ text, c.toNat < 256) :
    (settingWord name text).IsReadBack where
  front := by
    cases name with
    | nil => cases hname
    | cons c name =>
      rw [isName, Bool.and_eq_true] at hname
      exact ⟨c, _, rfl, startsWord_of_isNameStart hname.1⟩
  whole := fun commands rest line unfinished hends => by
    have hall := isName_all hname
    obtain ⟨parts, hjoined, hread⟩ := readAs_setting hall text
    have hbytes : ∀ c ∈ name ++ '=' :: quotedText text, c.toNat < 256 := by
      simp only [List.mem_append, List.mem_cons]
      rintro c (hc | rfl | hc)
      · exact toNat_lt_of_not_isMeta (isMeta_of_isPlain (isPlain_of_isNameChar (List.all_eq_true.1 hall c hc)))
      · decide
      · exact toNat_lt_of_mem_quotedText htext c hc
    have hword := word_of_readAs commands hread hends hbytes line unfinished
    rwa [hjoined] at hword
  noArray := fun rest _ => by
    have htake : (name ++ '=' :: (quotedText text ++ rest)).takeWhile isNameChar = name :=
      takeWhile_name (isName_all hname) (by simp; decide)
    have hraw : (settingWord name text).raw ++ rest = name ++ '=' :: (quotedText text ++ rest) := by
      simp [settingWord, Word.raw]
    rw [hraw, assignsArray, htake, List.drop_left]
    simp [quotedText, List.isPrefixOf]

end FuzzCampaign.Shell
