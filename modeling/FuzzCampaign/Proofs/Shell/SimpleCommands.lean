import FuzzCampaign.Proofs.Shell.Words
set_option autoImplicit false

/-! # How simple commands are read

A simple command is a name with arguments, one behind a space each, or a setting; a redirection of its output
may stand behind it. The command is put together from its parts, which are read one by one whatever follows. -/

namespace FuzzCampaign.Shell

open Parse

variable {commands : Parse (List Command)} {src src' : Source} {rest : Str} {line : Nat}
  {unfinished : List UnfinishedHere}

/-! ## Blanks -/

/-- Whether a character is no blank and begins neither a comment nor a joined line. -/
def isUnblank (c : Char) : Bool := !(isBlankChar c || c == '#' || c == '\\')

/-- Nothing is passed over here. -/
def Unblank (rest : Str) : Prop := ∀ c ∈ rest.head?, isUnblank c = true

theorem unblank_cons {c : Char} (h : isUnblank c = true) (rest : Str) : Unblank (c :: rest) := by
  rintro _ ⟨⟩
  exact h

namespace Parse

theorem bind_congr_source {α β : Type} {p : Parse α} {next : α → Parse β} (h : p src = p src') :
    (p >>= next) src = (p >>= next) src' := by
  simp only [bind, StateT.bind, h]

theorem apply_of_eq_pure {α : Type} {p : Parse α} {x : α} (h : p = pure x) : p src = .ok (x, src) := by
  rw [h]
  rfl

theorem blanks_go_unblank (h : Unblank src.rest) (fuel : Nat) : blanks.go fuel src = src := by
  cases fuel with
  | zero => rfl
  | succ fuel =>
    obtain ⟨rest, line, unfinished⟩ := src
    cases rest with
    | nil => rfl
    | cons c rest =>
      have hc := h c rfl
      simp only [isUnblank, Bool.not_eq_true', Bool.or_eq_false_iff, beq_eq_false_iff_ne] at hc
      obtain ⟨⟨hblank, hhash⟩, hslash⟩ := hc
      unfold blanks.go
      split
      · next heq => exact absurd (List.cons.inj heq).1 hslash
      · next heq => exact absurd (List.cons.inj heq).1 hhash
      · next heq =>
        rw [if_neg]
        rw [← (List.cons.inj heq).1, hblank]
        exact Bool.false_ne_true
      · rfl

theorem blanks_unblank (h : Unblank src.rest) : blanks src = .ok ((), src) := by
  rw [blanks, blanks_go_unblank h]

theorem blanks_space : blanks ⟨' ' :: rest, line, unfinished⟩ = blanks ⟨rest, line, unfinished⟩ := rfl

theorem blankLines_go_of_blanks (h : blanks src = .ok ((), src')) (hline : src'.rest.head? ≠ some '\n') (fuel : Nat) :
    blankLines.go (fuel + 1) src = .ok ((), src') := by
  rw [blankLines.go, h]
  obtain ⟨rest, line, unfinished⟩ := src'
  cases rest with
  | nil => rfl
  | cons c rest =>
    have hc : c ≠ '\n' := fun heq => hline (heq ▸ rfl)
    dsimp only
    split
    · next heq => exact absurd (List.cons.inj heq).1 hc
    · rfl

theorem blankLines_unblank (h : Unblank src.rest) (hline : src.rest.head? ≠ some '\n') :
    blankLines src = .ok ((), src) := blankLines_go_of_blanks (blanks_unblank h) hline _

theorem blankLines_space (h : Unblank rest) (hline : rest.head? ≠ some '\n') :
    blankLines ⟨' ' :: rest, line, unfinished⟩ = .ok ((), ⟨rest, line, unfinished⟩) :=
  blankLines_go_of_blanks (blanks_space.trans (blanks_unblank h)) hline _

/-- A comment is passed over with its line. -/
theorem blankLines_comment {text : Str} (htext : '\n' ∉ text) (h : Unblank rest) (hline : rest.head? ≠ some '\n') :
    blankLines ⟨'#' :: text ++ '\n' :: rest, line, unfinished⟩ =
      .ok ((), ⟨rest, line + linesOf ('#' :: text) + 1, unfinished⟩) := by
  have hall : ∀ c ∈ '#' :: text, (c != '\n') = true := by
    rintro c (_ | ⟨_, hc⟩)
    · rfl
    · exact bne_iff_ne.2 fun heq => htext (heq ▸ hc)
  have htake : ('#' :: text ++ '\n' :: rest).takeWhile (· != '\n') = '#' :: text := by
    rw [List.takeWhile_append_of_pos hall, List.takeWhile_cons_of_neg (by decide), List.append_nil]
  have hblanks : blanks ⟨'#' :: text ++ '\n' :: rest, line, unfinished⟩ =
      .ok ((), ⟨'\n' :: rest, line + linesOf ('#' :: text), unfinished⟩) := by
    have hskipped : blanks ⟨'#' :: text ++ '\n' :: rest, line, unfinished⟩ = .ok ((),
        after (('#' :: text ++ '\n' :: rest).takeWhile (· != '\n')).length
          ⟨'#' :: text ++ '\n' :: rest, line, unfinished⟩) := rfl
    rw [hskipped, htake, after_append]
  rw [blankLines, blankLines.go, hblanks]
  exact blankLines_go_of_blanks (blanks_unblank h) hline (text ++ '\n' :: rest).length

end Parse

/-! ## Redirections -/

/-- Whether a character begins no redirection. -/
def isUndirected (c : Char) : Bool := !(c.isDigit || c == '<' || c == '>' || c == '&')

/-- No redirection begins here. -/
def Undirected (rest : Str) : Prop := ∀ c ∈ rest.head?, isUndirected c = true

theorem undirected_cons {c : Char} (h : isUndirected c = true) (rest : Str) : Undirected (c :: rest) := by
  rintro _ ⟨⟩
  exact h

theorem redirectFront_undirected (h : Undirected src.rest) : redirectFront src = .ok (none, src) := by
  obtain ⟨rest, line, unfinished⟩ := src
  cases rest with
  | nil => rfl
  | cons c rest =>
    have hc := h c rfl
    simp only [isUndirected, Bool.not_eq_true', Bool.or_eq_false_iff, beq_eq_false_iff_ne] at hc
    obtain ⟨⟨⟨hdigit, hless⟩, hgreater⟩, hand⟩ := hc
    have htake : (c :: rest).takeWhile Char.isDigit = [] := List.takeWhile_cons_of_neg (by simp [hdigit])
    rw [redirectFront, rest_bind]
    simp [htake, redirectOps, List.isPrefixOf, hless.symm, hgreater.symm, hand.symm]

/-- A word begins here. -/
def BeginsWord (rest : Str) : Prop := ∃ c ∈ rest.head?, startsWord c = true

theorem startsWord_iff {c : Char} :
    startsWord c = true ↔ isMeta c = false ∧ isUnblank c = true ∧ isUndirected c = true := by
  simp only [startsWord, isUnblank, isUndirected, isMeta, Bool.not_eq_true', Bool.or_eq_false_iff]
  grind

theorem BeginsWord.unblank (h : BeginsWord rest) : Unblank rest := by
  obtain ⟨c, hc, hstart⟩ := h
  intro d hd
  obtain rfl := Option.mem_unique hd hc
  exact (startsWord_iff.1 hstart).2.1

theorem BeginsWord.undirected (h : BeginsWord rest) : Undirected rest := by
  obtain ⟨c, hc, hstart⟩ := h
  intro d hd
  obtain rfl := Option.mem_unique hd hc
  exact (startsWord_iff.1 hstart).2.2

theorem BeginsWord.not_head {c : Char} (h : BeginsWord rest) (hc : startsWord c = false) : rest.head? ≠ some c := by
  obtain ⟨d, hd, hstart⟩ := h
  intro heq
  rw [Option.some.inj (hd.symm.trans heq), hc] at hstart
  cases hstart

/-! ## Parts of a simple command -/

theorem Word.IsReadBack.begins {w : Word} (hw : w.IsReadBack) (rest : Str) : BeginsWord (w.raw ++ rest) := by
  obtain ⟨c, more, hraw, hc⟩ := hw.front
  exact ⟨c, by rw [hraw]; rfl, hc⟩

section
variable {found : SimpleParts} {fuel : Nat}

theorem simpleParts_space : simpleParts commands (fuel + 1) found ⟨' ' :: rest, line, unfinished⟩ =
    simpleParts commands (fuel + 1) found ⟨rest, line, unfinished⟩ := bind_congr_source blanks_space

theorem SimpleParts.endingAt_line (found : SimpleParts) : found.endingAt found.line = found := by
  rw [endingAt]
  split <;> rfl

theorem SimpleParts.endingAt_full (h : 2 ≤ found.assigns.length + found.words.length + found.redirects.length) :
    found.endingAt line = found := if_neg (Nat.not_lt.2 h)

theorem argument_readBack {w : Word} (hw : w.IsReadBack) (hends : EndsWord rest) (isDeclaring : Bool) :
    argument commands isDeclaring ⟨w.raw ++ rest, line, unfinished⟩ =
      .ok (w, ⟨rest, line + linesOf w.raw, unfinished⟩) := by
  rw [← hw.whole commands rest line unfinished hends, argument]
  cases isDeclaring with
  | false => rfl
  | true =>
    rw [if_pos rfl, rest_bind]
    exact congrFun (if_neg (by rw [Bool.not_eq_true]; exact hw.noArray rest hends)) _

theorem simpleParts_argument {w : Word} (hbegins : BeginsWord src.rest)
    (hassign : found.words ≠ [] ∨ assign commands src = .ok (none, src))
    (hword : ∀ isDeclaring, argument commands isDeclaring src = .ok (w, src')) :
    simpleParts commands (fuel + 1) found src =
      simpleParts commands fuel
        { found.endingAt src'.line with words := (found.endingAt src'.line).words ++ [w] } src' := by
  obtain ⟨c, hc, hstart⟩ := id hbegins
  rw [simpleParts, bind_of_ok (blanks_unblank hbegins.unblank), line_bind,
    bind_of_ok (redirectFront_undirected hbegins.undirected)]
  dsimp only
  rw [peek_bind, hc]
  dsimp only
  rw [(startsWord_iff.1 hstart).1, if_neg Bool.false_ne_true]
  split
  · next hempty =>
    have hnone := hassign.resolve_left (not_not_intro (List.isEmpty_iff.1 hempty))
    rw [bind_of_ok hnone]
    dsimp only
    rw [bind_of_ok (hword _), line_bind]
  · rw [bind_of_ok (pure_apply _)]
    dsimp only
    rw [bind_of_ok (hword _), line_bind]

theorem simpleParts_assign {a : Assign} (hbegins : BeginsWord src.rest)
    (hwords : found.words = []) (hassign : assign commands src = .ok (some a, src')) :
    simpleParts commands (fuel + 1) found src =
      simpleParts commands fuel
        { found.endingAt src'.line with assigns := (found.endingAt src'.line).assigns ++ [a] } src' := by
  obtain ⟨c, hc, hstart⟩ := id hbegins
  have hempty : found.words.isEmpty = true := List.isEmpty_iff.2 hwords
  rw [simpleParts, bind_of_ok (blanks_unblank hbegins.unblank), line_bind,
    bind_of_ok (redirectFront_undirected hbegins.undirected)]
  dsimp only
  rw [peek_bind, hc]
  dsimp only
  rw [(startsWord_iff.1 hstart).1, if_neg Bool.false_ne_true, if_pos hempty, bind_of_ok hassign]
  dsimp only
  rw [line_bind]

/-- Whether a character ends a simple command. -/
def endsCommand (c : Char) : Bool := c == '\n' || c == ';' || c == '|'

theorem endsCommand_spec {c : Char} (h : endsCommand c = true) :
    isMeta c = true ∧ isUnblank c = true ∧ isUndirected c = true := by
  have hcases : c = '\n' ∨ c = ';' ∨ c = '|' := by
    simpa [endsCommand, or_assoc] using h
  rcases hcases with rfl | rfl | rfl <;> decide

theorem simpleParts_end {c : Char} (hc : endsCommand c = true) :
    simpleParts commands (fuel + 1) found ⟨c :: rest, line, unfinished⟩ =
      .ok (found.endingAt line, ⟨c :: rest, line, unfinished⟩) := by
  obtain ⟨hmeta, hunblank, hundirected⟩ := endsCommand_spec hc
  rw [simpleParts, bind_of_ok (blanks_unblank (unblank_cons hunblank _)), line_bind,
    bind_of_ok (redirectFront_undirected (undirected_cons hundirected _))]
  dsimp only
  rw [peek_bind, List.head?_cons]
  dsimp only
  rw [hmeta, if_pos rfl]
  rfl

theorem someWord_readBack {w : Word} (hw : w.IsReadBack) (hends : EndsWord rest) :
    someWord commands ⟨w.raw ++ rest, line, unfinished⟩ = .ok (w, ⟨rest, line + linesOf w.raw, unfinished⟩) := by
  have hbegins := hw.begins rest
  obtain ⟨c, hc, hstart⟩ := id hbegins
  rw [someWord, bind_of_ok (blanks_unblank hbegins.unblank), peek_bind, hc]
  dsimp only
  rw [(startsWord_iff.1 hstart).1, if_neg Bool.false_ne_true]
  exact hw.whole commands rest line unfinished hends

theorem redirectTarget_output {fd : Option Nat} {w : Word} (hw : w.IsReadBack) (hends : EndsWord rest) :
    redirectTarget commands fd .output ⟨w.raw ++ rest, line, unfinished⟩ =
      .ok (.mk fd .output w, ⟨rest, line + linesOf w.raw, unfinished⟩) := by
  rw [redirectTarget, if_neg (by decide), bind_of_ok (someWord_readBack hw hends)]
  rfl

/-- A redirection of the output is read. -/
theorem simpleParts_output {w : Word} (hw : w.IsReadBack) (hends : EndsWord rest) :
    simpleParts commands (fuel + 1) found ⟨'>' :: ' ' :: (w.raw ++ rest), line, unfinished⟩ =
      simpleParts commands fuel
        { found.endingAt line with redirects := (found.endingAt line).redirects ++ [.mk none .output w] }
        ⟨rest, line + linesOf w.raw, unfinished⟩ := by
  have hunblank : Unblank ('>' :: ' ' :: (w.raw ++ rest)) := unblank_cons rfl _
  have hfront : redirectFront ⟨'>' :: ' ' :: (w.raw ++ rest), line, unfinished⟩ =
      .ok (some (none, .output), ⟨' ' :: (w.raw ++ rest), line, unfinished⟩) := rfl
  have htarget : redirectTarget commands none .output ⟨' ' :: (w.raw ++ rest), line, unfinished⟩ =
      .ok (.mk none .output w, ⟨rest, line + linesOf w.raw, unfinished⟩) := by
    rw [← redirectTarget_output hw hends]
    rfl
  rw [simpleParts, bind_of_ok (blanks_unblank hunblank), line_bind, bind_of_ok hfront]
  dsimp only
  rw [bind_of_ok htarget]

/-! ### Names, settings and arguments -/

theorem simpleParts_word {w : Word} (hw : w.IsReadBack) (hends : EndsWord rest) (hwords : found.words ≠ []) :
    simpleParts commands (fuel + 1) found ⟨w.raw ++ rest, line, unfinished⟩ =
      simpleParts commands fuel
        { found.endingAt (line + linesOf w.raw) with words := (found.endingAt (line + linesOf w.raw)).words ++ [w] }
        ⟨rest, line + linesOf w.raw, unfinished⟩ :=
  simpleParts_argument (hw.begins rest) (.inl hwords) (argument_readBack hw hends)

theorem plainWord_isReadBack_of_isName {name : Str} (h : isName name = true) : (plainWord name).IsReadBack := by
  cases name with
  | nil => cases h
  | cons c name =>
    have hall := isName_all h
    rw [isName, Bool.and_eq_true] at h
    refine plainWord_isReadBack ?_ (startsWord_of_isNameStart h.1) (.inr hall)
    exact List.all_eq_true.2 fun d hd => isPlain_of_isNameChar (List.all_eq_true.1 hall d hd)

theorem assignFront_name {name : Str} (hname : isName name = true) (hends : EndsWord rest) :
    assignFront commands ⟨name ++ rest, line, unfinished⟩ = .ok (none, ⟨name ++ rest, line, unfinished⟩) := by
  have hnone : ∀ c ∈ rest.head?, isNameChar c = false := fun c hc => not_isNameChar_of_isMeta (hends c hc)
  have htake := takeWhile_name (isName_all hname) hnone
  rw [assignFront, rest_bind]
  cases name with
  | nil => cases hname
  | cons c name =>
    rw [isName, Bool.and_eq_true] at hname
    rw [List.cons_append] at htake ⊢
    dsimp only
    rw [hname.1, htake, ← List.cons_append, List.drop_left, if_neg (by decide)]
    cases rest with
    | nil => rfl
    | cons d rest =>
      have hmeta : isMeta d = true := hends d rfl
      have hne : ∀ e, isMeta e = false → d ≠ e := fun e he heq => by rw [heq, he] at hmeta; cases hmeta
      refine apply_of_eq_pure ?_
      split
      · next heq => exact absurd (List.cons.inj heq).1 (hne _ rfl)
      · next heq => exact absurd (List.cons.inj heq).1 (hne _ rfl)
      · next heq => exact absurd (List.cons.inj heq).1 (hne _ rfl)
      · rfl

theorem linesOf_name {name : Str} (hname : isName name = true) : linesOf name = 0 :=
  linesOf_of_not_isMeta fun c hc =>
    isMeta_of_isPlain (isPlain_of_isNameChar (List.all_eq_true.1 (isName_all hname) c hc))

/-- The name of a command. -/
theorem simpleParts_name {name : Str} (hname : isName name = true) (hends : EndsWord rest) (hwords : found.words = []) :
    simpleParts commands (fuel + 1) found ⟨name ++ rest, line, unfinished⟩ =
      simpleParts commands fuel { found.endingAt line with words := [plainWord name] } ⟨rest, line, unfinished⟩ := by
  have hword := plainWord_isReadBack_of_isName hname
  have hassign : assign commands ⟨name ++ rest, line, unfinished⟩ = .ok (none, ⟨name ++ rest, line, unfinished⟩) := by
    rw [assign, bind_of_ok (assignFront_name hname hends)]
    rfl
  have hread : ∀ isDeclaring, argument commands isDeclaring ⟨name ++ rest, line, unfinished⟩ =
      .ok (plainWord name, ⟨rest, line, unfinished⟩) := fun isDeclaring => by
    have hargument : argument commands isDeclaring ⟨name ++ rest, line, unfinished⟩ =
        .ok (plainWord name, ⟨rest, line + linesOf name, unfinished⟩) := argument_readBack hword hends isDeclaring
    rwa [linesOf_name hname, Nat.add_zero] at hargument
  have hnone : (found.endingAt line).words = [] := by
    rw [SimpleParts.endingAt]
    split <;> exact hwords
  refine (simpleParts_argument (hword.begins rest) (.inr hassign) hread).trans ?_
  dsimp only
  rw [hnone, List.nil_append]

theorem assignFront_setting {name : Str} (hname : isName name = true) :
    assignFront commands ⟨name ++ '=' :: rest, line, unfinished⟩ =
      .ok (some (String.ofList name, .absent, false), ⟨rest, line, unfinished⟩) := by
  have htake : (name ++ '=' :: rest).takeWhile isNameChar = name :=
    takeWhile_name (isName_all hname) (by rintro _ ⟨⟩; decide)
  have hafter := after_append (name ++ ['=']) rest line unfinished
  rw [linesOf_append, linesOf_name hname, List.append_assoc, List.length_append] at hafter
  rw [assignFront, rest_bind]
  cases name with
  | nil => cases hname
  | cons c name =>
    rw [isName, Bool.and_eq_true] at hname
    rw [List.cons_append] at htake ⊢
    dsimp only
    rw [hname.1, htake, ← List.cons_append, List.drop_left, if_neg (by decide)]
    exact congrArg (fun src => Except.ok (some (String.ofList (c :: name), Subscript.absent, false), src)) hafter

theorem quotedWord_whole {text : Str} (htext : ∀ c ∈ text, c.toNat < 256) (hends : EndsWord rest) :
    assignValue commands ⟨quotedText text ++ rest, line, unfinished⟩ =
      .ok ([.quoted text], ⟨rest, line + linesOf (quotedText text), unfinished⟩) := by
  have hword := (quotedWord_isReadBack htext).whole commands rest line unfinished hends
  rw [assignValue, get_bind]
  exact bind_of_ok hword

/-- A setting in front of the name of a command. -/
theorem simpleParts_setting {name text : Str} (hname : isName name = true) (htext : ∀ c ∈ text, c.toNat < 256)
    (hends : EndsWord rest) (hwords : found.words = []) :
    simpleParts commands (fuel + 1) found ⟨(settingWord name text).raw ++ rest, line, unfinished⟩ =
      simpleParts commands fuel
        { found.endingAt (line + linesOf (quotedText text)) with
          assigns := (found.endingAt (line + linesOf (quotedText text))).assigns ++
            [.mk (String.ofList name) .absent false [.quoted text]] }
        ⟨rest, line + linesOf (quotedText text), unfinished⟩ := by
  have hraw : (settingWord name text).raw ++ rest = name ++ '=' :: (quotedText text ++ rest) := by
    simp [settingWord, Word.raw]
  have hassign : assign commands ⟨(settingWord name text).raw ++ rest, line, unfinished⟩ =
      .ok (some (.mk (String.ofList name) .absent false [.quoted text]),
        ⟨rest, line + linesOf (quotedText text), unfinished⟩) := by
    rw [hraw, assign, bind_of_ok (assignFront_setting hname)]
    exact bind_of_ok (quotedWord_whole htext hends)
  exact simpleParts_assign ((settingWord_isReadBack hname htext).begins rest) hwords hassign

/-! ### Arguments and redirections -/

/-- Words, one behind a space each. -/
def spaced (words : List Word) : Str := words.flatMap fun w => ' ' :: w.raw

/-- A redirection of the output behind a command, when there is one. -/
def directed : Option Word → Str
  | none => []
  | some w => ' ' :: '>' :: ' ' :: w.raw

theorem endsWord_spaced (words : List Word) (h : EndsWord rest) : EndsWord (spaced words ++ rest) := by
  cases words with
  | nil => exact h
  | cons w words => exact endsWord_cons rfl _

theorem endsWord_directed (target : Option Word) (h : EndsWord rest) : EndsWord (directed target ++ rest) := by
  cases target with
  | none => exact h
  | some w => exact endsWord_cons rfl _

theorem simpleParts_words {words : List Word} (hwords : ∀ w ∈ words, w.IsReadBack) (hends : EndsWord rest)
    (hnamed : found.words ≠ []) (hline : ∀ w ∈ words.head?, found.endingAt (line + linesOf w.raw) = found) :
    simpleParts commands (fuel + words.length) found ⟨spaced words ++ rest, line, unfinished⟩ =
      simpleParts commands fuel { found with words := found.words ++ words }
        ⟨rest, line + linesOf (spaced words), unfinished⟩ := by
  -- after the first of them two tokens are there, and the line does not change any more
  induction words generalizing found line with
  | nil => simp [spaced]
  | cons w words ih =>
    obtain ⟨hw, hwords⟩ := List.forall_mem_cons.1 hwords
    have hrest := endsWord_spaced words hends
    have htext : spaced (w :: words) ++ rest = ' ' :: (w.raw ++ (spaced words ++ rest)) := by simp [spaced]
    have hlines : linesOf (spaced (w :: words)) = linesOf w.raw + linesOf (spaced words) := by
      rw [spaced, List.flatMap_cons, List.cons_append, linesOf_space, linesOf_append, spaced]
    have hfull : 2 ≤ found.assigns.length + (found.words ++ [w]).length + found.redirects.length := by
      have hpos := List.length_pos_iff.2 hnamed
      rw [List.length_append, List.length_singleton]
      omega
    rw [htext, List.length_cons, ← Nat.add_assoc, simpleParts_space, simpleParts_word hw hrest hnamed, hline w rfl,
      hlines, ← Nat.add_assoc, ih hwords (by simp) fun _ _ => SimpleParts.endingAt_full hfull, List.append_assoc]
    rfl

theorem linesOf_directed (w : Word) : linesOf (directed (some w)) = linesOf w.raw := by
  rw [directed, linesOf_space, linesOf_cons, linesOf_space]
  exact Nat.zero_add _

theorem simpleParts_directed {target : Option Word} (htarget : ∀ w ∈ target, w.IsReadBack) (hends : EndsWord rest)
    (hline : found.endingAt line = found) :
    simpleParts commands (fuel + target.toList.length) found ⟨directed target ++ rest, line, unfinished⟩ =
      simpleParts commands fuel
        { found with redirects := found.redirects ++ target.toList.map fun w => .mk none .output w }
        ⟨rest, line + linesOf (directed target), unfinished⟩ := by
  cases target with
  | none => simp [directed]
  | some w =>
    have htext : directed (some w) ++ rest = ' ' :: '>' :: ' ' :: (w.raw ++ rest) := rfl
    rw [htext, linesOf_directed]
    exact simpleParts_space.trans ((simpleParts_output (htarget w rfl) hends).trans (by rw [hline]; rfl))

/-! ## Simple commands -/

theorem simple_of_parts {compound : Parse (Option Command)} {c : Char} (hc : endsCommand c = true)
    (hparts : simpleParts commands (src.rest.length + 1) { line := src.line } src =
      .ok (found, ⟨c :: rest, line, unfinished⟩))
    (hfound : found.words ≠ [] ∨ found.assigns ≠ []) :
    simple commands compound src =
      .ok (.simple found.line found.assigns found.words found.redirects, ⟨c :: rest, line, unfinished⟩) := by
  have hparen : c ≠ '(' := fun heq => by rw [heq] at hc; cases hc
  rw [simple, line_bind, rest_bind, bind_of_ok hparts, peek_bind]
  obtain ⟨endLine, assigns, words, redirects⟩ := found
  refine apply_of_eq_pure ?_
  dsimp only
  split
  · next heq => exact absurd (Option.some.inj heq) hparen
  · next => simp at hfound
  · rfl

/-- A command that is a name with arguments and a redirection of its output. -/
def wordsCommand (line : Nat) (name : Str) (words : List Word) (target : Option Word) : Command :=
  .simple line [] (plainWord name :: words) (target.toList.map fun w => .mk none .output w)

/-- The text of such a command. -/
def wordsText (name : Str) (words : List Word) (target : Option Word) : Str := name ++ (spaced words ++ directed target)

/-- Words that name no command where a command begins. -/
def reservedWords : List String :=
  closingWords ++ ["function", "\x7b", "if", "while", "until", "for", "case", "[[", "!", "time"]

/-- A name and words that are read as they are written; no reserved word is the name, and the first of its
arguments stands on one line. -/
structure ReadsBack (name : Str) (words : List Word) (target : Option Word) : Prop where
  named : isName name = true
  free : String.ofList name ∉ reservedWords
  arguments : ∀ w ∈ words, w.IsReadBack
  output : ∀ w ∈ target, w.IsReadBack
  first : ∀ w ∈ words.head?, linesOf w.raw = 0

theorem spaced_length (words : List Word) : words.length ≤ (spaced words).length := by
  induction words with
  | nil => exact Nat.le_refl 0
  | cons w words ih =>
    have htext : spaced (w :: words) = ' ' :: (w.raw ++ spaced words) := by simp [spaced]
    rw [htext, List.length_cons, List.length_cons, List.length_append]
    omega

theorem directed_length (target : Option Word) : target.toList.length ≤ (directed target).length := by
  cases target with
  | none => exact Nat.le_refl 0
  | some w => simp [directed]

theorem endsWord_gap {c : Char} (hc : endsCommand c = true) {gap : Str} (hgap : gap = [] ∨ gap = [' ']) :
    EndsWord (gap ++ c :: rest) := by
  rcases hgap with rfl | rfl
  · exact endsWord_cons (endsCommand_spec hc).1 rest
  · exact endsWord_cons rfl _

theorem simpleParts_gap {c : Char} (hc : endsCommand c = true) {gap : Str} (hgap : gap = [] ∨ gap = [' ']) :
    simpleParts commands (fuel + 1) found ⟨gap ++ c :: rest, line, unfinished⟩ =
      .ok (found.endingAt line, ⟨c :: rest, line, unfinished⟩) := by
  rcases hgap with rfl | rfl
  · exact simpleParts_end hc
  · exact simpleParts_space.trans (simpleParts_end hc)

theorem simple_words {compound : Parse (Option Command)} {name : Str} {words : List Word} {target : Option Word}
    {c : Char} {gap : Str} (h : ReadsBack name words target) (hc : endsCommand c = true)
    (hgap : gap = [] ∨ gap = [' ']) :
    simple commands compound ⟨wordsText name words target ++ (gap ++ c :: rest), line, unfinished⟩ =
      .ok (wordsCommand line name words target,
        ⟨c :: rest, line + linesOf (wordsText name words target), unfinished⟩) := by
  have hends : EndsWord (gap ++ c :: rest) := endsWord_gap hc hgap
  have htext : wordsText name words target ++ (gap ++ c :: rest) =
      name ++ (spaced words ++ (directed target ++ (gap ++ c :: rest))) := by simp [wordsText]
  have hlines : linesOf (wordsText name words target) = linesOf (spaced words) + linesOf (directed target) := by
    rw [wordsText, linesOf_append, linesOf_append, linesOf_name h.named, Nat.zero_add]
  -- the fuel pays for the name, the arguments, the redirection and the end
  obtain ⟨fuel, hfuel⟩ : ∃ fuel, (wordsText name words target ++ (gap ++ c :: rest)).length + 1 =
      fuel + 1 + target.toList.length + words.length + 1 := by
    have hspaced := spaced_length words
    have hdirected := directed_length target
    refine ⟨(wordsText name words target ++ (gap ++ c :: rest)).length - 1 - target.toList.length - words.length, ?_⟩
    rw [htext]
    simp only [List.length_append, List.length_cons]
    omega
  let named : SimpleParts := { line, words := [plainWord name] }
  let argued : SimpleParts := { line, words := plainWord name :: words }
  let whole : SimpleParts := { argued with redirects := target.toList.map fun w => .mk none .output w }
  have hargued : argued.endingAt (line + linesOf (spaced words)) = argued := by
    cases words with
    | nil => exact SimpleParts.endingAt_line argued
    | cons w words => exact SimpleParts.endingAt_full (by simp [argued])
  have hwhole : whole.endingAt (line + linesOf (wordsText name words target)) = whole := by
    cases target with
    | none =>
      rw [hlines]
      exact hargued
    | some w => exact SimpleParts.endingAt_full (by simp [whole, argued])
  have hline : ∀ w ∈ words.head?, named.endingAt (line + linesOf w.raw) = named := fun w hw => by
    rw [h.first w hw]
    exact SimpleParts.endingAt_line named
  have hparts : simpleParts commands ((wordsText name words target ++ (gap ++ c :: rest)).length + 1) { line }
      ⟨wordsText name words target ++ (gap ++ c :: rest), line, unfinished⟩ =
      .ok (whole, ⟨c :: rest, line + linesOf (wordsText name words target), unfinished⟩) := by
    rw [hfuel, htext, simpleParts_name h.named (endsWord_spaced words (endsWord_directed target hends)) rfl,
      SimpleParts.endingAt_line]
    refine (simpleParts_words h.arguments (endsWord_directed target hends) (by simp) hline).trans ?_
    refine (simpleParts_directed h.output hends hargued).trans ?_
    rw [Nat.add_assoc, ← hlines]
    exact (simpleParts_gap hc hgap).trans (congrArg (fun found => Except.ok (found, _)) hwhole)
  exact simple_of_parts hc hparts (.inl (by simp [whole, argued]))

theorem simple_setting {compound : Parse (Option Command)} {name text : Str} {c : Char} (hname : isName name = true)
    (htext : ∀ c ∈ text, c.toNat < 256) (hc : endsCommand c = true) :
    simple commands compound ⟨(settingWord name text).raw ++ c :: rest, line, unfinished⟩ =
      .ok (.simple (line + linesOf (quotedText text)) [.mk (String.ofList name) .absent false [.quoted text]] [] [],
        ⟨c :: rest, line + linesOf (quotedText text), unfinished⟩) := by
  have hends : EndsWord (c :: rest) := endsWord_gap hc (.inl rfl)
  let found : SimpleParts :=
    { line := line + linesOf (quotedText text), assigns := [.mk (String.ofList name) .absent false [.quoted text]] }
  obtain ⟨fuel, hfuel⟩ : ∃ fuel, ((settingWord name text).raw ++ c :: rest).length + 1 = fuel + 1 + 1 :=
    ⟨((settingWord name text).raw ++ rest).length, by simp [Nat.add_assoc]⟩
  have hparts : simpleParts commands (((settingWord name text).raw ++ c :: rest).length + 1) { line }
      ⟨(settingWord name text).raw ++ c :: rest, line, unfinished⟩ =
      .ok (found, ⟨c :: rest, line + linesOf (quotedText text), unfinished⟩) := by
    rw [hfuel, simpleParts_setting hname htext hends rfl, simpleParts_end hc]
    exact congrArg (fun found => Except.ok (found, _)) (SimpleParts.endingAt_line found)
  exact simple_of_parts hc hparts (.inr (by simp [found]))

end

/-! ## Where a command begins -/

/-- A simple command begins here. -/
structure BeginsCommand (rest : Str) : Prop where
  word : BeginsWord rest
  free : String.ofList (rest.takeWhile fun c => !isMeta c) ∉ reservedWords

theorem takeWhile_word {text : Str} (htext : ∀ c ∈ text, isMeta c = false) (hends : EndsWord rest) :
    (text ++ rest).takeWhile (fun c => !isMeta c) = text := by
  rw [List.takeWhile_append_of_pos fun c hc => by rw [htext c hc]; rfl]
  cases rest with
  | nil => simp
  | cons c rest => rw [List.takeWhile_cons_of_neg (by simp [hends c rfl]), List.append_nil]

theorem beginsCommand_name {name : Str} (hname : isName name = true) (hfree : String.ofList name ∉ reservedWords)
    (hends : EndsWord rest) : BeginsCommand (name ++ rest) where
  word := (plainWord_isReadBack_of_isName hname).begins rest
  free := by
    rwa [takeWhile_word (fun c hc => isMeta_of_isPlain
      (isPlain_of_isNameChar (List.all_eq_true.1 (isName_all hname) c hc))) hends]

theorem beginsCommand_setting {name text : Str} (hname : isName name = true) (htext : ∀ c ∈ text, c.toNat < 256) :
    BeginsCommand ((settingWord name text).raw ++ rest) where
  word := (settingWord_isReadBack hname htext).begins rest
  free := by
    have hraw : (settingWord name text).raw ++ rest = (name ++ ['=']) ++ (quotedText text ++ rest) := by
      simp [settingWord, Word.raw]
    have hfront : ∀ c ∈ name ++ ['='], (!isMeta c) = true := by
      simp only [List.mem_append, List.mem_singleton]
      rintro c (hc | rfl)
      · rw [isMeta_of_isPlain (isPlain_of_isNameChar (List.all_eq_true.1 (isName_all hname) c hc))]
        rfl
      · rfl
    -- no reserved word has an equals sign
    have hsign : ∀ w ∈ reservedWords, '=' ∉ w.toList := by decide
    intro hmem
    apply hsign _ hmem
    rw [hraw, List.takeWhile_append_of_pos hfront]
    simp

theorem frontWord_bind {β : Type} (next : Str → Parse β) :
    (frontWord >>= next) src = next (src.rest.takeWhile fun c => !isMeta c) src := rfl

theorem command_simple (h : BeginsCommand src.rest) :
    command commands src = simple commands (compound commands) src := by
  have hfree := h.free
  simp only [reservedWords, List.mem_append, List.mem_cons, not_or] at hfree
  obtain ⟨hclosing, hfunction, hbrace, hif, hwhile, huntil, hfor, hcase, htest, -⟩ := hfree
  have hparen : src.rest.head? ≠ some '(' := h.word.not_head rfl
  have hcompound : compound commands src = .ok (none, src) := by
    have hfront : compoundFront commands src = .ok (none, src) := by
      rw [compoundFront, line_bind, peek_bind, if_neg hparen, frontWord_bind]
      rw [if_neg hbrace, if_neg hif, if_neg (not_or.2 ⟨hwhile, huntil⟩), if_neg hfor, if_neg hcase, if_neg htest]
      rfl
    rw [compound, bind_of_ok hfront]
    rfl
  rw [command, bind_of_ok (blanks_unblank h.word.unblank), line_bind, frontWord_bind]
  rw [if_neg (by simpa using hclosing), if_neg hfunction, bind_of_ok hcompound]

theorem beginsCommand_words {name : Str} {words : List Word} {target : Option Word} (h : ReadsBack name words target)
    (hends : EndsWord rest) : BeginsCommand (wordsText name words target ++ rest) := by
  rw [wordsText, List.append_assoc, List.append_assoc]
  exact beginsCommand_name h.named h.free (endsWord_spaced words (endsWord_directed target hends))

theorem command_words {name : Str} {words : List Word} {target : Option Word} {d : Char} (gap : Str)
    (h : ReadsBack name words target) (hd : endsCommand d = true) (hgap : gap = [] ∨ gap = [' ']) :
    command commands ⟨wordsText name words target ++ (gap ++ d :: rest), line, unfinished⟩ =
      .ok (wordsCommand line name words target,
        ⟨d :: rest, line + linesOf (wordsText name words target), unfinished⟩) := by
  rw [command_simple (beginsCommand_words h (endsWord_gap hd hgap))]
  exact simple_words h hd hgap

end FuzzCampaign.Shell
