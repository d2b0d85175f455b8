import FuzzCampaign.Proofs.Shell.SimpleCommands
set_option autoImplicit false

/-! # How lines of commands are read

From the reading of commands follows the reading of pipes and alternatives, of a group and of the line they
stand on. A text is read line by line (`ReadsTo`), and what is behind a line is left as it is. -/

namespace FuzzCampaign.Shell

open Parse

variable {commands : Parse (List Command)} {src src' : Source} {rest : Str} {line : Nat}
  {unfinished : List UnfinishedHere}

section
variable {c : Command}

/-! ## Pipes and alternatives -/

/-- Whether a pipe follows. -/
def pipes (rest : Str) : Bool := "|".toList.isPrefixOf rest && !"||".toList.isPrefixOf rest

theorem stages_one {fuel : Nat} (h : command commands src = .ok (c, src')) (hunblank : Unblank src'.rest)
    (hpipes : pipes src'.rest = false) : stages commands (fuel + 1) src = .ok ([c], src') := by
  have hboth : "|&".toList.isPrefixOf src'.rest = false := by
    match hrest : src'.rest with
    | [] => rfl
    | [a] => simp [List.isPrefixOf]
    | a :: b :: more =>
      by_cases ha : '|' = a
      · by_cases hb : '&' = b
        · subst ha hb
          rw [hrest] at hpipes
          cases hpipes
        · simp [List.isPrefixOf, hb]
      · simp [List.isPrefixOf, ha]
  rw [stages, bind_of_ok h, bind_of_ok (blanks_unblank hunblank), rest_bind, if_neg (by rw [hboth]; decide), if_neg]
  · rfl
  · exact Bool.eq_false_iff.1 hpipes

theorem stages_cons {fuel : Nat} {cs : List Command}
    (h : command commands src = .ok (c, ⟨'|' :: ' ' :: rest, line, unfinished⟩))
    (hunblank : Unblank rest) (hline : rest.head? ≠ some '\n')
    (hrest : stages commands fuel ⟨rest, line, unfinished⟩ = .ok (cs, src')) :
    stages commands (fuel + 1) src = .ok (c :: cs, src') := by
  have hpipe : Unblank ('|' :: ' ' :: rest) := unblank_cons rfl _
  rw [stages, bind_of_ok h, bind_of_ok (blanks_unblank hpipe), rest_bind, if_neg (by simp [List.isPrefixOf]),
    if_pos (by simp [List.isPrefixOf]), drop_bind]
  have hdrop : after 1 ⟨'|' :: ' ' :: rest, line, unfinished⟩ = ⟨' ' :: rest, line, unfinished⟩ := rfl
  rw [hdrop, bind_of_ok (blankLines_space hunblank hline), bind_of_ok hrest]
  rfl

/-- The stages of a pipeline, as a command. -/
def piped : List Command → Command
  | [c] => c
  | cs => .pipeline cs

theorem pipeline_of_stages {fuel : Nat} {cs : List Command} (hbegins : BeginsWord src.rest)
    (hnegation : src.rest.takeWhile (fun c => !isMeta c) ≠ ['!'])
    (htime : src.rest.takeWhile (fun c => !isMeta c) ≠ "time".toList)
    (hstages : stages commands (src.rest.length + 1) src = .ok (cs, src')) :
    pipeline commands (fuel + 1) src = .ok (piped cs, src') := by
  rw [pipeline, bind_of_ok (blanks_unblank hbegins.unblank), frontWord_bind, if_neg hnegation, if_neg htime, rest_bind,
    bind_of_ok hstages]
  match cs with
  | [] => rfl
  | [_] => rfl
  | _ :: _ :: _ => rfl

theorem BeginsCommand.ne_reserved (h : BeginsCommand rest) {w : String} (hw : w ∈ reservedWords) :
    rest.takeWhile (fun c => !isMeta c) ≠ w.toList := fun heq =>
  h.free (by rwa [heq, String.ofList_toList])

theorem pipeline_begins {cs : List Command} (h : BeginsCommand src.rest)
    (hstages : stages commands (src.rest.length + 1) src = .ok (cs, src')) (fuel : Nat) :
    pipeline commands (fuel + 1) src = .ok (piped cs, src') :=
  pipeline_of_stages h.word (h.ne_reserved (w := "!") (by decide)) (h.ne_reserved (w := "time") (by decide)) hstages

theorem chained_end {fuel : Nat} (hunblank : Unblank src.rest) (hand : "&&".toList.isPrefixOf src.rest = false)
    (hor : "||".toList.isPrefixOf src.rest = false) : chained commands fuel c src = .ok (c, src) := by
  cases fuel with
  | zero => rfl
  | succ fuel =>
    have hnoAnd : accept "&&" src = .ok (false, src) := by rw [accept, hand]; rfl
    have hnoOr : accept "||" src = .ok (false, src) := by rw [accept, hor]; rfl
    rw [chained, bind_of_ok (blanks_unblank hunblank), bind_of_ok hnoAnd, if_neg Bool.false_ne_true, bind_of_ok hnoOr,
      if_neg Bool.false_ne_true]
    rfl

theorem chained_or {fuel : Nat} {other : Command} (hunblank : Unblank rest) (hline : rest.head? ≠ some '\n')
    (hother : pipeline commands (rest.length + 1) ⟨rest, line, unfinished⟩ = .ok (other, src')) :
    chained commands (fuel + 1) c ⟨'|' :: '|' :: ' ' :: rest, line, unfinished⟩ =
      chained commands fuel (.either c other) src' := by
  have hfront : Unblank ('|' :: '|' :: ' ' :: rest) := unblank_cons rfl _
  have hnoAnd : accept "&&" ⟨'|' :: '|' :: ' ' :: rest, line, unfinished⟩ =
      .ok (false, ⟨'|' :: '|' :: ' ' :: rest, line, unfinished⟩) := rfl
  have hor : accept "||" ⟨'|' :: '|' :: ' ' :: rest, line, unfinished⟩ =
      .ok (true, ⟨' ' :: rest, line, unfinished⟩) := rfl
  rw [chained, bind_of_ok (blanks_unblank hfront), bind_of_ok hnoAnd, if_neg Bool.false_ne_true, bind_of_ok hor,
    if_pos rfl, bind_of_ok (blankLines_space hunblank hline), rest_bind, bind_of_ok hother]

theorem stages_end {fuel : Nat} {d : Char} (hd : d = '\n' ∨ d = ';')
    (hc : command commands src = .ok (c, ⟨d :: rest, line, unfinished⟩)) :
    stages commands (fuel + 1) src = .ok ([c], ⟨d :: rest, line, unfinished⟩) := by
  refine stages_one hc (unblank_cons ?_ rest) ?_
  · rcases hd with rfl | rfl <;> rfl
  · rcases hd with rfl | rfl <;> rfl

theorem chained_stop {fuel : Nat} {d : Char} (hd : d = '\n' ∨ d = ';') :
    chained commands fuel c ⟨d :: rest, line, unfinished⟩ = .ok (c, ⟨d :: rest, line, unfinished⟩) := by
  refine chained_end (unblank_cons ?_ rest) ?_ ?_
  · rcases hd with rfl | rfl <;> rfl
  · rcases hd with rfl | rfl <;> rfl
  · rcases hd with rfl | rfl <;> rfl

theorem andOr_of_pipeline {d : Char} (hd : d = '\n' ∨ d = ';')
    (hread : pipeline commands (src.rest.length + 1) src = .ok (c, ⟨d :: rest, line, unfinished⟩)) :
    andOr commands src = .ok (c, ⟨d :: rest, line, unfinished⟩) := by
  rw [andOr, rest_bind, bind_of_ok hread]
  exact chained_stop hd

/-- A command to which nothing is joined. -/
theorem andOr_command {d : Char} (h : BeginsCommand src.rest) (hd : d = '\n' ∨ d = ';')
    (hc : command commands src = .ok (c, ⟨d :: rest, line, unfinished⟩)) :
    andOr commands src = .ok (c, ⟨d :: rest, line, unfinished⟩) :=
  andOr_of_pipeline hd (pipeline_begins h (stages_end hd hc) _)

/-- The output of a command, filtered by another one, or else a third command. -/
theorem andOr_filter {first filter other : Command} {last more : Str} {line' line'' : Nat}
    (hsrc : BeginsCommand src.rest) (hmore : BeginsCommand more) (hbegins : BeginsCommand last)
    (hfirst : command commands src = .ok (first, ⟨'|' :: ' ' :: more, line, unfinished⟩))
    (hfilter : command commands ⟨more, line, unfinished⟩ =
      .ok (filter, ⟨'|' :: '|' :: ' ' :: last, line', unfinished⟩))
    (hother : command commands ⟨last, line', unfinished⟩ = .ok (other, ⟨'\n' :: rest, line'', unfinished⟩)) :
    andOr commands src = .ok (.either (.pipeline [first, filter]) other, ⟨'\n' :: rest, line'', unfinished⟩) := by
  have hbars : Unblank ('|' :: '|' :: ' ' :: last) := unblank_cons rfl _
  obtain ⟨fuel, hfuel⟩ : ∃ fuel, src.rest.length = fuel + 1 := by
    obtain ⟨c, hc, -⟩ := hsrc.word
    cases hrest : src.rest with
    | nil => rw [hrest] at hc; cases hc
    | cons c rest => exact ⟨rest.length, rfl⟩
  have hstages : stages commands (src.rest.length + 1) src =
      .ok ([first, filter], ⟨'|' :: '|' :: ' ' :: last, line', unfinished⟩) := by
    rw [hfuel]
    exact stages_cons hfirst hmore.word.unblank (hmore.word.not_head rfl) (stages_one hfilter hbars rfl)
  have hlast : pipeline commands (last.length + 1) ⟨last, line', unfinished⟩ =
      .ok (other, ⟨'\n' :: rest, line'', unfinished⟩) :=
    pipeline_begins hbegins (stages_end (.inl rfl) hother) last.length
  rw [andOr, rest_bind, bind_of_ok (pipeline_begins hsrc hstages src.rest.length), rest_bind]
  exact (chained_or hbegins.word.unblank (hbegins.word.not_head rfl) hlast).trans (chained_stop (.inl rfl))

/-! ## Lines -/

theorem lineCommands_newline {fuel : Nat} (h : BeginsWord src.rest)
    (hread : andOr commands src = .ok (c, ⟨'\n' :: rest, line, unfinished⟩)) :
    lineCommands commands (fuel + 1) src = .ok ([c], ⟨'\n' :: rest, line, unfinished⟩) := by
  have hseparator : separator ⟨'\n' :: rest, line, unfinished⟩ = .ok (none, ⟨'\n' :: rest, line, unfinished⟩) := by
    have hunblank : Unblank ('\n' :: rest) := unblank_cons rfl _
    rw [separator, bind_of_ok (blanks_unblank hunblank)]
    rfl
  rw [lineCommands, bind_of_ok (blanks_unblank h.unblank), line_bind, bind_of_ok hread, bind_of_ok hseparator]
  rfl

/-- The last command of a group, before its closing brace. -/
theorem lineCommands_brace {fuel : Nat} (h : BeginsWord src.rest)
    (hread : andOr commands src = .ok (c, ⟨';' :: ' ' :: '\x7d' :: rest, line, unfinished⟩)) (hends : EndsWord rest) :
    lineCommands commands (fuel + 1) src = .ok ([c], ⟨'\x7d' :: rest, line, unfinished⟩) := by
  have hseparator : separator ⟨';' :: ' ' :: '\x7d' :: rest, line, unfinished⟩ =
      .ok (some false, ⟨' ' :: '\x7d' :: rest, line, unfinished⟩) := by
    have hunblank : Unblank (';' :: ' ' :: '\x7d' :: rest) := unblank_cons rfl _
    rw [separator, bind_of_ok (blanks_unblank hunblank)]
    rfl
  have hblanks : blanks ⟨' ' :: '\x7d' :: rest, line, unfinished⟩ = .ok ((), ⟨'\x7d' :: rest, line, unfinished⟩) :=
    blanks_space.trans (blanks_unblank (unblank_cons rfl _))
  have hatEnd : atEnd ⟨'\x7d' :: rest, line, unfinished⟩ = .ok (true, ⟨'\x7d' :: rest, line, unfinished⟩) := by
    have hbrace : ∀ c ∈ ['\x7d'], isMeta c = false := by simp; rfl
    have hfront : ('\x7d' :: rest).takeWhile (fun c => !isMeta c) = ['\x7d'] := takeWhile_word hbrace hends
    have hclosing : closingWords.contains (String.ofList ['\x7d']) = true := by decide
    rw [atEnd, rest_bind, frontWord_bind, hfront, hclosing, Bool.or_true]
    rfl
  rw [lineCommands, bind_of_ok (blanks_unblank h.unblank), line_bind, bind_of_ok hread, bind_of_ok hseparator]
  dsimp only
  rw [if_neg Bool.false_ne_true, bind_of_ok hblanks, bind_of_ok hatEnd]
  rfl

/-- A command on a line of its own is read, and what follows the line is left. -/
theorem nextLine_newline (h : BeginsWord src.rest)
    (hread : andOr (commandsIn maxCommandDepth) src = .ok (c, ⟨'\n' :: rest, line, unfinished⟩)) :
    nextLine src = .ok (some ([c], ⟨rest, line + 1, unfinished⟩)) := by
  have hempty : src.rest.isEmpty = false := by
    obtain ⟨d, hd, -⟩ := h
    cases hrest : src.rest with
    | nil => rw [hrest] at hd; cases hd
    | cons d more => rfl
  have hblanks : blanks ⟨'\n' :: rest, line, unfinished⟩ = .ok ((), ⟨'\n' :: rest, line, unfinished⟩) :=
    blanks_unblank (unblank_cons rfl _)
  rw [nextLine, blankLines_unblank h.unblank (h.not_head rfl)]
  dsimp only
  rw [hempty, if_neg Bool.false_ne_true, lineCommands_newline h hread]
  dsimp only
  rw [hblanks]
  rfl

/-- A comment in front of a line is passed over. -/
theorem nextLine_comment {text : Str} (htext : '\n' ∉ text) (h : BeginsWord rest) :
    nextLine ⟨'#' :: text ++ '\n' :: rest, line, unfinished⟩ =
      nextLine ⟨rest, line + linesOf ('#' :: text) + 1, unfinished⟩ := by
  have hrest : blankLines ⟨rest, line + linesOf ('#' :: text) + 1, unfinished⟩ =
      .ok ((), ⟨rest, line + linesOf ('#' :: text) + 1, unfinished⟩) := blankLines_unblank h.unblank (h.not_head rfl)
  rw [nextLine, nextLine, hrest, blankLines_comment htext h.unblank (h.not_head rfl)]

/-! ## Groups -/

theorem atEnd_begins (h : BeginsCommand src.rest) : atEnd src = .ok (false, src) := by
  obtain ⟨d, hd, hstart⟩ := h.word
  have hfree := h.free
  simp only [reservedWords, List.mem_append, not_or] at hfree
  have hclosing : closingWords.contains (String.ofList (src.rest.takeWhile fun c => !isMeta c)) = false := by
    simpa using hfree.1
  have hempty : src.rest.isEmpty = false := by
    cases hrest : src.rest with
    | nil => rw [hrest] at hd; cases hd
    | cons d more => rfl
  have hhead : ∀ e, startsWord e = false → (src.rest.head? == some e) = false := fun e he =>
    beq_false_of_ne (h.word.not_head he)
  rw [atEnd, rest_bind, frontWord_bind, hclosing, hempty, hhead _ rfl, hhead _ rfl, hhead _ rfl]
  rfl

/-- The one command of a group, up to its closing brace. -/
theorem commandsIn_brace {depth : Nat} {more : Str} {line' : Nat} {unfinished' : List UnfinishedHere}
    (h : BeginsCommand more) (hends : EndsWord rest)
    (hread : andOr (commandsIn depth) ⟨more, line, unfinished⟩ =
      .ok (c, ⟨';' :: ' ' :: '\x7d' :: rest, line', unfinished'⟩)) :
    commandsIn (depth + 1) ⟨' ' :: more, line, unfinished⟩ = .ok ([c], ⟨'\x7d' :: rest, line', unfinished'⟩) := by
  have hunblank : Unblank ('\x7d' :: rest) := unblank_cons rfl _
  rw [commandsIn, rest_bind, severalLines, bind_of_ok (blankLines_space h.word.unblank (h.word.not_head rfl)),
    bind_of_ok (atEnd_begins h), if_neg Bool.false_ne_true, rest_bind,
    bind_of_ok (lineCommands_brace h.word hread hends), bind_of_ok (blanks_unblank hunblank), peek_bind,
    if_neg (by simp)]
  rfl

theorem redirects_errors {fuel : Nat} {w : Word} (hw : w.IsReadBack) :
    redirects commands (fuel + 2) ⟨' ' :: '2' :: '>' :: (w.raw ++ '\n' :: rest), line, unfinished⟩ =
      .ok ([.mk (some 2) .output w], ⟨'\n' :: rest, line + linesOf w.raw, unfinished⟩) := by
  have hblanks : blanks ⟨' ' :: '2' :: '>' :: (w.raw ++ '\n' :: rest), line, unfinished⟩ =
      .ok ((), ⟨'2' :: '>' :: (w.raw ++ '\n' :: rest), line, unfinished⟩) :=
    blanks_space.trans (blanks_unblank (unblank_cons rfl _))
  have hfront : redirectFront ⟨'2' :: '>' :: (w.raw ++ '\n' :: rest), line, unfinished⟩ =
      .ok (some (some 2, .output), ⟨w.raw ++ '\n' :: rest, line, unfinished⟩) := by
    -- the word begins with none of the characters that would make another operator
    obtain ⟨c, hc, hstart⟩ := hw.begins ('\n' :: rest)
    obtain ⟨more, hmore⟩ : ∃ more, w.raw ++ '\n' :: rest = c :: more := by
      cases htext : w.raw ++ '\n' :: rest with
      | nil => rw [htext] at hc; cases hc
      | cons d more =>
        rw [htext] at hc
        exact ⟨more, by rw [Option.some.inj hc]⟩
    have hne : ∀ d, startsWord d = false → d ≠ c := fun d hd heq => by rw [heq, hstart] at hd; cases hd
    have htake : ('2' :: '>' :: c :: more).takeWhile Char.isDigit = ['2'] := rfl
    have hfind : (redirectOps.find? fun op => op.1.toList.isPrefixOf ('>' :: c :: more)) = some (">", .output) := by
      simp [redirectOps, List.isPrefixOf, hne '>' rfl, hne '&' rfl, hne '|' rfl]
    rw [hmore, redirectFront, rest_bind, htake]
    dsimp only
    rw [show ('2' :: '>' :: c :: more).drop ['2'].length = '>' :: c :: more from rfl, hfind]
    rfl
  have hunblank : Unblank ('\n' :: rest) := unblank_cons rfl _
  have hundirected : Undirected ('\n' :: rest) := undirected_cons rfl _
  have hends : EndsWord ('\n' :: rest) := endsWord_cons rfl rest
  have hnone : redirects commands (fuel + 1) ⟨'\n' :: rest, line + linesOf w.raw, unfinished⟩ =
      .ok ([], ⟨'\n' :: rest, line + linesOf w.raw, unfinished⟩) := by
    rw [redirects, bind_of_ok (blanks_unblank hunblank), bind_of_ok (redirectFront_undirected hundirected)]
    rfl
  rw [redirects, bind_of_ok hblanks, bind_of_ok hfront]
  dsimp only
  rw [bind_of_ok (redirectTarget_output hw hends), bind_of_ok hnone]
  rfl

/-- A group whose errors are redirected. -/
theorem command_group {body : List Command} {w : Word} {more : Str} {line' : Nat} {unfinished' : List UnfinishedHere}
    (hne : body ≠ []) (hw : w.IsReadBack)
    (hbody : commands ⟨' ' :: more, line, unfinished⟩ =
      .ok (body, ⟨'\x7d' :: ' ' :: '2' :: '>' :: (w.raw ++ '\n' :: rest), line', unfinished'⟩)) :
    command commands ⟨'\x7b' :: ' ' :: more, line, unfinished⟩ =
      .ok (.redirected line' (.group body) [.mk (some 2) .output w],
        ⟨'\n' :: rest, line' + linesOf w.raw, unfinished'⟩) := by
  have hfront : ('\x7b' :: ' ' :: more).takeWhile (fun c => !isMeta c) = ['\x7b'] := rfl
  have hunblank : Unblank ('\x7b' :: ' ' :: more) := unblank_cons rfl _
  have hopen : after 1 ⟨'\x7b' :: ' ' :: more, line, unfinished⟩ = ⟨' ' :: more, line, unfinished⟩ := rfl
  have hsome : someCommands commands ⟨' ' :: more, line, unfinished⟩ =
      .ok (body, ⟨'\x7d' :: ' ' :: '2' :: '>' :: (w.raw ++ '\n' :: rest), line', unfinished'⟩) := by
    rw [someCommands, bind_of_ok hbody, if_neg (by simpa using hne)]
    rfl
  have hclose : expectWord commands "\x7d"
      ⟨'\x7d' :: ' ' :: '2' :: '>' :: (w.raw ++ '\n' :: rest), line', unfinished'⟩ =
      .ok ((), ⟨' ' :: '2' :: '>' :: (w.raw ++ '\n' :: rest), line', unfinished'⟩) := rfl
  have hcompoundFront : compoundFront commands ⟨'\x7b' :: ' ' :: more, line, unfinished⟩ =
      .ok (some (.group body), ⟨' ' :: '2' :: '>' :: (w.raw ++ '\n' :: rest), line', unfinished'⟩) := by
    rw [compoundFront, line_bind, peek_bind, if_neg (by simp), frontWord_bind, hfront, if_pos (by decide), drop_bind,
      hopen, bind_of_ok hsome, bind_of_ok hclose]
    rfl
  have hredirects : withRedirects commands (.group body)
      ⟨' ' :: '2' :: '>' :: (w.raw ++ '\n' :: rest), line', unfinished'⟩ =
      .ok (.redirected line' (.group body) [.mk (some 2) .output w],
        ⟨'\n' :: rest, line' + linesOf w.raw, unfinished'⟩) := by
    rw [withRedirects, line_bind, rest_bind]
    exact bind_of_ok (redirects_errors hw)
  have hcompound : compound commands ⟨'\x7b' :: ' ' :: more, line, unfinished⟩ =
      .ok (some (.redirected line' (.group body) [.mk (some 2) .output w]),
        ⟨'\n' :: rest, line' + linesOf w.raw, unfinished'⟩) := by
    rw [compound, bind_of_ok hcompoundFront]
    exact bind_of_ok hredirects
  rw [command, bind_of_ok (blanks_unblank hunblank), line_bind, frontWord_bind, hfront, if_neg (by decide),
    if_neg (by decide), bind_of_ok hcompound]
  rfl

/-! ## Texts -/

end

/-- From a source certain commands are read, line by line, up to another one. -/
inductive ReadsTo : Source → List Command → Source → Prop where
  | done (src : Source) : ReadsTo src [] src
  | line {src mid last : Source} {found more : List Command} (first : nextLine src = .ok (some (found, mid)))
      (others : ReadsTo mid more last) : ReadsTo src (found ++ more) last

theorem ReadsTo.trans {src mid last : Source} {found more : List Command} (h : ReadsTo src found mid)
    (h' : ReadsTo mid more last) : ReadsTo src (found ++ more) last := by
  induction h with
  | done src => exact h'
  | line first others ih =>
    rw [List.append_assoc]
    exact .line first (ih h')

theorem ReadsTo.of_nextLine {c : Command} (h : nextLine src = .ok (some ([c], src'))) : ReadsTo src [c] src' :=
  .line h (.done src')

theorem ReadsTo.comment {text : Str} {found : List Command} (htext : '\n' ∉ text) (h : BeginsWord rest)
    (hne : found ≠ []) (hread : ReadsTo ⟨rest, line + linesOf ('#' :: text) + 1, unfinished⟩ found src') :
    ReadsTo ⟨'#' :: text ++ '\n' :: rest, line, unfinished⟩ found src' := by
  cases hread with
  | done => exact absurd rfl hne
  | line first others => exact .line ((nextLine_comment htext h).trans first) others

section
variable (rest line unfinished)

theorem readsTo_words {name : Str} {words : List Word} (h : ReadsBack name words none) :
    ReadsTo ⟨wordsText name words none ++ '\n' :: rest, line, unfinished⟩ [wordsCommand line name words none]
      ⟨rest, line + linesOf (wordsText name words none) + 1, unfinished⟩ := by
  have hbegins : BeginsCommand (wordsText name words none ++ '\n' :: rest) :=
    beginsCommand_words h (endsWord_cons rfl _)
  exact .of_nextLine (nextLine_newline hbegins.word
    (andOr_command hbegins (.inl rfl) (command_words [] h (by decide) (.inl rfl))))

theorem readsTo_setting {name text : Str} (hname : isName name = true) (htext : ∀ c ∈ text, c.toNat < 256) :
    ReadsTo ⟨(settingWord name text).raw ++ '\n' :: rest, line, unfinished⟩
      [.simple (line + linesOf (quotedText text)) [.mk (String.ofList name) .absent false [.quoted text]] [] []]
      ⟨rest, line + linesOf (quotedText text) + 1, unfinished⟩ := by
  have hbegins : BeginsCommand ((settingWord name text).raw ++ '\n' :: rest) := beginsCommand_setting hname htext
  refine .of_nextLine (nextLine_newline hbegins.word (andOr_command hbegins (.inl rfl) ?_))
  rw [command_simple hbegins]
  exact simple_setting hname htext (by decide)

/-- A group of one command, whose errors go to a file. -/
theorem readsTo_group {name : Str} {words : List Word} {w : Word} (h : ReadsBack name words none) (hw : w.IsReadBack) :
    ReadsTo ⟨'\x7b' :: ' ' :: (wordsText name words none ++
        ';' :: ' ' :: '\x7d' :: ' ' :: '2' :: '>' :: (w.raw ++ '\n' :: rest)), line, unfinished⟩
      [.redirected (line + linesOf (wordsText name words none)) (.group [wordsCommand line name words none])
        [.mk (some 2) .output w]]
      ⟨rest, line + linesOf (wordsText name words none) + linesOf w.raw + 1, unfinished⟩ := by
  let close : Str := ' ' :: '2' :: '>' :: (w.raw ++ '\n' :: rest)
  have hends : EndsWord (';' :: ' ' :: '\x7d' :: close) := endsWord_cons rfl _
  have hbegins : BeginsCommand (wordsText name words none ++ ';' :: ' ' :: '\x7d' :: close) :=
    beginsCommand_words h hends
  have hinner : andOr (commandsIn (maxCommandDepth - 1))
      ⟨wordsText name words none ++ ';' :: ' ' :: '\x7d' :: close, line, unfinished⟩ =
      .ok (wordsCommand line name words none,
        ⟨';' :: ' ' :: '\x7d' :: close, line + linesOf (wordsText name words none), unfinished⟩) :=
    andOr_command hbegins (.inr rfl) (command_words [] h (by decide) (.inl rfl))
  have hbody := commandsIn_brace hbegins (endsWord_cons rfl _) hinner
  have hgroup := command_group (by simp) hw hbody
  have hfront : ('\x7b' :: ' ' :: (wordsText name words none ++ ';' :: ' ' :: '\x7d' :: close)).takeWhile
      (fun c => !isMeta c) = ['\x7b'] := rfl
  have hword : BeginsWord ('\x7b' :: ' ' :: (wordsText name words none ++ ';' :: ' ' :: '\x7d' :: close)) :=
    ⟨'\x7b', rfl, by decide⟩
  exact .of_nextLine (nextLine_newline hword (andOr_of_pipeline (.inl rfl)
    (pipeline_of_stages hword (by rw [hfront]; decide) (by rw [hfront]; decide) (stages_end (.inl rfl) hgroup))))

/-- The output of a command, filtered by another one into a file, or else a third command. -/
theorem readsTo_filter {first filter other : Str} {words words' words'' : List Word} {target : Option Word}
    (h : ReadsBack first words none) (h' : ReadsBack filter words' target) (h'' : ReadsBack other words'' none) :
    ReadsTo ⟨wordsText first words none ++ ' ' :: '|' :: ' ' :: (wordsText filter words' target ++
        ' ' :: '|' :: '|' :: ' ' :: (wordsText other words'' none ++ '\n' :: rest)), line, unfinished⟩
      [.either (.pipeline [wordsCommand line first words none,
          wordsCommand (line + linesOf (wordsText first words none)) filter words' target])
        (wordsCommand (line + linesOf (wordsText first words none) + linesOf (wordsText filter words' target)) other
          words'' none)]
      ⟨rest, line + linesOf (wordsText first words none) + linesOf (wordsText filter words' target) +
        linesOf (wordsText other words'' none) + 1, unfinished⟩ := by
  have hlast : BeginsCommand (wordsText other words'' none ++ '\n' :: rest) :=
    beginsCommand_words h'' (endsWord_cons rfl _)
  have hmore : BeginsCommand (wordsText filter words' target ++
      ' ' :: '|' :: '|' :: ' ' :: (wordsText other words'' none ++ '\n' :: rest)) :=
    beginsCommand_words h' (endsWord_cons rfl _)
  have hsrc : BeginsCommand (wordsText first words none ++ ' ' :: '|' :: ' ' :: (wordsText filter words' target ++
      ' ' :: '|' :: '|' :: ' ' :: (wordsText other words'' none ++ '\n' :: rest))) :=
    beginsCommand_words h (endsWord_cons rfl _)
  exact .of_nextLine (nextLine_newline hsrc.word (andOr_filter hsrc hmore hlast
    (command_words [' '] h (by decide) (.inr rfl))
    (command_words [' '] h' (by decide) (.inr rfl))
    (command_words [] h'' (by decide) (.inl rfl))))

end

end FuzzCampaign.Shell
