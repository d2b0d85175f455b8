import FuzzCampaign.Proofs.Shell.Bytes
import FuzzCampaign.Proofs.Shell.Expansion
import FuzzCampaign.Proofs.Shell.Lines
set_option autoImplicit false

/-! # How the script of a phase is read

The shell reads the text that a phase is rendered to as it was meant: the strict mode, one declaration for each
variable of the environment, the trace, then the text of the user as it is, and the epilogue on lines of its own.
No value of a variable ends its quotes early, because every quote in it is written behind a backslash outside
of them. -/

namespace FuzzCampaign.Lifecycle

open Shell Shell.Parse

/-! ## Names of variables -/

/-- A letter of ASCII or an underscore. -/
def IsIdentifierStart (c : Char) : Prop := 'A' ≤ c ∧ c ≤ 'Z' ∨ 'a' ≤ c ∧ c ≤ 'z' ∨ c = '_'

/-- The names that variables can have: a letter or an underscore, then letters, digits and underscores. -/
def IsIdentifier (name : String) : Prop :=
  ∃ c rest, name.toList = c :: rest ∧ IsIdentifierStart c ∧ ∀ d ∈ rest, IsIdentifierStart d ∨ '0' ≤ d ∧ d ≤ '9'

theorem isVariableName_eq (name : String) : isVariableName name = isName name.toList := by
  rw [isVariableName, isName.eq_def]
  rfl

theorem isVariableName_iff (name : String) : isVariableName name = true ↔ IsIdentifier name := by
  rw [isVariableName_eq, IsIdentifier]
  cases name.toList with
  | nil => simp [isName]
  | cons c rest =>
    rw [isName, Bool.and_eq_true, List.all_eq_true]
    simp only [isNameChar_iff, isNameStart_iff]
    constructor
    · exact fun h => ⟨c, rest, rfl, h⟩
    · rintro ⟨_, _, ⟨⟩, h⟩
      exact h

/-! ## What the shell reads -/

/-- An option of the shell is set. -/
def optionSet (line : Nat) (option : String) : Command :=
  wordsCommand line "set".toList [plainWord "-o".toList, plainWord option.toList] none

/-- The arguments of the declaration of a variable: it is read-only and exported. -/
def declaredWords (name value : String) : List Word :=
  [plainWord "-rx".toList, settingWord name.toList (Str.ofString value)]

/-- The declarations of an environment, from a line on. -/
def declaredFrom (line : Nat) : List (String × String) → List Command
  | [] => []
  | (name, value) :: rest =>
    wordsCommand line "declare".toList (declaredWords name value) none ::
      declaredFrom (line + value.toList.count '\n' + 1) rest

/-- The line behind the declarations of an environment. -/
def lineAfter (line : Nat) : List (String × String) → Nat
  | [] => line
  | (_, value) :: rest => lineAfter (line + value.toList.count '\n' + 1) rest

/-- What is read in front of the text of the user. -/
def preambleCommands (entries : List (String × String)) : List Command :=
  [optionSet 2 "errexit", optionSet 3 "errtrace", optionSet 4 "nounset", optionSet 5 "pipefail"] ++
    declaredFrom 6 entries ++
    [.simple (lineAfter 6 entries) [.mk "PS4" .absent false [.quoted (Str.ofString ControlMarkers.tracePrompt)]] [] [],
      optionSet (lineAfter 6 entries + 1) "xtrace"]

/-- Which declarations are not saved: those of variables that are read-only. -/
def readOnlyPattern : Str := "^declare -[a-zA-Z]*r[a-zA-Z]* ".toList

/-- The arguments of the filter of the declarations. -/
def filterWords : List Word := [plainWord "-v".toList, plainWord "-E".toList, quotedWord readOnlyPattern]

/-- What is read behind the text of the user: the trace ends, and what is exported is saved. -/
def epilogueCommands (line : Nat) (exportsFile : String) : List Command :=
  [.redirected line (.group [wordsCommand line "set".toList [plainWord "+o".toList, plainWord "xtrace".toList] none])
      [.mk (some 2) .output (plainWord "/dev/null".toList)],
    .either
      (.pipeline [wordsCommand (line + 1) "export".toList [plainWord "-p".toList] none,
        wordsCommand (line + 1) "grep".toList filterWords (some (quotedWord (Str.ofString exportsFile)))])
      (wordsCommand (line + 1 + exportsFile.toList.count '\n') "true".toList [] none)]

/-! ## The preamble -/

theorem flag_isReadBack {flag letter : Char} (hflag : flag = '-' ∨ flag = '+') (h : Shell.isNameChar letter = true) :
    (plainWord [flag, letter]).IsReadBack := by
  have hplain := isPlain_of_isNameChar h
  rcases hflag with rfl | rfl
  · exact plainWord_isReadBack (by simp [hplain]; decide) (by decide) (.inl (by decide))
  · exact plainWord_isReadBack (by simp [hplain]; decide) (by decide) (.inl (by decide))

theorem readsBack_option {option : Str} (h : isName option = true) :
    ReadsBack "set".toList [plainWord "-o".toList, plainWord option] none where
  named := by decide
  free := by decide
  arguments := by
    simp only [List.forall_mem_cons]
    exact ⟨flag_isReadBack (.inl rfl) (by decide), plainWord_isReadBack_of_isName h, by simp⟩
  output := by simp
  first := by
    rintro _ ⟨⟩
    rfl

/-- A line that sets an option, in front of a text. -/
def optionLine (option : String) (rest : Str) : Str :=
  's' :: 'e' :: 't' :: ' ' :: '-' :: 'o' :: ' ' :: (option.toList ++ '\n' :: rest)

theorem optionLine_append (option : String) (rest more : Str) :
    optionLine option rest ++ more = optionLine option (rest ++ more) := by
  simp only [optionLine, List.append_assoc, List.cons_append]

theorem optionSet_read (option : String) (h : isName option.toList = true) (rest : Str) (line : Nat) :
    ReadsTo ⟨optionLine option rest, line, []⟩ [optionSet line option] ⟨rest, line + 1, []⟩ := by
  have htext : wordsText "set".toList [plainWord "-o".toList, plainWord option.toList] none =
      's' :: 'e' :: 't' :: ' ' :: '-' :: 'o' :: ' ' :: option.toList := by
    simp [wordsText, spaced, directed, plainWord, Word.raw]
  have hlines : linesOf (wordsText "set".toList [plainWord "-o".toList, plainWord option.toList] none) = 0 := by
    have hfront : linesOf ['s', 'e', 't', ' ', '-', 'o', ' '] = 0 := rfl
    rw [htext, show 's' :: 'e' :: 't' :: ' ' :: '-' :: 'o' :: ' ' :: option.toList =
      ['s', 'e', 't', ' ', '-', 'o', ' '] ++ option.toList from rfl, linesOf_append, linesOf_name h, hfront]
  have hread := readsTo_words rest line [] (readsBack_option h)
  rwa [hlines, htext] at hread

theorem readsBack_declared {name : String} (h : isName name.toList = true) (value : String) :
    ReadsBack "declare".toList (declaredWords name value) none where
  named := by decide
  free := by decide
  arguments := by
    rw [declaredWords]
    simp only [List.forall_mem_cons]
    refine ⟨?_, settingWord_isReadBack h Str.toNat_lt, by simp⟩
    exact plainWord_isReadBack (c := '-') (by decide) (by decide) (.inl (by decide))
  output := by simp
  first := by
    rintro _ ⟨⟩
    rfl

/-- A declaration is read as one command whatever the value is, and the next line begins behind it. -/
theorem declared_read {name : String} (h : isName name.toList = true) (value : String) (rest : Str) (line : Nat) :
    ReadsTo ⟨"declare -rx ".toList ++ ((settingWord name.toList (Str.ofString value)).raw ++ '\n' :: rest), line, []⟩
      [wordsCommand line "declare".toList (declaredWords name value) none]
      ⟨rest, line + value.toList.count '\n' + 1, []⟩ := by
  have htext : wordsText "declare".toList (declaredWords name value) none =
      "declare -rx ".toList ++ (settingWord name.toList (Str.ofString value)).raw := by
    simp [wordsText, declaredWords, spaced, directed, plainWord, Word.raw]
  have hlines : linesOf (wordsText "declare".toList (declaredWords name value) none) = value.toList.count '\n' := by
    have hfront : linesOf "declare -rx ".toList = 0 := rfl
    have hsign : linesOf ['='] = 0 := rfl
    have hraw : (settingWord name.toList (Str.ofString value)).raw =
        name.toList ++ (['='] ++ quotedText (Str.ofString value)) := rfl
    rw [htext, hraw, linesOf_append, linesOf_append, linesOf_append, hfront, linesOf_name h, hsign, linesOf_quotedText,
      linesOf_ofString]
    omega
  have hread := readsTo_words rest line [] (readsBack_declared h value)
  rwa [hlines, htext, List.append_assoc] at hread

theorem ofString_name {name : String} (h : isName name.toList = true) : Str.ofString name = name.toList := by
  refine Str.ofString_ascii (List.all_eq_true.2 fun c hc => ?_)
  have hbounds := toNat_of_isNameChar (List.all_eq_true.1 (isName_all h) c hc)
  exact decide_eq_true (by omega)

theorem ofString_declared {name : String} (h : isName name.toList = true) (value text : String) :
    Str.ofString ("declare -rx " ++ name ++ "=" ++ shellQuote value ++ "\n" ++ text) =
      "declare -rx ".toList ++ ((settingWord name.toList (Str.ofString value)).raw ++ '\n' :: Str.ofString text) := by
  have hfront : Str.ofString "declare -rx " = "declare -rx ".toList := Str.ofString_ascii (by decide)
  have hsign : Str.ofString "=" = ['='] := Str.ofString_ascii (by decide)
  have hfeed : Str.ofString "\n" = ['\n'] := Str.ofString_ascii (by decide)
  simp only [Str.ofString_append, Str.ofString_shellQuote, ofString_name h, hfront, hsign, hfeed]
  simp [settingWord, Word.raw]

/-- The declarations of an environment are read one by one. -/
theorem declarations_read {entries : List (String × String)} {text : String} (h : declarations entries = .ok text)
    (rest : Str) (line : Nat) :
    (∀ entry ∈ entries, isVariableName entry.1 = true) ∧
      ReadsTo ⟨Str.ofString text ++ rest, line, []⟩ (declaredFrom line entries) ⟨rest, lineAfter line entries, []⟩ := by
  induction entries generalizing text line with
  | nil =>
    cases h
    exact ⟨by simp, .done _⟩
  | cons entry entries ih =>
    obtain ⟨name, value⟩ := entry
    rw [declarations] at h
    split at h
    · next hname =>
      split at h
      · next more hmore =>
        cases h
        obtain ⟨hnames, hread⟩ := ih hmore (line + value.toList.count '\n' + 1)
        rw [isVariableName_eq] at hname
        have hfirst := declared_read hname value (Str.ofString more ++ rest) line
        refine ⟨List.forall_mem_cons.2 ⟨by rwa [isVariableName_eq], hnames⟩, ?_⟩
        rw [ofString_declared hname, List.append_assoc, List.append_assoc, List.cons_append]
        exact hfirst.trans hread
      · cases h
    · cases h

/-- A refused environment has a variable with another name. -/
theorem declarations_refused {entries : List (String × String)} {e : CampaignError}
    (h : declarations entries = .error e) :
    ∃ entry ∈ entries, isVariableName entry.1 = false ∧ e = notAVariable entry.1 := by
  induction entries with
  | nil => cases h
  | cons entry entries ih =>
    obtain ⟨name, value⟩ := entry
    rw [declarations] at h
    split at h
    · split at h
      · cases h
      · next hrest =>
        cases h
        obtain ⟨entry, hentry, hrefused⟩ := ih hrest
        exact ⟨entry, List.mem_cons_of_mem _ hentry, hrefused⟩
    · next hname =>
      cases h
      exact ⟨_, List.mem_cons_self, Bool.eq_false_iff.2 hname, rfl⟩

theorem traced_read (rest : Str) (line : Nat) :
    ReadsTo ⟨(settingWord "PS4".toList (Str.ofString ControlMarkers.tracePrompt)).raw ++ '\n' :: rest, line, []⟩
      [.simple line [.mk "PS4" .absent false [.quoted (Str.ofString ControlMarkers.tracePrompt)]] [] []]
      ⟨rest, line + 1, []⟩ := by
  have hlines : linesOf (quotedText (Str.ofString ControlMarkers.tracePrompt)) = 0 := by
    rw [linesOf_quotedText, linesOf_ofString]
    decide
  have hname : isName "PS4".toList = true := by decide
  have hprompt : ∀ c ∈ Str.ofString ControlMarkers.tracePrompt, c.toNat < 256 := Str.toNat_lt
  have hread := readsTo_setting rest line [] hname hprompt
  rwa [hlines] at hread

/-- The text in front of the text of the user, with the declarations. -/
def preambleText (phase : Phase) (declared : String) : String :=
  "# " ++ phase.name ++ " phase\n" ++ strictMode ++ declared ++ "PS4=" ++ shellQuote ControlMarkers.tracePrompt ++
    "\nset -o xtrace\n"

/-- The title of a script, behind the sign of a comment. -/
def titleOf (phase : Phase) : Str := ' ' :: (phase.name.toList ++ " phase".toList)

/-- The bytes of the preamble: a comment, then the lines that are read one by one. -/
theorem ofString_preamble (phase : Phase) (declared : String) (rest : Str) :
    Str.ofString (preambleText phase declared) ++ rest =
      '#' :: titleOf phase ++ '\n' :: optionLine "errexit" (optionLine "errtrace" (optionLine "nounset"
        (optionLine "pipefail" (Str.ofString declared ++
          ((settingWord "PS4".toList (Str.ofString ControlMarkers.tracePrompt)).raw ++ '\n' ::
            optionLine "xtrace" rest))))) := by
  have htitle : Str.ofString ("# " ++ phase.name ++ " phase\n") = '#' :: titleOf phase ++ ['\n'] := by
    cases phase <;> exact Str.ofString_ascii (by decide)
  have hstrict : Str.ofString strictMode =
      optionLine "errexit" (optionLine "errtrace" (optionLine "nounset" (optionLine "pipefail" []))) :=
    (Str.ofString_ascii (by decide)).trans (by decide)
  have hprompt : Str.ofString "PS4=" = "PS4".toList ++ ['='] := Str.ofString_ascii (by decide)
  have htrace : Str.ofString "\nset -o xtrace\n" = '\n' :: optionLine "xtrace" [] := Str.ofString_ascii (by decide)
  have hraw : (settingWord "PS4".toList (Str.ofString ControlMarkers.tracePrompt)).raw =
      "PS4".toList ++ ['='] ++ quotedText (Str.ofString ControlMarkers.tracePrompt) := by
    simp [settingWord, Word.raw]
  simp only [preambleText, Str.ofString_append _ strictMode, Str.ofString_append _ declared,
    Str.ofString_append _ "PS4=", Str.ofString_append _ (shellQuote _), Str.ofString_append _ "\nset -o xtrace\n",
    Str.ofString_shellQuote, htitle, hstrict, hprompt, htrace, hraw, optionLine_append, List.append_assoc,
    List.cons_append, List.nil_append]

theorem preamble_read {entries : List (String × String)} {declared : String} (h : declarations entries = .ok declared)
    (phase : Phase) (rest : Str) :
    ReadsTo ⟨Str.ofString (preambleText phase declared) ++ rest, 1, []⟩ (preambleCommands entries)
      ⟨rest, lineAfter 6 entries + 2, []⟩ := by
  have htitle : '\n' ∉ titleOf phase := by cases phase <;> decide
  have hlines : linesOf ('#' :: titleOf phase) = 0 := by cases phase <;> rfl
  let traced : Str := (settingWord "PS4".toList (Str.ofString ControlMarkers.tracePrompt)).raw ++
    '\n' :: optionLine "xtrace" rest
  have hstrict := (((optionSet_read "errexit" (by decide) _ 2).trans (optionSet_read "errtrace" (by decide) _ 3)).trans
    (optionSet_read "nounset" (by decide) _ 4)).trans
    (optionSet_read "pipefail" (by decide) (Str.ofString declared ++ traced) 5)
  have hdeclared := (declarations_read h traced 6).2
  have htraced := (traced_read _ (lineAfter 6 entries)).trans
    (optionSet_read "xtrace" (by decide) rest (lineAfter 6 entries + 1))
  rw [ofString_preamble]
  refine .comment htitle ⟨'s', rfl, by decide⟩ (by simp [preambleCommands]) ?_
  rw [hlines]
  exact (hstrict.trans hdeclared).trans htraced

/-! ## The epilogue -/

/-- The line that ends the trace. -/
def untraceLine : String := "\x7b set +o xtrace; \x7d 2>/dev/null\n"

/-- The line that saves what is exported, up to the name of the file. -/
def exportFront : String := "export -p | grep -v -E '^declare -[a-zA-Z]*r[a-zA-Z]* ' > "

/-- The same line, behind the name of the file. -/
def exportBack : String := " || true\n"

/-- The text behind the text of the user. -/
def epilogueText (exportsFile : String) : String := untraceLine ++ exportFront ++ shellQuote exportsFile ++ exportBack

theorem readsBack_untraced : ReadsBack "set".toList [plainWord "+o".toList, plainWord "xtrace".toList] none where
  named := by decide
  free := by decide
  arguments := by
    simp only [List.forall_mem_cons]
    exact ⟨flag_isReadBack (.inr rfl) (by decide), plainWord_isReadBack_of_isName (by decide), by simp⟩
  output := by simp
  first := by
    rintro _ ⟨⟩
    rfl

theorem readsBack_exports : ReadsBack "export".toList [plainWord "-p".toList] none where
  named := by decide
  free := by decide
  arguments := by
    simp only [List.forall_mem_cons]
    exact ⟨flag_isReadBack (.inl rfl) (by decide), by simp⟩
  output := by simp
  first := by
    rintro _ ⟨⟩
    rfl

theorem readsBack_filter {target : Str} (h : ∀ c ∈ target, c.toNat < 256) :
    ReadsBack "grep".toList filterWords (some (quotedWord target)) where
  named := by decide
  free := by decide
  arguments := by
    have hpattern : readOnlyPattern.all (·.toNat < 256) = true := by decide
    rw [filterWords]
    simp only [List.forall_mem_cons]
    exact ⟨flag_isReadBack (.inl rfl) (by decide), flag_isReadBack (.inl rfl) (by decide),
      quotedWord_isReadBack fun c hc => of_decide_eq_true (List.all_eq_true.1 hpattern c hc), by simp⟩
  output := by
    rintro _ ⟨⟩
    exact quotedWord_isReadBack h
  first := by
    rintro _ ⟨⟩
    rfl

theorem readsBack_true : ReadsBack "true".toList [] none where
  named := by decide
  free := by decide
  arguments := by simp
  output := by simp
  first := by simp

/-- The filter of the declarations, up to its redirection. -/
def filterFront : Str := "grep".toList ++ spaced filterWords

theorem wordsText_filter (w : Word) :
    wordsText "grep".toList filterWords (some w) = filterFront ++ directed (some w) := by
  simp only [wordsText, filterFront, List.append_assoc]

theorem ofString_epilogue (exportsFile : String) :
    Str.ofString (epilogueText exportsFile) =
      '\x7b' :: ' ' :: (wordsText "set".toList [plainWord "+o".toList, plainWord "xtrace".toList] none ++
        ';' :: ' ' :: '\x7d' :: ' ' :: '2' :: '>' :: ((plainWord "/dev/null".toList).raw ++ '\n' ::
          (wordsText "export".toList [plainWord "-p".toList] none ++ ' ' :: '|' :: ' ' ::
            (wordsText "grep".toList filterWords (some (quotedWord (Str.ofString exportsFile))) ++
              ' ' :: '|' :: '|' :: ' ' :: (wordsText "true".toList [] none ++ ['\n']))))) := by
  have huntrace : Str.ofString untraceLine =
      '\x7b' :: ' ' :: (wordsText "set".toList [plainWord "+o".toList, plainWord "xtrace".toList] none ++
        ';' :: ' ' :: '\x7d' :: ' ' :: '2' :: '>' :: ((plainWord "/dev/null".toList).raw ++ ['\n'])) :=
    (Str.ofString_ascii (by decide)).trans (by decide)
  have hfront : Str.ofString exportFront = wordsText "export".toList [plainWord "-p".toList] none ++
      ' ' :: '|' :: ' ' :: (filterFront ++ [' ', '>', ' ']) :=
    (Str.ofString_ascii (by decide)).trans (by decide)
  have hback : Str.ofString exportBack = ' ' :: '|' :: '|' :: ' ' :: (wordsText "true".toList [] none ++ ['\n']) :=
    (Str.ofString_ascii (by decide)).trans (by decide)
  simp only [epilogueText, Str.ofString_append, Str.ofString_shellQuote, huntrace, hfront, hback, wordsText_filter,
    directed, quotedWord, Word.raw, List.append_assoc, List.cons_append, List.nil_append]

theorem epilogue_read (exportsFile : String) (line : Nat) :
    ReadsTo ⟨Str.ofString (epilogueText exportsFile), line, []⟩ (epilogueCommands line exportsFile)
      ⟨[], line + 2 + exportsFile.toList.count '\n', []⟩ := by
  have hnull : (plainWord "/dev/null".toList).IsReadBack :=
    plainWord_isReadBack (c := '/') (by decide) (by decide) (.inl (by decide))
  have hlines : linesOf (wordsText "grep".toList filterWords (some (quotedWord (Str.ofString exportsFile)))) =
      exportsFile.toList.count '\n' := by
    have hfront : linesOf filterFront = 0 := by decide
    have hraw : (quotedWord (Str.ofString exportsFile)).raw = quotedText (Str.ofString exportsFile) := rfl
    rw [wordsText_filter, linesOf_append, hfront, linesOf_directed, hraw, linesOf_quotedText, linesOf_ofString,
      Nat.zero_add]
  have huntraced : linesOf (wordsText "set".toList [plainWord "+o".toList, plainWord "xtrace".toList] none) = 0 := rfl
  have hdevice : linesOf (plainWord "/dev/null".toList).raw = 0 := rfl
  have hexports : linesOf (wordsText "export".toList [plainWord "-p".toList] none) = 0 := rfl
  have htrue : linesOf (wordsText "true".toList [] none) = 0 := rfl
  have hend : line + 1 + exportsFile.toList.count '\n' + 1 = line + 2 + exportsFile.toList.count '\n' := by omega
  have hgroup := fun rest => readsTo_group rest line [] readsBack_untraced hnull
  have htarget : ∀ c ∈ Str.ofString exportsFile, c.toNat < 256 := Str.toNat_lt
  have hfilter := readsTo_filter [] (line + 1) [] readsBack_exports (readsBack_filter htarget) readsBack_true
  simp only [huntraced, hdevice, Nat.add_zero] at hgroup
  simp only [hexports, hlines, htrue, Nat.add_zero] at hfilter
  rw [ofString_epilogue, ← hend]
  exact (hgroup _).trans hfilter

/-! ## The whole script -/

/-- How a script is cut into a preamble, the text of the user and an epilogue, and what each of them is to the
shell. -/
structure IsPhaseScript (entries : List (String × String)) (body exportsFile script preamble ending epilogue : String) :
    Prop where
  whole : script = preamble ++ (body ++ ending) ++ epilogue
  /-- The variables are declared in the order of their names, each once. -/
  ordered : Entries.Sorted entries
  /-- The text of the user stands as it is; at most its last line is ended. -/
  ended : (ending = "" ∨ ending = "\n") ∧ (body ++ ending).toList.getLast? = some '\n'
  /-- From the start of the script exactly these commands are read, and then the text of the user follows. -/
  before : ReadsTo { rest := Str.ofString script } (preambleCommands entries)
    { rest := Str.ofString (body ++ ending ++ epilogue), line := lineAfter 6 entries + 2 }
  /-- A declaration declares the name with the value that it has in the environment, whatever that is. -/
  declares : ∀ entry ∈ entries, ∀ run,
    commandWords run (plainWord "declare".toList :: declaredWords entry.1 entry.2) =
      pure (["declare".toList, "-rx".toList, Str.ofString (entry.1 ++ "=" ++ entry.2)], [])
  /-- Behind the text of the user exactly these commands are read, up to the end. -/
  behind : ∀ line, ∃ line', ReadsTo { rest := Str.ofString epilogue, line } (epilogueCommands line exportsFile)
    { rest := [], line := line' }
  /-- What is exported is saved in the file of that name, whatever the name is. -/
  saves : ∀ run, targetWord run (quotedWord (Str.ofString exportsFile)) = pure (some (Str.ofString exportsFile))

/-- What ends the last line of a text. -/
def endingOf (body : String) : String := if body.toList.getLast? = some '\n' then "" else "\n"

theorem endingOf_ended (body : String) :
    (endingOf body = "" ∨ endingOf body = "\n") ∧ (body ++ endingOf body).toList.getLast? = some '\n' := by
  rw [endingOf]
  split
  · next hended => exact ⟨.inl rfl, by simpa using hended⟩
  · exact ⟨.inr rfl, by simp⟩

theorem ofString_setting {name : String} (h : isName name.toList = true) (value : String) :
    Str.ofString (name ++ "=" ++ value) = name.toList ++ '=' :: Str.ofString value := by
  have hsign : Str.ofString "=" = ['='] := Str.ofString_ascii (by decide)
  rw [Str.ofString_append, Str.ofString_append, ofString_name h, hsign, List.append_assoc, List.singleton_append]

theorem isPhaseScript_rendered {entries : List (String × String)} {declared : String}
    (h : declarations entries = .ok declared) (hsorted : Entries.Sorted entries) (phase : Phase)
    (body exportsFile : String) : IsPhaseScript entries body exportsFile
      (preambleText phase declared ++ (body ++ endingOf body) ++ epilogueText exportsFile) (preambleText phase declared)
      (endingOf body) (epilogueText exportsFile) where
  whole := rfl
  ordered := hsorted
  ended := endingOf_ended body
  before := by
    rw [String.append_assoc, Str.ofString_append]
    exact preamble_read h phase _
  declares := by
    intro entry hentry run
    have hname : isName entry.1.toList = true := by
      rw [← isVariableName_eq]
      exact (declarations_read h [] 6).1 entry hentry
    rw [ofString_setting hname]
    exact commandWords_declare hname (Str.ofString entry.2)
  behind := fun line => ⟨_, epilogue_read exportsFile line⟩
  saves := fun run => targetWord_quoted (Str.ofString exportsFile)

/-- The script of a phase is refused, for its configuration, exactly when a variable has a name that no shell
variable can have. Otherwise the shell reads in it what was meant: no value of a variable ends its quotes early,
so the commands in front of the text of the user are the same whatever the values are. -/
theorem phaseScript_read_back (phase : Phase) (body : String) (env : EnvSnapshot) (exportsFile : String) :
    match phaseScript phase body env exportsFile with
    | .error e => ∃ entry ∈ env.entries, ¬IsIdentifier entry.1 ∧
        e = .config ("environment variable name " ++ Text.quoted entry.1 ++ " is not a valid shell identifier")
    | .ok script => (∀ entry ∈ env.entries, IsIdentifier entry.1) ∧
        ∃ preamble ending epilogue, IsPhaseScript env.entries body exportsFile script preamble ending epilogue := by
  cases hdeclared : declarations env.entries with
  | error e =>
    obtain ⟨entry, hentry, hname, rfl⟩ := declarations_refused hdeclared
    rw [phaseScript, hdeclared]
    refine ⟨entry, hentry, fun h => ?_, rfl⟩
    rw [(isVariableName_iff entry.1).2 h] at hname
    cases hname
  | ok declared =>
    have hnames := (declarations_read hdeclared [] 6).1
    rw [phaseScript, hdeclared]
    refine ⟨fun entry hentry => (isVariableName_iff _).1 (hnames entry hentry), preambleText phase declared,
      endingOf body, epilogueText exportsFile, ?_⟩
    have hscript : preambleText phase declared ++ (body ++ endingOf body) ++ epilogueText exportsFile =
        "# " ++ phase.name ++ " phase\n" ++ strictMode ++ declared ++ "PS4=" ++ shellQuote ControlMarkers.tracePrompt ++
          "\nset -o xtrace\n" ++ body ++ endingOf body ++ "\x7b set +o xtrace; \x7d 2>/dev/null\n" ++
          "export -p | grep -v -E '^declare -[a-zA-Z]*r[a-zA-Z]* ' > " ++ shellQuote exportsFile ++ " || true\n" := by
      simp only [preambleText, epilogueText, untraceLine, exportFront, exportBack, String.append_assoc]
    exact hscript ▸ isPhaseScript_rendered hdeclared env.sorted phase body exportsFile

end FuzzCampaign.Lifecycle
