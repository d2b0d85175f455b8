import FuzzCampaign.Proofs.Shell.Words
import FuzzCampaign.Shell.Execute
set_option autoImplicit false

/-! # What literal words stand for

Whatever the state of the shell, a quoted text stands for itself: no parameter, no output of commands, no
brace, no separator and no name of a file comes out of it. The same holds of words without quotes that have
no character of a pattern, and of a name that is set to a quoted text behind a declaring command. -/

namespace FuzzCampaign.Shell

variable {run : Runner}

/-! ## Patterns -/

/-- Whether a character is part of no pattern: it is quoted, or it means nothing in one. -/
def isLiteralMark (m : Marked) : Bool := m.2 || !(m.1 == '*' || m.1 == '?' || m.1 == '\\' || m.1 == '[')

theorem readGlobs_literal {m : Marked} (h : isLiteralMark m = true) (fuel : Nat) (s : List Marked) :
    readGlobs (fuel + 1) (m :: s) = .char m.1 :: readGlobs fuel s := by
  obtain ⟨c, inQuotes⟩ := m
  cases inQuotes with
  | true => simp [readGlobs]
  | false =>
    simp only [isLiteralMark, Bool.false_or, Bool.not_eq_true', Bool.or_eq_false_iff, beq_eq_false_iff_ne] at h
    obtain ⟨⟨⟨hstar, hany⟩, hslash⟩, hbracket⟩ := h
    simp [readGlobs, hstar, hany, hslash, hbracket]

theorem isGlob_readGlobs {s : List Marked} (h : s.all isLiteralMark = true) (fuel : Nat) :
    isGlob (readGlobs fuel s) = false := by
  induction s generalizing fuel with
  | nil => cases fuel <;> rfl
  | cons m s ih =>
    rw [List.all_cons, Bool.and_eq_true] at h
    cases fuel with
    | zero => rfl
    | succ fuel =>
      rw [readGlobs_literal h.1, isGlob, List.any_cons]
      exact ih h.2 fuel

theorem expandPaths_literal {field : List Marked} (h : field.all isLiteralMark = true) :
    expandPaths field = pure [unmark field] := by
  have hglob : isGlob (globs field) = false := isGlob_readGlobs h _
  funext s k
  change (if s.options.noglob || !isGlob (globs field) then pure [unmark field] else _ : Sh (List Str)) s k = _
  rw [hglob, Bool.not_false, Bool.or_true, if_pos rfl]

@[simp] theorem unmark_mark (inQuotes : Bool) (text : Str) : unmark (mark inQuotes text) = text := by
  rw [unmark, mark, List.map_map]
  exact List.map_id text

/-! ## Words -/

/-- What a word without braces stands for, when it leaves one literal field whatever the state is. -/
theorem expandPieces_field (field : List Marked) {parts : List Part} {fragments : List Fragment}
    (hbraces : expandBraces parts = [parts]) (hexpand : expandWith run .argument parts = pure fragments)
    (hfields : ∀ separators, fieldsOf separators fragments = [field]) (hfield : field.all isLiteralMark = true) :
    expandPieces run parts = pure [unmark field] := by
  have hpaths := expandPaths_literal hfield
  rw [expandPieces, hbraces]
  funext s k
  simp only [Sh.mapList, hexpand]
  change (do return (← Sh.mapList expandPaths (fieldsOf s.separators fragments)).flatten ++ [] : Sh (List Str)) s k = _
  rw [hfields, Sh.mapList, hpaths]
  rfl

theorem expandParts_quoted (text : Str) : expandParts run [.quoted text] = pure [.quoted text] := by
  rw [expandParts, expandParts, expandPart]
  rfl

theorem expandPieces_quoted (text : Str) : expandPieces run [.quoted text] = pure [text] := by
  have hexpand : expandWith run .argument [.quoted text] = pure [.quoted text] := expandParts_quoted text
  have hpieces := expandPieces_field (mark true text) rfl hexpand (fun _ => rfl) (by simp [mark, isLiteralMark])
  rwa [unmark_mark] at hpieces

/-- The file to which output is redirected is the one whose name was quoted. -/
theorem targetWord_quoted (text : Str) : targetWord run (quotedWord text) = pure (some text) := by
  rw [targetWord, quotedWord, Word.parts, expandPieces_quoted]
  rfl

theorem assignmentWord?_setting {name : Str} (hname : isName name = true) :
    assignmentWord? (name ++ ['=']) = some { name := String.ofList name, value := some [] } := by
  have htake : (name ++ ['=']).takeWhile isNameChar = name :=
    takeWhile_name (isName_all hname) (by rintro _ ⟨⟩; decide)
  rw [assignmentWord?, htake, List.drop_left, hname]
  rfl

/-- The argument of a declaring command that sets a name to a quoted text. -/
theorem declaringWords_setting {name : Str} (hname : isName name = true) (text : Str) :
    declaringWords run [settingWord name text] = pure ([name ++ '=' :: text], []) := by
  have hvalue : expandText run .value [.quoted text] = pure text := by
    have hexpand : expandWith run .value [.quoted text] = pure [.quoted text] := expandParts_quoted text
    have hjoined : Fragment.joined [.quoted text] = text := List.append_nil text
    rw [expandText, hexpand]
    exact congrArg (pure : Str → Sh Str) hjoined
  rw [declaringWords, settingWord, Word.parts]
  dsimp only
  rw [assignmentWord?_setting hname]
  dsimp only [List.isEmpty_nil]
  rw [if_pos rfl, hvalue, declaringWords]
  change (pure ([(name ++ ['=']).take (name ++ ['=']).length ++ text], []) : Sh _) = _
  rw [List.take_length, List.append_assoc, List.singleton_append]

/-- The words of a command that declares a name. -/
theorem commandWords_declare {name : Str} (hname : isName name = true) (text : Str) :
    commandWords run [plainWord "declare".toList, plainWord "-rx".toList, settingWord name text] =
      pure (["declare".toList, "-rx".toList, name ++ '=' :: text], []) := by
  have hdeclare : expandPieces run [.plain "declare".toList] = pure ["declare".toList] :=
    expandPieces_field (mark false "declare".toList) rfl rfl (fun _ => rfl) (by decide)
  have hflags : expandPieces run [.plain "-rx".toList] = pure ["-rx".toList] :=
    expandPieces_field (mark false "-rx".toList) rfl rfl (fun _ => rfl) (by decide)
  have harguments : declaringWords run [plainWord "-rx".toList, settingWord name text] =
      pure (["-rx".toList, name ++ '=' :: text], []) := by
    have hnone : assignmentWord? "-rx".toList = none := rfl
    rw [declaringWords, declaringWords_setting hname text, plainWord, Word.parts]
    dsimp only
    rw [hnone]
    dsimp only
    rw [hflags]
    rfl
  have hdeclares : (declaring.any fun d => d.toList == (plainWord "declare".toList).raw) = true := by decide
  rw [commandWords, if_pos hdeclares, harguments]
  change (expandPieces run [.plain "declare".toList] >>= _) = _
  rw [hdeclare]
  rfl

end FuzzCampaign.Shell
