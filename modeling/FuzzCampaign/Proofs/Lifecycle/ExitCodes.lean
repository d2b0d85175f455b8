import FuzzCampaign.Lifecycle.Output
import FuzzCampaign.Proofs.Text.Pieces
import FuzzCampaign.Proofs.Text.Utf8
set_option autoImplicit false

/-! # Exit codes among script output

The dispatcher tells the exit code of a phase on the stream that carries the output of its script. A
marker only counts at the beginning of a line, so that the code is lost when the output stops in the
middle of one; `readAll_exitCodes_iff` says when it arrives, for output that does not contain the nonce. -/

namespace FuzzCampaign

open Text (encode decodeLossy dropReturns splitAll trim)
open Decimal (int32?)

namespace ControlMarkers

/-- The line with which the dispatcher tells that a phase ended. -/
def exitCodeLine (m : ControlMarkers) (code : UInt8) : List UInt8 :=
  encode (m.exitCode ++ toString code.toNat ++ "\n")

/-- The exit code that a line tells. -/
def told? (m : ControlMarkers) (line : String) : Option Int :=
  match m.classify line with
  | .exitCode code => some code
  | _ => none

theorem told?_eq (m : ControlMarkers) (line : String) :
    m.told? line = (Text.after? m.exitCode.toList line.toList).bind fun code => int32? (trim code) := by
  unfold told? classify
  cases Text.after? m.exitCode.toList line.toList with
  | some code => cases hcode : int32? (trim code) <;> simp [hcode]
  | none =>
    rw [Option.bind_none]
    by_cases htrace : isTrace line.toList = true
    · simp [htrace]
    · by_cases hnonce : Text.contains m.nonce.toList line.toList = true <;> simp [htrace, hnonce]

theorem exitCode_toList (m : ControlMarkers) :
    m.exitCode.toList = '#' :: m.nonce.toList ++ '#' :: "exitcode".toList ++ ['#'] := by
  simp [exitCode, around]

theorem nonce_within_exitCode (m : ControlMarkers) : m.nonce.toList <:+: m.exitCode.toList :=
  ⟨['#'], '#' :: "exitcode".toList ++ ['#'], by simp [exitCode_toList]⟩

/-- Only a line with the nonce in it tells an exit code. -/
theorem nonce_within_of_told? {m : ControlMarkers} {line : String} {code : Int}
    (h : m.told? line = some code) : m.nonce.toList <:+: line.toList := by
  rw [told?_eq, Text.after?] at h
  split at h
  · next hfront => exact m.nonce_within_exitCode.trans (List.isPrefixOf_iff_prefix.1 hfront).isInfix
  · exact absurd h (by simp)

/-! ## Decimal text of an exit code -/

theorem isDigit_of_mem_toString {n : Nat} {c : Char} (h : c ∈ (toString n).toList) : c.isDigit = true := by
  rw [Nat.toString_eq_repr, Nat.toList_repr] at h
  exact Nat.isDigit_of_mem_toDigits (by decide) (by decide) h

theorem int32?_toString {n : Nat} (hn : n < 256) : int32? (trim (toString n).toList) = some (n : Int) := by
  revert n
  decide +kernel

theorem int32?_of_hash_mem {cs : List Char} (h : '#' ∈ cs) : int32? cs = none := by
  have hdigits : ∀ digits : List Char, '#' ∈ digits →
      (digits.isEmpty || !digits.all Char.isDigit) = true := by
    intro digits hmem
    have : ¬ digits.all Char.isDigit = true := by
      intro hall
      exact absurd (List.all_eq_true.1 hall '#' hmem) (by decide)
    simp [this]
  unfold int32?
  split
  next negative digits hcut =>
  -- a sign in front is not the `#`
  have hleft : '#' ∈ digits := by
    split at hcut
    · cases hcut
      simpa using h
    · cases hcut
      simpa using h
    · cases hcut
      exact h
  exact if_pos (hdigits digits hleft)

/-- Trimming keeps what is no white space. -/
theorem mem_trim {cs : List Char} {c : Char} (hc : Text.isBlank c = false) (h : c ∈ cs) : c ∈ trim cs := by
  have hkept : ∀ cs : List Char, c ∈ cs → c ∈ cs.dropWhile Text.isBlank := by
    intro cs hmem
    rw [← List.takeWhile_append_dropWhile (p := Text.isBlank) (l := cs), List.mem_append] at hmem
    rcases hmem with hmem | hmem
    · exact absurd (List.all_eq_true.1 List.all_takeWhile c hmem) (by simp [hc])
    · exact hmem
  rw [trim, Text.trimEnd, List.mem_reverse]
  exact hkept _ (List.mem_reverse.2 (hkept cs h))

/-- A line that the marker begins tells the code. -/
theorem told?_marker (m : ControlMarkers) {n : Nat} (hn : n < 256) :
    m.told? (String.ofList (m.exitCode.toList ++ (toString n).toList)) = some (n : Int) := by
  rw [told?_eq, Text.after?, String.toList_ofList, if_pos (by simp), List.drop_left, Option.bind_some,
    int32?_toString hn]

/-- A line with something before the marker tells none, not even where the marker seems to begin it. -/
theorem told?_behind (m : ControlMarkers) {before digits : List Char} (hbefore : before ≠ []) :
    m.told? (String.ofList (before ++ m.exitCode.toList ++ digits)) = none := by
  rw [told?_eq, Text.after?, String.toList_ofList]
  split
  · next hfront =>
    obtain ⟨rest, hrest⟩ := List.isPrefixOf_iff_prefix.1 hfront
    rw [← hrest, List.drop_left, Option.bind_some]
    -- the end of the marker lies in what follows its length at the front
    have hsuffix : '#' :: digits <:+ rest := by
      have hrest' : rest <:+ m.exitCode.toList ++ rest := List.suffix_append _ _
      refine List.suffix_of_suffix_length_le ?_ hrest' ?_
      · refine ⟨before ++ ('#' :: m.nonce.toList ++ '#' :: "exitcode".toList), ?_⟩
        rw [hrest, exitCode_toList]
        simp
      · have hlength := congrArg List.length hrest
        have := List.length_pos_iff.2 hbefore
        simp only [List.length_append, List.length_cons] at hlength ⊢
        omega
    exact int32?_of_hash_mem (mem_trim (by decide) (hsuffix.subset List.mem_cons_self))
  · rfl

end ControlMarkers

namespace Demux

/-! ## Lines of a stream -/

theorem lines_exitCodes (m : ControlMarkers) (d : Demux) (texts : List String) :
    (d.lines m (texts.map fun text => (.standard, text))).exitCodes =
      d.exitCodes ++ texts.filterMap m.told? := by
  induction texts generalizing d with
  | nil => simp [lines]
  | cons text rest ih =>
    have hline : (d.line m .standard text).exitCodes = d.exitCodes ++ (m.told? text).toList := by
      unfold line ControlMarkers.told?
      cases m.classify text <;> simp
    have hrest := ih (d.line m .standard text)
    rw [hline, List.append_assoc] at hrest
    refine hrest.trans ?_
    cases hcode : m.told? text <;> simp [hcode]

/-- The exit codes of a stream are those that its lines tell. -/
theorem readAll_exitCodes (m : ControlMarkers) (bytes : List UInt8) :
    (readAll m {} .standard bytes).exitCodes = (segments bytes).filterMap (m.told? ∘ lineText) := by
  have h := lines_exitCodes m {} ((segments bytes).map lineText)
  rw [List.map_map, List.filterMap_map] at h
  exact h

theorem lineText_front (piece : List UInt8) : (lineText piece).toList <+: decodeLossy piece := by
  rw [lineText, String.toList_ofList, dropReturns, ← List.reverse_suffix, List.reverse_reverse]
  exact List.dropWhile_suffix _

/-- A text without replacement characters is in a line only when its encoding is in the bytes of it. -/
theorem encoded_within_lineText {text : String} {piece : List UInt8}
    (htext : Text.replacement ∉ text.toList) (h : text.toList <:+: (lineText piece).toList) :
    encode text <:+: piece := by
  rw [Text.encode_eq_flatMap]
  exact (Text.decoded_decodeLossy piece).encoded_within htext (h.trans (lineText_front piece).isInfix)

/-- No line has a line feed in it. -/
theorem lineFeed_notMem_lineText {bytes piece : List UInt8} (h : piece ∈ splitAll 10 bytes) :
    '\n' ∉ (lineText piece).toList := by
  intro hmem
  have hwithin : "\n".toList <:+: (lineText piece).toList := by
    obtain ⟨before, after, hline⟩ := List.append_of_mem hmem
    exact ⟨before, after, by simp [hline]⟩
  have hbytes := encoded_within_lineText (by decide) hwithin
  exact (Text.splitAll_mem h).2 (hbytes.subset (by decide))

theorem segments_subset {bytes piece : List UInt8} (h : piece ∈ segments bytes) :
    piece ∈ splitAll 10 bytes := by
  unfold segments at h
  dsimp only at h
  split at h
  · exact (List.dropLast_subset _) h
  · exact h

/-! ## Exit codes -/

/-- The exit codes that the ended lines of script output tell. -/
def mimicked (m : ControlMarkers) (out : List UInt8) : List Int :=
  (splitAll 10 out).dropLast.filterMap (m.told? ∘ lineText)

/-- What is written next begins a line. -/
def EndsLine (out : List UInt8) : Prop := out = [] ∨ out.getLast? = some 10

instance (out : List UInt8) : Decidable (EndsLine out) :=
  inferInstanceAs (Decidable (out = [] ∨ out.getLast? = some 10))

/-- Output without the nonce tells no exit codes, unless it stands for the nonce by not being well
formed. -/
theorem mimicked_eq_nil {m : ControlMarkers} {out : List UInt8} (hfree : ¬ encode m.nonce <:+: out)
    (hnonce : Text.replacement ∉ m.nonce.toList) : mimicked m out = [] := by
  rw [mimicked, List.filterMap_eq_nil_iff]
  intro piece hpiece
  cases htold : m.told? (lineText piece) with
  | none => exact htold
  | some code =>
    have hwithin := encoded_within_lineText hnonce (ControlMarkers.nonce_within_of_told? htold)
    exact absurd (hwithin.trans (Text.splitAll_mem (List.dropLast_subset _ hpiece)).1) hfree

theorem dropReturns_concat {c : Char} (hc : c ≠ '\r') (cs : List Char) :
    dropReturns (cs ++ [c]) = cs ++ [c] := by
  simp [dropReturns, hc]

/-- The text of a last line that the line of an exit code ends. -/
theorem lineText_last (m : ControlMarkers) (last : List UInt8) (code : UInt8) :
    lineText (last ++ encode (m.exitCode ++ toString code.toNat)) =
      String.ofList (decodeLossy last ++ m.exitCode.toList ++ (toString code.toNat).toList) := by
  have hsome : (toString code.toNat).toList ≠ [] := by
    rw [Nat.toString_eq_repr, Nat.toList_repr]
    exact Nat.toDigits_ne_nil
  obtain ⟨digits, digit, hdigits⟩ : ∃ digits digit, (toString code.toNat).toList = digits ++ [digit] :=
    ⟨_, _, (List.dropLast_concat_getLast hsome).symm⟩
  -- the line ends with a digit, so no carriage return is dropped from it
  have hreturn : digit ≠ '\r' := by
    rintro rfl
    have hmem : '\r' ∈ (toString code.toNat).toList := hdigits ▸ by simp
    exact absurd (ControlMarkers.isDigit_of_mem_toString hmem) (by decide)
  have hfront : (m.exitCode ++ toString code.toNat).toList =
      '#' :: (m.nonce.toList ++ '#' :: "exitcode".toList ++ ['#'] ++ (toString code.toNat).toList) := by
    rw [String.toList_append, ControlMarkers.exitCode_toList]
    rfl
  rw [lineText, Text.decodeLossy_append_encode (by decide) hfront, String.toList_append,
    ← List.append_assoc, hdigits, ← List.append_assoc, dropReturns_concat hreturn]

theorem decodeLossy_eq_nil_iff {bytes : List UInt8} : decodeLossy bytes = [] ↔ bytes = [] := by
  constructor
  · intro h
    exact (h ▸ Text.decoded_decodeLossy bytes).eq_nil
  · rintro rfl
    rfl

/-- The last line of a stream tells an exit code that was written where the line begins. -/
theorem told?_last (m : ControlMarkers) (last : List UInt8) (code : UInt8) :
    m.told? (lineText (last ++ encode (m.exitCode ++ toString code.toNat))) =
      if last = [] then some (code.toNat : Int) else none := by
  rw [lineText_last]
  split
  · next hlast =>
    rw [hlast]
    exact m.told?_marker code.toNat_lt
  · next hlast =>
    exact m.told?_behind (fun h => hlast (decodeLossy_eq_nil_iff.1 h))

/-- The line of an exit code goes on with the last line of the output before it. -/
theorem segments_exitCodeLine {m : ControlMarkers} {out last : List UInt8} {whole : List (List UInt8)}
    (code : UInt8) (hnonce : '\n' ∉ m.nonce.toList) (hout : splitAll 10 out = whole ++ [last]) :
    segments (out ++ m.exitCodeLine code) =
      whole ++ [last ++ encode (m.exitCode ++ toString code.toNat)] := by
  have hfree : (10 : UInt8) ∉ encode (m.exitCode ++ toString code.toNat) := by
    intro h
    have hmem : '\n' ∈ (m.exitCode ++ toString code.toNat).toList :=
      Text.mem_of_ascii_mem_encode (by decide) h
    rw [String.toList_append, ControlMarkers.exitCode_toList, List.mem_append] at hmem
    rcases hmem with hmem | hmem
    · exact hnonce (by simpa using hmem)
    · exact absurd (ControlMarkers.isDigit_of_mem_toString hmem) (by decide)
  have hline : out ++ m.exitCodeLine code =
      (out ++ encode (m.exitCode ++ toString code.toNat)) ++ [10] := by
    rw [ControlMarkers.exitCodeLine, Text.encode_append, ← List.append_assoc]
    rfl
  have hpieces : splitAll 10 (out ++ encode (m.exitCode ++ toString code.toNat) ++ [10]) = _ :=
    Text.splitAll_append_separator _ []
  rw [Text.splitAll_append hout hfree, Text.splitAll_nil] at hpieces
  rw [hline, segments, hpieces]
  simp

/-- **The exit codes of a stream that carries the output of a script and then its exit code.** -/
theorem readAll_exitCodes_eq (m : ControlMarkers) (out : List UInt8) (code : UInt8) :
    (readAll m {} .standard (out ++ m.exitCodeLine code)).exitCodes =
      if '\n' ∈ m.nonce.toList then []
      else mimicked m out ++ if EndsLine out then [(code.toNat : Int)] else [] := by
  rw [readAll_exitCodes]
  split
  · next hnonce =>
    -- the nonce would have to be within one line
    rw [List.filterMap_eq_nil_iff]
    intro piece hpiece
    cases htold : m.told? (lineText piece) with
    | none => exact htold
    | some code =>
      exact absurd ((ControlMarkers.nonce_within_of_told? htold).subset hnonce)
        (lineFeed_notMem_lineText (segments_subset hpiece))
  · next hnonce =>
    obtain ⟨whole, last, hout⟩ : ∃ whole last, splitAll 10 out = whole ++ [last] :=
      ⟨_, _, (List.dropLast_concat_getLast (Text.splitAll_ne_nil out)).symm⟩
    -- what the output leaves of its last line stands before the marker
    have hends : EndsLine out ↔ last = [] := by
      rw [EndsLine, ← Text.getLast?_splitAll_eq_nil_iff, hout]
      simp
    rw [segments_exitCodeLine code hnonce hout, List.filterMap_append, mimicked, hout,
      List.dropLast_concat]
    congr 1
    simp only [List.filterMap_cons, List.filterMap_nil, Function.comp_apply, told?_last, hends]
    by_cases hlast : last = [] <;> simp [hlast]

/-- **When the exit code of a phase arrives.** After output that does not contain the nonce it is the only
one to arrive exactly when the output ends a line and nothing in it is taken for an exit code, or when it
does not and the same code is mimicked there. A nonce without line feeds and replacement characters is
never mimicked, so that the code arrives after whole lines and is lost after any other output. -/
theorem readAll_exitCodes_iff {m : ControlMarkers} {out : List UInt8} (code : UInt8)
    (hfree : ¬ encode m.nonce <:+: out) :
    ((readAll m {} .standard (out ++ m.exitCodeLine code)).exitCodes = [(code.toNat : Int)] ↔
      '\n' ∉ m.nonce.toList ∧ mimicked m out = if EndsLine out then [] else [(code.toNat : Int)]) ∧
    ('\n' ∉ m.nonce.toList → Text.replacement ∉ m.nonce.toList →
      (readAll m {} .standard (out ++ m.exitCodeLine code)).exitCodes =
        if EndsLine out then [(code.toNat : Int)] else []) := by
  rw [readAll_exitCodes_eq]
  constructor
  · by_cases hfeed : '\n' ∈ m.nonce.toList
    · simp [hfeed]
    · by_cases hends : EndsLine out
      · simp [hfeed, hends]
      · simp [hfeed, hends]
  · intro hfeed hnonce
    rw [if_neg hfeed, mimicked_eq_nil hfree hnonce, List.nil_append]

/-- A script that writes `abc` without a line feed loses its exit code. -/
theorem exit_code_lost :
    ¬ encode "n0nce" <:+: encode "abc" ∧
      (readAll ⟨"n0nce"⟩ {} .standard (encode "abc" ++ ControlMarkers.exitCodeLine ⟨"n0nce"⟩ 0)).exitCodes =
        [] := by
  decide +kernel

/-- The same output as `readAll_exitCodes_iff` sees it, and what it says of a line. -/
theorem exit_code_after_abc :
    (readAll ⟨"n0nce"⟩ {} .standard (encode "abc" ++ ControlMarkers.exitCodeLine ⟨"n0nce"⟩ 0)).exitCodes =
        [] ∧
      (readAll ⟨"n0nce"⟩ {} .standard (encode "abc\n" ++ ControlMarkers.exitCodeLine ⟨"n0nce"⟩ 0)).exitCodes =
        [0] :=
  ⟨(readAll_exitCodes_iff 0 (by decide +kernel)).2 (by decide) (by decide),
    (readAll_exitCodes_iff 0 (by decide +kernel)).2 (by decide) (by decide)⟩

end Demux

end FuzzCampaign
