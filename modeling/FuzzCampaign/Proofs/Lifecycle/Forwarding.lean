import Mathlib.Data.List.DropRight
import FuzzCampaign.Proofs.Lifecycle.Ledger
set_option autoImplicit false

/-! # Script output that is shown and kept

What a script writes in whole lines is shown line by line, but for the lines of its execution trace, and the last
lines shown are kept for the report of a failure. `forwarded_output` says so for a phase from its beginning to
its exit code, however its output is cut up on the way. -/

namespace FuzzCampaign

open Text (encode splitAll)

/-! ## Lines of the execution trace -/

namespace ControlMarkers

/-- A line of the execution trace: a `+` for each level of nesting, then the rest of the prompt. -/
def TraceLine (text : String) : Prop :=
  ∃ level rest, text.toList = List.replicate (level + 1) '+' ++ "~trace~ ".toList ++ rest

theorem dropWhile_plus (n : Nat) {c : Char} (hc : c ≠ '+') (rest : List Char) :
    (List.replicate n '+' ++ c :: rest).dropWhile (· == '+') = c :: rest := by
  induction n with
  | zero => simp [hc]
  | succ n ih => simpa [List.replicate_succ] using ih

theorem isTrace_iff {text : String} : isTrace text.toList = true ↔ TraceLine text := by
  have hprompt : tracePrompt.toList.drop 1 = "~trace~ ".toList := by decide
  unfold isTrace TraceLine
  rw [hprompt, Bool.and_eq_true, decide_eq_true_eq, List.isPrefixOf_iff_prefix]
  constructor
  · rintro ⟨hhead, rest, hrest⟩
    have hplus : text.toList.takeWhile (· == '+') =
        List.replicate (text.toList.takeWhile (· == '+')).length '+' :=
      List.eq_replicate_iff.2 ⟨rfl, fun c hc => by simpa using List.mem_takeWhile_imp hc⟩
    have hsome : 0 < (text.toList.takeWhile (· == '+')).length := by
      cases htext : text.toList with
      | nil => simp [htext] at hhead
      | cons c cs =>
        obtain rfl : c = '+' := by simpa [htext] using hhead
        simp
    refine ⟨(text.toList.takeWhile (· == '+')).length - 1, rest, ?_⟩
    rw [Nat.sub_add_cancel hsome, ← hplus, List.append_assoc, hrest, List.takeWhile_append_dropWhile]
  · rintro ⟨level, rest, htext⟩
    rw [htext, List.append_assoc]
    refine ⟨by simp [List.replicate_succ], rest, ?_⟩
    exact (dropWhile_plus (level + 1) (by decide) _).symm

instance : DecidablePred TraceLine := fun _ => decidable_of_iff _ isTrace_iff

theorem contains_iff {needle haystack : List Char} : Text.contains needle haystack = true ↔ needle <:+: haystack := by
  induction haystack with
  | nil => simp [Text.contains]
  | cons c rest ih => simp [Text.contains, ih, List.infix_cons_iff]

/-- A line without the nonce is a line of the trace or genuine output. -/
theorem classify_of_free {m : ControlMarkers} {text : String} (h : ¬ m.nonce.toList <:+: text.toList) :
    m.classify text = if TraceLine text then .trace text else .output text := by
  have hmarker : Text.after? m.exitCode.toList text.toList = none := by
    unfold Text.after?
    exact if_neg fun hfront => h (m.nonce_within_exitCode.trans (List.isPrefixOf_iff_prefix.1 hfront).isInfix)
  have hother : ¬ Text.contains m.nonce.toList text.toList = true := fun hcontains => h (contains_iff.1 hcontains)
  rw [classify, hmarker]
  dsimp only
  rw [if_neg hother]
  simp only [isTrace_iff]

end ControlMarkers

/-! ## Lines that are forwarded -/

/-- Of lines that are kept one after the other the last ones stay. -/
theorem OutputTail.lines_foldl_push (texts : List String) :
    (texts.foldl push {}).lines = texts.rtake tailLines := by
  induction texts using List.reverseRecOn with
  | nil => rfl
  | append_singleton texts text ih =>
    have hkept : (if (texts.rtake 20).length = 20 then (texts.rtake 20).drop 1 else texts.rtake 20) = texts.rtake 19 := by
      unfold List.rtake
      rw [List.length_drop, List.drop_drop]
      split
      · next hfull => rw [show texts.length - 20 + 1 = texts.length - 19 by omega]
      · next hroom => rw [show texts.length - 20 = texts.length - 19 by omega]
    rw [List.foldl_append, List.foldl_cons, List.foldl_nil, push, ih, tailLines, hkept]
    exact (List.rtake_concat_succ _ _ _).symm

namespace Demux

/-- The lines of a script's output that are shown. -/
def forwarded (texts : List String) : List String := texts.filter fun text => ¬ ControlMarkers.TraceLine text

section
variable {m : ControlMarkers} {texts : List String}

theorem lines_append (m : ControlMarkers) (d : Demux) (front back : List (OutputStream × String)) :
    d.lines m (front ++ back) = (d.lines m front).lines m back := List.foldl_append

/-- Output without the nonce tells no exit codes; its lines that are not of the trace are shown and kept. -/
theorem lines_of_free (d : Demux) (h : ∀ text ∈ texts, ¬ m.nonce.toList <:+: text.toList) :
    d.lines m (texts.map (.standard, ·)) =
      { d with
        shown := d.shown ++ (forwarded texts).map .printf
        tail := (forwarded texts).foldl OutputTail.push d.tail } := by
  induction texts generalizing d with
  | nil => simp [lines, forwarded]
  | cons text rest ih =>
    obtain ⟨htext, hrest⟩ := List.forall_mem_cons.1 h
    refine (ih (d.line m .standard text) hrest).trans ?_
    rw [line, ControlMarkers.classify_of_free htext]
    by_cases htrace : ControlMarkers.TraceLine text
    · simp [forwarded, htrace]
    · simp [forwarded, htrace]

/-- A line that begins with the marker of exit codes tells the code, and is shown nowhere. -/
theorem line_answer (m : ControlMarkers) (d : Demux) (code : UInt8) :
    d.line m .standard (String.ofList (m.exitCode.toList ++ (toString code.toNat).toList)) =
      { d with exitCodes := d.exitCodes ++ [(code.toNat : Int)] } := by
  have htold := m.told?_marker code.toNat_lt
  unfold ControlMarkers.told? at htold
  unfold line
  split at htold
  · next told hclassify =>
    rw [hclassify, Option.some.inj htold]
  · cases htold

/-- The lines of whole lines of output and the line of an exit code. -/
theorem segments_whole {out : List (List UInt8)} (code : UInt8) (hnonce : '\n' ∉ m.nonce.toList)
    (hwhole : ∀ line ∈ out, 10 ∉ line) :
    (segments (out.flatMap (· ++ [10]) ++ m.exitCodeLine code)).map lineText =
      out.map lineText ++ [String.ofList (m.exitCode.toList ++ (toString code.toNat).toList)] := by
  have hlast := lineText_last m [] code
  rw [List.nil_append] at hlast
  rw [segments_exitCodeLine code hnonce (Text.splitAll_flatMap hwhole), List.map_append, List.nil_append,
    List.map_singleton, hlast]
  rfl

/-- What is read of whole lines of output and the line of an exit code. -/
theorem lines_whole {out : List (List UInt8)} (code : UInt8) (hnonce : '\n' ∉ m.nonce.toList)
    (hwhole : ∀ line ∈ out, 10 ∉ line) :
    (segments (out.flatMap (· ++ [10]) ++ m.exitCodeLine code)).map (fun piece => (OutputStream.standard, lineText piece)) =
      (out.map lineText).map (.standard, ·) ++
        [(.standard, String.ofList (m.exitCode.toList ++ (toString code.toNat).toList))] := by
  have h := congrArg (List.map (OutputStream.standard, ·)) (segments_whole code hnonce hwhole)
  rwa [List.map_map, List.map_append, List.map_singleton] at h

/-- Whole lines of output and the line of an exit code are read. -/
theorem readAll_whole {out : List (List UInt8)} (code : UInt8) (hnonce : '\n' ∉ m.nonce.toList)
    (hwhole : ∀ line ∈ out, 10 ∉ line) (hfree : ∀ line ∈ out, ¬ m.nonce.toList <:+: (lineText line).toList)
    (d : Demux) :
    d.readAll m .standard (out.flatMap (· ++ [10]) ++ m.exitCodeLine code) =
      { exitCodes := d.exitCodes ++ [(code.toNat : Int)]
        shown := d.shown ++ (forwarded (out.map lineText)).map .printf
        tail := (forwarded (out.map lineText)).foldl OutputTail.push d.tail } := by
  have htexts : ∀ text ∈ out.map lineText, ¬ m.nonce.toList <:+: text.toList := by
    intro text htext
    obtain ⟨line, hline, rfl⟩ := List.mem_map.1 htext
    exact hfree line hline
  rw [readAll, lines_whole code hnonce hwhole, lines_append, lines_of_free d htexts]
  exact line_answer m _ code

end

end Demux

/-! ## What arrives during a phase -/

/-- These lines still arrive when the shell is gone. -/
inductive BringsLate {ω : Type} : Watch ω → List (OutputStream × String) → Prop where
  /-- The last of them arrive. -/
  | last {found : Wake} {host : ω} {later : Unit → Watch ω} : BringsLate (.wake found host later) found.arrived
  | more {found : Wake} {host : ω} {later : Unit → Watch ω} {lines : List (OutputStream × String)} : lines ≠ [] →
      BringsLate (later ()) lines → BringsLate (.wake found host later) (found.arrived ++ lines)

/-- These lines arrive while the client waits, or still arrive when the shell is gone, and until then the phase is
not cancelled and its time not over. -/
inductive Brings {ω : Type} (host : ShellHost ω) : Watch ω → List (OutputStream × String) → Prop where
  /-- The last of them arrive. -/
  | last {found : Wake} {s : ω} {later : Unit → Watch ω} : found.cancelled = false →
      Brings host (.wake found s later) found.arrived
  | more {found : Wake} {s : ω} {later : Unit → Watch ω} {lines : List (OutputStream × String)} :
      found.cancelled = false → found.exited = false → found.expired = false → lines ≠ [] →
      Brings host (later ()) lines → Brings host (.wake found s later) (found.arrived ++ lines)
  /-- The shell is gone before the last of them arrive. -/
  | gone {found : Wake} {s : ω} {later : Unit → Watch ω} {lines : List (OutputStream × String)} :
      found.cancelled = false → found.exited = true → lines ≠ [] →
      BringsLate (host.linger s) lines → Brings host (.wake found s later) (found.arrived ++ lines)

/-- Without exit codes. -/
def Demux.codeless (d : Demux) : Demux := { d with exitCodes := [] }

/-- The last of the lines tells an exit code, and no other does. -/
def Concludes (m : ControlMarkers) (lines : List (OutputStream × String)) (code : Int) : Prop :=
  ∃ front text, lines = front ++ [(.standard, text)] ∧ (∀ line ∈ front, m.told? line.2 = none) ∧
    m.told? text = some code

section
variable {m : ControlMarkers} {front lines : List (OutputStream × String)} {code : Int} {d : Demux}

theorem Demux.exitCodes_of_silent (h : ∀ line ∈ front, m.told? line.2 = none) (d : Demux) :
    (d.lines m front).exitCodes = d.exitCodes := by
  induction front generalizing d with
  | nil => rfl
  | cons line rest ih =>
    obtain ⟨hline, hrest⟩ := List.forall_mem_cons.1 h
    rw [lines_cons, ih hrest, line_exitCodes, hline]
    cases line.1 <;> exact List.append_nil _

/-- With the last line the code can be taken. -/
theorem Concludes.takeCode (h : Concludes m lines code) (hnone : d.exitCodes = []) :
    (d.lines m lines).takeCode = some (code, (d.lines m lines).codeless) := by
  obtain ⟨front, text, rfl, hsilent, htold⟩ := h
  have hcodes : (d.lines m (front ++ [(.standard, text)])).exitCodes = [code] := by
    have hlast : (d.lines m (front ++ [(.standard, text)])).exitCodes =
        ((d.lines m front).line m .standard text).exitCodes := by rw [Demux.lines_append]; rfl
    rw [hlast, Demux.line_exitCodes, Demux.exitCodes_of_silent hsilent, hnone, htold]
    rfl
  rw [Demux.takeCode, hcodes]
  rfl

/-- Before there is none. -/
theorem Concludes.split (h : Concludes m (front ++ lines) code) (hmore : lines ≠ []) :
    (∀ line ∈ front, m.told? line.2 = none) ∧ Concludes m lines code := by
  obtain ⟨all, text, hall, hsilent, htold⟩ := h
  obtain ⟨back, last, rfl⟩ : ∃ back last, lines = back ++ [last] :=
    ⟨_, _, (List.dropLast_concat_getLast hmore).symm⟩
  rw [← List.append_assoc] at hall
  obtain ⟨rfl, hlast⟩ := List.append_inj' hall rfl
  obtain ⟨hfront, hback⟩ := List.forall_mem_append.1 hsilent
  exact ⟨hfront, back, text, by rw [hlast], hback, htold⟩

theorem Demux.takeCode_of_silent (h : ∀ line ∈ front, m.told? line.2 = none) (hnone : d.exitCodes = []) :
    (d.lines m front).takeCode = none := by
  rw [takeCode, exitCodes_of_silent h, hnone]

namespace Dispatcher

variable {ω : Type} {host : ShellHost ω} {w : Watch ω}

theorem awaitLate_of_brings (h : BringsLate w lines) (hconcludes : Concludes m lines code)
    (hnone : d.exitCodes = []) :
    ∃ s, awaitLate m w d = (some code, (d.lines m lines).codeless, s) := by
  induction h generalizing d with
  | @last found s later => exact ⟨s, by rw [awaitLate, hconcludes.takeCode hnone]⟩
  | @more found s later lines hmore _ ih =>
    obtain ⟨hsilent, hlater⟩ := hconcludes.split hmore
    obtain ⟨s', hs'⟩ := ih hlater ((Demux.exitCodes_of_silent hsilent d).trans hnone)
    refine ⟨s', ?_⟩
    rw [awaitLate, Demux.takeCode_of_silent hsilent hnone, Demux.lines_append]
    exact hs'

/-- Waiting ends with the code, taken at once or late. -/
theorem await_of_brings (h : Brings host w lines) (hconcludes : Concludes m lines code) (hnone : d.exitCodes = []) :
    ∃ s, await m w d = (.exitCode code, (d.lines m lines).codeless, s) ∨
      ∃ d' s', await m w d = (.exited, d', s') ∧
        awaitLate m (host.linger s') d' = (some code, (d.lines m lines).codeless, s) := by
  induction h generalizing d with
  | @last found s later hcancelled =>
    refine ⟨s, .inl ?_⟩
    simp [await, select, hcancelled, hconcludes.takeCode hnone]
  | @more found s later lines hcancelled hexited hexpired hmore _ ih =>
    obtain ⟨hsilent, hlater⟩ := hconcludes.split hmore
    have hawait : await m (.wake found s later) d = await m (later ()) (d.lines m found.arrived) := by
      simp [await, select, hcancelled, hexited, hexpired, Demux.takeCode_of_silent hsilent hnone]
    rw [hawait, Demux.lines_append]
    exact ih hlater ((Demux.exitCodes_of_silent hsilent d).trans hnone)
  | @gone found s later lines hcancelled hexited hmore hlate =>
    obtain ⟨hsilent, hlater⟩ := hconcludes.split hmore
    obtain ⟨s', hs'⟩ := awaitLate_of_brings hlate hlater ((Demux.exitCodes_of_silent hsilent d).trans hnone)
    refine ⟨s', .inr ⟨d.lines m found.arrived, s, ?_, ?_⟩⟩
    · simp [await, select, hcancelled, hexited, Demux.takeCode_of_silent hsilent hnone]
    · rw [Demux.lines_append]
      exact hs'

/-- A phase during which such lines arrive ends with the code. -/
theorem runPhase_of_brings {d : Dispatcher} {phase : Phase} {script : String} {timeout : Nat} {cancelled : Bool}
    {s s₁ : ω} (hready : (d.checkAlive host s).alive = true)
    (hwrite : host.write (d.markers.execLine script) (host.arrived s).2 = (.ok (), s₁))
    (hbrings : Brings host (host.watch timeout cancelled s₁) lines) (hconcludes : Concludes d.markers lines code) :
    ∃ d' s', d.runPhase host phase script timeout cancelled s = (d'.codeResult phase code, d', s') ∧
      d'.output = ((d.listen host s).1.output.beginPhase.lines d.markers lines).codeless := by
  have hended := await_of_brings hbrings hconcludes (d := (d.listen host s).1.output.beginPhase) rfl
  unfold runPhase
  rcases hchecked : d.checkAlive host s with ⟨scripts, markers, output, alive⟩
  obtain rfl : scripts = d.scripts := (congrArg Dispatcher.scripts hchecked).symm
  obtain rfl : markers = d.markers := (congrArg Dispatcher.markers hchecked).symm
  obtain rfl : output = d.output := (congrArg Dispatcher.output hchecked).symm
  obtain rfl : alive = true := (congrArg Dispatcher.alive hchecked).symm.trans hready
  unfold listen at hended ⊢
  dsimp only at hended ⊢
  rw [if_neg (by decide), hwrite]
  dsimp only
  obtain ⟨s', hawait | ⟨heard, s₂, hawait, hlate⟩⟩ := hended
  · rw [hawait]
    exact ⟨_, s', rfl, rfl⟩
  · rw [hawait]
    dsimp only
    rw [hlate]
    exact ⟨_, s', rfl, rfl⟩

end Dispatcher

/-- Whole lines without the nonce and the line of an exit code tell this code alone. -/
theorem concludes_whole {out : List (List UInt8)} (code : UInt8) (hnonce : '\n' ∉ m.nonce.toList)
    (hwhole : ∀ line ∈ out, 10 ∉ line)
    (hfree : ∀ line ∈ out, ¬ m.nonce.toList <:+: (Demux.lineText line).toList) :
    Concludes m ((Demux.segments (out.flatMap (· ++ [10]) ++ m.exitCodeLine code)).map
      fun piece => (.standard, Demux.lineText piece)) (code.toNat : Int) := by
  refine ⟨_, _, Demux.lines_whole code hnonce hwhole, ?_, m.told?_marker code.toNat_lt⟩
  simp only [List.mem_map, forall_exists_index, and_imp, forall_apply_eq_imp_iff₂]
  exact fun line hline => ControlMarkers.told?_of_free (hfree line hline)

end

/-! ## The report of a failure -/

/-- A text within one line is its only line. -/
theorem Text.lines_eq_singleton {text : String} (hsome : text ≠ "") (hfeed : '\n' ∉ text.toList) :
    Text.lines text = [text] := by
  have hitems : text.toList.isEmpty = false := by simpa using hsome
  rw [lines, splitAll_eq_singleton hfeed]
  simp [hitems]

/-- The text of a script's failure is one line. -/
theorem lineFeed_notMem_message (phase : Phase) (code : UInt8) (tail : List String) :
    '\n' ∉ (CampaignError.reset phase.name (some (code.toNat : Int)) "script failed" tail).message.toList := by
  have hdigits : toString (code.toNat : Int) = toString code.toNat := rfl
  have hcode : '\n' ∉ (toString code.toNat).toList :=
    fun h => absurd (ControlMarkers.isDigit_of_mem_toString h) (by decide)
  cases phase <;> simpa [CampaignError.message, Phase.name, hdigits] using hcode

/-- A failed script is reported by the last lines of its output and the message, or by the text of the error when
there are none. -/
theorem reasonLines_failed (phase : Phase) (code : UInt8) (tail : List String) :
    (CampaignError.reset phase.name (some (code.toNat : Int)) "script failed" tail).reasonLines =
      if tail = [] then [(CampaignError.reset phase.name (some (code.toNat : Int)) "script failed" tail).message]
      else tail ++ ["script failed"] := by
  rw [CampaignError.reasonLines]
  simp only [List.isEmpty_iff]
  split
  · exact Text.lines_eq_singleton (by cases phase <;> simp [CampaignError.message]) (lineFeed_notMem_message _ _ _)
  · rfl

namespace Dispatcher

/-- **The output of a phase.** Its script writes whole lines that do not contain the nonce, and then its exit code is
told. Exactly those lines that are not of the execution trace are shown, in their order, and when the code is not
zero the phase fails with the last 20 of them, or with all when there are fewer. A failure without any is reported by
the text of the error, any other by these lines and the message. -/
theorem forwarded_output {ω : Type} {host : ShellHost ω} {d : Dispatcher} {phase : Phase} {script : String}
    {timeout : Nat} {cancelled : Bool} {s s₁ : ω} {out : List (List UInt8)} {code : UInt8}
    (hready : (d.checkAlive host s).alive = true)
    (hwrite : host.write (d.markers.execLine script) (host.arrived s).2 = (.ok (), s₁))
    (hnonce : '\n' ∉ d.markers.nonce.toList) (hwhole : ∀ line ∈ out, 10 ∉ line)
    (hfree : ∀ line ∈ out, ¬ d.markers.nonce.toList <:+: (Demux.lineText line).toList)
    (hbrings : Brings host (host.watch timeout cancelled s₁)
      ((Demux.segments (out.flatMap (· ++ [10]) ++ d.markers.exitCodeLine code)).map
        fun piece => (.standard, Demux.lineText piece))) :
    ∃ d' s' tail failure,
      d.runPhase host phase script timeout cancelled s = (if code = 0 then .ok () else .error failure, d', s') ∧
      d'.output.shown =
        (d.listen host s).1.output.shown ++ (Demux.forwarded (out.map Demux.lineText)).map .printf ∧
      d'.output.tail.lines = tail ∧ tail <:+ Demux.forwarded (out.map Demux.lineText) ∧
      tail.length = min 20 (Demux.forwarded (out.map Demux.lineText)).length ∧
      failure = .reset phase.name (some (code.toNat : Int)) "script failed" tail ∧
      failure.reasonLines = if tail = [] then [failure.message] else tail ++ ["script failed"] := by
  obtain ⟨d', s', hrun, houtput⟩ := runPhase_of_brings hready hwrite hbrings (concludes_whole code hnonce hwhole hfree)
  have hread : d'.output = _ := houtput.trans
    (congrArg Demux.codeless (Demux.readAll_whole code hnonce hwhole hfree (d.listen host s).1.output.beginPhase))
  have htail : d'.output.tail.lines = (Demux.forwarded (out.map Demux.lineText)).rtake 20 := by
    rw [hread]
    exact OutputTail.lines_foldl_push _
  have hresult : d'.codeResult phase (code.toNat : Int) = if code = 0 then .ok () else
      .error (.reset phase.name (some (code.toNat : Int)) "script failed" d'.output.tail.lines) := by
    have hzero : (code.toNat : Int) = 0 ↔ code = 0 := by
      rw [Int.natCast_eq_zero]
      exact UInt8.toNat_inj (b := 0)
    simp only [codeResult, hzero]
    rfl
  refine ⟨d', s', d'.output.tail.lines, _, by rw [hrun, hresult], ?_, rfl, ?_, ?_, rfl, reasonLines_failed _ _ _⟩
  · rw [hread]
    rfl
  · rw [htail]
    exact List.drop_suffix _ _
  · rw [htail, List.rtake, List.length_drop]
    omega

/-! ## A phase that fails -/

/-- A host on which a phase goes as told. -/
def recitingHost (watch : Watch Unit) : ShellHost Unit where
  clock _ := 0
  passUntil _ s := s
  freshNonce s := ("n0nce", s)
  makeDirectory s := (.ok "/d", s)
  store _ s := (.ok (), s)
  removeDirectory _ s := s
  spawn _ s := (.ok (), s)
  isRunning _ := true
  write _ s := (.ok (), s)
  watch _ _ _ := watch
  linger s := .over s
  arrived s := ([], s)
  kill s := s
  reap s := (.ok (), s)
  drop s := s

/-- A line of the trace, 20 lines of output and one that is not UTF-8, which ends with carriage returns. -/
def verboseOutput : List (List UInt8) :=
  encode "++~trace~ seq 20" :: ((List.range 20).map fun i => encode (toString i)) ++ [[0xFF, 13, 13]]

/-- What arrives of it. -/
def verboseLines : List (OutputStream × String) :=
  (Demux.segments (verboseOutput.flatMap (· ++ [10]) ++ ControlMarkers.exitCodeLine ⟨"n0nce"⟩ 3)).map
    fun piece => (.standard, Demux.lineText piece)

/-- It arrives in two parts. -/
def verboseHost : ShellHost Unit :=
  recitingHost (.wake { arrived := verboseLines.take 9 } () fun _ =>
    .wake { arrived := verboseLines.drop 9, exited := true } () fun _ => .over ())

/-- The first line of the output is neither shown nor kept, and the second is not kept, for there are 21. -/
theorem verbose_phase_reported :
    let d : Dispatcher := { scripts := ⟨"/d", [], ""⟩, markers := ⟨"n0nce"⟩ }
    (∀ line ∈ verboseOutput, 10 ∉ line ∧ ¬ encode d.markers.nonce <:+: line) ∧
      Brings verboseHost (verboseHost.watch 1000 false ()) verboseLines ∧
      ∃ d' s' tail failure,
        d.runPhase verboseHost .reset "/d/reset.bash" 1000 false () = (.error failure, d', s') ∧
        d'.output.shown = (((List.range 20).map fun i => toString i) ++ ["\uFFFD"]).map .printf ∧
        d'.output.tail.lines = tail ∧ tail = ((List.range 20).map fun i => toString i).tail ++ ["\uFFFD"] ∧
        failure = .reset "reset" (some 3) "script failed" tail ∧
        failure.reasonLines = tail ++ ["script failed"] := by
  intro d
  have hwhole : ∀ line ∈ verboseOutput, 10 ∉ line := by decide +kernel
  have hfree : ∀ line ∈ verboseOutput, ¬ encode d.markers.nonce <:+: line := by decide +kernel
  have hbrings : Brings verboseHost (verboseHost.watch 1000 false ()) verboseLines := by
    rw [← List.take_append_drop 9 verboseLines]
    exact .more rfl rfl rfl (by decide +kernel) (.last rfl)
  refine ⟨fun line hline => ⟨hwhole line hline, hfree line hline⟩, hbrings, ?_⟩
  obtain ⟨d', s', tail, failure, hrun, hshown, hkept, hback, hlength, hfailure, hreason⟩ :=
    @forwarded_output Unit verboseHost d .reset "/d/reset.bash" 1000 false () () verboseOutput 3 rfl rfl (by decide)
      hwhole (fun line hline h => hfree line hline (Demux.encoded_within_lineText (by decide) h)) hbrings
  have hforwarded : Demux.forwarded (verboseOutput.map Demux.lineText) =
      "0" :: (((List.range 20).map fun i => toString i).tail ++ ["\uFFFD"]) := by decide +kernel
  rw [hforwarded] at hshown hback hlength
  have htail : tail = ((List.range 20).map fun i => toString i).tail ++ ["\uFFFD"] := by
    obtain rfl | hrest := List.suffix_cons_iff.1 hback
    · exact absurd hlength (by decide +kernel)
    · exact hrest.eq_of_length (hlength.trans (by decide +kernel))
  rw [if_neg (by decide)] at hrun
  rw [if_neg (by rw [htail]; simp)] at hreason
  exact ⟨d', s', tail, failure, hrun, hshown, hkept, htail, hfailure, hreason⟩

end Dispatcher

end FuzzCampaign
