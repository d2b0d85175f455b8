import FuzzCampaign.Lifecycle.Dispatcher
import FuzzCampaign.Proofs.Lifecycle.ExitCodes
set_option autoImplicit false

/-! # What the shells of a host were asked and answered

A ledger keeps the account of a host: which lines asked its shells to run a script, which exit codes they
printed in answer to them, and what of that is still to come. `Answers` says of a host that its shells answer
each line that they read at most once and with one exit code, whenever the answers arrive and however a shell
comes to its end. While the client waits for a phase nothing but the answer to its line is outstanding, which is
`Awaits`; with the answer taken there is nothing left, which is `Settled`. -/

namespace FuzzCampaign

/-- An exit code that a shell printed, with the number of the line that it answers. -/
structure Answer where
  number : Nat
  code : UInt8
deriving DecidableEq, Repr

/-- The account of a host. -/
structure Ledger where
  /-- The lines that asked to run a script, in order. The number of a line is its position. -/
  asked : List String := []
  /-- All answers that were printed, in order. -/
  told : List Answer := []
  /-- The lines that the attached shell has still to answer, in order. -/
  unanswered : List Nat := []
  /-- Answers of the attached shell that the client did not receive, in order. -/
  inFlight : List Answer := []
deriving DecidableEq, Repr

/-! ## Lines that carry answers -/

namespace ControlMarkers

/-- The text of a line that tells an exit code. -/
def answerText (m : ControlMarkers) (code : UInt8) : List Char := m.exitCode.toList ++ (toString code.toNat).toList

/-- Only a line that begins as a marker does tells an exit code. -/
theorem told?_of_head? {m : ControlMarkers} {line : String} (h : line.toList.head? ≠ some '#') :
    m.told? line = none := by
  rw [told?_eq, Text.after?]
  split
  · next hfront =>
    obtain ⟨rest, hrest⟩ := List.isPrefixOf_iff_prefix.1 hfront
    rw [← hrest, exitCode_toList] at h
    exact absurd rfl h
  · rfl

theorem told?_of_free {m : ControlMarkers} {line : String} (h : ¬ m.nonce.toList <:+: line.toList) :
    m.told? line = none := by
  cases htold : m.told? line with
  | none => rfl
  | some code => exact absurd (nonce_within_of_told? htold) h

end ControlMarkers

/-- Lines of a shell and the answers that they carry. -/
inductive Carries (m : ControlMarkers) : List (OutputStream × String) → List Answer → Prop where
  | nil : Carries m [] []
  /-- Output of a script, without the nonce. -/
  | output {stream : OutputStream} {text : String} {lines : List (OutputStream × String)} {answers : List Answer} :
      ¬ m.nonce.toList <:+: text.toList → Carries m lines answers → Carries m ((stream, text) :: lines) answers
  /-- A line of the shell's own that is no marker, such as one of the execution trace. -/
  | chatter {stream : OutputStream} {text : String} {lines : List (OutputStream × String)} {answers : List Answer} :
      text.toList.head? ≠ some '#' → Carries m lines answers → Carries m ((stream, text) :: lines) answers
  | answer {a : Answer} {lines : List (OutputStream × String)} {answers : List Answer} :
      Carries m lines answers →
      Carries m ((.standard, String.ofList (m.answerText a.code)) :: lines) (a :: answers)
  /-- An answer behind output that ended no line. -/
  | behind {a : Answer} {before : List Char} {lines : List (OutputStream × String)} {answers : List Answer} :
      before ≠ [] → Carries m lines answers →
      Carries m ((.standard, String.ofList (before ++ m.answerText a.code)) :: lines) (a :: answers)

/-- The codes of some answers, as the client reads them. -/
def Answer.codes (answers : List Answer) : List Int := answers.map fun a => (a.code.toNat : Int)

theorem Demux.line_exitCodes (m : ControlMarkers) (d : Demux) (stream : OutputStream) (text : String) :
    (d.line m stream text).exitCodes = d.exitCodes ++
      match stream with
      | .standard => (m.told? text).toList
      | .errors => [] := by
  unfold line ControlMarkers.told?
  cases m.classify text <;> cases stream <;> simp

theorem Demux.lines_cons (m : ControlMarkers) (d : Demux) (stream : OutputStream) (text : String)
    (rest : List (OutputStream × String)) :
    d.lines m ((stream, text) :: rest) = (d.line m stream text).lines m rest := rfl

/-- What is read from lines are answers that they carry; those behind output are lost. -/
theorem Carries.heard {m : ControlMarkers} {lines : List (OutputStream × String)} {answers : List Answer}
    (h : Carries m lines answers) (d : Demux) :
    ∃ heard, heard.Sublist answers ∧ (d.lines m lines).exitCodes = d.exitCodes ++ Answer.codes heard := by
  induction h generalizing d with
  | nil => exact ⟨[], .slnil, (List.append_nil _).symm⟩
  | @output stream text lines answers hfree _ ih =>
    obtain ⟨heard, hsub, hcodes⟩ := ih (d.line m stream text)
    refine ⟨heard, hsub, ?_⟩
    rw [Demux.lines_cons, hcodes, Demux.line_exitCodes, ControlMarkers.told?_of_free hfree]
    cases stream <;> simp
  | @chatter stream text lines answers hhead _ ih =>
    obtain ⟨heard, hsub, hcodes⟩ := ih (d.line m stream text)
    refine ⟨heard, hsub, ?_⟩
    rw [Demux.lines_cons, hcodes, Demux.line_exitCodes, ControlMarkers.told?_of_head? hhead]
    cases stream <;> simp
  | @answer a lines answers _ ih =>
    obtain ⟨heard, hsub, hcodes⟩ := ih (d.line m .standard (String.ofList (m.answerText a.code)))
    refine ⟨a :: heard, hsub.cons_cons a, ?_⟩
    rw [Demux.lines_cons, hcodes, Demux.line_exitCodes, ControlMarkers.answerText, m.told?_marker a.code.toNat_lt]
    simp [Answer.codes]
  | @behind a before lines answers hbefore _ ih =>
    obtain ⟨heard, hsub, hcodes⟩ := ih (d.line m .standard (String.ofList (before ++ m.answerText a.code)))
    refine ⟨heard, hsub.cons a, ?_⟩
    rw [Demux.lines_cons, hcodes, Demux.line_exitCodes, ControlMarkers.answerText, ← List.append_assoc,
      m.told?_behind hbefore]
    simp

namespace Ledger

/-! ## What happens to a ledger -/

/-- The attached shell goes on, reading and answering lines in order, while the client receives lines of it. -/
inductive Goes (m : ControlMarkers) (l : Ledger) (lines : List (OutputStream × String)) (l' : Ledger) : Prop where
  | intro (answered received : List Answer) : l'.asked = l.asked → l'.told = l.told ++ answered →
      l.unanswered = answered.map Answer.number ++ l'.unanswered → l.inFlight ++ answered = received ++ l'.inFlight →
      Carries m lines received → Goes m l lines l'

/-- Nothing is asked, and what was told stays told. -/
structure Keeps (l l' : Ledger) : Prop where
  asked : l'.asked = l.asked
  told : l.told <+: l'.told

/-- A line is written that asks to run a script. -/
def ask (l : Ledger) (line : String) : Ledger :=
  { l with asked := l.asked ++ [line], unanswered := l.unanswered ++ [l.asked.length] }

/-- Nothing is outstanding. -/
structure Settled (l : Ledger) : Prop where
  unanswered : l.unanswered = []
  inFlight : l.inFlight = []

/-- Of everything that was asked at most the answer to line `k` is outstanding. The client may have read it without
having taken it: it holds these codes. -/
inductive Awaits (l : Ledger) (k : Nat) (held : List Int) : Prop where
  | intro (answers : List Answer) : held = Answer.codes answers → (∀ a ∈ answers ++ l.inFlight, a ∈ l.told) →
      ((answers ++ l.inFlight).map Answer.number ++ l.unanswered).Sublist [k] → Awaits l k held

section
variable {m : ControlMarkers} {l l' l'' : Ledger} {lines : List (OutputStream × String)} {k : Nat}

theorem Keeps.refl (l : Ledger) : Keeps l l := ⟨rfl, List.prefix_refl _⟩

theorem Keeps.trans (h : Keeps l l') (h' : Keeps l' l'') : Keeps l l'' :=
  ⟨h'.asked.trans h.asked, h.told.trans h'.told⟩

theorem Goes.refl (m : ControlMarkers) (l : Ledger) : Goes m l [] l :=
  ⟨[], [], rfl, (List.append_nil _).symm, rfl, List.append_nil _, .nil⟩

theorem Goes.keeps (h : Goes m l lines l') : Keeps l l' := by
  obtain ⟨answered, received, hasked, htold, -⟩ := h
  exact ⟨hasked, htold ▸ List.prefix_append _ _⟩

/-- A shell of which nothing is outstanding tells nothing. -/
theorem Settled.goes (h : Settled l) (hgoes : Goes m l lines l') : Settled l' := by
  obtain ⟨answered, received, -, -, hunanswered, hinFlight, -⟩ := hgoes
  rw [h.unanswered] at hunanswered
  obtain ⟨hnone, hleft⟩ := List.append_eq_nil_iff.1 hunanswered.symm
  rw [h.inFlight, List.map_eq_nil_iff.1 hnone] at hinFlight
  exact ⟨hleft, (List.append_eq_nil_iff.1 hinFlight.symm).2⟩

/-- After a line was written its answer is all that is outstanding. -/
theorem Settled.ask (h : Settled l) (line : String) : Awaits (l.ask line) l.asked.length [] := by
  refine ⟨[], rfl, ?_, ?_⟩
  · simp [Ledger.ask, h.inFlight]
  · simp [Ledger.ask, h.inFlight, h.unanswered]

/-- Nothing else becomes outstanding as the shell goes on. -/
theorem Awaits.goes {d : Demux} (h : Awaits l k d.exitCodes) (hgoes : Goes m l lines l') :
    Awaits l' k (d.lines m lines).exitCodes := by
  obtain ⟨answers, hheld, htold, honly⟩ := h
  obtain ⟨answered, received, -, htold', hunanswered, hinFlight, hcarries⟩ := hgoes
  obtain ⟨heard, hheard, hcodes⟩ := hcarries.heard d
  -- what was read, received and is still in flight was in flight before or was answered just now
  have hsub : ((answers ++ heard) ++ l'.inFlight).Sublist (answers ++ l.inFlight ++ answered) := by
    rw [List.append_assoc, List.append_assoc, hinFlight]
    exact (hheard.append (List.Sublist.refl _)).append_left answers
  refine ⟨answers ++ heard, ?_, fun a ha => ?_, ?_⟩
  · rw [hcodes, hheld, Answer.codes, Answer.codes, Answer.codes, List.map_append]
  · rw [htold']
    rcases List.mem_append.1 (hsub.subset ha) with hold | hnew
    · exact List.mem_append_left _ (htold a hold)
    · exact List.mem_append_right _ hnew
  · refine List.Sublist.trans ?_ honly
    rw [hunanswered, ← List.append_assoc, ← List.map_append]
    exact (hsub.map _).append_right _

/-- The code that is taken answers line `k`, and then nothing is outstanding. -/
theorem Awaits.take {d d' : Demux} {code : Int} (h : Awaits l k d.exitCodes) (htake : d.takeCode = some (code, d')) :
    (∃ c : UInt8, code = c.toNat ∧ ⟨k, c⟩ ∈ l.told) ∧ Settled l := by
  obtain ⟨answers, hheld, htold, honly⟩ := h
  unfold Demux.takeCode at htake
  cases answers with
  | nil =>
    rw [hheld] at htake
    cases htake
  | cons a rest =>
    rw [hheld] at htake
    cases htake
    -- the answer that was taken is the only one
    have hlength := honly.length_le
    simp only [List.length_append, List.length_map, List.length_cons, List.length_nil] at hlength
    have hnumber : a.number = k := by
      have hmem : a.number ∈ [k] := honly.subset (by simp)
      simpa using hmem
    refine ⟨⟨a.code, rfl, ?_⟩, List.length_eq_zero_iff.1 (by omega), List.length_eq_zero_iff.1 (by omega)⟩
    rw [← hnumber]
    exact htold a (by simp)

end

/-! ## Waiting -/

section
variable {ω : Type} (m : ControlMarkers) (ledger : ω → Ledger)

/-- The lines that arrive during a watch are those of a shell that goes on. -/
def Watched : Ledger → Watch ω → Prop
  | l, .over host => Goes m l [] (ledger host)
  | l, .wake found host later => Goes m l found.arrived (ledger host) ∧ Watched (ledger host) (later ())

/-- What is known when the wait for the answer to line `k` is over. -/
structure Awaited (l : Ledger) (k : Nat) (ended : PhaseEnd × Demux × ω) : Prop where
  keeps : Keeps l (ledger ended.2.2)
  /-- An exit code is the answer, and nothing is outstanding. -/
  code : ∀ code, ended.1 = .exitCode code →
    (∃ c : UInt8, code = c.toNat ∧ ⟨k, c⟩ ∈ (ledger ended.2.2).told) ∧ Settled (ledger ended.2.2)
  /-- When the shell is gone its answer may still come. -/
  exited : ended.1 = .exited → Awaits (ledger ended.2.2) k ended.2.1.exitCodes

variable {m ledger} {l : Ledger} {k : Nat} {d : Demux} {w : Watch ω}

theorem awaits_of_select {found : Wake} {ending : PhaseEnd} {d' : Demux} (h : Awaits l k d.exitCodes)
    (hselect : Dispatcher.select d found = some (ending, d')) :
    (∀ code, ending = .exitCode code → (∃ c : UInt8, code = c.toNat ∧ ⟨k, c⟩ ∈ l.told) ∧ Settled l) ∧
      (ending = .exited → Awaits l k d'.exitCodes) := by
  unfold Dispatcher.select at hselect
  split at hselect
  · cases hselect
    exact ⟨nofun, nofun⟩
  split at hselect
  · next htake =>
    cases hselect
    refine ⟨fun code hcode => ?_, nofun⟩
    cases hcode
    exact h.take htake
  split at hselect
  · cases hselect
    exact ⟨nofun, fun _ => h⟩
  split at hselect
  · cases hselect
    exact ⟨nofun, nofun⟩
  · cases hselect

/-- Whatever is found while the client waits, what it takes for the answer is the answer. -/
theorem await_awaited (hw : Watched m ledger l w) (h : Awaits l k d.exitCodes) :
    Awaited ledger l k (Dispatcher.await m w d) := by
  induction w generalizing l d with
  | «over» host => exact ⟨hw.keeps, nofun, nofun⟩
  | wake found host later ih =>
    obtain ⟨hgoes, hlater⟩ := hw
    have hread := h.goes hgoes
    rw [Dispatcher.await]
    cases hselect : Dispatcher.select (d.lines m found.arrived) found with
    | some ended =>
      obtain ⟨hcode, hexited⟩ := awaits_of_select hread hselect
      exact ⟨hgoes.keeps, hcode, hexited⟩
    | none =>
      obtain ⟨hkeeps, hcode, hexited⟩ := ih () hlater hread
      exact ⟨hgoes.keeps.trans hkeeps, hcode, hexited⟩

/-- A code that comes late is the answer as well. -/
theorem awaitLate_awaited (hw : Watched m ledger l w) (h : Awaits l k d.exitCodes) :
    Keeps l (ledger (Dispatcher.awaitLate m w d).2.2) ∧ ∀ code, (Dispatcher.awaitLate m w d).1 = some code →
      ∃ c : UInt8, code = c.toNat ∧ ⟨k, c⟩ ∈ (ledger (Dispatcher.awaitLate m w d).2.2).told := by
  induction w generalizing l d with
  | «over» host => exact ⟨hw.keeps, nofun⟩
  | wake found host later ih =>
    obtain ⟨hgoes, hlater⟩ := hw
    have hread := h.goes hgoes
    rw [Dispatcher.awaitLate]
    cases htake : (d.lines m found.arrived).takeCode with
    | some taken =>
      refine ⟨hgoes.keeps, fun code hcode => ?_⟩
      cases hcode
      exact (hread.take htake).1
    | none =>
      obtain ⟨hkeeps, hcode⟩ := ih () hlater hread
      exact ⟨hgoes.keeps.trans hkeeps, hcode⟩

end

end Ledger

/-! ## Hosts -/

open Ledger (Goes Keeps Watched)

/-- The shells of a host answer what they read: a shell begins with nothing outstanding, each line that asks to run a
script is one more, and an answered line is never answered again. What happens to a shell that is killed, gone or
could not be written to is left open; it may have told more. -/
structure Answers {ω : Type} (host : ShellHost ω) (m : ControlMarkers) (ledger : ω → Ledger) : Prop where
  makeDirectory : ∀ s, Keeps (ledger s) (ledger (host.makeDirectory s).2)
  store : ∀ set s, Keeps (ledger s) (ledger (host.store set s).2)
  removeDirectory : ∀ dir s, Keeps (ledger s) (ledger (host.removeDirectory dir s))
  spawn : ∀ set s, Keeps (ledger s) (ledger (host.spawn set s).2) ∧
    ((host.spawn set s).1 = .ok () → (ledger (host.spawn set s).2).Settled)
  /-- A line that was written is read at some time, or the shell comes to its end before. -/
  ask : ∀ path s, (host.write (m.execLine path) s).1 = .ok () →
    Goes m ((ledger s).ask (m.execLine path)) [] (ledger (host.write (m.execLine path) s).2)
  askFailed : ∀ path s reason, (host.write (m.execLine path) s).1 = .error reason →
    Keeps ((ledger s).ask (m.execLine path)) (ledger (host.write (m.execLine path) s).2)
  exit : ∀ s, Keeps (ledger s) (ledger (host.write m.exitLine s).2)
  watch : ∀ timeout cancelled s, Watched m ledger (ledger s) (host.watch timeout cancelled s)
  linger : ∀ s, Watched m ledger (ledger s) (host.linger s)
  arrived : ∀ s, Goes m (ledger s) (host.arrived s).1 (ledger (host.arrived s).2)
  kill : ∀ s, Keeps (ledger s) (ledger (host.kill s))
  reap : ∀ s, Keeps (ledger s) (ledger (host.reap s).2)
  drop : ∀ s, Keeps (ledger s) (ledger (host.drop s))

end FuzzCampaign
