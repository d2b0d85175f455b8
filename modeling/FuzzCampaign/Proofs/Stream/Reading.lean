import FuzzCampaign.Stream.Reader
import FuzzCampaign.Proofs.Text.Pieces
import Mathlib.Logic.Basic
set_option autoImplicit false

/-! # Reading does not depend on the chunks

A framer holds the bytes that are not yet cut into lines and remembers how many of them it searched for a
line feed (`Framer.Searched`). Each step of it takes a line off the front of what is left of the stream, or
finds that more bytes have to come (`Framer.Cuts`). So what was handed on and what the lines still to come
will add to it (`Reading.completed`) stay together the same along every run of the reader, however the
stream arrives, and `items_eq` says that this is what the stream gives when it is cut at once. -/

namespace FuzzCampaign.Stream

open Text (splitAll splitAll_ne_nil splitAll_append_separator splitAll_eq_singleton)

/-! ## Streams that are cut at once -/

theorem pieces_cons {line : List UInt8} (hline : lineFeed ∉ line) (rest : List UInt8) :
    pieces (line ++ lineFeed :: rest) = line :: pieces rest := by
  have hsplit : splitAll lineFeed (line ++ lineFeed :: rest) = line :: splitAll lineFeed rest := by
    rw [splitAll_append_separator, splitAll_eq_singleton hline, List.singleton_append]
  cases hrest : splitAll lineFeed rest with
  | nil => exact absurd hrest (splitAll_ne_nil rest)
  | cons first more =>
    simp only [pieces, hsplit, hrest, List.getLast?_cons_cons, List.dropLast_cons_cons]
    split <;> rfl

/-- A line feed ends the first line. -/
theorem cut_cons {line : List UInt8} (hline : lineFeed ∉ line) (rest : List UInt8) :
    cut (line ++ lineFeed :: rest) = pieceText line :: cut rest := by
  rw [cut, pieces_cons hline, List.map_cons]
  rfl

/-- What no line feed ends is a line unless it is empty or a lone carriage return. -/
theorem cut_of_notMem {rest : List UInt8} (hrest : lineFeed ∉ rest) :
    cut rest = if rest = [] ∨ rest = [carriageReturn] then [] else [pieceText rest] := by
  simp only [cut, pieces, splitAll_eq_singleton hrest, List.getLast?_singleton, Option.getD_some]
  split <;> rfl

theorem pieceText_of_le {piece : List UInt8} (h : piece.length ≤ maxLineBytes) :
    pieceText piece = lineText piece := by
  rw [pieceText, if_neg (Nat.not_lt.2 h)]

theorem pieceText_of_lt {piece : List UInt8} (h : maxLineBytes < piece.length) :
    pieceText piece = .error lineTooLong := by
  rw [pieceText, if_pos h]

/-- A first line above the limit is known by its first bytes. -/
theorem cut_overlong {stream : List UInt8} (hlong : maxLineBytes < stream.length)
    (hfree : lineFeed ∉ stream.take (maxLineBytes + 1)) :
    ∃ lines, cut stream = .error lineTooLong :: lines := by
  by_cases hfeed : lineFeed ∈ stream
  · obtain ⟨line, rest, rfl, hline⟩ := List.eq_append_cons_of_mem hfeed
    have hlength : maxLineBytes < line.length := by
      refine Nat.lt_of_not_le fun hshort => hfree ?_
      rw [List.take_append, List.take_of_length_le (Nat.le_succ_of_le hshort), Nat.succ_sub hshort,
        List.take_succ_cons]
      exact List.mem_append_right _ List.mem_cons_self
    exact ⟨cut rest, by rw [cut_cons hline, pieceText_of_lt hlength]⟩
  · have hone : 1 < maxLineBytes := by decide
    have hshort : ¬ (stream = [] ∨ stream = [carriageReturn]) := by
      rintro (rfl | rfl) <;> simp only [List.length_nil, List.length_singleton] at hlong <;> omega
    exact ⟨[], by rw [cut_of_notMem hfeed, if_neg hshort, pieceText_of_lt hlong]⟩

/-! ## Where a line ends -/

namespace Framer

theorem feedPosition?_eq_some {bytes : List UInt8} {limit passed position : Nat}
    (h : feedPosition? bytes limit passed = some position) :
    ∃ line rest, bytes = line ++ lineFeed :: rest ∧ lineFeed ∉ line ∧ position = passed + line.length ∧
      line.length < limit := by
  induction bytes generalizing limit passed with
  | nil => simp [feedPosition?] at h
  | cons b bytes ih =>
    cases limit with
    | zero => simp [feedPosition?] at h
    | succ limit =>
      rw [feedPosition?] at h
      split at h
      · next hb =>
        cases h
        exact ⟨[], bytes, by rw [hb, List.nil_append], List.not_mem_nil, rfl, Nat.zero_lt_succ limit⟩
      · next hb =>
        obtain ⟨line, rest, rfl, hline, rfl, hlimit⟩ := ih h
        refine ⟨b :: line, rest, rfl, ?_, ?_, ?_⟩
        · exact List.not_mem_cons_of_ne_of_not_mem (Ne.symm hb) hline
        · rw [List.length_cons]
          omega
        · exact Nat.succ_lt_succ hlimit

theorem feedPosition?_eq_none {bytes : List UInt8} {limit passed : Nat}
    (h : feedPosition? bytes limit passed = none) : lineFeed ∉ bytes.take limit := by
  induction bytes generalizing limit passed with
  | nil => simp
  | cons b bytes ih =>
    cases limit with
    | zero => simp
    | succ limit =>
      rw [feedPosition?] at h
      split at h
      · cases h
      · next hb =>
        rw [List.take_succ_cons]
        exact List.not_mem_cons_of_ne_of_not_mem (Ne.symm hb) (ih h)

/-- Nothing is being discarded, and there is no line feed among the bytes that were searched. -/
structure Searched (f : Framer) : Prop where
  kept : f.discarding = false
  within : f.searched ≤ f.buffer.length
  free : lineFeed ∉ f.buffer.take f.searched

variable {f : Framer}

theorem searched_of_fresh (buffer : List UInt8) : Searched { buffer } :=
  ⟨rfl, Nat.zero_le _, by simp⟩

theorem Searched.feed (hf : f.Searched) (bytes : List UInt8) : (f.feed bytes).Searched where
  kept := hf.kept
  within := by
    have hwithin := hf.within
    simp only [Framer.feed, List.length_append]
    omega
  free := by
    simp only [Framer.feed]
    rw [List.take_append_of_le_length hf.within]
    exact hf.free

/-- The end of a line is the first line feed of all, although only the bytes that were not searched are
looked at. -/
theorem lineEnd?_eq_some {position : Nat} (hf : f.Searched) (h : f.lineEnd? = some position) :
    ∃ line rest, f.buffer = line ++ lineFeed :: rest ∧ lineFeed ∉ line ∧ position = line.length ∧
      line.length ≤ maxLineBytes := by
  obtain ⟨line, rest, hdrop, hline, rfl, hlimit⟩ := feedPosition?_eq_some h
  have hlength : (f.buffer.take f.searched).length = f.searched := List.length_take_of_le hf.within
  refine ⟨f.buffer.take f.searched ++ line, rest, ?_, ?_, ?_, ?_⟩
  · rw [List.append_assoc, ← hdrop, List.take_append_drop]
  · rw [List.mem_append]
    exact not_or.2 ⟨hf.free, hline⟩
  · rw [List.length_append, hlength]
  · rw [List.length_append, hlength]
    omega

theorem lineEnd?_eq_none (hf : f.Searched) (h : f.lineEnd? = none) :
    lineFeed ∉ f.buffer.take (maxLineBytes + 1) := by
  have hrest := feedPosition?_eq_none h
  by_cases hsearched : f.searched ≤ maxLineBytes + 1
  · obtain ⟨more, hmore⟩ := Nat.exists_eq_add_of_le hsearched
    rw [hmore, Nat.add_sub_cancel_left] at hrest
    rw [hmore, List.take_add, List.mem_append]
    exact not_or.2 ⟨hf.free, hrest⟩
  · have hprefix : f.buffer.take (maxLineBytes + 1) <+: f.buffer.take f.searched :=
      List.take_prefix_take_left (Nat.le_of_not_le hsearched)
    exact fun hmem => hf.free (List.IsPrefix.subset hprefix hmem)

/-! ## One step of a framer -/

/-- What a step of the framer did with the stream, of which `more` is still to come: it cut the first line
off, or that line is an error, or there is no whole line, and then `done` holds of the framer. -/
inductive Cuts (more : List UInt8) (done : Framer → Prop) (f : Framer) : Found × Framer → Prop where
  | nothing {f' : Framer} (hsearched : f'.Searched) (hsame : f'.buffer = f.buffer) (hdone : done f') :
      Cuts more done f (.nothing, f')
  | line {text : String} {f' : Framer} (hsearched : f'.Searched)
      (hshorter : f'.buffer.length < f.buffer.length)
      (hcut : cut (f.buffer ++ more) = .ok text :: cut (f'.buffer ++ more)) :
      Cuts more done f (.line text, f')
  | failure {e : CampaignError} {f' : Framer} {lines : List (Except CampaignError String)}
      (hcut : cut (f.buffer ++ more) = .error e :: lines) : Cuts more done f (.failure e, f')

theorem cuts_ofText {more line : List UInt8} {done : Framer → Prop} {f' : Framer} (hsearched : f'.Searched)
    (hshorter : f'.buffer.length < f.buffer.length)
    (hcut : cut (f.buffer ++ more) = lineText line :: cut (f'.buffer ++ more)) :
    Cuts more done f (.ofText (lineText line), f') := by
  cases htext : lineText line with
  | ok text => exact .line hsearched hshorter (htext ▸ hcut)
  | error e => exact .failure (htext ▸ hcut)

/-- A framer without a line has no line feed and no more bytes than a line may have. -/
def Short (f : Framer) : Prop := lineFeed ∉ f.buffer ∧ f.buffer.length ≤ maxLineBytes

theorem next_cuts (more : List UInt8) (hf : f.Searched) : f.Cuts more Short f.next := by
  have hnext : f.next = f.nextLine := by
    rw [next, hf.kept]
    rfl
  rw [hnext, nextLine]
  split
  · next position hposition =>
    obtain ⟨line, rest, hbuffer, hline, rfl, hlimit⟩ := lineEnd?_eq_some hf hposition
    have htake : f.buffer.take line.length = line := by rw [hbuffer, List.take_left]
    have hdrop : f.buffer.drop (line.length + 1) = rest := by
      rw [hbuffer, ← List.drop_drop, List.drop_left, List.drop_one, List.tail_cons]
    rw [htake, hdrop]
    refine cuts_ofText (searched_of_fresh rest) ?_ ?_
    · simp only [hbuffer, List.length_append, List.length_cons]
      omega
    · rw [hbuffer, List.append_assoc, List.cons_append, cut_cons hline, pieceText_of_le hlimit]
  · next hnone =>
    have hfree := lineEnd?_eq_none hf hnone
    split
    · next hlong =>
      have hlength : maxLineBytes < f.buffer.length := by
        simpa [overlong, List.drop_eq_nil_iff] using hlong
      have hlong' : maxLineBytes < (f.buffer ++ more).length := by
        rw [List.length_append]
        omega
      rw [← @List.take_append_of_le_length _ _ more _ hlength] at hfree
      obtain ⟨lines, hlines⟩ := cut_overlong hlong' hfree
      exact .failure hlines
    · next hshort =>
      have hlength : f.buffer.length ≤ maxLineBytes := by
        simpa [overlong, List.drop_eq_nil_iff] using hshort
      rw [List.take_of_length_le (Nat.le_succ_of_le hlength)] at hfree
      refine .nothing ⟨hf.kept, Nat.le_refl _, ?_⟩ rfl ⟨hfree, hlength⟩
      rwa [List.take_length]

theorem last_cuts (hf : f.Searched) : f.Cuts [] (fun f' => cut f'.buffer = []) f.last := by
  have hcuts := next_cuts [] hf
  rw [last]
  generalize f.next = stepped at hcuts
  cases hcuts with
  | line hsearched hshorter hcut => exact .line hsearched hshorter hcut
  | failure hcut => exact .failure hcut
  | @nothing f' hsearched hsame hshort =>
    have hcut := cut_of_notMem hshort.1
    dsimp only
    split
    · next hend =>
      rw [if_pos hend] at hcut
      exact .nothing ⟨hsearched.kept, Nat.zero_le _, by simp⟩ hsame hcut
    · next hend =>
      rw [if_neg hend, pieceText_of_le hshort.2] at hcut
      refine cuts_ofText ⟨hsearched.kept, Nat.le_refl _, by simp⟩ ?_ ?_
      · rw [← hsame]
        exact List.length_pos_iff.2 fun hempty => hend (.inl hempty)
      · rw [List.append_nil, ← hsame, hcut]
        rfl

end Framer

/-! ## What was handed on and what is still to come -/

/-- As many items as the receiver takes. -/
def upTo (wanted : Option Nat) (items : List Item) : List Item :=
  match wanted with
  | none => items
  | some n => items.take n

@[simp]
theorem upTo_nil (wanted : Option Nat) : upTo wanted [] = [] := by
  cases wanted with
  | none => rfl
  | some n => exact List.take_nil

namespace Reading

/-- All items handed on in the end, when `coming` are those still to come. -/
def completed (r : Reading) (coming : List Item) : List Item :=
  r.items.reverse ++ if r.stopped then [] else upTo r.wanted coming

variable {r : Reading}

theorem completed_of_stopped (h : r.stopped = true) (coming : List Item) :
    r.completed coming = r.items.reverse := by
  simp [completed, h]

theorem completed_nil (r : Reading) : r.completed [] = r.items.reverse := by simp [completed]

theorem completed_forward (h : r.stopped = false) (item : Item) (coming : List Item) :
    (r.forward item).completed coming = r.completed (item :: coming) := by
  obtain ⟨items, wanted, stopped⟩ := r
  subst h
  cases wanted with
  | none => simp [forward, completed, upTo]
  | some n => cases n <;> simp [forward, completed, upTo]

theorem completed_failure (h : r.stopped = false) (e : CampaignError) (coming : List Item) :
    (r.failure e).completed coming = r.completed [.error e] := by
  rw [← completed_forward h, completed_of_stopped rfl, completed_nil]
  rfl

/-- A line that was cut adds what it is read as. -/
theorem completed_line (h : r.stopped = false) (text : String) (lines : List (Except CampaignError String)) :
    (r.line text).completed (itemsOfLines lines) = r.completed (itemsOfLines (.ok text :: lines)) := by
  rw [line, itemsOfLines]
  cases hread : ServerMessage.ofLine text with
  | error e => exact completed_failure h e _
  | ok found =>
    cases found with
    | none => rfl
    | some m => exact completed_forward h (.ok m) _

end Reading

/-! ## Runs -/

variable {more : List UInt8} {done : Framer → Prop} {step : Framer → Framer.Found × Framer}

/-- Cutting and reading lines changes nothing about all items in the end. -/
theorem drain_completed (hstep : ∀ f : Framer, f.Searched → f.Cuts more done (step f)) (fuel : Nat) (f : Framer)
    (r : Reading) (hf : f.Searched) (hr : r.stopped = false) (hfuel : f.buffer.length < fuel) :
    let after := drain step fuel f r
    after.2.completed (itemsOfLines (cut (after.1.buffer ++ more))) =
        r.completed (itemsOfLines (cut (f.buffer ++ more))) ∧
      (after.2.stopped = false → after.1.Searched ∧ done after.1) := by
  induction fuel generalizing f r with
  | zero => omega
  | succ fuel ih =>
    have hcuts := hstep f hf
    rw [drain]
    generalize step f = stepped at hcuts
    cases hcuts with
    | nothing hsearched hsame hdone =>
      dsimp only
      rw [hsame]
      exact ⟨rfl, fun _ => ⟨hsearched, hdone⟩⟩
    | failure hcut =>
      refine ⟨?_, nofun⟩
      rw [hcut]
      exact Reading.completed_failure hr _ _
    | @line text f' hsearched hshorter hcut =>
      have hline := Reading.completed_line hr text (cut (f'.buffer ++ more))
      rw [hcut, ← hline]
      dsimp only
      cases hstopped : (r.line text).stopped with
      | true =>
        rw [if_pos rfl]
        exact ⟨rfl, fun h => absurd (hstopped.symm.trans h) nofun⟩
      | false =>
        rw [if_neg Bool.false_ne_true]
        exact ih f' (r.line text) hsearched hstopped (by omega)

/-- Along the arrival of chunks, all items in the end are those of the bytes held and the bytes to come. -/
theorem arrive_completed (chunks : List (List UInt8)) (more : List UInt8) (state : Framer × Reading)
    (hstate : state.2.stopped = false → state.1.Searched) :
    let after := chunks.foldl arrive state
    after.2.completed (itemsOfLines (cut (after.1.buffer ++ more))) =
        state.2.completed (itemsOfLines (cut (state.1.buffer ++ (chunks.flatten ++ more)))) ∧
      (after.2.stopped = false → after.1.Searched) := by
  induction chunks generalizing state with
  | nil => exact ⟨rfl, hstate⟩
  | cons chunk rest ih =>
    obtain ⟨f, r⟩ := state
    obtain ⟨hchunk, hsearched⟩ : (arrive (f, r) chunk).2.completed
        (itemsOfLines (cut ((arrive (f, r) chunk).1.buffer ++ (rest.flatten ++ more)))) =
          r.completed (itemsOfLines (cut (f.buffer ++ (chunk ++ (rest.flatten ++ more))))) ∧
        ((arrive (f, r) chunk).2.stopped = false → (arrive (f, r) chunk).1.Searched) := by
      cases hr : r.stopped with
      | true =>
        simp only [arrive, hr, if_true, Reading.completed_of_stopped hr, true_and]
        exact fun h => absurd h nofun
      | false =>
        have hdrain := drain_completed (fun f hf => Framer.next_cuts (rest.flatten ++ more) hf)
          ((f.feed chunk).buffer.length + 1) (f.feed chunk) r
          ((hstate hr).feed chunk) hr (Nat.lt_succ_self _)
        simp only [arrive, hr, Bool.false_eq_true, if_false]
        rw [← List.append_assoc f.buffer]
        exact ⟨hdrain.1, fun h => (hdrain.2 h).1⟩
    obtain ⟨hrest, hafter⟩ := ih (arrive (f, r) chunk) hsearched
    refine ⟨?_, hafter⟩
    rw [List.foldl_cons, List.flatten_cons, List.append_assoc]
    exact hrest.trans hchunk

/-- What a receiver gets is what the stream gives when it is cut at once, as far as the receiver takes it. -/
theorem received_eq (wanted : Option Nat) (chunks : List (List UInt8)) :
    received wanted chunks = upTo wanted (itemsOfLines (cut chunks.flatten)) := by
  obtain ⟨harrived, hsearched⟩ := arrive_completed chunks [] ({}, { wanted }) fun _ => Framer.searched_of_fresh []
  have hwhole : Reading.completed { wanted } (itemsOfLines (cut chunks.flatten)) =
      upTo wanted (itemsOfLines (cut chunks.flatten)) := rfl
  simp only [List.nil_append, List.append_nil, hwhole] at harrived
  rw [← harrived, received]
  generalize chunks.foldl arrive ({}, { wanted }) = state at hsearched ⊢
  obtain ⟨f, r⟩ := state
  cases hr : r.stopped with
  | true => simp only [hr, if_true, Reading.completed_of_stopped]
  | false =>
    obtain ⟨hdrain, hdone⟩ := drain_completed (fun f hf => Framer.last_cuts hf)
      (f.buffer.length + 1) f r (hsearched hr) hr (Nat.lt_succ_self _)
    simp only [List.append_nil] at hdrain
    simp only [hr, Bool.false_eq_true, if_false]
    rw [← hdrain]
    cases hstopped : (drain Framer.last (f.buffer.length + 1) f r).2.stopped with
    | true => rw [Reading.completed_of_stopped hstopped]
    | false => rw [(hdone hstopped).2, itemsOfLines, Reading.completed_nil]

/-- The items of lines are messages and at most one error after them. -/
theorem itemsOfLines_shape (lines : List (Except CampaignError String)) :
    ∃ messages : List ServerMessage, itemsOfLines lines = messages.map .ok ∨
      ∃ e, itemsOfLines lines = messages.map .ok ++ [.error e] := by
  induction lines with
  | nil => exact ⟨[], .inl rfl⟩
  | cons line rest ih =>
    cases line with
    | error e => exact ⟨[], .inr ⟨e, rfl⟩⟩
    | ok text =>
      rw [itemsOfLines]
      cases ServerMessage.ofLine text with
      | error e => exact ⟨[], .inr ⟨e, rfl⟩⟩
      | ok found =>
        cases found with
        | none => exact ih
        | some m =>
          obtain ⟨messages, h | ⟨e, h⟩⟩ := ih
          · exact ⟨m :: messages, .inl (by rw [h, List.map_cons])⟩
          · exact ⟨m :: messages, .inr ⟨e, by rw [h, List.map_cons, List.cons_append]⟩⟩

/-- **However a stream is cut into chunks, the items are those of its lines cut at once.** They are messages
and at most one error after them, and a receiver that goes away after some items got the first of them. -/
theorem items_eq (chunks : List (List UInt8)) :
    items chunks = itemsOfLines (cut chunks.flatten) ∧
      (∃ messages : List ServerMessage, items chunks = messages.map .ok ∨
        ∃ e, items chunks = messages.map .ok ++ [.error e]) ∧
      ∀ n, received (some n) chunks = (items chunks).take n := by
  have hitems : items chunks = itemsOfLines (cut chunks.flatten) := received_eq none chunks
  rw [hitems]
  exact ⟨rfl, itemsOfLines_shape _, fun n => received_eq (some n) chunks⟩

end FuzzCampaign.Stream
