import FuzzCampaign.Stream.Writer
set_option autoImplicit false

/-! # How writing ends

A stream takes bytes, in pieces of any size, until it has no room left, and each flush of it may fail. The
writing of messages ends in one of three ways: all of them were written and flushed, there was no room for one,
or the flush of one failed (`write_ending`). `write_ends` says which bytes the stream has in each case. -/

namespace FuzzCampaign.Stream

namespace Pipe

/-- The stream has room for this many bytes. -/
def Fits (p : Pipe) (count : Nat) : Prop := ∀ room ∈ p.room, count ≤ room

instance (p : Pipe) (count : Nat) : Decidable (p.Fits count) :=
  inferInstanceAs (Decidable (∀ room ∈ p.room, count ≤ room))

/-- As many of the bytes as the stream has room for. -/
def taken (p : Pipe) (bytes : List UInt8) : List UInt8 := bytes.take (p.room.getD bytes.length)

/-- The stream when it has taken as many of the bytes as it has room for; `pieces` are those to come. -/
def filled (p : Pipe) (bytes : List UInt8) (pieces : List Nat) : Pipe :=
  { p with room := p.room.map (· - bytes.length), pieces, written := p.written ++ p.taken bytes }

/-- The error of a write without room. -/
def writeFailure (p : Pipe) : CampaignError := .transport ("write failed: " ++ p.writeError)

/-- The error of a flush that fails. -/
def flushFailure (p : Pipe) : CampaignError := .transport ("flush failed: " ++ p.flushError)

/-- The stream after a flush. -/
def flushed (p : Pipe) : Pipe := { p with flushFailures := p.flushFailures.tail }

section
variable {p : Pipe} {bytes front : List UInt8} {pieces : List Nat}

theorem taken_of_fits (h : p.Fits bytes.length) : p.taken bytes = bytes := by
  unfold taken
  cases hroom : p.room with
  | none => exact List.take_length
  | some room => exact List.take_of_length_le (h room hroom)

theorem taken_append (h : p.Fits front.length) (bytes : List UInt8) (pieces : List Nat) :
    p.taken (front ++ bytes) = front ++ (p.filled front pieces).taken bytes := by
  simp only [taken, filled]
  cases hroom : p.room with
  | none =>
    simp only [Option.map_none, Option.getD_none, List.take_length]
  | some room =>
    rw [Option.map_some, Option.getD_some, Option.getD_some, List.take_append, List.take_of_length_le (h room hroom)]

@[simp]
theorem filled_nil (p : Pipe) : p.filled [] p.pieces = p := by
  obtain ⟨room, pieces, flushFailures, writeError, flushError, written, shut⟩ := p
  cases room <;> simp [filled, taken]

theorem filled_of_full (h : p.room = some 0) (bytes : List UInt8) : p.filled bytes p.pieces = p := by
  obtain ⟨room, pieces, flushFailures, writeError, flushError, written, shut⟩ := p
  obtain rfl : room = some 0 := h
  simp [filled, taken]

theorem filled_filled (h : p.Fits front.length) (pieces later : List Nat) :
    (p.filled front pieces).filled bytes later = p.filled (front ++ bytes) later := by
  have htaken := taken_append h bytes pieces
  have hroom : (p.room.map (· - front.length)).map (· - bytes.length) = p.room.map (· - (front ++ bytes).length) := by
    rw [Option.map_map, List.length_append]
    congr 1
    funext room
    exact Nat.sub_sub _ _ _
  simp only [filled] at htaken ⊢
  rw [hroom, htaken, taken_of_fits h, List.append_assoc]

theorem fits_filled (h : p.Fits front.length) (pieces : List Nat) (count : Nat) :
    (p.filled front pieces).Fits count ↔ p.Fits (front.length + count) := by
  unfold Fits filled at *
  cases hroom : p.room with
  | none => simp
  | some room =>
    have := h room hroom
    simp
    omega

theorem fits_zero (p : Pipe) : p.Fits 0 := fun _ _ => Nat.zero_le _

end

/-! ## One message -/

/-- A stream takes no more than there is and than it has room for, and something unless it has no room. -/
theorem accepts_spec (p : Pipe) {count : Nat} (hcount : 0 < count) :
    (p.accepts count).1 ≤ count ∧ p.Fits (p.accepts count).1 ∧ ((p.accepts count).1 = 0 → p.room = some 0) := by
  obtain ⟨most, pieces, haccepts, hsome, hmost⟩ : ∃ most pieces,
      p.accepts count = (p.room.elim most (min most), pieces) ∧ 0 < most ∧ most ≤ count := by
    unfold accepts
    cases p.pieces with
    | nil =>
      refine ⟨min count count, [], ?_, Nat.lt_min.2 ⟨hcount, hcount⟩, Nat.min_le_right _ _⟩
      cases p.room <;> rfl
    | cons piece rest =>
      have hpiece : 0 < max piece 1 := Nat.lt_of_lt_of_le Nat.one_pos (Nat.le_max_right _ _)
      refine ⟨min (max piece 1) count, rest, ?_, Nat.lt_min.2 ⟨hpiece, hcount⟩, Nat.min_le_right _ _⟩
      cases p.room <;> rfl
  rw [haccepts]
  unfold Fits
  cases p.room with
  | none => exact ⟨hmost, nofun, fun h => absurd h (Nat.ne_of_gt hsome)⟩
  | some room =>
    refine ⟨Nat.le_trans (Nat.min_le_left _ _) hmost, ?_, fun h => ?_⟩
    · rintro other ⟨⟩
      exact Nat.min_le_right _ _
    · have hnone : min most room = 0 := h
      rw [show room = 0 by omega]

theorem writeAll_nil (fuel : Nat) (p : Pipe) : writeAll fuel p [] = (.ok (), p) := by
  cases fuel <;> rfl

/-- The bytes are taken piece by piece as far as there is room, and the write fails when there is not room for all
of them. -/
theorem writeAll_eq {fuel : Nat} (p : Pipe) {bytes : List UInt8} (hfuel : bytes.length ≤ fuel) :
    ∃ pieces, writeAll fuel p bytes =
      (if p.Fits bytes.length then .ok () else .error p.writeFailure, p.filled bytes pieces) := by
  induction fuel generalizing p bytes with
  | zero =>
    obtain rfl := List.eq_nil_of_length_eq_zero (Nat.le_zero.1 hfuel)
    exact ⟨p.pieces, by rw [writeAll_nil, filled_nil, List.length_nil, if_pos p.fits_zero]⟩
  | succ fuel ih =>
    cases bytes with
    | nil => exact ⟨p.pieces, by rw [writeAll_nil, filled_nil, List.length_nil, if_pos p.fits_zero]⟩
    | cons b rest =>
      have hsome : 0 < (b :: rest).length := Nat.succ_pos _
      rw [writeAll]
      generalize b :: rest = bytes at hsome hfuel ⊢
      obtain ⟨hmost, hfits, hnone⟩ := p.accepts_spec hsome
      generalize p.accepts bytes.length = accepted at hmost hfits hnone ⊢
      obtain ⟨count, pieces⟩ := accepted
      dsimp only at hmost hfits hnone ⊢
      by_cases hzero : count = 0
      · have hfull : ¬ p.Fits bytes.length := fun h => absurd (h 0 (hnone hzero)) (by omega)
        exact ⟨p.pieces, by rw [if_pos hzero, if_neg hfull, filled_of_full (hnone hzero)]; rfl⟩
      · -- a piece has at least one byte, so that the fuel is enough for what is left
        have hfront : (bytes.take count).length = count := List.length_take_of_le hmost
        have htook : { p with room := p.room.map (· - count), pieces, written := p.written ++ bytes.take count } =
            p.filled (bytes.take count) pieces := by
          rw [filled, hfront, taken_of_fits (hfront.symm ▸ hfits)]
        have hless : (bytes.drop count).length ≤ fuel := by rw [List.length_drop]; omega
        obtain ⟨later, hlater⟩ := ih (p.filled (bytes.take count) pieces) hless
        refine ⟨later, ?_⟩
        rw [if_neg hzero, htook, hlater, filled_filled (hfront.symm ▸ hfits), List.take_append_drop]
        have hrest : (p.filled (bytes.take count) pieces).Fits (bytes.drop count).length ↔ p.Fits bytes.length := by
          rw [fits_filled (hfront.symm ▸ hfits), hfront, List.length_drop, Nat.add_sub_cancel' hmost]
        simp only [hrest]
        rfl

theorem flush_eq (p : Pipe) :
    p.flush = (if p.flushFailures[0]? = some true then .error p.flushFailure else .ok (), p.flushed) := by
  obtain ⟨room, pieces, flushFailures, writeError, flushError, written, shut⟩ := p
  match flushFailures with
  | [] => rfl
  | true :: rest => rfl
  | false :: rest => rfl

/-- A message is written as far as there is room, and flushed when it was written. -/
theorem send_cases (p : Pipe) (m : ClientMessage) :
    ∃ pieces,
      (¬ p.Fits (encodeMessage m).length ∧ p.send m = (.error p.writeFailure, p.filled (encodeMessage m) pieces)) ∨
      (p.Fits (encodeMessage m).length ∧ p.flushFailures[0]? = some true ∧
        p.send m = (.error p.flushFailure, (p.filled (encodeMessage m) pieces).flushed)) ∨
      (p.Fits (encodeMessage m).length ∧ p.flushFailures[0]? ≠ some true ∧
        p.send m = (.ok (), (p.filled (encodeMessage m) pieces).flushed)) := by
  obtain ⟨pieces, hwrite⟩ := p.writeAll_eq (Nat.le_refl (encodeMessage m).length)
  refine ⟨pieces, ?_⟩
  rw [send, hwrite]
  by_cases hfits : p.Fits (encodeMessage m).length
  · rw [if_pos hfits]
    have hflush : (p.filled (encodeMessage m) pieces).flush =
        (if p.flushFailures[0]? = some true then .error p.flushFailure else .ok (),
          (p.filled (encodeMessage m) pieces).flushed) := flush_eq _
    by_cases hfails : p.flushFailures[0]? = some true
    · rw [if_pos hfails] at hflush
      exact .inr (.inl ⟨hfits, hfails, hflush⟩)
    · rw [if_neg hfails] at hflush
      exact .inr (.inr ⟨hfits, hfails, hflush⟩)
  · rw [if_neg hfits]
    exact .inl ⟨hfits, rfl⟩

/-! ## Many messages -/

/-- The bytes of the first `count` messages. -/
def lead (messages : List ClientMessage) (count : Nat) : List UInt8 := (messages.take count).flatMap encodeMessage

/-- The first `count` of the messages can be written and flushed. -/
structure Delivers (p : Pipe) (messages : List ClientMessage) (count : Nat) : Prop where
  room : p.Fits (lead messages count).length
  flushes : ∀ i < count, p.flushFailures[i]? ≠ some true

/-- How the writing of messages ends: its result, whether the stream is shut down, and the bytes written. -/
inductive Ending (p : Pipe) (messages : List ClientMessage) :
    Except CampaignError Unit → Bool → List UInt8 → Prop where
  /-- Every message is written and flushed. -/
  | delivered : p.Delivers messages messages.length →
      Ending p messages (.ok ()) true (messages.flatMap encodeMessage)
  /-- There is no room for all of a message. -/
  | full {k room : Nat} : k < messages.length → p.Delivers messages k → p.room = some room →
      room < (lead messages (k + 1)).length →
      Ending p messages (.error p.writeFailure) p.shut ((messages.flatMap encodeMessage).take room)
  /-- A message is written but not flushed. -/
  | unflushed {k : Nat} : k < messages.length → p.Delivers messages k → p.Fits (lead messages (k + 1)).length →
      p.flushFailures[k]? = some true →
      Ending p messages (.error p.flushFailure) p.shut (lead messages (k + 1))

section
variable {p : Pipe} {m : ClientMessage} {rest : List ClientMessage} {pieces : List Nat}

theorem lead_cons (m : ClientMessage) (rest : List ClientMessage) (k : Nat) :
    lead (m :: rest) (k + 1) = encodeMessage m ++ lead rest k := rfl

theorem delivers_zero (p : Pipe) (messages : List ClientMessage) : p.Delivers messages 0 :=
  ⟨p.fits_zero, nofun⟩

theorem fits_sent (h : p.Fits (encodeMessage m).length) (k : Nat) :
    (p.filled (encodeMessage m) pieces).flushed.Fits (lead rest k).length ↔
      p.Fits (lead (m :: rest) (k + 1)).length := by
  rw [lead_cons, List.length_append]
  exact fits_filled h pieces _

/-- A message that is delivered, and more after it. -/
theorem Delivers.cons {k : Nat} (h : p.Fits (encodeMessage m).length) (hflush : p.flushFailures[0]? ≠ some true)
    (hrest : (p.filled (encodeMessage m) pieces).flushed.Delivers rest k) : p.Delivers (m :: rest) (k + 1) where
  room := (fits_sent h k).1 hrest.room
  flushes i hi := by
    cases i with
    | zero => exact hflush
    | succ i => simpa [flushed, filled] using hrest.flushes i (Nat.lt_of_succ_lt_succ hi)

/-- A message that is delivered, and how the writing of the others ends. -/
theorem Ending.cons {result : Except CampaignError Unit} {shut : Bool} {bytes : List UInt8}
    (h : p.Fits (encodeMessage m).length) (hflush : p.flushFailures[0]? ≠ some true)
    (hrest : (p.filled (encodeMessage m) pieces).flushed.Ending rest result shut bytes) :
    p.Ending (m :: rest) result shut (encodeMessage m ++ bytes) := by
  cases hrest with
  | delivered hall => exact .delivered (hall.cons h hflush)
  | @full k left hk hdelivers hroom hfull =>
    obtain ⟨room, hroom', rfl⟩ : ∃ room, p.room = some room ∧ room - (encodeMessage m).length = left := by
      simpa [flushed, filled] using hroom
    have hle := h room hroom'
    have htake : encodeMessage m ++ (rest.flatMap encodeMessage).take (room - (encodeMessage m).length) =
        ((m :: rest).flatMap encodeMessage).take room := by
      rw [List.flatMap_cons, List.take_append, List.take_of_length_le hle]
    rw [htake]
    refine .full (Nat.succ_lt_succ hk) (hdelivers.cons h hflush) hroom' ?_
    rw [lead_cons, List.length_append]
    omega
  | unflushed hk hdelivers hfits hfails =>
    exact .unflushed (Nat.succ_lt_succ hk) (hdelivers.cons h hflush) ((fits_sent h _).1 hfits)
      (by simpa [flushed, filled] using hfails)

end

section
variable {p : Pipe} {messages : List ClientMessage} {result : Except CampaignError Unit} {shut : Bool}
  {bytes : List UInt8}

theorem lead_front (messages : List ClientMessage) (k : Nat) : lead messages k <+: messages.flatMap encodeMessage := by
  refine ⟨(messages.drop k).flatMap encodeMessage, ?_⟩
  rw [lead, ← List.flatMap_append, List.take_append_drop]

theorem lead_length (messages : List ClientMessage) : lead messages messages.length = messages.flatMap encodeMessage := by
  rw [lead, List.take_length]

theorem Ending.front (h : p.Ending messages result shut bytes) : bytes <+: messages.flatMap encodeMessage := by
  cases h with
  | delivered => exact List.prefix_refl _
  | full => exact List.take_prefix _ _
  | unflushed => exact lead_front _ _

/-- The writing succeeds when every message can be written and flushed, and only then. -/
theorem Ending.ok_iff (h : p.Ending messages result shut bytes) :
    result = .ok () ↔ p.Delivers messages messages.length := by
  cases h with
  | delivered hall => exact ⟨fun _ => hall, fun _ => rfl⟩
  | @full k room hk _ hroom hfull =>
    refine ⟨nofun, fun hall => ?_⟩
    have hfits := hall.room room hroom
    rw [lead_length] at hfits
    exact absurd (Nat.le_trans (lead_front messages (k + 1)).length_le hfits) (Nat.not_le.2 hfull)
  | unflushed hk _ _ hfails => exact ⟨nofun, fun hall => absurd hfails (hall.flushes _ hk)⟩

theorem Ending.of_ok (h : p.Ending messages (.ok ()) shut bytes) :
    shut = true ∧ bytes = messages.flatMap encodeMessage := by
  cases h
  exact ⟨rfl, rfl⟩

end

end Pipe

/-- **How the writing of messages ends**, whatever the stream does. -/
theorem write_ending (p : Pipe) (messages : List ClientMessage) :
    ∃ bytes, (write none messages p).2.written = p.written ++ bytes ∧
      p.Ending messages (write none messages p).1 (write none messages p).2.shut bytes := by
  induction messages generalizing p with
  | nil => exact ⟨[], (List.append_nil _).symm, .delivered (p.delivers_zero [])⟩
  | cons m rest ih =>
    have hone : Pipe.lead (m :: rest) 1 = encodeMessage m := by
      rw [Pipe.lead_cons]
      exact List.append_nil _
    obtain ⟨pieces, ⟨hfull, hsend⟩ | ⟨hfits, hfails, hsend⟩ | ⟨hfits, hflush, hsend⟩⟩ := p.send_cases m
    all_goals rw [write, if_neg nofun, hsend]
    · obtain ⟨room, hroom, hlt⟩ : ∃ room, p.room = some room ∧ room < (encodeMessage m).length := by
        simpa [Pipe.Fits] using hfull
      have htaken : p.taken (encodeMessage m) = ((m :: rest).flatMap encodeMessage).take room := by
        rw [Pipe.taken, hroom, Option.getD_some, List.flatMap_cons, List.take_append_of_le_length (Nat.le_of_lt hlt)]
      refine ⟨_, congrArg (p.written ++ ·) htaken, ?_⟩
      exact .full (Nat.succ_pos _) (p.delivers_zero _) hroom (hone.symm ▸ hlt)
    · refine ⟨_, congrArg (p.written ++ ·) ((Pipe.taken_of_fits hfits).trans hone.symm), ?_⟩
      exact .unflushed (Nat.succ_pos _) (p.delivers_zero _) (hone.symm ▸ hfits) hfails
    · obtain ⟨bytes, hwritten, hending⟩ := ih (p.filled (encodeMessage m) pieces).flushed
      refine ⟨encodeMessage m ++ bytes, ?_, hending.cons hfits hflush⟩
      have hsent : (p.filled (encodeMessage m) pieces).flushed.written = p.written ++ encodeMessage m :=
        congrArg (p.written ++ ·) (Pipe.taken_of_fits hfits)
      rw [hsent, List.append_assoc] at hwritten
      exact hwritten

/-- What the stream has of the messages is a prefix of them all. The writing succeeds, and shuts the stream down,
exactly when every message was written and flushed, and then the stream has them whole. It fails otherwise, with an
error of the stream and without shutting it down: for want of room, and then the stream has as many bytes as it had
room for; or for a flush, and then it has the messages up to the first that was not flushed. -/
theorem write_ends (p : Pipe) (messages : List ClientMessage) :
    ∃ bytes, (write none messages p).2.written = p.written ++ bytes ∧ bytes <+: messages.flatMap encodeMessage ∧
      ((write none messages p).1 = .ok () ↔ p.Delivers messages messages.length) ∧
      ((write none messages p).1 = .ok () →
        (write none messages p).2.shut = true ∧ bytes = messages.flatMap encodeMessage) ∧
      ∀ e, (write none messages p).1 = .error e → (write none messages p).2.shut = p.shut ∧
        ((e = .transport ("write failed: " ++ p.writeError) ∧
            ∃ k < messages.length, p.Delivers messages k ∧ ¬ p.Fits (Pipe.lead messages (k + 1)).length ∧
              p.room = some bytes.length) ∨
          (e = .transport ("flush failed: " ++ p.flushError) ∧
            ∃ k < messages.length, p.Delivers messages k ∧ p.Fits (Pipe.lead messages (k + 1)).length ∧
              p.flushFailures[k]? = some true ∧ bytes = Pipe.lead messages (k + 1))) := by
  obtain ⟨bytes, hwritten, hending⟩ := write_ending p messages
  refine ⟨bytes, hwritten, hending.front, hending.ok_iff, fun hok => ?_, fun e he => ?_⟩
  · rw [hok] at hending
    exact hending.of_ok
  · rw [he] at hending
    generalize (write none messages p).2.shut = shut at hending ⊢
    cases hending with
    | @full k room hk hdelivers hroom hfull =>
      have hlength : ((messages.flatMap encodeMessage).take room).length = room :=
        List.length_take_of_le (Nat.le_trans (Nat.le_of_lt hfull) (Pipe.lead_front messages _).length_le)
      refine ⟨rfl, .inl ⟨rfl, k, hk, hdelivers, fun hfits => ?_, by rw [hlength, hroom]⟩⟩
      exact absurd (hfits room hroom) (Nat.not_le.2 hfull)
    | @unflushed k hk hdelivers hfits hfails => exact ⟨rfl, .inr ⟨rfl, k, hk, hdelivers, hfits, hfails, rfl⟩⟩

end FuzzCampaign.Stream
