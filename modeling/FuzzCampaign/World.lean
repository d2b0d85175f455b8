import FuzzCampaign.Campaign.Message
set_option autoImplicit false

/-! # The surroundings of a running session

A session runs among things that change on their own: time passes, the session may be cancelled, the
orchestrator may go away. Between two looks at them anything of that may happen, which is a nudge; a
world holds the nudges to come, so a statement about every world is one about every instant at which
something happens. What the session does to its surroundings, messages queued and lines shown, is kept in
order. Whatever else there is outside, the model, the system under test, the memory of hooks, is one state of
any type, which only they look into.

Time is in nanoseconds. -/

namespace FuzzCampaign

/-- What may happen between two looks. -/
structure Nudge where
  /-- Time that passes. -/
  pause : Nat := 0
  /-- The session is cancelled. -/
  cancel : Bool := false
  /-- Nobody takes queued messages any more. -/
  close : Bool := false
deriving DecidableEq, Repr, Inhabited

/-- What is shown to the user. -/
inductive SinkEvent where
  /-- The header of a campaign. -/
  | report (report : FuzzingReport)
  /-- New counters. -/
  | progress (progress : Progress)
  | passed
  | skipped
  | failed (reason : List String)
  /-- A line of information. -/
  | printf (line : String)
  /-- A line of an error stream. -/
  | errorf (line : String)
  /-- The attempt is over. -/
  | terminate
deriving DecidableEq, Repr

/-- A time as messages report it: nanoseconds of 64 bits, the largest when there are more. -/
def reportedNs (time : Nat) : UInt64 := UInt64.ofNat (min time (2 ^ 64 - 1))

/-- The surroundings of a session; what lies outside has states in `μ`. -/
structure World (μ : Type) where
  clock : Nat := 0
  /-- Whether the session is cancelled. -/
  cancelled : Bool := false
  /-- Whether queued messages are taken no more. -/
  closed : Bool := false
  /-- What happens before each of the looks to come; nothing after the last. -/
  pending : List Nudge := []
  /-- Messages queued, in order. -/
  sent : List ClientMessage := []
  /-- What was shown, in order. -/
  shown : List SinkEvent := []
  /-- For each interaction with the system under test, in order, the number of messages queued before it.
  Nothing reads it. -/
  interactions : List Nat := []
  /-- The state of what lies outside: the model, the system under test, and what hooks remember. -/
  outside : μ
deriving Repr, Inhabited

namespace World

variable {μ : Type}

/-- A nudge happens. -/
def nudge (w : World μ) (n : Nudge) : World μ :=
  { w with clock := w.clock + n.pause, cancelled := w.cancelled || n.cancel, closed := w.closed || n.close }

/-- Look at the surroundings: what happened since the last look has now happened. -/
def look (w : World μ) : World μ :=
  match w.pending with
  | [] => w
  | n :: rest => { w with pending := rest }.nudge n

/-- Show something. -/
def present (w : World μ) (e : SinkEvent) : World μ := { w with shown := w.shown ++ [e] }

/-- Show lines of information. -/
def printLines (w : World μ) (lines : List String) : World μ :=
  { w with shown := w.shown ++ lines.map .printf }

/-- What lies outside is in another state. -/
def remember (w : World μ) (memory : μ) : World μ := { w with outside := memory }

/-- An interaction with the system under test begins. -/
def interact (w : World μ) : World μ := { w with interactions := w.interactions ++ [w.sent.length] }

/-- The error of a message that nobody takes. -/
def writerStopped : CampaignError := .transport "writer task stopped"

/-- Queue a message. -/
def send (w : World μ) (m : ClientMessage) : Except CampaignError Unit × World μ :=
  let w := w.look
  if w.closed then (.error writerStopped, w) else (.ok (), { w with sent := w.sent ++ [m] })

/-- Time passed since an instant. -/
def elapsed (w : World μ) (start : Nat) : Nat := w.clock - start

end World

end FuzzCampaign
