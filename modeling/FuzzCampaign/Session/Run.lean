import FuzzCampaign.CallExecution
import FuzzCampaign.Reset.Controller
import FuzzCampaign.Session.Duration
import FuzzCampaign.Stream.Reader
set_option autoImplicit false

/-! # Sessions

A session runs attempts of a campaign over one stream. An attempt announces the campaign and then follows
the orchestrator's messages one after the other until the result of the attempt, which either asks for
another attempt with a new seed or ends the session with a verdict. Whatever ends an attempt, its resetter
is released and the display is told that the attempt is over; the attempt's own error wins over errors of
this cleanup. -/

namespace FuzzCampaign

/-- Where a session is. -/
inductive SessionState where
  /-- Announcing the campaign. -/
  | init
  | awaitDirective
  | executingCall
  | executingReset
  | resultReceived
  /-- Another attempt follows. -/
  | continuing
  | done
deriving DecidableEq, Repr

/-- The name of a state. -/
def SessionState.name : SessionState → String
  | .init => "INIT"
  | .awaitDirective => "AWAIT_DIRECTIVE"
  | .executingCall => "EXECUTING_CALL"
  | .executingReset => "EXECUTING_RESET"
  | .resultReceived => "RESULT_RECEIVED"
  | .continuing => "CONTINUE"
  | .done => "DONE"

/-- How a session concluded. -/
inductive Verdict where
  /-- No bug was found. -/
  | success
  /-- A bug was found. -/
  | failure (seed : List UInt8)
  /-- The campaign failed while resets were failing. -/
  | failureDueToResetterError (seed : List UInt8)
  /-- The orchestrator will shrink but gave no seed to go on with. -/
  | shrinking
deriving DecidableEq, Repr

/-- How an attempt ended. -/
inductive AttemptEnd where
  | continueWith (seed : List UInt8)
  | concluded (verdict : Verdict)
deriving DecidableEq, Repr

/-- Bounds of a session. Times are in nanoseconds. -/
structure SessionOptions where
  replyTimeout : Nat := 30000000000
  maxAttempts : Nat := 1000
  callBudget : Nat := 10000000000
deriving DecidableEq, Repr

/-- What the reading side still has to hand on, and whether the stream stays open after it. -/
structure Inbound where
  items : List Stream.Item
  staysOpen : Bool

/-- What does not change during a session. -/
structure SessionPlan (σ μ : Type) where
  model : Model μ
  lifecycle : Lifecycle σ μ
  descriptor : CampaignDescriptor
  options : SessionOptions
  /-- The error with which the display answers when it is told for the given time that an attempt is over. -/
  displayFailure : Nat → Option CampaignError := fun _ => none

/-- A running session. -/
structure Session (σ μ : Type) where
  engine : CheckEngine μ
  world : World μ
  inbound : Inbound
  lifecycleState : σ
  /-- The states entered, in order. -/
  entered : List SessionState := []
  attempts : Nat := 0
  /-- How often the session told the display that an attempt is over. -/
  flushes : Nat := 0

namespace Session

variable {σ μ : Type}

/-- The current state. -/
def state (s : Session σ μ) : SessionState := (s.entered.getLast?).getD .init

/-- Enter a state. -/
def enter (s : Session σ μ) (next : SessionState) : Session σ μ := { s with entered := s.entered ++ [next] }

/-- Queue a message. -/
def send (s : Session σ μ) (m : ClientMessage) : Except CampaignError Unit × Session σ μ :=
  let (result, world) := s.world.send m
  (result, { s with world })

/-! ## Receiving -/

/-- The error of a stream that ended. -/
def streamClosed : CampaignError := .transport "stream closed by orchestrator"

/-- The error of a session cancelled while it waited. -/
def receiveCancelled : CampaignError := .cancelled "transport cancelled while receiving"

/-- The error of a message that did not come in time. -/
def noReply (timeout : Nat) : CampaignError :=
  .transport ("no reply from orchestrator within " ++ Duration.text timeout)

/-- Wait for the next message. A cancellation comes before a message that is there. -/
def receive (timeout : Nat) (s : Session σ μ) : Except CampaignError ServerMessage × Session σ μ :=
  let w := s.world.look
  if w.cancelled then (.error receiveCancelled, { s with world := w })
  else
    match s.inbound.items with
    | item :: rest => (item, { s with world := w, inbound := { s.inbound with items := rest } })
    | [] =>
      if s.inbound.staysOpen then
        let w := (w.nudge { pause := timeout }).look
        (.error (if w.cancelled then receiveCancelled else noReply timeout), { s with world := w })
      else (.error streamClosed, { s with world := w })

/-! ## Attempts -/

/-- What the result of an attempt means. -/
def conclude (result : FuzzingResult) (hadResetError : Bool) : AttemptEnd :=
  match result.nextSeed with
  | some seed => .continueWith seed
  | none => .concluded
    (if result.success then .success
    else if result.willShrink then .shrinking
    else if hadResetError then .failureDueToResetterError result.reproductionSeed
    else .failure result.reproductionSeed)

/-- The state entered with the end of an attempt. -/
def AttemptEnd.state : AttemptEnd → SessionState
  | .continueWith _ => .continuing
  | .concluded _ => .done

/-- What an attempt remembers between messages. -/
structure Attempt where
  controller : ResetController := {}
  progress : Progress := {}

/-- Take over the counters that a message carries. -/
def takeProgress (update : Option Progress) (a : Attempt) (s : Session σ μ) :
    Except CampaignError Attempt × Session σ μ :=
  match update with
  | none => (.ok a, s)
  | some update =>
    match a.progress.apply update with
    | .error e => (.error e, s)
    | .ok progress =>
      (.ok { a with progress }, { s with world := s.world.present (.progress progress) })

/-- Execute a call directive. -/
def executeCall (plan : SessionPlan σ μ) (call : Call) (s : Session σ μ) :
    Except CampaignError Unit × Session σ μ :=
  let s := s.enter .executingCall
  let (result, engine, world) :=
    CallExecution.execute plan.model plan.options.callBudget call s.engine s.world
  (result.map fun _ => (), { s with engine, world })

/-- Execute a reset directive. Only an error that ends the session is answered. -/
def executeReset (plan : SessionPlan σ μ) (env : EnvSnapshot) (a : Attempt) (s : Session σ μ) :
    Except CampaignError Attempt × Session σ μ :=
  let s := s.enter .executingReset
  let (result, controller, lifecycleState, world) :=
    a.controller.reset plan.lifecycle env s.lifecycleState s.world
  let s := { s with lifecycleState, world }
  match result with
  | .ok () => (.ok { a with controller }, s)
  | .error e => if e.isFatal then (.error e, s) else (.ok { a with controller }, s)

/-- Follow the orchestrator's messages until the result of the attempt. Each round takes a message, so as
many rounds as there are messages, and one, are enough. -/
def follow (plan : SessionPlan σ μ) (env : EnvSnapshot) :
    Nat → Attempt → Session σ μ → Except CampaignError AttemptEnd × Session σ μ
  | 0, _, s => (.error streamClosed, s)
  | fuel + 1, a, s =>
    let s := s.enter .awaitDirective
    match s.receive plan.options.replyTimeout with
    | (.error e, s) => (.error e, s)
    | (.ok message, s) =>
      match takeProgress message.progress a s with
      | (.error e, s) => (.error e, s)
      | (.ok a, s) =>
        match message.payload with
        | .fuzzingReport report =>
          follow plan env fuel a { s with world := s.world.present (.report report) }
        | .call call =>
          match executeCall plan call s with
          | (.error e, s) => (.error e, s)
          | (.ok (), s) => follow plan env fuel a s
        | .reset =>
          match executeReset plan env a s with
          | (.error e, s) => (.error e, s)
          | (.ok a, s) => follow plan env fuel a s
        | .fuzzingResult result =>
          let ending := conclude result a.controller.hadResetError
          (.ok ending, (s.enter .resultReceived).enter (AttemptEnd.state ending))

/-- Announce the campaign and follow the orchestrator. -/
def drive (plan : SessionPlan σ μ) (descriptor : CampaignDescriptor) (s : Session σ μ) :
    Except CampaignError AttemptEnd × Session σ μ :=
  match (s.enter .init).send (.campaign descriptor) with
  | (.error e, s) => (.error e, s)
  | (.ok (), s) => follow plan descriptor.env (s.inbound.items.length + 1) {} s

/-- Tell the display that the attempt is over. -/
def flush (plan : SessionPlan σ μ) (s : Session σ μ) : Except CampaignError Unit × Session σ μ :=
  let result := match plan.displayFailure s.flushes with
    | some e => .error e
    | none => .ok ()
  (result, { s with world := s.world.present .terminate, flushes := s.flushes + 1 })

/-- Release the resetter. -/
def release (plan : SessionPlan σ μ) (s : Session σ μ) : Except CampaignError Unit × Session σ μ :=
  let w := s.world.look
  let (result, effects, lifecycleState) := plan.lifecycle.terminate w.clock s.lifecycleState w.outside
  (result, { s with lifecycleState, world := w.apply effects })

/-- The attempt's own error, else the first error of the cleanup, else the attempt's result. -/
def finish {α : Type} (result : Except CampaignError α) :
    List (Except CampaignError Unit) → Except CampaignError α
  | [] => result
  | cleanup :: rest =>
    match result, cleanup with
    | .ok _, .error e => .error e
    | _, _ => finish result rest

/-- Run one attempt with a seed. -/
def attempt (plan : SessionPlan σ μ) (seed : List UInt8) (s : Session σ μ) :
    Except CampaignError AttemptEnd × Session σ μ :=
  let (built, effects, lifecycleState) := plan.lifecycle.build s.lifecycleState s.world.outside
  let s := { s with lifecycleState, world := s.world.apply effects }
  match built with
  | .error e =>
    let (flushed, s) := flush plan s
    (finish (.error e) [flushed], s)
  | .ok () =>
    let descriptor := (plan.descriptor.withSeed seed).withResetter (plan.lifecycle.descriptor lifecycleState)
    let (result, s) := drive plan descriptor s
    let (released, s) := release plan s
    let (flushed, s) := flush plan s
    (finish result [released, flushed], s)

/-- The error of a campaign that goes on for too long. -/
def tooManyAttempts (max : Nat) : CampaignError :=
  .directive ("campaign did not conclude within " ++ toString max ++ " attempts")

/-- Run attempts, at most `fuel` of them. -/
def runAttempts (plan : SessionPlan σ μ) : Nat → List UInt8 → Session σ μ →
    Except CampaignError Verdict × Session σ μ
  | 0, _, s => (.error (tooManyAttempts plan.options.maxAttempts), s)
  | fuel + 1, seed, s =>
    match attempt plan seed { s with attempts := s.attempts + 1 } with
    | (.error e, s) => (.error e, s)
    | (.ok (.continueWith next), s) => runAttempts plan fuel next s
    | (.ok (.concluded verdict), s) => (.ok verdict, s)

/-- Run a session: attempts until the orchestrator stops asking for more. -/
def run (plan : SessionPlan σ μ) (s : Session σ μ) : Except CampaignError Verdict × Session σ μ :=
  runAttempts plan (plan.options.maxAttempts - s.attempts) plan.descriptor.seed s

end Session

end FuzzCampaign
