import FuzzCampaign.Check.Engine
import FuzzCampaign.Model
set_option autoImplicit false

/-! # Execution of a call

The parts of a call follow each other and the first failure ends it:

1. the user's checks before the request;
2. the interaction, published as performed;
3. the checks of the model, each announced and then reported;
4. the response, published as understood;
5. the user's checks after the response;
6. the final `done`.

The user's checks of a call share one deadline; a check that did not start before it is not reported. -/

namespace FuzzCampaign

/-- How a call ended. -/
inductive CallVerdict where
  | passed
  | failed
deriving DecidableEq, Repr

namespace CallExecution

variable {μ : Type}

/-- Report the outcome of a check: to the user, then to the orchestrator. -/
def report (o : Outcome) (w : World μ) : Except CampaignError Unit × World μ :=
  let w := w.present (match o.status with
    | .success => .passed
    | .skipped => .skipped
    | .failure => .failed o.reason)
  w.send (.checkProgress o.progress)

/-- Run the user's checks at these positions. -/
def userChecks (kind : HookKind) (request : Tree) (response : Option Tree) (deadline : Nat) :
    List Nat → CheckEngine μ → World μ → Except CampaignError CallVerdict × CheckEngine μ × World μ
  | [], engine, w => (.ok .passed, engine, w)
  | index :: rest, engine, w =>
    let w := w.look
    if w.cancelled then (.error (.cancelled "call checks interrupted"), engine, w)
    else if deadline ≤ w.clock then (.ok .failed, engine, w)
    else
      let name := (engine.name? index).getD ""
      match w.send (.checkProgress (.start name kind.origin true)) with
      | (.error e, w) => (.error e, engine, w)
      | (.ok (), w) =>
        match engine.run index request response deadline w with
        | .error e => (.error e, engine, w)
        | .ok (outcome, engine, w) =>
          match report outcome w with
          | (.error e, w) => (.error e, engine, w)
          | (.ok (), w) =>
            let w := w.look
            if outcome.abandoned && w.cancelled then
              (.error (.cancelled ("check " ++ name ++ " interrupted")), engine, w)
            else if outcome.isFailure then (.ok .failed, engine, w)
            else userChecks kind request response deadline rest engine w

/-- The reasons of a check of the model; an abnormal end is one. -/
def reasons (name : String) (findings : Option (List String)) : List String :=
  findings.getD ["built-in check " ++ name ++ " panicked"]

/-- Run the checks of the model. -/
def builtInChecks : List (CallerCheck μ) → World μ → Except CampaignError CallVerdict × World μ
  | [], w => (.ok .passed, w)
  | check :: rest, w =>
    match w.send (.checkProgress (.start check.name .builtIn false)) with
    | (.error e, w) => (.error e, w)
    | (.ok (), w) =>
      let w := w.look
      let started := w.clock
      let (findings, effects) := check.run w.outside
      let w := (w.apply effects).look
      let outcome := Outcome.builtIn check.name (reasons check.name findings) (w.elapsed started)
      match report outcome w with
      | (.error e, w) => (.error e, w)
      | (.ok (), w) => if outcome.isFailure then (.ok .failed, w) else builtInChecks rest w

/-- The response as published; `null` when there is none or it is no literal tree. -/
def publishedResponse : Option Tree → Json
  | none => .null
  | some tree =>
    match tree.toJson with
    | .ok json => json
    | .error _ => .null

/-- The parts of a call after the checks before the request. -/
def afterChecks (caller : Caller μ) (deadline : Nat) (engine : CheckEngine μ) (w : World μ) :
    Except CampaignError CallVerdict × CheckEngine μ × World μ :=
  let interaction := caller.invoke w.cancelled w.outside
  let w := (w.interact.apply interaction.effects).look
  if w.cancelled then (.error (.cancelled "call interrupted"), engine, w)
  else
    match w.send (.callResponseRaw interaction.raw) with
    | (.error e, w) => (.error e, engine, w)
    | (.ok (), w) =>
      match builtInChecks interaction.checks w with
      | (.error e, w) => (.error e, engine, w)
      | (.ok .failed, w) => (.ok .failed, engine, w)
      | (.ok .passed, w) =>
        match w.send (.callResponseVerified (publishedResponse interaction.response)) with
        | (.error e, w) => (.error e, engine, w)
        | (.ok (), w) =>
          match userChecks .afterResponse caller.request interaction.response deadline
              (engine.active .afterResponse) engine w with
          | (.error e, engine, w) => (.error e, engine, w)
          | (.ok .failed, engine, w) => (.ok .failed, engine, w)
          | (.ok .passed, engine, w) =>
            match w.send (.checkProgress .done) with
            | (.error e, w) => (.error e, engine, w)
            | (.ok (), w) => (.ok .passed, engine, w)

/-- Perform a prepared call. -/
def perform (caller : Caller μ) (deadline : Nat) (engine : CheckEngine μ) (w : World μ) :
    Except CampaignError CallVerdict × CheckEngine μ × World μ :=
  match userChecks .beforeRequest caller.request none deadline (engine.active .beforeRequest) engine w with
  | (.error e, engine, w) => (.error e, engine, w)
  | (.ok .failed, engine, w) => (.ok .failed, engine, w)
  | (.ok .passed, engine, w) => afterChecks caller deadline engine w

/-- Execute a call. -/
def execute (model : Model μ) (callBudget : Nat) (call : Call) (engine : CheckEngine μ) (w : World μ) :
    Except CampaignError CallVerdict × CheckEngine μ × World μ :=
  let w := w.look
  let deadline := w.clock + callBudget
  match model.prepare call w.outside with
  | (.error e, effects) => (.error e, engine, w.apply effects)
  | (.ok caller, effects) => perform caller deadline engine (w.apply effects)

end CallExecution

end FuzzCampaign
