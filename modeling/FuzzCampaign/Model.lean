import FuzzCampaign.World
import FuzzCampaign.Tree
set_option autoImplicit false

/-! # The model and the system under test

What the session takes from outside: the model, which prepares a caller for each call, and the lifecycle
of the system under test. Both are known only by what they answer and by what they do to the
surroundings. They act on the state of what lies outside: each action is told the state and leaves another,
so what it answers may depend on all that happened before. The state may be a script of the answers to come,
so a system that changes on its own is covered too. -/

namespace FuzzCampaign

/-- What an action did to its surroundings. -/
structure Effects (μ : Type) where
  nudge : Nudge := {}
  /-- What it told the display, which is handed to it as a whole. -/
  shown : List SinkEvent := []
  /-- The state in which it left what lies outside. -/
  outside : μ
deriving DecidableEq, Repr, Inhabited

/-- An action had its effects. -/
def World.apply {μ : Type} (w : World μ) (e : Effects μ) : World μ :=
  { w.nudge e.nudge with shown := w.shown ++ e.shown, outside := e.outside }

/-! ## Calls -/

/-- A check of the model. -/
structure CallerCheck (μ : Type) where
  name : String
  /-- Finds the reasons for which it fails, none when it passes; nothing when it ends abnormally. -/
  run : μ → Option (List String) × Effects μ

/-- What an interaction with the system under test yields. -/
structure Interaction (μ : Type) where
  effects : Effects μ
  /-- The record of the interaction. -/
  raw : Json
  /-- The response, when there was one. -/
  response : Option Tree
  /-- The checks of the model, in order. -/
  checks : List (CallerCheck μ)

/-- A prepared call. -/
structure Caller (μ : Type) where
  /-- The request as checks see it. -/
  request : Tree
  /-- Performs the interaction; told whether the session is cancelled. -/
  invoke : Bool → μ → Interaction μ

/-- The model of the interface under test. -/
structure Model (μ : Type) where
  /-- Prepares a call, or refuses it. -/
  prepare : Call → μ → Except CampaignError (Caller μ) × Effects μ

/-! ## Lifecycle -/

/-- How resetters are built and what they do. A state in `σ` holds whatever they remember, across attempts as
well; every action answers with the state after it. -/
structure Lifecycle (σ μ : Type) where
  /-- Builds the resetter of a new attempt. -/
  build : σ → μ → Except CampaignError Unit × Effects μ × σ
  /-- How the resetter describes itself. -/
  descriptor : σ → ResetterDescriptor
  /-- Resets the system under test; told the environment, whether the session is cancelled, the time. -/
  reset : EnvSnapshot → Bool → Nat → σ → μ → Except CampaignError Unit × Effects μ × σ
  /-- Releases everything the resetter holds; told the time. -/
  terminate : Nat → σ → μ → Except CampaignError Unit × Effects μ × σ

/-- The lifecycle of a system that needs none. -/
def Lifecycle.noop {μ : Type} : Lifecycle Unit μ where
  build s outside := (.ok (), { outside }, s)
  descriptor _ := .noop
  reset _ _ _ s outside := (.ok (), { outside }, s)
  terminate _ s outside := (.ok (), { outside }, s)

end FuzzCampaign
