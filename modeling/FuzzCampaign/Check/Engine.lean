import FuzzCampaign.Check.Hook
import FuzzCampaign.Check.Name
set_option autoImplicit false

/-! # The check engine

The registry of user checks and their runs. Every definition is validated when it is registered. A run
ends in one of three ways.

1. A hook error, a refused replacement of the state, a state that is no dictionary or no literal tree:
   failure. What the hook changed before stays, but a state that is no dictionary gives way to the tree
   the check held before the run.
2. The state has the canonical text it had before: skipped.
3. Otherwise: success.

A check that runs before the request has no state of its own; each run gets an empty dictionary. -/

namespace FuzzCampaign

/-- When a hook runs. -/
inductive HookKind where
  | beforeRequest
  | afterResponse
deriving DecidableEq, Repr

/-- The origin of the outcomes of a kind. -/
def HookKind.origin : HookKind → CheckOrigin
  | .beforeRequest => .beforeRequest
  | .afterResponse => .afterResponse

/-- A check as the user declares it. -/
structure CheckDefinition (μ : Type) where
  name : String
  before : Option (Hook μ) := none
  after : Option (Hook μ) := none
  tags : StringSet := .empty
  state : Option Tree := none

/-- A registered check. -/
structure Check (μ : Type) where
  name : String
  kind : HookKind
  program : μ → HookProgram μ
  tags : StringSet
  /-- The live state, kept from run to run. -/
  state : Tree

/-- Bounds of every run. -/
structure CheckLimits where
  stepBudget : Nat := 100000
  /-- In nanoseconds. -/
  checkTimeout : Nat := 3000000000
deriving DecidableEq, Repr

/-- How a run ended. -/
inductive OutcomeStatus where
  | success
  | skipped
  | failure
deriving DecidableEq, Repr

/-- The outcome of a check of the model or of the user. -/
structure Outcome where
  name : String
  origin : CheckOrigin
  status : OutcomeStatus
  reason : List String
  /-- Time spent, in nanoseconds. -/
  elapsed : Nat
  executionSteps : Nat
  userProperty : Bool
  /-- Whether the run was given up at its deadline or because of a cancellation. -/
  abandoned : Bool
deriving DecidableEq, Repr

/-- The state that a status is reported as. -/
def OutcomeStatus.verif : OutcomeStatus → VerifStatus
  | .success => .success
  | .skipped => .skipped
  | .failure => .failure

namespace Outcome

/-- The outcome of a check of the model, which fails when it has reasons. -/
def builtIn (name : String) (reason : List String) (elapsed : Nat) : Outcome :=
  ⟨name, .builtIn, if reason.isEmpty then .success else .failure, reason, elapsed, 0, false, false⟩

/-- Whether the check failed. -/
def isFailure (o : Outcome) : Bool := o.status == .failure

/-- The outcome as a message reports it. -/
def progress (o : Outcome) : CheckProgress :=
  ⟨o.name, o.origin, o.status.verif, o.reason, reportedNs o.elapsed, UInt64.ofNat o.executionSteps, o.userProperty⟩

end Outcome

/-- The registered checks, in the order of registration. -/
structure CheckEngine (μ : Type) where
  filter : TagFilter
  limits : CheckLimits
  checks : List (Check μ) := []

namespace CheckEngine

variable {μ : Type}

/-! ## Registration -/

/-- The one hook of a definition. -/
def onlyHook (d : CheckDefinition μ) : Except CampaignError (HookKind × Hook μ) :=
  match d.before, d.after with
  | some hook, none => .ok (.beforeRequest, hook)
  | none, some hook => .ok (.afterResponse, hook)
  | some _, some _ => .error (.config ("check " ++ Text.quoted d.name ++
      " must define only one of before_request or after_response"))
  | none, none => .error (.config ("check " ++ Text.quoted d.name ++
      " must define one of before_request or after_response"))

/-- The state a check begins with. -/
def initialState (name : String) : HookKind → Option Tree → Except CampaignError Tree
  | _, none => .ok .emptyDict
  | .beforeRequest, some state =>
    if state.isEmptyDict then .ok state
    else .error (.config ("check " ++ Text.quoted name ++
      " can only have state with an after_response hook"))
  | .afterResponse, some state =>
    if !state.isDict then
      .error (.config ("check " ++ Text.quoted name ++ " state must be a dict, got " ++ state.typeName))
    else if !state.isLiteral then
      .error (.config ("check " ++ Text.quoted name ++ " state must only contain literal values"))
    else .ok state

/-- The check of a definition; `taken` are the names already registered. -/
def validate (taken : List String) (d : CheckDefinition μ) : Except CampaignError (Check μ) := do
  legalName "check" d.name
  if d.name ∈ taken then
    throw (.config ("check " ++ Text.quoted d.name ++ " is already registered"))
  let (kind, hook) ← onlyHook d
  if hook.arity ≠ 1 then
    throw (.config ("check " ++ Text.quoted d.name ++ " hook must take exactly one parameter, takes " ++
      toString hook.arity))
  let state ← initialState d.name kind d.state
  legalNames "tag" d.tags.toList
  return { name := d.name, kind, program := hook.program, tags := d.tags, state }

/-- Register a check. -/
def register (engine : CheckEngine μ) (d : CheckDefinition μ) : Except CampaignError (CheckEngine μ) :=
  match validate (engine.checks.map Check.name) d with
  | .error e => .error e
  | .ok check => .ok { engine with checks := engine.checks ++ [check] }

/-! ## Looking up -/

/-- The positions of the checks of a kind that take part, in the order of registration. -/
def active (engine : CheckEngine μ) (kind : HookKind) : List Nat :=
  (List.range engine.checks.length).filter fun i =>
    match engine.checks[i]? with
    | some c => c.kind == kind && !engine.filter.excludes c.tags
    | none => false

/-- The name of the check at a position. -/
def name? (engine : CheckEngine μ) (index : Nat) : Option String := (engine.checks[index]?).map Check.name

/-- The live state of the check of a name. -/
def state? (engine : CheckEngine μ) (name : String) : Option Tree :=
  (engine.checks.find? (·.name == name)).map Check.state

/-! ## Runs -/

/-- The tree a check held before a run, read back from its canonical text; the empty dictionary when
there is no such text, it nests too deep to be read, or it is no dictionary. -/
def restore (before : Option String) : Tree :=
  match before.bind Tree.parse? with
  | some tree => if tree.isDict then tree else .emptyDict
  | none => .emptyDict

/-- How a run is classified. -/
structure Verdict where
  status : OutcomeStatus
  reason : List String
  abandoned : Bool
  /-- The state the check is left with. -/
  state : Tree

/-- Classify a run that began with the canonical text `before`. -/
def classify (before : Option String) (result : Except HookError Unit) (badAssignment : Option String)
    (state : Tree) : Verdict :=
  match result with
  | .error e => ⟨.failure, Text.lines e.message, e.isAbandonment, state⟩
  | .ok () =>
    match badAssignment with
    | some kind => ⟨.failure, [(HookError.stateNotTree kind).message], false, state⟩
    | none =>
      if !state.isDict then
        ⟨.failure, [(HookError.stateNotTree state.typeName).message], false, restore before⟩
      else
        match state.canonical with
        | .error e => ⟨.failure, ["state is not a literal tree: " ++ e.message], false, state⟩
        | .ok after =>
          if before = some after then ⟨.skipped, [], false, state⟩ else ⟨.success, [], false, state⟩

/-- The tree a run begins with. -/
def startingState (check : Check μ) : Tree :=
  match check.kind with
  | .beforeRequest => .emptyDict
  | .afterResponse => check.state

/-- What the hook of a check sees when its run begins at the instant `started`. -/
def startingContext (limits : CheckLimits) (check : Check μ) (request : Tree) (response : Option Tree)
    (callDeadline started : Nat) : HookContext :=
  { request, response, state := startingState check,
    limits := ⟨limits.stepBudget, min callDeadline (started + limits.checkTimeout)⟩ }

/-- Run the hook of a check: how it ended, what it left behind and the surroundings after it. -/
def runHook (limits : CheckLimits) (check : Check μ) (request : Tree) (response : Option Tree)
    (callDeadline : Nat) (w : World μ) : Except HookError Unit × HookContext × World μ :=
  (check.program w.outside).run (startingContext limits check request response callDeadline w.clock) w

/-- Run one check against a request and a response. -/
def runCheck (limits : CheckLimits) (check : Check μ) (request : Tree) (response : Option Tree)
    (callDeadline : Nat) (w : World μ) : Outcome × Check μ × World μ :=
  let w := w.look
  let started := w.clock
  let before := (startingState check).canonical.toOption
  let (result, ctx, w) := runHook limits check request response callDeadline w
  let w := w.printLines (ctx.output.map fun line => check.name ++ ": " ++ line)
  let verdict := classify before result ctx.badAssignment ctx.state
  let check := match check.kind with
    | .beforeRequest => check
    | .afterResponse => { check with state := verdict.state }
  (⟨check.name, check.kind.origin, verdict.status, verdict.reason, w.elapsed started, ctx.steps, true,
    verdict.abandoned⟩, check, w)

/-- Run the check at a position. -/
def run (engine : CheckEngine μ) (index : Nat) (request : Tree) (response : Option Tree)
    (callDeadline : Nat) (w : World μ) : Except CampaignError (Outcome × CheckEngine μ × World μ) :=
  match engine.checks[index]? with
  | none => .error (.check ("no check at index " ++ toString index))
  | some check =>
    let (outcome, check, w) := runCheck engine.limits check request response callDeadline w
    .ok (outcome, { engine with checks := engine.checks.set index check }, w)

end CheckEngine

end FuzzCampaign
