import FuzzCampaign.Tree
import FuzzCampaign.World
set_option autoImplicit false

/-! # Hooks

A hook is the body of a check. It sees three values: the request and the response of the call, which are
frozen, and the state of its check, a live tree. Once it has touched the state it can no longer read the
request or the response, so a state is only ever derived from what was read before it. Every access is a
step, and steps are bounded by a budget, by the cancellation of the session and by a deadline.

A hook is written in a language of its own. Here it is a tree of what it does: each access goes on with
the answer it gets, which may be an error that the hook passes over. What it does may also depend on what it
remembers, which is part of the state of what lies outside. -/

namespace FuzzCampaign

/-- Why a hook stopped. -/
inductive HookError where
  /-- An assertion failed. -/
  | assertion (message : String)
  /-- The request or the response was read after the state. -/
  | accessOrder (message : String)
  /-- The state was replaced by something that is not a dictionary, but of this type. -/
  | stateNotTree (kind : String)
  /-- There is no such value for this hook. -/
  | unavailable (what : String)
  /-- More steps than the budget. -/
  | stepBudgetExceeded (max : Nat)
  /-- The deadline passed. -/
  | deadlineExceeded
  /-- The session was cancelled. -/
  | cancelled
  /-- Anything else. -/
  | script (message : String)
deriving DecidableEq, Repr

namespace HookError

/-- Whether the hook was abandoned rather than failing on its own. -/
def isAbandonment : HookError → Bool
  | .deadlineExceeded | .cancelled => true
  | _ => false

/-- The text of an error. -/
def message : HookError → String
  | .assertion m => "assertion failed: " ++ m
  | .accessOrder m => "access order: " ++ m
  | .stateNotTree kind => "state must be a dict, got " ++ kind
  | .unavailable what => what ++ " is not available here"
  | .stepBudgetExceeded max => "too many execution steps (max " ++ toString max ++ ")"
  | .deadlineExceeded => "deadline exceeded"
  | .cancelled => "cancelled"
  | .script m => m

end HookError

/-- What a hook does; what lies outside has states in `μ`. -/
inductive HookProgram (μ : Type) where
  /-- It ends normally. -/
  | done
  /-- It ends with an error. -/
  | fail (error : HookError)
  /-- It ends abnormally. -/
  | panic
  /-- It accounts for a step. -/
  | step (next : Except HookError Unit → HookProgram μ)
  /-- It reads the request. -/
  | request (next : Except HookError Tree → HookProgram μ)
  /-- It reads the response. -/
  | response (next : Except HookError Tree → HookProgram μ)
  /-- It takes hold of the live state and, when it gets it, leaves it changed by `change`. -/
  | state (change : Tree → Tree) (next : Except HookError Tree → HookProgram μ)
  /-- It replaces the state. -/
  | setState (value : Tree) (next : Except HookError Unit → HookProgram μ)
  /-- It asserts a condition. -/
  | assertThat (condition : Bool) (message : String) (next : Except HookError Unit → HookProgram μ)
  /-- It prints a line. -/
  | print (line : String) (next : HookProgram μ)
  /-- It lets time pass, cancels the session or makes the orchestrator go away. -/
  | act (nudge : Nudge) (next : HookProgram μ)
  /-- It remembers something, which leaves what lies outside in this state. -/
  | remember (memory : μ) (next : HookProgram μ)

variable {μ : Type}

/-- Account for several steps, up to the first that is refused. -/
def HookProgram.steps (next : Except HookError Unit → HookProgram μ) : Nat → HookProgram μ
  | 0 => next (.ok ())
  | n + 1 => .step fun
    | .ok () => steps next n
    | .error e => next (.error e)

/-- The bounds of one run. -/
structure HookLimits where
  maxSteps : Nat
  deadline : Nat
deriving DecidableEq, Repr

/-- What a running hook sees and touches. -/
structure HookContext where
  request : Tree
  response : Option Tree
  /-- The live state. -/
  state : Tree
  limits : HookLimits
  /-- Whether the state was touched. -/
  touched : Bool := false
  /-- The type of the last value that the state could not be replaced by. -/
  badAssignment : Option String := none
  /-- Steps made so far. -/
  steps : Nat := 0
  /-- Lines printed, in order. -/
  output : List String := []
deriving Repr

namespace HookContext

/-- Account for one step. Of several reasons to stop the budget comes first, then the cancellation, then
the deadline. -/
def step (ctx : HookContext) (w : World μ) : Except HookError Unit × HookContext × World μ :=
  let ctx := { ctx with steps := ctx.steps + 1 }
  if ctx.limits.maxSteps < ctx.steps then (.error (.stepBudgetExceeded ctx.limits.maxSteps), ctx, w)
  else
    let w := w.look
    if w.cancelled then (.error .cancelled, ctx, w)
    else if ctx.limits.deadline ≤ w.clock then (.error .deadlineExceeded, ctx, w)
    else (.ok (), ctx, w)

/-- A frozen value, read unless the state was touched. -/
def frozen (ctx : HookContext) (what : String) (value : Option Tree) : Except HookError Tree :=
  if ctx.touched then .error (.accessOrder ("cannot read " ++ what ++ " after accessing state"))
  else
    match value with
    | some tree => .ok tree
    | none => .error (.unavailable what)

/-- Read the request. -/
def readRequest (ctx : HookContext) (w : World μ) : Except HookError Tree × HookContext × World μ :=
  match ctx.step w with
  | (.error e, ctx, w) => (.error e, ctx, w)
  | (.ok (), ctx, w) => (ctx.frozen "request" (some ctx.request), ctx, w)

/-- Read the response. -/
def readResponse (ctx : HookContext) (w : World μ) : Except HookError Tree × HookContext × World μ :=
  match ctx.step w with
  | (.error e, ctx, w) => (.error e, ctx, w)
  | (.ok (), ctx, w) => (ctx.frozen "response" ctx.response, ctx, w)

/-- Take hold of the state: the answer is the tree that was found, the tree that is left is changed. -/
def takeState (ctx : HookContext) (change : Tree → Tree) (w : World μ) :
    Except HookError Tree × HookContext × World μ :=
  match ctx.step w with
  | (.error e, ctx, w) => (.error e, ctx, w)
  | (.ok (), ctx, w) => (.ok ctx.state, { ctx with touched := true, state := change ctx.state }, w)

/-- Replace the state. A value that is not a dictionary is refused and remembered. -/
def replaceState (ctx : HookContext) (value : Tree) (w : World μ) :
    Except HookError Unit × HookContext × World μ :=
  match ctx.step w with
  | (.error e, ctx, w) => (.error e, ctx, w)
  | (.ok (), ctx, w) =>
    if value.isDict then (.ok (), { ctx with touched := true, state := value }, w)
    else
      (.error (.stateNotTree value.typeName),
        { ctx with touched := true, badAssignment := some value.typeName }, w)

/-- Fail unless a condition holds. -/
def assertThat (ctx : HookContext) (condition : Bool) (message : String) (w : World μ) :
    Except HookError Unit × HookContext × World μ :=
  match ctx.step w with
  | (.error e, ctx, w) => (.error e, ctx, w)
  | (.ok (), ctx, w) => (if condition then .ok () else .error (.assertion message), ctx, w)

/-- Print a line. -/
def print (ctx : HookContext) (line : String) : HookContext := { ctx with output := ctx.output ++ [line] }

end HookContext

/-- Run a hook. An abnormal end is an error like any other. -/
def HookProgram.run : HookProgram μ → HookContext → World μ → Except HookError Unit × HookContext × World μ
  | .done, ctx, w => (.ok (), ctx, w)
  | .fail e, ctx, w => (.error e, ctx, w)
  | .panic, ctx, w => (.error (.script "hook panicked"), ctx, w)
  | .step next, ctx, w =>
    let (answer, ctx, w) := ctx.step w
    (next answer).run ctx w
  | .request next, ctx, w =>
    let (answer, ctx, w) := ctx.readRequest w
    (next answer).run ctx w
  | .response next, ctx, w =>
    let (answer, ctx, w) := ctx.readResponse w
    (next answer).run ctx w
  | .state change next, ctx, w =>
    let (answer, ctx, w) := ctx.takeState change w
    (next answer).run ctx w
  | .setState value next, ctx, w =>
    let (answer, ctx, w) := ctx.replaceState value w
    (next answer).run ctx w
  | .assertThat condition message next, ctx, w =>
    let (answer, ctx, w) := ctx.assertThat condition message w
    (next answer).run ctx w
  | .print line next, ctx, w => next.run (ctx.print line) w
  | .act nudge next, ctx, w => next.run ctx (w.nudge nudge)
  | .remember memory next, ctx, w => next.run ctx (w.remember memory)

/-- A hook as it is declared. -/
structure Hook (μ : Type) where
  /-- The number of parameters; the context is one. -/
  arity : Nat := 1
  /-- What it does, given the state of what lies outside, where it keeps what it remembers of earlier runs. -/
  program : μ → HookProgram μ

end FuzzCampaign
