import FuzzCampaign.Model
set_option autoImplicit false

/-! # Reporting of resets

Each reset is reported to the orchestrator, `started` before it and `ended` or `failed` after it, and the
failures of an attempt are counted, so that its verdict can tell a broken lifecycle from a bug. -/

namespace FuzzCampaign

/-- The resets of an attempt. -/
structure ResetController where
  resets : UInt32 := 0
  failures : UInt32 := 0
deriving DecidableEq, Repr, Inhabited

namespace ResetController

/-- Whether any reset of the attempt failed. -/
def hadResetError (c : ResetController) : Bool := 0 < c.failures

/-- Run one reset and report it. A failure of the reset is answered even when its report cannot be
delivered. -/
def reset {σ μ : Type} (c : ResetController) (lifecycle : Lifecycle σ μ) (env : EnvSnapshot) (s : σ)
    (w : World μ) : Except CampaignError Unit × ResetController × σ × World μ :=
  let c := { c with resets := c.resets + 1 }
  match w.send (.resetProgress ⟨.started, 0, []⟩) with
  | (.error e, w) => (.error e, c, s, w)
  | (.ok (), w) =>
    let w := w.look
    let started := w.clock
    let (result, effects, s) := lifecycle.reset env w.cancelled started s w.outside
    let w := w.apply effects
    match result with
    | .ok () =>
      let (sent, w) := w.send (.resetProgress ⟨.ended, reportedNs (w.elapsed started), []⟩)
      (sent, c, s, w)
    | .error e =>
      let c := { c with failures := c.failures + 1 }
      let (_, w) := w.send (.resetProgress ⟨.failed, reportedNs (w.elapsed started), e.reasonLines⟩)
      (.error e, c, s, w)

end ResetController

end FuzzCampaign
