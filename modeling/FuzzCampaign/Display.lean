import FuzzCampaign.World
set_option autoImplicit false

/-! # The display and its tallies

The display counts passed, skipped and failed checks until it is told that the attempt is over. -/

namespace FuzzCampaign

/-- Checks counted since the display was last told that an attempt is over. -/
structure Tallies where
  passed : UInt32 := 0
  skipped : UInt32 := 0
  failed : UInt32 := 0
deriving DecidableEq, Repr, Inhabited

namespace Tallies

/-- The tallies after something was shown. -/
def after (t : Tallies) : SinkEvent → Tallies
  | .passed => { t with passed := t.passed + 1 }
  | .skipped => { t with skipped := t.skipped + 1 }
  | .failed _ => { t with failed := t.failed + 1 }
  | .terminate => {}
  | .report _ | .progress _ | .printf _ | .errorf _ => t

/-- The tallies after everything that was shown. -/
def ofEvents (events : List SinkEvent) : Tallies := events.foldl after {}

end Tallies

end FuzzCampaign
