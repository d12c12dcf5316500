import ActionPlan.Decimal.Layout
import ActionPlan.Item.Basic

/-!
# Durations

A wait carries its duration as text. The text has the full precision of the number
and always a fraction, in exponent form only for very large and very small numbers.

## Main definitions

* `durationLayout`: How a duration is written.
* `Action.wait`: Waiting for a number of seconds.
-/

namespace ActionPlan

/-- Durations are positional from `1e-4` on and below `1e16`, keep a fraction in
    positional form, and leave out the plus sign of an exponent. -/
def durationLayout : Decimal.Layout where
  positional := some (-4, 16)
  pointZero := true
  plusSign := false
  tie := .upward

/-- Waiting on the desktop for a number of seconds. -/
def Action.wait (seconds : Binary64) : Action :=
  .waitFor (durationLayout.text seconds)

end ActionPlan
