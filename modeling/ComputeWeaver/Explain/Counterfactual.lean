/-
Explain.Counterfactual — what a change of the prices does
(`packages/explain/counterfactual.py`).

The two calls of `optimize` read the clock on their own: `clock` belongs to the
call for the original request and `changedClock` to the other.
-/
import ComputeWeaver.Optimization.Engine

namespace ComputeWeaver.Explain

open Lib Scheduling Optimization

structure Counterfactual where
  parameter : String
  original : ℚ
  changed : ℚ
  objectiveDelta : Option ℚ
  result : OptimizationResult
  deriving DecidableEq, Repr

/-- `replace(slot, price_per_kwh=slot.price_per_kwh * multiplier)`. -/
def rescaleSlot (multiplier : ℚ) (slot : TimeSlot) : TimeSlot :=
  { slot with pricePerKwh := slot.pricePerKwh * multiplier }

def rescale (multiplier : ℚ) (request : ScheduleInput) : ScheduleInput :=
  { request with slots := request.slots.map (rescaleSlot multiplier) }

def changeSlotPrices (contentHash : ScheduleInput → String) (request : ScheduleInput)
    (multiplier : ℚ) (clock changedClock : Nat → ℚ) (timeoutSeconds : ℚ := 5) :
    Except PyError Counterfactual := do
  if multiplier ≤ 0 then
    throw (.valueError "price multiplier must be positive")
  let originalResult ← optimize contentHash request clock timeoutSeconds
  let changedResult ← optimize contentHash (rescale multiplier request) changedClock timeoutSeconds
  let delta := do
    let plan ← originalResult.plan
    let changedPlan ← changedResult.plan
    pure (changedPlan.estimatedCost - plan.estimatedCost)
  pure ⟨"price_multiplier", 1, multiplier, delta, changedResult⟩

end ComputeWeaver.Explain
