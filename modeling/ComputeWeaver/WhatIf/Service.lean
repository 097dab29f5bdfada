/-
WhatIf.Service — a run of the optimizer with other capacities
(`packages/whatif/service.py`).

The multiplier is a `Decimal`, infinity and NaN included; capacities times a finite one
are exact. The text that `str` gives for it depends on how the decimal is written, and
is a parameter.
-/
import ComputeWeaver.Optimization.Engine

namespace ComputeWeaver.WhatIf

open Lib Scheduling Optimization

structure WhatIfResult where
  isolated : Bool
  changedParameters : Dict String String
  result : OptimizationResult

/-- `int(value)` of a decimal: truncated towards zero. -/
def truncate (value : ℚ) : Int := if 0 ≤ value then ⌊value⌋ else ⌈value⌉

def rescaleCapacity (multiplier : ℚ) (slot : TimeSlot) : TimeSlot :=
  { slot with
    gpuCapacity := truncate (slot.gpuCapacity * multiplier)
    powerCapacityKw := slot.powerCapacityKw * multiplier }

def scenario (multiplier : ℚ) (request : ScheduleInput) : ScheduleInput :=
  { request with slots := request.slots.map (rescaleCapacity multiplier) }

/-- The slots of the scenario. Zero times infinity is no number, and no other capacity
times infinity is an integer. -/
def rescaleSlots (multiplier : PyDecimal) (request : ScheduleInput) :
    Except PyError ScheduleInput :=
  match multiplier with
  | .finite factor => pure (scenario factor request)
  | _ => match request.slots with
      | [] => pure request
      | slot :: _ => throw (if slot.gpuCapacity = 0 then .invalidOperation else .overflowError)

/-- `optimize(scenario)` has its default timeout, 10 seconds. -/
def runWhatIf (contentHash : ScheduleInput → String) (multiplierText : String)
    (request : ScheduleInput) (clock : Nat → ℚ) (capacityMultiplier : PyDecimal := .finite 1) :
    Except PyError WhatIfResult := do
  if ← capacityMultiplier.le (.finite 0) then
    throw (.valueError "capacity multiplier must be positive")
  let scenario ← rescaleSlots capacityMultiplier request
  let result ← optimize contentHash scenario clock 10
  pure ⟨true, .ofList [("capacity_multiplier", multiplierText)], result⟩

end ComputeWeaver.WhatIf
