/-
Optimization.Objectives — the objectives of a finished plan
(`packages/optimization/objectives.py`, and the weights of
`packages/optimization/model.py`).

`delayHours` stands for `Decimal(str(seconds / 3600))` of a time difference, which
goes through a float. It is a parameter, by the difference in microseconds.
-/
import ComputeWeaver.Scheduling.Contracts

namespace ComputeWeaver.Optimization

open Lib Workloads Scheduling

/-- The checks of `__post_init__` are fields. -/
structure ObjectiveWeights where
  energyCost : ℚ := 1
  carbon : ℚ := 0
  delay : ℚ := 0
  migration : ℚ := 0
  degradation : ℚ := 0
  curtailment : ℚ := 0
  nonneg : ∀ value ∈ [energyCost, carbon, delay, migration, degradation, curtailment], 0 ≤ value
  positive : ∃ value ∈ [energyCost, carbon, delay, migration, degradation, curtailment], value ≠ 0

/-- `ObjectiveWeights()`. -/
def ObjectiveWeights.default : ObjectiveWeights where
  nonneg := by decide
  positive := ⟨1, by decide, by decide⟩

structure ObjectiveBreakdown where
  energyCost : ℚ
  carbonKg : ℚ
  delaySlotHours : ℚ
  weightedTotal : ℚ
  deriving DecidableEq, Repr

/-- The running sums of the loop. -/
structure ObjectiveSums where
  energyCost : ℚ
  carbon : ℚ
  delay : ℚ

/-- `a - b` in microseconds. -/
def elapsed (a b : DateTime) : Except PyError Int :=
  if DateTime.Comparable a b then pure (a.micros - b.micros) else throw .typeError

section

variable (delayHours : Int → ℚ) (slots : Dict Int TimeSlot)

/-- The loop body over the slots of an allocation. -/
def addSlot (job : Job) (gpuCount : Int) (sums : ObjectiveSums) (slotIndex : Int) :
    Except PyError ObjectiveSums := do
  let slot ← slots.getItem slotIndex (toString slotIndex)
  let energy := slot.durationHours * gpuCount * job.request.powerKwPerGpu
  let waited ← elapsed slot.startsAt job.submittedAt
  pure
    { energyCost := sums.energyCost + energy * slot.pricePerKwh
      carbon := sums.carbon + energy * slot.carbonKgPerKwh
      delay := sums.delay + max 0 (delayHours waited) }

/-- The loop body over the allocations. -/
def addAllocation (jobs : Dict String Job) (sums : ObjectiveSums) (allocation : Allocation) :
    Except PyError ObjectiveSums := do
  let job ← jobs.getItem allocation.jobId allocation.jobId
  allocation.slotIndices.foldlM (addSlot delayHours slots job allocation.gpuCount) sums

end

def evaluateObjectives (delayHours : Int → ℚ) (request : ScheduleInput) (plan : SchedulePlan)
    (weights : ObjectiveWeights) : Except PyError ObjectiveBreakdown := do
  let slots := .ofList (request.slots.map fun slot => (slot.index, slot))
  let jobs := .ofList (request.jobs.map fun job => (job.id, job))
  let sums ← plan.allocations.foldlM (addAllocation delayHours slots jobs) ⟨0, 0, 0⟩
  pure
    { energyCost := sums.energyCost
      carbonKg := sums.carbon
      delaySlotHours := sums.delay
      weightedTotal := sums.energyCost * weights.energyCost + sums.carbon * weights.carbon +
        sums.delay * weights.delay }

end ComputeWeaver.Optimization
