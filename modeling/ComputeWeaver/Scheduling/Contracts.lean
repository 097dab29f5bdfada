/-
Scheduling.Contracts — schedule requests, plans and the plan
check (`packages/scheduling/contracts.py`).

A slot carries an `index` of its own. `validatePlan` uses the index of an
allocation twice: as the key of the `used` table and as a POSITION in
`request.slots`. The two agree only for a request whose slots carry their
own position.

Decimals are exact rationals, except that the number of slots a job needs comes from
a rounded quotient. `contentHash` is a parameter of the functions
that build plans: no result depends on what the digest is.
-/
import ComputeWeaver.Lib.Decimal
import ComputeWeaver.Lib.Itertools
import ComputeWeaver.Workloads.Models

namespace ComputeWeaver.Scheduling

open Lib Workloads

structure TimeSlot where
  index : Int
  startsAt : DateTime
  durationHours : ℚ
  gpuCapacity : Int
  powerCapacityKw : ℚ
  pricePerKwh : ℚ
  carbonKgPerKwh : ℚ := 0
  deriving DecidableEq, Repr

/-- An hour that starts `index` microseconds in, for concrete requests. -/
def TimeSlot.simple (index gpuCapacity : Int) (powerCapacityKw pricePerKwh : ℚ) : TimeSlot where
  index := index
  startsAt := .aware index
  durationHours := 1
  gpuCapacity := gpuCapacity
  powerCapacityKw := powerCapacityKw
  pricePerKwh := pricePerKwh

structure ScheduleInput where
  jobs : List Job
  slots : List TimeSlot
  topologyVersion : Int
  forecastVersion : String
  baselineName : String := "none"

structure Allocation where
  jobId : String
  slotIndices : List Int
  gpuCount : Int
  reasonCode : String
  deriving DecidableEq, Repr

structure SchedulePlan where
  strategy : String
  allocations : List Allocation
  unscheduled : List String
  energyIntentKwh : ℚ
  estimatedCost : ℚ
  assumptions : List String
  violations : List String
  inputHash : String
  deriving DecidableEq, Repr

/-- `int((hours / duration).to_integral_value(rounding=ROUND_CEILING))`. -/
def slotsNeeded (job : Job) (duration : ℚ) : Except PyError Int :=
  if duration = 0 then throw .zeroDivisionError
  else pure ⌈PyDecimal.quotient job.request.estimatedHours duration⌉

/-- `all(b == a + 1 for a, b in zip(indices, indices[1:]))`. -/
def consecutive (indices : List Int) : Bool :=
  (indices.zip indices.tail).all fun ab => ab.2 = ab.1 + 1

/-! ## The plan check -/

/-- The loop over the slots of one allocation. -/
def validateSlots (request : ScheduleInput) (job : Job) (gpuCount : Int) :
    List Int → Dict Int Int → Except PyError (Dict Int Int)
  | [], used => pure used
  | slotIndex :: rest, used => do
      let slot ← pyIndex request.slots slotIndex
      let before ← used.getItem slotIndex (toString slotIndex)
      let used := used.set slotIndex (before + gpuCount)
      if slot.gpuCapacity < before + gpuCount then
        throw (.valueError "schedule exceeds GPU capacity")
      if ← slot.startsAt.ge job.sla.deadline then
        throw (.valueError "schedule violates job deadline")
      validateSlots request job gpuCount rest used

/-- The loop over the allocations. -/
def validateAllocations (request : ScheduleInput) (jobs : Dict String Job) :
    List Allocation → List String → Dict Int Int → Except PyError Unit
  | [], _, _ => pure ()
  | allocation :: rest, allocated, used => do
      if allocation.jobId ∈ allocated then
        throw (.valueError "job allocated more than once")
      let job ← jobs.getItem allocation.jobId allocation.jobId
      let used ← validateSlots request job allocation.gpuCount allocation.slotIndices used
      validateAllocations request jobs rest (allocation.jobId :: allocated) used

def validatePlan (request : ScheduleInput) (plan : SchedulePlan) : Except PyError Unit :=
  validateAllocations request (.ofList (request.jobs.map fun job => (job.id, job)))
    plan.allocations [] (.ofList (request.slots.map fun slot => (slot.index, 0)))

end ComputeWeaver.Scheduling
