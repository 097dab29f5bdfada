/-
Optimization.Diagnostics — what stands in the way of a job
(`packages/optimization/constraints.py` and `packages/optimization/diagnostics.py`).

Both look at one job at a time, and at every slot on its own.
-/
import ComputeWeaver.Scheduling.Contracts

namespace ComputeWeaver.Optimization

open Lib Workloads Scheduling

structure ConstraintViolation where
  constraintId : String
  subjectId : String
  detail : String
  deriving DecidableEq, Repr

/-! ## The hard constraints -/

/-- The loop body over the jobs. -/
def hardConstraints (request : ScheduleInput) (job : Job) :
    Except PyError (List ConstraintViolation) := do
  let eligible ← filterE (fun slot => slot.startsAt.lt job.sla.deadline) request.slots
  if eligible.isEmpty then
    return [⟨"SLA_DEADLINE", job.id, "no slot precedes deadline"⟩]
  let requiredPower := job.request.gpuCount * job.request.powerKwPerGpu
  pure <|
    (if eligible.all (fun slot => slot.gpuCapacity < job.request.gpuCount) then
      [⟨"GPU_CAPACITY", job.id, "insufficient GPUs"⟩] else []) ++
    (if eligible.all (fun slot => slot.powerCapacityKw < requiredPower) then
      [⟨"POWER_CAPACITY", job.id, "insufficient site power"⟩] else []) ++
    (if job.allowedSites = ∅ then [⟨"SOVEREIGNTY_SCOPE", job.id, "no allowed site"⟩] else [])

def validateHardConstraints (request : ScheduleInput) :
    Except PyError (List ConstraintViolation) := do
  let violations ← request.jobs.mapM (hardConstraints request)
  pure violations.flatten

/-! ## The diagnosis -/

/-- `max((slot.gpu_capacity for slot in slots), default=0)`. -/
def maxGpus (slots : List TimeSlot) : Int := (slots.map (·.gpuCapacity)).max?.getD 0

/-- The loop body over the jobs. -/
def diagnoseJob (request : ScheduleInput) (job : Job) : Except PyError (List String) := do
  let reachable ← anyE (fun slot => slot.startsAt.lt job.sla.deadline) request.slots
  pure <|
    (if maxGpus request.slots < job.request.gpuCount then ["GPU_CAPACITY:" ++ job.id] else []) ++
    (if reachable then [] else ["DEADLINE:" ++ job.id])

def diagnoseInfeasibility (request : ScheduleInput) : Except PyError (List String) := do
  let issues ← request.jobs.mapM (diagnoseJob request)
  pure ((if request.slots.isEmpty then ["NO_TIME_SLOTS"] else []) ++ issues.flatten)

end ComputeWeaver.Optimization
