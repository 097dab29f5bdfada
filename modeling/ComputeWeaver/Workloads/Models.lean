/-
Workloads.Models — jobs, their resource requests and service
levels (`packages/workloads/models.py`).

The checks of the dataclasses' `__post_init__` are fields here, so a request
with a negative count, without a runtime, or with a priority out of range
cannot be built.
-/
import Mathlib.Data.Rat.Defs
import ComputeWeaver.Lib.Python

namespace ComputeWeaver.Workloads

open Lib

inductive WorkloadClass where
  | training
  | fineTuning
  | rl
  | batchInference
  | onlineInference
  | preprocessing
  | evaluation
  deriving DecidableEq, Repr

structure ResourceRequest where
  gpuCount : Int
  gpuModel : Option String
  cpuCores : Int
  memoryGb : ℚ
  estimatedHours : ℚ
  powerKwPerGpu : ℚ
  gpuCount_nonneg : 0 ≤ gpuCount
  cpuCores_nonneg : 0 ≤ cpuCores
  estimatedHours_pos : 0 < estimatedHours

structure Sla where
  deadline : DateTime
  priority : Int := 50
  maxLatencyMs : Option Int := none
  availabilityTarget : Option ℚ := none
  priority_nonneg : 0 ≤ priority
  priority_le : priority ≤ 100

structure Job where
  id : String
  tenantId : String
  projectId : String
  workloadClass : WorkloadClass
  request : ResourceRequest
  sla : Sla
  submittedAt : DateTime
  allowedSites : Finset String
  dataRegions : Finset String := ∅
  dependencies : Finset String := ∅
  checkpointable : Bool := false
  labels : Dict String String := .empty

/-- A training job without optional settings, for concrete requests. -/
def Job.simple (id : String) (gpuCount : Nat) (powerKwPerGpu : ℚ) (deadline : Int) : Job where
  id := id
  tenantId := "tenant-one"
  projectId := "project-one"
  workloadClass := .training
  request :=
    { gpuCount, gpuModel := none, cpuCores := 0, memoryGb := 0, estimatedHours := 1,
      powerKwPerGpu, gpuCount_nonneg := Int.natCast_nonneg _, cpuCores_nonneg := by decide,
      estimatedHours_pos := by decide }
  sla := { deadline := .aware deadline, priority_nonneg := by decide, priority_le := by decide }
  submittedAt := .aware 0
  allowedSites := ∅

/-- The job with a runtime of `more` hours above one. -/
def Job.lasting (job : Job) (more : Nat) : Job :=
  { job with
    request := { job.request with
      estimatedHours := more.succ
      estimatedHours_pos := Rat.natCast_pos.mpr more.succ_pos } }

end ComputeWeaver.Workloads
