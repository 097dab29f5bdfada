/-
Optimization.Solvers — the schedule as a 0/1 program
(`packages/optimization/solvers.py`).

One column per window of a job, a row per job that lets exactly one of its
windows be taken, and a row for the GPUs and one for the power of every slot.
HiGHS is a parameter: what it returns for a program is up to `Highs`. The floats
that are handed to it and come back are exact numbers here, and the model file
is not written.

A column carries the job that the source looks up by `job_index`.
-/
import ComputeWeaver.Lib.BinaryProgram
import ComputeWeaver.Optimization.Engine

namespace ComputeWeaver.Optimization

open Lib Workloads Scheduling

/-! ## The program -/

/-- An entry of `variables`. -/
structure Variable where
  jobIndex : Nat
  optionIndex : Nat
  job : Job
  choice : List Int

def columnsOf (jobIndex : Nat) (job : Job) (windows : List (List Int)) : List Variable :=
  windows.zipIdx.map fun choiceIndex => ⟨jobIndex, choiceIndex.2, job, choiceIndex.1⟩

/-- `variables`, for the jobs from `start` on. -/
def variablesFrom : Nat → List (Job × List (List Int)) → List Variable
  | _, [] => []
  | start, (job, windows) :: rest =>
      columnsOf start job windows ++ variablesFrom (start + 1) rest

def variableIndex (columns : List Variable) : Dict (Nat × Nat) Nat :=
  .ofList (columns.zipIdx.map fun columnPosition =>
    ((columnPosition.1.jobIndex, columnPosition.1.optionIndex), columnPosition.2))

/-- Every job selects exactly one of its windows. -/
def windowRow (index : Dict (Nat × Nat) Nat) (jobIndex : Nat) (windows : List (List Int)) :
    Except PyError LinearRow := do
  let indices ← (List.range windows.length).mapM fun optionIndex =>
    index.getItem (jobIndex, optionIndex) (toString (jobIndex, optionIndex))
  pure ⟨some 1, 1, indices.map fun index => (index, 1)⟩

/-- The demand of the windows that contain the slot is within a capacity. -/
def capacityRow (columns : List Variable) (demand : Job → ℚ) (slot : TimeSlot) (capacity : ℚ) :
    LinearRow :=
  ⟨none, capacity,
    columnEntries columns
      (fun column => if slot.index ∈ column.choice then some (demand column.job) else none)
      0⟩

def gpuRow (columns : List Variable) (slot : TimeSlot) : LinearRow :=
  capacityRow columns (fun job => job.request.gpuCount) slot slot.gpuCapacity

def powerRow (columns : List Variable) (slot : TimeSlot) : LinearRow :=
  capacityRow columns (fun job => job.request.gpuCount * job.request.powerKwPerGpu) slot
    slot.powerCapacityKw

/-- The program as HiGHS reads it off the arrays. -/
def programOf (request : ScheduleInput) (placeable : List (Job × List (List Int))) :
    Except PyError BinaryProgram := do
  let columns := variablesFrom 0 placeable
  let index := variableIndex columns
  let costs ← columns.mapM fun column => windowCost request column.job column.choice
  let windowRows ← placeable.zipIdx.mapM fun jobIndex => windowRow index jobIndex.2 jobIndex.1.2
  let rows := windowRows ++ request.slots.map (gpuRow columns) ++
    request.slots.map (powerRow columns)
  pure ⟨costs, (rows.foldl RowBuffer.push .empty).rowsOf⟩

/-! ## The solver -/

inductive HighsModelStatus where
  | optimal
  | timeLimit
  | infeasible
  | other
  deriving DecidableEq, Repr

/-- What a run of HiGHS leaves to be read. -/
structure HighsRun where
  modelStatus : HighsModelStatus
  statusText : String
  colValue : List ℚ
  objectiveFunctionValue : ℚ
  mipGap : ℚ
  runTime : ℚ

/-- An installed HiGHS. -/
structure Highs where
  version : String
  run : BinaryProgram → ℚ → HighsRun

/-- `selected[job_index] = choice` for a column above one half. -/
def selectColumn (colValue : List ℚ) (selected : Dict Nat (List Int))
    (columnPosition : Variable × Nat) : Except PyError (Dict Nat (List Int)) := do
  let value ← pyIndex colValue columnPosition.2
  if 1 / 2 < value then
    pure (selected.set columnPosition.1.jobIndex columnPosition.1.choice)
  else
    pure selected

def selectWindows (colValue : List ℚ) (columns : List Variable) :
    Except PyError (Dict Nat (List Int)) :=
  columns.zipIdx.foldlM (selectColumn colValue) .empty

namespace HighsSolver

section

variable (contentHash : ScheduleInput → String) (request : ScheduleInput)

def noWindowResult (empty : List String) : OptimizationResult where
  status := .infeasible
  plan := none
  objectiveBreakdown := []
  solver := "highs"
  gap := 0
  runtimeSeconds := 0
  assumptions := []
  diagnostics := empty.map ("JOB_NO_FEASIBLE_WINDOW:" ++ ·)

def noSolutionResult (version : String) (run : HighsRun) : OptimizationResult where
  status := if run.modelStatus = .infeasible then .infeasible else .failed
  plan := none
  objectiveBreakdown := []
  solver := "highs-" ++ version
  gap := 0
  runtimeSeconds := run.runTime
  assumptions := []
  diagnostics := ["HIGHS_STATUS:" ++ run.statusText]

def noIncumbentResult (version : String) (run : HighsRun) : OptimizationResult where
  status := .timeout
  plan := none
  objectiveBreakdown := []
  solver := "highs-" ++ version
  gap := run.mipGap
  runtimeSeconds := run.runTime
  assumptions := []
  diagnostics := ["NO_INTEGER_INCUMBENT"]

def planOf (objective energy : ℚ) (placed : List (Job × List Int)) : SchedulePlan where
  strategy := "milp_highs"
  allocations := placed.map allocationOf
  unscheduled := []
  energyIntentKwh := energy
  estimatedCost := objective
  assumptions := ["time-indexed binary MILP"]
  violations := []
  inputHash := contentHash request

def planResult (version : String) (run : HighsRun) (plan : SchedulePlan) : OptimizationResult where
  status := if run.modelStatus = .optimal then .optimal else .feasibleTimeout
  plan := some plan
  objectiveBreakdown := [("energy_cost", run.objectiveFunctionValue), ("delay", 0)]
  solver := "highs-" ++ version
  gap := run.mipGap
  runtimeSeconds := run.runTime
  assumptions := plan.assumptions
  diagnostics := []

/-- What `solve` makes of the finished run. -/
def conclude (version : String) (placeable : List (Job × List (List Int))) (run : HighsRun) :
    Except PyError OptimizationResult := do
  if run.modelStatus ≠ .optimal ∧ run.modelStatus ≠ .timeLimit then
    pure (noSolutionResult version run)
  else
    let selected ← selectWindows run.colValue (variablesFrom 0 placeable)
    if selected.entries.length ≠ request.jobs.length then
      pure (noIncumbentResult version run)
    else
      let windows ← request.jobs.zipIdx.mapM fun jobIndex =>
        selected.getItem jobIndex.2 (toString jobIndex.2)
      let energy ← planEnergy request (request.jobs.zip windows)
      let plan := planOf contentHash request run.objectiveFunctionValue energy
        (request.jobs.zip windows)
      validatePlan request plan
      pure (planResult version run plan)

/-- `solve`; without HiGHS there is no `highs`. -/
def solve (highs : Option Highs) (timeoutSeconds : ℚ) : Except PyError OptimizationResult :=
  match highs with
  | none =>
      throw (.runtimeError "HiGHS is not installed; no silent solver fallback is permitted")
  | some highs => do
      let options ← request.jobs.mapM (jobOptions request)
      let placeable := request.jobs.zip options
      let empty := (placeable.filter (·.2.isEmpty)).map (·.1.id)
      if empty ≠ [] then
        pure (noWindowResult empty)
      else
        let program ← programOf request placeable
        conclude contentHash request highs.version placeable (highs.run program timeoutSeconds)

end

end HighsSolver

end ComputeWeaver.Optimization
