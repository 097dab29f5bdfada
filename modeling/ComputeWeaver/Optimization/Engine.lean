/-
Optimization.Engine — the exact optimizer
(`packages/optimization/engine.py`).

The recursive `search` keeps the remaining capacity and the choices made so
far in place, and undoes both on the way back. The model passes that state
explicitly. Recursion is over the jobs from the current index on, each with
its windows. `best_cost` and `best_choices` are always assigned together and
are one field.

The clock is a parameter: `clock n` is the `n`-th reading of
`time.perf_counter()` in one call of `optimize`, so `clock 0` is `started`.
-/
import ComputeWeaver.Scheduling.Contracts

namespace ComputeWeaver.Optimization

open Lib Workloads Scheduling

inductive OptimizationStatus where
  | infeasible
  | timeout
  | feasibleTimeout
  | optimal
  | qualityBlocked
  | failed
  deriving DecidableEq, Repr

structure OptimizationResult where
  status : OptimizationStatus
  plan : Option SchedulePlan
  objectiveBreakdown : List (String × ℚ)
  solver : String
  gap : ℚ
  runtimeSeconds : ℚ
  assumptions : List String
  diagnostics : List String
  deriving DecidableEq, Repr

/-! ## The windows of a job -/

/-- The test of a slot for one job, on its own. -/
def admissible (job : Job) (slot : TimeSlot) : Except PyError Bool := do
  if ← slot.startsAt.lt job.sla.deadline then
    pure (decide (job.request.gpuCount ≤ slot.gpuCapacity) &&
      decide (job.request.gpuCount * job.request.powerKwPerGpu ≤ slot.powerCapacityKw))
  else
    pure false

/-- `sys.maxsize` -/
def maxsize : Int := 2 ^ 63 - 1

/-- `itertools.combinations(indices, needed)`; `needed` becomes a `Py_ssize_t`. -/
def windowsOf (indices : List Int) (needed : Int) : Except PyError (List (List Int)) :=
  if maxsize < |needed| then throw .overflowError
  else if needed < 0 then throw (.valueError "r must be non-negative")
  else pure (combinations indices needed.toNat)

def jobOptions (request : ScheduleInput) (job : Job) : Except PyError (List (List Int)) :=
  match request.slots with
  | [] => pure []
  | first :: _ => do
      let needed ← slotsNeeded job first.durationHours
      let eligible ← filterE (admissible job) request.slots
      let windows ← windowsOf (eligible.map (·.index)) needed
      pure (windows.filter fun window => job.checkpointable || consecutive window)

/-! ## The search -/

structure SearchState where
  capacity : Dict Int Int
  current : List (List Int)
  best : Option (ℚ × List (List Int))
  timedOut : Bool
  ticks : Nat

/-- `all(capacity[slot] >= gpu_count for slot in choice)`. -/
def fits (capacity : Dict Int Int) (gpuCount : Int) : List Int → Except PyError Bool
  | [] => pure true
  | slot :: rest => do
      let free ← capacity.getItem slot (toString slot)
      if gpuCount ≤ free then fits capacity gpuCount rest else pure false

/-- `for slot in choice: capacity[slot] -= gpu_count`; the slots are keys,
since `fits` has read them. -/
def reserve (capacity : Dict Int Int) (gpuCount : Int) (choice : List Int) : Dict Int Int :=
  choice.foldl (fun capacity slot => capacity.modify slot (· - gpuCount)) capacity

/-- `for slot in choice: capacity[slot] += gpu_count`. -/
def release (capacity : Dict Int Int) (gpuCount : Int) (choice : List Int) : Dict Int Int :=
  choice.foldl (fun capacity slot => capacity.modify slot (· + gpuCount)) capacity

def slotEnergy (job : Job) (slot : TimeSlot) : ℚ :=
  slot.durationHours * job.request.gpuCount * job.request.powerKwPerGpu

def slotCost (job : Job) (slot : TimeSlot) : ℚ := slotEnergy job slot * slot.pricePerKwh

/-- The cost of a window: its entries are used as positions. -/
def windowCost (request : ScheduleInput) (job : Job) (choice : List Int) : Except PyError ℚ := do
  let slots ← choice.mapM (pyIndex request.slots)
  pure (slots.map (slotCost job)).sum

/-- `time.perf_counter() - started > timeout_seconds` at the `n`-th node. -/
def expired (clock : Nat → ℚ) (timeoutSeconds : ℚ) (n : Nat) : Bool :=
  decide (timeoutSeconds < clock (n + 1) - clock 0)

/-- The tests at the head of `search`. -/
def visit (clock : Nat → ℚ) (timeoutSeconds runningCost : ℚ)
    (body : SearchState → Except PyError SearchState) (st : SearchState) :
    Except PyError SearchState :=
  if expired clock timeoutSeconds st.ticks then
    pure { st with ticks := st.ticks + 1, timedOut := true }
  else if st.best.any (fun best => best.1 ≤ runningCost) then
    pure { st with ticks := st.ticks + 1 }
  else
    body { st with ticks := st.ticks + 1 }

def search (request : ScheduleInput) (clock : Nat → ℚ) (timeoutSeconds : ℚ) :
    List (Job × List (List Int)) → ℚ → SearchState → Except PyError SearchState
  | [], runningCost => visit clock timeoutSeconds runningCost fun st =>
      pure { st with best := some (runningCost, st.current) }
  | (job, options) :: rest, runningCost => visit clock timeoutSeconds runningCost fun st =>
      options.foldlM (fun st choice => do
        if ← fits st.capacity job.request.gpuCount choice then
          let capacity := reserve st.capacity job.request.gpuCount choice
          let current := st.current ++ [choice]
          let cost ← windowCost request job choice
          let st ← search request clock timeoutSeconds rest (runningCost + cost)
            { st with capacity, current }
          pure { st with
            current := st.current.dropLast
            capacity := release st.capacity job.request.gpuCount choice }
        else
          pure st) st

/-! ## The optimizer -/

section

variable (contentHash : ScheduleInput → String) (request : ScheduleInput)

def noWindowResult (runtime : ℚ) (empty : List String) : OptimizationResult where
  status := .infeasible
  plan := none
  objectiveBreakdown := []
  solver := "exact-enumeration"
  gap := 0
  runtimeSeconds := runtime
  assumptions := []
  diagnostics := empty.map ("JOB_NO_FEASIBLE_WINDOW:" ++ ·)

def noPlanResult (runtime : ℚ) (timedOut : Bool) : OptimizationResult where
  status := if timedOut then .timeout else .infeasible
  plan := none
  objectiveBreakdown := []
  solver := "exact-enumeration"
  gap := if timedOut then 1 else 0
  runtimeSeconds := runtime
  assumptions := []
  diagnostics := if timedOut then ["SEARCH_TIMEOUT"] else ["GPU_CAPACITY_CONFLICT"]

def planResult (runtime : ℚ) (timedOut : Bool) (plan : SchedulePlan) : OptimizationResult where
  status := if timedOut then .feasibleTimeout else .optimal
  plan := some plan
  objectiveBreakdown := [("energy_cost", plan.estimatedCost), ("delay", 0)]
  solver := "exact-enumeration"
  gap := if timedOut then 1 else 0
  runtimeSeconds := runtime
  assumptions := plan.assumptions
  diagnostics := []

/-- The sum over all jobs and their slots: entries are positions here too. -/
def planEnergy (placed : List (Job × List Int)) : Except PyError ℚ := do
  let parts ← placed.mapM fun jobChoice => do
    let slots ← jobChoice.2.mapM (pyIndex request.slots)
    pure (slots.map (slotEnergy jobChoice.1)).sum
  pure parts.sum

def allocationOf (jobChoice : Job × List Int) : Allocation :=
  ⟨jobChoice.1.id, jobChoice.2, jobChoice.1.request.gpuCount, "MIN_TOTAL_COST"⟩

def planOf (cost energy : ℚ) (placed : List (Job × List Int)) : SchedulePlan where
  strategy := "exact_co_optimizer"
  allocations := placed.map allocationOf
  unscheduled := []
  energyIntentKwh := energy
  estimatedCost := cost
  assumptions := ["perfect slot forecast", "single-site bounded MVP"]
  violations := []
  inputHash := contentHash request

def SearchState.start : SearchState where
  capacity := .ofList (request.slots.map fun slot => (slot.index, slot.gpuCapacity))
  current := []
  best := none
  timedOut := false
  ticks := 0

/-- What `optimize` makes of the finished search. -/
def conclude (runtime : ℚ) (final : SearchState) : Except PyError OptimizationResult :=
  match final.best with
  | none => pure (noPlanResult runtime final.timedOut)
  | some (cost, choices) => do
      let energy ← planEnergy request (request.jobs.zip choices)
      let plan := planOf contentHash request cost energy (request.jobs.zip choices)
      validatePlan request plan
      pure (planResult runtime final.timedOut plan)

def optimize (clock : Nat → ℚ) (timeoutSeconds : ℚ) : Except PyError OptimizationResult := do
  let options ← request.jobs.mapM (jobOptions request)
  let placeable := request.jobs.zip options
  let empty := (placeable.filter (·.2.isEmpty)).map (·.1.id)
  if empty ≠ [] then
    pure (noWindowResult (clock 1 - clock 0) empty)
  else
    let final ← search request clock timeoutSeconds placeable 0 (.start request)
    conclude contentHash request (clock (final.ticks + 1) - clock 0) final

end

end ComputeWeaver.Optimization
