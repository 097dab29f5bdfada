/-
Mpc.Controller — the rolling controller
(`packages/mpc/controller.py`, `packages/mpc/state_estimator.py`).

One `cycle` compares the observed state with the plan, asks the optimizer
for a new plan, falls back to the last safe plan or holds on to it, and
dispatches the first slot of the request. Every exception is raised before
the first assignment to the controller, so a cycle either returns with the
new controller or leaves the old one as it was.

`cycle` holds the controller's lock throughout: a sequence of calls is a
list of `CycleCall`s. A call carries the readings of `time.perf_counter()`
that its optimization will see, so every timeout is covered.

`exportState` and `fromState` are the persisted form. Everything but the
recorded cycles is written; an integer and a decimal read back as they
were, a stability penalty as whatever its text parses to.
-/
import Mathlib.Data.Finset.Card
import Mathlib.Data.Finset.Option
import Mathlib.Data.Finset.SymmDiff
import ComputeWeaver.Optimization.Engine

namespace ComputeWeaver.Mpc

open Lib Workloads Scheduling Optimization

/-! ## State estimation -/

structure ObservedState where
  completedJobs : Finset String
  runningProgress : Dict String ℚ
  availableGpus : Int
  batterySoc : ℚ
  gridLimitKw : ℚ
  dataQuality : ℚ
  version : String

structure StateDiff where
  removedJobs : Finset String
  progressErrors : Dict String ℚ
  material : Bool

/-- The error of one planned progress, when it is worth reporting. -/
def progressError (observed : ObservedState) (jobId : String) (planned : ℚ) : Option ℚ :=
  match observed.runningProgress.get? jobId with
  | some progress => if 1 / 100 < |progress - planned| then some (progress - planned) else none
  | none => none

def reconcile (plannedProgress : Dict String ℚ) (observed : ObservedState) : StateDiff :=
  let removed :=
    (plannedProgress.keys.toFinset \ observed.runningProgress.keys.toFinset) \
      observed.completedJobs
  let errors := plannedProgress.entries.filterMap fun entry =>
    (progressError observed entry.1 entry.2).map fun error => (entry.1, error)
  { removedJobs := removed
    progressErrors := .ofList errors
    material := decide (removed ≠ ∅) || !errors.isEmpty }

/-! ## The controller -/

inductive Fallback where
  | lastSafePlan
  | stabilityHold
  deriving DecidableEq, Repr

structure MpcCycle where
  id : Int
  startedAt : DateTime
  observedState : ObservedState
  stateDiff : StateDiff
  previousPlan : Option SchedulePlan
  newPlan : SchedulePlan
  currentAllocations : List Allocation
  fallbackStatus : Option Fallback
  revisionReasons : List String

structure MpcController where
  stabilityPenalty : ℚ := 1 / 100
  lastSafe : Option SchedulePlan := none
  cycles : List MpcCycle := []
  cycleSequence : Int := 0
  executedSlots : Finset Int := ∅

structure CycleCall where
  request : ScheduleInput
  observed : ObservedState
  startedAt : DateTime
  plannedProgress : Dict String ℚ := .empty
  timeoutSeconds : ℚ := 5
  clock : Nat → ℚ

/-- The pairs a plan is compared by. -/
def placements (plan : SchedulePlan) : Finset (String × List Int) :=
  (plan.allocations.map fun item => (item.jobId, item.slotIndices)).toFinset

def churn (left right : SchedulePlan) : ℚ :=
  (symmDiff (placements left) (placements right)).card /
    (max 1 (placements left ∪ placements right).card : Nat)

/-- What replaces the optimizer's result when the data cannot be trusted. -/
def qualityBlockedResult : OptimizationResult where
  status := .qualityBlocked
  plan := none
  objectiveBreakdown := []
  solver := "none"
  gap := 1
  runtimeSeconds := 0
  assumptions := []
  diagnostics := ["LOW_DATA_QUALITY"]

def qualityGate (observed : ObservedState) (result : OptimizationResult) : OptimizationResult :=
  if observed.dataQuality < 6 / 10 then qualityBlockedResult else result

/-- Which plan a cycle uses, and what becomes the last safe one. -/
structure Decision where
  plan : SchedulePlan
  fallback : Option Fallback
  reasons : List String
  lastSafe : Option SchedulePlan

def choosePlan (previous : Option SchedulePlan) (material : Bool) (result : OptimizationResult) :
    Except PyError Decision :=
  match result.plan, previous with
  | none, none => throw (.runtimeError "no feasible plan and no tested fallback")
  | none, some safe => pure ⟨safe, some .lastSafePlan, result.diagnostics, previous⟩
  | some plan, none => pure ⟨plan, none, ["OPTIMIZATION_RESULT"], some plan⟩
  | some plan, some safe =>
      if 1 / 2 < churn safe plan ∧ ¬ material then
        pure ⟨safe, some .stabilityHold, ["PLAN_CHURN_LIMIT"], previous⟩
      else
        pure ⟨plan, none, ["OPTIMIZATION_RESULT"], some plan⟩

/-- `min((slot.index for slot in slots if slot.index not in executed), default=None)`. -/
def currentIndex (executed : Finset Int) (slots : List TimeSlot) : Option Int :=
  ((slots.map (·.index)).filter fun index => index ∉ executed).min?

/-- The allocations of a plan that use a slot, cut down to that slot. -/
def allocationsAt (plan : SchedulePlan) (index : Int) : List Allocation :=
  (plan.allocations.filter fun allocation => index ∈ allocation.slotIndices).map
    fun allocation => { allocation with slotIndices := [index] }

def MpcController.cycle (contentHash : ScheduleInput → String) (controller : MpcController)
    (call : CycleCall) : Except PyError (MpcCycle × MpcController) := do
  if call.request.slots.any fun slot => slot.index ∈ controller.executedSlots then
    throw (.valueError "already executed intervals cannot be rewritten")
  let previous := controller.lastSafe
  let diff := reconcile call.plannedProgress call.observed
  let result ← optimize contentHash call.request call.clock call.timeoutSeconds
  let decision ← choosePlan previous diff.material (qualityGate call.observed result)
  let current := currentIndex controller.executedSlots call.request.slots
  let cycle : MpcCycle :=
    { id := controller.cycleSequence + 1
      startedAt := call.startedAt
      observedState := call.observed
      stateDiff := diff
      previousPlan := previous
      newPlan := decision.plan
      currentAllocations := (current.map (allocationsAt decision.plan)).getD []
      fallbackStatus := decision.fallback
      revisionReasons :=
        (if diff.material then ["OBSERVED_STATE_DIVERGENCE"] else []) ++ decision.reasons }
  pure (cycle,
    { controller with
      lastSafe := decision.lastSafe
      cycles := controller.cycles ++ [cycle]
      cycleSequence := controller.cycleSequence + 1
      executedSlots := controller.executedSlots ∪ current.toFinset })

/-- The controller after a call, whether it returned or raised. -/
def MpcController.after (contentHash : ScheduleInput → String) (controller : MpcController)
    (call : CycleCall) : MpcController :=
  match controller.cycle contentHash call with
  | .ok (_, controller') => controller'
  | .error _ => controller

/-! ## The persisted form -/

/-- `asdict(allocation)`. -/
def allocationDocument (allocation : Allocation) : Document :=
  [("job_id", .str allocation.jobId),
    ("slot_indices", .list (allocation.slotIndices.map .int)),
    ("gpu_count", .int allocation.gpuCount),
    ("reason_code", .str allocation.reasonCode)]

/-- `asdict(plan)`. -/
def planDocument (plan : SchedulePlan) : Document :=
  [("strategy", .str plan.strategy),
    ("allocations", .list (plan.allocations.map fun allocation =>
      .dict (allocationDocument allocation))),
    ("unscheduled", .list (plan.unscheduled.map .str)),
    ("energy_intent_kwh", .decimal plan.energyIntentKwh),
    ("estimated_cost", .decimal plan.estimatedCost),
    ("assumptions", .list (plan.assumptions.map .str)),
    ("violations", .list (plan.violations.map .str)),
    ("input_hash", .str plan.inputHash)]

section

variable (env : PyEnv)

def MpcController.exportState (controller : MpcController) : Document :=
  [("stability_penalty", .str (env.str (.decimal controller.stabilityPenalty))),
    ("last_safe", match controller.lastSafe with
      | some plan => .dict (planDocument plan)
      | none => .none),
    ("executed_slots", .list ((pySortedSet controller.executedSlots).map .int)),
    ("cycle_sequence", .int controller.cycleSequence)]

/-- `tuple(f(item) for item in document[key])`. -/
def readTuple {α : Type} (document : Document) (key : String) (f : Value → Except PyError α) :
    Except PyError (List α) := do
  let items ← PyEnv.list (← docItem document key)
  items.mapM f

def readStr (document : Document) (key : String) : Except PyError String := do
  pure (env.str (← docItem document key))

def readAllocation : Value → Except PyError Allocation
  | .dict item => do
      pure ⟨← readStr env item "job_id", ← readTuple item "slot_indices" env.int,
        ← env.int (← docItem item "gpu_count"), ← readStr env item "reason_code"⟩
  | _ => throw .typeError

def readPlan (plan : Document) : Except PyError SchedulePlan := do
  pure ⟨← readStr env plan "strategy",
    ← readTuple plan "allocations" (readAllocation env),
    ← readTuple plan "unscheduled" (fun item => pure (env.str item)),
    ← env.decimalOfText (← docItem plan "energy_intent_kwh"),
    ← env.decimalOfText (← docItem plan "estimated_cost"),
    ← readTuple plan "assumptions" (fun item => pure (env.str item)),
    ← readTuple plan "violations" (fun item => pure (env.str item)),
    ← readStr env plan "input_hash"⟩

/-- The last safe plan of a document: anything but a dictionary is none. -/
def readLastSafe (document : Document) : Except PyError (Option SchedulePlan) :=
  match docGetD document "last_safe" .none with
  | .dict plan => do pure (some (← readPlan env plan))
  | _ => pure none

def readExecuted (document : Document) : Except PyError (Finset Int) := do
  let items ← PyEnv.list (docGetD document "executed_slots" (.list []))
  pure (← items.mapM env.int).toFinset

def MpcController.fromState (document : Document) : Except PyError MpcController := do
  pure
    { stabilityPenalty :=
        ← env.decimalOfText (docGetD document "stability_penalty" (.str "0.01"))
      lastSafe := ← readLastSafe env document
      executedSlots := ← readExecuted env document
      cycleSequence := ← env.intOfText (docGetD document "cycle_sequence" (.int 0)) }

end

end ComputeWeaver.Mpc
