/-
Scheduling.Strategies — the greedy planners
(`packages/scheduling/strategies.py`): FIFO, priority with earliest deadline
first, and price aware.

The three share one loop over the jobs and differ in the order of the jobs
and of a job's candidate slots. Python's sort raises when it has to order an
aware and a naive datetime; since a comparison sort cannot avoid comparing
across two kinds, that happens exactly when both kinds occur among jobs that
tie on the keys before.
-/
import ComputeWeaver.Scheduling.Contracts

namespace ComputeWeaver.Scheduling

open Lib Workloads

structure ScheduleState where
  available : Dict Int Int
  allocations : List Allocation
  unscheduled : List String
  cost : ℚ
  energy : ℚ

/-! ## The slots of one job -/

/-- The condition of the `candidates` comprehension. -/
def candidate (available : Dict Int Int) (job : Job) (slot : TimeSlot) : Except PyError Bool := do
  if ← slot.startsAt.lt job.sla.deadline then
    let free ← available.getItem slot.index (toString slot.index)
    pure (decide (job.request.gpuCount ≤ free) &&
      decide (job.request.powerKwPerGpu * job.request.gpuCount ≤ slot.powerCapacityKw))
  else
    pure false

/-- The order by `starts_at`; all candidates have the kind of the deadline. -/
def startsLe (a b : TimeSlot) : Bool := decide (a.startsAt.micros ≤ b.startsAt.micros)

/-- The order by `(price_per_kwh, starts_at)`. -/
def priceLe (a b : TimeSlot) : Bool :=
  decide (a.pricePerKwh < b.pricePerKwh) ||
    (decide (a.pricePerKwh = b.pricePerKwh) && startsLe a b)

/-- The first slots of the sorted candidates, in the order of their start. -/
def offered (price : Bool) (candidates : List TimeSlot) (required : Int) : List TimeSlot :=
  pySorted startsLe (pyTake (pySorted (if price then priceLe else startsLe) candidates) required)

/-- `len(selected) != required or (not job.checkpointable and not consecutive)`. -/
def rejected (job : Job) (required : Int) (selected : List TimeSlot) : Bool :=
  decide ((selected.length : Int) ≠ required) ||
    (!job.checkpointable && !consecutive (selected.map (·.index)))

/-- The slots the loop picks for a job, `none` when it stays unscheduled. -/
def selectSlots (request : ScheduleInput) (price : Bool) (available : Dict Int Int) (job : Job) :
    Except PyError (Option (List TimeSlot)) :=
  match request.slots with
  | [] => pure none
  | first :: _ => do
      let required ← slotsNeeded job first.durationHours
      let candidates ← filterE (candidate available job) request.slots
      let selected := offered price candidates required
      pure (if rejected job required selected then none else some selected)

/-! ## The loop -/

/-- The loop body over the selected slots. -/
def takeSlot (job : Job) (st : ScheduleState) (slot : TimeSlot) : ScheduleState :=
  let slotEnergy := job.request.powerKwPerGpu * job.request.gpuCount * slot.durationHours
  { st with
    available := st.available.modify slot.index (· - job.request.gpuCount)
    energy := st.energy + slotEnergy
    cost := st.cost + slotEnergy * slot.pricePerKwh }

def scheduleJob (request : ScheduleInput) (strategy : String) (price : Bool) (st : ScheduleState)
    (job : Job) : Except PyError ScheduleState := do
  match ← selectSlots request price st.available job with
  | none => pure { st with unscheduled := st.unscheduled ++ [job.id] }
  | some selected =>
      let st := selected.foldl (takeSlot job) st
      pure { st with
        allocations := st.allocations ++
          [⟨job.id, selected.map (·.index), job.request.gpuCount, strategy.toUpper⟩] }

def ScheduleState.start (request : ScheduleInput) : ScheduleState where
  available := .ofList (request.slots.map fun slot => (slot.index, slot.gpuCapacity))
  allocations := []
  unscheduled := []
  cost := 0
  energy := 0

def ScheduleState.plan (contentHash : ScheduleInput → String) (request : ScheduleInput)
    (strategy : String) (st : ScheduleState) : SchedulePlan where
  strategy := strategy
  allocations := st.allocations
  unscheduled := st.unscheduled
  energyIntentKwh := st.energy
  estimatedCost := st.cost
  assumptions := ["deterministic input snapshot"]
  violations := []
  inputHash := contentHash request

def schedule (contentHash : ScheduleInput → String) (request : ScheduleInput)
    (orderedJobs : List Job) (strategy : String) (price : Bool) : Except PyError SchedulePlan := do
  let st ← orderedJobs.foldlM (scheduleJob request strategy price) (.start request)
  let plan := st.plan contentHash request strategy
  validatePlan request plan
  pure plan

/-! ## The strategies -/

/-- `sorted(jobs, key=...)` where some pairs of keys cannot be ordered. -/
def sortJobs (comparable le : Job → Job → Bool) (jobs : List Job) : Except PyError (List Job) :=
  if jobs.all fun a => jobs.all fun b => comparable a b then pure (pySorted le jobs)
  else throw .typeError

/-- The order by `(submitted_at, id)`. -/
def fifoLe (a b : Job) : Bool :=
  decide (a.submittedAt.micros < b.submittedAt.micros) ||
    (decide (a.submittedAt.micros = b.submittedAt.micros) && !decide (b.id < a.id))

/-- The order by `(-priority, deadline, id)`. -/
def edfLe (a b : Job) : Bool :=
  decide (b.sla.priority < a.sla.priority) ||
    (decide (a.sla.priority = b.sla.priority) &&
      (decide (a.sla.deadline.micros < b.sla.deadline.micros) ||
        (decide (a.sla.deadline.micros = b.sla.deadline.micros) && !decide (b.id < a.id))))

def fifoOrder (jobs : List Job) : Except PyError (List Job) :=
  sortJobs (fun a b => decide (DateTime.Comparable a.submittedAt b.submittedAt)) fifoLe jobs

def edfOrder (jobs : List Job) : Except PyError (List Job) :=
  sortJobs (fun a b => decide (a.sla.priority = b.sla.priority →
    DateTime.Comparable a.sla.deadline b.sla.deadline)) edfLe jobs

def scheduleFifo (contentHash : ScheduleInput → String) (request : ScheduleInput) :
    Except PyError SchedulePlan := do
  schedule contentHash request (← fifoOrder request.jobs) "fifo" false

def schedulePriorityEdf (contentHash : ScheduleInput → String) (request : ScheduleInput) :
    Except PyError SchedulePlan := do
  schedule contentHash request (← edfOrder request.jobs) "priority_edf" false

def schedulePriceAware (contentHash : ScheduleInput → String) (request : ScheduleInput) :
    Except PyError SchedulePlan := do
  schedule contentHash request (← edfOrder request.jobs) "price_aware" true

end ComputeWeaver.Scheduling
