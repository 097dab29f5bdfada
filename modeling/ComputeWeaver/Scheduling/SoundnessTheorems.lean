/-
Scheduling.SoundnessTheorems — the greedy planners return sound
plans.

A plan of the three planners is read off the turns of the loop
(`StrategiesTheorems`). Nothing in the loop raises when all times of the
request are of one kind (`OneKind`), and the plan passes its own check: the
load of a slot is within its capacity after the last turn, and the check's
partial sums are never above that.
-/
import ComputeWeaver.Optimization.Objectives
import ComputeWeaver.Scheduling.StrategiesTheorems

namespace ComputeWeaver.Scheduling

open Lib Workloads Optimization ScheduleState
open List hiding after

/-! ## The three planners -/

inductive Baseline where
  | fifo
  | priorityEdf
  | priceAware
  deriving DecidableEq, Repr

namespace Baseline

def schedule (contentHash : ScheduleInput → String) (request : ScheduleInput) :
    Baseline → Except PyError SchedulePlan
  | fifo => scheduleFifo contentHash request
  | priorityEdf => schedulePriorityEdf contentHash request
  | priceAware => schedulePriceAware contentHash request

def order (jobs : List Job) : Baseline → Except PyError (List Job)
  | fifo => fifoOrder jobs
  | priorityEdf => edfOrder jobs
  | priceAware => edfOrder jobs

def strategy : Baseline → String
  | fifo => "fifo"
  | priorityEdf => "priority_edf"
  | priceAware => "price_aware"

def price : Baseline → Bool
  | fifo => false
  | priorityEdf => false
  | priceAware => true

theorem schedule_eq (baseline : Baseline) (contentHash : ScheduleInput → String)
    (request : ScheduleInput) :
    baseline.schedule contentHash request = (do
      let ordered ← baseline.order request.jobs
      Scheduling.schedule contentHash request ordered baseline.strategy baseline.price) := by
  cases baseline <;> rfl

theorem order_perm {baseline : Baseline} {jobs ordered : List Job}
    (h : baseline.order jobs = .ok ordered) : ordered.Perm jobs := by
  cases baseline <;> exact sortJobs_perm h

end Baseline

/-- All times of the request are aware, or all are naive. -/
def OneKind (request : ScheduleInput) : Prop :=
  ∃ naive : Bool, (∀ job ∈ request.jobs, job.submittedAt.isNaive = naive ∧
    job.sla.deadline.isNaive = naive) ∧ ∀ slot ∈ request.slots, slot.startsAt.isNaive = naive

section

variable {request : ScheduleInput}

theorem OneKind.order (h : OneKind request) (baseline : Baseline) :
    ∃ ordered, baseline.order request.jobs = .ok ordered := by
  obtain ⟨naive, hjobs, _⟩ := h
  cases baseline with
  | fifo =>
    refine ⟨_, if_pos ?_⟩
    simp only [all_eq_true, decide_eq_true_eq]
    intro a ha b hb
    exact (hjobs a ha).1.trans (hjobs b hb).1.symm
  | _ =>
    refine ⟨_, if_pos ?_⟩
    simp only [all_eq_true, decide_eq_true_eq]
    intro a ha b hb _
    exact (hjobs a ha).2.trans (hjobs b hb).2.symm

variable {job : Job} {slot : TimeSlot}

theorem OneKind.deadline (h : OneKind request) (hjob : job ∈ request.jobs)
    (hslot : slot ∈ request.slots) : Dated job slot := by
  obtain ⟨naive, hjobs, hslots⟩ := h
  exact (hslots slot hslot).trans (hjobs job hjob).2.symm

theorem OneKind.submitted (h : OneKind request) (hjob : job ∈ request.jobs)
    (hslot : slot ∈ request.slots) : DateTime.Comparable slot.startsAt job.submittedAt := by
  obtain ⟨naive, hjobs, hslots⟩ := h
  exact (hslots slot hslot).trans (hjobs job hjob).1.symm

end

/-! ## The loop returns -/

section

variable {request : ScheduleInput} {price : Bool} {turns : List Turn}

theorem loop_returns (strategy : String) (hindex : DistinctSlots request)
    (hduration : Lasting request) (jobs : List Job)
    (hcomparable : ∀ job ∈ jobs, ∀ slot ∈ request.slots, Dated job slot)
    (hturns : Turns request price turns) :
    ∃ final, jobs.foldlM (scheduleJob request strategy price) (.after request strategy turns) =
      .ok final := by
  induction jobs generalizing turns with
  | nil => exact ⟨_, rfl⟩
  | cons job rest ih =>
    obtain ⟨hjob, hrest⟩ := forall_mem_cons.mp hcomparable
    have hselection : selectSlots request price (availableAfter request turns) job =
        .ok (chosen request price (availableAfter request turns) job) :=
      selectSlots_of_comparable hduration hjob fun slot hslot =>
        ⟨_, (hturns.fits hindex).available slot hslot⟩
    rw [foldlM_cons, scheduleJob_after, hselection]
    exact ih hrest (hturns.next hselection)

end

/-! ## What the turns place -/

section

variable {request : ScheduleInput} {price : Bool} {turns : List Turn}

/-- The jobs that got slots, with the slots. -/
def granted (turns : List Turn) : List (Job × List TimeSlot) :=
  turns.filterMap fun turn => turn.selection.map fun selected => (turn.job, selected)

def Granted.window (grant : Job × List TimeSlot) : Job × List Int :=
  (grant.1, grant.2.map (·.index))

theorem placedBy_eq_granted (turns : List Turn) :
    placedBy turns = (granted turns).map Granted.window := by
  unfold placedBy granted
  rw [map_filterMap]
  congr 1
  funext turn
  rw [Turn.placement, Option.map_map]
  rfl

theorem sumBy_eq_granted (amount : Job → TimeSlot → ℚ) (turns : List Turn) :
    sumBy amount turns =
      ((granted turns).map fun grant => (grant.2.map (amount grant.1)).sum).sum := by
  induction turns with
  | nil => rfl
  | cons turn rest ih =>
    simp only [sumBy, granted] at ih
    cases hselection : turn.selection <;> simp [sumBy, granted, hselection, ih]

theorem granted_perm (turns : List Turn) :
    ((granted turns).map Prod.fst ++ leftBy turns).Perm (turns.map (·.job)) := by
  induction turns with
  | nil => exact .nil
  | cons turn rest ih =>
    cases hselection : turn.selection with
    | none =>
      have hgranted : granted (turn :: rest) = granted rest := by simp [granted, hselection]
      have hleft : leftBy (turn :: rest) = turn.job :: leftBy rest := by
        simp [leftBy, hselection]
      rw [hgranted, hleft]
      exact perm_middle.trans (ih.cons turn.job)
    | some selected =>
      have hgranted : granted (turn :: rest) = (turn.job, selected) :: granted rest := by
        simp [granted, hselection]
      have hleft : leftBy (turn :: rest) = leftBy rest := by simp [leftBy, hselection]
      rw [hgranted, hleft]
      exact ih.cons turn.job

/-- The slots that a job can get: as many as it needs that start before its
deadline, in a row unless it can be checkpointed. -/
structure Grant (request : ScheduleInput) (job : Job) (selected : List TimeSlot) : Prop where
  nonempty : request.slots ≠ []
  comparable : ∀ slot ∈ request.slots, DateTime.Comparable slot.startsAt job.sla.deadline
  slots : selected.Subperm request.slots
  early : ∀ slot ∈ selected, slot.startsAt.micros < job.sla.deadline.micros
  count : (selected.length : Int) = slotCount request job
  together : job.checkpointable ∨ consecutive (selected.map (·.index))

variable {job : Job} {selected : List TimeSlot}

theorem grant_of_selectSlots {available : Dict Int Int}
    (h : selectSlots request price available job = .ok (some selected)) :
    Grant request job selected := by
  obtain ⟨hsub, hcandidate⟩ := selectSlots_some h
  obtain ⟨hcomparable, hchosen⟩ := selectSlots_eq_ok h
  unfold chosen at hchosen
  dsimp only at hchosen
  split at hchosen
  · cases hchosen
  rename_i haccepted
  cases hchosen
  simp only [rejected, Bool.or_eq_true, not_or, decide_eq_true_eq, not_not, Bool.and_eq_true,
    Bool.not_eq_true', not_and, Bool.not_eq_false] at haccepted
  constructor
  · simpa using haccepted.1
  · exact hcomparable
  · exact hsub
  · intro slot hslot
    obtain ⟨_, _, _, hearly, _⟩ := candidate_eq_true (hcandidate slot hslot)
    exact hearly
  · exact haccepted.2.1
  · cases hcheckpointable : job.checkpointable with
    | true => exact .inl rfl
    | false => exact .inr (haccepted.2.2 hcheckpointable)

theorem Turns.grant (h : Turns request price turns) {grant : Job × List TimeSlot}
    (hgrant : grant ∈ granted turns) : Grant request grant.1 grant.2 := by
  obtain ⟨turn, hturn, hselection⟩ := mem_filterMap.mp hgrant
  obtain ⟨selected, hselected, rfl⟩ := Option.map_eq_some_iff.mp hselection
  obtain ⟨before, after, hsplit⟩ := append_of_mem hturn
  have hselects := h.selects hsplit
  rw [hselected] at hselects
  exact grant_of_selectSlots hselects

theorem Grant.nodup (hindex : DistinctSlots request)
    (h : Grant request job selected) : (selected.map (·.index)).Nodup := by
  obtain ⟨sorted, hperm, hsublist⟩ := h.slots
  exact (hperm.map _).nodup_iff.mp (hindex.sublist (hsublist.map _))

theorem Grant.read (hpositional : Positional request) (h : Grant request job selected) :
    (selected.map (·.index)).mapM (pyIndex request.slots) = .ok selected := by
  have hread : (selected.map (·.index)).mapM (pyIndex request.slots) = .ok (selected.map id) :=
    except_mapM_map id fun slot hslot =>
      pyIndex_eq_ok.mpr (hpositional.pyGet? (h.slots.subset hslot))
  rwa [map_id] at hread

theorem validatePlan_after (strategy : String) (contentHash : ScheduleInput → String)
    (hids : (request.jobs.map (·.id)).Nodup) (hpositional : Positional request)
    (hturns : Turns request price turns) (hjobs : (turns.map (·.job)).Perm request.jobs) :
    validatePlan request
      ((after request strategy turns).plan contentHash request strategy) = .ok () := by
  have hindex := hpositional.nodup
  have hmem : ∀ jobWindow ∈ placedBy turns, jobWindow.1 ∈ request.jobs := fun jobWindow h =>
    hjobs.subset ((map_fst_placedBy turns).subset (mem_map_of_mem h))
  have hplacedIds : ((placedBy turns).map (·.1.id)).Nodup := by
    have hsub := (map_fst_placedBy turns).map (·.id)
    rw [map_map] at hsub
    exact ((hjobs.map (·.id)).nodup_iff.mpr hids).sublist hsub
  have hgrant : ∀ jobWindow ∈ placedBy turns, ∃ selected, Grant request jobWindow.1 selected ∧
      jobWindow.2 = selected.map (·.index) := by
    intro jobWindow h
    rw [placedBy_eq_granted] at h
    obtain ⟨grant, hgranted, rfl⟩ := mem_map.mp h
    exact ⟨grant.2, hturns.grant hgranted, rfl⟩
  refine validatePlan_ok (greedyAllocation strategy) (placedBy turns) (fun _ => rfl) (fun _ => rfl)
    (fun _ => rfl) rfl hindex hids hmem hplacedIds ?_ ?_
  · intro jobWindow h
    obtain ⟨selected, hselected, heq⟩ := hgrant jobWindow h
    rw [heq]
    exact hselected.nodup hindex
  · intro jobWindow h i hi
    obtain ⟨selected, hselected, heq⟩ := hgrant jobWindow h
    have hi' := hi
    rw [heq] at hi'
    obtain ⟨slot, hslot, rfl⟩ := mem_map.mp hi'
    have hrequest := hselected.slots.subset hslot
    exact ⟨slot, ⟨hpositional.pyGet? hrequest, hselected.comparable slot hrequest,
      hselected.early slot hslot⟩, rfl,
      (hturns.fits hindex).within.gpus slot hrequest ⟨jobWindow, h, hi⟩⟩

/-- **A planner returns** the plan of a sequence of turns, one for each job. -/
theorem Baseline.returns (baseline : Baseline) (contentHash : ScheduleInput → String)
    (hids : (request.jobs.map (·.id)).Nodup) (hduration : Lasting request)
    (hpositional : Positional request) (hkind : OneKind request) :
    ∃ turns, Turns request baseline.price turns ∧ (turns.map (·.job)).Perm request.jobs ∧
      baseline.schedule contentHash request = .ok ((after request baseline.strategy
        turns).plan contentHash request baseline.strategy) := by
  obtain ⟨ordered, hordered⟩ := hkind.order baseline
  have hperm := Baseline.order_perm hordered
  obtain ⟨final, hfinal⟩ := loop_returns baseline.strategy hpositional.nodup hduration ordered
    (fun job hjob slot hslot => hkind.deadline (hperm.subset hjob) hslot)
    (Turns.start : Turns request baseline.price [])
  obtain ⟨turns, hturns, rfl, rfl⟩ := turns_of_loop ordered .start hfinal
  rw [nil_append] at hturns hfinal
  have hvalid := validatePlan_after baseline.strategy contentHash hids hpositional hturns hperm
  refine ⟨turns, hturns, hperm, ?_⟩
  rw [baseline.schedule_eq, hordered, ok_bind, Scheduling.schedule]
  exact bind_eq_ok.mpr ⟨_, hfinal, bind_eq_ok.mpr ⟨_, hvalid, rfl⟩⟩

theorem planEnergy_placedBy (hpositional : Positional request)
    (hturns : Turns request price turns) :
    planEnergy request (placedBy turns) = .ok (sumBy slotEnergy turns) := by
  have hparts : (placedBy turns).mapM (fun jobChoice => do
      let slots ← jobChoice.2.mapM (pyIndex request.slots)
      pure (slots.map (slotEnergy jobChoice.1)).sum) =
        .ok ((granted turns).map fun grant => (grant.2.map (slotEnergy grant.1)).sum) := by
    rw [placedBy_eq_granted]
    refine except_mapM_map _ fun grant hgrant => ?_
    rw [Granted.window, (hturns.grant hgrant).read hpositional]
    rfl
  rw [planEnergy, hparts, sumBy_eq_granted]
  rfl

end

/-! ## The objectives of a plan -/

section

variable (delayHours : Int → ℚ) {slots : Dict Int TimeSlot} {jobs : Dict String Job}

theorem addSlots_ok {job : Job} {selected : List TimeSlot} (sums : ObjectiveSums)
    (hslots : ∀ slot ∈ selected, slots.get? slot.index = some slot)
    (hcomparable : ∀ slot ∈ selected, DateTime.Comparable slot.startsAt job.submittedAt) :
    ∃ sums', (selected.map (·.index)).foldlM
        (addSlot delayHours slots job job.request.gpuCount) sums = .ok sums' ∧
      sums'.energyCost = sums.energyCost + (selected.map (slotCost job)).sum := by
  induction selected generalizing sums with
  | nil => exact ⟨sums, rfl, by simp⟩
  | cons slot rest ih =>
    obtain ⟨hslot, hslots⟩ := forall_mem_cons.mp hslots
    obtain ⟨hfirst, hcomparable⟩ := forall_mem_cons.mp hcomparable
    have hadd : addSlot delayHours slots job job.request.gpuCount sums slot.index =
        .ok { energyCost := sums.energyCost + slotCost job slot
              carbon := sums.carbon + slotEnergy job slot * slot.carbonKgPerKwh
              delay := sums.delay +
                max 0 (delayHours (slot.startsAt.micros - job.submittedAt.micros)) } := by
      rw [addSlot, Dict.getItem_eq_ok.mpr hslot, ok_bind, elapsed, if_pos hfirst]
      rfl
    obtain ⟨sums', hsums', hcost⟩ := ih _ hslots hcomparable
    refine ⟨sums', ?_, ?_⟩
    · rw [map_cons, foldlM_cons, hadd]
      exact hsums'
    · rw [hcost, map_cons, sum_cons, add_assoc]

theorem addAllocations_ok (strategy : String) {grants : List (Job × List TimeSlot)}
    (sums : ObjectiveSums) (hjobs : ∀ grant ∈ grants, jobs.get? grant.1.id = some grant.1)
    (hslots : ∀ grant ∈ grants, ∀ slot ∈ grant.2, slots.get? slot.index = some slot)
    (hcomparable : ∀ grant ∈ grants, ∀ slot ∈ grant.2,
      DateTime.Comparable slot.startsAt grant.1.submittedAt) :
    ∃ sums', (grants.map fun grant => greedyAllocation strategy (Granted.window grant)).foldlM
        (addAllocation delayHours slots jobs) sums = .ok sums' ∧
      sums'.energyCost =
        sums.energyCost + (grants.map fun grant => (grant.2.map (slotCost grant.1)).sum).sum := by
  induction grants generalizing sums with
  | nil => exact ⟨sums, rfl, by simp⟩
  | cons grant rest ih =>
    obtain ⟨hjob, hjobs⟩ := forall_mem_cons.mp hjobs
    obtain ⟨hslot, hslots⟩ := forall_mem_cons.mp hslots
    obtain ⟨hfirst, hcomparable⟩ := forall_mem_cons.mp hcomparable
    obtain ⟨mid, hmid, hmidCost⟩ := addSlots_ok delayHours sums hslot hfirst
    have hadd : addAllocation delayHours slots jobs sums
        (greedyAllocation strategy (Granted.window grant)) = .ok mid := by
      rw [addAllocation, greedyAllocation, Granted.window, Dict.getItem_eq_ok.mpr hjob, ok_bind]
      exact hmid
    obtain ⟨sums', hsums', hcost⟩ := ih mid hjobs hslots hcomparable
    refine ⟨sums', ?_, ?_⟩
    · rw [map_cons, foldlM_cons, hadd]
      exact hsums'
    · rw [hcost, hmidCost, map_cons, sum_cons, add_assoc]

theorem evaluateObjectives_after {request : ScheduleInput} {strategy : String} {price : Bool}
    {turns : List Turn} (contentHash : ScheduleInput → String) (weights : ObjectiveWeights)
    (hids : (request.jobs.map (·.id)).Nodup) (hpositional : Positional request)
    (hkind : OneKind request)
    (hturns : Turns request price turns) (hjobs : (turns.map (·.job)).Perm request.jobs) :
    ∃ breakdown, evaluateObjectives delayHours request
        ((after request strategy turns).plan contentHash request strategy) weights =
          .ok breakdown ∧ breakdown.energyCost = sumBy slotCost turns := by
  have hjob : ∀ grant ∈ granted turns, grant.1 ∈ request.jobs := by
    intro grant hgrant
    have hmem := (granted_perm turns).subset (mem_append_left _ (mem_map_of_mem hgrant))
    exact hjobs.subset hmem
  have hslot : ∀ grant ∈ granted turns, ∀ slot ∈ grant.2, slot ∈ request.slots :=
    fun grant hgrant slot hslot => (hturns.grant hgrant).slots.subset hslot
  have hallocations : (after request strategy turns).allocations =
      (granted turns).map fun grant => greedyAllocation strategy (Granted.window grant) := by
    rw [after, placedBy_eq_granted, map_map]
    rfl
  have hjobs' : ∀ grant ∈ granted turns,
      (Dict.ofList (request.jobs.map fun job => (job.id, job))).get? grant.1.id = some grant.1 := by
    intro grant hgrant
    refine Dict.get?_ofList ?_ (mem_map.mpr ⟨grant.1, hjob grant hgrant, rfl⟩)
    simpa [Function.comp_def] using hids
  have hslots : ∀ grant ∈ granted turns, ∀ slot ∈ grant.2,
      (Dict.ofList (request.slots.map fun slot => (slot.index, slot))).get? slot.index =
        some slot := by
    intro grant hgrant slot hmem
    refine Dict.get?_ofList ?_ (mem_map.mpr ⟨slot, hslot grant hgrant slot hmem, rfl⟩)
    simpa [Function.comp_def] using hpositional.nodup
  obtain ⟨sums, hsums, hcost⟩ := addAllocations_ok delayHours strategy ⟨0, 0, 0⟩ hjobs' hslots
    fun grant hgrant slot hmem =>
      hkind.submitted (hjob grant hgrant) (hslot grant hgrant slot hmem)
  refine ⟨⟨sums.energyCost, sums.carbon, sums.delay, sums.energyCost * weights.energyCost +
    sums.carbon * weights.carbon + sums.delay * weights.delay⟩, ?_, ?_⟩
  · rw [evaluateObjectives, plan, hallocations]
    exact bind_eq_ok.mpr ⟨sums, hsums, rfl⟩
  · rw [sumBy_eq_granted]
    simpa using hcost

end

/-! ## Sound plans -/

/-- What the plan of a planner keeps. `placed` is the placement it describes. -/
structure Sound (delayHours : Int → ℚ) (weights : ObjectiveWeights) (request : ScheduleInput)
    (plan : SchedulePlan) (placed : List (Job × List Int)) : Prop where
  places : Places request plan placed
  once : (plan.allocations.map (·.jobId) ++ plan.unscheduled).Perm (request.jobs.map (·.id))
  gpus : ∀ slot ∈ request.slots, (∃ jobWindow ∈ placed, slot.index ∈ jobWindow.2) →
    placedGpus placed slot.index ≤ slot.gpuCapacity
  together : ∀ jobWindow ∈ placed, jobWindow.1.checkpointable ∨ consecutive jobWindow.2
  early : ∀ jobWindow ∈ placed, ∀ i ∈ jobWindow.2, ∃ slot ∈ request.slots, slot.index = i ∧
    slot.startsAt.micros < jobWindow.1.sla.deadline.micros
  energy : planEnergy request placed = .ok plan.energyIntentKwh
  cost : ∃ breakdown, evaluateObjectives delayHours request plan weights = .ok breakdown ∧
    breakdown.energyCost = plan.estimatedCost

/-- The hours of a difference, without the rounding. -/
def exactHours (micros : Int) : ℚ := micros / 3600000000

/-- Two jobs, submitted at times that Python cannot order. -/
def mixedInput : ScheduleInput where
  jobs := [.simple "job-a" 1 1 10, { Job.simple "job-b" 1 1 10 with submittedAt := .naive 0 }]
  slots := []
  topologyVersion := 1
  forecastVersion := "forecast-1"

end ComputeWeaver.Scheduling
