/-
Mpc.ControllerTheorems — what a cycle may dispatch.

`CycleEffect` lists what a cycle that returns has done; the plan it used is the
optimizer's for this request or the last safe one. The optimizer's plan fits
the request it was made for (`optimize_places`). The last safe plan was made
for an EARLIER request, and neither fallback looks at the current one: jobs
that have left the request, or that are complete, are dispatched again, and so
is a load the slot no longer has the GPUs for. `DispatchReady` says what must
hold before a call for its dispatch to be safe.
-/
import ComputeWeaver.Lib.Run
import ComputeWeaver.Mpc.Controller
import ComputeWeaver.Optimization.EngineTheorems

namespace ComputeWeaver.Mpc

open Lib Workloads Scheduling Optimization List MpcController

variable {contentHash : ScheduleInput → String}

/-! ## What a cycle does -/

inductive PlanSource (contentHash : ScheduleInput → String) (call : CycleCall)
    (previous : Option SchedulePlan) (plan : SchedulePlan) : Prop
  | optimized (result : OptimizationResult)
      (hresult : optimize contentHash call.request call.clock call.timeoutSeconds = .ok result)
      (hplan : result.plan = some plan)
  | kept (hsafe : previous = some plan)

/-- What a cycle that returns has done. -/
structure CycleEffect (contentHash : ScheduleInput → String) (controller : MpcController)
    (call : CycleCall) (cycle : MpcCycle) (controller' : MpcController) : Prop where
  fresh : ∀ slot ∈ call.request.slots, slot.index ∉ controller.executedSlots
  plan : PlanSource contentHash call controller.lastSafe cycle.newPlan
  lastSafe : controller'.lastSafe = some cycle.newPlan
  dispatched : cycle.currentAllocations =
    ((currentIndex controller.executedSlots call.request.slots).map
      (allocationsAt cycle.newPlan)).getD []
  id : cycle.id = controller.cycleSequence + 1
  sequence : controller'.cycleSequence = controller.cycleSequence + 1
  executed : controller'.executedSlots = controller.executedSlots ∪
    (currentIndex controller.executedSlots call.request.slots).toFinset
  penalty : controller'.stabilityPenalty = controller.stabilityPenalty

variable {result : OptimizationResult} {plan : SchedulePlan} {call : CycleCall}
  {controller : MpcController} {earlier : List ScheduleInput}

theorem qualityGate_plan {observed : ObservedState}
    (h : (qualityGate observed result).plan = some plan) : result.plan = some plan := by
  unfold qualityGate at h
  split at h
  · cases h
  · exact h

theorem choosePlan_source {decision : Decision} {previous : Option SchedulePlan} {material : Bool}
    (hresult : optimize contentHash call.request call.clock call.timeoutSeconds = .ok result)
    (h : choosePlan previous material (qualityGate call.observed result) = .ok decision) :
    PlanSource contentHash call previous decision.plan ∧
      decision.lastSafe = some decision.plan := by
  unfold choosePlan at h
  split at h
  · cases h
  · cases h
    exact ⟨.kept rfl, rfl⟩
  · rename_i plan hplan
    cases h
    exact ⟨.optimized result hresult (qualityGate_plan hplan), rfl⟩
  · rename_i plan safe hplan
    split at h
    · cases h
      exact ⟨.kept rfl, rfl⟩
    · cases h
      exact ⟨.optimized result hresult (qualityGate_plan hplan), rfl⟩

variable {controller' : MpcController} {placed : List (Job × List Int)} {slot : TimeSlot}
  {cycle : MpcCycle}

theorem cycle_effect
    (h : controller.cycle contentHash call = .ok (cycle, controller')) :
    CycleEffect contentHash controller call cycle controller' := by
  unfold MpcController.cycle at h
  split at h
  · cases h
  rename_i hexecuted
  obtain ⟨result, hresult, h⟩ := bind_eq_ok.mp h
  obtain ⟨decision, hdecision, h⟩ := bind_eq_ok.mp h
  obtain ⟨hsource, hsafe⟩ := choosePlan_source hresult hdecision
  cases h
  exact ⟨by simpa using hexecuted, hsource, hsafe, rfl, rfl, rfl, rfl, rfl⟩

/-! ## The load of a plan in one slot -/

theorem allocationsAt_gpus {allocations : List Allocation}
    (h : List.Forall₂ Describes allocations placed) (i : Int) :
    ((allocations.filter fun allocation => decide (i ∈ allocation.slotIndices)).map
      (·.gpuCount)).sum = placedGpus placed i := by
  induction h with
  | nil => rfl
  | @cons allocation jobWindow _ _ hhead _ ih =>
    rw [placedGpus_cons jobWindow.1 jobWindow.2, ← ih, ← hhead.window, ← hhead.gpus]
    by_cases hi : i ∈ allocation.slotIndices <;> simp [hi]

/-- The allocations name jobs of the request, and fit the slot together. -/
structure Fits (request : ScheduleInput) (slot : TimeSlot) (allocations : List Allocation) :
    Prop where
  jobs : ∀ allocation ∈ allocations, ∃ job ∈ request.jobs, job.id = allocation.jobId
  gpus : (allocations.map (·.gpuCount)).sum ≤ slot.gpuCapacity

theorem fits_of_places {request : ScheduleInput} (hplaces : Places request plan placed)
    (hwithin : WithinGpus request placed) (hslot : slot ∈ request.slots)
    (hcapacity : 0 ≤ slot.gpuCapacity) : Fits request slot (allocationsAt plan slot.index) where
  jobs := by
    intro allocation hmem
    obtain ⟨original, horiginal, rfl⟩ := mem_map.mp hmem
    obtain ⟨n, hn, rfl⟩ := mem_iff_getElem.mp (mem_filter.mp horiginal).1
    have hlt : n < placed.length := hplaces.allocations.length_eq ▸ hn
    have hdescribes : Describes plan.allocations[n] placed[n] := hplaces.allocations.get hn hlt
    exact ⟨_, hplaces.jobs.subset (mem_map_of_mem (getElem_mem hlt)), hdescribes.id.symm⟩
  gpus := by
    have hgpus := allocationsAt_gpus hplaces.allocations slot.index
    rw [allocationsAt, map_map]
    refine hgpus.trans_le ?_
    by_cases hused : ∃ jobWindow ∈ placed, slot.index ∈ jobWindow.2
    · exact hwithin.gpus slot hslot hused
    · rw [placedGpus_eq_zero fun jobWindow hmem hi => hused ⟨jobWindow, hmem, hi⟩]
      exact hcapacity

/-! ## Safe dispatch -/

def Dispatches (controller : MpcController) (call : CycleCall) (slot : TimeSlot) : Prop :=
  slot ∈ call.request.slots ∧
    currentIndex controller.executedSlots call.request.slots = some slot.index

/-- What was dispatched names jobs of the request that are not complete, and
fits the dispatched slot. -/
structure SafeDispatch (controller : MpcController) (call : CycleCall) (cycle : MpcCycle) :
    Prop where
  jobs : ∀ allocation ∈ cycle.currentAllocations, ∃ job ∈ call.request.jobs,
    job.id = allocation.jobId
  active : ∀ allocation ∈ cycle.currentAllocations, allocation.jobId ∉ call.observed.completedJobs
  gpus : ∀ slot, Dispatches controller call slot →
    (cycle.currentAllocations.map (·.gpuCount)).sum ≤ slot.gpuCapacity

/-- What must hold before a call: the request's slots have distinct indices,
the slot to dispatch has a capacity, no requested job is complete already,
and the part of the last safe plan that falls into that slot still fits the
request. -/
structure DispatchReady (controller : MpcController) (call : CycleCall) : Prop where
  distinct : (call.request.slots.map (·.index)).Nodup
  capacity : ∀ slot, Dispatches controller call slot → 0 ≤ slot.gpuCapacity
  active : ∀ job ∈ call.request.jobs, job.id ∉ call.observed.completedJobs
  lastSafe : ∀ slot, Dispatches controller call slot → ∀ safe, controller.lastSafe = some safe →
    Fits call.request slot (allocationsAt safe slot.index)

theorem cycle_safeDispatch (hready : DispatchReady controller call)
    (h : controller.cycle contentHash call = .ok (cycle, controller')) :
    SafeDispatch controller call cycle := by
  have heffect := cycle_effect h
  have hfits : ∀ slot, Dispatches controller call slot →
      Fits call.request slot (allocationsAt cycle.newPlan slot.index) := by
    intro slot hslot
    cases heffect.plan with
    | optimized result hresult hsome =>
      obtain ⟨placed, hplaces, hwithin⟩ := optimize_places contentHash call.clock
        call.timeoutSeconds hready.distinct hresult hsome
      exact fits_of_places hplaces hwithin hslot.1 (hready.capacity slot hslot)
    | kept hsafe => exact hready.lastSafe slot hslot _ hsafe
  have hdispatched := heffect.dispatched
  -- a request without slots dispatches nothing
  cases hindex : currentIndex controller.executedSlots call.request.slots with
  | none =>
    rw [hindex] at hdispatched
    refine ⟨by simp [hdispatched], by simp [hdispatched], ?_⟩
    intro slot hslot
    cases hindex.symm.trans hslot.2
  | some i =>
    have hmem : i ∈ call.request.slots.map (·.index) :=
      (mem_filter.mp (min?_mem hindex)).1
    obtain ⟨slot, hslot, rfl⟩ := mem_map.mp hmem
    rw [hindex] at hdispatched
    have hat : cycle.currentAllocations = allocationsAt cycle.newPlan slot.index := hdispatched
    have hjobs := (hfits slot ⟨hslot, hindex⟩).jobs
    rw [← hat] at hjobs
    refine ⟨hjobs, ?_, ?_⟩
    · intro allocation hmem
      obtain ⟨job, hjob, hid⟩ := hjobs allocation hmem
      exact hid ▸ hready.active job hjob
    · intro other hother
      have hsame : other.index = slot.index := Option.some.inj (hother.2.symm.trans hindex)
      rw [hat, ← hsame]
      exact (hfits other hother).gpus

/-! ## Requests that continue each other -/

/-- The later request still has the jobs of the earlier one, and no less
capacity in the slots they share. -/
structure Continues (earlier later : ScheduleInput) : Prop where
  jobs : ∀ job ∈ earlier.jobs, ∃ job' ∈ later.jobs, job'.id = job.id
  capacity : ∀ slot ∈ earlier.slots, ∀ slot' ∈ later.slots, slot.index = slot'.index →
    slot.gpuCapacity ≤ slot'.gpuCapacity

/-- The call on its own is in order: distinct slots with a capacity, and no
job that is complete. -/
structure SoundCall (call : CycleCall) : Prop where
  distinct : (call.request.slots.map (·.index)).Nodup
  capacity : ∀ slot ∈ call.request.slots, 0 ≤ slot.gpuCapacity
  active : ∀ job ∈ call.request.jobs, job.id ∉ call.observed.completedJobs

/-- A plan made for a request: it uses slots of it only, and fits them. -/
structure PlannedFor (request : ScheduleInput) (plan : SchedulePlan) : Prop where
  indices : ∀ allocation ∈ plan.allocations, ∀ i ∈ allocation.slotIndices,
    ∃ slot ∈ request.slots, slot.index = i
  fits : ∀ slot ∈ request.slots, Fits request slot (allocationsAt plan slot.index)

theorem SoundCall.plannedFor (hcall : SoundCall call)
    (hresult : optimize contentHash call.request call.clock call.timeoutSeconds = .ok result)
    (hplan : result.plan = some plan) : PlannedFor call.request plan where
  indices := by
    intro allocation hmem i hi
    exact optimize_indices contentHash call.clock call.timeoutSeconds hcall.distinct hresult hplan
      hmem hi
  fits := by
    intro slot hslot
    obtain ⟨placed, hplaces, hwithin⟩ := optimize_places contentHash call.clock
      call.timeoutSeconds hcall.distinct hresult hplan
    exact fits_of_places hplaces hwithin hslot (hcall.capacity slot hslot)

/-- A plan made for a request fits every request that continues it. -/
theorem PlannedFor.continued {earlier later : ScheduleInput} (hplan : PlannedFor earlier plan)
    (hcontinues : Continues earlier later) (hslot : slot ∈ later.slots)
    (hcapacity : 0 ≤ slot.gpuCapacity) : Fits later slot (allocationsAt plan slot.index) := by
  by_cases hshared : ∃ old ∈ earlier.slots, old.index = slot.index
  · obtain ⟨old, hold, hindex⟩ := hshared
    have hfits := hplan.fits old hold
    rw [hindex] at hfits
    refine ⟨?_, hfits.gpus.trans (hcontinues.capacity old hold slot hslot hindex)⟩
    intro allocation hmem
    obtain ⟨job, hjob, hid⟩ := hfits.jobs allocation hmem
    obtain ⟨job', hjob', hid'⟩ := hcontinues.jobs job hjob
    exact ⟨job', hjob', hid'.trans hid⟩
  · -- the plan does not know the slot, so it puts nothing there
    have hnone : allocationsAt plan slot.index = [] := by
      rw [allocationsAt, map_eq_nil_iff, filter_eq_nil_iff]
      intro allocation hmem hin
      exact hshared (hplan.indices allocation hmem slot.index (of_decide_eq_true hin))
    rw [hnone]
    exact ⟨by simp, by simpa using hcapacity⟩

def SafeFor (earlier : List ScheduleInput) (controller : MpcController) : Prop :=
  ∀ safe, controller.lastSafe = some safe → ∃ request ∈ earlier, PlannedFor request safe

theorem SafeFor.mono {later : List ScheduleInput} (h : SafeFor earlier controller)
    (hsub : earlier ⊆ later) : SafeFor later controller := by
  intro safe hlast
  obtain ⟨request, hrequest, hplan⟩ := h safe hlast
  exact ⟨request, hsub hrequest, hplan⟩

theorem SafeFor.after (h : SafeFor earlier controller) (hcall : SoundCall call) :
    SafeFor (call.request :: earlier) (controller.after contentHash call) := by
  unfold MpcController.after
  split
  case h_2 => exact h.mono (subset_cons_self _ _)
  rename_i cycle controller' hcycle
  have heffect := cycle_effect hcycle
  intro safe hlast
  rw [heffect.lastSafe, Option.some.injEq] at hlast
  subst hlast
  cases heffect.plan with
  | optimized result hresult hplan =>
    exact ⟨call.request, mem_cons_self, hcall.plannedFor hresult hplan⟩
  | kept hkept => exact h.mono (subset_cons_self _ _) _ hkept

theorem SoundCall.ready (hcall : SoundCall call) (hsafe : SafeFor earlier controller)
    (hcontinues : ∀ request ∈ earlier, Continues request call.request) :
    DispatchReady controller call where
  distinct := hcall.distinct
  capacity := fun slot hslot => hcall.capacity slot hslot.1
  active := hcall.active
  lastSafe := by
    intro slot hslot safe hlast
    obtain ⟨request, hrequest, hplan⟩ := hsafe safe hlast
    exact hplan.continued (hcontinues request hrequest) hslot.1 (hcall.capacity slot hslot.1)

theorem SafeFor.guarded {calls : List CycleCall} (hsafe : SafeFor earlier controller)
    (hsound : ∀ call ∈ calls, SoundCall call)
    (hearlier : ∀ request ∈ earlier, ∀ call ∈ calls, Continues request call.request)
    (hcontinues : (calls.map (·.request)).Pairwise Continues) :
    Guarded (MpcController.after contentHash) DispatchReady controller calls := by
  induction calls generalizing earlier controller with
  | nil => trivial
  | cons call rest ih =>
    have hcall : SoundCall call := hsound call mem_cons_self
    rw [map_cons, pairwise_cons] at hcontinues
    refine ⟨hcall.ready hsafe fun request hrequest =>
      hearlier request hrequest call mem_cons_self, ih (hsafe.after hcall) ?_ ?_ hcontinues.2⟩
    · exact fun other hother => hsound other (mem_cons_of_mem _ hother)
    · intro request hrequest other hother
      rcases mem_cons.mp hrequest with rfl | hrequest
      · exact hcontinues.1 _ (mem_map_of_mem hother)
      · exact hearlier request hrequest other (mem_cons_of_mem _ hother)

/-- Sound calls whose requests continue each other are ready one after the
other: the last safe plan was made for one of the earlier requests. -/
theorem guarded_of_continues (contentHash : ScheduleInput → String) (calls : List CycleCall)
    (hsound : ∀ call ∈ calls, SoundCall call)
    (hcontinues : (calls.map (·.request)).Pairwise Continues) :
    Guarded (after contentHash) DispatchReady {} calls := by
  have hnone : SafeFor [] {} := by
    intro safe hlast
    cases hlast
  exact hnone.guarded hsound (by simp) hcontinues

/-! ## Every run -/

/-- **Main result.** In every sequence of calls, from every controller, in
which each call is ready, each cycle that returns dispatches only jobs of its
request, none of them complete, and no more GPUs than the dispatched slot
has, whether it used the optimizer's plan, fell back to the last safe one or
held on to it. -/
theorem dispatch_safe (contentHash : ScheduleInput → String) (controller : MpcController)
    (pre : List CycleCall) (call : CycleCall) (post : List CycleCall)
    (hready : Guarded (MpcController.after contentHash) DispatchReady controller
      (pre ++ call :: post)) (cycle : MpcCycle) (controller' : MpcController)
    (h : (run (MpcController.after contentHash) controller pre).cycle contentHash call =
      .ok (cycle, controller')) :
    SafeDispatch (run (MpcController.after contentHash) controller pre) call cycle :=
  cycle_safeDispatch ((guarded_append controller pre (call :: post)).mp hready).2.1 h

/-! ## Concrete cycles -/

/-- A job of two hours. -/
def longJob : Job :=
  { Job.simple "job-a" 1 1 10 with
    request := { (Job.simple "job-a" 1 1 10).request with
      estimatedHours := 2
      estimatedHours_pos := by decide } }

def cycleCall (jobs : List Job) (slots : List TimeSlot) (completedJobs : Finset String)
    (dataQuality : ℚ) : CycleCall where
  request := { jobs, slots, topologyVersion := 1, forecastVersion := "forecast-1" }
  observed :=
    { completedJobs, runningProgress := .empty, availableGpus := 1, batterySoc := 1 / 2,
      gridLimitKw := 100, dataQuality, version := "state-1" }
  startedAt := .aware 0
  clock := fun _ => 0

/-- The first cycle plans the job for slots 0 and 1 and dispatches slot 0. -/
def firstCall : CycleCall := cycleCall [longJob] [.simple 0 1 5 2, .simple 1 1 5 2] ∅ 1

/-- The next hour, with data of low quality: the last safe plan is used. -/
def degradedCall : CycleCall :=
  cycleCall [.simple "job-a" 1 1 10] [.simple 1 1 5 2, .simple 2 1 0 2] ∅ (1 / 2)

theorem dispatch_safe_degradedCall :
    ∃ cycle controller', (run (MpcController.after fun _ => "hash") {} [firstCall]).cycle
        (fun _ => "hash") degradedCall = .ok (cycle, controller') ∧
      cycle.fallbackStatus = some .lastSafePlan ∧
      SafeDispatch (run (MpcController.after fun _ => "hash") {} [firstCall]) degradedCall
        cycle := by
  have hstatus : (fun out : MpcCycle × MpcController => out.1.fallbackStatus) <$>
      (run (after fun _ => "hash") {} [firstCall]).cycle (fun _ => "hash")
        degradedCall = .ok (some .lastSafePlan) := by decide +kernel
  obtain ⟨⟨cycle, controller'⟩, hcycle, hfallback⟩ := map_eq_ok.mp hstatus
  have hready : Guarded (after fun _ => "hash") DispatchReady {}
      ([firstCall] ++ degradedCall :: []) := by
    refine guarded_of_continues _ _ ?_ ?_
    · have hfirst : SoundCall firstCall := ⟨by decide, by decide, by decide⟩
      have hdegraded : SoundCall degradedCall := ⟨by decide, by decide, by decide⟩
      simpa using ⟨hfirst, hdegraded⟩
    · have hcontinues : Continues firstCall.request degradedCall.request :=
        ⟨by decide, by decide⟩
      simpa using hcontinues
  exact ⟨cycle, controller', hcycle, hfallback,
    dispatch_safe (fun _ => "hash") {} [firstCall] degradedCall [] hready cycle controller' hcycle⟩

/-- The next hour, after the job has completed early and left the request. -/
def completedCall : CycleCall := cycleCall [] [.simple 1 1 5 2] {"job-a"} 1

/-- The next hour, after the slot has lost its GPUs. -/
def deratedCall : CycleCall := cycleCall [longJob] [.simple 1 0 5 2] ∅ 1

def dispatch (out : MpcCycle × MpcController) : Option Fallback × List Allocation :=
  (out.1.fallbackStatus, out.1.currentAllocations)

/-- The stability hold dispatches a job that is complete and no longer
requested, and the fallback to the last safe plan puts a job on a slot that
has no GPU left. A complete job that is still requested is dispatched by the
optimizer's own plan. -/
theorem stale_plan_dispatched :
    (∃ cycle controller', (run (MpcController.after fun _ => "hash") {} [firstCall]).cycle
        (fun _ => "hash") completedCall = .ok (cycle, controller') ∧
      cycle.fallbackStatus = some .stabilityHold ∧
      ∃ allocation ∈ cycle.currentAllocations,
        allocation.jobId ∈ completedCall.observed.completedJobs ∧
        ∀ job ∈ completedCall.request.jobs, job.id ≠ allocation.jobId) ∧
    (∃ cycle controller', (run (MpcController.after fun _ => "hash") {} [firstCall]).cycle
        (fun _ => "hash") deratedCall = .ok (cycle, controller') ∧
      cycle.fallbackStatus = some .lastSafePlan ∧
      ∃ slot, Dispatches (run (MpcController.after fun _ => "hash") {} [firstCall]) deratedCall
          slot ∧
        slot.gpuCapacity < (cycle.currentAllocations.map (·.gpuCount)).sum) ∧
    ∃ cycle controller', MpcController.cycle (fun _ => "hash") {}
        (cycleCall [longJob] firstCall.request.slots {"job-a"} 1) = .ok (cycle, controller') ∧
      ∃ allocation ∈ cycle.currentAllocations, allocation.jobId = "job-a" := by
  have hcompleted : dispatch <$> (run (after fun _ => "hash") {} [firstCall]).cycle
      (fun _ => "hash") completedCall =
      .ok (some .stabilityHold, [⟨"job-a", [1], 1, "MIN_TOTAL_COST"⟩]) := by decide +kernel
  have hderated : dispatch <$> (run (after fun _ => "hash") {} [firstCall]).cycle
      (fun _ => "hash") deratedCall =
      .ok (some .lastSafePlan, [⟨"job-a", [1], 1, "MIN_TOTAL_COST"⟩]) := by decide +kernel
  have hrequested : dispatch <$> cycle (fun _ => "hash") {}
      (cycleCall [longJob] firstCall.request.slots {"job-a"} 1) =
      .ok (none, [⟨"job-a", [0], 1, "MIN_TOTAL_COST"⟩]) := by decide +kernel
  refine ⟨?_, ?_, ?_⟩
  · obtain ⟨⟨cycle, controller'⟩, hcycle, hdispatch⟩ := map_eq_ok.mp hcompleted
    obtain ⟨hstatus, hcurrent⟩ := Prod.mk.inj hdispatch
    exact ⟨cycle, controller', hcycle, hstatus, _, by rw [hcurrent]; exact mem_cons_self,
      by decide, by decide⟩
  · obtain ⟨⟨cycle, controller'⟩, hcycle, hdispatch⟩ := map_eq_ok.mp hderated
    obtain ⟨hstatus, hcurrent⟩ := Prod.mk.inj hdispatch
    refine ⟨cycle, controller', hcycle, hstatus, .simple 1 0 5 2, ⟨mem_cons_self, ?_⟩, ?_⟩
    · decide +kernel
    · rw [hcurrent]
      decide
  · obtain ⟨⟨cycle, controller'⟩, hcycle, hdispatch⟩ := map_eq_ok.mp hrequested
    obtain ⟨_, hcurrent⟩ := Prod.mk.inj hdispatch
    exact ⟨cycle, controller', hcycle, _, by rw [hcurrent]; exact mem_cons_self, rfl⟩

end ComputeWeaver.Mpc
