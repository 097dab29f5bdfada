/-
Scheduling.CompletenessTheorems — which jobs the greedy planners
leave.

A planner offers a job one window: the first slots, in the order of the
strategy, of those that could host it. A job that can be checkpointed is left
only when too few slots could host it, so nothing is missed there. A job that
needs slots in a row is also left when the offered slots have a gap, whatever
the later slots are.
-/
import ComputeWeaver.Scheduling.SoundnessTheorems

namespace ComputeWeaver.Scheduling

open Lib Workloads Optimization List

/-! ## One turn -/

section

variable {request : ScheduleInput} {available : Dict Int Int} {job : Job} {window : List TimeSlot}

/-- As many slots as the job needs, out of those that could host it in what is
available, and in a row unless the job can be checkpointed. -/
structure HostingWindow (request : ScheduleInput) (available : Dict Int Int) (job : Job)
    (window : List TimeSlot) : Prop where
  slots : request.slots ≠ []
  hosts : window.Subperm (hosts request available job)
  count : (window.length : Int) = slotCount request job
  together : job.checkpointable ∨ consecutive (window.map (·.index))

def offer (request : ScheduleInput) (price : Bool) (available : Dict Int Int) (job : Job) :
    List TimeSlot :=
  offered price (hosts request available job) (slotCount request job)

/-- With enough slots that could host it, the window that a job is offered has the
right length. -/
theorem HostingWindow.length_offer
    (h : HostingWindow request available job window) (price : Bool) :
    ((offer request price available job).length : Int) = slotCount request job := by
  have hle := h.hosts.length_le
  have hcount := h.count
  exact (offered_length price (by omega)).mpr (by omega)

/-- **One turn.** A job that some window could host gets slots exactly when it can
be checkpointed or the offered slots are in a row. -/
theorem HostingWindow.chosen_iff
    (h : HostingWindow request available job window) {price : Bool} :
    chosen request price available job ≠ none ↔
      (job.checkpointable ∨ consecutive ((offer request price available job).map (·.index))) := by
  have hcount := h.length_offer price
  have hslots : request.slots.isEmpty = false := by simpa using h.slots
  have hrejected : rejected job (slotCount request job) (offer request price available job) =
      (!job.checkpointable &&
        !consecutive ((offer request price available job).map (·.index))) := by
    simp [rejected, hcount]
  rw [chosen, ← offer, hslots, hrejected, Bool.false_or]
  cases job.checkpointable <;>
    cases consecutive ((offer request price available job).map (·.index)) <;> simp

end

/-! ## A whole run -/

structure RunOf (baseline : Baseline) (request : ScheduleInput) (plan : SchedulePlan)
    (turns : List Turn) : Prop where
  order : baseline.order request.jobs = .ok (turns.map (·.job))
  taken : Turns request baseline.price turns
  allocations : plan.allocations = (placedBy turns).map (greedyAllocation baseline.strategy)
  unscheduled : plan.unscheduled = (leftBy turns).map (·.id)

theorem RunOf.single {baseline : Baseline} {request : ScheduleInput} {plan : SchedulePlan}
    {turns : List Turn} {job : Job} (hjobs : request.jobs = [job])
    (h : RunOf baseline request plan turns) :
    ∃ selection, turns = [⟨job, selection⟩] := by
  have hperm := Baseline.order_perm h.order
  rw [hjobs, perm_singleton, map_eq_singleton_iff] at hperm
  obtain ⟨turn, rfl, rfl⟩ := hperm
  exact ⟨turn.selection, rfl⟩

/-- A job is left only if no window could host it in what the jobs before it have
left. -/
def Complete (request : ScheduleInput) (turns : List Turn) : Prop :=
  ∀ before turn after, turns = before ++ turn :: after → turn.selection = none →
    ¬ ∃ window, HostingWindow request (availableAfter request before) turn.job window

/-- When some window could host a job that needs slots in a row, the slots it is
offered are in a row. -/
def OffersRuns (request : ScheduleInput) (price : Bool) (turns : List Turn) : Prop :=
  ∀ before turn after, turns = before ++ turn :: after → turn.job.checkpointable = false →
    (∃ window, HostingWindow request (availableAfter request before) turn.job window) →
      consecutive ((offer request price (availableAfter request before) turn.job).map (·.index))

theorem Turns.complete_iff {request : ScheduleInput} {price : Bool} {turns : List Turn}
    (h : Turns request price turns) : Complete request turns ↔ OffersRuns request price turns := by
  have hturn : ∀ before turn after, turns = before ++ turn :: after →
      turn.selection = chosen request price (availableAfter request before) turn.job :=
    fun before turn after hsplit => (selectSlots_eq_ok (h.selects hsplit)).2
  constructor
  · rintro hcomplete before turn after hsplit hcheckpointable ⟨window, hwindow⟩
    have hselected : chosen request price (availableAfter request before) turn.job ≠ none := by
      rw [← hturn before turn after hsplit]
      exact fun hnone => hcomplete before turn after hsplit hnone ⟨window, hwindow⟩
    rcases hwindow.chosen_iff.mp hselected with hcan | hrow
    · rw [hcheckpointable] at hcan
      cases hcan
    · exact hrow
  · rintro hoffers before turn after hsplit hnone ⟨window, hwindow⟩
    rw [hturn before turn after hsplit] at hnone
    refine hwindow.chosen_iff.mpr ?_ hnone
    cases hcheckpointable : turn.job.checkpointable with
    | true => exact .inl rfl
    | false => exact .inr (hoffers before turn after hsplit hcheckpointable ⟨window, hwindow⟩)

/-- **Main result.** The run behind a plan leaves only jobs that no window could
host exactly when every job that needs slots in a row, and that some window could
host at its turn, is offered slots in a row. -/
theorem baseline_complete_iff (contentHash : ScheduleInput → String) (request : ScheduleInput)
    (baseline : Baseline) (plan : SchedulePlan)
    (h : baseline.schedule contentHash request = .ok plan) :
    ∃ turns, RunOf baseline request plan turns ∧
      (Complete request turns ↔ OffersRuns request baseline.price turns) := by
  rw [baseline.schedule_eq] at h
  obtain ⟨ordered, hordered, h⟩ := bind_eq_ok.mp h
  obtain ⟨turns, hturns, rfl, rfl⟩ := turns_of_schedule h
  exact ⟨turns, ⟨hordered, hturns, rfl, rfl⟩, hturns.complete_iff⟩

def twoHourJob : Job := (Job.simple "job-a" 1 1 10).lasting 1

/-- A job of two hours, and a run of two free slots after a single one. -/
def gapInput : ScheduleInput where
  jobs := [twoHourJob]
  slots := [.simple 0 1 5 2, .simple 1 0 5 2, .simple 2 1 5 2, .simple 3 1 5 2]
  topologyVersion := 1
  forecastVersion := "forecast-1"

/-- Without the single slot the job is offered the run. -/
theorem baseline_complete_iff_twoHourJob :
    let request := { gapInput with slots := [.simple 0 1 5 2, .simple 1 1 5 2] }
    ∃ plan turns, scheduleFifo (fun _ => "hash") request = .ok plan ∧
      RunOf .fifo request plan turns ∧ Complete request turns := by
  intro request
  have hplanned : SchedulePlan.unscheduled <$> scheduleFifo (fun _ => "hash") request =
      .ok [] := by decide +kernel
  obtain ⟨plan, hplan, _⟩ := map_eq_ok.mp hplanned
  obtain ⟨turns, hrun, hiff⟩ := baseline_complete_iff (fun _ => "hash") request .fifo plan hplan
  refine ⟨plan, turns, hplan, hrun, hiff.mpr ?_⟩
  obtain ⟨selection, rfl⟩ := hrun.single rfl
  rintro before turn after hsplit - -
  cases before with
  | nil =>
    cases hsplit
    dsimp only
    decide +kernel
  | cons first rest => simp at hsplit

/-- Every planner offers slots 0 and 2 to the job and leaves it, although slots 2
and 3 could host it. The optimizer places it there. -/
theorem gap_hides_later_window :
    (gapInput.jobs.map (·.id)).Nodup ∧ Positional gapInput ∧
    (∀ slot ∈ gapInput.slots, 0 < slot.durationHours) ∧
    (∀ baseline : Baseline, ∃ plan, baseline.schedule (fun _ => "hash") gapInput = .ok plan ∧
      plan.unscheduled = ["job-a"]) ∧
    HostingWindow gapInput (availableAfter gapInput []) twoHourJob
      [.simple 2 1 5 2, .simple 3 1 5 2] ∧
    (∃ result plan, optimize (fun _ => "hash") gapInput (fun _ => 0) 10 = .ok result ∧
      result.plan = some plan ∧ plan.allocations = [⟨"job-a", [2, 3], 1, "MIN_TOTAL_COST"⟩]) := by
  refine ⟨by decide, positional_of_indices rfl, by decide, ?_, ?_, ?_⟩
  · intro baseline
    have hleft : SchedulePlan.unscheduled <$> baseline.schedule (fun _ => "hash") gapInput =
        .ok ["job-a"] := by
      cases baseline <;> decide +kernel
    exact map_eq_ok.mp hleft
  · refine ⟨by decide, List.Sublist.subperm ?_, by decide +kernel, .inr (by decide)⟩
    have hhosts : hosts gapInput (availableAfter gapInput []) twoHourJob =
        [.simple 0 1 5 2, .simple 2 1 5 2, .simple 3 1 5 2] := by decide +kernel
    rw [hhosts]
    exact sublist_cons_self _ _
  · have hplan : (fun result : OptimizationResult => result.plan.map (·.allocations)) <$>
        optimize (fun _ => "hash") gapInput (fun _ => 0) 10 =
          .ok (some [⟨"job-a", [2, 3], 1, "MIN_TOTAL_COST"⟩]) := by decide +kernel
    obtain ⟨result, hresult, hsome⟩ := map_eq_ok.mp hplan
    obtain ⟨plan, hplan, hallocations⟩ := Option.map_eq_some_iff.mp hsome
    exact ⟨result, plan, hresult, hplan, hallocations⟩

end ComputeWeaver.Scheduling
