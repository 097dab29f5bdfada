/-
Optimization.PruningTheorems — the optimizer under prices of any
sign.

`search` drops a branch whose running cost has reached the best cost so far.
Where a price is negative, what is left of the branch may bring its cost down
again. The result is a cheapest assignment exactly if the search records one:
each part of it has to be cheaper than what was recorded elsewhere before. Where no
cost is negative, one is recorded (`cheapest_recorded`).

The plan of a search that completes is the LAST recorded assignment, that of a search
that runs out of time one of the recorded ones (`optimize_records`).
-/
import ComputeWeaver.Lib.BranchPruning
import ComputeWeaver.Optimization.EngineTheorems

namespace ComputeWeaver.Optimization

open Lib Workloads Scheduling

/-- The feasible choices of one window per job, in the order of the search. -/
def feasibleAssignments (request : ScheduleInput) (options : List (List (List Int))) :
    List (List (List Int)) :=
  (choices options).filter fun assignment => decide (Feasible request assignment)

/-- The feasible assignments of which every part is cheaper than those recorded
before that do not share it. -/
def recordedAssignments (request : ScheduleInput) (options : List (List (List Int))) :
    List (List (List Int)) :=
  BranchBound.records (problem request) (request.jobs.zip options)
    (feasibleAssignments request options)

theorem jobOptions_distinct {request : ScheduleInput} {job : Job} {options : List (List Int)}
    (hindex : DistinctSlots request) (h : jobOptions request job = .ok options) :
    options.Nodup := by
  unfold jobOptions at h
  split at h
  · cases h
    exact List.nodup_nil
  obtain ⟨needed, -, h⟩ := bind_eq_ok.mp h
  obtain ⟨eligible, heligible, h⟩ := bind_eq_ok.mp h
  obtain ⟨windows, hwindows, h⟩ := bind_eq_ok.mp h
  cases h
  obtain ⟨-, rfl⟩ := eligible_eq_ok.mp heligible
  obtain ⟨_, _, rfl⟩ := windowsOf_eq_ok.mp hwindows
  exact (nodup_combinations (hindex.sublist (List.filter_sublist.map _)) _).filter _

section

variable {request : ScheduleInput} {options : List (List (List Int))}

theorem recorded_mem_choices {assignment : List (List Int)}
    (h : assignment ∈ recordedAssignments request options) : assignment ∈ choices options := by
  obtain ⟨added, hadded, hsub⟩ := BranchBound.foldl_record (problem request)
    (request.jobs.zip options) (feasibleAssignments request options) []
  rw [recordedAssignments, BranchBound.records, hadded, List.nil_append] at h
  exact (List.mem_filter.mp (hsub h)).1

variable (hindex : DistinctSlots request) (hoptions : Options request options)

include hindex hoptions

theorem options_distinct : ∀ jobWindows ∈ request.jobs.zip options,
    ((problem request).options jobWindows).Nodup := fun _ hmem =>
  jobOptions_distinct hindex (mapM_eq_ok_zip hoptions hmem)

theorem nodup_feasibleAssignments : (feasibleAssignments request options).Nodup := by
  refine (nodup_choices fun windows hwindows => ?_).filter _
  obtain ⟨job, _, hjob⟩ := mem_of_mapM_eq_ok hoptions hwindows
  exact jobOptions_distinct hindex hjob

/-- What the search has recorded when it ends, with or without a timeout. -/
theorem finished_records (clock : Nat → ℚ) (timeoutSeconds : ℚ) :
    BranchBound.Recorded (problem request) (request.jobs.zip options)
      (expired clock timeoutSeconds) (recordedAssignments request options)
      (finished request clock timeoutSeconds options) := by
  rw [recordedAssignments, feasibleAssignments, ← leaves_eq_feasible hindex hoptions]
  exact BranchBound.search_records (options_distinct hindex hoptions) _

theorem finished_getLast {clock : Nat → ℚ} {timeoutSeconds : ℚ} {best : ℚ × List (List Int)}
    (hout : (finished request clock timeoutSeconds options).timedOut = false)
    (hbest : best ∈ (finished request clock timeoutSeconds options).best) :
    (recordedAssignments request options).getLast? = some best.2 := by
  have hdistinct := nodup_feasibleAssignments hindex hoptions
  have hlength : ∀ assignment ∈ feasibleAssignments request options,
      assignment.length = (request.jobs.zip options).length := by
    intro assignment ha
    rw [List.length_zip, ← options_length hoptions, min_self]
    exact (assignment_length hoptions (List.mem_filter.mp ha).1).symm
  rw [recordedAssignments]
  rw [feasibleAssignments, ← leaves_eq_feasible hindex hoptions] at hdistinct hlength ⊢
  exact BranchBound.search_getLast (options_distinct hindex hoptions) _ hdistinct hlength hout hbest

end

theorem expired_monotone {clock : Nat → ℚ} (hclock : Monotone clock) (timeoutSeconds : ℚ) :
    Monotone (expired clock timeoutSeconds) := by
  intro n m hle
  have hlater : clock (n + 1) ≤ clock (m + 1) := hclock (Nat.succ_le_succ hle)
  refine Bool.le_iff_imp.mpr fun hexpired => ?_
  rw [expired, decide_eq_true_iff] at hexpired ⊢
  linarith

/-- **The plan of a search.** Under a clock that does not go back it is a recorded
assignment, and the last recorded one if the search completes. -/
theorem optimize_records (contentHash : ScheduleInput → String) {request : ScheduleInput}
    {clock : Nat → ℚ} (hclock : Monotone clock) (timeoutSeconds : ℚ)
    (hindex : DistinctSlots request) {result : OptimizationResult} {plan : SchedulePlan}
    (h : optimize contentHash request clock timeoutSeconds = .ok result)
    (hplan : result.plan = some plan) :
    ∃ options assignment, Options request options ∧
      plan.allocations = (request.jobs.zip assignment).map allocationOf ∧
      assignment ∈ recordedAssignments request options ∧
      (result.status = .optimal →
        (recordedAssignments request options).getLast? = some assignment) := by
  obtain ⟨options, hoptions, houtcome⟩ := optimize_outcome contentHash clock timeoutSeconds h
  cases houtcome with
  | noWindow | noPlan => cases hplan
  | planned runtime cost energy assignment _ hbest _ _ =>
    cases hplan
    have hrecords := finished_records hindex hoptions clock timeoutSeconds
    refine ⟨options, assignment, hoptions, rfl, ?_, fun hstatus => ?_⟩
    · cases hout : (finished request clock timeoutSeconds options).timedOut with
      | false => exact ((hrecords.tracks hout).mem _ hbest).1
      | true => exact (hrecords.late (expired_monotone hclock _) hout).2 _ hbest
    · have hout : (finished request clock timeoutSeconds options).timedOut = false := by
        by_contra hlate
        simp [planResult, hlate] at hstatus
      exact finished_getLast hindex hoptions hout hbest

/-- Where no job has a negative cost in a slot, a cheapest assignment is recorded. -/
theorem cheapest_recorded {request : ScheduleInput} (hrequest : WellPosed request)
    {options : List (List (List Int))} (hoptions : Options request options)
    (hfeasible : feasibleAssignments request options ≠ []) :
    ∃ record ∈ recordedAssignments request options,
      ∀ assignment ∈ feasibleAssignments request options,
        totalCost request record ≤ totalCost request assignment := by
  have hindex := hrequest.positional.nodup
  -- a search that never runs out of time finds one
  have hout : (finished request (fun _ => 0) 10 options).timedOut = false :=
    BranchBound.search_timedOut (problem request) _ (fun n => by simp [expired]) _ _ _ _ _
  have hbest := finished_best (fun _ => 0) 10 hindex hoptions hrequest.cost hout
  cases hargmin : (feasibleAssignments request options).argmin (totalCost request) with
  | none => exact absurd (List.argmin_eq_none.mp hargmin) hfeasible
  | some record =>
    rw [← feasibleAssignments, hargmin] at hbest
    have hrecords := finished_records hindex hoptions (fun _ => 0) 10
    exact ⟨record, ((hrecords.tracks hout).mem _ hbest).1,
      fun assignment ha => List.le_of_mem_argmin ha hargmin⟩

/-- **Main result.** A search that completes is no dearer than any feasible
assignment exactly if a cheapest assignment is recorded. -/
theorem optimal_least_iff (contentHash : ScheduleInput → String) {request : ScheduleInput}
    (clock : Nat → ℚ) (timeoutSeconds : ℚ) (hpositional : Positional request)
    {result : OptimizationResult}
    (h : optimize contentHash request clock timeoutSeconds = .ok result)
    (hstatus : result.status = .optimal) :
    ∃ plan options, result.plan = some plan ∧
      request.jobs.mapM (jobOptions request) = .ok options ∧
      ((∀ assignment ∈ feasibleAssignments request options,
          plan.estimatedCost ≤ totalCost request assignment) ↔
        ∃ record ∈ recordedAssignments request options,
          ∀ assignment ∈ feasibleAssignments request options,
            totalCost request record ≤ totalCost request assignment) := by
  obtain ⟨options, hoptions, houtcome⟩ := optimize_outcome contentHash clock timeoutSeconds h
  have hdistinct := options_distinct hpositional.nodup hoptions
  cases houtcome with
  | noWindow => cases hstatus
  | noPlan =>
    simp only [noPlanResult] at hstatus
    split at hstatus <;> cases hstatus
  | planned runtime cost energy assignment _ hbest _ _ =>
    have hout : (finished request clock timeoutSeconds options).timedOut = false := by
      by_contra hlate
      simp [planResult, hlate] at hstatus
    refine ⟨_, options, rfl, hoptions, ?_⟩
    have hiff := BranchBound.search_optimal_iff hdistinct (SearchState.start request).capacity hout
      hbest
    rw [leaves_eq_feasible hpositional.nodup hoptions, pathCost_eq_totalCost hoptions] at hiff
    exact hiff

/-- Two jobs, and two slots with room for one of them each. -/
def pairInput (first second : ℚ) : ScheduleInput where
  jobs := [.simple "job-a" 1 1 10, .simple "job-b" 2 1 10]
  slots := [.simple 0 2 5 first, .simple 1 2 5 second]
  topologyVersion := 1
  forecastVersion := "forecast-1"

theorem positional_pairInput (first second : ℚ) : Positional (pairInput first second) :=
  positional_of_indices rfl

/-- With the cheaper slot second, negative prices do no harm. -/
theorem optimal_least_pairInput :
    ∃ result plan, optimize (fun _ => "hash") (pairInput (-1) (-2)) (fun _ => 0) 10 = .ok result ∧
      result.plan = some plan ∧
      plan.estimatedCost ≤ totalCost (pairInput (-1) (-2)) [[1], [0]] := by
  have hrun : OptimizationResult.status <$>
      optimize (fun _ => "hash") (pairInput (-1) (-2)) (fun _ => 0) 10 = .ok .optimal := by
    decide +kernel
  obtain ⟨result, h, hstatus⟩ := map_eq_ok.mp hrun
  obtain ⟨plan, options, hplan, hoptions, hiff⟩ :=
    optimal_least_iff (fun _ => "hash") (fun _ => 0) 10 (positional_pairInput (-1) (-2)) h hstatus
  have hwindows : (pairInput (-1) (-2)).jobs.mapM (jobOptions (pairInput (-1) (-2))) =
      .ok [[[0], [1]], [[0], [1]]] := by decide +kernel
  cases hwindows.symm.trans hoptions
  refine ⟨result, plan, h, hplan, hiff.mpr ?_ [[1], [0]] (by decide +kernel)⟩
  exact ⟨[[0], [1]], by decide +kernel, by decide +kernel⟩

/-- With the cheaper slot first, the branch of the cheapest assignment is
dropped: its first job alone costs more than the assignment found before. -/
theorem negative_price_missed :
    (fun result : OptimizationResult =>
        (result.status, result.plan.map (·.estimatedCost))) <$>
      optimize (fun _ => "hash") (pairInput (-2) (-1)) (fun _ => 0) 10 = .ok (.optimal, some (-4)) ∧
    (pairInput (-2) (-1)).jobs.mapM (jobOptions (pairInput (-2) (-1))) =
      .ok [[[0], [1]], [[0], [1]]] ∧
    [[1], [0]] ∈ feasibleAssignments (pairInput (-2) (-1)) [[[0], [1]], [[0], [1]]] ∧
    totalCost (pairInput (-2) (-1)) [[1], [0]] = -5 := by
  decide +kernel

end ComputeWeaver.Optimization
