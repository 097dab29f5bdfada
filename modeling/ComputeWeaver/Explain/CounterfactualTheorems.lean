/-
Explain.CounterfactualTheorems — a factor on the prices is a factor
on the cost.

Prices enter the optimizer in one place, the cost of a window, and there
linearly (`slotCost_rescaleSlot`). Windows, capacities and the order of the
search do not depend on them. So the search for the changed request is the
search for the original one with every cost multiplied (`problem_rescale`), and
`BranchBound.search_mapCost` relates the two.
-/
import ComputeWeaver.Explain.Counterfactual
import ComputeWeaver.Optimization.EngineTheorems

namespace ComputeWeaver.Explain

open Lib Workloads Scheduling Optimization

section

variable {multiplier : ℚ} {request : ScheduleInput}

theorem slotCost_rescaleSlot (job : Job) (slot : TimeSlot) :
    slotCost job (rescaleSlot multiplier slot) = multiplier * slotCost job slot := by
  have henergy : slotEnergy job (rescaleSlot multiplier slot) = slotEnergy job slot := rfl
  rw [slotCost, henergy, slotCost, rescaleSlot]
  ring

theorem problem_rescale (multiplier : ℚ) (request : ScheduleInput) :
    problem (rescale multiplier request) =
      (problem request).mapCost (AddMonoidHom.mulLeft multiplier) := by
  rw [problem, problem, BranchBound.Problem.mapCost]
  congr 1
  funext jobWindows window
  exact priceOf_map (rescaleSlot multiplier) (slotCost_rescaleSlot jobWindows.1) window

theorem capacity_rescale (multiplier : ℚ) (request : ScheduleInput) :
    (SearchState.start (rescale multiplier request)).capacity =
      (SearchState.start request).capacity := by
  simp only [SearchState.start, rescale, List.map_map]
  rfl

/-- **The two searches.** The same assignment is recorded, at the multiplied
cost. -/
theorem finished_rescale (hmultiplier : 0 < multiplier) {clock changedClock : Nat → ℚ}
    {timeoutSeconds : ℚ} {options : List (List (List Int))}
    (hout : (finished request clock timeoutSeconds options).timedOut = false)
    (hout' : (finished (rescale multiplier request) changedClock timeoutSeconds
      options).timedOut = false) :
    (finished (rescale multiplier request) changedClock timeoutSeconds options).best =
      (finished request clock timeoutSeconds options).best.map
        (Prod.map (multiplier * ·) id) := by
  rw [finished, problem_rescale, capacity_rescale] at hout' ⊢
  exact BranchBound.search_mapCost (problem request) (AddMonoidHom.mulLeft multiplier)
    (fun a b hab => mul_lt_mul_of_pos_left hab hmultiplier) _ _ hout hout'

end

/-! ## The two results -/

theorem timedOut_of_noPlan {runtime : ℚ} {timedOut : Bool}
    (h : (noPlanResult runtime timedOut).status ≠ .timeout) : timedOut = false := by
  cases timedOut with
  | false => rfl
  | true => exact absurd rfl h

theorem timedOut_of_plan {runtime : ℚ} {timedOut : Bool} {plan : SchedulePlan}
    (h : (planResult runtime timedOut plan).status ≠ .feasibleTimeout) : timedOut = false := by
  cases timedOut with
  | false => rfl
  | true => exact absurd rfl h

/-- The second result is the first with costs multiplied: the same status, and the
same placements of a plan that costs `multiplier` times as much. -/
structure Rescaled (multiplier : ℚ) (original changed : OptimizationResult) : Prop where
  status : changed.status = original.status
  noPlan : original.plan = none → changed.plan = none
  plan : ∀ plan, original.plan = some plan → ∃ changedPlan, changed.plan = some changedPlan ∧
    changedPlan.allocations = plan.allocations ∧ changedPlan.unscheduled = plan.unscheduled ∧
    changedPlan.estimatedCost = multiplier * plan.estimatedCost

theorem rescaled_of_optimize {contentHash : ScheduleInput → String} {request : ScheduleInput}
    {multiplier : ℚ} (hmultiplier : 0 < multiplier) {clock changedClock : Nat → ℚ}
    {timeoutSeconds : ℚ} {original changed : OptimizationResult}
    (h : optimize contentHash request clock timeoutSeconds = .ok original)
    (h' : optimize contentHash (rescale multiplier request) changedClock timeoutSeconds =
      .ok changed) (hcompleted : original.status ≠ .timeout ∧ original.status ≠ .feasibleTimeout)
    (hcompleted' : changed.status ≠ .timeout ∧ changed.status ≠ .feasibleTimeout) :
    Rescaled multiplier original changed := by
  obtain ⟨options, hoptions, houtcome⟩ := optimize_outcome contentHash clock timeoutSeconds h
  obtain ⟨options', hoptions', houtcome'⟩ :=
    optimize_outcome contentHash changedClock timeoutSeconds h'
  have hsame : (rescale multiplier request).jobs.mapM
      (jobOptions (rescale multiplier request)) = .ok options :=
    mapM_eq_ok.mpr ((mapM_eq_ok.mp hoptions).imp fun _ _ =>
      jobOptions_map (rescaleSlot multiplier) (fun _ => rfl) (fun _ => rfl) fun _ => rfl)
  obtain rfl := Except.ok.inj (hsame.symm.trans hoptions')
  have hsearch := @finished_rescale multiplier request hmultiplier clock changedClock
    timeoutSeconds options
  cases houtcome with
  | noWindow runtime hempty =>
    cases houtcome' with
    | noWindow => exact ⟨rfl, fun _ => rfl, nofun⟩
    | noPlan _ hall | planned _ _ _ _ hall => exact absurd hempty hall
  | noPlan runtime hall hbest =>
    have hout := timedOut_of_noPlan hcompleted.1
    cases houtcome' with
    | noWindow _ hempty => exact absurd hempty hall
    | noPlan =>
      have hout' := timedOut_of_noPlan hcompleted'.1
      rw [hout, hout']
      exact ⟨rfl, fun _ => rfl, nofun⟩
    | planned _ _ _ _ _ hbest' =>
      rw [hsearch hout (timedOut_of_plan hcompleted'.2), hbest] at hbest'
      cases hbest'
  | planned runtime cost energy assignment hall hbest =>
    have hout := timedOut_of_plan hcompleted.2
    cases houtcome' with
    | noWindow _ hempty => exact absurd hempty hall
    | noPlan _ _ hbest' =>
      rw [hsearch hout (timedOut_of_noPlan hcompleted'.1), hbest] at hbest'
      cases hbest'
    | planned _ _ _ _ _ hbest' =>
      have hout' := timedOut_of_plan hcompleted'.2
      rw [hsearch hout hout', hbest] at hbest'
      cases hbest'
      rw [hout, hout']
      refine ⟨rfl, nofun, fun plan hplan => ?_⟩
      cases hplan
      exact ⟨_, rfl, rfl, rfl, rfl⟩

/-- **Main result.** For every request and every factor above zero, when both runs
of the optimizer complete: the changed result has the status and the placements of
the original one, and a plan costs `multiplier` times as much. -/
theorem changeSlotPrices_rescales (contentHash : ScheduleInput → String)
    (request : ScheduleInput) (multiplier : ℚ) (clock changedClock : Nat → ℚ)
    (timeoutSeconds : ℚ) (original : OptimizationResult) (counterfactual : Counterfactual)
    (horiginal : optimize contentHash request clock timeoutSeconds = .ok original)
    (h : changeSlotPrices contentHash request multiplier clock changedClock timeoutSeconds =
      .ok counterfactual)
    (hcompleted : original.status ≠ .timeout ∧ original.status ≠ .feasibleTimeout)
    (hcompleted' : counterfactual.result.status ≠ .timeout ∧
      counterfactual.result.status ≠ .feasibleTimeout) :
    Rescaled multiplier original counterfactual.result ∧
    counterfactual.objectiveDelta =
      original.plan.map fun plan => (multiplier - 1) * plan.estimatedCost := by
  unfold changeSlotPrices at h
  simp only [except_throw] at h
  split at h
  · cases h
  rename_i hpositive
  obtain ⟨_, horiginal', h⟩ := bind_eq_ok.mp h
  obtain rfl := Except.ok.inj (horiginal.symm.trans horiginal')
  obtain ⟨changed, hchanged, h⟩ := bind_eq_ok.mp h
  cases h
  have hrescaled := rescaled_of_optimize (not_le.mp hpositive) horiginal hchanged hcompleted
    hcompleted'
  refine ⟨hrescaled, ?_⟩
  cases hplan : original.plan with
  | none => rfl
  | some plan =>
    obtain ⟨changedPlan, hchangedPlan, _, _, hcost⟩ := hrescaled.plan plan hplan
    have hdelta : changedPlan.estimatedCost - plan.estimatedCost =
        (multiplier - 1) * plan.estimatedCost := by
      rw [hcost]
      ring
    simp only [hchangedPlan, Option.map_some, ← hdelta]
    rfl

theorem changeSlotPrices_rescales_twoSlotInput :
    ∃ original counterfactual,
      optimize (fun _ => "hash") twoSlotInput (fun _ => 0) 5 = .ok original ∧
      changeSlotPrices (fun _ => "hash") twoSlotInput 2 (fun _ => 0) (fun _ => 0) =
        .ok counterfactual ∧
      Rescaled 2 original counterfactual.result ∧
      counterfactual.objectiveDelta =
        original.plan.map fun plan => (2 - 1) * plan.estimatedCost := by
  have hrun : OptimizationResult.status <$>
      optimize (fun _ => "hash") twoSlotInput (fun _ => 0) 5 = .ok .optimal := by decide +kernel
  have hchanged : (fun counterfactual => counterfactual.result.status) <$>
      changeSlotPrices (fun _ => "hash") twoSlotInput 2 (fun _ => 0) (fun _ => 0) =
        .ok .optimal := by decide +kernel
  obtain ⟨original, horiginal, hstatus⟩ := map_eq_ok.mp hrun
  obtain ⟨counterfactual, hcounterfactual, hstatus'⟩ := map_eq_ok.mp hchanged
  refine ⟨original, counterfactual, horiginal, hcounterfactual, ?_⟩
  exact changeSlotPrices_rescales (fun _ => "hash") twoSlotInput 2 (fun _ => 0) (fun _ => 0) 5
    original counterfactual horiginal hcounterfactual (by simp [hstatus]) (by simp [hstatus'])

end ComputeWeaver.Explain
