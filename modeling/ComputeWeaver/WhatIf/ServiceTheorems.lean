/-
WhatIf.ServiceTheorems — more capacity never costs more.

A factor of at least one takes no GPUs and no power away from a slot, even
after the truncation (`le_truncate`). So every slot that admits a job still
does, every window is still one, and an assignment that was feasible is
feasible at the same cost.
-/
import ComputeWeaver.Optimization.EngineTheorems
import ComputeWeaver.WhatIf.Service

namespace ComputeWeaver.WhatIf

open Lib Workloads Scheduling Optimization List

/-! ## One slot -/

theorem le_truncate {capacity : Int} {value : ℚ} (hcapacity : 0 ≤ capacity)
    (h : (capacity : ℚ) ≤ value) : capacity ≤ truncate value := by
  have hnonneg : 0 ≤ value := le_trans (by exact_mod_cast hcapacity) h
  rw [truncate, if_pos hnonneg]
  exact Int.le_floor.mpr h

section

variable {multiplier : ℚ} {request : ScheduleInput}

/-- What a factor needs to be to take nothing away. -/
structure Widens (multiplier : ℚ) (request : ScheduleInput) : Prop where
  multiplier : 1 ≤ multiplier
  gpus : ∀ slot ∈ request.slots, 0 ≤ slot.gpuCapacity
  power : ∀ slot ∈ request.slots, 0 ≤ slot.powerCapacityKw

variable {slot : TimeSlot} {job : Job} {assignment : List (List Int)}

theorem Widens.gpuCapacity (h : Widens multiplier request) (hslot : slot ∈ request.slots) :
    slot.gpuCapacity ≤ (rescaleCapacity multiplier slot).gpuCapacity := by
  have hgpus := h.gpus slot hslot
  refine le_truncate hgpus (le_mul_of_one_le_right ?_ h.multiplier)
  exact_mod_cast hgpus

theorem Widens.admits (h : Widens multiplier request) (hslot : slot ∈ request.slots)
    (hadmits : Admits job slot) : Admits job (rescaleCapacity multiplier slot) where
  early := hadmits.early
  gpus := hadmits.gpus.trans (h.gpuCapacity hslot)
  power := hadmits.power.trans (le_mul_of_one_le_right (h.power slot hslot) h.multiplier)

/-! ## The whole request -/

theorem scenario_wellPosed (hrequest : WellPosed request) :
    WellPosed (scenario multiplier request) where
  ids := hrequest.ids
  positional := by
    intro n slot hslot
    rw [scenario, getElem?_map] at hslot
    obtain ⟨original, horiginal, rfl⟩ := Option.map_eq_some_iff.mp hslot
    exact hrequest.positional n original horiginal
  duration := by simpa [scenario, rescaleCapacity] using hrequest.duration
  cost := by
    intro job hjob slot hslot
    obtain ⟨original, horiginal, rfl⟩ := mem_map.mp hslot
    exact hrequest.cost job hjob original horiginal

theorem slotCount_scenario (job : Job) :
    slotCount (scenario multiplier request) job = slotCount request job := by
  unfold slotCount scenario
  cases request.slots <;> rfl

section

variable (h : Widens multiplier request)
include h

theorem Widens.admitted_sublist (job : Job) :
    ((admitted request job).map (·.index)).Sublist
      ((admitted (scenario multiplier request) job).map (·.index)) := by
  have hindices : (admitted (scenario multiplier request) job).map (·.index) =
      (request.slots.filter fun slot =>
        decide (Admits job (rescaleCapacity multiplier slot))).map (·.index) := by
    rw [admitted, scenario, List.filter_map, map_map]
    rfl
  have hfilter : admitted request job = (request.slots.filter fun slot =>
      decide (Admits job (rescaleCapacity multiplier slot))).filter fun slot =>
        decide (Admits job slot) := by
    rw [admitted, filter_filter]
    refine filter_congr fun slot hslot => ?_
    rw [Bool.eq_iff_iff, Bool.and_eq_true, decide_eq_true_iff, decide_eq_true_iff]
    exact ⟨fun hadmits => ⟨hadmits, h.admits hslot hadmits⟩, And.left⟩
  rw [hindices, hfilter]
  exact filter_sublist.map _

theorem Widens.jobOptions_subset {windows windows' : List (List Int)}
    (hwindows : jobOptions request job = .ok windows)
    (hwindows' : jobOptions (scenario multiplier request) job = .ok windows') :
    windows ⊆ windows' := by
  intro window hwindow
  obtain ⟨hslots, hsub, hcount, htogether⟩ := (mem_jobOptions hwindows).mp hwindow
  refine (mem_jobOptions hwindows').mpr ⟨?_, hsub.trans (h.admitted_sublist job), ?_, htogether⟩
  · simpa [scenario] using hslots
  · rwa [slotCount_scenario]

theorem Widens.mem_choices {options options' : List (List (List Int))}
    (hoptions : Options request options)
    (hoptions' : request.jobs.mapM (jobOptions (scenario multiplier request)) = .ok options')
    (ha : assignment ∈ choices options) : assignment ∈ choices options' := by
  have hgrow : ∀ {jobs : List Job} {options options' assignment : List _},
      List.Forall₂ (fun job windows => jobOptions request job = .ok windows) jobs options →
      List.Forall₂ (fun job windows => jobOptions (scenario multiplier request) job = .ok windows)
        jobs options' →
      List.Forall₂ (· ∈ ·) assignment options → List.Forall₂ (· ∈ ·) assignment options' := by
    intro jobs options options' assignment hjobs
    induction hjobs generalizing options' assignment with
    | nil =>
      rintro (_ | _) (_ | _)
      exact .nil
    | cons hhead _ ih =>
      rintro (_ | ⟨hhead', htail'⟩) (_ | ⟨hmem, htail⟩)
      exact .cons (h.jobOptions_subset hhead hhead' hmem) (ih htail' htail)
  exact Lib.mem_choices.mpr
    (hgrow (mapM_eq_ok.mp hoptions) (mapM_eq_ok.mp hoptions') (Lib.mem_choices.mp ha))

theorem Widens.feasible (hfeasible : Feasible request assignment) :
    Feasible (scenario multiplier request) assignment := by
  rintro slot hslot ⟨window, hwindow, hin⟩
  obtain ⟨original, horiginal, rfl⟩ := mem_map.mp hslot
  exact (hfeasible original horiginal ⟨window, hwindow, hin⟩).trans (h.gpuCapacity horiginal)

end

theorem totalCost_scenario (assignment : List (List Int)) :
    totalCost (scenario multiplier request) assignment = totalCost request assignment := by
  have hprice : ∀ job window,
      priceOf (scenario multiplier request) job window = priceOf request job window := by
    intro job window
    have hmap : priceOf (scenario multiplier request) job window =
        1 * priceOf request job window :=
      priceOf_map (rescaleCapacity multiplier) (fun slot => (one_mul (slotCost job slot)).symm)
        window
    rwa [one_mul] at hmap
  simp only [totalCost, hprice]
  rfl

end

/-! ## The result -/

/-- **Main result.** When the optimizer finds an optimal plan, a what-if run with a
factor of at least one returns, and unless it times out it finds an optimal plan
that costs no more. -/
theorem runWhatIf_monotone (contentHash : ScheduleInput → String) (multiplierText : String)
    (request : ScheduleInput) (clock scenarioClock : Nat → ℚ) (timeoutSeconds multiplier : ℚ)
    (result : OptimizationResult) (hrequest : WellPosed request)
    (hwidens : Widens multiplier request)
    (h : optimize contentHash request clock timeoutSeconds = .ok result)
    (hstatus : result.status = .optimal) :
    ∃ plan whatIf, result.plan = some plan ∧
      runWhatIf contentHash multiplierText request scenarioClock (.finite multiplier) =
        .ok whatIf ∧
      (whatIf.result.status ≠ .timeout → whatIf.result.status ≠ .feasibleTimeout →
        whatIf.result.status = .optimal ∧ ∃ scenarioPlan, whatIf.result.plan = some scenarioPlan ∧
          scenarioPlan.estimatedCost ≤ plan.estimatedCost) := by
  have hscenario : WellPosed (scenario multiplier request) := scenario_wellPosed hrequest
  obtain ⟨options, hoptions, hcases⟩ := optimize_cases contentHash clock timeoutSeconds hrequest h
    (by simp [hstatus]) (by simp [hstatus])
  rcases hcases with ⟨hinfeasible, _⟩ | ⟨best, plan, _, hplan, ⟨hbest, hfeasible⟩, _, _, hcost⟩
  · rw [hstatus] at hinfeasible
    cases hinfeasible
  -- the datetimes could be ordered the first time
  have hcomparable : ∀ job ∈ (scenario multiplier request).jobs,
      ∀ slot ∈ (scenario multiplier request).slots, Dated job slot := by
    intro job hjob slot hslot
    obtain ⟨original, horiginal, rfl⟩ := mem_map.mp hslot
    obtain ⟨windows, _, hwindows⟩ := exists_of_mapM_eq_ok hoptions hjob
    exact jobOptions_comparable hwindows original horiginal
  have hcounts : ∀ job ∈ (scenario multiplier request).jobs,
      slotCount (scenario multiplier request) job ≤ maxsize := by
    intro job hjob
    obtain ⟨windows, _, hwindows⟩ := exists_of_mapM_eq_ok hoptions hjob
    rw [slotCount_scenario]
    exact jobOptions_count hwindows
  obtain ⟨scenarioResult, hresult⟩ := optimize_ok contentHash scenarioClock 10 hscenario.ids
    hscenario.duration hscenario.positional hcounts hcomparable
  refine ⟨plan, ⟨true, .ofList [("capacity_multiplier", multiplierText)], scenarioResult⟩, hplan,
    ?_, fun htimeout hfeasibleTimeout => ?_⟩
  · have hpositive : ¬ multiplier ≤ 0 := not_le.mpr (lt_of_lt_of_le one_pos hwidens.multiplier)
    have hle : (PyDecimal.finite multiplier).le (.finite 0) = .ok false := by
      simp [PyDecimal.le, hpositive, except_pure]
    rw [runWhatIf, hle, ok_bind, if_neg (by decide)]
    dsimp only [rescaleSlots]
    rw [except_pure, ok_bind, hresult]
    rfl
  obtain ⟨options', hoptions', hcases'⟩ := optimize_cases contentHash scenarioClock 10 hscenario
    hresult htimeout hfeasibleTimeout
  have hbest' := hwidens.mem_choices hoptions hoptions' hbest
  have hfeasible' := hwidens.feasible hfeasible
  rcases hcases' with ⟨_, _, hnone⟩ |
    ⟨least, scenarioPlan, hoptimal, hscenarioPlan, _, hleast, _, hcost'⟩
  · exact absurd hfeasible' (hnone best hbest')
  refine ⟨hoptimal, scenarioPlan, hscenarioPlan, ?_⟩
  have hmem : best ∈ (choices options').filter fun assignment =>
      decide (Feasible (scenario multiplier request) assignment) :=
    mem_filter.mpr ⟨hbest', decide_eq_true hfeasible'⟩
  calc scenarioPlan.estimatedCost
      = totalCost (scenario multiplier request) least := hcost'
    _ ≤ totalCost (scenario multiplier request) best := le_of_mem_argmin hmem hleast
    _ = totalCost request best := totalCost_scenario best
    _ = plan.estimatedCost := hcost.symm

/-- With twice the GPUs both jobs go into the cheaper slot. -/
theorem runWhatIf_monotone_twoSlotInput :
    ∃ result plan whatIf,
      optimize (fun _ => "hash") twoSlotInput (fun _ => 0) 10 = .ok result ∧
      result.plan = some plan ∧
      runWhatIf (fun _ => "hash") "2" twoSlotInput (fun _ => 0) (.finite 2) = .ok whatIf ∧
      (whatIf.result.status ≠ .timeout → whatIf.result.status ≠ .feasibleTimeout →
        whatIf.result.status = .optimal ∧ ∃ scenarioPlan, whatIf.result.plan = some scenarioPlan ∧
          scenarioPlan.estimatedCost ≤ plan.estimatedCost) := by
  have hrun : OptimizationResult.status <$>
      optimize (fun _ => "hash") twoSlotInput (fun _ => 0) 10 = .ok .optimal := by decide +kernel
  obtain ⟨result, hresult, hstatus⟩ := map_eq_ok.mp hrun
  have hrequest : WellPosed twoSlotInput :=
    ⟨by decide, twoSlotInput_positional, by decide, by decide +kernel⟩
  have hwidens : Widens 2 twoSlotInput := ⟨by decide, by decide, by decide⟩
  obtain ⟨plan, whatIf, hplan, hwhatIf, hcheaper⟩ := runWhatIf_monotone (fun _ => "hash") "2"
    twoSlotInput (fun _ => 0) (fun _ => 0) 10 2 result hrequest hwidens hresult hstatus
  exact ⟨result, plan, whatIf, hresult, hplan, hwhatIf, hcheaper⟩

/-- An infinite factor makes no integer of the capacities. -/
theorem infinite_multiplier_raises :
    (∃ result, optimize (fun _ => "hash") twoSlotInput (fun _ => 0) 10 = .ok result ∧
      result.status = .optimal) ∧
    (∀ slot ∈ twoSlotInput.slots, 0 ≤ slot.gpuCapacity ∧ 0 ≤ slot.powerCapacityKw) ∧
    WellPosed twoSlotInput ∧
    runWhatIf (fun _ => "hash") "Infinity" twoSlotInput (fun _ => 0) (.infinity false) =
      .error .overflowError := by
  have hrun : OptimizationResult.status <$>
      optimize (fun _ => "hash") twoSlotInput (fun _ => 0) 10 = .ok .optimal := by decide +kernel
  exact ⟨map_eq_ok.mp hrun, by decide,
    ⟨by decide, twoSlotInput_positional, by decide, by decide +kernel⟩, rfl⟩

end ComputeWeaver.WhatIf
