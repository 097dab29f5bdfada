/-
Optimization.BaselineTheorems — the optimizer against the baselines.

A baseline takes the jobs in an order of its own and each job's slots in an
order of its own. Put into the order of the request, what it has granted is one
of the assignments that the optimizer searches, with the same load in every slot
and at the same cost.
-/
import ComputeWeaver.Scheduling.WindowsTheorems

namespace ComputeWeaver.Optimization

open Lib Workloads Scheduling List

/-- The window of a grant, in the order of the request. -/
def windowOf (request : ScheduleInput) (grant : Job × List TimeSlot) : List Int :=
  (inOrder request grant.2).map (·.index)

section

variable {request : ScheduleInput} {grants : List (Job × List TimeSlot)}
  {grant : Job × List TimeSlot} {options : List (List (List Int))}
  (hpositional : Positional request)

include hpositional

theorem windowOf_perm (h : Grant request grant.1 grant.2) :
    (windowOf request grant).Perm (Granted.window grant).2 :=
  (h.inOrder_perm hpositional).map _

theorem windowOf_mem {windows : List (List Int)} (h : Grant request grant.1 grant.2)
    (hadmits : ∀ slot ∈ grant.2, Admits grant.1 slot)
    (hwindows : jobOptions request grant.1 = .ok windows) :
    windowOf request grant ∈ windows := by
  refine (mem_jobOptions hwindows).mpr ⟨h.nonempty, ?_, ?_, h.inOrder_together hpositional⟩
  · refine Sublist.map _ (monotone_filter_right _ fun slot hslot => ?_)
    simpa using hadmits slot (of_decide_eq_true hslot)
  · rw [(windowOf_perm hpositional h).length_eq, Granted.window, length_map, h.count]

theorem priceOf_windowOf (h : Grant request grant.1 grant.2) :
    priceOf request grant.1 (windowOf request grant) = (grant.2.map (slotCost grant.1)).sum := by
  have hread : (windowOf request grant).mapM (pyIndex request.slots) =
      .ok ((inOrder request grant.2).map id) :=
    except_mapM_map id fun slot hslot =>
      pyIndex_eq_ok.mpr (hpositional.pyGet? (mem_of_mem_filter hslot))
  rw [priceOf, windowCost, hread, map_id]
  exact ((h.inOrder_perm hpositional).map _).sum_eq

/-- **Every job is granted:** the grants are an assignment of the search. -/
theorem exists_assignment (hoptions : Options request options)
    (hjobs : (grants.map Prod.fst).Perm request.jobs)
    (hgrants : ∀ grant ∈ grants, Grant request grant.1 grant.2)
    (hwithin : WithinGpus request (grants.map Granted.window)) :
    ∃ assignment ∈ choices options, Feasible request assignment ∧
      totalCost request assignment =
        (grants.map fun grant => (grant.2.map (slotCost grant.1)).sum).sum := by
  obtain ⟨ordered, hfst, hperm⟩ : ∃ ordered : List (Job × List TimeSlot),
      ordered.map Prod.fst = request.jobs ∧ ordered.Perm grants := by
    obtain ⟨ordered, hfst, hperm⟩ := perm_comp_forall₂ hjobs.symm (forall₂_map_left_iff.mpr
      (forall₂_same.mpr fun grant _ => rfl) : Forall₂ (fun job grant => grant.1 = job) _ grants)
    have heq : Forall₂ (· = ·) (ordered.map Prod.fst) request.jobs :=
      forall₂_map_left_iff.mpr hfst.flip
    exact ⟨ordered, forall₂_eq_eq_eq ▸ heq, hperm⟩
  have hgrant := fun grant hmem => hgrants grant (hperm.subset hmem)
  have hwindow := fun grant hmem => windowOf_perm hpositional (hgrant grant hmem)
  have hmem : ∀ grant ∈ ordered, Granted.window grant ∈ grants.map Granted.window :=
    fun grant h => mem_map_of_mem (hperm.subset h)
  have hzip : request.jobs.zip (ordered.map (windowOf request)) =
      ordered.map fun grant => (grant.1, windowOf request grant) := by
    rw [← hfst, zip_map']
  refine ⟨ordered.map (windowOf request), mem_choices.mpr ?_, ?_, ?_⟩
  · have hwindows := mapM_eq_ok.mp hoptions
    rw [← hfst, forall₂_map_left_iff] at hwindows
    have hadmits : ∀ grant ∈ ordered, ∀ slot ∈ grant.2, Admits grant.1 slot :=
      fun grant h slot hslot => hwithin.admits _ (hmem grant h) slot
        ((hgrant grant h).slots.subset hslot) (mem_map_of_mem hslot)
    refine forall₂_map_left_iff.mpr (((forall₂_and_left _ _).mpr
      ⟨fun grant h => And.intro (hgrant grant h) (hadmits grant h), hwindows⟩).imp ?_)
    exact fun grant windows h => windowOf_mem hpositional h.1.1 h.1.2 h.2
  · rintro slot hslot ⟨_, hin, hi⟩
    obtain ⟨grant, h, rfl⟩ := mem_map.mp hin
    refine le_of_eq_of_le ?_ (hwithin.gpus slot hslot
      ⟨_, hmem grant h, (hwindow grant h).subset hi⟩)
    -- the windows have the same members
    have hsame : ordered.filter (fun grant => decide (slot.index ∈ windowOf request grant)) =
        ordered.filter fun grant => decide (slot.index ∈ (Granted.window grant).2) :=
      filter_congr fun grant h => decide_eq_decide.mpr (hwindow grant h).mem_iff
    simp only [hzip, placedGpus, List.filter_map, map_map, Function.comp_def, hsame]
    exact ((hperm.filter _).map _).sum_eq
  · rw [totalCost, hzip, map_map]
    refine (congrArg List.sum (map_congr_left fun grant h => ?_)).trans ((hperm.map _).sum_eq)
    exact priceOf_windowOf hpositional (hgrant grant h)

end

/-- **Main result.** Where a baseline places every job, an optimization that has
not run out of time returns a plan, and one that costs no more. -/
theorem optimize_le_baseline (contentHash : ScheduleInput → String) (request : ScheduleInput)
    (clock : Nat → ℚ) (timeoutSeconds : ℚ) (hrequest : WellPosed request) (baseline : Baseline)
    (plan : SchedulePlan) (hplan : baseline.schedule contentHash request = .ok plan)
    (hall : plan.unscheduled = []) (result : OptimizationResult)
    (h : optimize contentHash request clock timeoutSeconds = .ok result)
    (htimeout : result.status ≠ .timeout) (hfeasibleTimeout : result.status ≠ .feasibleTimeout) :
    ∃ best, result.status = .optimal ∧ result.plan = some best ∧
      best.estimatedCost ≤ plan.estimatedCost := by
  rw [baseline.schedule_eq] at hplan
  obtain ⟨jobs, hjobs, hplan⟩ := bind_eq_ok.mp hplan
  obtain ⟨turns, hturns, rfl, rfl⟩ := turns_of_schedule hplan
  have hgranted : ((granted turns).map Prod.fst).Perm request.jobs := by
    have hleft : leftBy turns = [] := map_eq_nil_iff.mp hall
    have hsplit := granted_perm turns
    rw [hleft, append_nil] at hsplit
    exact hsplit.trans (Baseline.order_perm hjobs)
  have hwithin := (hturns.fits hrequest.positional.nodup).within
  rw [placedBy_eq_granted] at hwithin
  obtain ⟨options, hoptions, hcases⟩ :=
    optimize_cases contentHash clock timeoutSeconds hrequest h htimeout hfeasibleTimeout
  obtain ⟨assignment, hchoice, hfeasible, hcost⟩ := exists_assignment hrequest.positional hoptions
    hgranted (fun _ => hturns.grant) hwithin
  rcases hcases with ⟨-, -, hnone⟩ | ⟨best, returned, hstatus, hreturned, -, hbest, -, hleast⟩
  · exact absurd hfeasible (hnone assignment hchoice)
  refine ⟨returned, hstatus, hreturned, ?_⟩
  have hle : totalCost request best ≤ totalCost request assignment :=
    le_of_mem_argmin (mem_filter.mpr ⟨hchoice, decide_eq_true hfeasible⟩) hbest
  rw [hcost, ← sumBy_eq_granted] at hle
  exact hleast.trans_le hle

theorem optimize_le_baseline_twoSlotInput :
    ∃ plan result best, Baseline.fifo.schedule (fun _ => "hash") twoSlotInput = .ok plan ∧
      optimize (fun _ => "hash") twoSlotInput (fun _ => 0) 10 = .ok result ∧
      result.plan = some best ∧ best.estimatedCost ≤ plan.estimatedCost := by
  have hrequest : WellPosed twoSlotInput :=
    ⟨by decide, twoSlotInput_positional, by decide, by decide +kernel⟩
  have hfifo : SchedulePlan.unscheduled <$> Baseline.fifo.schedule (fun _ => "hash")
      twoSlotInput = .ok [] := by decide +kernel
  obtain ⟨plan, hplan, hall⟩ := map_eq_ok.mp hfifo
  obtain ⟨result, h⟩ := optimize_ok (fun _ => "hash") (fun _ => 0) 10 hrequest.ids
    hrequest.duration hrequest.positional (by decide +kernel) (by decide)
  obtain ⟨htimeout, hfeasibleTimeout⟩ := optimize_completes (fun n => by simp [expired]) h
  obtain ⟨best, -, hbest, hle⟩ := optimize_le_baseline (fun _ => "hash") twoSlotInput
    (fun _ => 0) 10 hrequest .fifo plan hplan hall result h htimeout hfeasibleTimeout
  exact ⟨plan, result, best, hplan, h, hbest, hle⟩

end ComputeWeaver.Optimization
